import HomeSecurityBox.UnlockedPop

/-!
The events that a client reads on its socket. Every event that a thread raises goes to a
connected client once, the events of one thread in the order in which it raised them, as long
as no push falls into a pop. None is stuck in the queue: where it is not empty the handler is
in the loop of `_process_notify` or a datagram waits for it.
-/

namespace HomeSecurityBox.ClientEvents

open ByteMemory DeviceData DevAct ClientPool Notify OneReply PadDialogue EventFanout WrittenFrames
  UnlockedPop Transitions

/-- The event that the client reads out of a write, if it goes to its socket and is one. -/
def eventIn (client : Reply) (w : Written) : Option HsbEvt :=
  let (sock, bytes) := match w with
    | .direct sock _ bytes | .queued sock _ bytes => (sock, bytes)
  if sock = client.conn then
    match messageIn bytes with
    | some (.event event) => some event
    | _ => none
  else none

def eventsRead (client : Reply) (log : List Written) : List HsbEvt :=
  log.filterMap (eventIn client)

theorem eventIn_direct {client : Reply} {sock origin : ℕ} {bytes : List UInt8}
    (h : Framed (.direct sock origin bytes)) :
    eventIn client (.direct sock origin bytes) = none := by
  obtain ⟨message, hreply, hread⟩ := h
  simp only [eventIn, hread.messageIn]
  cases message with
  | event event => contradiction
  | _ => exact ite_self _

theorem eventIn_queued (client : Reply) {sock : ℕ} {resp : HsbResp Reply} {bytes : List UInt8}
    (h : Framed (.queued sock resp bytes)) :
    eventIn client (.queued sock resp bytes) =
      if sock = client.conn then eventOf resp else none := by
  have hread : messageIn bytes = some (respMessage resp) := ReadAs.messageIn h
  obtain ⟨body, reply⟩ := resp
  simp only [eventIn, hread]
  cases body <;> rfl

/-- A round of another context, or one that writes nothing, is no news for the client. -/
theorem poolWrites_drain (k : Slot) (s : PoolState) (j : Slot) (wrote : Bool) :
    poolWrites k s (.drain j wrote) =
      if j = k ∧ wrote = true then eventsOf ((s.context j).queue.take 1) else [] := by
  rw [poolWrites]
  by_cases hj : j = k
  · rw [hj]
  · rw [if_neg (fun hboth => hj hboth.1), if_neg (fun hboth => hj hboth.1)]

/-- The client reads what its own handler has taken out of the queue. -/
theorem logged_events {client : Reply} {s s' : PoolState} {a : Step} (hinv : PoolInv s)
    (hconnected : Connected client s) (hroom : Roomy s a) (h : step s a = some s') :
    (logged s a).filterMap (eventIn client) = poolWrites client.slot s a := by
  have hframed := logged_framed hroom
  cases a with
  | request k buf len =>
    apply List.filterMap_eq_nil_iff.mpr
    intro w hw
    have hw' := hframed w hw
    obtain ⟨bytes, -, rfl⟩ := List.mem_map.mp hw
    exact eventIn_direct hw'
  | drain j wrote =>
    rw [poolWrites_drain]
    obtain ⟨huse, -, hround⟩ := drain_cases h
    have hsock := sock_eq_iff hinv hconnected huse
    cases wrote with
    | false => simp [logged]
    | true =>
      rcases hround with ⟨hqueue, -⟩ | ⟨resp, rest, frame, hqueue, hframe, -⟩
      · simp only [logged, hqueue, List.filterMap_nil]
        exact (ite_self _).symm
      · have hlogged : logged s (.drain j true) =
            [.queued (s.context j).tcpSockfd resp frame.bytes] := by
          simp only [logged, hqueue, hframe]
          rfl
        rw [hlogged] at hframed ⊢
        have hevent := eventIn_queued client (hframed _ List.mem_cons_self)
        simp only [List.filterMap_cons, hevent, List.filterMap_nil, hqueue,
          List.take_succ_cons, List.take_zero, and_true, eventsOf]
        by_cases hj : j = client.slot
        · rw [if_pos (hsock.mpr hj), if_pos hj]
        · rw [if_neg (fun hsame => hj (hsock.mp hsame)), if_neg hj]
  | connect | disconnect _ | takeAct | finishAct _ | notifyCheck | notifyPush | wake _
  | event _ _ | box _ _ => rfl

variable {T : Type} [DecidableEq T]

omit [DecidableEq T] in
theorem served_of_calm {client : Reply} {s : PopState T} {b : FanStep T}
    (hs : Attached client s) (hcalm : Calm client s (.fan b)) : Served client.slot s.fan b := by
  refine ⟨hs.connected.1, ?_⟩
  rcases b with b | _ | _ | _
  · cases b with
    | drain j wrote =>
      have hstays := hcalm.2 (.drain j wrote) rfl
      simp only [failedWrite, Bool.and_eq_false_iff, Bool.not_eq_eq_eq_not, Bool.not_false,
        decide_eq_false_iff_not]
      by_cases hj : j = client.slot
      · exact Or.inr (hstays hj)
      · exact Or.inl hj
    | _ => rfl
  · rfl
  · rfl
  · rfl

/-- What flows between the threads and one context flows so with the pop in steps of its own. -/
theorem flows_onFan {ι : Type} {client : Reply} {held : FanState T → List ι}
    {taken added : FanState T → FanStep T → List ι}
    (hflow : Flows fanStep (Served client.slot) (fun _ => True) held taken added) :
    Flows popStep (Calm client) (Attached client) (fun s => held s.fan) (onFan taken)
      (onFan added) := by
  intro s a s' hs hcalm h
  rcases popStep_fan hcalm.1.1 h with ⟨hsame, k, rfl | rfl⟩ | ⟨b, rfl, hfan⟩
  · simp only [onFan, hsame, List.nil_append, List.append_nil]
  · simp only [onFan, hsame, List.nil_append, List.append_nil]
  · exact hflow s.fan b s'.fan trivial (served_of_calm hs hcalm) hfan

/-- The events that a step writes to the client are those that it reads. -/
theorem read_writes {client : Reply} {s s' : PopState T} {a : PopStep T}
    (hs : Attached client s) (hcalm : Calm client s a) (h : popStep s a = some s') :
    eventsRead client s'.fan.pool.log =
      eventsRead client s.fan.pool.log ++ onFan (writes client.slot) s a := by
  have hquiet : s'.fan.pool.log = s.fan.pool.log → eventsRead client s'.fan.pool.log =
      eventsRead client s.fan.pool.log ++ [] := by
    intro hlog
    rw [hlog, List.append_nil]
  rcases popStep_fan hcalm.1.1 h with ⟨hsame, k, rfl | rfl⟩ | ⟨b, rfl, hfan⟩
  · exact hquiet (by rw [hsame])
  · exact hquiet (by rw [hsame])
  · rcases fanStep_cases hfan with ⟨b, pool, rfl, -, hstep, hs'⟩ | ⟨t, event, rfl, -, hs'⟩ |
      ⟨t, event, cnt, rfl, -, hs'⟩ | ⟨t, event, k, rfl, -, hs'⟩
    · have hevents := logged_events hs.orderly.pool hs.connected hcalm.1.2 hstep
      rw [hs', eventsRead, step_log hstep, List.filterMap_append, hevents]
      rfl
    · exact hquiet (by rw [hs']; rfl)
    · exact hquiet (by rw [hs']; rfl)
    · exact hquiet (by rw [hs']; rfl)

/-- What the client has read and what is in its queue grows by the pushes. -/
theorem read_flow (client : Reply) :
    Flows popStep (Calm client) (Attached (T := T) client)
      (fun s => eventsRead client s.fan.pool.log ++ queued s.fan client.slot) (fun _ _ => [])
      (onFan fun s a => (pushes client.slot s a).map Prod.snd) := by
  intro s a s' hs hcalm h
  have hqueue := flows_onFan (client_flow client.slot) s a s' hs hcalm h
  simp only [read_writes hs hcalm h, List.nil_append, List.append_assoc] at hqueue ⊢
  rw [hqueue]

/-- What a client gets over a run in which it stays connected, its writes succeed and no push
falls into a pop: of every source the events that it raised, each once and in its order, up to
those still on their way; and on its socket what was pushed, in the order of the pushes. -/
theorem run_reads (client : Reply) (steps : List (PopStep T)) (s t : PopState T)
    (hs : Attached client s) (hcalm : Guarded popStep (Calm client) s steps)
    (hrun : run popStep s steps = some t) :
    (∀ source, (collect popStep (onFan (pushes client.slot)) s steps).filterMap (bySource source) ++
        due t.fan client.slot source =
      due s.fan client.slot source ++ collect popStep (onFan (raises source)) s steps) ∧
      eventsRead client t.fan.pool.log ++ queued t.fan client.slot =
        eventsRead client s.fan.pool.log ++ queued s.fan client.slot ++
          (collect popStep (onFan (pushes client.slot)) s steps).map Prod.snd := by
  have hview : ∀ (f : Option T × HsbEvt → Option HsbEvt),
      (collect popStep (onFan (pushes client.slot)) s steps).filterMap f =
        collect popStep (onFan fun s a => (pushes client.slot s a).filterMap f) s steps := by
    intro f
    rw [collect_filterMap]
    congr 1
    funext s a
    cases a <;> rfl
  refine ⟨?_, ?_⟩
  · intro source
    rw [hview]
    exact run_flows (attached_preserves client) (flows_onFan (source_flow client.slot source))
      steps s t hs hcalm hrun
  · have hread := run_flows (attached_preserves client) (read_flow client) steps s t hs hcalm hrun
    rw [collect_eq_nil fun _ _ _ => rfl, List.nil_append] at hread
    rw [hread, ← List.filterMap_eq_map, hview]

def sirenOn : HsbEvt := { devid := 1, id := 0, param1 := 1, param2 := 1 }

def doorOpen : HsbEvt := { devid := 2, id := 2, param1 := 0, param2 := 0 }

theorem second_lt : 1 < maxTcpClientNum := by decide

def secondClient : Slot := ⟨1, second_lt⟩

def bothConnect : List (PopStep Bool) := [.fan (.pool .connect), .fan (.pool .connect)]

def bothConnected : PopState Bool :=
  { fan := { pool := connect (connect {}), thread := fun _ => .idle } }

/-- Two threads raise one event each; the second passes the first between two contexts. -/
def overtaking : List (PopStep Bool) :=
  [.fan (.raise false sirenOn), .fan (.raise true doorOpen), .fan (.test false)] ++
    [.fan (.push false), .fan (.test true), .fan (.push true), .fan (.test true)] ++
    [.fan (.push true), .fan (.test false), .fan (.push false)]

def readBoth (k : Slot) : List (PopStep Bool) :=
  .fan (.pool (.wake k)) ::
    [.enter k, .leave k, .fan (.pool (.drain k true)), .enter k, .leave k] ++
    [.fan (.pool (.drain k true))]

/-- The handler of a client will look at its queue, or has nothing to find there. -/
def Heard (k : Slot) (pool : PoolState) : Prop :=
  (pool.context k).inUse = true → (pool.context k).queue ≠ [] →
    0 < (pool.context k).notified ∨ (pool.context k).draining = true

theorem step_heard {k : Slot} {s s' : PoolState} {a : Step} (hs : Heard k s)
    (hopen : (s.context k).inUse = true) (h : step s a = some s') (hwrites : a ≠ .drain k false) :
    Heard k s' := by
  have hcontext := step_context h k
  unfold Heard
  generalize s'.context k = ctx at hcontext
  cases hcontext with
  | kept => exact hs
  | accepted _ hunused =>
    rw [hopen] at hunused
    contradiction
  | closed => exact fun huse => absurd huse Bool.false_ne_true
  | pushed resp =>
    intro _ _
    left
    rw [pushResp, setContext_self]
    simp only [if_pos hopen]
    exact Nat.succ_pos _
  | woken => exact fun _ _ => Or.inr rfl
  | emptied hqueue => exact fun _ hne => absurd hqueue hne
  | written rest hdraining => exact fun _ _ => Or.inr hdraining
  | failed => exact absurd rfl hwrites

theorem heard_preserves (client : Reply) :
    Preserves popStep (Calm client)
      (fun s : PopState T => Attached client s ∧ Heard client.slot s.fan.pool) := by
  intro s a s' hs hcalm h
  refine ⟨attached_preserves client s a s' hs.1 hcalm h, ?_⟩
  rcases popStep_fan hcalm.1.1 h with ⟨hsame, k, -⟩ | ⟨b, rfl, hfan⟩
  · rw [hsame]
    exact hs.2
  · have hserved := served_of_calm hs.1 hcalm
    rcases fanStep_cases hfan with ⟨b, pool, rfl, -, hpool, hs'⟩ | ⟨t, event, rfl, -, hs'⟩ |
      ⟨t, event, cnt, rfl, -, hs'⟩ | ⟨t, event, j, rfl, -, hs'⟩
    · rw [hs']
      exact step_heard hs.2 hserved.1 hpool (ne_drain_of_served hserved)
    · rw [hs']
      exact hs.2
    · rw [hs']
      exact hs.2
    · rw [hs']
      exact step_heard (a := .event j event) hs.2 hserved.1 rfl (by simp)

/-- The steps of one handler: it wakes up, goes into the pop and out of it, and writes. -/
def OwnStep (k : Slot) (a : PopStep T) : Prop :=
  a = .fan (.pool (.wake k)) ∨ a = .enter k ∨ a = .leave k ∨ a = .fan (.pool (.drain k true))

omit [DecidableEq T] in
theorem calm_of_ownStep {client : Reply} {a : PopStep T} (h : OwnStep client.slot a)
    (s : PopState T) : Calm client s a := by
  rcases h with rfl | rfl | rfl | rfl
  · refine ⟨⟨nofun, trivial⟩, ?_⟩
    rintro b ⟨⟩
    trivial
  · exact ⟨⟨trivial, trivial⟩, nofun⟩
  · exact ⟨⟨trivial, trivial⟩, nofun⟩
  · refine ⟨⟨nofun, trivial⟩, ?_⟩
    rintro b ⟨⟩
    exact fun _ => rfl

/-- The handler is in its loop, in front of the test of its queue. -/
structure AtTest (k : Slot) (s : PopState T) (queue : List (HsbResp Reply)) : Prop where
  inUse : (s.fan.pool.context k).inUse = true
  draining : (s.fan.pool.context k).draining = true
  queue : (s.fan.pool.context k).queue = queue
  pop : s.pop k = .outside

/-- Behind the pop the handler writes the response and tests its queue again. -/
theorem drain_popped {k : Slot} {s : PopState T} {resp : HsbResp Reply}
    {rest : List (HsbResp Reply)} (hround : InRound s.fan.pool k)
    (hqueue : (s.fan.pool.context k).queue = resp :: rest) (hpop : s.pop k = .popped)
    (hframe : makeNotifyResp resp ≠ none) :
    ∃ s', popStep s (.fan (.pool (.drain k true))) = some s' ∧ AtTest k s' rest := by
  obtain ⟨frame, hframe⟩ := Option.ne_none_iff_exists'.mp hframe
  obtain ⟨pool, hpool, hcontext⟩ : ∃ pool, step s.fan.pool (.drain k true) = some pool ∧
      pool.context k = { s.fan.pool.context k with queue := rest } := by
    simp only [step, drain, hround.inUse, hround.draining, and_self, if_true, hqueue, hframe,
      Option.map_some, Option.some.injEq, exists_eq_left', PoolState.setContext,
      Function.update_self]
  have hready : (∀ j ∈ target s.fan (.pool (.drain k true)), s.pop j ≠ .inside) ∧
      ∀ j ∈ drained (T := T) (.pool (.drain k true)), AtRound s j := by
    refine ⟨fun j hj => absurd hj (Option.not_mem_none j), ?_⟩
    intro j hj
    cases Option.some.inj hj
    rw [AtRound, hpop, hqueue]
    rfl
  have hstep : popStep s (.fan (.pool (.drain k true))) =
      some { fan := { s.fan with pool := pool }, pop := Function.update s.pop k .outside } := by
    simp only [popStep, if_pos hready, fanStep, hpool, Option.map_some]
    rfl
  refine ⟨_, hstep, ?_, ?_, ?_, Function.update_self _ _ _⟩
  · simp only [hcontext, hround.inUse]
  · simp only [hcontext, hround.draining]
  · simp only [hcontext]

/-- In its loop a handler writes the whole queue. -/
theorem loop_empties {k : Slot} (queue : List (HsbResp Reply)) (s : PopState T)
    (hs : AtTest k s queue) (hframes : ∀ resp ∈ queue, makeNotifyResp resp ≠ none) :
    ∃ own t, (∀ a ∈ own, OwnStep k a) ∧ run popStep s own = some t ∧
      (t.fan.pool.context k).queue = [] := by
  induction queue generalizing s with
  | nil => exact ⟨[], s, nofun, rfl, hs.queue⟩
  | cons resp rest ih =>
    obtain ⟨s', hdrain, hs'⟩ : ∃ s',
        popStep ((s.setPop k .inside).setPop k .popped) (.fan (.pool (.drain k true))) = some s' ∧
          AtTest k s' rest :=
      drain_popped ⟨hs.inUse, hs.draining, by simp only [PopState.setPop, hs.queue]; rfl⟩ hs.queue
        (Function.update_self _ _ _) (hframes resp List.mem_cons_self)
    obtain ⟨own, t, hown, hrun, hempty⟩ :=
      ih s' hs' fun later hlater => hframes later (List.mem_cons_of_mem resp hlater)
    have henter : popStep s (.enter k) = some (s.setPop k .inside) := by
      simp only [popStep, hs.inUse, hs.draining, hs.queue, hs.pop, List.isEmpty_cons, and_self,
        if_true]
    have hleave : popStep (s.setPop k .inside) (.leave k) =
        some ((s.setPop k .inside).setPop k .popped) := if_pos (Function.update_self _ _ _)
    refine ⟨.enter k :: .leave k :: .fan (.pool (.drain k true)) :: own, t, ?_, ?_, hempty⟩
    · simp only [List.forall_mem_cons]
      exact ⟨Or.inr (Or.inl rfl), Or.inr (Or.inr (Or.inl rfl)), Or.inr (Or.inr (Or.inr rfl)), hown⟩
    · simp only [run, henter, hleave, hdrain, Option.bind_some]
      exact hrun

/-- Wherever it is in the pop, the handler goes on to the end of its round. -/
theorem popped_empties {k : Slot} (s : PopState T) (hround : InRound s.fan.pool k)
    (hpop : s.pop k = .popped)
    (hframes : ∀ resp ∈ (s.fan.pool.context k).queue, makeNotifyResp resp ≠ none) :
    ∃ own t, (∀ a ∈ own, OwnStep k a) ∧ run popStep s own = some t ∧
      (t.fan.pool.context k).queue = [] := by
  cases hqueue : (s.fan.pool.context k).queue with
  | nil => exact ⟨[], s, nofun, rfl, hqueue⟩
  | cons resp rest =>
    rw [hqueue] at hframes
    obtain ⟨s', hdrain, hs'⟩ := drain_popped hround hqueue hpop (hframes resp List.mem_cons_self)
    obtain ⟨own, t, hown, hrun, hempty⟩ :=
      loop_empties rest s' hs' fun later hlater => hframes later (List.mem_cons_of_mem resp hlater)
    refine ⟨.fan (.pool (.drain k true)) :: own, t, ?_, ?_, hempty⟩
    · exact List.forall_mem_cons.mpr ⟨Or.inr (Or.inr (Or.inr rfl)), hown⟩
    · simp only [run, hdrain, Option.bind_some]
      exact hrun

/-- A handler that will look at its queue can empty it. -/
theorem handler_empties {k : Slot} (s : PopState T) (hs : Orderly s) (hheard : Heard k s.fan.pool)
    (hopen : (s.fan.pool.context k).inUse = true)
    (hframes : ∀ resp ∈ (s.fan.pool.context k).queue, makeNotifyResp resp ≠ none) :
    ∃ own t, (∀ a ∈ own, OwnStep k a) ∧ run popStep s own = some t ∧
      (t.fan.pool.context k).queue = [] := by
  by_cases hqueue : (s.fan.pool.context k).queue = []
  · exact ⟨[], s, nofun, rfl, hqueue⟩
  · cases hpop : s.pop k with
    | popped => exact popped_empties s (hs.pops k (by rw [hpop]; decide)) hpop hframes
    | inside =>
      obtain ⟨own, t, hown, hrun, hempty⟩ := popped_empties (s.setPop k .popped)
        (hs.pops k (by rw [hpop]; decide)) (Function.update_self _ _ _) hframes
      have hleave : popStep s (.leave k) = some (s.setPop k .popped) := if_pos hpop
      refine ⟨.leave k :: own, t, ?_, ?_, hempty⟩
      · exact List.forall_mem_cons.mpr ⟨Or.inr (Or.inr (Or.inl rfl)), hown⟩
      · simp only [run, hleave, Option.bind_some]
        exact hrun
    | outside =>
      by_cases hdraining : (s.fan.pool.context k).draining = true
      · exact loop_empties _ s ⟨hopen, hdraining, rfl, hpop⟩ hframes
      · have hnotified : 0 < (s.fan.pool.context k).notified :=
          (hheard hopen hqueue).resolve_right hdraining
        obtain ⟨pool, hpool, hcontext⟩ : ∃ pool, step s.fan.pool (.wake k) = some pool ∧
            pool.context k =
              { s.fan.pool.context k with
                notified := (s.fan.pool.context k).notified - 1, draining := true } := by
          simp only [step, wake, hopen, Bool.eq_false_iff.mpr hdraining, hnotified, and_self,
            if_true, Option.some.injEq, exists_eq_left', PoolState.setContext,
            Function.update_self]
        have hwake : popStep s (.fan (.pool (.wake k))) =
            some { s with fan := { s.fan with pool := pool } } := by
          have hready : (∀ j ∈ target s.fan (.pool (.wake k)), s.pop j ≠ .inside) ∧
              ∀ j ∈ drained (T := T) (.pool (.wake k)), AtRound s j :=
            ⟨fun j hj => absurd hj (Option.not_mem_none j),
              fun j hj => absurd hj (Option.not_mem_none j)⟩
          simp only [popStep, if_pos hready, fanStep, hpool, Option.map_some]
          rfl
        obtain ⟨own, t, hown, hrun, hempty⟩ :=
          loop_empties (s.fan.pool.context k).queue { s with fan := { s.fan with pool := pool } }
            ⟨by simp only [hcontext, hopen], by simp only [hcontext], by simp only [hcontext],
              hpop⟩ hframes
        refine ⟨.fan (.pool (.wake k)) :: own, t, ?_, ?_, hempty⟩
        · exact List.forall_mem_cons.mpr ⟨Or.inl rfl, hown⟩
        · simp only [run, hwake, Option.bind_some]
          exact hrun

theorem own_pushes_nothing {k : Slot} (own : List (PopStep T)) (s : PopState T)
    (h : ∀ a ∈ own, OwnStep k a) : collect popStep (onFan (pushes k)) s own = [] := by
  apply collect_eq_nil
  intro a ha s
  rcases h a ha with rfl | rfl | rfl | rfl <;> rfl

/-- Both threads have passed the first client, and its handler has not run yet. -/
def bothPushed : List (PopStep Bool) :=
  [.fan (.raise false sirenOn), .fan (.raise true doorOpen), .fan (.test false)] ++
    [.fan (.push false), .fan (.test true), .fan (.push true)]

end HomeSecurityBox.ClientEvents
