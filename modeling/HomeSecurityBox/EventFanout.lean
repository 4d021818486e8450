import Mathlib.Data.List.Infix
import HomeSecurityBox.Base.Flow
import HomeSecurityBox.ClientPool

/-!
Events on their way to the clients. The threads of the drivers, the timer thread and
the worker each go through the contexts by themselves, with nothing but the lock of a
queue between them. Whatever way they interleave, each pushes to a client that stays
connected what it has raised, once and in its order, and the queue keeps the order of the
pushes.
-/

namespace HomeSecurityBox.EventFanout

open DeviceData DevAct ClientPool Transitions

/-- A thread in `notify_resp` with an event: in front of the test of a context, or
behind it and in front of the push. -/
inductive Notifier
  | idle
  | scanning (event : HsbEvt) (cnt : ℕ)
  | holding (event : HsbEvt) (k : Slot)
  deriving DecidableEq, Repr

structure FanState (T : Type) where
  pool : PoolState
  thread : T → Notifier

/-- The threads beside those of the pool raise events, test a context and push. -/
inductive FanStep (T : Type)
  | pool (step : Step)
  | raise (t : T) (event : HsbEvt)
  | test (t : T)
  | push (t : T)

variable {T : Type} [DecidableEq T]

def FanState.setThread (s : FanState T) (t : T) (n : Notifier) : FanState T :=
  { s with thread := Function.update s.thread t n }

/-- The test of `notify_resp`; an event is for every context in use. -/
def scanTest (pool : PoolState) (event : HsbEvt) (cnt : ℕ) : Notifier :=
  if h : cnt < maxTcpClientNum then
    if (pool.context ⟨cnt, h⟩).inUse then .holding event ⟨cnt, h⟩ else .scanning event (cnt + 1)
  else .idle

def fanStep (s : FanState T) : FanStep T → Option (FanState T)
  | .pool (.event _ _) => none
  | .pool a => (step s.pool a).map fun pool => { s with pool := pool }
  | .raise t event =>
      match s.thread t with
      | .idle => some (s.setThread t (.scanning event 0))
      | _ => none
  | .test t =>
      match s.thread t with
      | .scanning event cnt => some (s.setThread t (scanTest s.pool event cnt))
      | _ => none
  | .push t =>
      match s.thread t with
      | .holding event k =>
          some
            { s.setThread t (.scanning event (k.val + 1)) with
              pool := pushResp s.pool k ⟨.event event, none⟩ }
      | _ => none

def eventOf (resp : HsbResp Reply) : Option HsbEvt :=
  match resp.body with
  | .event event => some event
  | _ => none

def eventsOf (resps : List (HsbResp Reply)) : List HsbEvt := resps.filterMap eventOf

def Notifier.due (k : Slot) : Notifier → List HsbEvt
  | .idle => []
  | .scanning event cnt => if cnt ≤ k.val then [event] else []
  | .holding event j => if j.val ≤ k.val then [event] else []

def workerDue (k : Slot) : Worker → List HsbEvt
  | .notifying (resp :: rest) cnt => eventsOf ((if cnt ≤ k.val then [resp] else []) ++ rest)
  | .pushing resp rest j _ => eventsOf ((if j.val ≤ k.val then [resp] else []) ++ rest)
  | _ => []

/-- The source of an event is a thread, or `none` for the worker. -/
def due (s : FanState T) (k : Slot) : Option T → List HsbEvt
  | none => workerDue k s.pool.worker
  | some t => (s.thread t).due k

def queued (s : FanState T) (k : Slot) : List HsbEvt := eventsOf (s.pool.context k).queue

def workerRaises (s : PoolState) : Step → List HsbEvt
  | .finishAct drivers =>
      match s.worker with
      | .busy act =>
          ((processDevAct s.cb drivers act).map fun done => eventsOf done.notices).getD []
      | _ => []
  | _ => []

def raises (source : Option T) (s : FanState T) : FanStep T → List HsbEvt
  | .raise t event => if source = some t then [event] else []
  | .pool a => if source = none then workerRaises s.pool a else []
  | _ => []

def workerPushes (k : Slot) (s : PoolState) : Step → List HsbEvt
  | .notifyPush =>
      match s.worker with
      | .pushing resp _ j _ => if j = k then eventsOf [resp] else []
      | _ => []
  | _ => []

/-- What joins the queue of a context, with its source. -/
def pushes (k : Slot) (s : FanState T) : FanStep T → List (Option T × HsbEvt)
  | .push t =>
      match s.thread t with
      | .holding event j => if j = k then [(some t, event)] else []
      | _ => []
  | .pool a => (workerPushes k s.pool a).map fun event => (none, event)
  | _ => []

def bySource (source : Option T) (pushed : Option T × HsbEvt) : Option HsbEvt :=
  if pushed.1 = source then some pushed.2 else none

/-- The events that the handler of a context writes. -/
def poolWrites (k : Slot) (s : PoolState) : Step → List HsbEvt
  | .drain j wrote => if j = k ∧ wrote then eventsOf ((s.context k).queue.take 1) else []
  | _ => []

def writes (k : Slot) (s : FanState T) : FanStep T → List HsbEvt
  | .pool a => poolWrites k s.pool a
  | _ => []

def failedWrite (k : Slot) : FanStep T → Bool
  | .pool (.drain j wrote) => decide (j = k) && !wrote
  | _ => false

/-- The client of the context stays connected, and its writes succeed. -/
def Served (k : Slot) (s : FanState T) (a : FanStep T) : Prop :=
  (s.pool.context k).inUse = true ∧ failedWrite k a = false

instance (k : Slot) (s : FanState T) (a : FanStep T) : Decidable (Served k s a) :=
  inferInstanceAs (Decidable ((s.pool.context k).inUse = true ∧ failedWrite k a = false))

omit [DecidableEq T] in
theorem ne_drain_of_served {k : Slot} {s : FanState T} {b : Step} (h : Served k s (.pool b)) :
    b ≠ .drain k false := by
  rintro rfl
  simp [Served, failedWrite] at h

theorem eventsOf_append (front back : List (HsbResp Reply)) :
    eventsOf (front ++ back) = eventsOf front ++ eventsOf back := List.filterMap_append

theorem eventOf_addressedTo {resp : HsbResp Reply} {k : Slot} (h : addressedTo resp k = false) :
    eventOf resp = none := by
  unfold addressedTo at h
  unfold eventOf
  cases hbody : resp.body with
  | event event =>
    rw [hbody] at h
    contradiction
  | result _ | status _ => rfl

/-- Going past a context leaves what is due to it, unless it was passed over. -/
theorem workerDue_succ {k : Slot} {resp : HsbResp Reply} (rest : List (HsbResp Reply)) {cnt : ℕ}
    (h : cnt = k.val → eventOf resp = none) :
    workerDue k (.notifying (resp :: rest) (cnt + 1)) =
      workerDue k (.notifying (resp :: rest) cnt) := by
  simp only [workerDue, eventsOf_append]
  rcases Nat.lt_trichotomy cnt k.val with hlt | heq | hgt
  · rw [if_pos (by omega), if_pos (by omega)]
  · rw [if_neg (by omega), if_pos (by omega)]
    simp only [eventsOf, List.filterMap_nil, List.filterMap_cons, h heq]
  · rw [if_neg (by omega), if_neg (by omega)]

theorem workerDue_notifying (k : Slot) (notices : List (HsbResp Reply)) :
    workerDue k (.notifying notices 0) = eventsOf notices := by
  cases notices with
  | nil => rfl
  | cons resp rest => rw [workerDue, if_pos (Nat.zero_le _), List.singleton_append]

/-- The worker pushes what it has raised, in order. -/
theorem worker_flow {k : Slot} {s s' : PoolState} {a : Step}
    (hopen : a = .notifyCheck → (s.context k).inUse = true) (h : step s a = some s') :
    workerPushes k s a ++ workerDue k s'.worker = workerDue k s.worker ++ workerRaises s a := by
  have hsame : ∀ {s' : PoolState}, s'.worker = s.worker →
      [] ++ workerDue k s'.worker = workerDue k s.worker ++ [] := by
    intro s' hworker
    rw [hworker, List.nil_append, List.append_nil]
  cases a with
  | connect =>
    cases Option.some.inj h
    apply hsame
    unfold connect
    cases s.freeContext <;> rfl
  | request j buf len =>
    obtain ⟨-, -, rfl⟩ := request_eq_some h
    exact hsame rfl
  | disconnect j =>
    obtain ⟨-, -, rfl⟩ := disconnect_eq_some h
    exact hsame rfl
  | takeAct =>
    obtain ⟨act, rest, hworker, -, rfl⟩ := takeAct_eq_some h
    simp only [workerPushes, workerRaises, hworker, workerDue, List.append_nil]
  | finishAct drivers =>
    obtain ⟨act, done, hworker, hdone, rfl⟩ := finishAct_eq_some h
    simp only [workerPushes, workerRaises, hworker, hdone, workerDue_notifying, Option.map_some,
      Option.getD_some]
    rfl
  | notifyCheck =>
    rcases notifyCheck_cases h with ⟨cnt, hworker, rfl⟩ | ⟨resp, rest, cnt, hworker, hnext⟩
    · simp only [workerPushes, workerRaises, hworker, workerDue, List.append_nil]
    · simp only [workerPushes, workerRaises, List.nil_append, List.append_nil, hworker]
      rcases hnext with ⟨j, hmatched, rfl, rfl⟩ | ⟨j, rfl, hunmatched, rfl⟩ | ⟨hend, rfl⟩
      · rfl
      · apply workerDue_succ
        intro hj
        have hjk : j = k := Fin.ext hj
        exact eventOf_addressedTo (hunmatched (hjk ▸ hopen rfl))
      · have hpast : ¬cnt ≤ k.val := by
          have := k.isLt
          omega
        rw [workerDue_notifying, workerDue, if_neg hpast, List.nil_append]
  | notifyPush =>
    obtain ⟨resp, rest, j, hmatched, hworker, rfl⟩ := notifyPush_eq_some h
    simp only [workerPushes, workerRaises, hworker, workerDue, List.append_nil, eventsOf_append]
    rw [← List.append_assoc]
    congr 1
    rcases Nat.lt_trichotomy j.val k.val with hlt | heq | hgt
    · rw [if_neg (by rintro rfl; omega), if_pos (by omega), if_pos (by omega)]
      rfl
    · rw [if_pos (Fin.ext heq), if_neg (by omega), if_pos (by omega)]
      exact List.append_nil _
    · rw [if_neg (by rintro rfl; omega), if_neg (by omega), if_neg (by omega)]
      rfl
  | wake j =>
    obtain ⟨-, -, -, rfl⟩ := wake_eq_some h
    exact hsame rfl
  | drain j wrote =>
    obtain ⟨-, -, ⟨-, rfl⟩ | ⟨resp, rest, frame, -, -, rfl⟩⟩ := drain_cases h
    · exact hsame rfl
    · cases wrote <;> exact hsame rfl
  | event j event =>
    cases Option.some.inj h
    exact hsame rfl
  | box cb acts =>
    cases Option.some.inj h
    exact hsame rfl

theorem queue_setContext (s : PoolState) (j k : Slot) (ctx : TcpClientContext)
    (h : ctx.queue = (s.context j).queue) :
    ((s.setContext j ctx).context k).queue = (s.context k).queue := by
  by_cases hk : k = j
  · subst hk
    simp only [PoolState.setContext, Function.update_self, h]
  · simp only [PoolState.setContext, Function.update_of_ne hk]

theorem queue_pushResp (s : PoolState) (j k : Slot) (resp : HsbResp Reply) :
    ((pushResp s j resp).context k).queue =
      (s.context k).queue ++ if j = k then [resp] else [] := by
  by_cases hk : k = j
  · subst hk
    simp only [pushResp, PoolState.setContext, Function.update_self, if_true]
  · simp only [pushResp, PoolState.setContext, Function.update_of_ne hk, if_neg (Ne.symm hk),
      List.append_nil]

/-- Only pushes and writes change the events in a queue. -/
theorem queue_flow {k : Slot} {s s' : PoolState} {a : Step} (h : step s a = some s')
    (hevent : ∀ j event, a ≠ .event j event) (hwrites : a ≠ .drain k false) :
    poolWrites k s a ++ eventsOf (s'.context k).queue =
      eventsOf (s.context k).queue ++ workerPushes k s a := by
  have hsame : ∀ {s' : PoolState}, (s'.context k).queue = (s.context k).queue →
      [] ++ eventsOf (s'.context k).queue = eventsOf (s.context k).queue ++ [] := by
    intro s' hqueue
    rw [hqueue, List.nil_append, List.append_nil]
  cases a with
  | connect =>
    cases Option.some.inj h
    apply hsame
    unfold connect
    cases s.freeContext with
    | none => rfl
    | some j => exact queue_setContext { s with accepted := s.accepted + 1 } j k _ rfl
  | request j buf len =>
    obtain ⟨-, -, rfl⟩ := request_eq_some h
    exact hsame rfl
  | disconnect j =>
    obtain ⟨-, -, rfl⟩ := disconnect_eq_some h
    exact hsame (queue_setContext s j k _ rfl)
  | takeAct =>
    obtain ⟨act, rest, -, -, rfl⟩ := takeAct_eq_some h
    exact hsame rfl
  | finishAct drivers =>
    obtain ⟨act, done, -, -, rfl⟩ := finishAct_eq_some h
    exact hsame rfl
  | notifyCheck =>
    apply hsame
    rcases notifyCheck_cases h with ⟨cnt, -, rfl⟩ | ⟨resp, rest, cnt, -, hnext⟩
    · rfl
    · rcases hnext with ⟨j, hmatched, -, rfl⟩ | ⟨j, -, -, rfl⟩ | ⟨-, rfl⟩ <;> rfl
  | notifyPush =>
    obtain ⟨resp, rest, j, hmatched, hworker, rfl⟩ := notifyPush_eq_some h
    have hqueue := queue_pushResp s j k resp
    simp only [poolWrites, workerPushes, hworker, List.nil_append] at hqueue ⊢
    rw [hqueue, eventsOf_append]
    split <;> rfl
  | wake j =>
    obtain ⟨-, -, -, rfl⟩ := wake_eq_some h
    exact hsame (queue_setContext s j k _ rfl)
  | drain j wrote =>
    obtain ⟨-, -, ⟨hqueue, rfl⟩ | ⟨resp, rest, frame, hqueue, -, rfl⟩⟩ := drain_cases h
    · have hnone : poolWrites k s (.drain j wrote) = [] := by
        simp only [poolWrites]
        split
        · rename_i hjk
          rw [← hjk.1, hqueue]
          rfl
        · rfl
      rw [hnone]
      exact hsame (queue_setContext s j k _ rfl)
    · by_cases hk : j = k
      · subst hk
        cases wrote with
        | false => exact absurd rfl hwrites
        | true =>
          simp only [poolWrites, workerPushes, and_self, if_true, hqueue, List.append_nil,
            PoolState.setContext, Function.update_self, List.take_succ_cons, List.take_zero]
          exact (eventsOf_append [resp] rest).symm
      · have hkept : ((if wrote = true then
            { s.setContext j { s.context j with queue := rest } with
              log := s.log ++ [.queued (s.context j).tcpSockfd resp frame.bytes] }
            else s.setContext j { s.context j with queue := rest, draining := false }).context
              k).queue = (s.context k).queue := by
          cases wrote <;>
            simp only [PoolState.setContext, Function.update_of_ne (Ne.symm hk), if_true,
              Bool.false_eq_true, if_false]
        simp only [poolWrites, hk, false_and, if_false]
        exact hsame hkept
  | event j event => exact absurd rfl (hevent j event)
  | box cb acts =>
    cases Option.some.inj h
    exact hsame rfl

/-- A step of the pool, or of one thread between two states of `notify_resp`. -/
theorem fanStep_cases {s s' : FanState T} {a : FanStep T} (h : fanStep s a = some s') :
    (∃ b pool, a = .pool b ∧ (∀ j event, b ≠ .event j event) ∧ step s.pool b = some pool ∧
      s' = { s with pool := pool }) ∨
    (∃ t event, a = .raise t event ∧ s.thread t = .idle ∧
      s' = s.setThread t (.scanning event 0)) ∨
    (∃ t event cnt, a = .test t ∧ s.thread t = .scanning event cnt ∧
      s' = s.setThread t (scanTest s.pool event cnt)) ∨
    (∃ t event k, a = .push t ∧ s.thread t = .holding event k ∧
      s' = { s.setThread t (.scanning event (k.val + 1)) with
        pool := pushResp s.pool k ⟨.event event, none⟩ }) := by
  cases a with
  | pool b =>
    have hmap : (∀ j event, b ≠ .event j event) ∧
        (step s.pool b).map (fun pool => { s with pool := pool }) = some s' := by
      cases b
      case event j event => contradiction
      all_goals exact ⟨nofun, h⟩
    obtain ⟨pool, hpool, rfl⟩ := Option.map_eq_some_iff.mp hmap.2
    exact Or.inl ⟨b, pool, rfl, hmap.1, hpool, rfl⟩
  | raise t event =>
    simp only [fanStep] at h
    split at h
    · rename_i hidle
      exact Or.inr (Or.inl ⟨t, event, rfl, hidle, (Option.some.inj h).symm⟩)
    · contradiction
  | test t =>
    simp only [fanStep] at h
    split at h
    · rename_i event cnt hscan
      exact Or.inr (Or.inr (Or.inl ⟨t, event, cnt, rfl, hscan, (Option.some.inj h).symm⟩))
    · contradiction
  | push t =>
    simp only [fanStep] at h
    split at h
    · rename_i event k hhold
      exact Or.inr (Or.inr (Or.inr ⟨t, event, k, rfl, hhold, (Option.some.inj h).symm⟩))
    · contradiction

theorem due_setThread (s : FanState T) (t : T) (n : Notifier) (k : Slot) (source : Option T) :
    due (s.setThread t n) k source = if source = some t then n.due k else due s k source := by
  cases source with
  | none => rfl
  | some t' =>
    by_cases ht : t' = t
    · subst ht
      simp only [due, FanState.setThread, Function.update_self, if_true]
    · have hne : some t' ≠ some t := fun h => ht (Option.some.inj h)
      simp only [due, FanState.setThread, Function.update_of_ne ht, if_neg hne]

/-- The test passes an event on to every context in use. -/
theorem scanTest_due {pool : PoolState} {k : Slot} (hopen : (pool.context k).inUse = true)
    (event : HsbEvt) (cnt : ℕ) :
    (scanTest pool event cnt).due k = (Notifier.scanning event cnt).due k := by
  unfold scanTest
  split
  · rename_i hcnt
    split
    · rfl
    · rename_i hunused
      have hne : cnt ≠ k.val := by
        rintro rfl
        exact hunused hopen
      simp only [Notifier.due]
      by_cases hle : cnt ≤ k.val
      · rw [if_pos hle, if_pos (by omega)]
      · rw [if_neg hle, if_neg (by omega)]
  · rename_i hend
    have := k.isLt
    simp only [Notifier.due]
    rw [if_neg (by omega)]

theorem source_flow (k : Slot) (source : Option T) :
    Flows fanStep (Served k) (fun _ => True) (fun s => due s k source)
      (fun s a => (pushes k s a).filterMap (bySource source)) (raises source) := by
  intro s a s' _ hserved h
  dsimp only
  rcases fanStep_cases h with ⟨b, pool, rfl, -, hpool, rfl⟩ | ⟨t, event, rfl, hidle, rfl⟩ |
    ⟨t, event, cnt, rfl, hscan, rfl⟩ | ⟨t, event, j, rfl, hhold, rfl⟩
  · have hflow := worker_flow (fun _ => hserved.1) hpool
    cases source with
    | none =>
      have hall : (pushes k s (.pool b)).filterMap (bySource none) = workerPushes k s.pool b := by
        simp only [pushes, List.filterMap_map]
        exact List.filterMap_some
      rw [hall]
      exact hflow
    | some t =>
      have hnone : (pushes k s (.pool b)).filterMap (bySource (some t)) = [] := by
        simp [pushes, bySource]
      simp only [hnone, raises, reduceCtorEq, if_false, List.nil_append, List.append_nil, due]
  · rw [due_setThread]
    simp only [pushes, raises, List.filterMap_nil, List.nil_append]
    by_cases hsource : source = some t
    · simp only [hsource, if_true, due, hidle, Notifier.due, Nat.zero_le, List.nil_append]
    · simp only [if_neg hsource, List.append_nil]
  · rw [due_setThread]
    simp only [pushes, raises, List.filterMap_nil, List.nil_append, List.append_nil]
    by_cases hsource : source = some t
    · rw [if_pos hsource, scanTest_due hserved.1, hsource, due, hscan]
    · rw [if_neg hsource]
  · have hdue : due { s.setThread t (.scanning event (j.val + 1)) with
        pool := pushResp s.pool j ⟨.event event, none⟩ } k source =
        due (s.setThread t (.scanning event (j.val + 1))) k source := by
      cases source <;> rfl
    rw [hdue, due_setThread]
    simp only [pushes, raises, hhold, List.append_nil]
    by_cases hsource : source = some t
    · simp only [hsource, if_true, due, hhold, Notifier.due]
      rcases Nat.lt_trichotomy j.val k.val with hlt | heq | hgt
      · rw [if_neg (by rintro rfl; omega), if_pos (by omega), if_pos (by omega)]
        rfl
      · rw [if_pos (Fin.ext heq), if_neg (by omega), if_pos (by omega)]
        simp [bySource]
      · rw [if_neg (by rintro rfl; omega), if_neg (by omega), if_neg (by omega)]
        rfl
    · have hother : (if j = k then [(some t, event)] else []).filterMap (bySource source) = [] := by
        split
        · simp [bySource, Ne.symm hsource]
        · rfl
      rw [hother, if_neg hsource, List.nil_append]

/-- Also on the way to a context that is not in use, where a response is passed over. -/
theorem workerDue_suffix {k : Slot} {s s' : PoolState} {a : Step} (h : step s a = some s') :
    workerDue k s'.worker <:+ workerDue k s.worker ++ workerRaises s a := by
  by_cases hcheck : a = .notifyCheck
  · subst hcheck
    have hnone : workerRaises s .notifyCheck = [] := rfl
    rw [hnone, List.append_nil]
    rcases notifyCheck_cases h with ⟨cnt, -, rfl⟩ | ⟨resp, rest, cnt, hworker, hnext⟩
    · exact List.nil_suffix
    · rw [hworker]
      rcases hnext with ⟨j, hmatched, rfl, rfl⟩ | ⟨j, rfl, -, rfl⟩ | ⟨-, rfl⟩
      · exact List.suffix_refl _
      · by_cases hpassed : j.val = k.val
        · simp only [workerDue, eventsOf_append]
          rw [if_neg (by omega)]
          exact List.suffix_append _ _
        · rw [workerDue, workerDue]
          by_cases hbefore : j.val ≤ k.val
          · rw [if_pos hbefore, if_pos (by omega)]
          · rw [if_neg hbefore, if_neg (by omega)]
      · rw [workerDue_notifying, workerDue, eventsOf_append]
        exact List.suffix_append _ _
  · exact ⟨_, worker_flow (fun hsame => absurd hsame hcheck) h⟩

theorem scanTest_suffix (pool : PoolState) (k : Slot) (event : HsbEvt) (cnt : ℕ) :
    (scanTest pool event cnt).due k <:+ (Notifier.scanning event cnt).due k := by
  unfold scanTest
  split
  · rename_i hcnt
    split
    · exact List.suffix_refl _
    · simp only [Notifier.due]
      split <;> split
      · exact List.suffix_refl _
      · omega
      · exact List.nil_suffix
      · exact List.suffix_refl _
  · exact List.nil_suffix

/-- What is on its way to a context is the latest that its source has raised. -/
theorem due_suffix {s s' : FanState T} {a : FanStep T} (k : Slot) (source : Option T)
    (h : fanStep s a = some s') : due s' k source <:+ due s k source ++ raises source s a := by
  rcases fanStep_cases h with ⟨b, pool, rfl, -, hpool, rfl⟩ | ⟨t, event, rfl, hidle, rfl⟩ |
    ⟨t, event, cnt, rfl, hscan, rfl⟩ | ⟨t, event, j, rfl, hhold, rfl⟩
  · cases source with
    | none => exact workerDue_suffix hpool
    | some t =>
      simp only [raises, reduceCtorEq, if_false, List.append_nil]
      exact List.suffix_refl _
  · rw [due_setThread]
    by_cases hsource : source = some t
    · simp only [hsource, raises, if_true, due, hidle, Notifier.due, Nat.zero_le, List.nil_append]
      exact List.suffix_refl _
    · simp only [raises, if_neg hsource, List.append_nil]
      exact List.suffix_refl _
  · rw [due_setThread]
    simp only [raises, List.append_nil]
    by_cases hsource : source = some t
    · rw [if_pos hsource, hsource, due, hscan]
      exact scanTest_suffix s.pool k event cnt
    · rw [if_neg hsource]
  · have hdue : due { s.setThread t (.scanning event (j.val + 1)) with
        pool := pushResp s.pool j ⟨.event event, none⟩ } k source =
        due (s.setThread t (.scanning event (j.val + 1))) k source := by
      cases source <;> rfl
    rw [hdue, due_setThread]
    simp only [raises, List.append_nil]
    by_cases hsource : source = some t
    · rw [if_pos hsource, hsource, due, hhold]
      simp only [Notifier.due]
      by_cases hpassed : j.val + 1 ≤ k.val
      · rw [if_pos hpassed, if_pos (by omega)]
      · rw [if_neg hpassed]
        exact List.nil_suffix
    · rw [if_neg hsource]

theorem client_flow (k : Slot) :
    Flows fanStep (Served (T := T) k) (fun _ => True) (fun s => queued s k) (writes k)
      (fun s a => (pushes k s a).map Prod.snd) := by
  intro s a s' _ hserved h
  dsimp only
  rcases fanStep_cases h with ⟨b, pool, rfl, hevent, hpool, rfl⟩ | ⟨t, event, rfl, -, rfl⟩ |
    ⟨t, event, cnt, rfl, -, rfl⟩ | ⟨t, event, j, rfl, hhold, rfl⟩
  · have hflow := queue_flow hpool hevent (ne_drain_of_served hserved)
    simp only [pushes, List.map_map, Function.comp_def, List.map_id']
    exact hflow
  · simp only [writes, pushes, List.map_nil, List.nil_append, List.append_nil]
    rfl
  · simp only [writes, pushes, List.map_nil, List.nil_append, List.append_nil]
    rfl
  · have hqueue := queue_pushResp s.pool j k ⟨.event event, none⟩
    simp only [writes, pushes, hhold, List.nil_append, queued]
    rw [hqueue, eventsOf_append]
    split <;> rfl

end HomeSecurityBox.EventFanout
