import HomeSecurityBox.ClientPool

/-!
Which connection a response reaches. Every outstanding reply pointer names a
context whose socket is still that of the requesting connection: an invariant of
all steps but one. Taking over a context while something is outstanding for it
breaks the invariant, and the queued responses follow the context.
-/

namespace HomeSecurityBox.ResponseRouting

open ByteMemory Transitions Protocol DeviceData DeviceEvents DevAct Notify TcpPacket ClientPool

/-- A result or status is written to the socket of the connection it answers. -/
def RightSocket : Written → Prop
  | .direct sock origin _ => sock = origin
  | .queued sock resp _ =>
      resp.body.isEvent = false → ∀ reply, resp.reply = some reply → sock = reply.conn

/-- The replies that the worker still has to give. -/
def WorkerOwes : Worker → Reply → Prop
  | .idle, _ => False
  | .busy act, reply => act.reply = some reply
  | .notifying notices _, reply =>
      ∃ resp ∈ notices, resp.body.isEvent = false ∧ resp.reply = some reply
  | .pushing resp rest _ _, reply =>
      ∃ resp' ∈ resp :: rest, resp'.body.isEvent = false ∧ resp'.reply = some reply

/-- A reply for an act in the queue or in the worker's hands. -/
def Owes (s : PoolState) (reply : Reply) : Prop :=
  (∃ act ∈ s.cb.asyncQueue, act.reply = some reply) ∨ WorkerOwes s.worker reply

/-- The context still belongs to the connection of the reply. -/
def Holds (s : PoolState) (reply : Reply) : Prop :=
  (s.context reply.slot).tcpSockfd = reply.conn

/-- A queued result or status answers the connection of its context. -/
def ForContext (s : PoolState) (k : Slot) (resp : HsbResp Reply) : Prop :=
  resp.body.isEvent = false → ∃ reply, resp.reply = some reply ∧ reply.slot = k ∧ Holds s reply

structure Inv (s : PoolState) : Prop where
  owed : ∀ reply, Owes s reply → Holds s reply
  queued : ∀ k, ∀ resp ∈ (s.context k).queue, ForContext s k resp
  log : ∀ w ∈ s.log, RightSocket w

/-- No act and no response of an earlier connection is outstanding for the context. -/
def NothingOutstanding (s : PoolState) (k : Slot) : Prop :=
  (∀ reply, Owes s reply → reply.slot ≠ k) ∧
    ∀ resp ∈ (s.context k).queue, resp.body.isEvent = true

/-- The condition on a step: a new connection gets a context for which nothing is
outstanding. -/
def CleanAccept (s : PoolState) : Step → Prop
  | .connect => ∀ k, s.freeContext = some k → NothingOutstanding s k
  | _ => True

theorem setContext_context (s : PoolState) (k j : Slot) (ctx : TcpClientContext) :
    (s.setContext k ctx).context j = if j = k then ctx else s.context j := by
  unfold PoolState.setContext
  simp only [Function.update_apply]

theorem setContext_tcpSockfd (s : PoolState) (k : Slot) (ctx : TcpClientContext)
    (h : ctx.tcpSockfd = (s.context k).tcpSockfd) (j : Slot) :
    ((s.setContext k ctx).context j).tcpSockfd = (s.context j).tcpSockfd := by
  rw [setContext_context]
  by_cases hj : j = k
  · rw [if_pos hj, h, hj]
  · rw [if_neg hj]

/-- A response in a queue after the context `k` has changed. -/
theorem setContext_queue (s : PoolState) (k : Slot) (ctx : TcpClientContext) (j : Slot)
    (resp : HsbResp Reply) (h : resp ∈ ((s.setContext k ctx).context j).queue) :
    resp ∈ (s.context j).queue ∨ j = k ∧ resp ∈ ctx.queue := by
  rw [setContext_context] at h
  by_cases hj : j = k
  · rw [if_pos hj] at h
    exact Or.inr ⟨hj, h⟩
  · rw [if_neg hj] at h
    exact Or.inl h

/-- The invariant over a step that gives no context to another connection. -/
theorem Inv.of_same_sockets {s s' : PoolState} (hinv : Inv s)
    (hsock : ∀ k, (s'.context k).tcpSockfd = (s.context k).tcpSockfd)
    (howed : ∀ reply, Owes s' reply → Holds s reply)
    (hqueue : ∀ k resp, resp ∈ (s'.context k).queue →
      resp ∈ (s.context k).queue ∨ ForContext s k resp)
    (hlog : ∀ w ∈ s'.log, w ∈ s.log ∨ RightSocket w) : Inv s' := by
  have hholds : ∀ reply, Holds s reply → Holds s' reply := by
    intro reply hreply
    exact (hsock reply.slot).trans hreply
  refine ⟨?_, ?_, ?_⟩
  · intro reply hreply
    exact hholds reply (howed reply hreply)
  · intro k resp hresp hevent
    have hfor : ForContext s k resp := by
      rcases hqueue k resp hresp with hold | hnew
      · exact hinv.queued k resp hold
      · exact hnew
    obtain ⟨reply, hreply, hslot, hheld⟩ := hfor hevent
    exact ⟨reply, hreply, hslot, hholds reply hheld⟩
  · intro w hw
    rcases hlog w hw with hold | hnew
    · exact hinv.log w hold
    · exact hnew

/-- A step of the worker or of the devices, which owes no reply that was not owed. -/
theorem Inv.of_same_contexts {s s' : PoolState} (hinv : Inv s)
    (hcontext : s'.context = s.context) (hlog : s'.log = s.log)
    (howed : ∀ reply, Owes s' reply → Owes s reply) : Inv s' := by
  refine hinv.of_same_sockets ?_ ?_ ?_ ?_
  · intro k
    rw [hcontext]
  · intro reply hreply
    exact hinv.owed reply (howed reply hreply)
  · intro k resp hresp
    rw [hcontext] at hresp
    exact Or.inl hresp
  · intro w hw
    rw [hlog] at hw
    exact Or.inl hw

/-- A context changes but keeps its connection. -/
theorem Inv.setContext {s : PoolState} (hinv : Inv s) (k : Slot) (ctx : TcpClientContext)
    (hsock : ctx.tcpSockfd = (s.context k).tcpSockfd)
    (hqueue : ∀ resp ∈ ctx.queue, resp ∈ (s.context k).queue ∨ ForContext s k resp) :
    Inv (s.setContext k ctx) := by
  refine hinv.of_same_sockets (setContext_tcpSockfd s k ctx hsock) hinv.owed ?_
    (fun _ hw => Or.inl hw)
  intro j resp hresp
  rcases setContext_queue s k ctx j resp hresp with hold | ⟨hj, hnew⟩
  · exact Or.inl hold
  · rw [hj]
    exact hqueue resp hnew

theorem Inv.append_log {s : PoolState} (hinv : Inv s) (w : Written) (hw : RightSocket w) :
    Inv { s with log := s.log ++ [w] } := by
  refine ⟨hinv.owed, hinv.queued, ?_⟩
  exact List.forall_mem_append.mpr ⟨hinv.log, List.forall_mem_singleton.mpr hw⟩

theorem connect_inv (s : PoolState) (hinv : Inv s) (hclean : CleanAccept s .connect) :
    Inv (connect s) := by
  unfold connect
  cases hfree : s.freeContext with
  | none => exact ⟨hinv.owed, hinv.queued, hinv.log⟩
  | some k =>
    obtain ⟨howes, hevents⟩ := hclean k hfree
    have hother : ∀ (ctx : TcpClientContext) (reply : Reply), reply.slot ≠ k → Holds s reply →
        Holds (PoolState.setContext { s with accepted := s.accepted + 1 } k ctx) reply := by
      intro ctx reply hslot hheld
      unfold Holds
      rw [setContext_context, if_neg hslot]
      exact hheld
    refine ⟨?_, ?_, hinv.log⟩
    · intro reply hreply
      exact hother _ reply (howes reply hreply) (hinv.owed reply hreply)
    · intro j resp hresp hevent
      have hmem : resp ∈ (s.context j).queue := by
        rcases setContext_queue _ _ _ _ _ hresp with hold | ⟨hj, hold⟩
        · exact hold
        · rw [hj]
          exact hold
      obtain ⟨reply, hreply, hslot, hheld⟩ := hinv.queued j resp hmem hevent
      refine ⟨reply, hreply, hslot, hother _ reply ?_ hheld⟩
      intro hk
      -- the context of the new connection holds events only
      have hjk : j = k := hslot.symm.trans hk
      rw [hjk] at hmem
      rw [hevents resp hmem] at hevent
      contradiction

theorem request_inv (s s' : PoolState) (k : Slot) (buf : Memory) (len : ℕ) (hinv : Inv s)
    (h : request s k buf len = some s') : Inv s' := by
  obtain ⟨-, -, rfl⟩ := request_eq_some h
  refine hinv.of_same_sockets (fun _ => rfl) ?_ (fun _ _ hmem => Or.inl hmem) ?_
  · intro reply howes
    rcases howes with ⟨act, hact, hreply⟩ | hworker
    · rcases dealTcpPacket_acts _ _ _ _ act hact with hold | hnew
      · exact hinv.owed reply (Or.inl ⟨act, hold, hreply⟩)
      · rw [hnew] at hreply
        rw [← Option.some.inj hreply]
        rfl
    · exact hinv.owed reply (Or.inr hworker)
  · intro w hw
    rcases List.mem_append.mp hw with hold | hnew
    · exact Or.inl hold
    · obtain ⟨bytes, -, rfl⟩ := List.mem_map.mp hnew
      exact Or.inr rfl

theorem disconnect_inv (s s' : PoolState) (k : Slot) (hinv : Inv s)
    (h : disconnect s k = some s') : Inv s' := by
  obtain ⟨-, -, rfl⟩ := disconnect_eq_some h
  exact hinv.setContext k _ rfl (fun _ hresp => Or.inl hresp)

theorem takeAct_inv (s s' : PoolState) (hinv : Inv s) (h : takeAct s = some s') : Inv s' := by
  obtain ⟨act, rest, -, hqueue, rfl⟩ := takeAct_eq_some h
  refine hinv.of_same_contexts rfl rfl ?_
  intro reply howes
  rcases howes with ⟨act', hact, hreply⟩ | hbusy
  · exact Or.inl ⟨act', hqueue ▸ List.mem_cons_of_mem act hact, hreply⟩
  · exact Or.inl ⟨act, hqueue ▸ List.mem_cons_self, hbusy⟩

/-- Acts of the box owe nobody a reply. -/
theorem ownActs_reply_mem {cb cb' : HsbDeviceCb Reply} (h : QueuesOwnActs cb cb')
    (act : HsbAct Reply) (reply : Reply) (hact : act ∈ cb'.asyncQueue)
    (hreply : act.reply = some reply) : act ∈ cb.asyncQueue := by
  obtain ⟨bodies, hbodies⟩ := h
  rw [hbodies] at hact
  rcases List.mem_append.mp hact with hold | hnew
  · exact hold
  · obtain ⟨body, -, rfl⟩ := List.mem_map.mp hnew
    contradiction

theorem finishAct_inv (s s' : PoolState) (drivers : DriverCalls) (hinv : Inv s)
    (h : finishAct s drivers = some s') : Inv s' := by
  obtain ⟨act, done, hworker, hdone, rfl⟩ := finishAct_eq_some h
  obtain ⟨hacts, hnotices⟩ := processDevAct_spec s.cb drivers act done hdone
  refine hinv.of_same_contexts rfl rfl ?_
  intro reply howes
  rcases howes with ⟨act', hact, hreply⟩ | ⟨resp, hresp, hevent, hreply⟩
  · exact Or.inl ⟨act', ownActs_reply_mem hacts act' reply hact hreply, hreply⟩
  · rcases hnotices resp hresp with hisEvent | hsame
    · rw [hisEvent] at hevent
      contradiction
    · refine Or.inr ?_
      rw [hworker]
      exact hsame.symm.trans hreply

theorem Inv.setWorker {s : PoolState} (hinv : Inv s) (worker : Worker)
    (howed : ∀ reply, WorkerOwes worker reply → WorkerOwes s.worker reply) :
    Inv { s with worker := worker } := by
  refine hinv.of_same_contexts rfl rfl ?_
  intro reply howes
  rcases howes with hact | hbusy
  · exact Or.inl hact
  · exact Or.inr (howed reply hbusy)

theorem notifyCheck_inv (s s' : PoolState) (hinv : Inv s) (h : notifyCheck s = some s') :
    Inv s' := by
  rcases notifyCheck_cases h with ⟨cnt, -, rfl⟩ | ⟨resp, rest, cnt, hnotifying, hround⟩
  · exact hinv.setWorker _ (fun _ howes => howes.elim)
  · have hsame : ∀ reply, WorkerOwes (.notifying (resp :: rest) cnt) reply →
        WorkerOwes s.worker reply := by
      intro reply howes
      rw [hnotifying]
      exact howes
    rcases hround with ⟨k, hmatched, -, rfl⟩ | ⟨k, -, -, rfl⟩ | ⟨-, rfl⟩
    · exact hinv.setWorker _ hsame
    · exact hinv.setWorker _ hsame
    · apply hinv.setWorker
      intro reply howes
      obtain ⟨resp', hmem, hresp'⟩ := howes
      exact hsame reply ⟨resp', List.mem_cons_of_mem resp hmem, hresp'⟩

theorem pushResp_inv (s : PoolState) (k : Slot) (resp : HsbResp Reply) (hinv : Inv s)
    (hfor : ForContext s k resp) : Inv (pushResp s k resp) := by
  refine hinv.setContext k _ rfl ?_
  exact List.forall_mem_append.mpr
    ⟨fun _ hold => Or.inl hold, List.forall_mem_singleton.mpr (Or.inr hfor)⟩

theorem notifyPush_inv (s s' : PoolState) (hinv : Inv s) (h : notifyPush s = some s') :
    Inv s' := by
  obtain ⟨resp, rest, k, hmatched, hworker, rfl⟩ := notifyPush_eq_some h
  have hfor : ForContext s k resp := by
    intro hevent
    obtain ⟨reply, hreply, hslot⟩ := addressedTo_spec resp k hmatched hevent
    refine ⟨reply, hreply, hslot, hinv.owed reply (Or.inr ?_)⟩
    rw [hworker]
    exact ⟨resp, List.mem_cons_self, hevent, hreply⟩
  have hsame : (pushResp s k resp).worker = .pushing resp rest k hmatched := hworker
  apply (pushResp_inv s k resp hinv hfor).setWorker
  intro reply howes
  rw [hsame]
  exact howes

theorem wake_inv (s s' : PoolState) (k : Slot) (hinv : Inv s) (h : wake s k = some s') :
    Inv s' := by
  obtain ⟨-, -, -, rfl⟩ := wake_eq_some h
  exact hinv.setContext k _ rfl (fun _ hresp => Or.inl hresp)

/-- The response at the head of a queue goes to the socket of its connection. -/
theorem queued_rightSocket (s : PoolState) (k : Slot) (resp : HsbResp Reply)
    (bytes : List UInt8) (h : ForContext s k resp) :
    RightSocket (.queued (s.context k).tcpSockfd resp bytes) := by
  intro hevent reply hreply
  obtain ⟨reply', hreply', hslot, hheld⟩ := h hevent
  rw [hreply'] at hreply
  rw [← Option.some.inj hreply, ← hslot]
  exact hheld

theorem drain_inv (s s' : PoolState) (k : Slot) (wrote : Bool) (hinv : Inv s)
    (h : drain s k wrote = some s') : Inv s' := by
  obtain ⟨-, -, ⟨-, rfl⟩ | ⟨resp, rest, frame, hqueue, -, rfl⟩⟩ := drain_cases h
  · exact hinv.setContext k _ rfl (fun _ hresp => Or.inl hresp)
  · have hhead : ForContext s k resp := hinv.queued k resp (hqueue ▸ List.mem_cons_self)
    have hrest : ∀ resp' ∈ rest, resp' ∈ (s.context k).queue ∨ ForContext s k resp' := by
      intro resp' hresp'
      rw [hqueue]
      exact Or.inl (List.mem_cons_of_mem resp hresp')
    split
    · have htaken := hinv.setContext k { s.context k with queue := rest } rfl hrest
      exact htaken.append_log _ (queued_rightSocket s k resp frame.bytes hhead)
    · exact hinv.setContext k _ rfl hrest

theorem box_inv (s : PoolState) (cb : HsbDeviceCb Reply) (acts : List HsbActBody)
    (hinv : Inv s) :
    Inv { s with cb := pushOwnActs { cb with asyncQueue := s.cb.asyncQueue } acts } := by
  refine hinv.of_same_contexts rfl rfl ?_
  intro reply howes
  rcases howes with ⟨act, hact, hreply⟩ | hworker
  · have hold := ownActs_reply_mem (pushOwnActs_queues _ acts) act reply hact hreply
    exact Or.inl ⟨act, hold, hreply⟩
  · exact Or.inr hworker

/-- Every step but an accept into a context with something outstanding. -/
theorem step_preserves : Preserves step CleanAccept Inv := by
  intro s a s' hinv hclean h
  cases a with
  | connect =>
    cases Option.some.inj h
    exact connect_inv s hinv hclean
  | request k buf len => exact request_inv s s' k buf len hinv h
  | disconnect k => exact disconnect_inv s s' k hinv h
  | takeAct => exact takeAct_inv s s' hinv h
  | finishAct drivers => exact finishAct_inv s s' drivers hinv h
  | notifyCheck => exact notifyCheck_inv s s' hinv h
  | notifyPush => exact notifyPush_inv s s' hinv h
  | wake k => exact wake_inv s s' k hinv h
  | drain k wrote => exact drain_inv s s' k wrote hinv h
  | event k event =>
    cases Option.some.inj h
    refine pushResp_inv s k _ hinv ?_
    intro hevent
    contradiction
  | box cb acts =>
    cases Option.some.inj h
    exact box_inv s cb acts hinv

theorem initial_inv : Inv {} := by
  refine ⟨?_, ?_, ?_⟩
  · intro reply howes
    rcases howes with ⟨act, hact, -⟩ | hworker
    · exact absurd hact List.not_mem_nil
    · exact hworker.elim
  · intro k resp hresp
    exact absurd hresp List.not_mem_nil
  · intro w hw
    exact absurd hw List.not_mem_nil

/-- In every run of the threads in which each new connection gets a context with
nothing outstanding, every result and status written so far went to the socket of
the connection that made the request. -/
theorem responses_reach_own_connection (steps : List Step) (s : PoolState)
    (hclean : Guarded step CleanAccept {} steps) (hrun : run step {} steps = some s) :
    ∀ w ∈ s.log, RightSocket w :=
  (run_invariant_guarded step_preserves steps {} s initial_inv hclean hrun).log

theorem guarded_of_no_accept (steps : List Step) (s : PoolState)
    (h : ∀ a ∈ steps, a ≠ Step.connect) : Guarded step CleanAccept s steps := by
  induction steps generalizing s with
  | nil => trivial
  | cons a rest ih =>
    have hhead : CleanAccept s a := by
      cases a with
      | connect => exact absurd rfl (h _ List.mem_cons_self)
      | _ => trivial
    exact ⟨hhead, fun s' _ => ih s' fun b hb => h b (List.mem_cons_of_mem a hb)⟩

/-- No driver has anything to say. -/
def silentDrivers : DriverCalls where
  probe := fun _ => HsbErrorNo.ok.code
  getStatus := fun _ status => some (HsbErrorNo.notSupported.code, status)
  setStatus := fun _ _ => some HsbErrorNo.notSupported.code
  setAction := fun _ _ => HsbErrorNo.notSupported.code

/-- GET_STATUS for device 1, which does not exist. -/
def statusPacket : Memory := load [0x21, 0x88, 8, 0, 1, 0, 0, 0] zeros

/-- From the driver's return to the write to the socket of context 0. -/
def deliverySteps : List Step :=
  [.finishAct silentDrivers, .notifyCheck, .notifyPush, .wake 0, .drain 0 true]

def undisturbedSteps : List Step :=
  .connect :: .request 0 statusPacket 8 :: .takeAct :: deliverySteps

/-- The client goes and another one comes while the worker has its request. -/
def takenOverSteps : List Step :=
  .connect :: .request 0 statusPacket 8 :: .takeAct :: .disconnect 0 :: .connect ::
    deliverySteps

def notFoundResp : HsbResp Reply := ⟨.result 6, some ⟨0, 0⟩⟩

def notFoundFrame : List UInt8 := [0xA1, 0x88, 8, 0, 6, 0, 0, 0]

theorem undisturbed_reaches_own_connection :
    ∃ s, run step {} undisturbedSteps = some s ∧
      s.log = [.queued 0 notFoundResp notFoundFrame] ∧ ∀ w ∈ s.log, RightSocket w := by
  have hlog : (run step {} undisturbedSteps).map PoolState.log =
      some [.queued 0 notFoundResp notFoundFrame] := rfl
  obtain ⟨s, hrun, hwritten⟩ := Option.map_eq_some_iff.mp hlog
  refine ⟨s, hrun, hwritten, responses_reach_own_connection undisturbedSteps s ?_ hrun⟩
  refine ⟨?_, fun s' _ => guarded_of_no_accept _ s' (by simp [deliverySteps])⟩
  intro k _
  refine ⟨?_, fun resp hresp => absurd hresp List.not_mem_nil⟩
  intro reply howes
  rcases howes with ⟨act, hact, -⟩ | hworker
  · exact absurd hact List.not_mem_nil
  · exact hworker.elim

/-- The answer to connection 0 is written to the socket of connection 1. -/
theorem taken_over_context_misdelivers :
    ∃ s, run step {} takenOverSteps = some s ∧
      s.log = [.queued 1 notFoundResp notFoundFrame] ∧ ¬ ∀ w ∈ s.log, RightSocket w := by
  have hlog : (run step {} takenOverSteps).map PoolState.log =
      some [.queued 1 notFoundResp notFoundFrame] := rfl
  obtain ⟨s, hrun, hwritten⟩ := Option.map_eq_some_iff.mp hlog
  refine ⟨s, hrun, hwritten, ?_⟩
  intro hall
  have hwrong := hall (.queued 1 notFoundResp notFoundFrame)
    (hwritten ▸ List.mem_singleton_self _) rfl ⟨0, 0⟩ rfl
  contradiction

end HomeSecurityBox.ResponseRouting
