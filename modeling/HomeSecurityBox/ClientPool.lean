import Mathlib.Logic.Function.Basic
import HomeSecurityBox.Base.Transitions
import HomeSecurityBox.DevAct
import HomeSecurityBox.Notify
import HomeSecurityBox.TcpPacket

/-!
The pool of client contexts and the threads that share it: the accepting thread,
the handler of every client, the worker and the threads that send events. The
reply pointer of an act is the context of the client. The connection stands
beside it here for the statements only: no step of the code compares it.
-/

namespace HomeSecurityBox.ClientPool

open ByteMemory Protocol DeviceData TcpPacket DeviceEvents DevAct Notify

abbrev maxTcpClientNum : ℕ := 5

abbrev Slot := Fin maxTcpClientNum

/-- A pointer to a context, with the connection whose request it was put in. -/
structure Reply where
  slot : Slot
  conn : ℕ
  deriving DecidableEq, Repr

/-- `using`, `tcp_sockfd` and `queue` of a context; the datagrams that wait at its
`un_sockfd`; whether its handler is in the loop of `_process_notify`. A socket is
named by the number of its connection. -/
structure TcpClientContext where
  inUse : Bool := false
  tcpSockfd : ℕ := 0
  queue : List (HsbResp Reply) := []
  notified : ℕ := 0
  draining : Bool := false

/-- The test of `notify_resp` on the context `k`, apart from `using`. -/
def addressedTo (resp : HsbResp Reply) (k : Slot) : Bool :=
  resp.body.isEvent || resp.reply.any fun reply => reply.slot == k

/-- The worker thread. Inside `notify_resp` it goes through the contexts and
holds, between the test and the push, a response that the context matched. -/
inductive Worker
  | idle
  | busy (act : HsbAct Reply)
  | notifying (notices : List (HsbResp Reply)) (cnt : ℕ)
  | pushing (resp : HsbResp Reply) (rest : List (HsbResp Reply)) (k : Slot)
      (matched : addressedTo resp k = true)

/-- What a handler writes to its socket: the frame of a directly answered request
of its own connection, or that of a queued response. -/
inductive Written
  | direct (sock : ℕ) (origin : ℕ) (bytes : List UInt8)
  | queued (sock : ℕ) (resp : HsbResp Reply) (bytes : List UInt8)

structure PoolState where
  cb : HsbDeviceCb Reply := {}
  context : Slot → TcpClientContext := fun _ => {}
  accepted : ℕ := 0
  worker : Worker := .idle
  log : List Written := []

def PoolState.setContext (s : PoolState) (k : Slot) (ctx : TcpClientContext) : PoolState :=
  { s with context := Function.update s.context k ctx }

/-- The context that `get_client_context` picks. -/
def PoolState.freeContext (s : PoolState) : Option Slot :=
  (List.finRange maxTcpClientNum).find? fun k => !(s.context k).inUse

/-- `accept` and `get_client_context`; without a free context the new socket is
closed again. The queue of the context is taken over as it is. -/
def connect (s : PoolState) : PoolState :=
  let s' := { s with accepted := s.accepted + 1 }
  match s.freeContext with
  | none => s'
  | some k =>
      s'.setContext k
        { s.context k with
          inUse := true, tcpSockfd := s.accepted, notified := 0, draining := false }

/-- One packet in the read loop of the handler. -/
def request (s : PoolState) (k : Slot) (buf : Memory) (len : ℕ) : Option PoolState :=
  let ctx := s.context k
  if ctx.inUse ∧ ctx.draining = false then
    let done := dealTcpPacket s.cb buf len ⟨k, ctx.tcpSockfd⟩
    some
      { s with
        cb := done.cb
        log := s.log ++
          done.written.toList.map fun bytes => .direct ctx.tcpSockfd ctx.tcpSockfd bytes }
  else none

/-- `close` and `put_client_context`; the queue is not cleaned. -/
def disconnect (s : PoolState) (k : Slot) : Option PoolState :=
  let ctx := s.context k
  if ctx.inUse ∧ ctx.draining = false then
    some (s.setContext k { ctx with inUse := false, notified := 0 })
  else none

/-- The worker takes the act at the head of its queue. -/
def takeAct (s : PoolState) : Option PoolState :=
  match s.worker, s.cb.asyncQueue with
  | .idle, act :: rest =>
      some { s with cb := { s.cb with asyncQueue := rest }, worker := .busy act }
  | _, _ => none

/-- The driver has returned; `_process_dev_act` goes on to `notify_resp`. -/
def finishAct (s : PoolState) (drivers : DriverCalls) : Option PoolState :=
  match s.worker with
  | .busy act =>
      (processDevAct s.cb drivers act).map fun done =>
        { s with cb := done.cb, worker := .notifying done.notices 0 }
  | _ => none

/-- One test in the loop of `notify_resp`, outside the lock. -/
def notifyCheck (s : PoolState) : Option PoolState :=
  match s.worker with
  | .notifying [] _ => some { s with worker := .idle }
  | .notifying (resp :: rest) cnt =>
      if h : cnt < maxTcpClientNum then
        if (s.context ⟨cnt, h⟩).inUse then
          if hmatch : addressedTo resp ⟨cnt, h⟩ = true then
            some { s with worker := .pushing resp rest ⟨cnt, h⟩ hmatch }
          else some { s with worker := .notifying (resp :: rest) (cnt + 1) }
        else some { s with worker := .notifying (resp :: rest) (cnt + 1) }
      else some { s with worker := .notifying rest 0 }
  | _ => none

/-- A response joins the queue of a context and a datagram goes to its path, where
a released context no longer listens. -/
def pushResp (s : PoolState) (k : Slot) (resp : HsbResp Reply) : PoolState :=
  let ctx := s.context k
  s.setContext k
    { ctx with
      queue := ctx.queue ++ [resp]
      notified := if ctx.inUse then ctx.notified + 1 else ctx.notified }

def notifyPush (s : PoolState) : Option PoolState :=
  match s.worker with
  | .pushing resp rest k _ =>
      some { pushResp s k resp with worker := .notifying (resp :: rest) (k.val + 1) }
  | _ => none

/-- The handler receives a datagram and enters `_process_notify`. -/
def wake (s : PoolState) (k : Slot) : Option PoolState :=
  let ctx := s.context k
  if ctx.inUse ∧ ctx.draining = false ∧ 0 < ctx.notified then
    some (s.setContext k { ctx with notified := ctx.notified - 1, draining := true })
  else none

/-- One round of `_process_notify` with its pop, which takes no lock, in one step; a failed
write ends it. -/
def drain (s : PoolState) (k : Slot) (wrote : Bool) : Option PoolState :=
  let ctx := s.context k
  if ctx.inUse ∧ ctx.draining then
    match ctx.queue with
    | [] => some (s.setContext k { ctx with draining := false })
    | resp :: rest =>
        (makeNotifyResp resp).map fun frame =>
          if wrote then
            { s.setContext k { ctx with queue := rest } with
              log := s.log ++ [.queued ctx.tcpSockfd resp frame.bytes] }
          else s.setContext k { ctx with queue := rest, draining := false }
  else none

/-- The steps of the threads. Other threads send events, whose test of `using` may
lie before a release, and change the devices and queue acts of the box. -/
inductive Step
  | connect
  | request (k : Slot) (buf : Memory) (len : ℕ)
  | disconnect (k : Slot)
  | takeAct
  | finishAct (drivers : DriverCalls)
  | notifyCheck
  | notifyPush
  | wake (k : Slot)
  | drain (k : Slot) (wrote : Bool)
  | event (k : Slot) (event : HsbEvt)
  | box (cb : HsbDeviceCb Reply) (acts : List HsbActBody)

def step (s : PoolState) : Step → Option PoolState
  | .connect => some (connect s)
  | .request k buf len => request s k buf len
  | .disconnect k => disconnect s k
  | .takeAct => takeAct s
  | .finishAct drivers => finishAct s drivers
  | .notifyCheck => notifyCheck s
  | .notifyPush => notifyPush s
  | .wake k => wake s k
  | .drain k wrote => drain s k wrote
  | .event k event => some (pushResp s k ⟨.event event, none⟩)
  | .box cb acts =>
      some { s with cb := pushOwnActs { cb with asyncQueue := s.cb.asyncQueue } acts }

theorem addressedTo_spec (resp : HsbResp Reply) (k : Slot) (h : addressedTo resp k = true)
    (hevent : resp.body.isEvent = false) : ∃ reply, resp.reply = some reply ∧ reply.slot = k := by
  unfold addressedTo at h
  rw [hevent, Bool.false_or] at h
  cases hreply : resp.reply with
  | none =>
    rw [hreply] at h
    contradiction
  | some reply =>
    rw [hreply] at h
    exact ⟨reply, rfl, eq_of_beq h⟩

theorem request_eq_some {s s' : PoolState} {k : Slot} {buf : Memory} {len : ℕ}
    (h : request s k buf len = some s') :
    (s.context k).inUse = true ∧ (s.context k).draining = false ∧
      s' = { s with
        cb := (dealTcpPacket s.cb buf len ⟨k, (s.context k).tcpSockfd⟩).cb
        log := s.log ++ (dealTcpPacket s.cb buf len
          ⟨k, (s.context k).tcpSockfd⟩).written.toList.map
            fun bytes => .direct (s.context k).tcpSockfd (s.context k).tcpSockfd bytes } := by
  simp only [request] at h
  split at h
  · rename_i hidle
    exact ⟨hidle.1, hidle.2, (Option.some.inj h).symm⟩
  · contradiction

theorem disconnect_eq_some {s s' : PoolState} {k : Slot} (h : disconnect s k = some s') :
    (s.context k).inUse = true ∧ (s.context k).draining = false ∧
      s' = s.setContext k { s.context k with inUse := false, notified := 0 } := by
  simp only [disconnect] at h
  split at h
  · rename_i hidle
    exact ⟨hidle.1, hidle.2, (Option.some.inj h).symm⟩
  · contradiction

theorem takeAct_eq_some {s s' : PoolState} (h : takeAct s = some s') :
    ∃ act rest, s.worker = .idle ∧ s.cb.asyncQueue = act :: rest ∧
      s' = { s with cb := { s.cb with asyncQueue := rest }, worker := .busy act } := by
  unfold takeAct at h
  split at h
  · rename_i act rest hworker hqueue
    exact ⟨act, rest, hworker, hqueue, (Option.some.inj h).symm⟩
  · contradiction

theorem finishAct_eq_some {s s' : PoolState} {drivers : DriverCalls}
    (h : finishAct s drivers = some s') :
    ∃ act done, s.worker = .busy act ∧ processDevAct s.cb drivers act = some done ∧
      s' = { s with cb := done.cb, worker := .notifying done.notices 0 } := by
  unfold finishAct at h
  split at h
  · rename_i act hworker
    obtain ⟨done, hdone, hs'⟩ := Option.map_eq_some_iff.mp h
    exact ⟨act, done, hworker, hdone, hs'.symm⟩
  · contradiction

/-- A round of the scan changes the worker only: it stops at a context that matches,
goes past one that does not, and takes the next response behind the last context. -/
theorem notifyCheck_cases {s s' : PoolState} (h : notifyCheck s = some s') :
    (∃ cnt, s.worker = .notifying [] cnt ∧ s' = { s with worker := .idle }) ∨
    (∃ resp rest cnt, s.worker = .notifying (resp :: rest) cnt ∧
      ((∃ k hmatched, k.val = cnt ∧ s' = { s with worker := .pushing resp rest k hmatched }) ∨
        (∃ k : Slot, k.val = cnt ∧ ((s.context k).inUse = true → addressedTo resp k = false) ∧
          s' = { s with worker := .notifying (resp :: rest) (cnt + 1) }) ∨
        (maxTcpClientNum ≤ cnt ∧ s' = { s with worker := .notifying rest 0 }))) := by
  unfold notifyCheck at h
  split at h
  · rename_i cnt hworker
    exact Or.inl ⟨cnt, hworker, (Option.some.inj h).symm⟩
  · rename_i resp rest cnt hworker
    refine Or.inr ⟨resp, rest, cnt, hworker, ?_⟩
    split at h
    · rename_i hcnt
      split at h
      · split at h
        · rename_i hmatched
          exact Or.inl ⟨⟨cnt, hcnt⟩, hmatched, rfl, (Option.some.inj h).symm⟩
        · rename_i hunmatched
          exact Or.inr (Or.inl ⟨⟨cnt, hcnt⟩, rfl, fun _ => Bool.eq_false_iff.mpr hunmatched,
            (Option.some.inj h).symm⟩)
      · rename_i hunused
        exact Or.inr (Or.inl ⟨⟨cnt, hcnt⟩, rfl, fun huse => absurd huse hunused,
          (Option.some.inj h).symm⟩)
    · rename_i hend
      exact Or.inr (Or.inr ⟨Nat.le_of_not_lt hend, (Option.some.inj h).symm⟩)
  · contradiction

theorem notifyPush_eq_some {s s' : PoolState} (h : notifyPush s = some s') :
    ∃ resp rest k hmatched, s.worker = .pushing resp rest k hmatched ∧
      s' = { pushResp s k resp with worker := .notifying (resp :: rest) (k.val + 1) } := by
  unfold notifyPush at h
  split at h
  · rename_i resp rest k hmatched hworker
    exact ⟨resp, rest, k, hmatched, hworker, (Option.some.inj h).symm⟩
  · contradiction

theorem wake_eq_some {s s' : PoolState} {k : Slot} (h : wake s k = some s') :
    (s.context k).inUse = true ∧ (s.context k).draining = false ∧
      0 < (s.context k).notified ∧
      s' = s.setContext k
        { s.context k with notified := (s.context k).notified - 1, draining := true } := by
  simp only [wake] at h
  split at h
  · rename_i hnotified
    exact ⟨hnotified.1, hnotified.2.1, hnotified.2.2, (Option.some.inj h).symm⟩
  · contradiction

/-- A round of `_process_notify` ends it at an empty queue and takes the head of a
queue that is not empty. -/
theorem drain_cases {s s' : PoolState} {k : Slot} {wrote : Bool}
    (h : drain s k wrote = some s') :
    (s.context k).inUse = true ∧ (s.context k).draining = true ∧
      (((s.context k).queue = [] ∧
          s' = s.setContext k { s.context k with draining := false }) ∨
        ∃ resp rest frame, (s.context k).queue = resp :: rest ∧
          makeNotifyResp resp = some frame ∧
          s' = if wrote then
            { s.setContext k { s.context k with queue := rest } with
              log := s.log ++ [.queued (s.context k).tcpSockfd resp frame.bytes] }
          else s.setContext k { s.context k with queue := rest, draining := false }) := by
  simp only [drain] at h
  split at h
  · rename_i hdraining
    refine ⟨hdraining.1, hdraining.2, ?_⟩
    split at h
    · rename_i hqueue
      exact Or.inl ⟨hqueue, (Option.some.inj h).symm⟩
    · rename_i resp rest hqueue
      obtain ⟨frame, hframe, hs'⟩ := Option.map_eq_some_iff.mp h
      exact Or.inr ⟨resp, rest, frame, hqueue, hframe, hs'.symm⟩
  · contradiction

theorem freeContext_inUse (s : PoolState) (k : Slot) (h : s.freeContext = some k) :
    (s.context k).inUse = false := by
  have hfound := List.find?_some h
  simpa using hfound

theorem setContext_self (s : PoolState) (k : Slot) (ctx : TcpClientContext) :
    (s.setContext k ctx).context k = ctx := Function.update_self _ _ _

theorem setContext_ne (s : PoolState) {k j : Slot} (h : j ≠ k) (ctx : TcpClientContext) :
    (s.setContext k ctx).context j = s.context j := Function.update_of_ne h _ _

/-- What a step of the pool does to one context. -/
inductive ContextStep (s : PoolState) (k : Slot) : Step → TcpClientContext → Prop
  | kept {a : Step} (hother : ∀ wrote, a ≠ .drain k wrote) : ContextStep s k a (s.context k)
  | accepted (ctx : TcpClientContext) (hunused : (s.context k).inUse = false) :
      ContextStep s k .connect ctx
  | closed (hidle : (s.context k).draining = false) :
      ContextStep s k (.disconnect k) { s.context k with inUse := false, notified := 0 }
  | pushed {a : Step} (resp : HsbResp Reply) (hother : ∀ wrote, a ≠ .drain k wrote) :
      ContextStep s k a ((pushResp s k resp).context k)
  | woken (hidle : (s.context k).draining = false) :
      ContextStep s k (.wake k)
        { s.context k with notified := (s.context k).notified - 1, draining := true }
  | emptied {wrote : Bool} (hqueue : (s.context k).queue = []) :
      ContextStep s k (.drain k wrote) { s.context k with draining := false }
  | written (rest : List (HsbResp Reply)) (hdraining : (s.context k).draining = true) :
      ContextStep s k (.drain k true) { s.context k with queue := rest }
  | failed (rest : List (HsbResp Reply)) :
      ContextStep s k (.drain k false) { s.context k with queue := rest, draining := false }

theorem pushed_context (s : PoolState) (j k : Slot) (resp : HsbResp Reply) {a : Step}
    (hother : ∀ wrote, a ≠ .drain k wrote) :
    ContextStep s k a ((pushResp s j resp).context k) := by
  by_cases hj : j = k
  · subst hj
    exact .pushed resp hother
  · have hkept : (pushResp s j resp).context k = s.context k := setContext_ne s (Ne.symm hj) _
    rw [hkept]
    exact .kept hother

theorem step_context {s s' : PoolState} {a : Step} (h : step s a = some s') (k : Slot) :
    ContextStep s k a (s'.context k) := by
  cases a with
  | connect =>
    cases Option.some.inj h
    unfold connect
    cases hfree : s.freeContext with
    | none => exact .kept (by simp)
    | some j =>
      by_cases hj : k = j
      · subst hj
        exact .accepted _ (freeContext_inUse s k hfree)
      · have hkept := setContext_ne { s with accepted := s.accepted + 1 } hj
          { s.context j with
            inUse := true, tcpSockfd := s.accepted, notified := 0, draining := false }
        simp only [hkept]
        exact .kept (by simp)
  | request j buf len =>
    obtain ⟨-, -, rfl⟩ := request_eq_some h
    exact .kept (by simp)
  | disconnect j =>
    obtain ⟨-, hidle, rfl⟩ := disconnect_eq_some h
    by_cases hj : k = j
    · subst hj
      rw [setContext_self]
      exact .closed hidle
    · rw [setContext_ne s hj]
      exact .kept (by simp)
  | takeAct =>
    obtain ⟨act, rest, -, -, rfl⟩ := takeAct_eq_some h
    exact .kept (by simp)
  | finishAct drivers =>
    obtain ⟨act, done, -, -, rfl⟩ := finishAct_eq_some h
    exact .kept (by simp)
  | notifyCheck =>
    rcases notifyCheck_cases h with ⟨cnt, -, rfl⟩ | ⟨resp, rest, cnt, -, hround⟩
    · exact .kept (by simp)
    · rcases hround with ⟨j, hmatched, -, rfl⟩ | ⟨j, -, -, rfl⟩ | ⟨-, rfl⟩
      all_goals exact .kept (by simp)
  | notifyPush =>
    obtain ⟨resp, rest, j, hmatched, -, rfl⟩ := notifyPush_eq_some h
    exact pushed_context s j k resp (by simp)
  | wake j =>
    obtain ⟨-, hidle, -, rfl⟩ := wake_eq_some h
    by_cases hj : k = j
    · subst hj
      rw [setContext_self]
      exact .woken hidle
    · rw [setContext_ne s hj]
      exact .kept (by simp)
  | drain j wrote =>
    obtain ⟨-, hdraining, hround⟩ := drain_cases h
    by_cases hj : k = j
    · subst hj
      rcases hround with ⟨hqueue, rfl⟩ | ⟨resp, rest, frame, -, -, rfl⟩
      · rw [setContext_self]
        exact .emptied hqueue
      · cases wrote with
        | true =>
          rw [if_pos rfl, setContext_self]
          exact .written rest hdraining
        | false =>
          rw [if_neg Bool.false_ne_true, setContext_self]
          exact .failed rest
    · have hkept : s'.context k = s.context k := by
        rcases hround with ⟨-, rfl⟩ | ⟨resp, rest, frame, -, -, rfl⟩
        · exact setContext_ne s hj _
        · cases wrote <;> exact setContext_ne s hj _
      rw [hkept]
      exact .kept (by simp [Ne.symm hj])
  | event j event =>
    cases Option.some.inj h
    exact pushed_context s j k _ (by simp)
  | box cb acts =>
    cases Option.some.inj h
    exact .kept (by simp)

theorem dispatchActs_reply {ρ : Type} (buf : Memory) (len : ℕ) (reply : ρ) (cmd : UInt16)
    (act : HsbAct ρ) (h : act ∈ dispatchActs buf len reply cmd) : act.reply = some reply := by
  unfold dispatchActs at h
  split at h
  · rw [List.mem_singleton.mp h]
  · rw [List.mem_singleton.mp h]
  · split at h
    · exact absurd h List.not_mem_nil
    · rw [List.mem_singleton.mp h]
  · rw [List.mem_singleton.mp h]
  · exact absurd h List.not_mem_nil

/-- A packet queues acts for its own client only. -/
theorem dealTcpPacket_acts {ρ : Type} (cb : HsbDeviceCb ρ) (buf : Memory) (len : ℕ) (reply : ρ)
    (act : HsbAct ρ) (h : act ∈ (dealTcpPacket cb buf len reply).cb.asyncQueue) :
    act ∈ cb.asyncQueue ∨ act.reply = some reply := by
  by_cases haccept : checkTcpPktValid buf len = 0
  · rw [dealTcpPacket_asyncQueue cb buf len reply haccept] at h
    rcases List.mem_append.mp h with hold | hnew
    · exact Or.inl hold
    · exact Or.inr (dispatchActs_reply buf len reply _ act hnew)
  · unfold dealTcpPacket at h
    rw [if_pos haccept] at h
    exact Or.inl h

end HomeSecurityBox.ClientPool
