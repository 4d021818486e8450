import Mathlib.Data.List.Forall2
import HomeSecurityBox.ResponseRouting

/-!
The requests of a connected client on their way. A request is answered at once or becomes an
act, and the acts of a client and their responses are items of one pipeline: from the queue of
the worker over the queue of the context to the socket, in the order of the requests. No step
of the pool loses an item or lets one overtake another.
-/

namespace HomeSecurityBox.OneReply

open ByteMemory Protocol DeviceData DeviceEvents DevAct Notify TcpPacket ClientPool

/-- A result or status for the connection. -/
def isFor (client : Reply) (resp : HsbResp Reply) : Bool :=
  !resp.body.isEvent && decide (resp.reply = some client)

/-- A stage on the way of an answer. -/
inductive Item
  | act (act : HsbAct Reply)
  | resp (resp : HsbResp Reply)

/-- The response comes out of the processing of the act. -/
def Answers (act : HsbAct Reply) (resp : HsbResp Reply) : Prop :=
  ∃ cb drivers done, processDevAct cb drivers act = some done ∧ resp ∈ done.notices ∧
    resp.body.isEvent = false ∧ resp.reply = act.reply

inductive Progress : Item → Item → Prop
  | same (item : Item) : Progress item item
  | answered {act : HsbAct Reply} {resp : HsbResp Reply} (h : Answers act resp) :
      Progress (.act act) (.resp resp)

def actsFor (client : Reply) (acts : List (HsbAct Reply)) : List Item :=
  (acts.filter fun act => decide (act.reply = some client)).map .act

def respsFor (client : Reply) (resps : List (HsbResp Reply)) : List Item :=
  (resps.filter (isFor client)).map .resp

/-- The responses in `notify_resp` that the context of the client still has to get:
the first one until the scan has passed the context, and all behind it. -/
def scanItems (client : Reply) (resp : HsbResp Reply) (rest : List (HsbResp Reply)) (cnt : ℕ) :
    List Item :=
  (if cnt ≤ client.slot.val then respsFor client [resp] else []) ++ respsFor client rest

def workerItems (client : Reply) : Worker → List Item
  | .idle => []
  | .busy act => actsFor client [act]
  | .notifying [] _ => []
  | .notifying (resp :: rest) cnt => scanItems client resp rest cnt
  | .pushing resp rest k _ => scanItems client resp rest k.val

/-- The response that an entry of the log carries to the socket of the client. -/
def deliveredItem (client : Reply) : Written → Option Item
  | .direct _ _ _ => none
  | .queued sock resp _ =>
      if sock = client.conn ∧ isFor client resp then some (.resp resp) else none

def delivered (client : Reply) (log : List Written) : List Item :=
  log.filterMap (deliveredItem client)

/-- The acts and responses of the client, the oldest request first. -/
def pipeline (client : Reply) (s : PoolState) : List Item :=
  delivered client s.log ++ respsFor client (s.context client.slot).queue ++
    workerItems client s.worker ++ actsFor client s.cb.asyncQueue

def isDirect (client : Reply) : Written → Bool
  | .direct sock _ _ => sock == client.conn
  | .queued _ _ _ => false

def Connected (client : Reply) (s : PoolState) : Prop :=
  (s.context client.slot).inUse = true ∧ (s.context client.slot).tcpSockfd = client.conn

/-- The client does not go away and the writes to its socket succeed. -/
def Stays (client : Reply) : Step → Prop
  | .disconnect k => k ≠ client.slot
  | .drain k wrote => k = client.slot → wrote = true
  | _ => True

instance (client : Reply) : DecidablePred (Stays client)
  | .disconnect k => inferInstanceAs (Decidable (k ≠ client.slot))
  | .drain k wrote => inferInstanceAs (Decidable (k = client.slot → wrote = true))
  | .connect | .request .. | .takeAct | .finishAct _ | .notifyCheck | .notifyPush | .wake _
  | .event .. | .box .. => inferInstanceAs (Decidable True)

/-- A call of `deal_tcp_packet` on an accepted frame of the client. -/
def isCall (client : Reply) : Step → Bool
  | .request k buf len => decide (k = client.slot ∧ checkTcpPktValid buf len = 0)
  | _ => false

/-- The acts that a call queues. -/
def asked (client : Reply) : Step → List (HsbAct Reply)
  | .request k buf len =>
      if k = client.slot ∧ checkTcpPktValid buf len = 0 then
        dispatchActs buf len client (get16 buf 0)
      else []
  | _ => []

/-- The queues hold what their contexts match; no two connected clients share a
socket. -/
structure PoolInv (s : PoolState) : Prop where
  addressed : ∀ k, ∀ resp ∈ (s.context k).queue, addressedTo resp k = true
  fresh : ∀ k, (s.context k).inUse = true → (s.context k).tcpSockfd < s.accepted
  apart : ∀ k j, (s.context k).inUse = true → (s.context j).inUse = true →
    (s.context k).tcpSockfd = (s.context j).tcpSockfd → k = j

theorem filter_events (client : Reply) (events : List (HsbResp Reply))
    (h : ∀ resp ∈ events, resp.body.isEvent = true) : events.filter (isFor client) = [] := by
  apply List.filter_eq_nil_iff.mpr
  intro resp hresp
  simp only [isFor, h resp hresp, Bool.not_true, Bool.false_and, Bool.false_eq_true,
    not_false_eq_true]

/-- An act with a reply pointer ends in exactly one result or status for its client. -/
theorem processDevAct_one (cb : HsbDeviceCb Reply) (drivers : DriverCalls) (act : HsbAct Reply)
    (done : Processed Reply) (h : processDevAct cb drivers act = some done) (client : Reply)
    (hreply : act.reply = some client) :
    ∃ resp, done.notices.filter (isFor client) = [resp] := by
  have hresult : ∀ ret, (resultNotices (some client) ret).filter (isFor client) =
      [⟨.result ret, some client⟩] := by
    intro ret
    simp [resultNotices, isFor, HsbRespBody.isEvent]
  unfold processDevAct at h
  rw [hreply] at h
  split at h
  · rw [← Option.some.inj h]
    exact ⟨_, hresult _⟩
  · obtain ⟨done', hset, hdone⟩ := Option.map_eq_some_iff.mp h
    obtain ⟨-, hevents⟩ := setDevStatus_spec cb drivers _ done' hset
    rw [← hdone, List.filter_append, filter_events client _ hevents, List.nil_append]
    exact ⟨_, hresult _⟩
  · obtain ⟨answer, -, hdone⟩ := Option.map_eq_some_iff.mp h
    rw [← hdone]
    unfold statusNotices
    split
    · exact ⟨⟨.result answer.1, some client⟩, by simp [isFor, HsbRespBody.isEvent]⟩
    · exact ⟨⟨.status answer.2, some client⟩, by simp [isFor, HsbRespBody.isEvent]⟩
  · rw [← Option.some.inj h]
    exact ⟨_, hresult _⟩

theorem processDevAct_none (cb : HsbDeviceCb Reply) (drivers : DriverCalls) (act : HsbAct Reply)
    (done : Processed Reply) (h : processDevAct cb drivers act = some done) (client : Reply)
    (hreply : act.reply ≠ some client) : done.notices.filter (isFor client) = [] := by
  apply List.filter_eq_nil_iff.mpr
  intro resp hresp
  rcases (processDevAct_spec cb drivers act done h).2 resp hresp with hevent | hsame
  · simp [isFor, hevent]
  · simp [isFor, hsame, hreply]

/-- An act without a reply pointer sends no client more than events. -/
theorem processDevAct_silent (cb : HsbDeviceCb Reply) (drivers : DriverCalls)
    (act : HsbAct Reply) (done : Processed Reply) (h : processDevAct cb drivers act = some done)
    (hreply : act.reply = none) :
    ∀ resp ∈ done.notices, resp.body.isEvent = false → ∀ k, addressedTo resp k = false := by
  intro resp hresp hevent k
  rcases (processDevAct_spec cb drivers act done h).2 resp hresp with hisEvent | hsame
  · rw [hisEvent] at hevent
    contradiction
  · simp [addressedTo, hevent, hsame, hreply]

/-- A command is answered by one frame or queues one act, never both. -/
theorem dispatchCmd_one {ρ : Type} (cb : HsbDeviceCb ρ) (buf : Memory) (len : ℕ) (reply : ρ)
    (cmd : UInt16) :
    (dispatchCmd cb buf len reply cmd).frame.toList.length +
      (dispatchActs buf len reply cmd).length = 1 := by
  have hanswer : ∀ {α : Type} (found : Except ℤ α) encode,
      (answer cb found encode).frame.toList.length = 1 := by
    intro α found encode
    unfold answer
    split <;> rfl
  have hconfirm : ∀ stored, (confirm cb stored).frame.toList.length = 1 := by
    intro stored
    unfold confirm
    split <;> rfl
  unfold dispatchCmd dispatchActs
  cases HsbCmd.ofCode cmd with
  | none => rfl
  | some c =>
    cases c
    case getInfo | getTimer | getDelay | getLinkage => simp only [hanswer, List.length_nil]
    case setTimer | delTimer | setDelay | delDelay | setLinkage | delLinkage =>
      simp only [hconfirm, List.length_nil]
    case doAction =>
      cases readAction buf with
      | error code => rfl
      | ok act => rfl
    all_goals rfl

theorem PoolInv.setContext {s : PoolState} (h : PoolInv s) (k : Slot) (ctx : TcpClientContext)
    (hqueue : ∀ resp ∈ ctx.queue, addressedTo resp k = true)
    (huse : ctx.inUse = true → (s.context k).inUse = true)
    (hsock : ctx.tcpSockfd = (s.context k).tcpSockfd) : PoolInv (s.setContext k ctx) := by
  have hcontext : ∀ j, (s.setContext k ctx).context j = if j = k then ctx else s.context j := by
    intro j
    simp only [PoolState.setContext, Function.update_apply]
  have hold : ∀ j, ((s.setContext k ctx).context j).inUse = true →
      (s.context j).inUse = true ∧
        ((s.setContext k ctx).context j).tcpSockfd = (s.context j).tcpSockfd := by
    intro j hj
    rw [hcontext] at hj ⊢
    by_cases hjk : j = k
    · rw [if_pos hjk] at hj ⊢
      rw [hjk]
      exact ⟨huse hj, hsock⟩
    · rw [if_neg hjk] at hj ⊢
      exact ⟨hj, rfl⟩
  refine ⟨?_, ?_, ?_⟩
  · intro j resp hresp
    rw [hcontext] at hresp
    by_cases hjk : j = k
    · rw [if_pos hjk] at hresp
      rw [hjk]
      exact hqueue resp hresp
    · rw [if_neg hjk] at hresp
      exact h.addressed j resp hresp
  · intro j hj
    obtain ⟨huse', hsame⟩ := hold j hj
    rw [hsame]
    exact h.fresh j huse'
  · intro i j hi hj hij
    obtain ⟨hi', hisame⟩ := hold i hi
    obtain ⟨hj', hjsame⟩ := hold j hj
    rw [hisame, hjsame] at hij
    exact h.apart i j hi' hj' hij

theorem connect_poolInv (s : PoolState) (h : PoolInv s) : PoolInv (connect s) := by
  unfold connect
  cases hfree : s.freeContext with
  | none => exact ⟨h.addressed, fun k hk => Nat.lt_succ_of_lt (h.fresh k hk), h.apart⟩
  | some k =>
    have hcontext : ∀ ctx j,
        (PoolState.setContext { s with accepted := s.accepted + 1 } k ctx).context j =
          if j = k then ctx else s.context j := by
      intro ctx j
      simp only [PoolState.setContext, Function.update_apply]
    refine ⟨?_, ?_, ?_⟩
    · intro j resp hresp
      rw [hcontext] at hresp
      by_cases hjk : j = k
      · rw [if_pos hjk] at hresp
        rw [hjk]
        exact h.addressed k resp hresp
      · rw [if_neg hjk] at hresp
        exact h.addressed j resp hresp
    · intro j hj
      rw [hcontext] at hj ⊢
      by_cases hjk : j = k
      · rw [if_pos hjk]
        exact Nat.lt_succ_self _
      · rw [if_neg hjk] at hj ⊢
        exact Nat.lt_succ_of_lt (h.fresh j hj)
    · intro i j hi hj hij
      rw [hcontext] at hi hj hij
      rw [hcontext] at hij
      by_cases hik : i = k
      · by_cases hjk : j = k
        · rw [hik, hjk]
        · rw [if_pos hik, if_neg hjk] at hij
          rw [if_neg hjk] at hj
          exact absurd hij.symm (Nat.ne_of_lt (h.fresh j hj))
      · by_cases hjk : j = k
        · rw [if_neg hik, if_pos hjk] at hij
          rw [if_neg hik] at hi
          exact absurd hij (Nat.ne_of_lt (h.fresh i hi))
        · rw [if_neg hik, if_neg hjk] at hij
          rw [if_neg hik] at hi
          rw [if_neg hjk] at hj
          exact h.apart i j hi hj hij

theorem pushResp_poolInv (s : PoolState) (k : Slot) (resp : HsbResp Reply) (h : PoolInv s)
    (hmatched : addressedTo resp k = true) : PoolInv (pushResp s k resp) := by
  refine h.setContext k _ ?_ id rfl
  exact List.forall_mem_append.mpr ⟨h.addressed k, List.forall_mem_singleton.mpr hmatched⟩

theorem PoolInv.of_same_contexts {s s' : PoolState} (h : PoolInv s)
    (hcontext : s'.context = s.context) (haccepted : s'.accepted = s.accepted) : PoolInv s' := by
  refine ⟨?_, ?_, ?_⟩
  · rw [hcontext]
    exact h.addressed
  · rw [hcontext, haccepted]
    exact h.fresh
  · rw [hcontext]
    exact h.apart

theorem initial_poolInv : PoolInv {} := by
  refine ⟨?_, ?_, ?_⟩
  · intro k resp hresp
    exact absurd hresp List.not_mem_nil
  · intro k hk
    contradiction
  · intro k j hk
    contradiction

/-- No step breaks the invariant of the pool. -/
theorem step_poolInv {s s' : PoolState} {a : Step} (hinv : PoolInv s)
    (h : step s a = some s') : PoolInv s' := by
  cases a with
  | connect =>
    cases Option.some.inj h
    exact connect_poolInv s hinv
  | request k buf len =>
    obtain ⟨-, -, rfl⟩ := request_eq_some h
    exact hinv.of_same_contexts rfl rfl
  | disconnect k =>
    obtain ⟨-, -, rfl⟩ := disconnect_eq_some h
    exact hinv.setContext k _ (hinv.addressed k)
      (fun hused => absurd hused Bool.false_ne_true) rfl
  | takeAct =>
    obtain ⟨act, rest, -, -, rfl⟩ := takeAct_eq_some h
    exact hinv.of_same_contexts rfl rfl
  | finishAct drivers =>
    obtain ⟨act, done, -, -, rfl⟩ := finishAct_eq_some h
    exact hinv.of_same_contexts rfl rfl
  | notifyCheck =>
    rcases notifyCheck_cases h with ⟨cnt, -, rfl⟩ | ⟨resp, rest, cnt, -, hround⟩
    · exact hinv.of_same_contexts rfl rfl
    · rcases hround with ⟨k, hmatched, -, rfl⟩ | ⟨k, -, -, rfl⟩ | ⟨-, rfl⟩
      all_goals exact hinv.of_same_contexts rfl rfl
  | notifyPush =>
    obtain ⟨resp, rest, k, hmatched, -, rfl⟩ := notifyPush_eq_some h
    exact (pushResp_poolInv s k resp hinv hmatched).of_same_contexts rfl rfl
  | wake k =>
    obtain ⟨-, -, -, rfl⟩ := wake_eq_some h
    exact hinv.setContext k _ (hinv.addressed k) id rfl
  | drain k wrote =>
    obtain ⟨-, -, ⟨-, rfl⟩ | ⟨resp, rest, frame, hqueue, -, rfl⟩⟩ := drain_cases h
    · exact hinv.setContext k _ (hinv.addressed k) id rfl
    · have hrest : ∀ resp' ∈ rest, addressedTo resp' k = true := by
        intro resp' hresp'
        exact hinv.addressed k resp' (hqueue ▸ List.mem_cons_of_mem resp hresp')
      cases wrote with
      | true => exact (hinv.setContext k { s.context k with queue := rest } hrest id
          rfl).of_same_contexts rfl rfl
      | false => exact hinv.setContext k _ hrest id rfl
  | event k event =>
    cases Option.some.inj h
    exact pushResp_poolInv s k _ hinv rfl
  | box cb acts =>
    cases Option.some.inj h
    exact hinv.of_same_contexts rfl rfl

structure Passed (client : Reply) (s : PoolState) (a : Step) (s' : PoolState) : Prop where
  inv : PoolInv s'
  connected : Connected client s'
  items : List.Forall₂ Progress (pipeline client s ++ (asked client a).map .act)
    (pipeline client s')
  directs : (s'.log.filter (isDirect client)).length + (asked client a).length =
    (s.log.filter (isDirect client)).length + (if isCall client a then 1 else 0)

theorem progress_refl (items : List Item) : List.Forall₂ Progress items items :=
  List.forall₂_same.mpr fun item _ => .same item

theorem progress_trans (a b c : Item) (h : Progress a b) (h' : Progress b c) : Progress a c := by
  cases h with
  | same => exact h'
  | answered hanswers =>
    cases h' with
    | same => exact .answered hanswers

/-- A step that is no call and writes nothing directly. -/
theorem Passed.of_items {client : Reply} {s s' : PoolState} {a : Step} (hinv : PoolInv s')
    (hconnected : Connected client s') (hasked : asked client a = [])
    (hcall : isCall client a = false)
    (hdirects : s'.log.filter (isDirect client) = s.log.filter (isDirect client))
    (hitems : List.Forall₂ Progress (pipeline client s) (pipeline client s')) :
    Passed client s a s' := by
  refine ⟨hinv, hconnected, ?_, ?_⟩
  · rw [hasked, List.map_nil, List.append_nil]
    exact hitems
  · rw [hasked, hcall, hdirects]
    rfl

/-- A context that the client does not see change. -/
theorem Connected.setContext {client : Reply} {s : PoolState} (h : Connected client s)
    (k : Slot) (ctx : TcpClientContext)
    (hsame : k = client.slot → ctx.inUse = true ∧ ctx.tcpSockfd = client.conn) :
    Connected client (s.setContext k ctx) := by
  unfold Connected
  by_cases hk : k = client.slot
  · subst hk
    rw [setContext_self]
    exact hsame rfl
  · rw [setContext_ne s (Ne.symm hk)]
    exact h

theorem pipeline_setContext {client : Reply} (s : PoolState) (k : Slot)
    (ctx : TcpClientContext)
    (hsame : k = client.slot →
      respsFor client ctx.queue = respsFor client (s.context k).queue) :
    pipeline client (s.setContext k ctx) = pipeline client s := by
  have hqueue : respsFor client ((s.setContext k ctx).context client.slot).queue =
      respsFor client (s.context client.slot).queue := by
    by_cases hk : k = client.slot
    · subst hk
      rw [setContext_self]
      exact hsame rfl
    · rw [setContext_ne s (Ne.symm hk)]
  simp only [pipeline, hqueue]
  rfl

theorem respsFor_append (client : Reply) (front back : List (HsbResp Reply)) :
    respsFor client (front ++ back) = respsFor client front ++ respsFor client back := by
  simp only [respsFor, List.filter_append, List.map_append]

theorem respsFor_cons (client : Reply) (resp : HsbResp Reply) (rest : List (HsbResp Reply)) :
    respsFor client (resp :: rest) = respsFor client [resp] ++ respsFor client rest :=
  respsFor_append client [resp] rest

theorem respsFor_event (client : Reply) (resp : HsbResp Reply)
    (h : resp.body.isEvent = true) : respsFor client [resp] = [] := by
  simp [respsFor, isFor, h]

theorem actsFor_append (client : Reply) (front back : List (HsbAct Reply)) :
    actsFor client (front ++ back) = actsFor client front ++ actsFor client back := by
  simp only [actsFor, List.filter_append, List.map_append]

theorem actsFor_cons (client : Reply) (act : HsbAct Reply) (rest : List (HsbAct Reply)) :
    actsFor client (act :: rest) = actsFor client [act] ++ actsFor client rest :=
  actsFor_append client [act] rest

theorem actsFor_own (client : Reply) {cb cb' : HsbDeviceCb Reply} (h : QueuesOwnActs cb cb') :
    actsFor client cb'.asyncQueue = actsFor client cb.asyncQueue := by
  obtain ⟨bodies, hbodies⟩ := h
  have hown : actsFor client (bodies.map fun body => (⟨body, none⟩ : HsbAct Reply)) = [] := by
    simp [actsFor]
  rw [hbodies, actsFor_append, hown, List.append_nil]

/-- A scan from the start still owes everything. -/
theorem workerItems_notifying (client : Reply) (notices : List (HsbResp Reply)) :
    workerItems client (.notifying notices 0) = respsFor client notices := by
  cases notices with
  | nil => rfl
  | cons resp rest =>
    rw [workerItems, scanItems, if_pos (Nat.zero_le _), ← respsFor_cons]

/-- Whom a context matches: a response for the client, only that of the client. -/
theorem isFor_addressedTo {client : Reply} {resp : HsbResp Reply} (h : isFor client resp = true)
    (k : Slot) : addressedTo resp k = true ↔ k = client.slot := by
  simp only [isFor, Bool.and_eq_true, Bool.not_eq_true', decide_eq_true_eq] at h
  simp only [addressedTo, h.1, h.2, Bool.false_or, Option.any_some, beq_iff_eq]
  exact eq_comm

theorem respsFor_of_not_isFor {client : Reply} {resp : HsbResp Reply}
    (h : isFor client resp = false) : respsFor client [resp] = [] := by
  simp [respsFor, h]

/-- The scan goes on: it leaves out only what the context of the client does not
match. -/
theorem scanItems_succ (client : Reply) (resp : HsbResp Reply) (rest : List (HsbResp Reply))
    (cnt : ℕ) (h : isFor client resp = true → cnt ≠ client.slot.val) :
    scanItems client resp rest (cnt + 1) = scanItems client resp rest cnt := by
  unfold scanItems
  cases hfor : isFor client resp with
  | false => simp only [respsFor_of_not_isFor hfor, ite_self]
  | true =>
    have hne := h hfor
    by_cases hbefore : cnt ≤ client.slot.val
    · rw [if_pos hbefore, if_pos (by omega)]
    · rw [if_neg hbefore, if_neg (by omega)]

theorem connect_passed {client : Reply} {s : PoolState} (hinv : PoolInv (connect s))
    (hconnected : Connected client s) : Passed client s .connect (connect s) := by
  have hcontext : (connect s).context client.slot = s.context client.slot := by
    unfold connect
    cases hfree : s.freeContext with
    | none => rfl
    | some k =>
      have hk : client.slot ≠ k := by
        rintro rfl
        have hunused := freeContext_inUse s _ hfree
        rw [hconnected.1] at hunused
        contradiction
      exact setContext_ne _ hk _
  have hrest : (connect s).log = s.log ∧ (connect s).worker = s.worker ∧ (connect s).cb = s.cb := by
    unfold connect
    cases s.freeContext with
    | none => exact ⟨rfl, rfl, rfl⟩
    | some k => exact ⟨rfl, rfl, rfl⟩
  obtain ⟨hlog, hworker, hcb⟩ := hrest
  refine Passed.of_items hinv ?_ rfl rfl (by rw [hlog]) ?_
  · unfold Connected
    rw [hcontext]
    exact hconnected
  · have hsame : pipeline client (connect s) = pipeline client s := by
      simp only [pipeline, hcontext, hlog, hworker, hcb]
    rw [hsame]
    exact progress_refl _

theorem delivered_append (client : Reply) (front back : List Written) :
    delivered client (front ++ back) = delivered client front ++ delivered client back :=
  List.filterMap_append

theorem delivered_directs (client : Reply) (sock : ℕ) (written : List (List UInt8)) :
    delivered client (written.map fun bytes => .direct sock sock bytes) = [] := by
  induction written with
  | nil => rfl
  | cons bytes rest ih => exact ih

theorem dealTcpPacket_rejected {ρ : Type} (cb : HsbDeviceCb ρ) (buf : Memory) (len : ℕ)
    (reply : ρ) (h : checkTcpPktValid buf len ≠ 0) :
    (dealTcpPacket cb buf len reply).written = none ∧ (dealTcpPacket cb buf len reply).cb = cb := by
  unfold dealTcpPacket
  rw [if_pos h]
  exact ⟨rfl, rfl⟩

/-- The queue of the worker behind any packet. -/
theorem dealTcpPacket_queue {ρ : Type} (cb : HsbDeviceCb ρ) (buf : Memory) (len : ℕ)
    (reply : ρ) :
    (dealTcpPacket cb buf len reply).cb.asyncQueue =
      cb.asyncQueue ++ if checkTcpPktValid buf len = 0 then
        dispatchActs buf len reply (get16 buf 0) else [] := by
  by_cases haccept : checkTcpPktValid buf len = 0
  · rw [if_pos haccept, dealTcpPacket_asyncQueue cb buf len reply haccept]
  · rw [if_neg haccept, (dealTcpPacket_rejected cb buf len reply haccept).2, List.append_nil]

theorem actsFor_of_reply (client reply : Reply) (acts : List (HsbAct Reply))
    (h : ∀ act ∈ acts, act.reply = some reply) :
    actsFor client acts = if reply = client then acts.map .act else [] := by
  by_cases hsame : reply = client
  · rw [if_pos hsame, actsFor, List.filter_eq_self.mpr]
    intro act hact
    rw [h act hact, hsame]
    exact decide_eq_true rfl
  · rw [if_neg hsame, actsFor, List.filter_eq_nil_iff.mpr]
    · rfl
    · intro act hact
      simp [h act hact, hsame]

theorem filter_isDirect (client : Reply) (sock : ℕ) (frames : List (List UInt8)) :
    (frames.map fun bytes => Written.direct sock sock bytes).filter (isDirect client) =
      if sock = client.conn then frames.map fun bytes => .direct sock sock bytes else [] := by
  by_cases hsock : sock = client.conn
  · rw [if_pos hsock, List.filter_eq_self.mpr]
    intro w hw
    obtain ⟨bytes, -, rfl⟩ := List.mem_map.mp hw
    simpa [isDirect] using hsock
  · rw [if_neg hsock, List.filter_eq_nil_iff.mpr]
    intro w hw
    obtain ⟨bytes, -, rfl⟩ := List.mem_map.mp hw
    simpa [isDirect] using hsock

/-- The frames and the acts of one call. -/
theorem dealTcpPacket_one {ρ : Type} (cb : HsbDeviceCb ρ) (buf : Memory) (len : ℕ) (reply : ρ)
    (haccept : checkTcpPktValid buf len = 0) :
    (dealTcpPacket cb buf len reply).written.toList.length +
      (dispatchActs buf len reply (get16 buf 0)).length = 1 := by
  have hone := dispatchCmd_one cb buf len reply (get16 buf 0)
  unfold dealTcpPacket
  rw [if_neg (not_not.mpr haccept)]
  simpa only [Option.toList_map, List.length_map] using hone

/-- Two connected clients have different sockets. -/
theorem sock_eq_iff {client : Reply} {s : PoolState} {k : Slot} (hinv : PoolInv s)
    (hconnected : Connected client s) (huse : (s.context k).inUse = true) :
    (s.context k).tcpSockfd = client.conn ↔ k = client.slot := by
  constructor
  · intro hsame
    exact hinv.apart k client.slot huse hconnected.1 (hsame.trans hconnected.2.symm)
  · rintro rfl
    exact hconnected.2

theorem reply_eq_iff {client : Reply} {k : Slot} {sock : ℕ}
    (hsock : sock = client.conn ↔ k = client.slot) :
    (⟨k, sock⟩ : Reply) = client ↔ k = client.slot := by
  constructor
  · intro hsame
    exact congrArg Reply.slot hsame
  · intro hk
    obtain ⟨slot, conn⟩ := client
    simp only at hk
    subst hk
    rw [hsock.mpr rfl]

/-- The acts of a request are the client's if the request is. -/
theorem actsFor_request {client : Reply} {k : Slot} {sock : ℕ} (buf : Memory) (len : ℕ)
    (hreply : (⟨k, sock⟩ : Reply) = client ↔ k = client.slot) :
    actsFor client (if checkTcpPktValid buf len = 0 then
      dispatchActs buf len ⟨k, sock⟩ (get16 buf 0) else []) =
        (asked client (.request k buf len)).map .act := by
  by_cases haccept : checkTcpPktValid buf len = 0
  · rw [if_pos haccept, actsFor_of_reply client _ _ (dispatchActs_reply buf len _ _)]
    by_cases hk : k = client.slot
    · rw [if_pos (hreply.mpr hk), hreply.mpr hk, asked, if_pos ⟨hk, haccept⟩]
    · rw [if_neg (fun hsame => hk (hreply.mp hsame)), asked, if_neg (fun hcall => hk hcall.1)]
      rfl
  · rw [if_neg haccept, asked, if_neg (fun hcall => haccept hcall.2)]
    rfl

theorem request_passed {client : Reply} {s s' : PoolState} {k : Slot} {buf : Memory} {len : ℕ}
    (hinv : PoolInv s) (hinv' : PoolInv s') (hconnected : Connected client s)
    (h : request s k buf len = some s') : Passed client s (.request k buf len) s' := by
  obtain ⟨huse, -, rfl⟩ := request_eq_some h
  have hqueue := dealTcpPacket_queue s.cb buf len ⟨k, (s.context k).tcpSockfd⟩
  have hsock := sock_eq_iff hinv hconnected huse
  have hreply := reply_eq_iff hsock
  have hacts := actsFor_request buf len hreply
  refine ⟨hinv', hconnected, ?_, ?_⟩
  · have hitems : pipeline client s ++ (asked client (.request k buf len)).map .act =
        pipeline client { s with
          cb := (dealTcpPacket s.cb buf len ⟨k, (s.context k).tcpSockfd⟩).cb
          log := s.log ++ (dealTcpPacket s.cb buf len
            ⟨k, (s.context k).tcpSockfd⟩).written.toList.map
              fun bytes => .direct (s.context k).tcpSockfd (s.context k).tcpSockfd bytes } := by
      simp only [pipeline, hqueue, actsFor_append, hacts, delivered_append, delivered_directs,
        List.append_nil, List.append_assoc]
    rw [hitems]
    exact progress_refl _
  · rw [List.filter_append, List.length_append, filter_isDirect]
    by_cases hcall : k = client.slot ∧ checkTcpPktValid buf len = 0
    · have hone := dealTcpPacket_one s.cb buf len ⟨k, (s.context k).tcpSockfd⟩ hcall.2
      rw [hreply.mpr hcall.1] at hone
      rw [if_pos (hsock.mpr hcall.1), List.length_map, asked, if_pos hcall, isCall,
        decide_eq_true hcall, if_pos rfl, hreply.mpr hcall.1]
      omega
    · rw [asked, if_neg hcall, isCall, decide_eq_false hcall, if_neg Bool.false_ne_true]
      by_cases hk : k = client.slot
      · have hrejected : checkTcpPktValid buf len ≠ 0 := fun haccept => hcall ⟨hk, haccept⟩
        rw [(dealTcpPacket_rejected s.cb buf len _ hrejected).1]
        simp
      · rw [if_neg (fun hsame => hk (hsock.mp hsame))]
        simp

/-- A context that keeps its queue and its socket. -/
theorem setContext_passed {client : Reply} {s : PoolState} {a : Step} (k : Slot)
    (ctx : TcpClientContext) (hinv : PoolInv (s.setContext k ctx))
    (hconnected : Connected client s) (hasked : asked client a = [])
    (hcall : isCall client a = false) (hqueue : ctx.queue = (s.context k).queue)
    (hsock : ctx.tcpSockfd = (s.context k).tcpSockfd)
    (hstill : k = client.slot → ctx.inUse = true) : Passed client s a (s.setContext k ctx) := by
  refine Passed.of_items hinv (hconnected.setContext k ctx ?_) hasked hcall rfl ?_
  · intro hk
    rw [hsock, hk]
    exact ⟨hstill hk, hconnected.2⟩
  · rw [pipeline_setContext s k ctx fun _ => by rw [hqueue]]
    exact progress_refl _

theorem disconnect_passed {client : Reply} {s s' : PoolState} {k : Slot} (hinv : PoolInv s')
    (hconnected : Connected client s) (hstays : k ≠ client.slot)
    (h : disconnect s k = some s') : Passed client s (.disconnect k) s' := by
  obtain ⟨-, -, rfl⟩ := disconnect_eq_some h
  exact setContext_passed k _ hinv hconnected rfl rfl rfl rfl fun hk => absurd hk hstays

theorem takeAct_passed {client : Reply} {s s' : PoolState} (hinv : PoolInv s')
    (hconnected : Connected client s) (h : takeAct s = some s') :
    Passed client s .takeAct s' := by
  obtain ⟨act, rest, hworker, hqueue, rfl⟩ := takeAct_eq_some h
  refine Passed.of_items hinv hconnected rfl rfl rfl ?_
  have hitems : pipeline client { s with
      cb := { s.cb with asyncQueue := rest }, worker := .busy act } = pipeline client s := by
    simp only [pipeline, hworker, hqueue, workerItems, List.append_nil,
      actsFor_cons client act rest, List.append_assoc]
  rw [hitems]
  exact progress_refl _

/-- The act of the client becomes its response; any other act leaves the items as they
are. -/
theorem finishAct_passed {client : Reply} {s s' : PoolState} {drivers : DriverCalls}
    (hinv : PoolInv s') (hconnected : Connected client s) (h : finishAct s drivers = some s') :
    Passed client s (.finishAct drivers) s' := by
  obtain ⟨act, done, hworker, hdone, rfl⟩ := finishAct_eq_some h
  refine Passed.of_items hinv hconnected rfl rfl rfl ?_
  have hown := actsFor_own client (processDevAct_spec s.cb drivers act done hdone).1
  have hitem : List.Forall₂ Progress (actsFor client [act]) (respsFor client done.notices) := by
    by_cases hreply : act.reply = some client
    · obtain ⟨resp, hone⟩ := processDevAct_one s.cb drivers act done hdone client hreply
      have hmem : resp ∈ done.notices.filter (isFor client) := hone ▸ List.mem_singleton_self _
      obtain ⟨hnotice, hfor⟩ := List.mem_filter.mp hmem
      simp only [isFor, Bool.and_eq_true, Bool.not_eq_true', decide_eq_true_eq] at hfor
      have hanswers : Answers act resp :=
        ⟨s.cb, drivers, done, hdone, hnotice, hfor.1, hfor.2.trans hreply.symm⟩
      have hact : actsFor client [act] = [.act act] := by simp [actsFor, hreply]
      rw [hact, respsFor, hone]
      exact .cons (.answered hanswers) .nil
    · have hact : actsFor client [act] = [] := by simp [actsFor, hreply]
      rw [hact, respsFor, processDevAct_none s.cb drivers act done hdone client hreply]
      exact .nil
  simp only [pipeline, hworker, workerItems_notifying, hown, List.append_assoc]
  rw [workerItems]
  exact List.rel_append (progress_refl _) (List.rel_append (progress_refl _)
    (List.rel_append hitem (progress_refl _)))

theorem setWorker_passed {client : Reply} {s : PoolState} {a : Step} (worker : Worker)
    (hinv : PoolInv { s with worker := worker }) (hconnected : Connected client s)
    (hasked : asked client a = []) (hcall : isCall client a = false)
    (hitems : workerItems client worker = workerItems client s.worker) :
    Passed client s a { s with worker := worker } := by
  refine Passed.of_items hinv hconnected hasked hcall rfl ?_
  have hsame : pipeline client { s with worker := worker } = pipeline client s := by
    simp only [pipeline, hitems]
  rw [hsame]
  exact progress_refl _

theorem notifyCheck_passed {client : Reply} {s s' : PoolState} (hinv : PoolInv s')
    (hconnected : Connected client s) (h : notifyCheck s = some s') :
    Passed client s .notifyCheck s' := by
  rcases notifyCheck_cases h with ⟨cnt, hworker, rfl⟩ | ⟨resp, rest, cnt, hworker, hround⟩
  · exact setWorker_passed _ hinv hconnected rfl rfl (by rw [hworker]; rfl)
  · rcases hround with ⟨k, hmatched, rfl, rfl⟩ | ⟨k, rfl, hunmatched, rfl⟩ | ⟨hend, rfl⟩
    · exact setWorker_passed _ hinv hconnected rfl rfl (by rw [hworker]; rfl)
    · apply setWorker_passed _ hinv hconnected rfl rfl
      rw [hworker]
      apply scanItems_succ
      intro hfor hhere
      have hslot : k = client.slot := Fin.ext hhere
      have hmatched := (isFor_addressedTo hfor k).mpr hslot
      rw [hunmatched (hslot ▸ hconnected.1)] at hmatched
      contradiction
    · apply setWorker_passed _ hinv hconnected rfl rfl
      have hpast : ¬cnt ≤ client.slot.val := by
        have hslot := client.slot.isLt
        omega
      rw [hworker, workerItems_notifying, workerItems, scanItems, if_neg hpast, List.nil_append]

/-- A matched response goes from the scan to the end of the queue of its context. -/
theorem notifyPush_passed {client : Reply} {s s' : PoolState} (hinv : PoolInv s')
    (hconnected : Connected client s) (h : notifyPush s = some s') :
    Passed client s .notifyPush s' := by
  obtain ⟨resp, rest, k, hmatched, hworker, rfl⟩ := notifyPush_eq_some h
  have hconnected' : Connected client (pushResp s k resp) := by
    apply hconnected.setContext
    rintro rfl
    exact hconnected
  refine Passed.of_items hinv hconnected' rfl rfl rfl ?_
  have hsame : pipeline client { pushResp s k resp with
      worker := .notifying (resp :: rest) (k.val + 1) } = pipeline client s := by
    by_cases hfor : isFor client resp = true
    · have hk := (isFor_addressedTo hfor k).mp hmatched
      subst hk
      have hpushed : ((pushResp s client.slot resp).context client.slot).queue =
          (s.context client.slot).queue ++ [resp] := by
        rw [pushResp, setContext_self]
      simp only [pipeline, hworker, workerItems, scanItems, hpushed, respsFor_append,
        if_pos (Nat.le_refl _), if_neg (Nat.not_succ_le_self _), List.append_assoc,
        List.nil_append]
      rfl
    · have hfalse := Bool.not_eq_true _ ▸ hfor
      have hqueue : pipeline client (pushResp s k resp) = pipeline client s := by
        apply pipeline_setContext
        intro _
        rw [respsFor_append, respsFor_of_not_isFor hfalse, List.append_nil]
      rw [← hqueue]
      have hscan := scanItems_succ client resp rest k.val (fun htrue => absurd htrue hfor)
      have hpushed : (pushResp s k resp).worker = .pushing resp rest k hmatched := hworker
      simp only [pipeline, hpushed, workerItems, hscan]
  rw [hsame]
  exact progress_refl _

theorem wake_passed {client : Reply} {s s' : PoolState} {k : Slot} (hinv : PoolInv s')
    (hconnected : Connected client s) (h : wake s k = some s') :
    Passed client s (.wake k) s' := by
  obtain ⟨-, -, -, rfl⟩ := wake_eq_some h
  exact setContext_passed k _ hinv hconnected rfl rfl rfl rfl fun hk => hk ▸ hconnected.1

theorem filter_isDirect_queued (client : Reply) (log : List Written) (sock : ℕ)
    (resp : HsbResp Reply) (bytes : List UInt8) :
    (log ++ [Written.queued sock resp bytes]).filter (isDirect client) =
      log.filter (isDirect client) := by
  rw [List.filter_append]
  simp [isDirect]

/-- The response at the head of the client's queue goes to its socket. -/
theorem drain_own_passed {client : Reply} {s : PoolState} {resp : HsbResp Reply}
    {rest : List (HsbResp Reply)} {bytes : List UInt8}
    (hinv' : PoolInv { s.setContext client.slot { s.context client.slot with queue := rest } with
      log := s.log ++ [.queued (s.context client.slot).tcpSockfd resp bytes] })
    (hconnected : Connected client s) (hqueue : (s.context client.slot).queue = resp :: rest) :
    Passed client s (.drain client.slot true)
      { s.setContext client.slot { s.context client.slot with queue := rest } with
        log := s.log ++ [.queued (s.context client.slot).tcpSockfd resp bytes] } := by
  have hconnected' : Connected client
      (s.setContext client.slot { s.context client.slot with queue := rest }) :=
    hconnected.setContext _ _ fun _ => hconnected
  refine Passed.of_items hinv' hconnected' rfl rfl (filter_isDirect_queued _ _ _ _ _) ?_
  have hwritten : delivered client [.queued (s.context client.slot).tcpSockfd resp bytes] =
      respsFor client [resp] := by
    cases hfor : isFor client resp with
    | false => simp [delivered, deliveredItem, respsFor, hfor]
    | true => simp [delivered, deliveredItem, respsFor, hfor, hconnected.2]
  have hleft : ((s.setContext client.slot
      { s.context client.slot with queue := rest }).context client.slot).queue = rest := by
    rw [setContext_self]
  have hsame : pipeline client { s.setContext client.slot
      { s.context client.slot with queue := rest } with
        log := s.log ++ [.queued (s.context client.slot).tcpSockfd resp bytes] } =
      pipeline client s := by
    simp only [pipeline, hleft, delivered_append, hwritten, hqueue,
      respsFor_cons client resp rest, List.append_assoc]
    rfl
  rw [hsame]
  exact progress_refl _

/-- What another context writes is not for the client. -/
theorem drain_other_passed {client : Reply} {s : PoolState} {k : Slot} {resp : HsbResp Reply}
    {rest : List (HsbResp Reply)} {bytes : List UInt8}
    (hinv' : PoolInv { s.setContext k { s.context k with queue := rest } with
      log := s.log ++ [.queued (s.context k).tcpSockfd resp bytes] })
    (hconnected : Connected client s) (hk : k ≠ client.slot)
    (hmatched : addressedTo resp k = true) :
    Passed client s (.drain k true)
      { s.setContext k { s.context k with queue := rest } with
        log := s.log ++ [.queued (s.context k).tcpSockfd resp bytes] } := by
  have hconnected' : Connected client (s.setContext k { s.context k with queue := rest }) :=
    hconnected.setContext _ _ fun hsame => absurd hsame hk
  refine Passed.of_items hinv' hconnected' rfl rfl (filter_isDirect_queued _ _ _ _ _) ?_
  have hother : delivered client [.queued (s.context k).tcpSockfd resp bytes] = [] := by
    have hfor : isFor client resp = false := by
      by_contra hfor
      exact hk ((isFor_addressedTo (Bool.not_eq_false _ ▸ hfor) k).mp hmatched)
    simp [delivered, deliveredItem, hfor]
  have hsame : pipeline client { s.setContext k { s.context k with queue := rest } with
      log := s.log ++ [.queued (s.context k).tcpSockfd resp bytes] } =
      pipeline client (s.setContext k { s.context k with queue := rest }) := by
    simp only [pipeline, delivered_append, hother, List.append_nil]
    rfl
  rw [hsame, pipeline_setContext s k _ fun heq => absurd heq hk]
  exact progress_refl _

theorem drain_passed {client : Reply} {s s' : PoolState} {k : Slot} {wrote : Bool}
    (hinv : PoolInv s) (hinv' : PoolInv s') (hconnected : Connected client s)
    (hstays : k = client.slot → wrote = true) (h : drain s k wrote = some s') :
    Passed client s (.drain k wrote) s' := by
  obtain ⟨-, -, ⟨-, rfl⟩ | ⟨resp, rest, frame, hqueue, -, rfl⟩⟩ := drain_cases h
  · exact setContext_passed k _ hinv' hconnected rfl rfl rfl rfl fun hk => hk ▸ hconnected.1
  · cases wrote with
    | true =>
      rw [if_pos rfl] at hinv' ⊢
      by_cases hk : k = client.slot
      · subst hk
        exact drain_own_passed hinv' hconnected hqueue
      · have hmatched := hinv.addressed k resp (hqueue ▸ List.mem_cons_self)
        exact drain_other_passed hinv' hconnected hk hmatched
    | false =>
      have hk : k ≠ client.slot := fun hsame => Bool.false_ne_true (hstays hsame)
      rw [if_neg Bool.false_ne_true] at hinv' ⊢
      refine Passed.of_items hinv' (hconnected.setContext k _ fun hsame => absurd hsame hk) rfl rfl
        rfl ?_
      rw [pipeline_setContext s k _ fun hsame => absurd hsame hk]
      exact progress_refl _

theorem event_passed {client : Reply} {s : PoolState} (k : Slot) (event : HsbEvt)
    (hinv : PoolInv (pushResp s k ⟨.event event, none⟩)) (hconnected : Connected client s) :
    Passed client s (.event k event) (pushResp s k ⟨.event event, none⟩) := by
  refine Passed.of_items hinv (hconnected.setContext k _ ?_) rfl rfl rfl ?_
  · rintro rfl
    exact hconnected
  · have hsame : pipeline client (pushResp s k ⟨.event event, none⟩) = pipeline client s := by
      apply pipeline_setContext
      intro _
      rw [respsFor_append, respsFor_event client _ rfl, List.append_nil]
    rw [hsame]
    exact progress_refl _

theorem box_passed {client : Reply} {s : PoolState} (cb : HsbDeviceCb Reply)
    (acts : List HsbActBody)
    (hinv : PoolInv
      { s with cb := pushOwnActs { cb with asyncQueue := s.cb.asyncQueue } acts })
    (hconnected : Connected client s) :
    Passed client s (.box cb acts)
      { s with cb := pushOwnActs { cb with asyncQueue := s.cb.asyncQueue } acts } := by
  refine Passed.of_items hinv hconnected rfl rfl rfl ?_
  have hown := actsFor_own client
    (pushOwnActs_queues { cb with asyncQueue := s.cb.asyncQueue } acts)
  simp only [pipeline, hown]
  exact progress_refl _

theorem step_passed {client : Reply} {s s' : PoolState} {a : Step} (hinv : PoolInv s)
    (hconnected : Connected client s) (hstays : Stays client a) (h : step s a = some s') :
    Passed client s a s' := by
  have hinv' := step_poolInv hinv h
  cases a with
  | connect =>
    cases Option.some.inj h
    exact connect_passed hinv' hconnected
  | request k buf len => exact request_passed hinv hinv' hconnected h
  | disconnect k => exact disconnect_passed hinv' hconnected hstays h
  | takeAct => exact takeAct_passed hinv' hconnected h
  | finishAct drivers => exact finishAct_passed hinv' hconnected h
  | notifyCheck => exact notifyCheck_passed hinv' hconnected h
  | notifyPush => exact notifyPush_passed hinv' hconnected h
  | wake k => exact wake_passed hinv' hconnected h
  | drain k wrote => exact drain_passed hinv hinv' hconnected hstays h
  | event k event =>
    cases Option.some.inj h
    exact event_passed k event hinv' hconnected
  | box cb acts =>
    cases Option.some.inj h
    exact box_passed cb acts hinv' hconnected

end HomeSecurityBox.OneReply
