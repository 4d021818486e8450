import HomeSecurityBox.Base.Pipeline
import HomeSecurityBox.UnlockedPop

/-!
One message for every request of a connected client. Whatever the threads do, a call of
`deal_tcp_packet` writes one reply or queues one act, and every act of the client turns into
one response on its socket, in the order of the requests. It takes pushes that keep away from
the pops: of a push that falls into a pop the response may be lost.
-/

namespace HomeSecurityBox.AnsweredCalls

open ByteMemory Protocol DeviceData DevAct TcpPacket Notify ClientPool ResponseRouting OneReply
  PadDialogue EventFanout WrittenFrames UnlockedPop Pipeline Transitions

/-- The client reads a result or a response out of the bytes. -/
def readsReply (bytes : List UInt8) : Bool := (messageIn bytes).any isReply

/-- A reply that a call writes to the socket of the client. -/
def isReplyAtOnce (client : Reply) : Written → Bool
  | .direct sock _ bytes => sock == client.conn && readsReply bytes
  | .queued _ _ _ => false

/-- A response to an act of the client on its socket. -/
def isResponse (client : Reply) : Written → Bool
  | .direct _ _ _ => false
  | .queued sock resp bytes =>
      sock == client.conn && decide (resp.reply = some client) && readsReply bytes

/-- The messages for the client that it can read from its socket. -/
def messageCount (client : Reply) (log : List Written) : ℕ :=
  log.countP (isReplyAtOnce client) + log.countP (isResponse client)

/-- The acts and responses of the client that have not been written. -/
def waiting (client : Reply) (s : PoolState) : List Item :=
  respsFor client (s.context client.slot).queue ++ workerItems client s.worker ++
    actsFor client s.cb.asyncQueue

variable {T : Type} [DecidableEq T]

/-- The step handles an accepted frame of the client. -/
def isCallOf (client : Reply) (a : PopStep T) : Bool := a.label.any (isCall client)

/-- The acts that a step queues for the client. -/
def requestedBy (client : Reply) (a : PopStep T) : List (HsbAct Reply) :=
  a.label.toList.flatMap (asked client)

def calls (client : Reply) (steps : List (PopStep T)) : ℕ := steps.countP (isCallOf client)

def requested (client : Reply) (steps : List (PopStep T)) : List (HsbAct Reply) :=
  steps.flatMap (requestedBy client)

/-- Each call is answered at once or by its act, the acts by their responses in the order of
the requests, and every write is one packet that can be read; so the messages on the socket
and what still waits grow by one with each call. -/
structure Answered (client : Reply) (s : PopState T) (steps : List (PopStep T)) (t : PopState T) :
    Prop where
  atOnce : t.fan.pool.log.countP (isReplyAtOnce client) + (requested client steps).length =
    s.fan.pool.log.countP (isReplyAtOnce client) + calls client steps
  inOrder : List.Forall₂ Progress
    (pipeline client s.fan.pool ++ (requested client steps).map .act) (pipeline client t.fan.pool)
  counted : messageCount client t.fan.pool.log + (waiting client t.fan.pool).length =
    messageCount client s.fan.pool.log + (waiting client s.fan.pool).length + calls client steps
  packets : ∀ w ∈ t.fan.pool.log, Framed w

theorem isReply_respMessage (resp : HsbResp Reply) :
    isReply (respMessage resp) = !resp.body.isEvent := by
  obtain ⟨body, reply⟩ := resp
  cases body <;> rfl

theorem isReplyAtOnce_of_framed {client : Reply} {w : Written} (h : Framed w) :
    isReplyAtOnce client w = isDirect client w := by
  cases w with
  | direct sock origin bytes =>
    obtain ⟨message, hreply, hread⟩ := h
    simp only [isReplyAtOnce, isDirect, readsReply, hread.messageIn, Option.any_some, hreply,
      Bool.and_true]
  | queued sock resp bytes => rfl

theorem isResponse_of_framed {client : Reply} {w : Written} (h : Framed w) :
    isResponse client w = (deliveredItem client w).isSome := by
  cases w with
  | direct sock origin bytes => rfl
  | queued sock resp bytes =>
    have hread : readsReply bytes = !resp.body.isEvent := by
      rw [readsReply, ReadAs.messageIn h, Option.any_some, isReply_respMessage]
    have hfor : (decide (resp.reply = some client) && !resp.body.isEvent) = isFor client resp :=
      Bool.and_comm _ _
    rw [isResponse, hread, Bool.and_assoc, hfor, deliveredItem]
    by_cases hdelivered : sock = client.conn ∧ isFor client resp = true
    · rw [if_pos hdelivered, hdelivered.1, hdelivered.2, beq_self_eq_true]
      rfl
    · rw [if_neg hdelivered]
      simpa using hdelivered

theorem countP_isReplyAtOnce {client : Reply} {log : List Written} (h : ∀ w ∈ log, Framed w) :
    log.countP (isReplyAtOnce client) = (log.filter (isDirect client)).length := by
  rw [← List.countP_eq_length_filter]
  exact List.countP_congr fun w hw => by rw [isReplyAtOnce_of_framed (h w hw)]

theorem countP_isResponse {client : Reply} {log : List Written} (h : ∀ w ∈ log, Framed w) :
    log.countP (isResponse client) = (delivered client log).length := by
  rw [delivered, List.length_filterMap_eq_countP]
  exact List.countP_congr fun w hw => by rw [isResponse_of_framed (h w hw)]

theorem pipeline_length (client : Reply) (s : PoolState) :
    (pipeline client s).length =
      (delivered client s.log).length + (waiting client s).length := by
  simp only [pipeline, waiting, List.length_append]
  omega

/-- What a step of the pool does to the client, seen with the pop in steps of its own. -/
theorem popStep_passed {client : Reply} {s s' : PopState T} {a : PopStep T}
    (hs : Attached client s) (hcalm : Calm client s a) (h : popStep s a = some s') :
    List.Forall₂ Progress (pipeline client s.fan.pool ++ (requestedBy client a).map .act)
        (pipeline client s'.fan.pool) ∧
      (s'.fan.pool.log.filter (isDirect client)).length + (requestedBy client a).length =
        (s.fan.pool.log.filter (isDirect client)).length +
          if isCallOf client a then 1 else 0 := by
  rcases popStep_pool hcalm.1 h with ⟨hlabel, hsame⟩ | ⟨k, event, hlabel, hstep⟩ |
    ⟨b, hlabel, -, hstep⟩
  · rw [requestedBy, isCallOf, hlabel, hsame]
    refine ⟨?_, rfl⟩
    simpa using progress_refl _
  · have hpassed := step_passed (a := .event k event) hs.orderly.pool hs.connected trivial hstep
    rw [requestedBy, isCallOf, hlabel]
    exact ⟨hpassed.items, hpassed.directs⟩
  · have hpassed := step_passed hs.orderly.pool hs.connected (hcalm.2 b hlabel) hstep
    rw [requestedBy, isCallOf, hlabel, Option.toList_some, List.flatMap_singleton,
      Option.any_some]
    exact ⟨hpassed.items, hpassed.directs⟩

theorem run_directs {client : Reply} (steps : List (PopStep T)) :
    ∀ s t : PopState T, Attached client s → Guarded popStep (Calm client) s steps →
      run popStep s steps = some t →
      (t.fan.pool.log.filter (isDirect client)).length + (requested client steps).length =
        (s.fan.pool.log.filter (isDirect client)).length + calls client steps := by
  induction steps with
  | nil =>
    intro s t _ _ hrun
    cases Option.some.inj hrun
    rfl
  | cons a rest ih =>
    intro s t hs hcalm hrun
    obtain ⟨s', hs', hrest⟩ := run_cons_eq_some popStep s t a rest hrun
    have hnow := (popStep_passed hs hcalm.1 hs').2
    have hlater := ih s' t (attached_preserves client s a s' hs hcalm.1 hs') (hcalm.2 s' hs') hrest
    rw [requested, List.flatMap_cons, List.length_append, calls, List.countP_cons]
    simp only [requested, calls] at hlater
    omega

/-- Two GET_STATUS of a client, up to the wake-up of its handler by the first response. -/
def askedTwice : List (PopStep Bool) :=
  [.fan (.pool (.request firstClient statusPacket 8))] ++
    [.fan (.pool (.request firstClient statusPacket 8)), .fan (.pool .takeAct)] ++
    [.fan (.pool (.finishAct silentDrivers)), .fan (.pool .notifyCheck)] ++
    [.fan (.pool .notifyPush), .fan (.pool (.wake firstClient))]

/-- The worker goes past the other contexts and on to the second request. -/
def secondResponse : List (PopStep Bool) :=
  List.replicate 6 (.fan (.pool .notifyCheck)) ++
    [.fan (.pool .takeAct), .fan (.pool (.finishAct silentDrivers)), .fan (.pool .notifyCheck)]

def poppedAndWritten : List (PopStep Bool) :=
  [.enter firstClient, .leave firstClient, .fan (.pool (.drain firstClient true))]

/-- The second push comes between two pops. -/
def twoCalls : List (PopStep Bool) :=
  askedTwice ++ poppedAndWritten ++ secondResponse ++ [.fan (.pool .notifyPush)] ++
    poppedAndWritten

/-- The second push falls into the pop of the first response: it appends behind the node that
the pop takes out as the last one, and the list is empty then. -/
def tornCalls : List (PopStep Bool) :=
  askedTwice ++ secondResponse ++ [.enter firstClient, .torn (.pool .notifyPush) []] ++
    [.leave firstClient, .fan (.pool (.drain firstClient true))] ++
    [.fan (.pool (.drain firstClient true))]

def asker : Reply := ⟨firstClient, 0⟩

def askerConnected : PopState Bool := { fan := { pool := connect {}, thread := fun _ => .idle } }

end HomeSecurityBox.AnsweredCalls
