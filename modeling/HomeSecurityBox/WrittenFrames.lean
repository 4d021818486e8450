import HomeSecurityBox.ClientPool
import HomeSecurityBox.DeviceList
import HomeSecurityBox.PadDialogue

/-!
What the handlers write. Every write to a socket is one packet: what the dispatcher writes
is a reply, and what comes out of the queue of a context is the response or the event that
was put in. The client takes both out of the bytes, whatever its buffer held before.
-/

namespace HomeSecurityBox.WrittenFrames

open ByteMemory Protocol DeviceData Device DevAct TcpPacket Notify ClientPool PadSim ReplyCodec
  StatusCodec PadDialogue DeviceList Transitions

/-- The bytes are one packet, and the client reads the message out of them. -/
structure ReadAs (bytes : List UInt8) (message : PadMessage) : Prop where
  read : ∀ stale, dealTcpPkt (load bytes stale) = message
  size : ∀ stale, (get16 (load bytes stale) 2).toNat = bytes.length

theorem readAs_of_decodes {capacity : ℕ} {frame : Frame} {message : PadMessage}
    (h : Decodes capacity frame message) : ReadAs frame.bytes message := ⟨h.read, h.size⟩

/-- A result or one of the responses. -/
def isReply : PadMessage → Bool
  | .event _ | .unknown _ => false
  | .devs _ | .info .. | .status .. | .timer .. | .delay .. | .linkage .. | .result _ => true

/-- The message of the bytes, if they are one packet. -/
def messageIn (bytes : List UInt8) : Option PadMessage :=
  if (get16 (load bytes zeros) 2).toNat = bytes.length then some (dealTcpPkt (load bytes zeros))
  else none

theorem ReadAs.messageIn {bytes : List UInt8} {message : PadMessage} (h : ReadAs bytes message) :
    messageIn bytes = some message := by
  rw [WrittenFrames.messageIn, if_pos (h.size zeros), h.read zeros]

/-- The arrays of the dispatcher have room for the list of the devices. -/
def Roomy (s : PoolState) : Step → Prop
  | .request _ buf _ =>
      HsbCmd.ofCode (get16 buf 0) = some .getDevs → (getDevIdList s.cb).length ≤ devIdSize
  | _ => True

instance (s : PoolState) : (a : Step) → Decidable (Roomy s a)
  | .request _ buf _ => inferInstanceAs (Decidable
      (HsbCmd.ofCode (get16 buf 0) = some .getDevs → (getDevIdList s.cb).length ≤ devIdSize))
  | .connect | .disconnect _ | .takeAct | .finishAct _ | .notifyCheck | .notifyPush | .wake _
  | .drain _ _ | .event _ _ | .box _ _ => inferInstanceAs (Decidable True)

section

variable {ρ : Type}

theorem readAs_result (code : ℤ) :
    ∃ message, isReply message = true ∧ ReadAs (replyResult zeros code).bytes message :=
  ⟨.result (UInt16.ofInt code), rfl,
    readAs_of_decodes (replyResult_decodes zeros code replyBufSize (by decide) (by decide))⟩

theorem answer_frame {α : Type} (cb : HsbDeviceCb ρ) (found : Except ℤ α) (encode : α → Frame)
    (h : ∀ a, ∃ message, isReply message = true ∧ ReadAs (encode a).bytes message) :
    ∀ frame ∈ (answer cb found encode).frame,
      ∃ message, isReply message = true ∧ ReadAs frame.bytes message := by
  intro frame hframe
  cases found with
  | ok a =>
    cases Option.some.inj hframe
    exact h a
  | error code =>
    cases Option.some.inj hframe
    exact readAs_result code

theorem confirm_frame (cb : HsbDeviceCb ρ) (stored : Except ℤ (HsbDeviceCb ρ)) :
    ∀ frame ∈ (confirm cb stored).frame,
      ∃ message, isReply message = true ∧ ReadAs frame.bytes message := by
  intro frame hframe
  cases stored with
  | ok cb' =>
    cases Option.some.inj hframe
    exact readAs_result _
  | error code =>
    cases Option.some.inj hframe
    exact readAs_result code

/-- What a command is answered at once is a reply. -/
theorem dispatchCmd_frame (cb : HsbDeviceCb ρ) (buf : Memory) (len : ℕ) (reply : ρ) (cmd : UInt16)
    (hroom : HsbCmd.ofCode cmd = some .getDevs → (getDevIdList cb).length ≤ devIdSize) :
    ∀ frame ∈ (dispatchCmd cb buf len reply cmd).frame,
      ∃ message, isReply message = true ∧ ReadAs frame.bytes message := by
  intro frame hframe
  unfold dispatchCmd at hframe
  cases hcmd : HsbCmd.ofCode cmd with
  | none =>
    rw [hcmd] at hframe
    cases Option.some.inj hframe
    exact readAs_result 0
  | some c =>
    rw [hcmd] at hframe
    cases c
    case getDevs =>
      cases Option.some.inj hframe
      exact ⟨_, rfl, readAs_of_decodes (replyDevIdList_decodes zeros _ (hroom hcmd))⟩
    case getInfo =>
      exact answer_frame cb _ _
        (fun dev => ⟨_, rfl, readAs_of_decodes (replyGetDeviceInfo_decodes zeros dev)⟩) _ hframe
    case getTimer =>
      exact answer_frame cb _ _
        (fun timer => ⟨_, rfl, readAs_of_decodes (replyGetTimer_decodes zeros _ timer)⟩) _ hframe
    case getDelay =>
      exact answer_frame cb _ _
        (fun delay => ⟨_, rfl, readAs_of_decodes (replyGetDelay_decodes zeros _ delay)⟩) _ hframe
    case getLinkage =>
      exact answer_frame cb _ _
        (fun link => ⟨_, rfl, readAs_of_decodes (replyGetLinkage_decodes zeros _ link)⟩) _ hframe
    case setTimer | delTimer | setDelay | delDelay | setLinkage | delLinkage =>
      exact confirm_frame cb _ _ hframe
    case getStatus | setStatus | probeDev => contradiction
    case doAction =>
      simp only at hframe
      cases haction : readAction buf with
      | error code =>
        rw [haction] at hframe
        cases Option.some.inj hframe
        exact readAs_result code
      | ok act =>
        rw [haction] at hframe
        contradiction
    all_goals
      cases Option.some.inj hframe
      exact readAs_result 0

/-- Behind every call the socket has a reply, if anything. -/
theorem dealTcpPacket_readAs (cb : HsbDeviceCb ρ) (buf : Memory) (len : ℕ) (reply : ρ)
    (hroom : HsbCmd.ofCode (get16 buf 0) = some .getDevs → (getDevIdList cb).length ≤ devIdSize) :
    ∀ bytes ∈ (dealTcpPacket cb buf len reply).written,
      ∃ message, isReply message = true ∧ ReadAs bytes message := by
  intro bytes hbytes
  unfold dealTcpPacket at hbytes
  split at hbytes
  · contradiction
  · obtain ⟨frame, hframe, rfl⟩ := Option.mem_map.mp hbytes
    exact dispatchCmd_frame cb buf len reply _ hroom frame hframe

/-- A frame that `_make_notify_resp` can build carries the response or the event. -/
theorem notice_readAs {resp : HsbResp ρ} {frame : Frame} (h : makeNotifyResp resp = some frame) :
    ReadAs frame.bytes (respMessage resp) := by
  obtain ⟨body, reply⟩ := resp
  cases body with
  | event event =>
    obtain ⟨frame', hframe, hdecodes⟩ := notifyEvent_decodes event
    cases Option.some.inj (h.symm.trans hframe)
    exact readAs_of_decodes hdecodes
  | result retVal =>
    cases Option.some.inj h
    exact readAs_of_decodes
      (replyResult_decodes zeros retVal notifyBufSize (by decide) (by decide))
  | status status =>
    have hfew : status.num.toNat ≤ 8 := by
      obtain ⟨buf, hbuf, -⟩ := Option.map_eq_some_iff.mp h
      exact (encodePairs_isSome_iff _ _ _ _ _ (by decide)).mp (Option.isSome_of_eq_some hbuf)
    obtain ⟨frame', hframe, hdecodes⟩ := notifyStatus_decodes status hfew
    cases Option.some.inj (h.symm.trans hframe)
    exact readAs_of_decodes hdecodes

end

/-- An entry of the log is one packet: a reply, or the response or event of its queue. -/
def Framed : Written → Prop
  | .direct _ _ bytes => ∃ message, isReply message = true ∧ ReadAs bytes message
  | .queued _ resp bytes => ReadAs bytes (respMessage resp)

/-- What a step writes: a request its answer, a round of `_process_notify` the frame of the
response at the head of the queue. -/
def logged (s : PoolState) : Step → List Written
  | .request k buf len =>
      let sock := (s.context k).tcpSockfd
      (dealTcpPacket s.cb buf len ⟨k, sock⟩).written.toList.map fun bytes => .direct sock sock bytes
  | .drain k true =>
      match (s.context k).queue with
      | [] => []
      | resp :: _ =>
          (makeNotifyResp resp).toList.map fun frame =>
            .queued (s.context k).tcpSockfd resp frame.bytes
  | _ => []

theorem step_log {s s' : PoolState} {a : Step} (h : step s a = some s') :
    s'.log = s.log ++ logged s a := by
  have hsame : s'.log = s.log → s'.log = s.log ++ [] := by
    intro hlog
    rw [hlog, List.append_nil]
  cases a with
  | connect =>
    cases Option.some.inj h
    apply hsame
    unfold connect
    cases s.freeContext <;> rfl
  | request k buf len =>
    obtain ⟨-, -, rfl⟩ := request_eq_some h
    rfl
  | disconnect k =>
    obtain ⟨-, -, rfl⟩ := disconnect_eq_some h
    exact hsame rfl
  | takeAct =>
    obtain ⟨act, rest, -, -, rfl⟩ := takeAct_eq_some h
    exact hsame rfl
  | finishAct drivers =>
    obtain ⟨act, done, -, -, rfl⟩ := finishAct_eq_some h
    exact hsame rfl
  | notifyCheck =>
    apply hsame
    rcases notifyCheck_cases h with ⟨cnt, -, rfl⟩ | ⟨resp, rest, cnt, -, hround⟩
    · rfl
    · rcases hround with ⟨k, hmatched, -, rfl⟩ | ⟨k, -, -, rfl⟩ | ⟨-, rfl⟩ <;> rfl
  | notifyPush =>
    obtain ⟨resp, rest, k, hmatched, -, rfl⟩ := notifyPush_eq_some h
    exact hsame rfl
  | wake k =>
    obtain ⟨-, -, -, rfl⟩ := wake_eq_some h
    exact hsame rfl
  | drain k wrote =>
    obtain ⟨-, -, ⟨hqueue, rfl⟩ | ⟨resp, rest, frame, hqueue, hframe, rfl⟩⟩ := drain_cases h
    · cases wrote with
      | false => exact hsame rfl
      | true =>
        simp only [logged, hqueue]
        exact hsame rfl
    · cases wrote with
      | false => exact hsame rfl
      | true =>
        simp only [logged, hqueue, hframe]
        rfl
  | event k event =>
    cases Option.some.inj h
    exact hsame rfl
  | box cb acts =>
    cases Option.some.inj h
    exact hsame rfl

theorem logged_framed {s : PoolState} {a : Step} (hroom : Roomy s a) :
    ∀ w ∈ logged s a, Framed w := by
  intro w hw
  cases a with
  | request k buf len =>
    obtain ⟨bytes, hbytes, rfl⟩ := List.mem_map.mp hw
    exact dealTcpPacket_readAs s.cb buf len _ hroom bytes (Option.mem_toList.mp hbytes)
  | drain k wrote =>
    cases wrote with
    | false => contradiction
    | true =>
      cases hqueue : (s.context k).queue with
      | nil =>
        simp only [logged, hqueue, List.not_mem_nil] at hw
      | cons resp rest =>
        simp only [logged, hqueue] at hw
        obtain ⟨frame, hframe, rfl⟩ := List.mem_map.mp hw
        exact notice_readAs (Option.mem_toList.mp hframe)
  | connect | disconnect _ | takeAct | finishAct _ | notifyCheck | notifyPush | wake _
  | event _ _ | box _ _ => contradiction

/-- Every write is one packet, as long as the lists of devices fit. -/
theorem framed_preserves : Preserves step Roomy fun s => ∀ w ∈ s.log, Framed w := by
  intro s a s' hs hroom h
  rw [step_log h]
  exact List.forall_mem_append.mpr ⟨hs, logged_framed hroom⟩

end HomeSecurityBox.WrittenFrames
