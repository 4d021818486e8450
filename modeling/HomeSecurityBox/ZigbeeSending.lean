import HomeSecurityBox.Base.SharedBuffer
import HomeSecurityBox.ZigbeeLink

/-!
What reaches the UART. The send buffer of the context is a shared buffer whose
tokens are the datagrams, on their way or just received: operations write it, the
monitor reads it once for each datagram. A probe does not wait for an answer, and
a time-out ends a wait whether or not the monitor has come round.
-/

namespace HomeSecurityBox.ZigbeeSending

open ByteMemory Transitions Protocol DeviceData Zigbee ZigbeeLink SharedBuffer

/-- The datagrams that the monitor has not answered with a write yet. -/
def outstanding (s : LinkState) : ℕ :=
  match s.monitor with
  | .sending => s.notified + 1
  | _ => s.notified

/-- The send path as a shared buffer. -/
def sendPath (s : LinkState) : Buffer (List UInt8) where
  content := s.sendBuf
  tokens := outstanding s
  written := s.issued.map Frame.bytes
  read := s.uart

/-- The frame that a step puts into the send buffer, if it does. -/
def newFrame (s : LinkState) : Step → Option Frame
  | .czProbe wbuf => some (probeFrame wbuf)
  | .request op wbuf =>
      (findDevById s.queue op.devid).bind fun dev => op.frame wbuf dev s.transId
  | _ => none

/-- The condition on a step: a frame is put into the send buffer when the monitor has
written the one before, or when it is the same again. -/
def BufferFree (s : LinkState) (a : Step) : Prop :=
  ∀ frame, newFrame s a = some frame → outstanding s = 0 ∨ s.sendBuf = frame.bytes

theorem sendPath_sendFrame (s : LinkState) (frame : Frame) :
    sendPath (sendFrame s frame) = (sendPath s).write frame.bytes := by
  have htokens : outstanding (sendFrame s frame) = outstanding s + 1 := by
    unfold outstanding sendFrame
    cases s.monitor <;> rfl
  have hwritten : (s.issued ++ [frame]).map Frame.bytes =
      s.issued.map Frame.bytes ++ [frame.bytes] := by
    rw [List.map_append, List.map_singleton]
  simp only [sendPath, Buffer.write, htokens]
  simp only [sendFrame, hwritten]

theorem sendPath_congr {s s' : LinkState} (hsendBuf : s'.sendBuf = s.sendBuf)
    (houtstanding : outstanding s' = outstanding s) (hissued : s'.issued = s.issued)
    (huart : s'.uart = s.uart) : sendPath s' = sendPath s := by
  simp only [sendPath, hsendBuf, houtstanding, hissued, huart]

/-- A step of the link is a write, a read or no step of the send path. -/
theorem step_sendPath (s s' : LinkState) (a : Step) (h : step s a = some s') :
    (∃ frame, newFrame s a = some frame ∧ sendPath s' = (sendPath s).write frame.bytes) ∨
      (0 < (sendPath s).tokens ∧ sendPath s' = (sendPath s).consume) ∨
      sendPath s' = sendPath s := by
  cases a with
  | czProbe wbuf =>
    obtain ⟨-, rfl⟩ := czProbe_eq_some h
    exact Or.inl ⟨_, rfl, sendPath_sendFrame s (probeFrame wbuf)⟩
  | request op wbuf =>
    obtain ⟨-, ⟨-, rfl⟩ | ⟨dev, frame, hdev, hframe, rfl⟩⟩ := request_eq_some h
    · exact Or.inr (Or.inr rfl)
    · refine Or.inl ⟨frame, ?_, sendPath_sendFrame s frame⟩
      rw [newFrame, hdev, Option.bind_some, hframe]
  | expire =>
    obtain ⟨op, frame, -, rfl⟩ := expire_eq_some h
    exact Or.inr (Or.inr rfl)
  | resume =>
    obtain ⟨op, frame, ⟨-, rfl⟩ | ⟨ret, -, -, rfl⟩⟩ := resume_eq_some h
    · exact Or.inr (Or.inr rfl)
    · exact Or.inr (Or.inr rfl)
  | recvDatagram =>
    obtain ⟨hidle, hpos, rfl⟩ := recvDatagram_eq_some h
    refine Or.inr (Or.inr (sendPath_congr rfl ?_ rfl rfl))
    simp only [outstanding, hidle]
    omega
  | writeUart =>
    obtain ⟨hsending, rfl⟩ := writeUart_eq_some h
    have htokens : (sendPath s).tokens = s.notified + 1 := by
      simp only [sendPath, outstanding, hsending]
    refine Or.inr (Or.inl ⟨by omega, ?_⟩)
    simp only [sendPath, Buffer.consume, outstanding, hsending, Nat.add_sub_cancel]
  | recvFrame buf len =>
    obtain ⟨hidle, rfl | ⟨long, -, rfl⟩⟩ := recvFrame_eq_some h
    · exact Or.inr (Or.inr rfl)
    · refine Or.inr (Or.inr (sendPath_congr rfl ?_ rfl rfl))
      simp only [outstanding, hidle]
  | deliver =>
    obtain ⟨buf, len, long, hmatched, ⟨-, rfl⟩ | ⟨-, rfl⟩⟩ := deliver_eq_some h
    · refine Or.inr (Or.inr (sendPath_congr rfl ?_ rfl rfl))
      simp only [outstanding, hmatched]
    · refine Or.inr (Or.inr (sendPath_congr rfl ?_ rfl rfl))
      simp only [outstanding, hmatched]
  | devices queue =>
    rw [← Option.some.inj h]
    exact Or.inr (Or.inr rfl)

theorem step_preserves : Preserves step BufferFree (fun s => (sendPath s).Faithful) := by
  intro s a s' hfaithful hfree h
  rcases step_sendPath s s' a h with ⟨frame, hnew, hwrite⟩ | ⟨htokens, hread⟩ | hsame
  · rw [hwrite]
    exact hfaithful.write frame.bytes (hfree frame hnew)
  · rw [hread]
    exact hfaithful.consume htokens
  · rw [hsame]
    exact hfaithful

/-- In every run of both threads in which each frame is put into a free buffer, the
UART has the frames of the operations in order, each once: all of them when no
datagram is outstanding, and the first ones at any time. -/
theorem frames_sent_once_in_order (queue : List CzDev) (steps : List Step) (s : LinkState)
    (hfree : Guarded step BufferFree (initCzDrv queue) steps)
    (hrun : run step (initCzDrv queue) steps = some s) :
    s.uart <+: s.issued.map Frame.bytes ∧
      (outstanding s = 0 → s.uart = s.issued.map Frame.bytes) := by
  have hfaithful : (sendPath s).Faithful :=
    run_invariant_guarded step_preserves steps (initCzDrv queue) s rfl hfree hrun
  exact ⟨hfaithful.read_prefix, hfaithful.all_read⟩

/-- The monitor writes the probe before the next operation fills the buffer. -/
def alternateSteps : List Step :=
  [.czProbe zeros, .recvDatagram, .writeUart, .request lampAction zeros, .recvDatagram,
    .writeUart]

def overtakingSteps : List Step :=
  [.czProbe zeros, .request lampAction zeros, .recvDatagram, .writeUart, .recvDatagram,
    .writeUart]

def lampFrame : Frame := setActionFrame zeros lampDev 1 { devid := 5 }

theorem bufferFree_of_none {s : LinkState} {a : Step} (h : newFrame s a = none) :
    BufferFree s a := by
  intro frame hframe
  rw [h] at hframe
  contradiction

theorem alternate_frames_sent :
    ∃ s, run step (initCzDrv [lampDev]) alternateSteps = some s ∧
      s.uart = [(probeFrame zeros).bytes, lampFrame.bytes] ∧
      s.uart <+: s.issued.map Frame.bytes ∧
        (outstanding s = 0 → s.uart = s.issued.map Frame.bytes) := by
  have huart : (run step (initCzDrv [lampDev]) alternateSteps).map LinkState.uart =
      some [(probeFrame zeros).bytes, lampFrame.bytes] := rfl
  obtain ⟨s, hrun, hs⟩ := Option.map_eq_some_iff.mp huart
  refine ⟨s, hrun, hs, frames_sent_once_in_order [lampDev] alternateSteps s ?_ hrun⟩
  refine ⟨fun _ _ => Or.inl rfl, fun s₁ h₁ => ⟨bufferFree_of_none rfl, fun s₂ h₂ =>
    ⟨bufferFree_of_none rfl, fun s₃ h₃ => ⟨fun _ _ => Or.inl ?_, fun s₄ _ =>
      ⟨bufferFree_of_none rfl, fun s₅ _ => ⟨bufferFree_of_none rfl, fun _ _ => trivial⟩⟩⟩⟩⟩⟩
  obtain rfl := Option.some.inj h₁
  obtain rfl := Option.some.inj h₂
  obtain rfl := Option.some.inj h₃
  rfl

/-- The action overwrites the probe, and its frame goes out twice. -/
theorem overtaken_frame_lost :
    ∃ s, run step (initCzDrv [lampDev]) overtakingSteps = some s ∧
      outstanding s = 0 ∧ s.issued.map Frame.bytes = [(probeFrame zeros).bytes, lampFrame.bytes] ∧
      s.uart = [lampFrame.bytes, lampFrame.bytes] ∧ ¬ s.uart = s.issued.map Frame.bytes := by
  have hlogs : (run step (initCzDrv [lampDev]) overtakingSteps).map
        (fun s => (outstanding s, s.issued.map Frame.bytes, s.uart)) =
      some (0, [(probeFrame zeros).bytes, lampFrame.bytes],
        [lampFrame.bytes, lampFrame.bytes]) := rfl
  obtain ⟨s, hrun, hs⟩ := Option.map_eq_some_iff.mp hlogs
  simp only [Prod.mk.injEq] at hs
  obtain ⟨hnone, hissued, huart⟩ := hs
  refine ⟨s, hrun, hnone, hissued, huart, ?_⟩
  intro hsame
  rw [huart, hissued] at hsame
  have hlength : lampFrame.bytes.length = (probeFrame zeros).bytes.length :=
    congrArg List.length (List.cons.inj hsame).1
  contradiction

end HomeSecurityBox.ZigbeeSending
