import HomeSecurityBox.ZigbeeLink

/-!
Which response an operation takes. The id of the shared context is that of the
waiting operation all through its wait. The comparison in `deal_recv_buf` is made
outside of the lock; under the lock only `is_waiting` is looked at, and a response
that was compared with the operation before can be handed to the next one.
-/

namespace HomeSecurityBox.ZigbeeMatching

open ByteMemory Transitions Protocol DeviceData Zigbee ZigbeeLink

/-- An operation that returns OK took a response with the id that it had sent. -/
def Completion.Matched (c : Completion) : Prop :=
  c.ret = HsbErrorNo.ok.code → ∃ id, c.sent = some id ∧ c.received = some id

structure Inv (s : LinkState) : Prop where
  sent : ∀ op frame wait, s.worker = .waiting op frame wait → transIdOf frame.buf = s.transId
  signaled : ∀ op frame, s.worker = .waiting op frame .signaled →
    transIdOf s.recvBuf = s.transId
  completed : ∀ c ∈ s.completed, Completion.Matched c

/-- The condition on a step: when a compared response comes to the lock while an
operation waits, the id of the context is still the one it was compared with. -/
def StillCurrent (s : LinkState) : Step → Prop
  | .deliver =>
      ∀ buf len long, s.monitor = .matched buf len long → s.isWaiting = true →
        transIdOf buf = s.transId
  | _ => True

/-- A step that touches neither the operation nor what it is about to take. -/
theorem Inv.of_same {s s' : LinkState} (hinv : Inv s) (hworker : s'.worker = s.worker)
    (htransId : s'.transId = s.transId) (hrecvBuf : s'.recvBuf = s.recvBuf)
    (hcompleted : s'.completed = s.completed) : Inv s' := by
  refine ⟨?_, ?_, ?_⟩
  · intro op frame wait h
    rw [htransId]
    exact hinv.sent op frame wait (hworker.symm.trans h)
  · intro op frame h
    rw [htransId, hrecvBuf]
    exact hinv.signaled op frame (hworker.symm.trans h)
  · intro c hc
    rw [hcompleted] at hc
    exact hinv.completed c hc

theorem completed_append {cs : List Completion} (h : ∀ c ∈ cs, Completion.Matched c)
    {c : Completion} (hc : Completion.Matched c) : ∀ c' ∈ cs ++ [c], Completion.Matched c' :=
  List.forall_mem_append.mpr ⟨h, List.forall_mem_singleton.mpr hc⟩

theorem finish_inv (s : LinkState) (frame : Frame) (ret : ℤ) (received : Option UInt16)
    (hinv : Inv s)
    (hmatched : ret = HsbErrorNo.ok.code → received = some (transIdOf frame.buf)) :
    Inv (finish s frame ret received) := by
  have hlast : Completion.Matched ⟨some (transIdOf frame.buf), ret, received⟩ :=
    fun hok => ⟨transIdOf frame.buf, rfl, hmatched hok⟩
  refine ⟨?_, ?_, completed_append hinv.completed hlast⟩
  · intro op frame' wait h
    exact Worker.noConfusion h
  · intro op frame' h
    exact Worker.noConfusion h

theorem request_inv (s s' : LinkState) (op : Operation) (wbuf : Memory) (hinv : Inv s)
    (h : request s op wbuf = some s') : Inv s' := by
  obtain ⟨-, ⟨-, rfl⟩ | ⟨dev, frame, -, hframe, rfl⟩⟩ := request_eq_some h
  · refine ⟨hinv.sent, hinv.signaled, completed_append hinv.completed ?_⟩
    intro hok
    contradiction
  · refine ⟨?_, ?_, hinv.completed⟩
    · intro op' frame' wait hworker
      obtain ⟨-, rfl, -⟩ := Worker.waiting.inj hworker
      exact (operation_frame_fields op wbuf dev s.transId frame hframe).1
    · intro op' frame' hworker
      obtain ⟨-, -, hwait⟩ := Worker.waiting.inj hworker
      contradiction

theorem expire_inv (s s' : LinkState) (hinv : Inv s) (h : expire s = some s') : Inv s' := by
  obtain ⟨op, frame, hblocked, rfl⟩ := expire_eq_some h
  refine ⟨?_, ?_, hinv.completed⟩
  · intro op' frame' wait hworker
    obtain ⟨-, rfl, -⟩ := Worker.waiting.inj hworker
    exact hinv.sent op frame .blocked hblocked
  · intro op' frame' hworker
    obtain ⟨-, -, hwait⟩ := Worker.waiting.inj hworker
    contradiction

theorem resume_inv (s s' : LinkState) (hinv : Inv s) (h : resume s = some s') : Inv s' := by
  obtain ⟨op, frame, ⟨-, rfl⟩ | ⟨ret, hsignaled, -, rfl⟩⟩ := resume_eq_some h
  · apply finish_inv s _ _ _ hinv
    intro hok
    contradiction
  · apply finish_inv s _ _ _ hinv
    intro _
    have hsent := hinv.sent op frame .signaled hsignaled
    have hreceived := hinv.signaled op frame hsignaled
    rw [hsent, hreceived]

theorem signal_waiting (worker : Worker) (op : Operation) (frame : Frame) (wait : Wait)
    (h : signal worker = .waiting op frame wait) :
    ∃ wait', worker = .waiting op frame wait' := by
  unfold signal at h
  split at h
  · obtain ⟨rfl, rfl, -⟩ := Worker.waiting.inj h
    exact ⟨.blocked, rfl⟩
  · exact ⟨wait, h⟩

theorem deliver_inv (s s' : LinkState) (hinv : Inv s) (hcurrent : StillCurrent s .deliver)
    (h : deliver s = some s') : Inv s' := by
  obtain ⟨buf, len, long, hmonitor, ⟨-, rfl⟩ | ⟨hwaiting, rfl⟩⟩ := deliver_eq_some h
  · exact hinv.of_same rfl rfl rfl rfl
  · have hid : transIdOf buf = s.transId := hcurrent buf len long hmonitor hwaiting
    refine ⟨?_, ?_, hinv.completed⟩
    · intro op frame wait hworker
      obtain ⟨wait', hbefore⟩ := signal_waiting s.worker op frame wait hworker
      exact hinv.sent op frame wait' hbefore
    · intro op frame _
      exact (transIdOf_copyOver buf len s.recvBuf long).trans hid

theorem step_preserves : Preserves step StillCurrent Inv := by
  intro s a s' hinv hcurrent h
  cases a with
  | czProbe wbuf =>
    obtain ⟨-, rfl⟩ := czProbe_eq_some h
    exact hinv.of_same rfl rfl rfl rfl
  | request op wbuf => exact request_inv s s' op wbuf hinv h
  | expire => exact expire_inv s s' hinv h
  | resume => exact resume_inv s s' hinv h
  | recvDatagram =>
    obtain ⟨-, -, rfl⟩ := recvDatagram_eq_some h
    exact hinv.of_same rfl rfl rfl rfl
  | writeUart =>
    obtain ⟨-, rfl⟩ := writeUart_eq_some h
    exact hinv.of_same rfl rfl rfl rfl
  | recvFrame buf len =>
    obtain ⟨-, rfl | ⟨long, -, rfl⟩⟩ := recvFrame_eq_some h
    · exact hinv
    · exact hinv.of_same rfl rfl rfl rfl
  | deliver => exact deliver_inv s s' hinv hcurrent h
  | devices queue =>
    rw [← Option.some.inj h]
    exact hinv.of_same rfl rfl rfl rfl

theorem initCzDrv_inv (queue : List CzDev) : Inv (initCzDrv queue) := by
  refine ⟨?_, ?_, ?_⟩
  · intro op frame wait h
    exact Worker.noConfusion h
  · intro op frame h
    exact Worker.noConfusion h
  · intro c hc
    exact absurd hc List.not_mem_nil

/-- In every run of both threads in which each compared response reaches the lock
before the id has moved on, or with no operation waiting, every operation that
returned OK took a response with its own id. -/
theorem responses_match_requests (queue : List CzDev) (steps : List Step) (s : LinkState)
    (hcurrent : Guarded step StillCurrent (initCzDrv queue) steps)
    (hrun : run step (initCzDrv queue) steps = some s) :
    ∀ c ∈ s.completed, Completion.Matched c :=
  (run_invariant_guarded step_preserves steps (initCzDrv queue) s (initCzDrv_inv queue) hcurrent
    hrun).completed

/-- A result frame that reports success for the transaction `id`. -/
def resultFrame (id : UInt8) : Memory :=
  load [0xAA, 0x55, 18, 0, 0, 0, 1, 0, 10, 0, id, 0, 0x91, 0x91, 6, 0, 1, 0] zeros

def promptSteps : List Step :=
  [.request lampAction zeros, .recvFrame (resultFrame 1) 18, .deliver, .resume]

/-- The first operation times out between the comparison and the lock. -/
def lateSteps : List Step :=
  [.request lampAction zeros, .recvFrame (resultFrame 1) 18, .expire, .resume,
    .request lampAction zeros, .deliver, .resume]

theorem prompt_response_matches :
    ∃ s, run step (initCzDrv [lampDev]) promptSteps = some s ∧
      s.completed = [⟨some 1, 0, some 1⟩] ∧ ∀ c ∈ s.completed, Completion.Matched c := by
  have hcompleted : (run step (initCzDrv [lampDev]) promptSteps).map LinkState.completed =
      some [⟨some 1, 0, some 1⟩] := rfl
  obtain ⟨s, hrun, hs⟩ := Option.map_eq_some_iff.mp hcompleted
  refine ⟨s, hrun, hs, responses_match_requests [lampDev] promptSteps s ?_ hrun⟩
  refine ⟨trivial, fun s₁ h₁ => ⟨trivial, fun s₂ h₂ => ⟨?_, fun s₃ _ => ⟨trivial, ?_⟩⟩⟩⟩
  · obtain rfl := Option.some.inj h₁
    obtain rfl := Option.some.inj h₂
    intro buf len long hmonitor _
    obtain ⟨rfl, rfl⟩ := Monitor.matched.inj hmonitor
    rfl
  · intro s₄ _
    trivial

/-- The second operation returns OK on the response to the first. -/
theorem late_response_taken :
    ∃ s, run step (initCzDrv [lampDev]) lateSteps = some s ∧
      s.completed = [⟨some 1, 8, none⟩, ⟨some 2, 0, some 1⟩] ∧
      ¬ ∀ c ∈ s.completed, Completion.Matched c := by
  have hcompleted : (run step (initCzDrv [lampDev]) lateSteps).map LinkState.completed =
      some [⟨some 1, 8, none⟩, ⟨some 2, 0, some 1⟩] := rfl
  obtain ⟨s, hrun, hs⟩ := Option.map_eq_some_iff.mp hcompleted
  refine ⟨s, hrun, hs, ?_⟩
  intro hall
  rw [hs] at hall
  obtain ⟨id, hsent, hreceived⟩ := hall ⟨some 2, 0, some 1⟩ (by simp) rfl
  rw [← Option.some.inj hsent] at hreceived
  contradiction

end HomeSecurityBox.ZigbeeMatching
