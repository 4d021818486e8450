import HomeSecurityBox.ZigbeeLink

/-!
The transaction ids of the unicast requests. They count up from 1 in 16 bits, one
for each request on whatever way it ends, and 0 is the id of an unsolicited frame.
-/

namespace HomeSecurityBox.ZigbeeIds

open ByteMemory Transitions Protocol DeviceData Zigbee ZigbeeLink

def isUnicast (frame : Frame) : Bool := get16 frame.buf 4 == CzPktType.uc.code

/-- The ids of the unicast frames that were put into the send buffer. -/
def unicastIds (s : LinkState) : List UInt16 :=
  (s.issued.filter isUnicast).map fun frame => transIdOf frame.buf

/-- The ids of the first `n` requests. -/
def requestIds (n : ℕ) : List UInt16 := (List.range n).map fun j => UInt16.ofNat (j + 1)

/-- After `n` requests the id stands at the next one, or still at the last one while
that one waits. -/
structure Counts (s : LinkState) (n : ℕ) : Prop where
  ids : unicastIds s = requestIds n
  idle : s.worker = .idle → s.transId = UInt16.ofNat (n + 1)
  waiting : ∀ op frame wait, s.worker = .waiting op frame wait →
    0 < n ∧ s.transId = UInt16.ofNat n ∧ transIdOf frame.buf = s.transId ∧ s.isWaiting = true

theorem requestIds_succ (n : ℕ) :
    requestIds (n + 1) = requestIds n ++ [UInt16.ofNat (n + 1)] := by
  simp only [requestIds, List.range_succ, List.map_append, List.map_singleton]

theorem zero_mem_requestIds_iff (n : ℕ) : 0 ∈ requestIds n ↔ 65536 ≤ n := by
  constructor
  · intro h
    obtain ⟨j, hj, hzero⟩ := List.mem_map.mp h
    have hlt : j < n := List.mem_range.mp hj
    have hmod : (j + 1) % 65536 = 0 := by
      have htoNat := congrArg UInt16.toNat hzero
      simpa using htoNat
    omega
  · intro h
    exact List.mem_map.mpr ⟨65535, List.mem_range.mpr (by omega), rfl⟩

theorem unicastIds_probe (s : LinkState) (wbuf : Memory) :
    unicastIds (sendFrame s (probeFrame wbuf)) = unicastIds s := by
  have hbroadcast : isUnicast (probeFrame wbuf) = false := by
    unfold isUnicast probeFrame
    rw [frameHeader_type]
    rfl
  simp only [unicastIds, sendFrame, List.filter_append, List.filter_singleton, hbroadcast,
    cond_false, List.append_nil]

theorem unicastIds_request (s : LinkState) (op : Operation) (wbuf : Memory) (dev : CzDev)
    (frame : Frame) (h : op.frame wbuf dev s.transId = some frame) :
    unicastIds (sendFrame s frame) = unicastIds s ++ [s.transId] := by
  obtain ⟨hid, htype⟩ := operation_frame_fields op wbuf dev s.transId frame h
  have hunicast : isUnicast frame = true := by
    unfold isUnicast
    rw [htype]
    rfl
  simp only [unicastIds, sendFrame, List.filter_append, List.filter_singleton, hunicast,
    cond_true, List.map_append, List.map_singleton, hid]

/-- A step that leaves the worker alone and sends no unicast frame. -/
theorem Counts.of_same {s s' : LinkState} {n : ℕ} (h : Counts s n)
    (hids : unicastIds s' = unicastIds s) (hworker : s'.worker = s.worker)
    (htransId : s'.transId = s.transId) (hwaiting : s'.isWaiting = s.isWaiting) :
    Counts s' n := by
  refine ⟨hids.trans h.ids, ?_, ?_⟩
  · intro hidle
    rw [htransId]
    exact h.idle (hworker.symm.trans hidle)
  · intro op frame wait hwait
    rw [htransId, hwaiting]
    exact h.waiting op frame wait (hworker.symm.trans hwait)

/-- A step after which the same operation waits on. -/
theorem Counts.of_waiting {s s' : LinkState} {n : ℕ} {op : Operation} {frame : Frame}
    {wait wait' : Wait} (h : Counts s n) (hids : unicastIds s' = unicastIds s)
    (hbefore : s.worker = .waiting op frame wait) (hafter : s'.worker = .waiting op frame wait')
    (htransId : s'.transId = s.transId) (hwaiting : s'.isWaiting = s.isWaiting) :
    Counts s' n := by
  refine ⟨hids.trans h.ids, ?_, ?_⟩
  · intro hidle
    rw [hafter] at hidle
    contradiction
  · intro op' frame' wait'' hwait
    rw [hafter] at hwait
    obtain ⟨rfl, rfl, -⟩ := Worker.waiting.inj hwait
    rw [htransId, hwaiting]
    exact h.waiting op frame wait hbefore

theorem Counts.finish {s : LinkState} {n : ℕ} {op : Operation} {frame : Frame} {wait : Wait}
    (h : Counts s n) (hwait : s.worker = .waiting op frame wait) (ret : ℤ)
    (received : Option UInt16) : Counts (finish s frame ret received) n := by
  obtain ⟨-, htransId, -, -⟩ := h.waiting op frame wait hwait
  refine ⟨h.ids, ?_, ?_⟩
  · intro _
    have hnext : UInt16.ofNat n + 1 = UInt16.ofNat (n + 1) := (UInt16.ofNat_add n 1).symm
    rw [← hnext, ← htransId]
    rfl
  · intro op' frame' wait' hidle
    exact Worker.noConfusion hidle

theorem czProbe_counts {s s' : LinkState} {n : ℕ} (wbuf : Memory) (hcounts : Counts s n)
    (h : czProbe s wbuf = some s') : Counts s' n := by
  obtain ⟨hidle, rfl⟩ := czProbe_eq_some h
  refine ⟨(unicastIds_probe s wbuf).trans hcounts.ids, fun _ => hcounts.idle hidle, ?_⟩
  intro op frame wait hwait
  have hbusy : s.worker = .waiting op frame wait := hwait
  rw [hbusy] at hidle
  contradiction

theorem request_counts {s s' : LinkState} {n : ℕ} (op : Operation) (wbuf : Memory)
    (hcounts : Counts s n) (h : request s op wbuf = some s') :
    Counts s' n ∨ Counts s' (n + 1) := by
  obtain ⟨hidle, ⟨-, rfl⟩ | ⟨dev, frame, hdev, hframe, rfl⟩⟩ := request_eq_some h
  · exact Or.inl (hcounts.of_same rfl rfl rfl rfl)
  · have hids := unicastIds_request s op wbuf dev frame hframe
    have hnext := hcounts.idle hidle
    refine Or.inr ⟨?_, ?_, ?_⟩
    · rw [requestIds_succ, ← hcounts.ids, ← hnext]
      exact hids
    · intro hwait
      contradiction
    · intro op' frame' wait hwait
      obtain ⟨-, rfl, -⟩ := Worker.waiting.inj hwait
      refine ⟨Nat.succ_pos n, hnext, ?_, rfl⟩
      exact (operation_frame_fields op wbuf dev s.transId frame hframe).1

theorem deliver_counts {s s' : LinkState} {n : ℕ} (hcounts : Counts s n)
    (h : deliver s = some s') : Counts s' n := by
  obtain ⟨buf, len, long, -, ⟨-, rfl⟩ | ⟨-, rfl⟩⟩ := deliver_eq_some h
  · exact hcounts.of_same rfl rfl rfl rfl
  · cases hworker : s.worker with
    | idle => exact hcounts.of_same rfl (by simp only [hworker, signal]) rfl rfl
    | waiting op frame wait =>
      cases wait with
      | blocked =>
        have hsignaled : signal (.waiting op frame .blocked) = .waiting op frame .signaled := rfl
        exact hcounts.of_waiting rfl hworker hsignaled rfl rfl
      | signaled => exact hcounts.of_same rfl (by simp only [hworker, signal]) rfl rfl
      | timedOut => exact hcounts.of_same rfl (by simp only [hworker, signal]) rfl rfl

/-- A step sends at most one request and keeps the count. -/
theorem step_counts {s s' : LinkState} {n : ℕ} (a : Step) (hcounts : Counts s n)
    (h : step s a = some s') : Counts s' n ∨ Counts s' (n + 1) := by
  cases a with
  | czProbe wbuf => exact Or.inl (czProbe_counts wbuf hcounts h)
  | request op wbuf => exact request_counts op wbuf hcounts h
  | expire =>
    obtain ⟨op, frame, hblocked, rfl⟩ := expire_eq_some h
    exact Or.inl (hcounts.of_waiting rfl hblocked rfl rfl rfl)
  | resume =>
    obtain ⟨op, frame, ⟨htimedOut, rfl⟩ | ⟨ret, hsignaled, -, rfl⟩⟩ := resume_eq_some h
    · exact Or.inl (hcounts.finish htimedOut _ _)
    · exact Or.inl (hcounts.finish hsignaled _ _)
  | recvDatagram =>
    obtain ⟨-, -, rfl⟩ := recvDatagram_eq_some h
    exact Or.inl (hcounts.of_same rfl rfl rfl rfl)
  | writeUart =>
    obtain ⟨-, rfl⟩ := writeUart_eq_some h
    exact Or.inl (hcounts.of_same rfl rfl rfl rfl)
  | recvFrame buf len =>
    obtain ⟨-, rfl | ⟨long, -, rfl⟩⟩ := recvFrame_eq_some h
    · exact Or.inl hcounts
    · exact Or.inl (hcounts.of_same rfl rfl rfl rfl)
  | deliver => exact Or.inl (deliver_counts hcounts h)
  | devices queue =>
    rw [← Option.some.inj h]
    exact Or.inl (hcounts.of_same rfl rfl rfl rfl)

theorem run_counts (queue : List CzDev) (steps : List Step) (s : LinkState)
    (hrun : run step (initCzDrv queue) steps = some s) : ∃ n, Counts s n := by
  have hstep : ∀ s a s', (∃ n, Counts s n) → step s a = some s' → ∃ n, Counts s' n := by
    intro s a s' hcounts h
    obtain ⟨n, hn⟩ := hcounts
    rcases step_counts a hn h with hsame | hnext
    · exact ⟨n, hsame⟩
    · exact ⟨n + 1, hnext⟩
  refine run_invariant hstep steps (initCzDrv queue) s ⟨0, rfl, fun _ => rfl, ?_⟩ hrun
  intro op frame wait hwait
  exact Worker.noConfusion hwait

/-- A response that echoes the id of the waiting request reaches it. -/
def EchoReaches (s : LinkState) : Prop :=
  ∀ op frame buf len, s.worker = .waiting op frame .blocked → s.monitor = .idle →
    get16 buf 0 = czHeaderMagic → (get16 buf 2).toNat = len → czHeaderLen < len →
    len ≤ recvBufSize → transIdOf buf = transIdOf frame.buf →
    ∃ s', run step s [.recvFrame buf len, .deliver] = some s' ∧
      s'.worker = .waiting op frame .signaled ∧ AgreeBelow len s'.recvBuf buf

theorem echoReaches_of_nonzero {s : LinkState} {n : ℕ} (hcounts : Counts s n)
    (hn : n < 65536) : EchoReaches s := by
  intro op frame buf len hworker hmonitor hmagic hsize hlong hfits hecho
  obtain ⟨hpos, htransId, hsent, hwaiting⟩ := hcounts.waiting op frame .blocked hworker
  have hid : transIdOf buf = s.transId := hecho.trans hsent
  have hnonzero : transIdOf buf ≠ 0 := by
    rw [hid, htransId]
    intro hzero
    have htoNat := congrArg UInt16.toNat hzero
    simp only [UInt16.toNat_ofNat', UInt16.toNat_zero] at htoNat
    omega
  have hmatched : classify s.transId buf = .matched := by
    rw [classify, if_neg hnonzero, if_neg (not_not.mpr hid)]
  have hrecv : step s (.recvFrame buf len) =
      some { s with monitor := .matched buf len hlong } := by
    simp only [step, recvFrame, hmonitor, hmagic, hsize, hfits, and_self, if_true, hlong,
      dite_true, hmatched]
  have hdeliver : step { s with monitor := .matched buf len hlong } .deliver =
      some
        { s with
          recvBuf := copyOver buf len s.recvBuf
          recvLen := len
          worker := .waiting op frame .signaled
          monitor := .idle } := by
    simp only [step, deliver, hwaiting, hworker, signal, Bool.not_true, Bool.false_eq_true,
      if_false]
  have hboth : run step s [.recvFrame buf len, .deliver] =
      step { s with monitor := .matched buf len hlong } .deliver := by
    rw [run, hrecv, Option.bind_some, run, hdeliver]
    rfl
  rw [hdeliver] at hboth
  exact ⟨_, hboth, rfl, fun i hi => if_pos hi⟩

/-- In every run, the ids of the unicast requests differ from 0 and an echo of the
waiting request's id reaches it if and only if at most 65535 requests were sent. -/
theorem unicast_ids_nonzero_iff (queue : List CzDev) (steps : List Step) (s : LinkState)
    (hrun : run step (initCzDrv queue) steps = some s) :
    (∀ id ∈ unicastIds s, id ≠ 0) ∧ EchoReaches s ↔ (unicastIds s).length ≤ 65535 := by
  obtain ⟨n, hcounts⟩ := run_counts queue steps s hrun
  have hlength : (unicastIds s).length = n := by
    rw [hcounts.ids, requestIds, List.length_map, List.length_range]
  rw [hlength, hcounts.ids]
  constructor
  · intro h
    by_contra hmany
    exact h.1 0 ((zero_mem_requestIds_iff n).mpr (by omega)) rfl
  · intro hfew
    refine ⟨?_, echoReaches_of_nonzero hcounts (by omega)⟩
    intro id hid hzero
    rw [hzero] at hid
    have hmany := (zero_mem_requestIds_iff n).mp hid
    omega

def timeoutSteps (n : ℕ) : List Step :=
  (List.replicate n [.request lampAction zeros, .expire, .resume]).flatten

theorem timeout_run (s : LinkState) (hworker : s.worker = .idle) (hqueue : s.queue = [lampDev]) :
    ∃ s', run step s [.request lampAction zeros, .expire, .resume] = some s' ∧
      s'.worker = .idle ∧ s'.queue = [lampDev] ∧
      (unicastIds s').length = (unicastIds s).length + 1 := by
  have hdev : findDevById s.queue lampAction.devid = some lampDev := by
    rw [hqueue]
    rfl
  obtain ⟨frame, hframe⟩ : ∃ frame, lampAction.frame zeros lampDev s.transId = some frame :=
    ⟨_, rfl⟩
  have hids := unicastIds_request s lampAction zeros lampDev frame hframe
  have hrequest : step s (.request lampAction zeros) =
      some
        { sendFrame s frame with
          isWaiting := true
          worker := .waiting lampAction frame .blocked } := by
    simp only [step, request, hworker, hdev, hframe, Option.map_some]
  have hrun : run step s [.request lampAction zeros, .expire, .resume] =
      some (finish
        { sendFrame s frame with
          isWaiting := true
          worker := .waiting lampAction frame .timedOut }
        frame HsbErrorNo.others.code none) := by
    rw [run, hrequest, Option.bind_some]
    rfl
  refine ⟨_, hrun, rfl, hqueue, ?_⟩
  have hlength := congrArg List.length hids
  rw [List.length_append, List.length_singleton] at hlength
  exact hlength

theorem timeouts_run (n : ℕ) (s : LinkState) (hworker : s.worker = .idle)
    (hqueue : s.queue = [lampDev]) :
    ∃ s', run step s (timeoutSteps n) = some s' ∧
      (unicastIds s').length = (unicastIds s).length + n := by
  induction n generalizing s with
  | zero => exact ⟨s, rfl, rfl⟩
  | succ n ih =>
    obtain ⟨s₁, hfirst, hworker₁, hqueue₁, hlength₁⟩ := timeout_run s hworker hqueue
    obtain ⟨s₂, hrest, hlength₂⟩ := ih s₁ hworker₁ hqueue₁
    refine ⟨s₂, ?_, by omega⟩
    have hsteps : timeoutSteps (n + 1) =
        [.request lampAction zeros, .expire, .resume] ++ timeoutSteps n := by
      rw [timeoutSteps, List.replicate_succ, List.flatten_cons, timeoutSteps]
    rw [hsteps, run_append, hfirst]
    exact hrest

theorem one_request_nonzero :
    ∃ s, run step (initCzDrv [lampDev]) (timeoutSteps 1) = some s ∧
      ((∀ id ∈ unicastIds s, id ≠ 0) ∧ EchoReaches s ↔ (unicastIds s).length ≤ 65535) := by
  obtain ⟨s, hrun, -⟩ := timeouts_run 1 (initCzDrv [lampDev]) rfl rfl
  exact ⟨s, hrun, unicast_ids_nonzero_iff [lampDev] (timeoutSteps 1) s hrun⟩

/-- The 65536th request is sent with the id of an unsolicited frame. -/
theorem wrapped_id_zero :
    ∃ s, run step (initCzDrv [lampDev]) (timeoutSteps 65536) = some s ∧
      ¬ ∀ id ∈ unicastIds s, id ≠ 0 := by
  obtain ⟨s, hrun, hlength⟩ := timeouts_run 65536 (initCzDrv [lampDev]) rfl rfl
  obtain ⟨n, hcounts⟩ := run_counts [lampDev] (timeoutSteps 65536) s hrun
  have hn : n = 65536 := by
    have hnone : (unicastIds (initCzDrv [lampDev])).length = 0 := rfl
    rw [hcounts.ids, requestIds, List.length_map, List.length_range, hnone] at hlength
    omega
  refine ⟨s, hrun, ?_⟩
  intro hall
  have hzero : (0 : UInt16) ∈ unicastIds s := by
    rw [hcounts.ids, zero_mem_requestIds_iff, hn]
  exact hall 0 hzero rfl

end HomeSecurityBox.ZigbeeIds
