import HomeSecurityBox.Base.Transitions
import HomeSecurityBox.Zigbee

/-!
The worker and the monitor thread of the zigbee driver. They share one context:
the worker fills the send buffer and waits under the lock, the monitor writes the
buffer out for every datagram and hands a response over under the lock, after it
has compared the transaction ids outside of it. A step is a section under the
lock or an action of one thread between two of them.
-/

namespace HomeSecurityBox.ZigbeeLink

open ByteMemory Protocol DeviceData Zigbee

/-- The operations that wait for an answer. -/
inductive Operation
  | setStatus (status : HsbStatus)
  | getStatus (status : HsbStatus)
  | setAction (act : HsbAction)

def Operation.devid : Operation → UInt32
  | .setStatus status => status.devid
  | .getStatus status => status.devid
  | .setAction act => act.devid

def Operation.frame (op : Operation) (wbuf : Memory) (dev : CzDev) (transId : UInt16) :
    Option Frame :=
  match op with
  | .setStatus status => setStatusFrame wbuf dev transId status
  | .getStatus _ => some (getStatusFrame wbuf dev transId)
  | .setAction act => some (setActionFrame wbuf dev transId act)

/-- The return value that an operation computes from the receive buffer. -/
def Operation.result (op : Operation) (recvBuf : Memory) (recvLen : ℕ) : Option ℤ :=
  match op with
  | .setStatus _ => some (resultCode recvBuf recvLen)
  | .getStatus status => (statusResult recvBuf recvLen status).map Prod.fst
  | .setAction _ => some (resultCode recvBuf recvLen)

/-- How `pthread_cond_timedwait` stands; a thread that has timed out no longer takes
a signal. -/
inductive Wait
  | blocked
  | signaled
  | timedOut
  deriving DecidableEq, Repr

inductive Worker
  | idle
  | waiting (op : Operation) (frame : Frame) (wait : Wait)

/-- The monitor thread: in `select`, between a datagram and the write, or between
the comparison of a response's id and the lock. -/
inductive Monitor
  | idle
  | sending
  | matched (buf : Memory) (len : ℕ) (long : czHeaderLen < len)

def transIdOf (buf : Memory) : UInt16 := get16 buf 10

/-- A finished operation: the id in its frame, its return value and the id of the
response it took. -/
structure Completion where
  sent : Option UInt16
  ret : ℤ
  received : Option UInt16
  deriving DecidableEq, Repr

/-- The shared context, both threads, the datagrams under way and the histories of
what the operations put into the send buffer, what went to the UART and what the
operations returned. -/
structure LinkState where
  queue : List CzDev := []
  isWaiting : Bool := false
  sendBuf : List UInt8 := []
  recvBuf : Memory := zeros
  recvLen : ℕ := 0
  transId : UInt16 := 1
  worker : Worker := .idle
  monitor : Monitor := .idle
  notified : ℕ := 0
  issued : List Frame := []
  uart : List (List UInt8) := []
  completed : List Completion := []

/-- The frame goes to the send buffer and a datagram to the monitor. -/
def sendFrame (s : LinkState) (frame : Frame) : LinkState :=
  { s with
    sendBuf := frame.bytes
    notified := s.notified + 1
    issued := s.issued ++ [frame] }

def czProbe (s : LinkState) (wbuf : Memory) : Option LinkState :=
  match s.worker with
  | .idle => some { sendFrame s (probeFrame wbuf) with isWaiting := false }
  | _ => none

/-- An operation up to its wait. -/
def request (s : LinkState) (op : Operation) (wbuf : Memory) : Option LinkState :=
  match s.worker with
  | .idle =>
      match findDevById s.queue op.devid with
      | none =>
          some
            { s with completed := s.completed ++ [⟨none, HsbErrorNo.entryNotFound.code, none⟩] }
      | some dev =>
          (op.frame wbuf dev s.transId).map fun frame =>
            { sendFrame s frame with isWaiting := true, worker := .waiting op frame .blocked }
  | _ => none

def expire (s : LinkState) : Option LinkState :=
  match s.worker with
  | .waiting op frame .blocked => some { s with worker := .waiting op frame .timedOut }
  | _ => none

/-- Every way out of an operation advances the id. -/
def finish (s : LinkState) (frame : Frame) (ret : ℤ) (received : Option UInt16) : LinkState :=
  { s with
    isWaiting := false
    transId := s.transId + 1
    worker := .idle
    completed := s.completed ++ [⟨some (transIdOf frame.buf), ret, received⟩] }

/-- The waiting operation has the lock again and runs to its end. -/
def resume (s : LinkState) : Option LinkState :=
  match s.worker with
  | .waiting _ frame .timedOut => some (finish s frame HsbErrorNo.others.code none)
  | .waiting op frame .signaled =>
      (op.result s.recvBuf s.recvLen).map fun ret =>
        finish s frame ret (some (transIdOf s.recvBuf))
  | _ => none

def recvDatagram (s : LinkState) : Option LinkState :=
  match s.monitor with
  | .idle =>
      if 0 < s.notified then some { s with notified := s.notified - 1, monitor := .sending }
      else none
  | _ => none

def writeUart (s : LinkState) : Option LinkState :=
  match s.monitor with
  | .sending => some { s with uart := s.uart ++ [s.sendBuf], monitor := .idle }
  | _ => none

/-- What `deal_recv_buf` decides in front of the lock. -/
inductive Received
  | unsolicited
  | others
  | matched
  deriving DecidableEq, Repr

def classify (transId : UInt16) (buf : Memory) : Received :=
  if transIdOf buf = 0 then .unsolicited
  else if transIdOf buf ≠ transId then .others
  else .matched

/-- The size of the `rbuf` and `recv_buf` arrays. -/
def recvBufSize : ℕ := 256

/-- A whole frame from the UART, up to the lock. What an unsolicited frame does to
the devices is a step of its own. -/
def recvFrame (s : LinkState) (buf : Memory) (len : ℕ) : Option LinkState :=
  match s.monitor with
  | .idle =>
      if get16 buf 0 = czHeaderMagic ∧ (get16 buf 2).toNat = len ∧ len ≤ recvBufSize then
        if long : czHeaderLen < len then
          match classify s.transId buf with
          | .matched => some { s with monitor := .matched buf len long }
          | _ => some s
        else some s
      else none
  | _ => none

def signal : Worker → Worker
  | .waiting op frame .blocked => .waiting op frame .signaled
  | worker => worker

/-- `memcpy` of `len` bytes over the receive buffer. -/
def copyOver (buf : Memory) (len : ℕ) (old : Memory) : Memory :=
  fun i => if i < len then buf i else old i

/-- The section of `deal_recv_buf` under the lock. -/
def deliver (s : LinkState) : Option LinkState :=
  match s.monitor with
  | .matched buf len _ =>
      if !s.isWaiting then some { s with monitor := .idle }
      else
        some
          { s with
            recvBuf := copyOver buf len s.recvBuf
            recvLen := len
            worker := signal s.worker
            monitor := .idle }
  | _ => none

inductive Step
  | czProbe (wbuf : Memory)
  | request (op : Operation) (wbuf : Memory)
  | expire
  | resume
  | recvDatagram
  | writeUart
  | recvFrame (buf : Memory) (len : ℕ)
  | deliver
  | devices (queue : List CzDev)

def step (s : LinkState) : Step → Option LinkState
  | .czProbe wbuf => czProbe s wbuf
  | .request op wbuf => request s op wbuf
  | .expire => expire s
  | .resume => resume s
  | .recvDatagram => recvDatagram s
  | .writeUart => writeUart s
  | .recvFrame buf len => recvFrame s buf len
  | .deliver => deliver s
  | .devices queue => some { s with queue := queue }

/-- The state that `init_cz_drv` leaves, with some devices known. -/
def initCzDrv (queue : List CzDev) : LinkState := { queue := queue }

section StepCases

variable {s s' : LinkState}

theorem czProbe_eq_some {wbuf : Memory} (h : czProbe s wbuf = some s') :
    s.worker = .idle ∧ s' = { sendFrame s (probeFrame wbuf) with isWaiting := false } := by
  unfold czProbe at h
  split at h
  · rename_i hidle
    exact ⟨hidle, (Option.some.inj h).symm⟩
  · contradiction

theorem request_eq_some {op : Operation} {wbuf : Memory} (h : request s op wbuf = some s') :
    s.worker = .idle ∧
      ((findDevById s.queue op.devid = none ∧
          s' = { s with
            completed := s.completed ++ [⟨none, HsbErrorNo.entryNotFound.code, none⟩] }) ∨
        ∃ dev frame, findDevById s.queue op.devid = some dev ∧
          op.frame wbuf dev s.transId = some frame ∧
          s' = { sendFrame s frame with
            isWaiting := true
            worker := .waiting op frame .blocked }) := by
  unfold request at h
  split at h
  · rename_i hidle
    refine ⟨hidle, ?_⟩
    split at h
    · rename_i hnone
      exact Or.inl ⟨hnone, (Option.some.inj h).symm⟩
    · rename_i dev hdev
      obtain ⟨frame, hframe, hs'⟩ := Option.map_eq_some_iff.mp h
      exact Or.inr ⟨dev, frame, hdev, hframe, hs'.symm⟩
  · contradiction

theorem expire_eq_some (h : expire s = some s') :
    ∃ op frame, s.worker = .waiting op frame .blocked ∧
      s' = { s with worker := .waiting op frame .timedOut } := by
  unfold expire at h
  split at h
  · rename_i op frame hblocked
    exact ⟨op, frame, hblocked, (Option.some.inj h).symm⟩
  · contradiction

theorem resume_eq_some (h : resume s = some s') :
    ∃ op frame,
      (s.worker = .waiting op frame .timedOut ∧
        s' = finish s frame HsbErrorNo.others.code none) ∨
      ∃ ret, s.worker = .waiting op frame .signaled ∧
        op.result s.recvBuf s.recvLen = some ret ∧
        s' = finish s frame ret (some (transIdOf s.recvBuf)) := by
  unfold resume at h
  split at h
  · rename_i op frame htimedOut
    exact ⟨op, frame, Or.inl ⟨htimedOut, (Option.some.inj h).symm⟩⟩
  · rename_i op frame hsignaled
    obtain ⟨ret, hret, hs'⟩ := Option.map_eq_some_iff.mp h
    exact ⟨op, frame, Or.inr ⟨ret, hsignaled, hret, hs'.symm⟩⟩
  · contradiction

theorem recvDatagram_eq_some (h : recvDatagram s = some s') :
    s.monitor = .idle ∧ 0 < s.notified ∧
      s' = { s with notified := s.notified - 1, monitor := .sending } := by
  unfold recvDatagram at h
  split at h
  · rename_i hidle
    by_cases hpos : 0 < s.notified
    · rw [if_pos hpos] at h
      exact ⟨hidle, hpos, (Option.some.inj h).symm⟩
    · rw [if_neg hpos] at h
      contradiction
  · contradiction

theorem writeUart_eq_some (h : writeUart s = some s') :
    s.monitor = .sending ∧ s' = { s with uart := s.uart ++ [s.sendBuf], monitor := .idle } := by
  unfold writeUart at h
  split at h
  · rename_i hsending
    exact ⟨hsending, (Option.some.inj h).symm⟩
  · contradiction

/-- A frame that is not matched leaves the state as it is. -/
theorem recvFrame_eq_some {buf : Memory} {len : ℕ} (h : recvFrame s buf len = some s') :
    s.monitor = .idle ∧
      (s' = s ∨ ∃ long : czHeaderLen < len, classify s.transId buf = .matched ∧
        s' = { s with monitor := .matched buf len long }) := by
  unfold recvFrame at h
  split at h
  · rename_i hidle
    refine ⟨hidle, ?_⟩
    split at h
    · by_cases long : czHeaderLen < len
      · rw [dif_pos long] at h
        split at h
        · rename_i hmatched
          exact Or.inr ⟨long, hmatched, (Option.some.inj h).symm⟩
        · exact Or.inl (Option.some.inj h).symm
      · rw [dif_neg long] at h
        exact Or.inl (Option.some.inj h).symm
    · contradiction
  · contradiction

theorem deliver_eq_some (h : deliver s = some s') :
    ∃ buf len long, s.monitor = .matched buf len long ∧
      ((s.isWaiting = false ∧ s' = { s with monitor := .idle }) ∨
        (s.isWaiting = true ∧
          s' = { s with
            recvBuf := copyOver buf len s.recvBuf
            recvLen := len
            worker := signal s.worker
            monitor := .idle })) := by
  unfold deliver at h
  split at h
  · rename_i buf len long hmonitor
    refine ⟨buf, len, long, hmonitor, ?_⟩
    cases hwaiting : s.isWaiting with
    | false =>
      rw [hwaiting] at h
      exact Or.inl ⟨rfl, (Option.some.inj h).symm⟩
    | true =>
      rw [hwaiting] at h
      exact Or.inr ⟨rfl, (Option.some.inj h).symm⟩
  · contradiction

end StepCases

theorem frameHeader_type (wbuf : Memory) (len : ℕ) (type : CzPktType)
    (shortAddr endPoint transId : UInt16) (cmd : CzCmd) :
    get16 (frameHeader wbuf len type shortAddr endPoint transId cmd) 4 = type.code := by
  simp only [frameHeader, czHeaderLen]
  rw [get16_set16_other _ _ _ _ (by omega), get16_set16_other _ _ _ _ (by omega),
    get16_set16_other _ _ _ _ (by omega), get16_set16_other _ _ _ _ (by omega),
    get16_set16_other _ _ _ _ (by omega), get16_set16]

theorem frameHeader_transId (wbuf : Memory) (len : ℕ) (type : CzPktType)
    (shortAddr endPoint transId : UInt16) (cmd : CzCmd) :
    transIdOf (frameHeader wbuf len type shortAddr endPoint transId cmd) = transId := by
  simp only [transIdOf, frameHeader, czHeaderLen]
  rw [get16_set16_other _ _ _ _ (by omega), get16_set16_other _ _ _ _ (by omega), get16_set16]

/-- The payload of a frame lies behind its radio header. -/
theorem operation_frame_header (op : Operation) (wbuf : Memory) (dev : CzDev) (transId : UInt16)
    (frame : Frame) (h : op.frame wbuf dev transId = some frame) :
    ∃ (len : ℕ) (cmd : CzCmd), AgreeBelow czHeaderLen frame.buf
      (frameHeader wbuf len .uc dev.shortAddr dev.endPoint transId cmd) := by
  cases op with
  | setStatus status =>
    obtain ⟨buf, hbuf, rfl⟩ := Option.map_eq_some_iff.mp h
    obtain ⟨hbelow, -⟩ := StatusCodec.encodePairs_spec _ _ _ _ _ _ hbuf
    exact ⟨_, _, fun i hi => hbelow i (Nat.lt_of_lt_of_le hi (Nat.le_add_right _ _))⟩
  | getStatus status =>
    rw [← Option.some.inj h]
    refine ⟨8, .getStatus, fun i hi => ?_⟩
    exact set32_other _ _ _ _ (Or.inl (Nat.lt_of_lt_of_le hi (Nat.le_add_right _ _)))
  | setAction act =>
    rw [← Option.some.inj h]
    refine ⟨12, .doAction, fun i hi => ?_⟩
    have hbehind : i < czHeaderLen + 4 := Nat.lt_of_lt_of_le hi (Nat.le_add_right _ _)
    simp only [setActionFrame]
    rw [set32_other _ _ _ _ (by omega), set16_other _ _ _ _ (by omega),
      set16_other _ _ _ _ (by omega)]

theorem operation_frame_fields (op : Operation) (wbuf : Memory) (dev : CzDev) (transId : UInt16)
    (frame : Frame) (h : op.frame wbuf dev transId = some frame) :
    transIdOf frame.buf = transId ∧ get16 frame.buf 4 = CzPktType.uc.code := by
  obtain ⟨len, cmd, hagree⟩ := operation_frame_header op wbuf dev transId frame h
  constructor
  · rw [transIdOf, hagree.get16 (by decide)]
    exact frameHeader_transId wbuf len .uc dev.shortAddr dev.endPoint transId cmd
  · rw [hagree.get16 (by decide)]
    exact frameHeader_type wbuf len .uc dev.shortAddr dev.endPoint transId cmd

theorem transIdOf_copyOver (buf : Memory) (len : ℕ) (old : Memory) (h : czHeaderLen < len) :
    transIdOf (copyOver buf len old) = transIdOf buf := by
  have hten : 10 < len := Nat.lt_trans (by decide) h
  have heleven : 11 < len := Nat.lt_trans (by decide) h
  exact get16_of_agree _ _ _ (if_pos hten) (if_pos heleven)

def lampDev : CzDev := { id := 5, shortAddr := 1, endPoint := 10 }

def lampAction : Operation := .setAction { devid := 5 }

end HomeSecurityBox.ZigbeeLink
