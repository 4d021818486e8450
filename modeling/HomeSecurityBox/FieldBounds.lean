import HomeSecurityBox.Base.MemoryReads
import HomeSecurityBox.TcpClient

/-!
Which bytes of the receive buffer one frame's processing reads. The acceptance
check, the dispatcher and its pair loop are written once more as programs that
perform their reads one by one; on a memory they compute what the functions of
`TcpPacket` compute. The acceptance check compares the declared length with the
received bytes only, so the handlers' fixed layouts may reach past it.
-/

namespace HomeSecurityBox.FieldBounds

open ByteMemory MemoryReads Protocol DeviceData Device RemoteCtl TcpPacket TcpClient

variable {ρ : Type}

/-- Both header fields are read before either is looked at. -/
def readingCheckTcpPktValid (len : ℕ) : Reading ℤ :=
  if len = 0 then return -1
  else do
    let command ← read16 0
    let length ← read16 2
    return if !hsbCmdValid command then -2 else if len < length.toNat then -3 else 0

def readingPairs (status : HsbStatus) : ℕ → Reading HsbStatus
  | 0 => return status
  | n + 1 => do
      let status ← readingPairs status n
      let id ← read16 (8 + n * 4)
      let val ← read16 (10 + n * 4)
      return { status with
        id := status.id.setIfInBounds n id
        val := status.val.setIfInBounds n val }

def readingGetDevStatus (len : ℕ) (status : HsbStatus) : Reading HsbStatus := do
  let status ← readingPairs status (statusTotal len).toNat
  return { status with num := UInt32.ofInt (statusTotal len) }

def readingTimer : Reading HsbTimer := do
  let id ← read16 8
  let workMode ← read8 10
  let flag ← read8 11
  let hour ← read8 12
  let min ← read8 13
  let sec ← read8 14
  let wday ← read8 15
  let actId ← read16 16
  let actParam1 ← read16 18
  let actParam2 ← read32 20
  return { id, workMode, flag, hour, min, sec, wday, actId, actParam1, actParam2 }

def readingDelay : Reading HsbDelay := do
  let id ← read16 8
  let workMode ← read8 10
  let flag ← read8 11
  let evtId ← read16 12
  let evtParam1 ← read16 14
  let evtParam2 ← read32 16
  let actId ← read16 20
  let actParam1 ← read16 22
  let actParam2 ← read32 24
  let delaySec ← read32 28
  return { id, workMode, flag, evtId, evtParam1, evtParam2, actId, actParam1, actParam2,
           delaySec }

def readingLinkage : Reading HsbLinkage := do
  let id ← read16 8
  let workMode ← read8 10
  let flag ← read8 11
  let evtId ← read16 12
  let evtParam1 ← read16 14
  let evtParam2 ← read32 16
  let actDevid ← read32 20
  let actId ← read16 24
  let actParam1 ← read16 26
  let actParam2 ← read32 28
  return { id, workMode, flag, evtId, evtParam1, evtParam2, actDevid, actId, actParam1,
           actParam2 }

/-- All four fields are read before the remote key is mapped. -/
def readingAction : Reading (Except ℤ HsbAction) := do
  let devId ← read32 4
  let actId ← read16 8
  let param1 ← read16 10
  let param2 ← read32 12
  return if actId = hsbActTypeRemoteControl then
      remoteKeyMapping param1 param2 { devid := devId }
    else .ok { devid := devId, id := actId, param1 := param1, param2 := param2 }

/-- The device id and the slot id of a GET or DEL command. -/
def readingSlot : Reading (UInt32 × UInt16) := do
  let devId ← read32 4
  let id ← read16 8
  return (devId, id)

def readingDispatch (cb : HsbDeviceCb ρ) (len : ℕ) (reply : ρ) (cmd : UInt16) :
    Reading (Dispatch ρ) :=
  match HsbCmd.ofCode cmd with
  | some .getDevs => return ⟨some (replyDevIdList zeros (getDevIdList cb)), cb⟩
  | some .getInfo => do
      let devId ← read32 4
      return answer cb (getDevInfo cb devId) (replyGetDeviceInfo zeros)
  | some .getStatus => do
      let devId ← read32 4
      return ⟨none, getDevStatusAsync cb devId (some reply)⟩
  | some .setStatus => do
      let devId ← read32 4
      let status ← readingGetDevStatus len { devid := devId }
      return ⟨none, setDevStatusAsync cb status (some reply)⟩
  | some .getTimer => do
      let (devId, timerId) ← readingSlot
      return answer cb (getDevTimer cb devId timerId) (replyGetTimer zeros devId)
  | some .setTimer => do
      let devId ← read32 4
      let tm ← readingTimer
      return confirm cb (setDevTimer cb devId tm)
  | some .delTimer => do
      let (devId, timerId) ← readingSlot
      return confirm cb (delDevTimer cb devId timerId)
  | some .getDelay => do
      let (devId, delayId) ← readingSlot
      return answer cb (getDevDelay cb devId delayId) (replyGetDelay zeros devId)
  | some .setDelay => do
      let devId ← read32 4
      let delay ← readingDelay
      return confirm cb (setDevDelay cb devId delay)
  | some .delDelay => do
      let (devId, delayId) ← readingSlot
      return confirm cb (delDevDelay cb devId delayId)
  | some .getLinkage => do
      let (devId, linkId) ← readingSlot
      return answer cb (getDevLinkage cb devId linkId) (replyGetLinkage zeros devId)
  | some .setLinkage => do
      let devId ← read32 4
      let link ← readingLinkage
      return confirm cb (setDevLinkage cb devId link)
  | some .delLinkage => do
      let (devId, linkId) ← readingSlot
      return confirm cb (delDevLinkage cb devId linkId)
  | some .doAction => do
      let mapped ← readingAction
      return match mapped with
        | .error code => ⟨some (replyResult zeros code), cb⟩
        | .ok act => ⟨none, setDevActionAsync cb act (some reply)⟩
  | some .probeDev => do
      let type ← read16 4
      return ⟨none, probeDevAsync cb { drvid := UInt32.ofNat type.toNat } (some reply)⟩
  | _ => return ⟨some (replyResult zeros 0), cb⟩

/-- The header is read again after it has been checked. -/
def readingDealTcpPacket (cb : HsbDeviceCb ρ) (len : ℕ) (reply : ρ) :
    Reading (Outcome ρ) := do
  let checked ← readingCheckTcpPktValid len
  if checked ≠ 0 then return ⟨-1, len, none, cb⟩
  else
    let cmd ← read16 0
    let cmdlen ← read16 2
    let done ← readingDispatch cb len reply cmd
    return ⟨0, cmdlen.toNat, done.frame.map Frame.bytes, done.cb⟩

@[simp] theorem run_readingCheckTcpPktValid (buf : Memory) (len : ℕ) :
    (readingCheckTcpPktValid len).run buf = checkTcpPktValid buf len := by
  unfold readingCheckTcpPktValid checkTcpPktValid
  by_cases hlen : len = 0
  · rw [if_pos hlen, if_pos hlen]
    rfl
  · rw [if_neg hlen, if_neg hlen]
    rfl

@[simp] theorem run_readingPairs (buf : Memory) (status : HsbStatus) (n : ℕ) :
    (readingPairs status n).run buf = readPairs buf status n := by
  induction n with
  | zero => rfl
  | succ n ih => simp [readingPairs, readPairs, ih]

@[simp] theorem run_readingGetDevStatus (buf : Memory) (len : ℕ) (status : HsbStatus) :
    (readingGetDevStatus len status).run buf = getDevStatus buf len status := by
  simp [readingGetDevStatus, getDevStatus]

@[simp] theorem run_readingTimer (buf : Memory) : readingTimer.run buf = readTimer buf := rfl

@[simp] theorem run_readingDelay (buf : Memory) : readingDelay.run buf = readDelay buf := rfl

@[simp] theorem run_readingLinkage (buf : Memory) :
    readingLinkage.run buf = readLinkage buf := rfl

@[simp] theorem run_readingAction (buf : Memory) : readingAction.run buf = readAction buf :=
  rfl

@[simp] theorem run_readingSlot (buf : Memory) :
    readingSlot.run buf = (get32 buf 4, get16 buf 8) := rfl

@[simp] theorem run_readingDispatch (cb : HsbDeviceCb ρ) (buf : Memory) (len : ℕ) (reply : ρ)
    (cmd : UInt16) :
    (readingDispatch cb len reply cmd).run buf = dispatchCmd cb buf len reply cmd := by
  unfold readingDispatch dispatchCmd
  cases HsbCmd.ofCode cmd with
  | none => rfl
  | some c =>
    cases c
    case doAction =>
      cases haction : readAction buf with
      | error code => simp [haction]
      | ok act => simp [haction]
    all_goals simp

theorem run_readingDealTcpPacket (cb : HsbDeviceCb ρ) (buf : Memory) (len : ℕ) (reply : ρ) :
    (readingDealTcpPacket cb len reply).run buf = dealTcpPacket cb buf len reply := by
  unfold readingDealTcpPacket dealTcpPacket
  by_cases hchecked : checkTcpPktValid buf len = 0
  · simp [hchecked]
  · simp [hchecked]

theorem below_readingPairs (buf : Memory) (status : HsbStatus) (n bound : ℕ) :
    (readingPairs status n).Below buf bound ↔ n = 0 ∨ 8 + 4 * n ≤ bound := by
  induction n with
  | zero => simp [readingPairs]
  | succ n ih =>
    simp only [readingPairs, Reading.below_bind, Reading.below_pure, below_read16, ih, and_true]
    omega

theorem below_readingGetDevStatus (buf : Memory) (len : ℕ) (status : HsbStatus) (bound : ℕ) :
    (readingGetDevStatus len status).Below buf bound ↔
      (statusTotal len).toNat = 0 ∨ 8 + 4 * (statusTotal len).toNat ≤ bound := by
  simp only [readingGetDevStatus, Reading.below_bind, Reading.below_pure, below_readingPairs,
    and_true]

/-- The bytes that a command's handler needs from the start of its frame on:
its fixed layout and, for SET_STATUS, the pairs that the remaining read is taken
to hold. -/
def frameLayout (cmd : UInt16) (len : ℕ) : ℕ :=
  if cmd = HsbCmd.setStatus.code then 8 + 4 * min 8 ((len - 8) / 4) else layoutEnd cmd

theorem four_le_frameLayout (cmd : UInt16) (len : ℕ) : 4 ≤ frameLayout cmd len := by
  unfold frameLayout layoutEnd
  split
  · omega
  · cases HsbCmd.ofCode cmd with
    | none => simp
    | some c => cases c <;> simp

theorem below_readingTimer (buf : Memory) (bound : ℕ) :
    readingTimer.Below buf bound ↔ 24 ≤ bound := by
  simp only [readingTimer, Reading.below_bind, Reading.below_pure, below_read8, below_read16,
    below_read32, and_true]
  omega

theorem below_readingDelay (buf : Memory) (bound : ℕ) :
    readingDelay.Below buf bound ↔ 32 ≤ bound := by
  simp only [readingDelay, Reading.below_bind, Reading.below_pure, below_read8, below_read16,
    below_read32, and_true]
  omega

theorem below_readingLinkage (buf : Memory) (bound : ℕ) :
    readingLinkage.Below buf bound ↔ 32 ≤ bound := by
  simp only [readingLinkage, Reading.below_bind, Reading.below_pure, below_read8, below_read16,
    below_read32, and_true]
  omega

theorem below_readingAction (buf : Memory) (bound : ℕ) :
    readingAction.Below buf bound ↔ 16 ≤ bound := by
  simp only [readingAction, Reading.below_bind, Reading.below_pure, below_read16, below_read32,
    and_true]
  omega

theorem below_readingSlot (buf : Memory) (bound : ℕ) :
    readingSlot.Below buf bound ↔ 10 ≤ bound := by
  simp only [readingSlot, Reading.below_bind, Reading.below_pure, below_read16, below_read32,
    and_true]
  omega

/-- The pair loop stays below a bound inside the read exactly if all pairs that
the remaining length stands for end below it. -/
theorem below_setStatus_iff (buf : Memory) (len bound : ℕ) (status : HsbStatus)
    (hle : bound ≤ len) :
    8 ≤ bound ∧ (readingGetDevStatus len status).Below buf bound ↔
      8 + 4 * min 8 ((len - 8) / 4) ≤ bound := by
  by_cases hbound : 8 ≤ bound
  · have htotal : (statusTotal len).toNat = min 8 ((len - 8) / 4) := by
      rw [statusTotal_of_lt len (by omega)]
      exact Int.toNat_natCast _
    rw [below_readingGetDevStatus, htotal]
    omega
  · omega

theorem below_readingDispatch (cb : HsbDeviceCb ρ) (buf : Memory) (len : ℕ) (reply : ρ)
    (cmd : UInt16) (bound : ℕ) (hheader : 4 ≤ bound) (hle : bound ≤ len) :
    (readingDispatch cb len reply cmd).Below buf bound ↔ frameLayout cmd len ≤ bound := by
  unfold frameLayout readingDispatch layoutEnd
  cases hcmd : HsbCmd.ofCode cmd with
  | none =>
    have hother : cmd ≠ HsbCmd.setStatus.code := by
      rintro rfl
      rw [HsbCmd.ofCode_code] at hcmd
      contradiction
    simp only [Reading.below_pure, if_neg hother, hheader]
  | some c =>
    obtain rfl := (HsbCmd.ofCode_eq_some_iff cmd c).mp hcmd
    cases c
    case setStatus =>
      simp only [Reading.below_bind, Reading.below_pure, below_read32, and_true, if_true]
      exact below_setStatus_iff buf len bound _ hle
    case setTimer | setDelay | setLinkage =>
      rw [if_neg (by decide)]
      simp only [Reading.below_bind, Reading.below_pure, below_read32, below_readingTimer,
        below_readingDelay, below_readingLinkage, and_true]
      omega
    all_goals
      rw [if_neg (by decide)]
      simp only [Reading.below_bind, Reading.below_pure, below_read16, below_read32,
        below_readingAction, below_readingSlot, and_true, hheader]

theorem below_readingCheckTcpPktValid (buf : Memory) (len bound : ℕ) (hlen : len ≠ 0) :
    (readingCheckTcpPktValid len).Below buf bound ↔ 4 ≤ bound := by
  unfold readingCheckTcpPktValid
  rw [if_neg hlen]
  simp only [Reading.below_bind, Reading.below_pure, below_read16, and_true]
  omega

/-- All that is read for an accepted frame lies below a bound inside the read
exactly if the layout of its command does. -/
theorem below_readingDealTcpPacket (cb : HsbDeviceCb ρ) (buf : Memory) (len : ℕ) (reply : ρ)
    (bound : ℕ) (haccept : checkTcpPktValid buf len = 0) (hle : bound ≤ len) :
    (readingDealTcpPacket cb len reply).Below buf bound ↔
      frameLayout (get16 buf 0) len ≤ bound := by
  have hlen : 0 < len := ((checkTcpPktValid_eq_zero_iff buf len).mp haccept).1
  unfold readingDealTcpPacket
  simp only [Reading.below_bind, Reading.below_pure, run_readingCheckTcpPktValid, haccept,
    ne_eq, not_true_eq_false, if_false, below_read16, run_read16, and_true,
    below_readingCheckTcpPktValid buf len bound (by omega)]
  constructor
  · rintro ⟨hheader, -, -, hdispatch⟩
    exact (below_readingDispatch cb buf len reply _ bound hheader hle).mp hdispatch
  · intro hlayout
    have hheader : 4 ≤ bound := (four_le_frameLayout _ len).trans hlayout
    exact ⟨hheader, by omega, hheader,
      (below_readingDispatch cb buf len reply _ bound hheader hle).mpr hlayout⟩

/-- For every read of a client and every frame accepted in it at `pos`, the
declared length fits into the read, all bytes read for the frame lie below it,
and the frame does the same whatever lies behind its declared bytes, if and only
if the declared length covers the layout of its command. -/
theorem reads_within_frame_iff (bytes : List UInt8) (stale : Memory) (pos : ℕ)
    (hacc : AcceptedAt (load bytes stale) bytes.length pos) (cb : HsbDeviceCb ρ) (reply : ρ) :
    (pos + declaredLength (load bytes stale) pos ≤ bytes.length ∧
        (readingDealTcpPacket cb (bytes.length - pos) reply).Below
          (shift (load bytes stale) pos) (declaredLength (load bytes stale) pos) ∧
        ∀ buf', AgreeBelow (declaredLength (load bytes stale) pos)
            (shift (load bytes stale) pos) buf' →
          dealTcpPacket cb buf' (bytes.length - pos) reply =
            dealTcpPacket cb (shift (load bytes stale) pos) (bytes.length - pos) reply) ↔
      frameLayout (get16 (shift (load bytes stale) pos) 0) (bytes.length - pos) ≤
        declaredLength (load bytes stale) pos := by
  obtain ⟨hlen, -, hle⟩ := (checkTcpPktValid_eq_zero_iff _ _).mp hacc
  have hbelow := below_readingDealTcpPacket cb (shift (load bytes stale) pos)
    (bytes.length - pos) reply (declaredLength (load bytes stale) pos) hacc hle
  constructor
  · rintro ⟨-, hreads, -⟩
    exact hbelow.mp hreads
  · intro hlayout
    have hreads := hbelow.mpr hlayout
    refine ⟨?_, hreads, ?_⟩
    · unfold declaredLength
      omega
    · intro buf' hagree
      rw [← run_readingDealTcpPacket, ← run_readingDealTcpPacket]
      exact (hreads.run_congr hagree).symm

/-- GET_INFO for device 7 declares its eight bytes. -/
theorem getInfo_reads_within_frame :
    AcceptedAt (load [0x13, 0x88, 8, 0, 7, 0, 0, 0] zeros) 8 0 ∧
      (readingDealTcpPacket ({} : HsbDeviceCb ℕ) 8 0).Below
        (load [0x13, 0x88, 8, 0, 7, 0, 0, 0] zeros) 8 := by
  have hacc : AcceptedAt (load [0x13, 0x88, 8, 0, 7, 0, 0, 0] zeros) 8 0 := by
    unfold AcceptedAt
    decide
  have hreads := (reads_within_frame_iff [0x13, 0x88, 8, 0, 7, 0, 0, 0] zeros 0 hacc
    ({} : HsbDeviceCb ℕ) 0).mpr (by decide)
  exact ⟨hacc, hreads.2.1⟩

/-- SET_TIMER for device 7, slot 1, shorter than its layout: the four bytes of
its header are all that the client sends. -/
def shortSetTimer : List UInt8 := [0x33, 0x88, 4, 0]

/-- What an earlier read left behind the header: device 7, slot 1, every day at
06:30:00. -/
def leftBehind : Memory :=
  load [0, 0, 0, 0, 7, 0, 0, 0, 1, 0, 0xFF, 0, 6, 30, 0, 0x7F, 1, 0, 1, 0, 1, 0, 0, 0] zeros

/-- A box with device 7 online. -/
def deviceSeven : HsbDeviceCb ℕ :=
  { queue := [{ id := 7, info := {}, driver := ⟨1⟩, op := some .virtualSwitchOp }] }

/-- The four bytes are accepted with declared length 4 and set a timer whose
every field comes from behind them. -/
theorem short_setTimer_reads_behind :
    AcceptedAt (load shortSetTimer leftBehind) 4 0 ∧
      declaredLength (load shortSetTimer leftBehind) 0 = 4 ∧
      ¬ (readingDealTcpPacket deviceSeven 4 0).Below (load shortSetTimer leftBehind) 4 ∧
      ((dealTcpPacket deviceSeven (load shortSetTimer leftBehind) 4 0).cb.queue.map
        fun dev => (dev.timerStatus[1].active, dev.timer[1].hour, dev.timer[1].min)) =
          [(true, 6, 30)] ∧
      ((dealTcpPacket deviceSeven (load shortSetTimer zeros) 4 0).cb.queue.map
        fun dev => (dev.timerStatus[1].active, dev.timer[1].hour, dev.timer[1].min)) =
          [(false, 0, 0)] := by
  refine ⟨by unfold AcceptedAt; decide, by decide, ?_, by decide +kernel, by decide +kernel⟩
  rw [below_readingDealTcpPacket deviceSeven _ 4 0 4 (by decide) (by decide)]
  decide

end HomeSecurityBox.FieldBounds
