import Mathlib.Tactic.IntervalCases
import HomeSecurityBox.Device
import HomeSecurityBox.RemoteCtl

/-!
One client packet: the acceptance check, the reply encoders and the dispatcher.
The packet is read through a pointer into the receive buffer, so a field past
the received bytes is read from whatever the buffer holds there. A dispatched
command yields at most one frame for the socket and the new control block.
-/

namespace HomeSecurityBox.TcpPacket

open ByteMemory Protocol DeviceData Device RemoteCtl

variable {ρ : Type}

/-- Zero means accepted; `len` is the number of bytes received from `buf` on. -/
def checkTcpPktValid (buf : Memory) (len : ℕ) : ℤ :=
  if len = 0 then -1
  else if !hsbCmdValid (get16 buf 0) then -2
  else if len < (get16 buf 2).toNat then -3
  else 0

def replyResult (buf : Memory) (ok : ℤ) : Frame :=
  let len := 8
  let buf := makeCmdHdr buf .result len
  ⟨len, set16 buf 4 (UInt16.ofInt ok)⟩

def replyDevIdList (buf : Memory) (devId : List UInt32) : Frame :=
  let len := devId.length * 4 + 4
  let buf := makeCmdHdr buf .getDevsResp len
  ⟨len, devId.zipIdx.foldl (fun buf entry => set32 buf (4 + entry.2 * 4) entry.1) buf⟩

/-- The first six bytes of the 8-byte address are copied. -/
def copyMac (buf : Memory) (off : ℕ) (mac : Vector UInt8 8) : Memory :=
  (mac.toList.take 6).zipIdx.foldl (fun buf entry => set8 buf (off + entry.2) entry.1) buf

def replyGetDeviceInfo (buf : Memory) (dev : HsbDev) : Frame :=
  let len := 24
  let buf := makeCmdHdr buf .getInfoResp len
  let buf := set32 buf 4 dev.id
  let buf := set32 buf 8 dev.driver.id
  let buf := set16 buf 12 (UInt16.ofNat dev.info.cls.toNat)
  let buf := set16 buf 14 (UInt16.ofNat dev.info.interface.toNat)
  ⟨len, copyMac buf 16 dev.info.mac⟩

def replyGetTimer (buf : Memory) (devId : UInt32) (tm : HsbTimer) : Frame :=
  let len := 24
  let buf := makeCmdHdr buf .getTimerResp len
  let buf := set32 buf 4 devId
  let buf := set16 buf 8 tm.id
  let buf := set8 buf 10 tm.workMode
  let buf := set8 buf 11 tm.flag
  let buf := set8 buf 12 tm.hour
  let buf := set8 buf 13 tm.min
  let buf := set8 buf 14 tm.sec
  let buf := set8 buf 15 tm.wday
  let buf := set16 buf 16 tm.actId
  let buf := set16 buf 18 tm.actParam1
  ⟨len, set32 buf 20 tm.actParam2⟩

def replyGetDelay (buf : Memory) (devId : UInt32) (delay : HsbDelay) : Frame :=
  let len := 32
  let buf := makeCmdHdr buf .getDelayResp len
  let buf := set32 buf 4 devId
  let buf := set16 buf 8 delay.id
  let buf := set8 buf 10 delay.workMode
  let buf := set8 buf 11 delay.flag
  let buf := set16 buf 12 delay.evtId
  let buf := set16 buf 14 delay.evtParam1
  let buf := set32 buf 16 delay.evtParam2
  let buf := set16 buf 20 delay.actId
  let buf := set16 buf 22 delay.actParam1
  let buf := set32 buf 24 delay.actParam2
  ⟨len, set32 buf 28 delay.delaySec⟩

def replyGetLinkage (buf : Memory) (devId : UInt32) (link : HsbLinkage) : Frame :=
  let len := 32
  let buf := makeCmdHdr buf .getLinkageResp len
  let buf := set32 buf 4 devId
  let buf := set16 buf 8 link.id
  let buf := set8 buf 10 link.workMode
  let buf := set8 buf 11 link.flag
  let buf := set16 buf 12 link.evtId
  let buf := set16 buf 14 link.evtParam1
  let buf := set32 buf 16 link.evtParam2
  let buf := set32 buf 20 link.actDevid
  let buf := set16 buf 24 link.actId
  let buf := set16 buf 26 link.actParam1
  ⟨len, set32 buf 28 link.actParam2⟩

/-- The number of pairs `(len - 8) / 4`, in C's signed division, capped at 8. -/
def statusTotal (len : ℕ) : ℤ :=
  let total := ((len : ℤ) - 8).tdiv 4
  if total > 8 then 8 else total

/-- Pairs 0 to `n - 1` are read from offset 8 on into the status. -/
def readPairs (buf : Memory) (status : HsbStatus) : ℕ → HsbStatus
  | 0 => status
  | n + 1 =>
      let status := readPairs buf status n
      { status with
        id := status.id.setIfInBounds n (get16 buf (8 + n * 4))
        val := status.val.setIfInBounds n (get16 buf (10 + n * 4)) }

/-- A negative total runs no iteration and is stored as an unsigned count. -/
def getDevStatus (buf : Memory) (len : ℕ) (status : HsbStatus) : HsbStatus :=
  { readPairs buf status (statusTotal len).toNat with
    num := UInt32.ofInt (statusTotal len) }

def readTimer (buf : Memory) : HsbTimer where
  id := get16 buf 8
  workMode := get8 buf 10
  flag := get8 buf 11
  hour := get8 buf 12
  min := get8 buf 13
  sec := get8 buf 14
  wday := get8 buf 15
  actId := get16 buf 16
  actParam1 := get16 buf 18
  actParam2 := get32 buf 20

def readDelay (buf : Memory) : HsbDelay where
  id := get16 buf 8
  workMode := get8 buf 10
  flag := get8 buf 11
  evtId := get16 buf 12
  evtParam1 := get16 buf 14
  evtParam2 := get32 buf 16
  actId := get16 buf 20
  actParam1 := get16 buf 22
  actParam2 := get32 buf 24
  delaySec := get32 buf 28

def readLinkage (buf : Memory) : HsbLinkage where
  id := get16 buf 8
  workMode := get8 buf 10
  flag := get8 buf 11
  evtId := get16 buf 12
  evtParam1 := get16 buf 14
  evtParam2 := get32 buf 16
  actDevid := get32 buf 20
  actId := get16 buf 24
  actParam1 := get16 buf 26
  actParam2 := get32 buf 28

/-- The action of a DO_ACTION packet; remote keys are mapped first. -/
def readAction (buf : Memory) : Except ℤ HsbAction :=
  let devId := get32 buf 4
  let actId := get16 buf 8
  let param1 := get16 buf 10
  let param2 := get32 buf 12
  if actId = hsbActTypeRemoteControl then
    remoteKeyMapping param1 param2 { devid := devId }
  else .ok { devid := devId, id := actId, param1 := param1, param2 := param2 }

/-- What a command does: the frame for the socket, if any, and the new state. -/
structure Dispatch (ρ : Type) where
  frame : Option Frame
  cb : HsbDeviceCb ρ

/-- A lookup answers with its record or with its error code. -/
def answer {α : Type} (cb : HsbDeviceCb ρ) (found : Except ℤ α) (encode : α → Frame) :
    Dispatch ρ :=
  match found with
  | .ok value => ⟨some (encode value), cb⟩
  | .error code => ⟨some (replyResult zeros code), cb⟩

/-- A store operation answers with its result code. -/
def confirm (cb : HsbDeviceCb ρ) (stored : Except ℤ (HsbDeviceCb ρ)) : Dispatch ρ :=
  match stored with
  | .ok cb' => ⟨some (replyResult zeros HsbErrorNo.ok.code), cb'⟩
  | .error code => ⟨some (replyResult zeros code), cb⟩

/-- The `switch` of the dispatcher on a command code. -/
def dispatchCmd (cb : HsbDeviceCb ρ) (buf : Memory) (len : ℕ) (reply : ρ) (cmd : UInt16) :
    Dispatch ρ :=
  let replyBuf := zeros
  match HsbCmd.ofCode cmd with
  | some .getDevs => ⟨some (replyDevIdList replyBuf (getDevIdList cb)), cb⟩
  | some .getInfo =>
      answer cb (getDevInfo cb (get32 buf 4)) (replyGetDeviceInfo replyBuf)
  | some .getStatus => ⟨none, getDevStatusAsync cb (get32 buf 4) (some reply)⟩
  | some .setStatus =>
      -- the length passed on is that of the remaining read, not of the packet
      ⟨none, setDevStatusAsync cb (getDevStatus buf len { devid := get32 buf 4 })
        (some reply)⟩
  | some .getTimer =>
      answer cb (getDevTimer cb (get32 buf 4) (get16 buf 8))
        (replyGetTimer replyBuf (get32 buf 4))
  | some .setTimer => confirm cb (setDevTimer cb (get32 buf 4) (readTimer buf))
  | some .delTimer => confirm cb (delDevTimer cb (get32 buf 4) (get16 buf 8))
  | some .getDelay =>
      answer cb (getDevDelay cb (get32 buf 4) (get16 buf 8))
        (replyGetDelay replyBuf (get32 buf 4))
  | some .setDelay => confirm cb (setDevDelay cb (get32 buf 4) (readDelay buf))
  | some .delDelay => confirm cb (delDevDelay cb (get32 buf 4) (get16 buf 8))
  | some .getLinkage =>
      answer cb (getDevLinkage cb (get32 buf 4) (get16 buf 8))
        (replyGetLinkage replyBuf (get32 buf 4))
  | some .setLinkage => confirm cb (setDevLinkage cb (get32 buf 4) (readLinkage buf))
  | some .delLinkage => confirm cb (delDevLinkage cb (get32 buf 4) (get16 buf 8))
  | some .doAction =>
      match readAction buf with
      | .error code => ⟨some (replyResult replyBuf code), cb⟩
      | .ok act => ⟨none, setDevActionAsync cb act (some reply)⟩
  | some .probeDev =>
      ⟨none, probeDevAsync cb { drvid := UInt32.ofNat (get16 buf 4).toNat } (some reply)⟩
  | _ => ⟨some (replyResult replyBuf 0), cb⟩

/-- What one call of the dispatcher leaves behind. -/
structure Outcome (ρ : Type) where
  ret : ℤ
  used : ℕ
  written : Option (List UInt8)
  cb : HsbDeviceCb ρ

def dealTcpPacket (cb : HsbDeviceCb ρ) (buf : Memory) (len : ℕ) (reply : ρ) : Outcome ρ :=
  if checkTcpPktValid buf len ≠ 0 then ⟨-1, len, none, cb⟩
  else
    let cmd := get16 buf 0
    let cmdlen := get16 buf 2
    let done := dispatchCmd cb buf len reply cmd
    ⟨0, cmdlen.toNat, done.frame.map Frame.bytes, done.cb⟩

/-- The `used` of a call is decided by the header and the remaining length. -/
def packetUsed (buf : Memory) (len : ℕ) : ℕ :=
  if checkTcpPktValid buf len ≠ 0 then len else (get16 buf 2).toNat

theorem dealTcpPacket_used (cb : HsbDeviceCb ρ) (buf : Memory) (len : ℕ) (reply : ρ) :
    (dealTcpPacket cb buf len reply).used = packetUsed buf len := by
  unfold dealTcpPacket packetUsed
  split <;> rfl

theorem checkTcpPktValid_eq_zero_iff (buf : Memory) (len : ℕ) :
    checkTcpPktValid buf len = 0 ↔
      0 < len ∧ hsbCmdValid (get16 buf 0) = true ∧ (get16 buf 2).toNat ≤ len := by
  unfold checkTcpPktValid
  split
  · rename_i hlen
    simp [hlen]
  · rename_i hlen
    split
    · rename_i hcmd
      simp only [Bool.not_eq_eq_eq_not, Bool.not_true] at hcmd
      simp [hcmd]
    · rename_i hcmd
      simp only [Bool.not_eq_eq_eq_not, Bool.not_true, Bool.not_eq_false] at hcmd
      split
      · rename_i hshort
        refine ⟨fun h => absurd h (by decide), fun h => ?_⟩
        exact absurd hshort (Nat.not_lt.mpr h.2.2)
      · rename_i hfits
        simp only [true_iff]
        exact ⟨by omega, hcmd, by omega⟩

theorem packetUsed_of_accepted (buf : Memory) (len : ℕ) (h : checkTcpPktValid buf len = 0) :
    packetUsed buf len = (get16 buf 2).toNat := by
  simp [packetUsed, h]

theorem packetUsed_of_rejected (buf : Memory) (len : ℕ) (h : checkTcpPktValid buf len ≠ 0) :
    packetUsed buf len = len := by
  simp [packetUsed, h]

theorem packetUsed_le (buf : Memory) (len : ℕ) : packetUsed buf len ≤ len := by
  by_cases h : checkTcpPktValid buf len = 0
  · rw [packetUsed_of_accepted buf len h]
    exact ((checkTcpPktValid_eq_zero_iff buf len).mp h).2.2
  · exact Nat.le_of_eq (packetUsed_of_rejected buf len h)

/-- The end of the last field that the handler of a command reads; the pairs of
SET_STATUS come behind it. -/
def layoutEnd (cmd : UInt16) : ℕ :=
  match HsbCmd.ofCode cmd with
  | some .getInfo | some .getStatus | some .setStatus => 8
  | some .getTimer | some .delTimer => 10
  | some .getDelay | some .delDelay => 10
  | some .getLinkage | some .delLinkage => 10
  | some .setTimer => 24
  | some .setDelay | some .setLinkage => 32
  | some .doAction => 16
  | some .probeDev => 6
  | _ => 4

/-- The acts that a command queues; they do not depend on the devices. -/
def dispatchActs (buf : Memory) (len : ℕ) (reply : ρ) (cmd : UInt16) : List (HsbAct ρ) :=
  match HsbCmd.ofCode cmd with
  | some .getStatus => [⟨.getStatus { devid := get32 buf 4 }, some reply⟩]
  | some .setStatus =>
      [⟨.setStatus (getDevStatus buf len { devid := get32 buf 4 }), some reply⟩]
  | some .doAction =>
      match readAction buf with
      | .error _ => []
      | .ok act => [⟨.doAction act, some reply⟩]
  | some .probeDev =>
      [⟨.probe { drvid := UInt32.ofNat (get16 buf 4).toNat }, some reply⟩]
  | _ => []

theorem answer_cb {α : Type} (cb : HsbDeviceCb ρ) (found : Except ℤ α) (encode : α → Frame) :
    (answer cb found encode).cb = cb := by
  unfold answer
  split <;> rfl

theorem confirm_asyncQueue (cb : HsbDeviceCb ρ) (stored : Except ℤ (HsbDeviceCb ρ))
    (h : ∀ cb', stored = .ok cb' → cb'.asyncQueue = cb.asyncQueue) :
    (confirm cb stored).cb.asyncQueue = cb.asyncQueue := by
  unfold confirm
  split
  · exact h _ rfl
  · rfl

/-- Dispatching appends exactly the acts of the command. -/
theorem dispatchCmd_asyncQueue (cb : HsbDeviceCb ρ) (buf : Memory) (len : ℕ) (reply : ρ)
    (cmd : UInt16) :
    (dispatchCmd cb buf len reply cmd).cb.asyncQueue =
      cb.asyncQueue ++ dispatchActs buf len reply cmd := by
  unfold dispatchCmd dispatchActs
  cases HsbCmd.ofCode cmd with
  | none => simp
  | some c =>
    cases c <;>
      simp only [answer_cb, List.append_nil, getDevStatusAsync, setDevStatusAsync,
        probeDevAsync, pushAct]
    case setTimer =>
      exact confirm_asyncQueue cb _ (fun cb' h => SlotTable.set_asyncQueue _ cb cb' _ _ h)
    case delTimer =>
      exact confirm_asyncQueue cb _ (fun cb' h => SlotTable.del_asyncQueue _ cb cb' _ _ h)
    case setDelay =>
      exact confirm_asyncQueue cb _ (fun cb' h => SlotTable.set_asyncQueue _ cb cb' _ _ h)
    case delDelay =>
      exact confirm_asyncQueue cb _ (fun cb' h => SlotTable.del_asyncQueue _ cb cb' _ _ h)
    case setLinkage =>
      exact confirm_asyncQueue cb _ (fun cb' h => SlotTable.set_asyncQueue _ cb cb' _ _ h)
    case delLinkage =>
      exact confirm_asyncQueue cb _ (fun cb' h => SlotTable.del_asyncQueue _ cb cb' _ _ h)
    case doAction =>
      cases readAction buf with
      | error code => simp
      | ok act => rfl

theorem dealTcpPacket_asyncQueue (cb : HsbDeviceCb ρ) (buf : Memory) (len : ℕ) (reply : ρ)
    (haccept : checkTcpPktValid buf len = 0) :
    (dealTcpPacket cb buf len reply).cb.asyncQueue =
      cb.asyncQueue ++ dispatchActs buf len reply (get16 buf 0) := by
  unfold dealTcpPacket
  rw [if_neg (not_not.mpr haccept)]
  exact dispatchCmd_asyncQueue cb buf len reply (get16 buf 0)

theorem readPairs_congr {n : ℕ} {buf buf' : Memory} (status : HsbStatus)
    (h : AgreeBelow (8 + 4 * n) buf buf') : readPairs buf status n = readPairs buf' status n := by
  induction n with
  | zero => rfl
  | succ n ih =>
    have hrest := ih (h.mono (by omega))
    simp (disch := omega) only [readPairs, hrest, h.get16]

@[simp] theorem readPairs_devid (buf : Memory) (status : HsbStatus) (n : ℕ) :
    (readPairs buf status n).devid = status.devid := by
  induction n with
  | zero => rfl
  | succ n ih => exact ih

/-- The pairs that have been read. -/
theorem readPairs_pair (buf : Memory) (status : HsbStatus) (n : ℕ) :
    ∀ i (hi : i < 8), i < n →
      (readPairs buf status n).id[i] = get16 buf (8 + i * 4) ∧
        (readPairs buf status n).val[i] = get16 buf (10 + i * 4) := by
  induction n with
  | zero => exact fun i _ hn => absurd hn (Nat.not_lt_zero i)
  | succ n ih =>
    intro i hi hn
    simp only [readPairs, Vector.getElem_setIfInBounds]
    rcases Nat.lt_or_eq_of_le (Nat.le_of_lt_succ hn) with hlt | rfl
    · rw [if_neg (Nat.ne_of_gt hlt), if_neg (Nat.ne_of_gt hlt)]
      exact ih i hi hlt
    · rw [if_pos rfl, if_pos rfl]
      exact ⟨rfl, rfl⟩

theorem readTimer_congr {n : ℕ} {buf buf' : Memory} (h : AgreeBelow n buf buf')
    (hn : 24 ≤ n) : readTimer buf = readTimer buf' := by
  have h := h.mono hn
  simp (disch := omega) only [readTimer, h.get8, h.get16, h.get32]

theorem readDelay_congr {n : ℕ} {buf buf' : Memory} (h : AgreeBelow n buf buf')
    (hn : 32 ≤ n) : readDelay buf = readDelay buf' := by
  have h := h.mono hn
  simp (disch := omega) only [readDelay, h.get8, h.get16, h.get32]

theorem readLinkage_congr {n : ℕ} {buf buf' : Memory} (h : AgreeBelow n buf buf')
    (hn : 32 ≤ n) : readLinkage buf = readLinkage buf' := by
  have h := h.mono hn
  simp (disch := omega) only [readLinkage, h.get8, h.get16, h.get32]

theorem readAction_congr {n : ℕ} {buf buf' : Memory} (h : AgreeBelow n buf buf')
    (hn : 16 ≤ n) : readAction buf = readAction buf' := by
  have h := h.mono hn
  simp (disch := omega) only [readAction, h.get16, h.get32]

/-- A command does the same on two buffers that agree on its layout, provided
that SET_STATUS reads the same pairs from both. -/
theorem dispatchCmd_congr (cb : HsbDeviceCb ρ) {buf buf' : Memory} {n : ℕ} (len len' : ℕ)
    (reply : ρ) (cmd : UInt16) (h : AgreeBelow n buf buf') (hn : layoutEnd cmd ≤ n)
    (hstatus : HsbCmd.ofCode cmd = some .setStatus →
      getDevStatus buf len { devid := get32 buf 4 } =
        getDevStatus buf' len' { devid := get32 buf' 4 }) :
    dispatchCmd cb buf len reply cmd = dispatchCmd cb buf' len' reply cmd := by
  unfold dispatchCmd
  unfold layoutEnd at hn
  cases hcmd : HsbCmd.ofCode cmd with
  | none => rfl
  | some c =>
    simp only [hcmd] at hn
    cases c
    case setStatus => simp only [hstatus hcmd]
    case getInfo | getStatus =>
      simp only at hn
      simp (disch := omega) only [h.get32]
    case getTimer | delTimer | getDelay | delDelay | getLinkage | delLinkage =>
      simp only at hn
      simp (disch := omega) only [h.get16, h.get32]
    case setTimer =>
      simp only at hn
      simp (disch := omega) only [h.get32, readTimer_congr h hn]
    case setDelay =>
      simp only at hn
      simp (disch := omega) only [h.get32, readDelay_congr h hn]
    case setLinkage =>
      simp only at hn
      simp (disch := omega) only [h.get32, readLinkage_congr h hn]
    case doAction =>
      simp only at hn
      simp only [readAction_congr h hn]
    case probeDev =>
      simp only at hn
      simp (disch := omega) only [h.get16]
    all_goals rfl

theorem statusTotal_of_le (len : ℕ) (hpos : 0 < len) (h : len ≤ 4) : statusTotal len = -1 := by
  unfold statusTotal
  interval_cases len <;> decide

theorem statusTotal_of_lt (len : ℕ) (h : 4 < len) :
    statusTotal len = (min 8 ((len - 8) / 4) : ℕ) := by
  have hdiv : ((len : ℤ) - 8).tdiv 4 = ((len - 8) / 4 : ℕ) := by
    rcases Nat.lt_or_ge len 8 with hlow | hhigh
    · interval_cases len <;> decide
    · rw [Int.tdiv_eq_ediv_of_nonneg (by omega)]
      omega
  unfold statusTotal
  rw [hdiv]
  simp only [Nat.cast_min, Nat.cast_ofNat]
  split <;> omega

end HomeSecurityBox.TcpPacket
