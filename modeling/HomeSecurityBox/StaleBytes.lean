import HomeSecurityBox.UartFraming
import HomeSecurityBox.ZigbeeDriver

/-!
What the monitor threads make of a message, and whether it depends on earlier ones. The
receive buffers live as long as the threads and are not cleared, and the handlers read
the fields of a command wherever the message ends.
-/

namespace HomeSecurityBox.StaleBytes

open ByteMemory DeviceData VirtualSwitch VsDriver Transitions

/-- A call of `_event`, `_status_updated` or, with its record, `_register_device`. -/
inductive Raised
  | event (devid : UInt32) (id param : UInt16) (param2 : UInt32)
  | status (devid : UInt32) (id val : UInt16)
  | registration (shortAddr endPoint : UInt16) (info : List UInt8)
  deriving DecidableEq, Repr

/-- What the handler of a datagram calls for the device that sent it. -/
def vsCall (devid : UInt32) (rbuf : Memory) : Option Raised :=
  if get16 rbuf 0 = VsCmd.statusChanged.code then
    some (.status devid (get16 rbuf 4) (get16 rbuf 6))
  else if get16 rbuf 0 = VsCmd.event.code then
    some (.event devid (get16 rbuf 4) (get16 rbuf 6) (get32 rbuf 8))
  else none

/-- What one iteration of the thread calls. -/
def vsRaised (queue : List VsDev) (addr : UInt32) (rbuf : Memory) (ret : ℕ) : Option Raised :=
  if ret < 4 ∨ (get16 rbuf 2).toNat ≠ ret then none
  else (findDevByIp queue addr).bind fun dev => vsCall dev.id rbuf

variable {ρ : Type}

/-- The effect of the calls on the core; no datagram registers a device. -/
def vsHandle (cb : HsbDeviceCb ρ) : Option Raised → HsbDeviceCb ρ
  | some (.event devid id param param2) => VsDriver.event cb devid id param param2
  | some (.status devid id val) => VsDriver.statusUpdated cb devid id val
  | _ => cb

theorem dealDatagram_eq (cb : HsbDeviceCb ρ) (devid : UInt32) (rbuf : Memory) :
    dealDatagram cb devid rbuf = vsHandle cb (vsCall devid rbuf) := by
  unfold dealDatagram vsCall
  split
  · rfl
  · split
    · rfl
    · rfl

/-- The core sees of a datagram what it raises, and nothing else. -/
theorem recvDatagram_cb (s : VsState ρ) (addr : UInt32) (rbuf : Memory) (ret : ℕ) :
    (recvDatagram s addr rbuf ret).cb = vsHandle s.cb (vsRaised s.queue addr rbuf ret) := by
  unfold recvDatagram vsRaised
  split
  · rfl
  · cases hfind : findDevByIp s.queue addr with
    | none => rfl
    | some dev => exact dealDatagram_eq s.cb dev.id rbuf

/-- The monitor thread with its `rbuf`. -/
structure VsThread (ρ : Type) where
  drv : VsState ρ
  rbuf : Memory

inductive VsThreadStep (ρ : Type)
  | core (cb : HsbDeviceCb ρ)
  | discovered (addr : UInt32) (info : VsInfo)
  | datagram (addr : UInt32) (bytes : List UInt8)
  | timeout

/-- `recvfrom` cuts a datagram off at the length it is given. -/
def received (bytes : List UInt8) : List UInt8 := bytes.take 16

def vsThreadStep (s : VsThread ρ) : VsThreadStep ρ → Option (VsThread ρ)
  | .core cb => some { s with drv := { s.drv with cb := cb } }
  | .discovered addr info =>
      (vsStep s.drv (.discovered addr info)).map fun drv => { s with drv := drv }
  | .datagram addr bytes =>
      let rbuf := load (received bytes) s.rbuf
      (vsStep s.drv (.datagram addr rbuf (received bytes).length)).map fun drv => ⟨drv, rbuf⟩
  | .timeout => (vsStep s.drv .timeout).map fun drv => { s with drv := drv }

/-- The thread has come to this state from an empty list, with `rbuf` as it was on its
stack. -/
def VsReaches (rbuf : Memory) (s : VsThread ρ) : Prop :=
  Reachable vsThreadStep (fun s => ∃ cb, s = ⟨{ cb := cb }, rbuf⟩) s

def raisedByDatagram (s : VsThread ρ) (addr : UInt32) (bytes : List UInt8) : Option Raised :=
  vsRaised s.drv.queue addr (load (received bytes) s.rbuf) (received bytes).length

/-- Whatever the two runs received before, with this list they make the same of the
datagram. -/
def DatagramAlone (ρ : Type) (rbuf rbuf' : Memory) (queue : List VsDev) (addr : UInt32)
    (bytes : List UInt8) : Prop :=
  ∀ s s' : VsThread ρ, VsReaches rbuf s → VsReaches rbuf' s' → s.drv.queue = queue →
    s'.drv.queue = queue → raisedByDatagram s addr bytes = raisedByDatagram s' addr bytes

/-- A datagram that is accepted from a known address has the fields of its command. -/
def DatagramComplete (queue : List VsDev) (addr : UInt32) (bytes : List UInt8) : Prop :=
  let ret := (received bytes).length
  let rbuf := load (received bytes) zeros
  4 ≤ ret → (get16 rbuf 2).toNat = ret → findDevByIp queue addr ≠ none →
    (get16 rbuf 0 = VsCmd.statusChanged.code → 8 ≤ ret) ∧
      (get16 rbuf 0 = VsCmd.event.code → 12 ≤ ret)

/-- With all the fields received, the datagram alone decides. -/
theorem vsRaised_of_complete {queue : List VsDev} {addr : UInt32} {bytes : List UInt8}
    (h : DatagramComplete queue addr bytes) (stale : Memory) :
    vsRaised queue addr (load (received bytes) stale) (received bytes).length =
      vsRaised queue addr (load (received bytes) zeros) (received bytes).length := by
  have hagree := load_agree (received bytes) stale zeros
  rcases Nat.lt_or_ge (received bytes).length 4 with hshort | hlong
  · simp only [vsRaised, hshort, true_or, if_true]
  · have hcmd := hagree.get16 (show 0 + 2 ≤ _ by omega)
    have hlen := hagree.get16 (show 2 + 2 ≤ _ by omega)
    simp only [vsRaised, hlen]
    split
    · rfl
    · rename_i haccepted
      cases hfind : findDevByIp queue addr with
      | none => rfl
      | some dev =>
        obtain ⟨hstatus, hevent⟩ :=
          h hlong (by omega) (by rw [hfind]; exact Option.some_ne_none dev)
        simp only [Option.bind_some, vsCall, hcmd]
        split
        · rename_i hcode
          have hend := hstatus hcode
          rw [hagree.get16 (show 4 + 2 ≤ _ by omega), hagree.get16 (show 6 + 2 ≤ _ by omega)]
        · split
          · rename_i hcode
            have hend := hevent hcode
            rw [hagree.get16 (show 4 + 2 ≤ _ by omega), hagree.get16 (show 6 + 2 ≤ _ by omega),
              hagree.get32 (show 8 + 4 ≤ _ by omega)]
          · rfl

/-- Otherwise the last field ends in a byte of an earlier datagram. -/
theorem vsRaised_of_not_complete {queue : List VsDev} {addr : UInt32} {bytes : List UInt8}
    (h : ¬ DatagramComplete queue addr bytes) (m m' : Memory)
    (hstale : ∀ i, (received bytes).length ≤ i → i < 16 → m i ≠ m' i) :
    vsRaised queue addr (load (received bytes) m) (received bytes).length ≠
      vsRaised queue addr (load (received bytes) m') (received bytes).length := by
  have hagree : ∀ stale, AgreeBelow (received bytes).length (load (received bytes) stale)
      (load (received bytes) zeros) := fun stale => load_agree (received bytes) stale zeros
  have hlast : ∀ i, (received bytes).length ≤ i → i < 16 →
      load (received bytes) m i ≠ load (received bytes) m' i :=
    fun i hi hend => load_ne_load hi (hstale i hi hend)
  simp only [DatagramComplete, not_forall] at h
  obtain ⟨hlong, hsize, hknown, hfields⟩ := h
  obtain ⟨dev, hfind⟩ := Option.ne_none_iff_exists'.mp hknown
  have hraised : ∀ stale, vsRaised queue addr (load (received bytes) stale)
      (received bytes).length = vsCall dev.id (load (received bytes) stale) := by
    intro stale
    have haccepted : ¬((received bytes).length < 4 ∨
        (get16 (load (received bytes) stale) 2).toNat ≠ (received bytes).length) := by
      rw [(hagree stale).get16 (show 2 + 2 ≤ _ by omega)]
      omega
    rw [vsRaised, if_neg haccepted, hfind, Option.bind_some]
  have hcmd : ∀ stale, get16 (load (received bytes) stale) 0 =
      get16 (load (received bytes) zeros) 0 := fun stale =>
    (hagree stale).get16 (show 0 + 2 ≤ _ by omega)
  rw [hraised m, hraised m']
  intro hsame
  rcases not_and_or.mp hfields with hstatus | hevent
  · obtain ⟨hcode, hshort⟩ := Classical.not_imp.mp hstatus
    rw [vsCall, vsCall, if_pos ((hcmd m).trans hcode), if_pos ((hcmd m').trans hcode)] at hsame
    injection hsame with hcall
    injection hcall with _ _ hval
    exact hlast 7 (by omega) (by omega) (bytes_of_get16 hval).2
  · obtain ⟨hcode, hshort⟩ := Classical.not_imp.mp hevent
    have hother : VsCmd.event.code ≠ VsCmd.statusChanged.code := by decide
    rw [vsCall, vsCall, hcmd m, hcmd m', hcode, if_neg hother, if_neg hother, if_pos rfl,
      if_pos rfl] at hsame
    injection hsame with hcall
    injection hcall with _ _ _ hparam
    exact hlast 11 (by omega) (by omega) (get32_last hparam)

/-- A datagram as long as `rbuf` with one value throughout; its length field is not its
length. -/
def fill (v : UInt8) : List UInt8 := List.replicate 16 v

theorem load_fill (v : UInt8) (stale : Memory) (i : ℕ) (hi : i < 16) :
    load (fill v) stale i = v := by
  have hlength : (fill v).length = 16 := List.length_replicate
  rw [load_lt _ _ _ (hlength ▸ hi)]
  exact List.getElem_replicate _

theorem fill_rejected (s : VsThread ρ) (v : UInt8) :
    vsThreadStep s (.datagram 0 (fill v)) = some ⟨s.drv, load (fill v) s.rbuf⟩ := by
  have hreceived : received (fill v) = fill v := rfl
  have hlength : (fill v).length = 16 := List.length_replicate
  have hsize : (get16 (load (fill v) s.rbuf) 2).toNat ≠ 16 := by
    rw [get16_toNat, load_fill v _ 2 (by omega), load_fill v _ (2 + 1) (by omega)]
    omega
  simp only [vsThreadStep, vsStep, hreceived, hlength, recvDatagram, if_pos (Or.inr hsize),
    Option.map_some]

/-- Reached states with one list make the same of the datagram exactly if it brings all
its fields. -/
theorem datagramAlone_iff {rbuf rbuf' : Memory} {s s' : VsThread ρ} (h : VsReaches rbuf s)
    (h' : VsReaches rbuf' s') (hsame : s.drv.queue = s'.drv.queue) (addr : UInt32)
    (bytes : List UInt8) :
    DatagramAlone ρ rbuf rbuf' s.drv.queue addr bytes ↔
      DatagramComplete s.drv.queue addr bytes := by
  constructor
  · intro halone
    by_contra hshort
    refine vsRaised_of_not_complete hshort (load (fill 0) s.rbuf) (load (fill 1) s'.rbuf) ?_ ?_
    · intro i _ hi
      rw [load_fill 0 _ i hi, load_fill 1 _ i hi]
      decide
    · have hcall := halone _ _ (h.step (fill_rejected s 0)) (h'.step (fill_rejected s' 1)) rfl
        hsame.symm
      simpa only [raisedByDatagram, ← hsame] using hcall
  · intro hcomplete t t' _ _ ht ht'
    simp only [raisedByDatagram, ht, ht']
    rw [vsRaised_of_complete hcomplete t.rbuf, vsRaised_of_complete hcomplete t'.rbuf]

open Zigbee ZigbeeLink ZigbeeDriver UartMonitor UartFraming

/-- The size of a `CZ_INFO_T`. -/
def czInfoLen : ℕ := 24

/-- What `deal_recv_buf` calls for a frame. -/
def czCall (queue : List CzDev) (buf : Memory) : Option Raised :=
  let shortAddr := get16 buf 6
  let ptr := shift buf czHeaderLen
  let cmd := get16 ptr 0
  if transIdOf buf ≠ 0 then none
  else if cmd = CzCmd.deviceDiscoverResp.code then
    if discoverRespLen ≠ (get16 ptr 2).toNat then none
    else some (.registration shortAddr (get16 buf 8) (take (shift ptr 8) czInfoLen))
  else if cmd = CzCmd.event.code then
    (findDevByShortAddr queue shortAddr).map fun dev =>
      .event dev.id (get16 ptr 4) (get16 ptr 6) (get32 ptr 8)
  else if cmd = CzCmd.statusChanged.code then
    (findDevByShortAddr queue shortAddr).map fun dev => .status dev.id (get16 ptr 4) (get16 ptr 6)
  else none

def czHandle (s : CzState ρ) : Option Raised → Option (CzState ρ)
  | some (.event devid id param param2) =>
      some { s with cb := ZigbeeDriver.event s.cb devid id param param2 }
  | some (.status devid id val) =>
      some { s with cb := ZigbeeDriver.statusUpdated s.cb devid id val }
  | some (.registration shortAddr endPoint info) =>
      ZigbeeDriver.registerDevice s shortAddr endPoint (readInfo (load info zeros))
  | none => some s

theorem readInfo_congr {m m' : Memory} (h : AgreeBelow czInfoLen m m') :
    readInfo m = readInfo m' := by
  have hmac : ∀ i : Fin 8, get8 m (4 + i) = get8 m' (4 + i) := by
    intro i
    exact h.get8 (by simp only [czInfoLen]; omega)
  simp only [readInfo, h.get16 (show 0 + 2 ≤ czInfoLen by decide),
    h.get16 (show 2 + 2 ≤ czInfoLen by decide), hmac]

/-- An unsolicited frame does to the driver what it raises, and nothing else. -/
theorem dealUnsolicited_eq (s : CzState ρ) {buf : Memory} (hid : transIdOf buf = 0) :
    dealUnsolicited s buf = czHandle s (czCall s.link.queue buf) := by
  have hnone : ¬ transIdOf buf ≠ 0 := not_not.mpr hid
  simp only [dealUnsolicited, czCall, if_neg hnone]
  split
  · split
    · rfl
    · rw [czHandle, readInfo_congr (load_take_agree _ zeros czInfoLen)]
  · split
    · cases findDevByShortAddr s.link.queue (get16 buf 6) with
      | none => rfl
      | some dev => rfl
    · split
      · cases findDevByShortAddr s.link.queue (get16 buf 6) with
        | none => rfl
        | some dev => rfl
      · rfl

/-- The monitor thread at the port and the driver; the steps of the link do not change
the devices. -/
structure CzThread (ρ : Type) where
  uart : UartState
  drv : CzState ρ

inductive CzThreadStep (ρ : Type)
  | core (cb : HsbDeviceCb ρ)
  | port (a : UartStep)

/-- A step that hands over a frame takes it to `deal_recv_buf`. -/
def czThreadStep (s : CzThread ρ) : CzThreadStep ρ → Option (CzThread ρ)
  | .core cb => some { s with drv := { s.drv with cb := cb } }
  | .port a =>
      (uartStep s.uart a).bind fun uart =>
        if s.uart.calls.length < uart.calls.length ∧ transIdOf uart.rbuf = 0 then
          (dealUnsolicited s.drv uart.rbuf).map fun drv => ⟨uart, drv⟩
        else some ⟨uart, s.drv⟩

def CzReaches (rbuf : Memory) (s : CzThread ρ) : Prop :=
  Reachable czThreadStep (fun s => ∃ cb, s = ⟨UartState.start rbuf, { cb := cb }⟩) s

/-- From here the next step can hand over the frame, and this is what it raises. -/
def RaisedByFrame (s : CzThread ρ) (frame : List UInt8) (r : Option Raised) : Prop :=
  ∃ (a : UartStep) (uart : UartState), uartStep s.uart a = some uart ∧
    uart.calls = s.uart.calls ++ [frame] ∧ czCall s.drv.link.queue uart.rbuf = r

def FrameAlone (ρ : Type) (rbuf rbuf' : Memory) (queue : List CzDev) (frame : List UInt8) :
    Prop :=
  ∀ (s s' : CzThread ρ) (r r' : Option Raised), CzReaches rbuf s → CzReaches rbuf' s' →
    s.drv.link.queue = queue → s'.drv.link.queue = queue → RaisedByFrame s frame r →
    RaisedByFrame s' frame r' → r = r'

/-- What the thread takes for a frame. -/
structure IsFrame (frame : List UInt8) : Prop where
  magic : magicOf frame = czHeaderMagic
  size : lengthOf frame = frame.length
  long : czHeaderLen < frame.length

/-- The bytes of the field that the frame has are those of `v`. -/
def MayRead (frame : List UInt8) (off : ℕ) (v : UInt16) : Prop :=
  get16 (load frame (set16 zeros off v)) off = v

/-- A frame has every field of each command that its bytes allow. -/
def FrameComplete (queue : List CzDev) (frame : List UInt8) : Prop :=
  let buf := load frame zeros
  transIdOf buf = 0 →
    (MayRead frame czHeaderLen CzCmd.deviceDiscoverResp.code →
      MayRead frame (czHeaderLen + 2) (UInt16.ofNat discoverRespLen) →
        czHeaderLen + discoverRespLen ≤ frame.length) ∧
    (findDevByShortAddr queue (get16 buf 6) ≠ none →
      (MayRead frame czHeaderLen CzCmd.event.code → czHeaderLen + 12 ≤ frame.length) ∧
        (MayRead frame czHeaderLen CzCmd.statusChanged.code → czHeaderLen + 8 ≤ frame.length))

/-- What each call takes from the buffer. -/
inductive CzCalls (queue : List CzDev) (buf : Memory) : Raised → Prop
  | registration (hcmd : get16 buf czHeaderLen = CzCmd.deviceDiscoverResp.code)
      (hlen : get16 buf (czHeaderLen + 2) = UInt16.ofNat discoverRespLen) :
      CzCalls queue buf
        (.registration (get16 buf 6) (get16 buf 8)
          (take (shift (shift buf czHeaderLen) 8) czInfoLen))
  | event {dev : CzDev} (hcmd : get16 buf czHeaderLen = CzCmd.event.code)
      (hdev : findDevByShortAddr queue (get16 buf 6) = some dev) :
      CzCalls queue buf (.event dev.id (get16 buf (czHeaderLen + 4)) (get16 buf (czHeaderLen + 6))
        (get32 buf (czHeaderLen + 8)))
  | status {dev : CzDev} (hcmd : get16 buf czHeaderLen = CzCmd.statusChanged.code)
      (hdev : findDevByShortAddr queue (get16 buf 6) = some dev) :
      CzCalls queue buf
        (.status dev.id (get16 buf (czHeaderLen + 4)) (get16 buf (czHeaderLen + 6)))

theorem discoverRespLen_eq_iff (rlen : UInt16) :
    discoverRespLen = rlen.toNat ↔ rlen = UInt16.ofNat discoverRespLen := by
  rw [← UInt16.toNat_inj, eq_comm]
  rfl

theorem czCall_eq_some_iff (queue : List CzDev) (buf : Memory) (r : Raised) :
    czCall queue buf = some r ↔ transIdOf buf = 0 ∧ CzCalls queue buf r := by
  have hevent : CzCmd.event.code ≠ CzCmd.deviceDiscoverResp.code := by decide
  have hstatus : CzCmd.statusChanged.code ≠ CzCmd.deviceDiscoverResp.code ∧
      CzCmd.statusChanged.code ≠ CzCmd.event.code := by decide
  constructor
  · intro h
    simp only [czCall] at h
    split at h
    · contradiction
    · rename_i hid
      refine ⟨not_not.mp hid, ?_⟩
      split at h
      · rename_i hcmd
        split at h
        · contradiction
        · rename_i hlen
          cases Option.some.inj h
          exact .registration hcmd ((discoverRespLen_eq_iff _).mp (not_not.mp hlen))
      · split at h
        · rename_i hcmd
          obtain ⟨dev, hdev, rfl⟩ := Option.map_eq_some_iff.mp h
          exact .event hcmd hdev
        · split at h
          · rename_i hcmd
            obtain ⟨dev, hdev, rfl⟩ := Option.map_eq_some_iff.mp h
            exact .status hcmd hdev
          · contradiction
  · rintro ⟨hid, hcalls⟩
    simp only [czCall, if_neg (not_not.mpr hid)]
    cases hcalls with
    | registration hcmd hlen =>
      have hrlen := not_not.mpr ((discoverRespLen_eq_iff _).mpr hlen)
      exact (if_pos hcmd).trans (if_neg hrlen)
    | event hcmd hdev =>
      have hother : get16 buf czHeaderLen ≠ CzCmd.deviceDiscoverResp.code := hcmd ▸ hevent
      refine (if_neg hother).trans ((if_pos hcmd).trans ?_)
      rw [hdev]
      rfl
    | status hcmd hdev =>
      have hother : get16 buf czHeaderLen ≠ CzCmd.deviceDiscoverResp.code := hcmd ▸ hstatus.1
      have hother' : get16 buf czHeaderLen ≠ CzCmd.event.code := hcmd ▸ hstatus.2
      refine (if_neg hother).trans ((if_neg hother').trans ((if_pos hcmd).trans ?_))
      rw [hdev]
      rfl

theorem czCall_ne {queue : List CzDev} {buf buf' : Memory} {r r' : Raised}
    (hid : transIdOf buf = 0) (hid' : transIdOf buf' = 0) (hcalls : CzCalls queue buf r)
    (hcalls' : CzCalls queue buf' r') (hne : r ≠ r') : czCall queue buf ≠ czCall queue buf' := by
  rw [(czCall_eq_some_iff _ _ _).mpr ⟨hid, hcalls⟩,
    (czCall_eq_some_iff _ _ _).mpr ⟨hid', hcalls'⟩]
  exact fun hsame => hne (Option.some.inj hsame)

/-- Bytes behind a frame that complete a field its own way. -/
theorem get16_load_congr {frame : List UInt8} {m m' : Memory} {off : ℕ}
    (h : frame.length ≤ off → m off = m' off)
    (h' : frame.length ≤ off + 1 → m (off + 1) = m' (off + 1)) :
    get16 (load frame m) off = get16 (load frame m') off := by
  have hbyte : ∀ i, (frame.length ≤ i → m i = m' i) → load frame m i = load frame m' i := by
    intro i hi
    rcases Nat.lt_or_ge i frame.length with hin | hout
    · rw [load_lt _ _ _ hin, load_lt _ _ _ hin]
    · rw [load_ge _ _ _ hout, load_ge _ _ _ hout, hi hout]
  exact get16_of_agree _ _ _ (hbyte off h) (hbyte (off + 1) h')

theorem mayRead_of_get16 {frame : List UInt8} {stale : Memory} {off : ℕ} {v : UInt16}
    (h : get16 (load frame stale) off = v) : MayRead frame off v := by
  obtain ⟨hlow, hhigh⟩ := bytes_of_get16 (h.trans (get16_set16 zeros off v).symm)
  refine Eq.trans (get16_load_congr ?_ ?_) h
  · intro hout
    rw [← hlow, load_ge _ _ _ hout]
  · intro hout
    rw [← hhigh, load_ge _ _ _ hout]

theorem get16_of_mayRead {frame : List UInt8} {stale : Memory} {off : ℕ} {v : UInt16}
    (h : MayRead frame off v) (hlow : frame.length ≤ off → stale off = set16 zeros off v off)
    (hhigh : frame.length ≤ off + 1 → stale (off + 1) = set16 zeros off v (off + 1)) :
    get16 (load frame stale) off = v :=
  (get16_load_congr hlow hhigh).trans h

/-- With every field received, the frame alone decides. -/
theorem czCall_of_complete {queue : List CzDev} {frame : List UInt8}
    (h : FrameComplete queue frame) (hlong : czHeaderLen < frame.length) {stale : Memory}
    {r : Raised} (hcall : czCall queue (load frame stale) = some r) (stale' : Memory) :
    czCall queue (load frame stale') = some r := by
  have hagree := load_agree frame stale stale'
  have hzeros := load_agree frame stale zeros
  simp only [czHeaderLen] at hlong
  obtain ⟨hid, hcalls⟩ := (czCall_eq_some_iff _ _ _).mp hcall
  have hshort := hagree.get16 (show 6 + 2 ≤ _ by omega)
  obtain ⟨hresp, hknown⟩ := h ((hzeros.get16 (show 10 + 2 ≤ _ by omega)).symm.trans hid)
  rw [← hzeros.get16 (show 6 + 2 ≤ _ by omega)] at hknown
  apply (czCall_eq_some_iff _ _ _).mpr
  refine ⟨(hagree.get16 (show 10 + 2 ≤ _ by omega)).symm.trans hid, ?_⟩
  cases hcalls with
  | registration hcmd hlen =>
    have hall := hresp (mayRead_of_get16 hcmd) (mayRead_of_get16 hlen)
    simp only [czHeaderLen, discoverRespLen] at hall
    have hptr : AgreeBelow 32 (shift (load frame stale) czHeaderLen)
        (shift (load frame stale') czHeaderLen) := hagree.shift (by simp only [czHeaderLen]; omega)
    have hinfo := (hptr.shift (show 8 + czInfoLen ≤ 32 by decide)).take (Nat.le_refl czInfoLen)
    rw [hshort, hagree.get16 (show 8 + 2 ≤ _ by omega), hinfo]
    refine .registration ?_ ?_
    · rw [← hcmd]
      exact (hagree.get16 (show 12 + 2 ≤ _ by omega)).symm
    · rw [← hlen]
      exact (hagree.get16 (show 12 + 2 + 2 ≤ _ by omega)).symm
  | event hcmd hdev =>
    have hall := (hknown (hdev ▸ Option.some_ne_none _)).1 (mayRead_of_get16 hcmd)
    simp only [czHeaderLen] at hall hcmd
    simp only [czHeaderLen]
    rw [hagree.get16 (show 12 + 4 + 2 ≤ _ by omega), hagree.get16 (show 12 + 6 + 2 ≤ _ by omega),
      hagree.get32 (show 12 + 8 + 4 ≤ _ by omega)]
    refine .event ?_ (hshort ▸ hdev)
    rw [← hcmd]
    exact (hagree.get16 (show 12 + 2 ≤ _ by omega)).symm
  | status hcmd hdev =>
    have hall := (hknown (hdev ▸ Option.some_ne_none _)).2 (mayRead_of_get16 hcmd)
    simp only [czHeaderLen] at hall hcmd
    simp only [czHeaderLen]
    rw [hagree.get16 (show 12 + 4 + 2 ≤ _ by omega), hagree.get16 (show 12 + 6 + 2 ≤ _ by omega)]
    refine .status ?_ (hshort ▸ hdev)
    rw [← hcmd]
    exact (hagree.get16 (show 12 + 2 ≤ _ by omega)).symm

/-- Bytes that complete the code of a command and the length of a discovery response. -/
def CompletesFields (stale : Memory) : Prop :=
  stale 13 = 0x91 ∧ stale 14 = 32 ∧ stale 15 = 0

/-- The frame has the low byte of the code, and every command has the same high byte. -/
theorem CompletesFields.command {stale : Memory} {frame : List UInt8} {code : UInt16}
    (h : CompletesFields stale) (hlong : czHeaderLen < frame.length)
    (hread : MayRead frame czHeaderLen code)
    (hhigh : set16 zeros czHeaderLen code (czHeaderLen + 1) = 0x91) :
    get16 (load frame stale) czHeaderLen = code := by
  refine get16_of_mayRead hread (fun hout => ?_) fun _ => h.1.trans hhigh.symm
  exact absurd hout (Nat.not_le_of_lt hlong)

theorem CompletesFields.responseLen {stale : Memory} {frame : List UInt8}
    (h : CompletesFields stale)
    (hread : MayRead frame (czHeaderLen + 2) (UInt16.ofNat discoverRespLen)) :
    get16 (load frame stale) (czHeaderLen + 2) = UInt16.ofNat discoverRespLen :=
  get16_of_mayRead hread (fun _ => h.2.1) fun _ => h.2.2

/-- A frame cut off in front of a field that its bytes allow leaves the last byte of the
field to earlier frames. -/
theorem czCall_of_not_complete {queue : List CzDev} {frame : List UInt8}
    (h : ¬ FrameComplete queue frame) (hlong : czHeaderLen < frame.length) {m m' : Memory}
    (hm : CompletesFields m) (hm' : CompletesFields m')
    (hstale : ∀ i, frame.length ≤ i → 16 ≤ i → i < 44 → m i ≠ m' i) :
    czCall queue (load frame m) ≠ czCall queue (load frame m') := by
  have hheader : 12 < frame.length := hlong
  have hagree : ∀ stale, AgreeBelow frame.length (load frame zeros) (load frame stale) :=
    fun stale => load_agree frame zeros stale
  have hlast : ∀ i, frame.length ≤ i → 16 ≤ i → i < 44 → load frame m i ≠ load frame m' i :=
    fun i hi hfield hend => load_ne_load hi (hstale i hi hfield hend)
  simp only [FrameComplete, Classical.not_imp] at h
  obtain ⟨hid, hfields⟩ := h
  have hids : ∀ stale, transIdOf (load frame stale) = 0 := fun stale =>
    ((hagree stale).get16 (show 10 + 2 ≤ _ by omega)).symm.trans hid
  rcases not_and_or.mp hfields with hresp | hknown
  · simp only [Classical.not_imp] at hresp
    obtain ⟨hcmd, hlen, hshort⟩ := hresp
    have hraises : ∀ {stale}, CompletesFields stale → CzCalls queue (load frame stale)
        (.registration (get16 (load frame stale) 6) (get16 (load frame stale) 8)
          (take (shift (shift (load frame stale) czHeaderLen) 8) czInfoLen)) := by
      intro stale hstale
      exact .registration (hstale.command hlong hcmd rfl) (hstale.responseLen hlen)
    refine czCall_ne (hids m) (hids m') (hraises hm) (hraises hm') ?_
    intro hcall
    injection hcall with _ _ hinfo
    simp only [czHeaderLen, discoverRespLen] at hshort
    exact hlast 43 (by omega) (by omega) (by omega)
      (agree_of_take_eq hinfo 23 (by simp only [czInfoLen]; omega))
  · simp only [Classical.not_imp] at hknown
    obtain ⟨hdev, hevents⟩ := hknown
    obtain ⟨dev, hfind⟩ := Option.ne_none_iff_exists'.mp hdev
    have hfinds : ∀ stale, findDevByShortAddr queue (get16 (load frame stale) 6) = some dev := by
      intro stale
      rw [← (hagree stale).get16 (show 6 + 2 ≤ _ by omega)]
      exact hfind
    rcases not_and_or.mp hevents with hevent | hstatus
    · obtain ⟨hcmd, hshort⟩ := Classical.not_imp.mp hevent
      have hcode := hm.command hlong hcmd rfl
      have hcode' := hm'.command hlong hcmd rfl
      refine czCall_ne (hids m) (hids m') (.event hcode (hfinds m)) (.event hcode' (hfinds m')) ?_
      intro hcall
      injection hcall with _ _ _ hparam
      simp only [czHeaderLen] at hshort
      exact hlast 23 (by omega) (by omega) (by omega) (get32_last hparam)
    · obtain ⟨hcmd, hshort⟩ := Classical.not_imp.mp hstatus
      have hcode := hm.command hlong hcmd rfl
      have hcode' := hm'.command hlong hcmd rfl
      refine czCall_ne (hids m) (hids m') (.status hcode (hfinds m)) (.status hcode' (hfinds m')) ?_
      intro hcall
      injection hcall with _ _ hval
      simp only [czHeaderLen] at hshort
      exact hlast 19 (by omega) (by omega) (by omega) (bytes_of_get16 hval).2

/-- A frame in front of an idle thread, read in its two parts. -/
theorem read_frame {s : UartState} {frame : List UInt8} (hidle : s.stage = .idle)
    (h : IsFrame frame) :
    ∃ t u v, uartStep s .readable = some t ∧ t.calls = s.calls ∧
      uartStep t (.read (frame.take czHeaderLen) false) = some u ∧ u.calls = s.calls ∧
      uartStep u (.read (frame.drop czHeaderLen) false) = some v ∧
      v.calls = s.calls ++ [frame] ∧ v.rbuf = load frame s.rbuf := by
  have hlong := h.long
  have hhead : (frame.take czHeaderLen).length = czHeaderLen :=
    List.length_take_of_le (Nat.le_of_lt hlong)
  have hagree : AgreeBelow czHeaderLen (load (frame.take czHeaderLen) s.rbuf)
      (load frame zeros) := by
    intro i hi
    rw [load_lt _ _ _ (by omega), load_lt _ _ _ (by omega), List.getElem_take]
  have hafter : afterHeader (load (frame.take czHeaderLen) s.rbuf) = .body frame.length 0 := by
    rw [afterHeader_congr hagree]
    exact afterHeader_of_long h.magic h.size h.long
  have hwhole : store (frame.drop czHeaderLen) czHeaderLen
      (store (frame.take czHeaderLen) 0 s.rbuf) = load frame s.rbuf := by
    have hparts := store_append (frame.take czHeaderLen) (frame.drop czHeaderLen) 0 s.rbuf
    rw [hhead, Nat.zero_add, List.take_append_drop, store_zero frame] at hparts
    exact hparts
  let t : UartState := { s with stage := .header 0 }
  let u : UartState :=
    { afterRead t 0 (frame.take czHeaderLen) with stage := .body frame.length 0 }
  refine ⟨t, u, callDeal (afterRead u czHeaderLen (frame.drop czHeaderLen)) frame.length, ?_, rfl,
    ?_, rfl, ?_, ?_, hwhole⟩
  · simp only [uartStep, hidle, t]
  · have hsome : frame.take czHeaderLen ≠ [] := by
      intro hempty
      rw [hempty] at hhead
      exact absurd hhead (by decide)
    simp only [uartStep, readStep, t, u,
      readChunk_of_fits _ 0 hsome (Nat.le_of_eq (by rw [hhead, Nat.zero_add])), Option.map_some,
      hhead, Nat.zero_add, if_true, afterRead, store_zero, hafter]
  · have hrest : (frame.drop czHeaderLen).length = frame.length - czHeaderLen := List.length_drop
    have hsome : frame.drop czHeaderLen ≠ [] := by
      intro hempty
      rw [hempty, List.length_nil] at hrest
      omega
    simp only [uartStep, readStep, u,
      readChunk_of_fits _ czHeaderLen hsome (Nat.le_of_eq (by rw [hrest, Nat.zero_add])),
      Option.map_some, hrest, Nat.zero_add, if_true, Nat.add_zero]
  · have hcall : (callDeal (afterRead u czHeaderLen (frame.drop czHeaderLen)) frame.length).calls =
        s.calls ++ [take (store (frame.drop czHeaderLen) czHeaderLen
          (store (frame.take czHeaderLen) 0 s.rbuf)) frame.length] := rfl
    rw [hcall, hwhole, take_load]

/-- What a call was passed starts the buffer. -/
theorem rbuf_of_call {s s' : UartState} {a : UartStep} {frame : List UInt8}
    (h : uartStep s a = some s') (hcall : s'.calls = s.calls ++ [frame]) :
    s'.rbuf = load frame s'.rbuf := by
  have hnone : ∀ {calls}, s'.calls = calls → calls = s.calls → s'.rbuf = load frame s'.rbuf := by
    intro calls hcalls hsame
    have hlength := congrArg List.length (hcall.symm.trans (hcalls.trans hsame))
    rw [List.length_append, List.length_singleton] at hlength
    omega
  cases uartStep_effect h with
  | worker | notified | readable | ended | delivered | dropped => exact hnone rfl rfl
  | read hsome heffect =>
    cases heffect with
    | headerDone | headerPart | headerExpired | bodyPart | bodyExpired => exact hnone rfl rfl
    | bodyDone hstage hlen =>
      have hframe := List.append_cancel_left hcall
      rw [← List.singleton_inj.mp hframe]
      exact (load_take_self _ _).symm

theorem CzReaches.port {rbuf : Memory} {s : CzThread ρ} {a : UartStep} {uart : UartState}
    (h : CzReaches rbuf s) (hstep : uartStep s.uart a = some uart)
    (hcalls : uart.calls = s.uart.calls) : CzReaches rbuf ⟨uart, s.drv⟩ := by
  have hnone : ¬(s.uart.calls.length < uart.calls.length ∧ transIdOf uart.rbuf = 0) := by
    rw [hcalls]
    exact fun hmore => Nat.lt_irrefl _ hmore.1
  have hport : czThreadStep s (.port a) = some ⟨uart, s.drv⟩ := by
    rw [czThreadStep, hstep, Option.bind_some, if_neg hnone]
  exact Reachable.step h hport

/-- The thread comes back to `select` without a call. -/
theorem CzReaches.idle {rbuf : Memory} {s : CzThread ρ} (h : CzReaches rbuf s) :
    ∃ uart, CzReaches rbuf ⟨uart, s.drv⟩ ∧ uart.stage = .idle ∧ uart.rbuf = s.uart.rbuf := by
  cases hstage : s.uart.stage with
  | idle => exact ⟨s.uart, h, hstage, rfl⟩
  | header total =>
    have hstep : uartStep s.uart .ended = some { s.uart with stage := .idle } := by
      simp only [uartStep, hstage]
    exact ⟨_, h.port hstep rfl, rfl, rfl⟩
  | body cmdLen total =>
    have hstep : uartStep s.uart .ended = some { s.uart with stage := .idle } := by
      simp only [uartStep, hstage]
    exact ⟨_, h.port hstep rfl, rfl, rfl⟩
  | matched len =>
    have hstep : ∃ uart, uartStep s.uart .deliver = some uart ∧ uart.calls = s.uart.calls ∧
        uart.stage = .idle ∧ uart.rbuf = s.uart.rbuf := by
      simp only [uartStep, hstage]
      split
      · exact ⟨_, rfl, rfl, rfl, rfl⟩
      · exact ⟨_, rfl, rfl, rfl, rfl⟩
    obtain ⟨uart, hstep, hcalls, hdone⟩ := hstep
    exact ⟨uart, h.port hstep hcalls, hdone⟩

/-- Any frame can come next, over what the buffer holds. -/
theorem CzReaches.handsOver {rbuf : Memory} {s : CzThread ρ} {frame : List UInt8}
    (h : CzReaches rbuf s) (hframe : IsFrame frame) :
    ∃ u a v, CzReaches rbuf ⟨u, s.drv⟩ ∧ uartStep u a = some v ∧
      v.calls = u.calls ++ [frame] ∧ v.rbuf = load frame s.uart.rbuf := by
  obtain ⟨uart, hreach, hidle, hrbuf⟩ := h.idle
  obtain ⟨t, u, v, ht, htcalls, hu, hucalls, hv, hcall, hload⟩ := read_frame hidle hframe
  have hreach' := (hreach.port ht htcalls).port hu (hucalls.trans htcalls.symm)
  exact ⟨u, _, v, hreach', hv, hucalls ▸ hcall, hrbuf ▸ hload⟩

def fillHeader : List UInt8 := headerBytes 0 1 ++ [0xFF, 0x91, 32, 0]

/-- A frame as long as `rbuf` with a command that nobody has, and one value behind it. -/
def fillFrame (v : UInt8) : List UInt8 := fillHeader ++ List.replicate 240 v

theorem fillFrame_length (v : UInt8) : (fillFrame v).length = 256 := by
  rw [fillFrame, List.length_append, List.length_replicate]
  rfl

theorem load_fillFrame_header (v : UInt8) (m : Memory) :
    load (fillFrame v) m = load fillHeader (load (fillFrame v) m) := load_append _ _ m

theorem get16_fillFrame (v : UInt8) (m : Memory) (off : ℕ) (hoff : off + 2 ≤ 16) :
    get16 (load (fillFrame v) m) off = get16 (load fillHeader zeros) off := by
  rw [load_fillFrame_header]
  exact (load_agree fillHeader _ zeros).get16 hoff

theorem load_fillFrame (v : UInt8) (m : Memory) (i : ℕ) (hi : 16 ≤ i) (hend : i < 256) :
    load (fillFrame v) m i = v := by
  rw [load_lt _ _ _ (by rw [fillFrame_length]; exact hend)]
  simp only [fillFrame]
  rw [List.getElem_append_right hi]
  exact List.getElem_replicate _

theorem fillFrame_isFrame (v : UInt8) : IsFrame (fillFrame v) where
  magic := (get16_fillFrame v zeros 0 (by omega)).trans (by decide)
  size := by
    rw [lengthOf, get16_fillFrame v zeros 2 (by omega), fillFrame_length]
    decide
  long := by
    rw [fillFrame_length]
    decide

theorem fillFrame_completes (v : UInt8) (m : Memory) :
    CompletesFields (load (fillFrame v) m) := by
  rw [load_fillFrame_header]
  exact ⟨rfl, rfl, rfl⟩

theorem czCall_fillFrame (queue : List CzDev) (v : UInt8) (m : Memory) :
    czCall queue (load (fillFrame v) m) = none := by
  have hcmd : get16 (load (fillFrame v) m) czHeaderLen = 0x91FF :=
    (get16_fillFrame v m czHeaderLen (by decide)).trans (by decide)
  apply Option.eq_none_iff_forall_ne_some.mpr
  intro r hr
  obtain ⟨-, hcalls⟩ := (czCall_eq_some_iff _ _ _).mp hr
  cases hcalls with
  | registration hcode | event hcode | status hcode =>
    rw [hcmd] at hcode
    exact absurd hcode (by decide)

/-- It fills the buffer and leaves the driver as it is. -/
theorem CzReaches.filled {rbuf : Memory} {s : CzThread ρ} (h : CzReaches rbuf s) (v : UInt8) :
    ∃ uart, CzReaches rbuf ⟨uart, s.drv⟩ ∧ uart.rbuf = load (fillFrame v) s.uart.rbuf := by
  obtain ⟨u, a, uart, hreach, hstep, -, hrbuf⟩ := h.handsOver (fillFrame_isFrame v)
  have hdeal : ∀ buf, buf = load (fillFrame v) s.uart.rbuf → transIdOf buf = 0 →
      dealUnsolicited s.drv buf = some s.drv := by
    rintro buf rfl hid
    rw [dealUnsolicited_eq s.drv hid, czCall_fillFrame]
    rfl
  have hport : czThreadStep ⟨u, s.drv⟩ (.port a) = some ⟨uart, s.drv⟩ := by
    simp only [czThreadStep, hstep, Option.bind_some]
    split
    · rename_i hhanded
      rw [hdeal uart.rbuf hrbuf hhanded.2]
      rfl
    · rfl
  exact ⟨uart, Reachable.step hreach hport, hrbuf⟩

/-- The frame, whatever it is, behind a fill. -/
theorem CzReaches.raisesBehind {rbuf : Memory} {s : CzThread ρ} {frame : List UInt8}
    (h : CzReaches rbuf s) (hframe : IsFrame frame) (v : UInt8) :
    ∃ t m, CzReaches rbuf t ∧ t.drv = s.drv ∧
      RaisedByFrame t frame (czCall s.drv.link.queue (load frame (load (fillFrame v) m))) := by
  obtain ⟨uart, hfilled, hrbuf⟩ := h.filled v
  obtain ⟨u, a, w, hreach, hstep, hcall, hload⟩ := hfilled.handsOver hframe
  refine ⟨⟨u, s.drv⟩, s.uart.rbuf, hreach, rfl, a, w, hstep, hcall, ?_⟩
  simp only [hload, hrbuf]

/-- Reached states with one list make the same of the frame exactly if it brings all the
fields that its bytes allow. -/
theorem frameAlone_iff {rbuf rbuf' : Memory} {s s' : CzThread ρ} (h : CzReaches rbuf s)
    (h' : CzReaches rbuf' s') (hsame : s.drv.link.queue = s'.drv.link.queue)
    {frame : List UInt8} (hframe : IsFrame frame) :
    FrameAlone ρ rbuf rbuf' s.drv.link.queue frame ↔
      FrameComplete s.drv.link.queue frame := by
  constructor
  · intro halone
    by_contra hshort
    obtain ⟨t, m, ht, hdrv, hraised⟩ := h.raisesBehind hframe 0
    obtain ⟨t', m', ht', hdrv', hraised'⟩ := h'.raisesBehind hframe 1
    have hqueue : t'.drv.link.queue = s.drv.link.queue := by rw [hdrv', hsame]
    rw [← hsame] at hraised'
    refine czCall_of_not_complete hshort hframe.long (fillFrame_completes 0 m)
      (fillFrame_completes 1 m') ?_ (halone t t' _ _ ht ht' (hdrv ▸ rfl) hqueue hraised hraised')
    intro i _ hi hend
    rw [load_fillFrame 0 m i hi (by omega), load_fillFrame 1 m' i hi (by omega)]
    decide
  · intro hcomplete t t' r r' _ _ ht ht' hraised hraised'
    obtain ⟨a, uart, hstep, hcall, rfl⟩ := hraised
    obtain ⟨a', uart', hstep', hcall', rfl⟩ := hraised'
    have hframe' := rbuf_of_call hstep hcall
    have hframe'' := rbuf_of_call hstep' hcall'
    rw [ht, ht', hframe', hframe'']
    apply Option.ext
    intro r
    exact ⟨fun hr => czCall_of_complete hcomplete hframe.long hr _,
      fun hr => czCall_of_complete hcomplete hframe.long hr _⟩

/-- In two runs with the same devices a message raises the same, whatever came before it,
exactly if it brings the fields of its command: it alone decides what the core is told. -/
theorem raised_alone_iff (rbuf rbuf' : Memory) :
    (∀ (s s' : VsThread ρ) (addr : UInt32) (bytes : List UInt8), VsReaches rbuf s →
      VsReaches rbuf' s' → s.drv.queue = s'.drv.queue →
        (DatagramAlone ρ rbuf rbuf' s.drv.queue addr bytes ↔
          DatagramComplete s.drv.queue addr bytes)) ∧
    ∀ (s s' : CzThread ρ) (frame : List UInt8), CzReaches rbuf s → CzReaches rbuf' s' →
      s.drv.link.queue = s'.drv.link.queue → IsFrame frame →
        (FrameAlone ρ rbuf rbuf' s.drv.link.queue frame ↔
          FrameComplete s.drv.link.queue frame) :=
  ⟨fun _ _ addr bytes h h' hsame => datagramAlone_iff h h' hsame addr bytes,
    fun _ _ _ h h' hsame hframe => frameAlone_iff h h' hsame hframe⟩

/-- A core with the virtual switch driver, and one switch that has been discovered. -/
def emptyThread : VsThread Unit := ⟨{ cb := { driverq := [virtualSwitchDrv] } }, zeros⟩

def switchSteps (v : UInt8) : List (VsThreadStep Unit) :=
  [.discovered 7 {}, .datagram 7 (fill v)]

def switchDev : VsDev := { id := 1, ip := 7 }

/-- A key of a remote control, with its second parameter and without. -/
def longEvent : List UInt8 := [0x31, 0x89, 12, 0, 3, 0, 5, 0, 1, 0, 0, 0]

def shortEvent : List UInt8 := [0x31, 0x89, 8, 0, 3, 0, 5, 0]

theorem raised_alone_iff_longEvent :
    DatagramAlone Unit zeros zeros [switchDev] 7 longEvent ∧
      FrameAlone Unit zeros zeros [] (fillFrame 0) := by
  have hqueue : (run vsThreadStep emptyThread (switchSteps 0)).map (fun s => s.drv.queue) =
      some [switchDev] := by decide +kernel
  obtain ⟨s, hrun, hs⟩ := Option.map_eq_some_iff.mp hqueue
  have hreach : VsReaches zeros s := ⟨emptyThread, switchSteps 0, ⟨_, rfl⟩, hrun⟩
  let start : CzThread Unit := ⟨UartState.start zeros, { cb := {} }⟩
  have hstart : CzReaches zeros start := ⟨start, [], ⟨_, rfl⟩, rfl⟩
  obtain ⟨hvs, hcz⟩ := @raised_alone_iff Unit zeros zeros
  refine ⟨?_, ?_⟩
  · rw [← hs]
    exact (hvs s s 7 longEvent hreach hreach rfl).mpr fun _ _ _ =>
      ⟨fun _ => by decide, fun _ => by decide⟩
  · have hlong : 44 ≤ (fillFrame 0).length := by
      rw [fillFrame_length]
      decide
    exact (hcz start start _ hstart hstart rfl (fillFrame_isFrame 0)).mpr fun _ =>
      ⟨fun _ _ => hlong, fun _ => ⟨fun _ => Nat.le_trans (by decide) hlong,
        fun _ => Nat.le_trans (by decide) hlong⟩⟩

/-- The second parameter of the short event is of an earlier datagram. -/
theorem shortEvent_reads_stale :
    ¬ DatagramAlone Unit zeros zeros [switchDev] 7 shortEvent := by
  have hraised : ∀ v, v = 0 ∨ v = 1 →
      (run vsThreadStep emptyThread (switchSteps v)).map (fun s =>
        (s.drv.queue, raisedByDatagram s 7 shortEvent)) =
      some ([switchDev], some (.event 1 3 5 (if v = 0 then 0 else 0x01010101))) := by
    rintro v (rfl | rfl)
    · decide +kernel
    · decide +kernel
  obtain ⟨s, hrun, hs⟩ := Option.map_eq_some_iff.mp (hraised 0 (Or.inl rfl))
  obtain ⟨s', hrun', hs'⟩ := Option.map_eq_some_iff.mp (hraised 1 (Or.inr rfl))
  obtain ⟨hqueue, hcall⟩ := Prod.mk.inj hs
  obtain ⟨hqueue', hcall'⟩ := Prod.mk.inj hs'
  intro halone
  have hsame := halone s s' ⟨emptyThread, switchSteps 0, ⟨_, rfl⟩, hrun⟩
    ⟨emptyThread, switchSteps 1, ⟨_, rfl⟩, hrun'⟩ hqueue hqueue'
  rw [hcall, hcall'] at hsame
  exact absurd hsame (by decide)

end HomeSecurityBox.StaleBytes
