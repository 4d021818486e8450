import HomeSecurityBox.VsDriver
import HomeSecurityBox.ZigbeeLink

/-!
The device list of the zigbee driver. The monitor thread hands every whole frame to
`deal_recv_buf`; an unsolicited one registers a device or raises an event of a device
that is found by its short address, any other is an answer of the link. No device ever
leaves the list.
-/

namespace HomeSecurityBox.ZigbeeDriver

open ByteMemory Protocol DeviceData Device DeviceEvents Registry Zigbee ZigbeeLink

variable {ρ : Type}

def czDrv : HsbDevDrv := ⟨2⟩

/-- The control block of the core and the context of the driver, its list included. -/
structure CzState (ρ : Type) where
  cb : HsbDeviceCb ρ
  link : LinkState := {}

def findDevByMac (queue : List CzDev) (mac : Vector UInt8 8) : Option CzDev :=
  queue.find? fun dev => dev.info.mac == mac

def findDevByShortAddr (queue : List CzDev) (shortAddr : UInt16) : Option CzDev :=
  queue.find? fun dev => dev.shortAddr == shortAddr

/-- The fields of a `CZ_INFO_T` that the driver uses. -/
def readInfo (ptr : Memory) : CzInfo where
  devClass := get16 ptr 0
  interface := get16 ptr 2
  mac := Vector.ofFn fun i => get8 ptr (4 + i)

def devInfo (info : CzInfo) : HsbDevInfo where
  cls := UInt32.ofNat info.devClass.toNat
  interface := UInt32.ofNat info.interface.toNat
  mac := info.mac

def registerDevice (s : CzState ρ) (shortAddr endPoint : UInt16) (info : CzInfo) :
    Option (CzState ρ) :=
  match findDevByMac s.link.queue info.mac with
  | some _ => some s
  | none =>
      (devOnline s.cb czDrv.id (devInfo info) (some .sampleOp)).map fun done =>
        let dev : CzDev :=
          { id := done.devid, shortAddr := shortAddr, endPoint := endPoint, info := info }
        { cb := done.cb, link := { s.link with queue := s.link.queue ++ [dev] } }

/-- The driver has its own copies of these two functions, with the same codes. -/
def event (cb : HsbDeviceCb ρ) (devid : UInt32) (id param : UInt16) (param2 : UInt32) :
    HsbDeviceCb ρ := VsDriver.event cb devid id param param2

def statusUpdated (cb : HsbDeviceCb ρ) (devid : UInt32) (id val : UInt16) : HsbDeviceCb ρ :=
  VsDriver.statusUpdated cb devid id val

/-- The length that a discovery response has in its command header. -/
def discoverRespLen : ℕ := 32

/-- The part of `deal_recv_buf` for frames with the id 0. -/
def dealUnsolicited (s : CzState ρ) (buf : Memory) : Option (CzState ρ) :=
  let shortAddr := get16 buf 6
  let endPoint := get16 buf 8
  let ptr := shift buf czHeaderLen
  let cmd := get16 ptr 0
  let rlen := get16 ptr 2
  if cmd = CzCmd.deviceDiscoverResp.code then
    if discoverRespLen ≠ rlen.toNat then some s
    else registerDevice s shortAddr endPoint (readInfo (shift ptr 8))
  else if cmd = CzCmd.event.code then
    match findDevByShortAddr s.link.queue shortAddr with
    | none => some s
    | some dev =>
        some { s with cb := event s.cb dev.id (get16 ptr 4) (get16 ptr 6) (get32 ptr 8) }
  else if cmd = CzCmd.statusChanged.code then
    match findDevByShortAddr s.link.queue shortAddr with
    | none => some s
    | some dev => some { s with cb := statusUpdated s.cb dev.id (get16 ptr 4) (get16 ptr 6) }
  else some s

/-- A step of the link; the devices change by unsolicited frames only. -/
def czStep (s : CzState ρ) : Step → Option (CzState ρ)
  | .devices _ => none
  | .recvFrame buf len =>
      (recvFrame s.link buf len).bind fun link =>
        if czHeaderLen < len ∧ classify s.link.transId buf = .unsolicited then
          dealUnsolicited { s with link := link } buf
        else some { s with link := link }
  | a => (step s.link a).map fun link => { s with link := link }

/-- The short address, the end point and the record of a discovery response that the
driver accepts. -/
def discovered : Step → Option (UInt16 × UInt16 × CzInfo)
  | .recvFrame buf len =>
      let ptr := shift buf czHeaderLen
      if czHeaderLen < len ∧ transIdOf buf = 0 ∧ get16 ptr 0 = CzCmd.deviceDiscoverResp.code ∧
          discoverRespLen = (get16 ptr 2).toNat then
        some (get16 buf 6, get16 buf 8, readInfo (shift ptr 8))
      else none
  | _ => none

theorem classify_unsolicited_iff (transId : UInt16) (buf : Memory) :
    classify transId buf = .unsolicited ↔ transIdOf buf = 0 := by
  unfold classify
  by_cases hzero : transIdOf buf = 0
  · simp [hzero]
  · by_cases hid : transIdOf buf ≠ transId
    · simp [hzero, hid]
    · simp [hzero, hid]

theorem registerDevice_cases {s s' : CzState ρ} {shortAddr endPoint : UInt16} {info : CzInfo}
    (h : registerDevice s shortAddr endPoint info = some s') :
    (findDevByMac s.link.queue info.mac ≠ none ∧ s' = s) ∨
      findDevByMac s.link.queue info.mac = none ∧
        s'.link.queue = s.link.queue ++
          [⟨onlineId s.cb czDrv.id (devInfo info), shortAddr, endPoint, info⟩] := by
  unfold registerDevice at h
  cases hfind : findDevByMac s.link.queue info.mac with
  | some dev =>
    rw [hfind] at h
    exact Or.inl ⟨Option.some_ne_none dev, (Option.some.inj h).symm⟩
  | none =>
    rw [hfind] at h
    obtain ⟨done, hdone, rfl⟩ := Option.map_eq_some_iff.mp h
    refine Or.inr ⟨rfl, ?_⟩
    rw [← devOnline_devid hdone]

/-- No step of the link but its own changes the devices. -/
theorem link_step_queue {s s' : LinkState} {a : Step} (h : step s a = some s')
    (ha : ∀ queue, a ≠ .devices queue) : s'.queue = s.queue := by
  cases a with
  | czProbe wbuf =>
    obtain ⟨-, rfl⟩ := czProbe_eq_some h
    rfl
  | request op wbuf =>
    obtain ⟨-, ⟨-, rfl⟩ | ⟨dev, frame, -, -, rfl⟩⟩ := request_eq_some h
    · rfl
    · rfl
  | expire =>
    obtain ⟨op, frame, -, rfl⟩ := expire_eq_some h
    rfl
  | resume =>
    obtain ⟨op, frame, ⟨-, rfl⟩ | ⟨ret, -, -, rfl⟩⟩ := resume_eq_some h
    · rfl
    · rfl
  | recvDatagram =>
    obtain ⟨-, -, rfl⟩ := recvDatagram_eq_some h
    rfl
  | writeUart =>
    obtain ⟨-, rfl⟩ := writeUart_eq_some h
    rfl
  | recvFrame buf len =>
    obtain ⟨-, rfl | ⟨long, -, rfl⟩⟩ := recvFrame_eq_some h
    · rfl
    · rfl
  | deliver =>
    obtain ⟨buf, len, long, -, ⟨-, rfl⟩ | ⟨-, rfl⟩⟩ := deliver_eq_some h
    · rfl
    · rfl
  | devices queue => exact absurd rfl (ha queue)

theorem dealUnsolicited_queue {s s' : CzState ρ} {buf : Memory}
    (hdeal : dealUnsolicited s buf = some s')
    (hother : ¬(get16 (shift buf czHeaderLen) 0 = CzCmd.deviceDiscoverResp.code ∧
      discoverRespLen = (get16 (shift buf czHeaderLen) 2).toNat)) :
    s'.link = s.link := by
  simp only [dealUnsolicited] at hdeal
  split at hdeal
  · rename_i hcmd
    rw [if_pos fun hlen => hother ⟨hcmd, hlen⟩] at hdeal
    rw [← Option.some.inj hdeal]
  · split at hdeal
    · cases hfind : findDevByShortAddr s.link.queue (get16 buf 6) with
      | none =>
        rw [hfind] at hdeal
        rw [← Option.some.inj hdeal]
      | some dev =>
        rw [hfind] at hdeal
        rw [← Option.some.inj hdeal]
    · split at hdeal
      · cases hfind : findDevByShortAddr s.link.queue (get16 buf 6) with
        | none =>
          rw [hfind] at hdeal
          rw [← Option.some.inj hdeal]
        | some dev =>
          rw [hfind] at hdeal
          rw [← Option.some.inj hdeal]
      · rw [← Option.some.inj hdeal]

/-- A step registers the device of an accepted discovery response or leaves the list as
it is. -/
theorem czStep_cases {s s' : CzState ρ} {a : Step} (h : czStep s a = some s') :
    (∃ shortAddr endPoint info, discovered a = some (shortAddr, endPoint, info) ∧
        registerDevice s shortAddr endPoint info = some s') ∨
      discovered a = none ∧ s'.link.queue = s.link.queue := by
  have hlink : ∀ a : Step, (∀ queue, a ≠ .devices queue) →
      ((step s.link a).map fun link => { s with link := link }) = some s' →
      s'.link.queue = s.link.queue := by
    intro a ha hdone
    obtain ⟨link, hstep, rfl⟩ := Option.map_eq_some_iff.mp hdone
    exact link_step_queue hstep ha
  cases a with
  | devices queue => exact absurd h nofun
  | recvFrame buf len =>
    obtain ⟨link, hrecv, hdeal⟩ := Option.bind_eq_some_iff.mp h
    have hqueue : link.queue = s.link.queue := link_step_queue
      (a := .recvFrame buf len) hrecv fun _ => nofun
    by_cases hunsolicited : czHeaderLen < len ∧ classify s.link.transId buf = .unsolicited
    · rw [if_pos hunsolicited] at hdeal
      have hsame : link = s.link := by
        obtain ⟨-, rfl | ⟨long, hmatched, rfl⟩⟩ := recvFrame_eq_some hrecv
        · rfl
        · rw [hunsolicited.2] at hmatched
          contradiction
      rw [hsame] at hdeal
      have hzero := (classify_unsolicited_iff s.link.transId buf).mp hunsolicited.2
      by_cases hresp : get16 (shift buf czHeaderLen) 0 = CzCmd.deviceDiscoverResp.code ∧
          discoverRespLen = (get16 (shift buf czHeaderLen) 2).toNat
      · refine Or.inl ⟨_, _, _, if_pos ⟨hunsolicited.1, hzero, hresp⟩, ?_⟩
        simp only [dealUnsolicited, if_pos hresp.1] at hdeal
        rw [if_neg (not_not.mpr hresp.2)] at hdeal
        exact hdeal
      · refine Or.inr ⟨if_neg fun hall => hresp hall.2.2, ?_⟩
        rw [dealUnsolicited_queue hdeal hresp]
    · rw [if_neg hunsolicited] at hdeal
      rw [← Option.some.inj hdeal]
      refine Or.inr ⟨if_neg fun hall => hunsolicited ⟨hall.1, ?_⟩, hqueue⟩
      exact (classify_unsolicited_iff s.link.transId buf).mpr hall.2.1
  | czProbe wbuf => exact Or.inr ⟨rfl, hlink (.czProbe wbuf) (fun _ => nofun) h⟩
  | request op wbuf => exact Or.inr ⟨rfl, hlink (.request op wbuf) (fun _ => nofun) h⟩
  | expire => exact Or.inr ⟨rfl, hlink .expire (fun _ => nofun) h⟩
  | resume => exact Or.inr ⟨rfl, hlink .resume (fun _ => nofun) h⟩
  | recvDatagram => exact Or.inr ⟨rfl, hlink .recvDatagram (fun _ => nofun) h⟩
  | writeUart => exact Or.inr ⟨rfl, hlink .writeUart (fun _ => nofun) h⟩
  | deliver => exact Or.inr ⟨rfl, hlink .deliver (fun _ => nofun) h⟩

end HomeSecurityBox.ZigbeeDriver
