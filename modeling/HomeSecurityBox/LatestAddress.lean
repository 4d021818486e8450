import HomeSecurityBox.Base.AddressBook
import HomeSecurityBox.VsAgreement
import HomeSecurityBox.ZigbeeDriver
import HomeSecurityBox.ZigbeeSending

/-!
Where the requests of a device go and whom an event is put down to. Each driver keeps
an address book: its entries are the devices of its list, its history the discovery
responses that the driver accepted. Between two steps of a driver the core may do
anything.
-/

namespace HomeSecurityBox.LatestAddress

open ByteMemory Keyed Transitions AddressBook Protocol DeviceData Device DeviceEvents Registry

variable {ρ : Type}

/-- A state and the announcements so far, newest first. -/
structure Told (σ M A : Type) where
  state : σ
  history : List (M × A) := []

section VirtualSwitches

open VirtualSwitch VsDriver

abbrev VsTold (ρ : Type) := Told (VsState ρ) (Vector UInt8 6) UInt32

inductive VsAct (ρ : Type)
  | core (cb : HsbDeviceCb ρ)
  | driver (step : VsStep)

def vsResponse : VsStep → List (Vector UInt8 6 × UInt32)
  | .discovered addr info => [(info.mac, addr)]
  | _ => []

def vsNext (s : VsTold ρ) : VsAct ρ → Option (VsTold ρ)
  | .core cb => some { s with state := { s.state with cb := cb } }
  | .driver step =>
      (vsStep s.state step).map fun state => ⟨state, vsResponse step ++ s.history⟩

def vsEntry (dev : VsDev) : Entry UInt32 (Vector UInt8 6) UInt32 :=
  ⟨dev.id, dev.info.mac, dev.ip⟩

def vsBook (s : VsTold ρ) : Book UInt32 (Vector UInt8 6) UInt32 :=
  ⟨s.state.queue.map vsEntry, s.history⟩

/-- The entry that a discovery response asks for, with the id that the core would
give it. -/
def vsSaid (s : VsTold ρ) : VsAct ρ → Option (Entry UInt32 (Vector UInt8 6) UInt32)
  | .driver (.discovered addr info) =>
      some ⟨onlineId s.state.cb virtualSwitchDrv.id (devInfo info), info.mac, addr⟩
  | _ => none

/-- The condition on a step: the response of a device that is listed has the IP it is
listed with; any other has an IP and gets an id that no listed device has. -/
def VsFits (s : VsTold ρ) (a : VsAct ρ) : Prop := FitsNext (fun ip => ip) vsBook vsSaid s a

instance (s : VsTold ρ) (a : VsAct ρ) : Decidable (VsFits s a) :=
  inferInstanceAs (Decidable (FitsNext (fun ip => ip) vsBook vsSaid s a))

/-- What an operation makes of the transfer rests on what it sends to this IP. -/
def SendsTo {β : Type} (op : Transfer → β) (ip : UInt32) : Prop :=
  ∀ transfer transfer' : Transfer, transfer ip = transfer' ip → op transfer = op transfer'

/-- The requests for a device all go to this IP. -/
structure RequestsGoTo (queue : List VsDev) (devid ip : UInt32) : Prop where
  setStatus : ∀ status, status.devid = devid →
    SendsTo (fun transfer => virtualSwitchSetStatus queue transfer status) ip
  getStatus : ∀ status, status.devid = devid →
    SendsTo (fun transfer => virtualSwitchGetStatus queue transfer status) ip
  setAction : ∀ act, act.devid = devid →
    SendsTo (fun transfer => virtualSwitchSetAction queue transfer act) ip

/-- Requests go to the IP of the last response with the MAC of the device; what comes
from an IP is put down to the listed device that has last answered from there. -/
structure VsLatest (s : VsTold ρ) : Prop where
  requests : ∀ dev ∈ s.state.queue, ∃ ip, latest s.history dev.info.mac = some ip ∧
    RequestsGoTo s.state.queue dev.id ip
  events : ∀ ip, (findDevByIp s.state.queue ip).map (fun dev => dev.info.mac) =
    (vsBook s).owner (fun ip => ip) ip

theorem requestsGoTo_ip {queue : List VsDev} {devid : UInt32} {dev : VsDev}
    (hdev : findDevById queue devid = some dev) : RequestsGoTo queue devid dev.ip := by
  refine ⟨?_, ?_, ?_⟩
  · intro status hid transfer transfer' hsame
    simp only [virtualSwitchSetStatus, hid, hdev, hsame]
  · intro status hid transfer transfer' hsame
    simp only [virtualSwitchGetStatus, hid, hdev, hsame]
  · intro act hid transfer transfer' hsame
    simp only [virtualSwitchSetAction, hid, hdev, hsame]

/-- The datagram that says that all went well. -/
def okResult : Memory := set16 (set16 (set16 zeros 0 VsCmd.result.code) 2 6) 4 1

theorem okResult_code : resultCode 6 okResult = HsbErrorNo.ok.code := by decide

/-- An action tells the IP it is sent to from all others. -/
theorem RequestsGoTo.unique {queue : List VsDev} {devid ip : UInt32} {dev : VsDev}
    (hdev : findDevById queue devid = some dev) (h : RequestsGoTo queue devid ip) :
    dev.ip = ip := by
  by_contra hother
  let silent : Transfer := fun _ _ => (-1, zeros)
  let answering : Transfer := fun dest _ => if dest = ip then (-1, zeros) else (6, okResult)
  have hsame := h.setAction { devid := devid } rfl silent answering (by
    funext bytes
    simp only [silent, answering, if_true])
  simp only [virtualSwitchSetAction, hdev, silent, answering, if_neg hother, okResult_code]
    at hsame
  exact absurd hsame (by decide)

theorem vsBook_route (s : VsTold ρ) (devid : UInt32) :
    (vsBook s).route devid = (findDevById s.state.queue devid).map VsDev.ip := by
  simp only [Book.route, vsBook, findDevById, List.find?_map, Option.map_map]
  rfl

theorem vsBook_memberAt (s : VsTold ρ) (ip : UInt32) :
    (vsBook s).memberAt (fun ip => ip) ip =
      (findDevByIp s.state.queue ip).map fun dev => dev.info.mac := by
  simp only [Book.memberAt, vsBook, findDevByIp, List.find?_map, Option.map_map]
  rfl

theorem vsListed_iff (s : VsTold ρ) (mac : Vector UInt8 6) :
    mac ∈ (vsBook s).listed ↔ findDevByMac s.state.queue mac ≠ none := by
  have hlisted : (vsBook s).listed = s.state.queue.map fun dev => dev.info.mac := List.map_map
  rw [hlisted]
  exact mem_map_iff_find?

theorem VsLatest.current {s : VsTold ρ} (h : VsLatest s) : (vsBook s).Current fun ip => ip := by
  refine ⟨?_, ?_⟩
  · intro e he
    obtain ⟨dev, hdev, rfl⟩ := List.mem_map.mp he
    obtain ⟨first, hfirst⟩ : ∃ first, findDevById s.state.queue dev.id = some first :=
      exists_find? hdev
    obtain ⟨ip, hlatest, hrequests⟩ := h.requests dev hdev
    rw [vsEntry, vsBook_route, hfirst, Option.map_some, hrequests.unique hfirst]
    exact hlatest.symm
  · intro ip
    rw [vsBook_memberAt]
    exact h.events ip

theorem vsLatest_of_sound {s : VsTold ρ} (h : (vsBook s).Sound fun ip => ip) : VsLatest s := by
  refine ⟨?_, ?_⟩
  · intro dev hdev
    obtain ⟨first, hfirst⟩ : ∃ first, findDevById s.state.queue dev.id = some first :=
      exists_find? hdev
    have hroute := h.current.routes (vsEntry dev) (List.mem_map_of_mem hdev)
    rw [vsEntry, vsBook_route, hfirst, Option.map_some] at hroute
    exact ⟨first.ip, hroute.symm, requestsGoTo_ip hfirst⟩
  · intro ip
    rw [← vsBook_memberAt]
    exact h.current.members ip

/-- A datagram and a time-out leave the entries of the devices that stay as they are. -/
theorem vsStep_entries {s s' : VsState ρ} {step : VsStep} (h : vsStep s step = some s')
    (hstep : ∀ addr info, step ≠ .discovered addr info) :
    (s'.queue.map vsEntry).Sublist (s.queue.map vsEntry) := by
  cases step with
  | discovered addr info => exact absurd rfl (hstep addr info)
  | datagram addr rbuf ret =>
    rw [← Option.some.inj h]
    unfold recvDatagram
    split
    · exact List.Sublist.refl _
    · cases findDevByIp s.queue addr with
      | none => exact List.Sublist.refl _
      | some dev =>
        simp only [VsAgreement.map_modify_refresh vsEntry fun _ => rfl]
        exact List.Sublist.refl _
  | timeout =>
    have hdone : removeTimeoutDev s = some s' := h
    rw [removeTimeoutDev_eq] at hdone
    rw [← Option.some.inj hdone, List.map_map]
    exact List.filter_sublist.map vsEntry

theorem vsKeeps : Keeps (vsNext : VsTold ρ → VsAct ρ → Option (VsTold ρ)) vsBook vsSaid := by
  refine ⟨?_, ?_⟩
  · intro s a s' e hsaid h
    cases a with
    | core cb => exact absurd hsaid nofun
    | driver step =>
      cases step with
      | datagram addr rbuf ret => exact absurd hsaid nofun
      | timeout => exact absurd hsaid nofun
      | discovered addr info =>
        rw [← Option.some.inj hsaid]
        obtain ⟨state, hstate, rfl⟩ := Option.map_eq_some_iff.mp h
        rcases VsAgreement.registerDevice_cases hstate with
          ⟨hknown, rfl⟩ | ⟨hnew, done, listed, hdone, hlisted, rfl⟩
        · simp only [Book.announce, if_pos ((vsListed_iff s info.mac).mpr hknown)]
          rfl
        · have hunlisted : info.mac ∉ (vsBook s).listed := by
            rw [vsListed_iff, not_not]
            exact hnew
          simp only [Book.announce, if_neg hunlisted]
          simp only [vsBook, List.map_append, List.map_singleton, hlisted, vsEntry,
            devOnline_devid hdone]
          rfl
  · intro s a s' hsaid h
    cases a with
    | core cb =>
      rw [← Option.some.inj h]
      exact ⟨rfl, List.Sublist.refl _⟩
    | driver step =>
      obtain ⟨state, hstate, rfl⟩ := Option.map_eq_some_iff.mp h
      cases step with
      | discovered addr info => exact absurd hsaid nofun
      | datagram addr rbuf ret => exact ⟨rfl, vsStep_entries hstate fun _ _ => nofun⟩
      | timeout => exact ⟨rfl, vsStep_entries hstate fun _ _ => nofun⟩

end VirtualSwitches

section ZigbeeDevices

open Zigbee ZigbeeLink ZigbeeSending ZigbeeDriver

abbrev CzAddr := UInt16 × UInt16

abbrev CzTold (ρ : Type) := Told (CzState ρ) (Vector UInt8 8) CzAddr

inductive CzAct (ρ : Type)
  | core (cb : HsbDeviceCb ρ)
  | driver (step : Step)

def czResponse (step : Step) : List (Vector UInt8 8 × CzAddr) :=
  ((discovered step).map fun resp => (resp.2.2.mac, (resp.1, resp.2.1))).toList

def czNext (s : CzTold ρ) : CzAct ρ → Option (CzTold ρ)
  | .core cb => some { s with state := { s.state with cb := cb } }
  | .driver step =>
      (czStep s.state step).map fun state => ⟨state, czResponse step ++ s.history⟩

def czEntry (dev : CzDev) : Entry UInt32 (Vector UInt8 8) CzAddr :=
  ⟨dev.id, dev.info.mac, (dev.shortAddr, dev.endPoint)⟩

def czBook (s : CzTold ρ) : Book UInt32 (Vector UInt8 8) CzAddr :=
  ⟨s.state.link.queue.map czEntry, s.history⟩

def czSaid (s : CzTold ρ) : CzAct ρ → Option (Entry UInt32 (Vector UInt8 8) CzAddr)
  | .core _ => none
  | .driver step => (discovered step).map fun resp =>
      ⟨onlineId s.state.cb czDrv.id (devInfo resp.2.2), resp.2.2.mac, (resp.1, resp.2.1)⟩

/-- The condition on a step: the response of a device that is listed has the short
address and the end point it is listed with; any other has a short address and gets
an id that no listed device has. -/
def CzFits (s : CzTold ρ) (a : CzAct ρ) : Prop := FitsNext Prod.fst czBook czSaid s a

instance (s : CzTold ρ) (a : CzAct ρ) : Decidable (CzFits s a) :=
  inferInstanceAs (Decidable (FitsNext Prod.fst czBook czSaid s a))

/-- The short address and the end point in the header of a frame. -/
def frameAddr (frame : Frame) : CzAddr := (get16 frame.buf 6, get16 frame.buf 8)

/-- Requests carry the address of the last response with the MAC of the device. What comes
from a short address is put down to the listed device that has last answered from
there, in particular to the one that has answered with the end point as well. -/
structure CzLatest (s : CzTold ρ) : Prop where
  requests : ∀ dev ∈ s.state.link.queue, ∃ addr, latest s.history dev.info.mac = some addr ∧
    ∀ op wbuf frame, op.devid = dev.id → newFrame s.state.link (.request op wbuf) = some frame →
      frameAddr frame = addr
  events : ∀ shortAddr,
    (findDevByShortAddr s.state.link.queue shortAddr).map (fun dev => dev.info.mac) =
      (czBook s).owner Prod.fst shortAddr
  ends : ∀ addr mac, (czBook s).owner (fun addr => addr) addr = some mac →
    (findDevByShortAddr s.state.link.queue addr.1).map (fun dev => dev.info.mac) = some mac

theorem operation_frame_addr {op : Operation} {wbuf : Memory} {dev : CzDev} {transId : UInt16}
    {frame : Frame} (h : op.frame wbuf dev transId = some frame) :
    frameAddr frame = (dev.shortAddr, dev.endPoint) := by
  obtain ⟨len, cmd, hagree⟩ := operation_frame_header op wbuf dev transId frame h
  unfold frameAddr
  rw [hagree.get16 (by decide), hagree.get16 (by decide)]
  simp only [frameHeader, czHeaderLen]
  rw [get16_set16_other _ _ _ _ (by omega), get16_set16_other _ _ _ _ (by omega),
    get16_set16_other _ _ _ _ (by omega), get16_set16_other _ _ _ _ (by omega), get16_set16,
    get16_set16_other _ _ _ _ (by omega), get16_set16_other _ _ _ _ (by omega),
    get16_set16_other _ _ _ _ (by omega), get16_set16]

theorem czBook_route (s : CzTold ρ) (devid : UInt32) :
    (czBook s).route devid =
      (findDevById s.state.link.queue devid).map fun dev => (dev.shortAddr, dev.endPoint) := by
  simp only [Book.route, czBook, findDevById, List.find?_map, Option.map_map]
  rfl

theorem czBook_memberAt (s : CzTold ρ) (shortAddr : UInt16) :
    (czBook s).memberAt Prod.fst shortAddr =
      (findDevByShortAddr s.state.link.queue shortAddr).map fun dev => dev.info.mac := by
  simp only [Book.memberAt, czBook, findDevByShortAddr, List.find?_map, Option.map_map]
  rfl

theorem czListed_iff (s : CzTold ρ) (mac : Vector UInt8 8) :
    mac ∈ (czBook s).listed ↔ findDevByMac s.state.link.queue mac ≠ none := by
  have hlisted : (czBook s).listed = s.state.link.queue.map fun dev => dev.info.mac := List.map_map
  rw [hlisted]
  exact mem_map_iff_find?

theorem CzLatest.current {s : CzTold ρ} (h : CzLatest s) : (czBook s).Current Prod.fst := by
  refine ⟨?_, ?_⟩
  · intro e he
    obtain ⟨dev, hdev, rfl⟩ := List.mem_map.mp he
    obtain ⟨first, hfirst⟩ : ∃ first, findDevById s.state.link.queue dev.id = some first :=
      exists_find? hdev
    obtain ⟨addr, hlatest, hrequests⟩ := h.requests dev hdev
    let op : Operation := .getStatus { devid := dev.id }
    let frame := getStatusFrame zeros first s.state.link.transId
    have hmade : op.frame zeros first s.state.link.transId = some frame := rfl
    have hframe : newFrame s.state.link (.request op zeros) = some frame := by
      simp only [newFrame, op, Operation.devid, hfirst, Option.bind_some]
      exact hmade
    have haddr := hrequests op zeros frame rfl hframe
    rw [operation_frame_addr hmade] at haddr
    rw [czEntry, czBook_route, hfirst, Option.map_some, haddr]
    exact hlatest.symm
  · intro shortAddr
    rw [czBook_memberAt]
    exact h.events shortAddr

theorem czLatest_of_sound {s : CzTold ρ} (h : (czBook s).Sound Prod.fst) : CzLatest s := by
  refine ⟨?_, ?_, ?_⟩
  · intro dev hdev
    obtain ⟨first, hfirst⟩ : ∃ first, findDevById s.state.link.queue dev.id = some first :=
      exists_find? hdev
    have hroute := h.current.routes (czEntry dev) (List.mem_map_of_mem hdev)
    rw [czEntry, czBook_route, hfirst, Option.map_some] at hroute
    refine ⟨_, hroute.symm, ?_⟩
    intro op wbuf frame hid hframe
    rw [newFrame, hid, hfirst, Option.bind_some] at hframe
    exact operation_frame_addr hframe
  · intro shortAddr
    rw [← czBook_memberAt]
    exact h.current.members shortAddr
  · intro addr mac howner
    rw [← czBook_memberAt]
    exact h.memberAt_of_owner howner

theorem czKeeps : Keeps (czNext : CzTold ρ → CzAct ρ → Option (CzTold ρ)) czBook czSaid := by
  refine ⟨?_, ?_⟩
  · intro s a s' e hsaid h
    cases a with
    | core cb => exact absurd hsaid nofun
    | driver step =>
      obtain ⟨state, hstate, rfl⟩ := Option.map_eq_some_iff.mp h
      obtain ⟨resp, hresp, rfl⟩ := Option.map_eq_some_iff.mp hsaid
      rcases czStep_cases hstate with ⟨shortAddr, endPoint, info, hfound, hdone⟩ | ⟨hnone, -⟩
      · have hsame := Option.some.inj (hresp.symm.trans hfound)
        subst hsame
        rcases registerDevice_cases hdone with ⟨hknown, rfl⟩ | ⟨hnew, hqueue⟩
        · simp only [Book.announce, if_pos ((czListed_iff s info.mac).mpr hknown)]
          simp only [czBook, czResponse, hresp]
          rfl
        · have hunlisted : info.mac ∉ (czBook s).listed := by
            rw [czListed_iff, not_not]
            exact hnew
          simp only [Book.announce, if_neg hunlisted]
          simp only [czBook, czResponse, hresp, hqueue, List.map_append, List.map_singleton]
          rfl
      · rw [hresp] at hnone
        contradiction
  · intro s a s' hsaid h
    cases a with
    | core cb =>
      rw [← Option.some.inj h]
      exact ⟨rfl, List.Sublist.refl _⟩
    | driver step =>
      obtain ⟨state, hstate, rfl⟩ := Option.map_eq_some_iff.mp h
      have hnone : discovered step = none := Option.map_eq_none_iff.mp hsaid
      rcases czStep_cases hstate with ⟨shortAddr, endPoint, info, hfound, -⟩ | ⟨-, hqueue⟩
      · rw [hnone] at hfound
        contradiction
      · simp only [czBook, czResponse, hnone, hqueue]
        exact ⟨rfl, List.Sublist.refl _⟩

end ZigbeeDevices

/-- In every run of the virtual switch driver and in every run of the zigbee driver from
an empty list, requests go to the address in the last accepted response of their device,
and what comes from an address is put down to the listed device that has last answered
from there, in every state, if and only if every accepted response meets the condition
in the state it comes to. -/
theorem latest_address_iff (cb : HsbDeviceCb ρ) :
    (∀ acts t, run vsNext ⟨{ cb := cb }, []⟩ acts = some t →
      (Guarded vsNext VsFits ⟨{ cb := cb }, []⟩ acts ↔
        Throughout vsNext VsLatest ⟨{ cb := cb }, []⟩ acts)) ∧
    ∀ acts t, run czNext ⟨{ cb := cb }, []⟩ acts = some t →
      (Guarded czNext CzFits ⟨{ cb := cb }, []⟩ acts ↔
        Throughout czNext CzLatest ⟨{ cb := cb }, []⟩ acts) := by
  refine ⟨?_, ?_⟩
  · intro acts t hrun
    exact vsKeeps.guarded_iff (fun _ => vsLatest_of_sound) (fun _ => VsLatest.current) acts _ t
      Book.sound_empty hrun
  · intro acts t hrun
    exact czKeeps.guarded_iff (fun _ => czLatest_of_sound) (fun _ => CzLatest.current) acts _ t
      Book.sound_empty hrun

/-- A core that knows both drivers and no device. -/
def bothDrivers : HsbDeviceCb Unit := { driverq := [VsDriver.virtualSwitchDrv, ZigbeeDriver.czDrv] }

def switchInfo (mac : UInt8) : VirtualSwitch.VsInfo :=
  { mac := #v[mac, 0, 0, 0, 0, 0] }

/-- Two switches answer, one of them twice from the same IP. -/
def steadySwitches : List (VsAct Unit) :=
  [.driver (.discovered 7 (switchInfo 1)), .driver (.discovered 9 (switchInfo 2)),
    .driver (.discovered 7 (switchInfo 1))]

def movedSwitch : List (VsAct Unit) :=
  [.driver (.discovered 7 (switchInfo 1)), .driver (.discovered 9 (switchInfo 1))]

/-- A discovery response from a short address; the first byte of the MAC is behind the
headers, the class and the interface. -/
def discoverResp (shortAddr : UInt16) (mac : UInt8) : Memory :=
  set8 (Zigbee.frameHeader zeros 32 .uc shortAddr 10 0 .deviceDiscoverResp) 24 mac

def steadyDevices : List (CzAct Unit) :=
  [.driver (.recvFrame (discoverResp 5 1) 44), .driver (.recvFrame (discoverResp 6 2) 44),
    .driver (.recvFrame (discoverResp 5 1) 44)]

def reusedAddr : List (CzAct Unit) :=
  [.driver (.recvFrame (discoverResp 5 1) 44), .driver (.recvFrame (discoverResp 5 2) 44)]

theorem latest_address_iff_steady :
    (∃ t, run vsNext ⟨{ cb := bothDrivers }, []⟩ steadySwitches = some t ∧
      t.state.queue.length = 2 ∧
      Throughout vsNext VsLatest ⟨{ cb := bothDrivers }, []⟩ steadySwitches) ∧
    ∃ t, run czNext ⟨{ cb := bothDrivers }, []⟩ steadyDevices = some t ∧
      t.state.link.queue.length = 2 ∧
      Throughout czNext CzLatest ⟨{ cb := bothDrivers }, []⟩ steadyDevices := by
  refine ⟨?_, ?_⟩
  · have hlisted : (run vsNext ⟨{ cb := bothDrivers }, []⟩ steadySwitches).map
        (fun t => t.state.queue.length) = some 2 := by decide +kernel
    obtain ⟨t, hrun, htwo⟩ := Option.map_eq_some_iff.mp hlisted
    have hfits : Guarded vsNext VsFits ⟨{ cb := bothDrivers }, []⟩ steadySwitches := by
      decide +kernel
    exact ⟨t, hrun, htwo, ((latest_address_iff bothDrivers).1 _ t hrun).mp hfits⟩
  · have hlisted : (run czNext ⟨{ cb := bothDrivers }, []⟩ steadyDevices).map
        (fun t => t.state.link.queue.length) = some 2 := by decide +kernel
    obtain ⟨t, hrun, htwo⟩ := Option.map_eq_some_iff.mp hlisted
    have hfits : Guarded czNext CzFits ⟨{ cb := bothDrivers }, []⟩ steadyDevices := by
      decide +kernel
    exact ⟨t, hrun, htwo, ((latest_address_iff bothDrivers).2 _ t hrun).mp hfits⟩

/-- The switch has moved and its requests have not; the short address has a new owner
and its events have not. -/
theorem stale_addresses :
    (∃ t, run vsNext ⟨{ cb := bothDrivers }, []⟩ movedSwitch = some t ∧ ¬VsLatest t) ∧
    ∃ t, run czNext ⟨{ cb := bothDrivers }, []⟩ reusedAddr = some t ∧ ¬CzLatest t := by
  refine ⟨?_, ?_⟩
  · have hlists : (run vsNext ⟨{ cb := bothDrivers }, []⟩ movedSwitch).map
        (fun t => (t.state.queue, latest t.history (switchInfo 1).mac)) =
        some ([{ id := 1, ip := 7, info := switchInfo 1 }], some 9) := by decide +kernel
    obtain ⟨t, hrun, ht⟩ := Option.map_eq_some_iff.mp hlists
    simp only [Prod.mk.injEq] at ht
    obtain ⟨hqueue, hlast⟩ := ht
    refine ⟨t, hrun, ?_⟩
    intro h
    obtain ⟨ip, hlatest, hrequests⟩ := h.requests { id := 1, ip := 7, info := switchInfo 1 } (by
      rw [hqueue]
      exact List.mem_singleton_self _)
    rw [hqueue] at hrequests
    have hold : 7 = ip := hrequests.unique rfl
    have hnew : some ip = some 9 := hlatest.symm.trans hlast
    rw [← hold] at hnew
    exact absurd hnew (by decide)
  · have howners : (run czNext ⟨{ cb := bothDrivers }, []⟩ reusedAddr).map (fun t =>
        ((ZigbeeDriver.findDevByShortAddr t.state.link.queue 5).map fun dev => dev.info.mac[0],
          ((czBook t).owner Prod.fst 5).map fun mac => mac[0])) = some (some 1, some 2) := by
      decide +kernel
    obtain ⟨t, hrun, ht⟩ := Option.map_eq_some_iff.mp howners
    simp only [Prod.mk.injEq] at ht
    refine ⟨t, hrun, ?_⟩
    intro h
    rw [← h.events 5, Option.map_map] at ht
    have hsame := ht.1.symm.trans ht.2
    exact absurd hsame (by decide)

end HomeSecurityBox.LatestAddress
