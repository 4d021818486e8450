import HomeSecurityBox.Base.Roster
import HomeSecurityBox.DeviceEvents

/-!
Devices that come online and go offline. The online and the offline queue are a
roster; a device is recognised by its driver and its address, and its record
moves between the queues as it is. Every move raises an event afterwards.
-/

namespace HomeSecurityBox.Registry

open Protocol DeviceData Device DeviceEvents

variable {ρ : Type}

inductive HsbDevUpdatedType
  | offline
  | newAdd
  | online
  deriving DecidableEq, Repr

def HsbDevUpdatedType.code : HsbDevUpdatedType → UInt16
  | .offline => 0
  | .newAdd => 1
  | .online => 2

def devUpdated (cb : HsbDeviceCb ρ) (devid : UInt32) (type : HsbDevUpdatedType) :
    HsbDeviceCb ρ × HsbResp ρ := devEvent cb devid .devUpdated type.code 0

/-- The test of `dev_online` on a device that is offline. -/
def sameDevice (drvid : UInt32) (info : HsbDevInfo) (dev : HsbDev) : Bool :=
  dev.driver.id == drvid && dev.info.mac == info.mac

/-- The zeroed record with its default values and the fields that `dev_online` sets. -/
def createDev (cb : HsbDeviceCb ρ) (info : HsbDevInfo) (drv : HsbDevDrv)
    (op : Option HsbDevOp) : HsbDev × HsbDeviceCb ρ :=
  ({ id := cb.devId, info := info, driver := drv, op := op }, { cb with devId := cb.devId + 1 })

/-- The new state, the id given to the caller and the event for every client. -/
structure Onlined (ρ : Type) where
  cb : HsbDeviceCb ρ
  devid : UInt32
  notice : HsbResp ρ

/-- A driver passes its own id, which is registered; `none` is the device with a NULL
driver that another id would leave in the queue. -/
def devOnline (cb : HsbDeviceCb ρ) (drvid : UInt32) (info : HsbDevInfo)
    (op : Option HsbDevOp) : Option (Onlined ρ) :=
  let id := cb.offq.findIdx (sameDevice drvid info)
  match cb.offq[id]? with
  | none =>
      (findDrv cb drvid).map fun drv =>
        let created := createDev cb info drv op
        let dev := created.1
        let cb := created.2
        let done := devUpdated { cb with queue := cb.queue ++ [dev] } dev.id .newAdd
        ⟨done.1, dev.id, done.2⟩
  | some dev =>
      let cb := { cb with offq := cb.offq.eraseIdx id }
      let done := devUpdated { cb with queue := cb.queue ++ [dev] } dev.id .online
      some ⟨done.1, dev.id, done.2⟩

/-- The return value, the new state and the events sent on the way. -/
def devOffline (cb : HsbDeviceCb ρ) (devid : UInt32) :
    ℤ × HsbDeviceCb ρ × List (HsbResp ρ) :=
  let id := cb.queue.findIdx fun dev => dev.id == devid
  match cb.queue[id]? with
  | none => (HsbErrorNo.others.code, cb, [])
  | some dev =>
      let cb := { cb with queue := cb.queue.eraseIdx id, offq := cb.offq ++ [dev] }
      let done := devUpdated cb devid .offline
      (HsbErrorNo.ok.code, done.1, [done.2])

/-- The id that a device will have when it comes online. -/
def onlineId (cb : HsbDeviceCb ρ) (drvid : UInt32) (info : HsbDevInfo) : UInt32 :=
  match cb.offq.find? (sameDevice drvid info) with
  | none => cb.devId
  | some dev => dev.id

/-- What a driver and the core know a device by. -/
abbrev DevKey := UInt32 × Vector UInt8 8

def devKey (dev : HsbDev) : DevKey := (dev.driver.id, dev.info.mac)

def roster (cb : HsbDeviceCb ρ) : Roster HsbDev := ⟨cb.queue, cb.offq⟩

/-- The acts that `check_linkage` queues. -/
def raisedActs (cb : HsbDeviceCb ρ) (devid : UInt32) (evt : HsbEvt) : List HsbActBody :=
  match findDev cb devid with
  | none => []
  | some dev =>
      if checkBit dev.workMode.toNat cb.workMode.toNat then linkageActs cb.workMode evt dev
      else []

theorem sameDevice_iff (drvid : UInt32) (info : HsbDevInfo) (dev : HsbDev) :
    sameDevice drvid info dev = true ↔ devKey dev = (drvid, info.mac) := by
  simp only [sameDevice, devKey, Bool.and_eq_true, beq_iff_eq, Prod.mk.injEq]

theorem checkLinkage_eq (cb : HsbDeviceCb ρ) (devid : UInt32) (evt : HsbEvt) :
    checkLinkage cb devid evt = pushOwnActs cb (raisedActs cb devid evt) := by
  unfold checkLinkage raisedActs
  cases findDev cb devid with
  | none => rfl
  | some dev =>
    cases hmode : checkBit dev.workMode.toNat cb.workMode.toNat
    · simp [hmode, pushOwnActs]
    · simp [hmode]

/-- Raising an event queues acts of the box and changes nothing else. -/
theorem devEvent_eq (cb : HsbDeviceCb ρ) (devid : UInt32) (type : HsbEvtType) (param1 : UInt16)
    (param2 : UInt32) :
    (devEvent cb devid type param1 param2).1 =
      { cb with
        asyncQueue := cb.asyncQueue ++
          (raisedActs cb devid
            { devid := devid, id := type.code, param1 := param1, param2 := param2 }).map
            fun body => (⟨body, none⟩ : HsbAct ρ) } := by
  simp only [devEvent, checkLinkage_eq, pushOwnActs_eq]

theorem devUpdated_eq (cb : HsbDeviceCb ρ) (devid : UInt32) (type : HsbDevUpdatedType) :
    (devUpdated cb devid type).1 =
      { cb with asyncQueue := (devUpdated cb devid type).1.asyncQueue } := by
  simp only [devUpdated, devEvent_eq]

/-- A device that was offline comes back as it is, or a new one is created. -/
theorem devOnline_eq_some {cb : HsbDeviceCb ρ} {drvid : UInt32} {info : HsbDevInfo}
    {op : Option HsbDevOp} {r : Onlined ρ} (h : devOnline cb drvid info op = some r) :
    (∃ (i : ℕ) (dev : HsbDev) (acts : List (HsbAct ρ)),
      cb.offq[i]? = some dev ∧ devKey dev = (drvid, info.mac) ∧ r.devid = dev.id ∧
        r.cb = { cb with
          queue := cb.queue ++ [dev]
          offq := cb.offq.eraseIdx i
          asyncQueue := acts }) ∨
      (∀ dev ∈ cb.offq, devKey dev ≠ (drvid, info.mac)) ∧
        ∃ (drv : HsbDevDrv) (dev : HsbDev) (acts : List (HsbAct ρ)),
          findDrv cb drvid = some drv ∧
          dev = { id := cb.devId, info := info, driver := drv, op := op } ∧
          r.devid = cb.devId ∧
          r.cb = { cb with
            queue := cb.queue ++ [dev]
            devId := cb.devId + 1
            asyncQueue := acts } := by
  simp only [devOnline] at h
  have hfind : cb.offq.find? (sameDevice drvid info) =
      cb.offq[cb.offq.findIdx (sameDevice drvid info)]? := List.find?_eq_getElem?_findIdx
  cases hdev : cb.offq[cb.offq.findIdx (sameDevice drvid info)]? with
  | none =>
    rw [hdev] at h hfind
    obtain ⟨drv, hdrv, rfl⟩ := Option.map_eq_some_iff.mp h
    refine Or.inr ⟨?_, drv, _, _, hdrv, rfl, rfl, devUpdated_eq _ _ _⟩
    intro dev hmem hkey
    have hdiffers := List.find?_eq_none.mp hfind dev hmem
    exact hdiffers ((sameDevice_iff drvid info dev).mpr hkey)
  | some dev =>
    rw [hdev] at h hfind
    rw [← Option.some.inj h]
    have hsame := List.find?_some hfind
    exact Or.inl ⟨_, dev, _, hdev, (sameDevice_iff drvid info dev).mp hsame, rfl,
      devUpdated_eq _ _ _⟩

theorem devOnline_devid {cb : HsbDeviceCb ρ} {drvid : UInt32} {info : HsbDevInfo}
    {op : Option HsbDevOp} {r : Onlined ρ} (h : devOnline cb drvid info op = some r) :
    r.devid = onlineId cb drvid info := by
  have hfind : cb.offq.find? (sameDevice drvid info) =
      cb.offq[cb.offq.findIdx (sameDevice drvid info)]? := List.find?_eq_getElem?_findIdx
  simp only [devOnline] at h
  rw [onlineId, hfind]
  cases hdev : cb.offq[cb.offq.findIdx (sameDevice drvid info)]? with
  | none =>
    rw [hdev] at h
    obtain ⟨drv, -, rfl⟩ := Option.map_eq_some_iff.mp h
    rfl
  | some dev =>
    rw [hdev] at h
    rw [← Option.some.inj h]

/-- Going offline moves one record, unless the id is not online. -/
theorem devOffline_cases (cb : HsbDeviceCb ρ) (devid : UInt32) :
    ((∀ dev ∈ cb.queue, dev.id ≠ devid) ∧
      devOffline cb devid = (HsbErrorNo.others.code, cb, [])) ∨
      ∃ (i : ℕ) (dev : HsbDev) (acts : List (HsbAct ρ)),
        cb.queue[i]? = some dev ∧ dev.id = devid ∧
        (devOffline cb devid).1 = HsbErrorNo.ok.code ∧
        (devOffline cb devid).2.1 = { cb with
          queue := cb.queue.eraseIdx i
          offq := cb.offq ++ [dev]
          asyncQueue := acts } := by
  have hfind : (cb.queue.find? fun dev => dev.id == devid) =
      cb.queue[cb.queue.findIdx fun dev => dev.id == devid]? := List.find?_eq_getElem?_findIdx
  simp only [devOffline]
  cases hdev : cb.queue[cb.queue.findIdx fun dev => dev.id == devid]? with
  | none =>
    rw [hdev] at hfind
    refine Or.inl ⟨?_, by simp only⟩
    intro dev hmem hid
    have hdiffers := List.find?_eq_none.mp hfind dev hmem
    exact hdiffers (beq_iff_eq.mpr hid)
  | some dev =>
    rw [hdev] at hfind
    have hid := List.find?_some hfind
    exact Or.inr ⟨_, dev, _, hdev, eq_of_beq hid, rfl, devUpdated_eq _ _ _⟩

end HomeSecurityBox.Registry
