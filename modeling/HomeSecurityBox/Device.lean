import HomeSecurityBox.DeviceData

/-!
The device registry and its per-device tables of timers, delays and linkages.
A lookup returns the first online device with the id; a write through the
found pointer changes that device in place. The nine slot operations are one
table operation each, applied to the table's own bounds and status updates.
-/

namespace HomeSecurityBox.Device

open Protocol DeviceData

variable {ρ : Type}

def getDevIdList (cb : HsbDeviceCb ρ) : List UInt32 := cb.queue.map HsbDev.id

def findDev (cb : HsbDeviceCb ρ) (devId : UInt32) : Option HsbDev :=
  cb.queue.find? fun dev => dev.id == devId

def findDrv (cb : HsbDeviceCb ρ) (drvId : UInt32) : Option HsbDevDrv :=
  cb.driverq.find? fun drv => drv.id == drvId

/-- The lookup fails with -1, which is no value of the error enumeration. -/
def getDevInfo (cb : HsbDeviceCb ρ) (devId : UInt32) : Except ℤ HsbDev :=
  match findDev cb devId with
  | some dev => .ok dev
  | none => .error (-1)

/-- A write through the pointer that `findDev` returns. -/
def updateFirst (devId : UInt32) (f : HsbDev → HsbDev) : List HsbDev → List HsbDev
  | [] => []
  | dev :: rest =>
      if dev.id == devId then f dev :: rest else dev :: updateFirst devId f rest

def HsbDeviceCb.updateDev (cb : HsbDeviceCb ρ) (devId : UInt32) (f : HsbDev → HsbDev) :
    HsbDeviceCb ρ := { cb with queue := updateFirst devId f cb.queue }

/-- A table of slots in a device: the records, their status and what setting
and deleting a record does to its status. -/
structure SlotTable (R S : Type) where
  size : ℕ
  recs : HsbDev → Vector R size
  stats : HsbDev → Vector S size
  store : HsbDev → Vector R size → Vector S size → HsbDev
  slotOf : R → UInt16
  active : S → Bool
  arm : S → S
  disarm : S → S
  blank : R

namespace SlotTable

variable {R S : Type}

def get (t : SlotTable R S) (cb : HsbDeviceCb ρ) (devId : UInt32) (slot : UInt16) :
    Except ℤ R :=
  match findDev cb devId with
  | none => .error HsbErrorNo.badParam.code
  | some dev =>
      if h : slot.toNat < t.size then
        if t.active (t.stats dev)[slot.toNat] then .ok (t.recs dev)[slot.toNat]
        else .error HsbErrorNo.badParam.code
      else .error HsbErrorNo.badParam.code

def put (t : SlotTable R S) (i : ℕ) (h : i < t.size) (record : R) (f : S → S)
    (dev : HsbDev) : HsbDev :=
  t.store dev ((t.recs dev).set i record) ((t.stats dev).set i (f (t.stats dev)[i]))

def set (t : SlotTable R S) (cb : HsbDeviceCb ρ) (devId : UInt32) (record : R) :
    Except ℤ (HsbDeviceCb ρ) :=
  match findDev cb devId with
  | none => .error HsbErrorNo.badParam.code
  | some _ =>
      if h : (t.slotOf record).toNat < t.size then
        .ok (HsbDeviceCb.updateDev cb devId
          (t.put (t.slotOf record).toNat h record t.arm))
      else .error HsbErrorNo.badParam.code

def del (t : SlotTable R S) (cb : HsbDeviceCb ρ) (devId : UInt32) (slot : UInt16) :
    Except ℤ (HsbDeviceCb ρ) :=
  match findDev cb devId with
  | none => .error HsbErrorNo.badParam.code
  | some dev =>
      if h : slot.toNat < t.size then
        if t.active (t.stats dev)[slot.toNat] then
          .ok (HsbDeviceCb.updateDev cb devId (t.put slot.toNat h t.blank t.disarm))
        else .error HsbErrorNo.badParam.code
      else .error HsbErrorNo.badParam.code

end SlotTable

/-- Setting or deleting a timer clears its whole status first. -/
def timerTable : SlotTable HsbTimer HsbTimerStatus where
  size := hsbDevMaxTimerNum
  recs := HsbDev.timer
  stats := HsbDev.timerStatus
  store := fun dev timer timerStatus =>
    { dev with timer := timer, timerStatus := timerStatus }
  slotOf := HsbTimer.id
  active := HsbTimerStatus.active
  arm := fun _ => { active := true, expired := false }
  disarm := fun _ => {}
  blank := {}

/-- Setting or deleting a delay leaves `started` and `startTm` as they are. -/
def delayTable : SlotTable HsbDelay HsbDelayStatus where
  size := hsbDevMaxDelayNum
  recs := HsbDev.delay
  stats := HsbDev.delayStatus
  store := fun dev delay delayStatus =>
    { dev with delay := delay, delayStatus := delayStatus }
  slotOf := HsbDelay.id
  active := HsbDelayStatus.active
  arm := fun status => { status with active := true }
  disarm := fun status => { status with active := false }
  blank := {}

def linkageTable : SlotTable HsbLinkage HsbLinkageStatus where
  size := hsbDevMaxLinkageNum
  recs := HsbDev.link
  stats := HsbDev.linkStatus
  store := fun dev link linkStatus => { dev with link := link, linkStatus := linkStatus }
  slotOf := HsbLinkage.id
  active := HsbLinkageStatus.active
  arm := fun status => { status with active := true }
  disarm := fun status => { status with active := false }
  blank := {}

def getDevTimer (cb : HsbDeviceCb ρ) (devId : UInt32) (timerId : UInt16) :
    Except ℤ HsbTimer := timerTable.get cb devId timerId

def setDevTimer (cb : HsbDeviceCb ρ) (devId : UInt32) (timer : HsbTimer) :
    Except ℤ (HsbDeviceCb ρ) := timerTable.set cb devId timer

def delDevTimer (cb : HsbDeviceCb ρ) (devId : UInt32) (timerId : UInt16) :
    Except ℤ (HsbDeviceCb ρ) := timerTable.del cb devId timerId

def getDevDelay (cb : HsbDeviceCb ρ) (devId : UInt32) (delayId : UInt16) :
    Except ℤ HsbDelay := delayTable.get cb devId delayId

def setDevDelay (cb : HsbDeviceCb ρ) (devId : UInt32) (delay : HsbDelay) :
    Except ℤ (HsbDeviceCb ρ) := delayTable.set cb devId delay

def delDevDelay (cb : HsbDeviceCb ρ) (devId : UInt32) (delayId : UInt16) :
    Except ℤ (HsbDeviceCb ρ) := delayTable.del cb devId delayId

def getDevLinkage (cb : HsbDeviceCb ρ) (devId : UInt32) (linkId : UInt16) :
    Except ℤ HsbLinkage := linkageTable.get cb devId linkId

def setDevLinkage (cb : HsbDeviceCb ρ) (devId : UInt32) (link : HsbLinkage) :
    Except ℤ (HsbDeviceCb ρ) := linkageTable.set cb devId link

def delDevLinkage (cb : HsbDeviceCb ρ) (devId : UInt32) (linkId : UInt16) :
    Except ℤ (HsbDeviceCb ρ) := linkageTable.del cb devId linkId

/-- Acts for the worker. The allocation aborts the process when it fails, so
pushing an act always succeeds. -/
def pushAct (cb : HsbDeviceCb ρ) (act : HsbAct ρ) : HsbDeviceCb ρ :=
  { cb with asyncQueue := cb.asyncQueue ++ [act] }

def probeDevAsync (cb : HsbDeviceCb ρ) (probe : HsbProbe) (reply : Option ρ) :
    HsbDeviceCb ρ := pushAct cb ⟨.probe probe, reply⟩

def setDevStatusAsync (cb : HsbDeviceCb ρ) (status : HsbStatus) (reply : Option ρ) :
    HsbDeviceCb ρ := pushAct cb ⟨.setStatus status, reply⟩

/-- The act is allocated zeroed and only the device id of its status is set. -/
def getDevStatusAsync (cb : HsbDeviceCb ρ) (devid : UInt32) (reply : Option ρ) :
    HsbDeviceCb ρ := pushAct cb ⟨.getStatus { devid := devid }, reply⟩

def setDevActionAsync (cb : HsbDeviceCb ρ) (action : HsbAction) (reply : Option ρ) :
    HsbDeviceCb ρ := pushAct cb ⟨.doAction action, reply⟩

/-- A write through the found pointer is found again. -/
theorem find?_updateFirst (devId : UInt32) (f : HsbDev → HsbDev) (queue : List HsbDev)
    (dev : HsbDev) (hid : ∀ d : HsbDev, (f d).id = d.id)
    (h : queue.find? (fun d => d.id == devId) = some dev) :
    (updateFirst devId f queue).find? (fun d => d.id == devId) = some (f dev) := by
  induction queue with
  | nil => contradiction
  | cons d rest ih =>
    cases hd : d.id == devId with
    | false =>
      simp only [List.find?_cons, hd] at h
      simp only [updateFirst, hd, Bool.false_eq_true, if_false, List.find?_cons]
      exact ih h
    | true =>
      simp only [List.find?_cons, hd, Option.some.injEq] at h
      subst h
      simp only [updateFirst, hd, if_true, List.find?_cons, hid]

/-- What a successful setting found and wrote. -/
theorem SlotTable.set_eq_ok {R S : Type} (t : SlotTable R S) (cb cb' : HsbDeviceCb ρ)
    (devId : UInt32) (record : R) (h : t.set cb devId record = .ok cb') :
    ∃ (dev : HsbDev) (hslot : (t.slotOf record).toNat < t.size),
      findDev cb devId = some dev ∧
        cb' = HsbDeviceCb.updateDev cb devId
          (t.put (t.slotOf record).toNat hslot record t.arm) := by
  unfold SlotTable.set at h
  split at h
  · contradiction
  · rename_i dev hfind
    split at h
    · rename_i hslot
      exact ⟨dev, hslot, hfind, (Except.ok.inj h).symm⟩
    · contradiction

theorem SlotTable.del_eq_ok {R S : Type} (t : SlotTable R S) (cb cb' : HsbDeviceCb ρ)
    (devId : UInt32) (slot : UInt16) (h : t.del cb devId slot = .ok cb') :
    ∃ (dev : HsbDev) (hslot : slot.toNat < t.size),
      findDev cb devId = some dev ∧ t.active (t.stats dev)[slot.toNat] = true ∧
        cb' = HsbDeviceCb.updateDev cb devId (t.put slot.toNat hslot t.blank t.disarm) := by
  unfold SlotTable.del at h
  split at h
  · contradiction
  · rename_i dev hfind
    split at h
    · rename_i hslot
      split at h
      · rename_i hactive
        exact ⟨dev, hslot, hfind, hactive, (Except.ok.inj h).symm⟩
      · contradiction
    · contradiction

/-- The slot that `set_dev_timer` leaves: the timer, active and not expired. -/
theorem setDevTimer_armed (cb cb' : HsbDeviceCb ρ) (devId : UInt32) (timer : HsbTimer)
    (h : setDevTimer cb devId timer = .ok cb') :
    ∃ (dev : HsbDev) (hslot : timer.id.toNat < hsbDevMaxTimerNum),
      findDev cb' devId = some dev ∧ dev.timer[timer.id.toNat] = timer ∧
        dev.timerStatus[timer.id.toNat] = { active := true, expired := false } := by
  obtain ⟨dev, hslot, hfind, hcb⟩ := SlotTable.set_eq_ok timerTable cb cb' devId timer h
  refine ⟨timerTable.put timer.id.toNat hslot timer timerTable.arm dev, hslot, ?_, ?_, ?_⟩
  · rw [hcb]
    exact find?_updateFirst devId _ cb.queue dev (fun _ => rfl) hfind
  · exact Vector.getElem_set_self hslot
  · exact Vector.getElem_set_self hslot

/-- The slot operations neither read nor change the queue of acts. -/
theorem SlotTable.set_asyncQueue {R S : Type} (t : SlotTable R S) (cb cb' : HsbDeviceCb ρ)
    (devId : UInt32) (record : R) (h : t.set cb devId record = .ok cb') :
    cb'.asyncQueue = cb.asyncQueue := by
  obtain ⟨dev, hslot, -, hcb⟩ := t.set_eq_ok cb cb' devId record h
  rw [hcb]
  rfl

theorem SlotTable.del_asyncQueue {R S : Type} (t : SlotTable R S) (cb cb' : HsbDeviceCb ρ)
    (devId : UInt32) (slot : UInt16) (h : t.del cb devId slot = .ok cb') :
    cb'.asyncQueue = cb.asyncQueue := by
  obtain ⟨dev, hslot, -, -, hcb⟩ := t.del_eq_ok cb cb' devId slot h
  rw [hcb]
  rfl

end HomeSecurityBox.Device
