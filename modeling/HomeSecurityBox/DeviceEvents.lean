import HomeSecurityBox.Device

/-!
Device events, the linkages they set off and the work mode of the box. Timers,
delays and linkages describe their act in the same way: bit 0 of the flag tells
an action from a status of one pair.
-/

namespace HomeSecurityBox.DeviceEvents

open Protocol DeviceData Device

variable {ρ : Type}

inductive HsbEvtType
  | statusUpdated
  | devUpdated
  | sensorTriggered
  | sensorRecovered
  | modeChanged
  | irKey
  deriving DecidableEq, Repr

def HsbEvtType.code : HsbEvtType → UInt16
  | .statusUpdated => 0
  | .devUpdated => 1
  | .sensorTriggered => 2
  | .sensorRecovered => 3
  | .modeChanged => 4
  | .irKey => 5

def hsbWorkModeLast : UInt32 := 3

def hsbWorkModeValid (x : UInt32) : Bool := decide (x < hsbWorkModeLast)

/-- The act of a timer, delay or linkage. Behind its first pair the status is
uninitialized in the source; with `num` 1 no one reads there. -/
def slotAct (devid : UInt32) (flag : UInt8) (actId actParam1 : UInt16) (actParam2 : UInt32) :
    HsbActBody :=
  if checkBit flag.toNat 0 then
    .doAction { devid := devid, id := actId, param1 := actParam1, param2 := actParam2 }
  else .setStatus (HsbStatus.ofPair devid actId actParam1)

/-- Acts of the box itself have no client to reply to. -/
def pushOwnActs (cb : HsbDeviceCb ρ) (acts : List HsbActBody) : HsbDeviceCb ρ :=
  acts.foldl (fun cb body => pushAct cb ⟨body, none⟩) cb

/-- One iteration of the loop of `check_linkage`. -/
def linkageAct (workMode : UInt32) (evt : HsbEvt) (link : HsbLinkage)
    (status : HsbLinkageStatus) : Option HsbActBody :=
  if !status.active then none
  else if !checkBit link.workMode.toNat workMode.toNat then none
  else if evt.id ≠ link.evtId ∨ evt.param1 ≠ link.evtParam1 ∨ evt.param2 ≠ link.evtParam2 then
    none
  else some (slotAct link.actDevid link.flag link.actId link.actParam1 link.actParam2)

def linkageActs (workMode : UInt32) (evt : HsbEvt) (dev : HsbDev) : List HsbActBody :=
  (List.finRange hsbDevMaxLinkageNum).filterMap fun i =>
    linkageAct workMode evt dev.link[i] dev.linkStatus[i]

def checkLinkage (cb : HsbDeviceCb ρ) (devid : UInt32) (evt : HsbEvt) : HsbDeviceCb ρ :=
  match findDev cb devid with
  | none => cb
  | some dev =>
      if !checkBit dev.workMode.toNat cb.workMode.toNat then cb
      else pushOwnActs cb (linkageActs cb.workMode evt dev)

/-- The new state and the response that goes to every client. -/
def devEvent (cb : HsbDeviceCb ρ) (devid : UInt32) (type : HsbEvtType) (param1 : UInt16)
    (param2 : UInt32) : HsbDeviceCb ρ × HsbResp ρ :=
  let event : HsbEvt := { devid := devid, id := type.code, param1 := param1, param2 := param2 }
  (checkLinkage cb devid event, ⟨.event event, none⟩)

def devModeChanged (cb : HsbDeviceCb ρ) (mode : UInt32) : HsbDeviceCb ρ × HsbResp ρ :=
  devEvent cb 0 .modeChanged (UInt16.ofNat mode.toNat) 0

/-- The result code, the new state and the events sent on the way. -/
def setBoxWorkMode (cb : HsbDeviceCb ρ) (mode : UInt32) :
    ℤ × HsbDeviceCb ρ × List (HsbResp ρ) :=
  if !hsbWorkModeValid mode then (HsbErrorNo.badParam.code, cb, [])
  else
    let changed := devModeChanged { cb with workMode := mode } mode
    (HsbErrorNo.ok.code, changed.1, [changed.2])

/-- The queue of acts grew by acts of the box itself. -/
def QueuesOwnActs (cb cb' : HsbDeviceCb ρ) : Prop :=
  ∃ bodies : List HsbActBody,
    cb'.asyncQueue = cb.asyncQueue ++ bodies.map fun body => (⟨body, none⟩ : HsbAct ρ)

theorem QueuesOwnActs.refl (cb : HsbDeviceCb ρ) : QueuesOwnActs cb cb :=
  ⟨[], (List.append_nil _).symm⟩

theorem pushOwnActs_eq (cb : HsbDeviceCb ρ) (acts : List HsbActBody) :
    pushOwnActs cb acts =
      { cb with
        asyncQueue := cb.asyncQueue ++ acts.map fun body => (⟨body, none⟩ : HsbAct ρ) } := by
  unfold pushOwnActs
  induction acts generalizing cb with
  | nil => simp
  | cons body rest ih =>
    rw [List.foldl_cons, ih]
    simp only [pushAct, List.map_cons, List.append_assoc, List.singleton_append]

theorem pushOwnActs_queues (cb : HsbDeviceCb ρ) (acts : List HsbActBody) :
    QueuesOwnActs cb (pushOwnActs cb acts) := by
  rw [pushOwnActs_eq]
  exact ⟨acts, rfl⟩

theorem checkLinkage_queues (cb : HsbDeviceCb ρ) (devid : UInt32) (evt : HsbEvt) :
    QueuesOwnActs cb (checkLinkage cb devid evt) := by
  unfold checkLinkage
  split
  · exact QueuesOwnActs.refl cb
  · rename_i dev _
    split
    · exact QueuesOwnActs.refl cb
    · exact pushOwnActs_queues cb (linkageActs cb.workMode evt dev)

/-- Changing the work mode queues acts of the box only and answers no client. -/
theorem setBoxWorkMode_spec (cb : HsbDeviceCb ρ) (mode : UInt32) :
    QueuesOwnActs cb (setBoxWorkMode cb mode).2.1 ∧
      ∀ resp ∈ (setBoxWorkMode cb mode).2.2, resp.body.isEvent = true := by
  unfold setBoxWorkMode
  split
  · exact ⟨QueuesOwnActs.refl cb, by simp⟩
  · refine ⟨checkLinkage_queues { cb with workMode := mode } 0 _, ?_⟩
    intro resp hresp
    rw [List.mem_singleton.mp hresp]
    rfl

end HomeSecurityBox.DeviceEvents
