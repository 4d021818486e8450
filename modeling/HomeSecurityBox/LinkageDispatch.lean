import HomeSecurityBox.OfflineLinkage

/-!
The loop of `check_linkage`. Two pointers walk over the linkages and their status
along with the slot number, on every way through the body, so that each slot is
tested against its own status and the acts are queued in slot order.
-/

namespace HomeSecurityBox.LinkageDispatch

open Protocol DeviceData Device DeviceEvents OfflineLinkage

variable {ρ : Type}

/-- The body of the loop, with `link` and `status` dereferenced. -/
def linkageBody (workMode : UInt32) (evt : HsbEvt) (link : HsbLinkage)
    (status : HsbLinkageStatus) (cb : HsbDeviceCb ρ) : HsbDeviceCb ρ :=
  if !status.active then cb
  else if !checkBit link.workMode.toNat workMode.toNat then cb
  else if evt.id ≠ link.evtId ∨ evt.param1 ≠ link.evtParam1 ∨ evt.param2 ≠ link.evtParam2 then
    cb
  else if checkBit link.flag.toNat 0 then
    setDevActionAsync cb
      { devid := link.actDevid
        id := link.actId
        param1 := link.actParam1
        param2 := link.actParam2 }
      none
  else setDevStatusAsync cb (HsbStatus.ofPair link.actDevid link.actId link.actParam1) none

/-- `left` rounds with the pointers at the slots `link` and `status`. A pointer behind
its table would end the walk. -/
def linkageLoop (workMode : UInt32) (evt : HsbEvt) (dev : HsbDev) :
    ℕ → ℕ → ℕ → HsbDeviceCb ρ → HsbDeviceCb ρ
  | 0, _, _, cb => cb
  | left + 1, link, status, cb =>
      match dev.link[link]?, dev.linkStatus[status]? with
      | some lk, some st =>
          linkageLoop workMode evt dev left (link + 1) (status + 1)
            (linkageBody workMode evt lk st cb)
      | _, _ => cb

/-- `check_linkage` as the source walks over the slots. -/
def walkLinkages (cb : HsbDeviceCb ρ) (devid : UInt32) (evt : HsbEvt) : HsbDeviceCb ρ :=
  match findDev cb devid with
  | none => cb
  | some dev =>
      if !checkBit dev.workMode.toNat cb.workMode.toNat then cb
      else linkageLoop cb.workMode evt dev hsbDevMaxLinkageNum 0 0 cb

theorem linkageBody_eq (workMode : UInt32) (evt : HsbEvt) (link : HsbLinkage)
    (status : HsbLinkageStatus) (cb : HsbDeviceCb ρ) :
    linkageBody workMode evt link status cb =
      pushOwnActs cb (linkageAct workMode evt link status).toList := by
  unfold linkageBody linkageAct
  split
  · rfl
  · split
    · rfl
    · split
      · rfl
      · simp only [slotAct]
        split
        · rfl
        · rfl

theorem pushOwnActs_append (cb : HsbDeviceCb ρ) (front back : List HsbActBody) :
    pushOwnActs cb (front ++ back) = pushOwnActs (pushOwnActs cb front) back :=
  List.foldl_append

/-- Both pointers at slot `k`: the acts of the slots from there on, in their order. -/
theorem linkageLoop_eq (workMode : UInt32) (evt : HsbEvt) (dev : HsbDev) (left : ℕ) :
    ∀ (k : ℕ) (cb : HsbDeviceCb ρ), k + left = hsbDevMaxLinkageNum →
      linkageLoop workMode evt dev left k k cb =
        pushOwnActs cb (((List.finRange hsbDevMaxLinkageNum).drop k).filterMap fun i =>
          linkageAct workMode evt (dev.link.get i) (dev.linkStatus.get i)) := by
  induction left with
  | zero =>
    intro k cb hk
    rw [List.drop_of_length_le (by rw [List.length_finRange]; omega)]
    rfl
  | succ left ih =>
    intro k cb hk
    have hslot : k < hsbDevMaxLinkageNum := by omega
    have hhead : (List.finRange hsbDevMaxLinkageNum).drop k =
        ⟨k, hslot⟩ :: (List.finRange hsbDevMaxLinkageNum).drop (k + 1) := by
      rw [List.drop_eq_getElem_cons (by rw [List.length_finRange]; exact hslot),
        List.getElem_finRange]
      rfl
    have hlink : dev.link[k]? = some (dev.link.get ⟨k, hslot⟩) :=
      Vector.getElem?_eq_getElem hslot
    have hstatus : dev.linkStatus[k]? = some (dev.linkStatus.get ⟨k, hslot⟩) :=
      Vector.getElem?_eq_getElem hslot
    simp only [linkageLoop, hlink, hstatus]
    rw [ih (k + 1) _ (by omega), linkageBody_eq, ← pushOwnActs_append, hhead,
      List.filterMap_cons]
    cases linkageAct workMode evt (dev.link.get ⟨k, hslot⟩) (dev.linkStatus.get ⟨k, hslot⟩) with
    | none => rfl
    | some body => rfl

/-- The walk queues the acts that the slots answer with. -/
theorem walkLinkages_eq (cb : HsbDeviceCb ρ) (devid : UInt32) (evt : HsbEvt) :
    walkLinkages cb devid evt = checkLinkage cb devid evt := by
  unfold walkLinkages checkLinkage
  cases findDev cb devid with
  | none => rfl
  | some dev =>
    simp only
    rw [linkageLoop_eq cb.workMode evt dev hsbDevMaxLinkageNum 0 cb rfl]
    rfl

/-- The slots that answer the event, in their order. -/
def answeringSlots (workMode : UInt32) (dev : HsbDev) (evt : HsbEvt) :
    List (Fin hsbDevMaxLinkageNum) :=
  (List.finRange hsbDevMaxLinkageNum).filter fun i => decide (Answers workMode dev i evt)

theorem linkageAct_answers (workMode : UInt32) (dev : HsbDev) (evt : HsbEvt)
    (i : Fin hsbDevMaxLinkageNum)
    (hmode : checkBit dev.workMode.toNat workMode.toNat = true) :
    linkageAct workMode evt (dev.link.get i) (dev.linkStatus.get i) =
      if Answers workMode dev i evt then some (linkBody dev i) else none := by
  by_cases h : Answers workMode dev i evt
  · rw [if_pos h, linkageAct_eq_some_iff]
    exact ⟨h.active, h.linkMode, ⟨h.evtId, h.evtParam1, h.evtParam2⟩, rfl⟩
  · rw [if_neg h]
    apply Option.eq_none_iff_forall_ne_some.mpr
    intro body hbody
    obtain ⟨hactive, hlink, ⟨hid, hparam1, hparam2⟩, -⟩ :=
      (linkageAct_eq_some_iff _ _ _ _ _).mp hbody
    exact h ⟨hactive, hid, hparam1, hparam2, hmode, hlink⟩

theorem linkageActs_answering (workMode : UInt32) (dev : HsbDev) (evt : HsbEvt)
    (hmode : checkBit dev.workMode.toNat workMode.toNat = true) :
    linkageActs workMode evt dev = (answeringSlots workMode dev evt).map (linkBody dev) := by
  rw [answeringSlots, ← List.filterMap_eq_map', List.filterMap_filter]
  apply List.filterMap_congr
  intro i _
  have hact := linkageAct_answers workMode dev evt i hmode
  simp only [decide_eq_true_eq]
  exact hact

/-- Without the box mode in the mask of the device no slot answers. -/
theorem answeringSlots_of_mode (workMode : UInt32) (dev : HsbDev) (evt : HsbEvt)
    (hmode : checkBit dev.workMode.toNat workMode.toNat = false) :
    answeringSlots workMode dev evt = [] := by
  apply List.filter_eq_nil_iff.mpr
  intro i _ hanswers
  have hdev := (of_decide_eq_true hanswers).devMode
  rw [hmode] at hdev
  contradiction

/-- A sensor with an action in slot 1 and a status in slot 3 for the same event; slot 2 is
written but not active. -/
def sensorDev : HsbDev where
  id := 1
  info := {}
  link := (((Vector.replicate 8 {}).set 1
    { id := 1, workMode := 7, flag := 1, evtId := 2, evtParam1 := 1, actDevid := 5,
      actId := 9 }).set 2
    { id := 2, workMode := 7, flag := 1, evtId := 2, evtParam1 := 1, actDevid := 5 }).set 3
    { id := 3, workMode := 7, evtId := 2, evtParam1 := 1, actDevid := 6, actId := 1,
      actParam1 := 1 }
  linkStatus := ((Vector.replicate 8 {}).set 1 ⟨true⟩).set 3 ⟨true⟩
  driver := ⟨2⟩
  op := none

end HomeSecurityBox.LinkageDispatch
