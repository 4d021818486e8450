import HomeSecurityBox.Base.Keyed
import HomeSecurityBox.RegistryRuns

/-!
Linkages on the offline event. `dev_offline` moves the device to the offline queue
and raises the event afterwards, and `check_linkage` looks the device up among the
online ones: its linkages are out of reach, unless another online device bears
the same id.
-/

namespace HomeSecurityBox.OfflineLinkage

open ByteMemory Protocol DeviceData Device DeviceEvents Registry TcpPacket Box RegistryRuns
  Transitions

variable {ρ : Type}

def offlineEvt (devid : UInt32) : HsbEvt where
  devid := devid
  id := HsbEvtType.code .devUpdated
  param1 := HsbDevUpdatedType.code .offline
  param2 := 0

/-- A device answers an event: it and an active linkage of the event may act in the
work mode. -/
structure Answers (workMode : UInt32) (dev : HsbDev) (i : Fin hsbDevMaxLinkageNum)
    (evt : HsbEvt) : Prop where
  active : (dev.linkStatus.get i).active = true
  evtId : evt.id = (dev.link.get i).evtId
  evtParam1 : evt.param1 = (dev.link.get i).evtParam1
  evtParam2 : evt.param2 = (dev.link.get i).evtParam2
  devMode : checkBit dev.workMode.toNat workMode.toNat = true
  linkMode : checkBit (dev.link.get i).workMode.toNat workMode.toNat = true

def linkBody (dev : HsbDev) (i : Fin hsbDevMaxLinkageNum) : HsbActBody :=
  slotAct (dev.link.get i).actDevid (dev.link.get i).flag (dev.link.get i).actId
    (dev.link.get i).actParam1 (dev.link.get i).actParam2

/-- An act of the box itself is among those queued behind the old ones. -/
def Queues (cb cb' : HsbDeviceCb ρ) (body : HsbActBody) : Prop :=
  ∃ bodies : List HsbActBody, body ∈ bodies ∧
    cb'.asyncQueue = cb.asyncQueue ++ bodies.map fun body => (⟨body, none⟩ : HsbAct ρ)

/-- The online devices without the first one that bears the id. -/
def without (cb : HsbDeviceCb ρ) (devid : UInt32) : HsbDeviceCb ρ :=
  { cb with queue := cb.queue.eraseIdx (cb.queue.findIdx fun dev => dev.id == devid) }

/-- Behind the device that leaves, another one with its id answers with the act. -/
def Overlaid (cb : HsbDeviceCb ρ) (devid : UInt32) (body : HsbActBody) : Prop :=
  ∃ (other : HsbDev) (j : Fin hsbDevMaxLinkageNum), findDev (without cb devid) devid = some other ∧
    Answers cb.workMode other j (offlineEvt devid) ∧ body = linkBody other j

theorem linkageAct_eq_some_iff (workMode : UInt32) (evt : HsbEvt) (link : HsbLinkage)
    (status : HsbLinkageStatus) (body : HsbActBody) :
    linkageAct workMode evt link status = some body ↔
      status.active = true ∧ checkBit link.workMode.toNat workMode.toNat = true ∧
        (evt.id = link.evtId ∧ evt.param1 = link.evtParam1 ∧ evt.param2 = link.evtParam2) ∧
        body = slotAct link.actDevid link.flag link.actId link.actParam1 link.actParam2 := by
  unfold linkageAct
  by_cases hactive : status.active = true
  · by_cases hmode : checkBit link.workMode.toNat workMode.toNat = true
    · by_cases hmatch : evt.id = link.evtId ∧ evt.param1 = link.evtParam1 ∧
          evt.param2 = link.evtParam2
      · simp [hactive, hmode, hmatch, eq_comm]
      · have hdiffers : evt.id ≠ link.evtId ∨ evt.param1 ≠ link.evtParam1 ∨
            evt.param2 ≠ link.evtParam2 := by
          rw [← not_and_or, ← not_and_or]
          exact hmatch
        simp only [hactive, hmode, hdiffers, hmatch, Bool.not_true, Bool.false_eq_true, if_false,
          if_true, reduceCtorEq, true_and, false_and]
    · simp [hactive, hmode]
  · simp [hactive]

/-- The acts raised by an event are those of the answering linkages of the device
that is found under its id. -/
theorem mem_raisedActs_iff (cb : HsbDeviceCb ρ) (devid : UInt32) (evt : HsbEvt)
    (body : HsbActBody) :
    body ∈ raisedActs cb devid evt ↔
      ∃ (dev : HsbDev) (i : Fin hsbDevMaxLinkageNum), findDev cb devid = some dev ∧
        Answers cb.workMode dev i evt ∧ body = linkBody dev i := by
  unfold raisedActs
  cases hfind : findDev cb devid with
  | none => simp
  | some dev =>
    constructor
    · intro hmem
      by_cases hmode : checkBit dev.workMode.toNat cb.workMode.toNat = true
      · simp only [hmode, if_true, linkageActs, List.mem_filterMap] at hmem
        obtain ⟨i, -, hact⟩ := hmem
        obtain ⟨hactive, hlink, ⟨hid, hparam1, hparam2⟩, hbody⟩ :=
          (linkageAct_eq_some_iff _ _ _ _ _).mp hact
        exact ⟨dev, i, rfl, ⟨hactive, hid, hparam1, hparam2, hmode, hlink⟩, hbody⟩
      · simp only [hmode, Bool.false_eq_true, if_false, List.not_mem_nil] at hmem
    · rintro ⟨found, i, hfound, hanswers, hbody⟩
      obtain rfl : dev = found := Option.some.inj hfound
      simp only [hanswers.devMode, if_true, linkageActs, List.mem_filterMap]
      refine ⟨i, List.mem_finRange i, (linkageAct_eq_some_iff _ _ _ _ _).mpr ?_⟩
      exact ⟨hanswers.active, hanswers.linkMode,
        ⟨hanswers.evtId, hanswers.evtParam1, hanswers.evtParam2⟩, hbody⟩

/-- Going offline queues what the offline event raises without the device. -/
theorem devOffline_asyncQueue (cb : HsbDeviceCb ρ) {dev : HsbDev} (hdev : dev ∈ cb.queue) :
    (devOffline cb dev.id).2.1.asyncQueue = cb.asyncQueue ++
      (raisedActs (without cb dev.id) dev.id (offlineEvt dev.id)).map
        fun body => (⟨body, none⟩ : HsbAct ρ) := by
  have hidx : cb.queue.findIdx (fun d => d.id == dev.id) < cb.queue.length := by
    apply List.findIdx_lt_length_of_exists
    exact ⟨dev, hdev, beq_self_eq_true dev.id⟩
  simp only [devOffline, List.getElem?_eq_getElem hidx, devUpdated, devEvent_eq]
  rfl

theorem queues_iff_mem {cb cb' : HsbDeviceCb ρ} {bodies : List HsbActBody}
    (h : cb'.asyncQueue = cb.asyncQueue ++ bodies.map fun body => (⟨body, none⟩ : HsbAct ρ))
    (body : HsbActBody) : Queues cb cb' body ↔ body ∈ bodies := by
  constructor
  · rintro ⟨others, hmem, hothers⟩
    have hsame := List.append_cancel_left (hothers.symm.trans h)
    have hbody : (⟨body, none⟩ : HsbAct ρ) ∈
        bodies.map fun body => (⟨body, none⟩ : HsbAct ρ) := by
      rw [← hsame]
      exact List.mem_map_of_mem hmem
    obtain ⟨same, hin, heq⟩ := List.mem_map.mp hbody
    rw [← (HsbAct.mk.inj heq).1]
    exact hin
  · intro hmem
    exact ⟨bodies, hmem, h⟩

/-- With ids of their own no other device is found in place of the one that left. -/
theorem findDev_without (cb : HsbDeviceCb ρ) (hids : (cb.queue.map HsbDev.id).Nodup)
    (devid : UInt32) : findDev (without cb devid) devid = none := by
  apply List.find?_eq_none.mpr
  intro other hother hid
  have hmem : other ∈ cb.queue := List.mem_of_mem_eraseIdx hother
  have hidx : cb.queue.findIdx (fun d => d.id == devid) < cb.queue.length := by
    apply List.findIdx_lt_length_of_exists
    exact ⟨other, hmem, hid⟩
  have hfirst := List.getElem?_eq_getElem hidx
  have hnodup := ((Roster.perm_cons_eraseIdx hfirst).map HsbDev.id).nodup_iff.mp hids
  have hfirstId := List.findIdx_getElem (w := hidx)
  apply (List.nodup_cons.mp hnodup).1
  rw [(eq_of_beq hfirstId).trans (eq_of_beq hid).symm]
  exact List.mem_map_of_mem hother

/-- For every state that a run reaches and every linkage of an online device, going
offline queues its act if and only if another online device bears the same id and
answers the offline event with that act. While ids are not given twice nothing is
queued, though a linkage for any event raised on the online device is answered. -/
theorem offline_linkage_queued_iff (drivers : List HsbDevDrv) (steps : List (BoxStep ρ))
    (s : BoxState ρ) (hrun : run boxStep (BoxState.start drivers) steps = some s)
    (dev : HsbDev) (hdev : dev ∈ s.cb.queue) (i : Fin hsbDevMaxLinkageNum) :
    (Queues s.cb (devOffline s.cb dev.id).2.1 (linkBody dev i) ↔
        Overlaid s.cb dev.id (linkBody dev i)) ∧
      (Guarded boxStep Admitted (BoxState.start drivers) steps →
        (devOffline s.cb dev.id).2.1.asyncQueue = s.cb.asyncQueue ∧
        ∀ type param1 param2 j,
          Answers s.cb.workMode dev j
            { devid := dev.id, id := type.code, param1 := param1, param2 := param2 } →
          Queues s.cb (devEvent s.cb dev.id type param1 param2).1 (linkBody dev j)) := by
  have hoffline := devOffline_asyncQueue s.cb hdev
  refine ⟨?_, ?_⟩
  · rw [queues_iff_mem hoffline, mem_raisedActs_iff]
    rfl
  · intro hguard
    have hs := accounted_run steps _ s (accounted_start drivers) hguard hrun
    refine ⟨?_, ?_⟩
    · rw [hoffline, raisedActs, findDev_without s.cb hs.online_ids]
      exact List.append_nil _
    · intro type param1 param2 j hanswers
      refine (queues_iff_mem (congrArg HsbDeviceCb.asyncQueue (devEvent_eq _ _ _ _ _)) _).mpr ?_
      rw [mem_raisedActs_iff]
      exact ⟨dev, j, Keyed.find?_key hs.online_ids hdev, hanswers, rfl⟩

/-- SET_LINKAGE for device 1: an action of device 2 on the event `(id, param1, 0)`. -/
def setLinkagePacket (id param1 : UInt8) : Memory :=
  load [0x53, 0x88, 32, 0, 1, 0, 0, 0, 0, 0, 0xFF, 1, id, 0, param1, 0, 0, 0, 0, 0, 2, 0, 0, 0,
    5, 0, 1, 0, 0, 0, 0, 0] zeros

/-- Device 1 comes online and is linked to its own offline event. -/
def linkedOffline : List (BoxStep Unit) :=
  [.online 1 { cls := 1 } (some .virtualSwitchOp), .packet (setLinkagePacket 1 0) 32 ()]

instance (workMode : UInt32) (dev : HsbDev) (i : Fin hsbDevMaxLinkageNum) (evt : HsbEvt) :
    Decidable (Answers workMode dev i evt) :=
  decidable_of_iff
    ((dev.linkStatus.get i).active = true ∧ evt.id = (dev.link.get i).evtId ∧
      evt.param1 = (dev.link.get i).evtParam1 ∧ evt.param2 = (dev.link.get i).evtParam2 ∧
      checkBit dev.workMode.toNat workMode.toNat = true ∧
      checkBit (dev.link.get i).workMode.toNat workMode.toNat = true)
    ⟨fun ⟨h1, h2, h3, h4, h5, h6⟩ => ⟨h1, h2, h3, h4, h5, h6⟩,
      fun h => ⟨h.active, h.evtId, h.evtParam1, h.evtParam2, h.devMode, h.linkMode⟩⟩

theorem linkedOffline_answers :
    ∃ s dev, run boxStep (BoxState.start [⟨1⟩]) linkedOffline = some s ∧ dev ∈ s.cb.queue ∧
      dev.id = 1 ∧ Answers s.cb.workMode dev 0 (offlineEvt dev.id) ∧
      s.cb.asyncQueue = [] := by
  have hfound : (run boxStep (BoxState.start [⟨1⟩]) linkedOffline).bind (fun s =>
      (s.cb.queue.find? fun dev => decide (dev.id = 1 ∧
        Answers s.cb.workMode dev 0 (offlineEvt dev.id))).map fun _ => s.cb.asyncQueue) =
      some [] := by decide +kernel
  obtain ⟨s, hrun, hfound⟩ := Option.bind_eq_some_iff.mp hfound
  obtain ⟨dev, hfind, hqueue⟩ := Option.map_eq_some_iff.mp hfound
  have hdev := List.find?_some hfind
  obtain ⟨hid, hanswers⟩ := of_decide_eq_true hdev
  exact ⟨s, dev, hrun, List.mem_of_find?_eq_some hfind, hid, hanswers, hqueue⟩

theorem offline_linkage_queued_iff_linked :
    ∃ s dev, run boxStep (BoxState.start [⟨1⟩]) linkedOffline = some s ∧ dev ∈ s.cb.queue ∧
      Answers s.cb.workMode dev 0 (offlineEvt dev.id) ∧
      (devOffline s.cb dev.id).2.1.asyncQueue = s.cb.asyncQueue := by
  obtain ⟨s, dev, hrun, hdev, -, hanswers, -⟩ := linkedOffline_answers
  have hguard : Guarded boxStep Admitted (BoxState.start [⟨1⟩]) linkedOffline := by
    decide +kernel
  exact ⟨s, dev, hrun, hdev, hanswers,
    ((offline_linkage_queued_iff [⟨1⟩] linkedOffline s hrun dev hdev 0).2 hguard).1⟩

/-- The device goes offline and its linkage queues nothing; the same linkage for the
event of its sensor is queued when the sensor triggers. -/
theorem offline_linkage_not_queued :
    (∃ s dev, run boxStep (BoxState.start [⟨1⟩]) linkedOffline = some s ∧ dev ∈ s.cb.queue ∧
      Answers s.cb.workMode dev 0 (offlineEvt dev.id)) ∧
      (run boxStep (BoxState.start [⟨1⟩]) (linkedOffline ++ [.offline 1])).map
        (fun s => s.cb.asyncQueue.map HsbAct.body) = some [] ∧
      (run boxStep (BoxState.start [⟨1⟩])
        [.online 1 { cls := 1 } (some .virtualSwitchOp), .packet (setLinkagePacket 2 1) 32 (),
          .event 1 .sensorTriggered 1 0]).map (fun s => s.cb.asyncQueue.map HsbAct.body) =
        some [.doAction { devid := 2, id := 5, param1 := 1, param2 := 0 }] := by
  obtain ⟨s, dev, hrun, hdev, -, hanswers, -⟩ := linkedOffline_answers
  exact ⟨⟨s, dev, hrun, hdev, hanswers⟩, by decide +kernel, by decide +kernel⟩

end HomeSecurityBox.OfflineLinkage
