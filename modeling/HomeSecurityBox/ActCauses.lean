import HomeSecurityBox.Base.Flow
import HomeSecurityBox.LinkageDispatch
import HomeSecurityBox.OneReply

/-!
Why the worker does what it does. Every act in its queue was asked for by a client, or is
the answer of a linkage to an event, or comes from a timer or delay of a tick; the worker
carries the acts out in the order of their causes, each once.
-/

namespace HomeSecurityBox.ActCauses

open ByteMemory Protocol DeviceData Device DeviceEvents DevAct Registry TcpPacket TimerTick Box
  OfflineLinkage LinkageDispatch Transitions

variable {ρ : Type}

/-- What the linkages of the device answer its event with, in slot order. -/
def linked (cb : HsbDeviceCb ρ) (evt : HsbEvt) : List HsbActBody :=
  (findDev cb evt.devid).elim [] fun dev =>
    (answeringSlots cb.workMode dev evt).map (linkBody dev)

def updatedEvt (devid : UInt32) (type : HsbDevUpdatedType) : HsbEvt where
  devid := devid
  id := HsbEvtType.code .devUpdated
  param1 := type.code
  param2 := 0

/-- The event of a new work mode is one of the box itself, whose id is 0. -/
def modeEvt (mode : UInt32) : HsbEvt where
  devid := 0
  id := HsbEvtType.code .modeChanged
  param1 := UInt16.ofNat mode.toNat
  param2 := 0

/-- The new mode is in force when its event is raised. -/
def modeLinked (cb : HsbDeviceCb ρ) (mode : UInt32) : List HsbActBody :=
  if hsbWorkModeValid mode then linked { cb with workMode := mode } (modeEvt mode) else []

/-- A device that was offline comes back with its linkages; a new one has none. -/
def onlineLinked (cb : HsbDeviceCb ρ) (drvid : UInt32) (info : HsbDevInfo)
    (op : Option HsbDevOp) : List HsbActBody :=
  (devOnline cb drvid info op).elim [] fun done =>
    linked done.cb (updatedEvt done.devid
      (if (cb.offq.find? (sameDevice drvid info)).isSome then .online else .newAdd))

theorem onePair_lt : 0 < 8 := by decide

/-- A status of the box itself with the work mode as its first pair. -/
def IsMode (status : HsbStatus) : Prop :=
  status.devid = 0 ∧ status.id.get ⟨0, onePair_lt⟩ = hsbStatusTypeWorkMode

instance (status : HsbStatus) : Decidable (IsMode status) :=
  inferInstanceAs (Decidable
    (status.devid = 0 ∧ status.id.get ⟨0, onePair_lt⟩ = hsbStatusTypeWorkMode))

/-- The work mode is the only status that the worker sets itself. -/
def bodyLinked (cb : HsbDeviceCb ρ) : HsbActBody → List HsbActBody
  | .probe _ | .getStatus _ | .doAction _ => []
  | .setStatus status =>
      if IsMode status then
        modeLinked cb (UInt32.ofNat (status.val.get ⟨0, onePair_lt⟩).toNat)
      else []

/-- No client waits for an act of the box. -/
def own (bodies : List HsbActBody) : List (HsbAct ρ) := bodies.map fun body => ⟨body, none⟩

/-- The timers and delays of the online devices that are due, in the order of the check. -/
def due (cb : HsbDeviceCb ρ) (now : ℕ) : List HsbActBody :=
  ((checkTimerAndDelay cb now).devs.map DevTick.fired).flatten.map Prod.snd

/-- The acts that a step is the cause of. -/
def caused (s : BoxState ρ) : BoxStep ρ → List (HsbAct ρ)
  | .online drvid info op => own (onlineLinked s.cb drvid info op)
  | .offline devid =>
      if s.cb.queue.any (fun dev => dev.id == devid) then
        own (linked (without s.cb devid) (offlineEvt devid))
      else []
  | .event devid type param1 param2 =>
      own (linked s.cb { devid := devid, id := type.code, param1 := param1, param2 := param2 })
  | .mode mode => own (modeLinked s.cb mode)
  | .packet buf len reply =>
      if checkTcpPktValid buf len = 0 then dispatchActs buf len reply (get16 buf 0) else []
  | .act _ => own (s.cb.asyncQueue.head?.elim [] fun act => bodyLinked s.cb act.body)
  | .tick now => own (due s.cb now)

/-- The act that the worker takes. -/
def carriedOut (s : BoxState ρ) : BoxStep ρ → List (HsbAct ρ)
  | .act _ => s.cb.asyncQueue.take 1
  | .online .. | .offline _ | .event .. | .mode _ | .packet .. | .tick _ => []

theorem raisedActs_eq_linked (cb : HsbDeviceCb ρ) (evt : HsbEvt) :
    raisedActs cb evt.devid evt = linked cb evt := by
  unfold raisedActs linked
  cases findDev cb evt.devid with
  | none => rfl
  | some dev =>
    simp only [Option.elim_some]
    cases hmode : checkBit dev.workMode.toNat cb.workMode.toNat with
    | false =>
      rw [answeringSlots_of_mode cb.workMode dev evt hmode]
      rfl
    | true => exact linkageActs_answering cb.workMode dev evt hmode

theorem devEvent_linked (cb : HsbDeviceCb ρ) (devid : UInt32) (type : HsbEvtType)
    (param1 : UInt16) (param2 : UInt32) :
    (devEvent cb devid type param1 param2).1 =
      { cb with
        asyncQueue := cb.asyncQueue ++
          own (linked cb
            { devid := devid, id := type.code, param1 := param1, param2 := param2 }) } := by
  rw [devEvent_eq, ← raisedActs_eq_linked]
  rfl

theorem setBoxWorkMode_linked (cb : HsbDeviceCb ρ) (mode : UInt32) :
    (setBoxWorkMode cb mode).2.1.asyncQueue = cb.asyncQueue ++ own (modeLinked cb mode) := by
  unfold setBoxWorkMode modeLinked
  cases hvalid : hsbWorkModeValid mode with
  | false => exact (List.append_nil _).symm
  | true =>
    simp only [Bool.not_true, Bool.false_eq_true, if_false, if_true, devModeChanged,
      devEvent_linked]
    rfl

theorem devOnline_linked {cb : HsbDeviceCb ρ} {drvid : UInt32} {info : HsbDevInfo}
    {op : Option HsbDevOp} {done : Onlined ρ} (h : devOnline cb drvid info op = some done) :
    done.cb.asyncQueue = cb.asyncQueue ++ own (onlineLinked cb drvid info op) := by
  have hfind : cb.offq.find? (sameDevice drvid info) =
      cb.offq[cb.offq.findIdx (sameDevice drvid info)]? := List.find?_eq_getElem?_findIdx
  unfold onlineLinked
  rw [h, Option.elim_some, hfind]
  simp only [devOnline] at h
  cases hdev : cb.offq[cb.offq.findIdx (sameDevice drvid info)]? with
  | none =>
    rw [hdev] at h
    obtain ⟨drv, -, rfl⟩ := Option.map_eq_some_iff.mp h
    simp only [devUpdated, devEvent_linked]
    rfl
  | some dev =>
    rw [hdev] at h
    cases Option.some.inj h
    simp only [devUpdated, devEvent_linked]
    rfl

theorem devOffline_linked (cb : HsbDeviceCb ρ) (devid : UInt32) :
    (devOffline cb devid).2.1.asyncQueue = cb.asyncQueue ++
      if cb.queue.any (fun dev => dev.id == devid) then
        own (linked (without cb devid) (offlineEvt devid))
      else [] := by
  by_cases honline : ∃ dev ∈ cb.queue, dev.id = devid
  · obtain ⟨dev, hdev, rfl⟩ := honline
    have hany : cb.queue.any (fun d => d.id == dev.id) = true :=
      List.any_eq_true.mpr ⟨dev, hdev, beq_self_eq_true dev.id⟩
    rw [devOffline_asyncQueue cb hdev, if_pos hany, ← raisedActs_eq_linked]
    rfl
  · have hany : cb.queue.any (fun d => d.id == devid) = false := by
      apply List.any_eq_false.mpr
      intro dev hdev hid
      exact honline ⟨dev, hdev, eq_of_beq hid⟩
    rcases devOffline_cases cb devid with ⟨-, hnone⟩ | ⟨i, dev, -, hdev, hid, -, -⟩
    · rw [hnone, hany]
      exact (List.append_nil _).symm
    · exact absurd ⟨dev, List.mem_of_getElem? hdev, hid⟩ honline

theorem processDevAct_linked {cb : HsbDeviceCb ρ} {drivers : DriverCalls} {act : HsbAct ρ}
    {done : Processed ρ} (h : processDevAct cb drivers act = some done) :
    done.cb.asyncQueue = cb.asyncQueue ++ own (bodyLinked cb act.body) := by
  unfold processDevAct at h
  cases hbody : act.body with
  | probe probe =>
    rw [hbody] at h
    cases Option.some.inj h
    exact (List.append_nil _).symm
  | getStatus status =>
    rw [hbody] at h
    obtain ⟨answer, -, rfl⟩ := Option.map_eq_some_iff.mp h
    exact (List.append_nil _).symm
  | doAction action =>
    rw [hbody] at h
    cases Option.some.inj h
    exact (List.append_nil _).symm
  | setStatus status =>
    rw [hbody] at h
    obtain ⟨set, hset, rfl⟩ := Option.map_eq_some_iff.mp h
    unfold setDevStatus at hset
    simp only [bodyLinked]
    split at hset
    · rename_i hmode
      have hmode' : IsMode status := hmode
      cases Option.some.inj hset
      rw [if_pos hmode']
      exact setBoxWorkMode_linked cb _
    · rename_i hmode
      have hother : ¬IsMode status := hmode
      have hkept : set.2.1 = cb := by
        split at hset
        · cases Option.some.inj hset
          rfl
        · split at hset
          · cases Option.some.inj hset
            rfl
          · obtain ⟨ret, -, rfl⟩ := Option.map_eq_some_iff.mp hset
            rfl
      rw [if_neg hother, hkept]
      exact (List.append_nil _).symm

theorem bodyLinked_queue (cb : HsbDeviceCb ρ) (acts : List (HsbAct ρ)) (body : HsbActBody) :
    bodyLinked { cb with asyncQueue := acts } body = bodyLinked cb body := by
  cases body <;> rfl

/-- A step takes its act from the front of the queue and adds its own behind. -/
theorem acts_flow : Flows (boxStep (ρ := ρ)) (fun _ _ => True) (fun _ => True)
    (fun s => s.cb.asyncQueue) carriedOut caused := by
  intro s step s' _ _ h
  cases step with
  | online drvid info op =>
    obtain ⟨done, hdone, rfl⟩ := Option.map_eq_some_iff.mp h
    exact devOnline_linked hdone
  | offline devid =>
    cases Option.some.inj h
    exact devOffline_linked s.cb devid
  | event devid type param1 param2 =>
    cases Option.some.inj h
    exact congrArg HsbDeviceCb.asyncQueue (devEvent_linked s.cb devid type param1 param2)
  | mode mode =>
    cases Option.some.inj h
    exact setBoxWorkMode_linked s.cb mode
  | packet buf len reply =>
    cases Option.some.inj h
    exact OneReply.dealTcpPacket_queue s.cb buf len reply
  | act drivers =>
    simp only [boxStep] at h
    cases hqueue : s.cb.asyncQueue with
    | nil =>
      rw [hqueue] at h
      contradiction
    | cons act rest =>
      rw [hqueue] at h
      obtain ⟨done, hdone, rfl⟩ := Option.map_eq_some_iff.mp h
      have hlinked := processDevAct_linked hdone
      rw [bodyLinked_queue] at hlinked
      simp only [carriedOut, caused, hqueue, List.take_succ_cons, List.take_zero, hlinked,
        List.head?_cons, Option.elim_some, List.cons_append, List.nil_append]
  | tick now =>
    simp only [boxStep] at h
    split at h
    · cases Option.some.inj h
      simp only [checkTimerAndDelay, pushOwnActs_eq]
      rfl
    · contradiction

/-- For every run of the box: the acts that the worker has carried out, in their order, and
those that still wait are those that waited at first and those that the steps have caused,
in the order of the steps. None is lost, made up, carried out twice or overtaken. -/
theorem acts_follow_causes (steps : List (BoxStep ρ)) (s t : BoxState ρ)
    (hrun : run boxStep s steps = some t) :
    collect boxStep carriedOut s steps ++ t.cb.asyncQueue =
      s.cb.asyncQueue ++ collect boxStep caused s steps :=
  run_flows (preserves_true boxStep fun _ _ => True) acts_flow steps s t trivial
    (guarded_true boxStep s steps) hrun

/-- Device 1 is linked to its own sensor, which triggers when a client has asked for the
status of the device and the worker has not. -/
def sensorBeforeWorker : List (BoxStep Unit) :=
  [.online 1 { cls := 1 } (some .virtualSwitchOp), .packet (setLinkagePacket 2 1) 32 (),
    .packet (load [0x21, 0x88, 8, 0, 1, 0, 0, 0] zeros) 8 (), .event 1 .sensorTriggered 1 0,
    .act ⟨fun _ => 0, fun _ _ => some (0, {}), fun _ _ => some 0, fun _ _ => 0⟩]

theorem acts_follow_causes_sensor :
    ∃ t, run boxStep (BoxState.start [⟨1⟩]) sensorBeforeWorker = some t ∧
      t.cb.asyncQueue.map HsbAct.body = [.doAction { devid := 2, id := 5, param1 := 1 }] ∧
      collect boxStep carriedOut (BoxState.start [⟨1⟩]) sensorBeforeWorker ++ t.cb.asyncQueue =
        collect boxStep caused (BoxState.start [⟨1⟩]) sensorBeforeWorker := by
  have hlast : (run boxStep (BoxState.start [⟨1⟩]) sensorBeforeWorker).map (fun t =>
      t.cb.asyncQueue.map HsbAct.body) = some [.doAction { devid := 2, id := 5, param1 := 1 }] := by
    decide +kernel
  obtain ⟨t, hrun, hqueue⟩ := Option.map_eq_some_iff.mp hlast
  exact ⟨t, hrun, hqueue, acts_follow_causes sensorBeforeWorker _ t hrun⟩

end HomeSecurityBox.ActCauses
