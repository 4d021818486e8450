import HomeSecurityBox.Base.Transitions
import HomeSecurityBox.DevAct
import HomeSecurityBox.Registry
import HomeSecurityBox.SlotTables
import HomeSecurityBox.TcpPacket
import HomeSecurityBox.TimerTick

/-!
The box as one state machine over its device control block: devices come and
go, raise events and are configured by packets, the worker processes its acts
and the timer thread ticks. What a step can do is said once, as its effect;
the invariants of the box are case analyses over it.
-/

namespace HomeSecurityBox.Box

open ByteMemory Protocol DeviceData Device DeviceEvents DevAct Registry TcpPacket TimerTick

variable {ρ : Type}

/-- The control block, the local time of the last tick and, newest first, the ids
that `dev_online` has given out. -/
structure BoxState (ρ : Type) where
  cb : HsbDeviceCb ρ
  clock : ℕ := 0
  assigned : List (DevKey × UInt32) := []

/-- Drivers are registered before any device is. -/
def BoxState.start (drivers : List HsbDevDrv) : BoxState ρ := { cb := { driverq := drivers } }

inductive BoxStep (ρ : Type)
  | online (drvid : UInt32) (info : HsbDevInfo) (op : Option HsbDevOp)
  | offline (devid : UInt32)
  | event (devid : UInt32) (type : HsbEvtType) (param1 : UInt16) (param2 : UInt32)
  | mode (mode : UInt32)
  | packet (buf : Memory) (len : ℕ) (reply : ρ)
  | act (drivers : DriverCalls)
  | tick (now : ℕ)

/-- Local time does not go backwards between ticks. -/
def boxStep (s : BoxState ρ) : BoxStep ρ → Option (BoxState ρ)
  | .online drvid info op =>
      (devOnline s.cb drvid info op).map fun done =>
        { s with
          cb := done.cb
          assigned := ((drvid, info.mac), done.devid) :: s.assigned }
  | .offline devid => some { s with cb := (devOffline s.cb devid).2.1 }
  | .event devid type param1 param2 =>
      some { s with cb := (devEvent s.cb devid type param1 param2).1 }
  | .mode mode => some { s with cb := (setBoxWorkMode s.cb mode).2.1 }
  | .packet buf len reply => some { s with cb := (dealTcpPacket s.cb buf len reply).cb }
  | .act drivers =>
      match s.cb.asyncQueue with
      | [] => none
      | act :: rest =>
          (processDevAct { s.cb with asyncQueue := rest } drivers act).map fun done =>
            { s with cb := done.cb }
  | .tick now =>
      if s.clock ≤ now then some { s with cb := (checkTimerAndDelay s.cb now).cb, clock := now }
      else none

/-- Everything but the work mode and the acts is as before. -/
structure SameDevices (cb cb' : HsbDeviceCb ρ) : Prop where
  queue : cb'.queue = cb.queue
  offq : cb'.offq = cb.offq
  driverq : cb'.driverq = cb.driverq
  devId : cb'.devId = cb.devId
  secToday : cb'.secToday = cb.secToday

theorem SameDevices.refl (cb : HsbDeviceCb ρ) : SameDevices cb cb := ⟨rfl, rfl, rfl, rfl, rfl⟩

theorem devEvent_sameDevices (cb : HsbDeviceCb ρ) (devid : UInt32) (type : HsbEvtType)
    (param1 : UInt16) (param2 : UInt32) :
    SameDevices cb (devEvent cb devid type param1 param2).1 := by
  rw [devEvent_eq]
  exact ⟨rfl, rfl, rfl, rfl, rfl⟩

theorem setBoxWorkMode_sameDevices (cb : HsbDeviceCb ρ) (mode : UInt32) :
    SameDevices cb (setBoxWorkMode cb mode).2.1 := by
  unfold setBoxWorkMode
  split
  · exact SameDevices.refl cb
  · simp only [devModeChanged, devEvent_eq]
    exact ⟨rfl, rfl, rfl, rfl, rfl⟩

theorem setDevStatus_sameDevices (cb : HsbDeviceCb ρ) (drivers : DriverCalls)
    (status : HsbStatus) (done : ℤ × HsbDeviceCb ρ × List (HsbResp ρ))
    (h : setDevStatus cb drivers status = some done) : SameDevices cb done.2.1 := by
  unfold setDevStatus at h
  split at h
  · rw [← Option.some.inj h]
    exact setBoxWorkMode_sameDevices cb _
  · split at h
    · rw [← Option.some.inj h]
      exact SameDevices.refl cb
    · split at h
      · rw [← Option.some.inj h]
        exact SameDevices.refl cb
      · obtain ⟨ret, -, hdone⟩ := Option.map_eq_some_iff.mp h
        rw [← hdone]
        exact SameDevices.refl cb

theorem processDevAct_sameDevices (cb : HsbDeviceCb ρ) (drivers : DriverCalls) (act : HsbAct ρ)
    (done : Processed ρ) (h : processDevAct cb drivers act = some done) :
    SameDevices cb done.cb := by
  unfold processDevAct at h
  split at h
  · rw [← Option.some.inj h]
    exact SameDevices.refl cb
  · obtain ⟨done', hset, hdone⟩ := Option.map_eq_some_iff.mp h
    rw [← hdone]
    exact setDevStatus_sameDevices cb drivers _ done' hset
  · obtain ⟨answer, -, hdone⟩ := Option.map_eq_some_iff.mp h
    rw [← hdone]
    exact SameDevices.refl cb
  · rw [← Option.some.inj h]
    exact SameDevices.refl cb

/-- What an accepted packet can do to the device whose id it carries. -/
inductive PacketWrite (buf : Memory) (dev : HsbDev) : (HsbDev → HsbDev) → Prop
  | setTimer (hcmd : HsbCmd.ofCode (get16 buf 0) = some .setTimer)
      (hslot : (readTimer buf).id.toNat < timerTable.size) :
      PacketWrite buf dev (timerTable.put _ hslot (readTimer buf) timerTable.arm)
  | delTimer (hcmd : HsbCmd.ofCode (get16 buf 0) = some .delTimer)
      (hslot : (get16 buf 8).toNat < timerTable.size)
      (hactive : timerTable.active (timerTable.stats dev)[(get16 buf 8).toNat] = true) :
      PacketWrite buf dev (timerTable.put _ hslot timerTable.blank timerTable.disarm)
  | setDelay (hslot : (readDelay buf).id.toNat < delayTable.size) :
      PacketWrite buf dev (delayTable.put _ hslot (readDelay buf) delayTable.arm)
  | delDelay (hslot : (get16 buf 8).toNat < delayTable.size) :
      PacketWrite buf dev (delayTable.put _ hslot delayTable.blank delayTable.disarm)
  | setLinkage (hslot : (readLinkage buf).id.toNat < linkageTable.size) :
      PacketWrite buf dev (linkageTable.put _ hslot (readLinkage buf) linkageTable.arm)
  | delLinkage (hslot : (get16 buf 8).toNat < linkageTable.size) :
      PacketWrite buf dev (linkageTable.put _ hslot linkageTable.blank linkageTable.disarm)

/-- The device that a packet writes to and the control block behind it. -/
def Written (cb : HsbDeviceCb ρ) (buf : Memory) (cb' : HsbDeviceCb ρ) : Prop :=
  ∃ (dev : HsbDev) (f : HsbDev → HsbDev),
    findDev cb (get32 buf 4) = some dev ∧ PacketWrite buf dev f ∧
      cb' = HsbDeviceCb.updateDev cb (get32 buf 4) f

theorem confirm_written {cb : HsbDeviceCb ρ} {buf : Memory}
    {stored : Except ℤ (HsbDeviceCb ρ)} (h : ∀ cb', stored = .ok cb' → Written cb buf cb') :
    SameDevices cb (confirm cb stored).cb ∨ Written cb buf (confirm cb stored).cb := by
  unfold confirm
  split
  · exact Or.inr (h _ rfl)
  · exact Or.inl (SameDevices.refl cb)

theorem dispatchCmd_written (cb : HsbDeviceCb ρ) (buf : Memory) (len : ℕ) (reply : ρ) :
    SameDevices cb (dispatchCmd cb buf len reply (get16 buf 0)).cb ∨
      Written cb buf (dispatchCmd cb buf len reply (get16 buf 0)).cb := by
  have hpushed : ∀ act, SameDevices cb (pushAct cb act) := fun act => ⟨rfl, rfl, rfl, rfl, rfl⟩
  unfold dispatchCmd
  cases hcmd : HsbCmd.ofCode (get16 buf 0) with
  | none => exact Or.inl (SameDevices.refl cb)
  | some c =>
    cases c <;> simp only [answer_cb]
    case getStatus | setStatus | probeDev => exact Or.inl (hpushed _)
    case doAction =>
      cases readAction buf with
      | error code => exact Or.inl (SameDevices.refl cb)
      | ok act => exact Or.inl (hpushed _)
    case setTimer =>
      apply confirm_written
      intro cb' h
      obtain ⟨dev, hslot, hfind, hcb⟩ := SlotTable.set_eq_ok timerTable cb cb' _ _ h
      exact ⟨dev, _, hfind, .setTimer hcmd hslot, hcb⟩
    case delTimer =>
      apply confirm_written
      intro cb' h
      obtain ⟨dev, hslot, hfind, hactive, hcb⟩ := SlotTable.del_eq_ok timerTable cb cb' _ _ h
      exact ⟨dev, _, hfind, .delTimer hcmd hslot hactive, hcb⟩
    case setDelay =>
      apply confirm_written
      intro cb' h
      obtain ⟨dev, hslot, hfind, hcb⟩ := SlotTable.set_eq_ok delayTable cb cb' _ _ h
      exact ⟨dev, _, hfind, .setDelay hslot, hcb⟩
    case delDelay =>
      apply confirm_written
      intro cb' h
      obtain ⟨dev, hslot, hfind, -, hcb⟩ := SlotTable.del_eq_ok delayTable cb cb' _ _ h
      exact ⟨dev, _, hfind, .delDelay hslot, hcb⟩
    case setLinkage =>
      apply confirm_written
      intro cb' h
      obtain ⟨dev, hslot, hfind, hcb⟩ := SlotTable.set_eq_ok linkageTable cb cb' _ _ h
      exact ⟨dev, _, hfind, .setLinkage hslot, hcb⟩
    case delLinkage =>
      apply confirm_written
      intro cb' h
      obtain ⟨dev, hslot, hfind, -, hcb⟩ := SlotTable.del_eq_ok linkageTable cb cb' _ _ h
      exact ⟨dev, _, hfind, .delLinkage hslot, hcb⟩
    all_goals exact Or.inl (SameDevices.refl cb)

theorem dealTcpPacket_written (cb : HsbDeviceCb ρ) (buf : Memory) (len : ℕ) (reply : ρ) :
    SameDevices cb (dealTcpPacket cb buf len reply).cb ∨
      checkTcpPktValid buf len = 0 ∧ Written cb buf (dealTcpPacket cb buf len reply).cb := by
  unfold dealTcpPacket
  by_cases haccept : checkTcpPktValid buf len = 0
  · rw [if_neg (not_not.mpr haccept)]
    rcases dispatchCmd_written cb buf len reply with hsame | hwritten
    · exact Or.inl hsame
    · exact Or.inr ⟨haccept, hwritten⟩
  · rw [if_pos haccept]
    exact Or.inl (SameDevices.refl cb)

/-- What a step can do to the box. -/
inductive Effect (s : BoxState ρ) : BoxStep ρ → BoxState ρ → Prop
  | quiet {step : BoxStep ρ} {cb : HsbDeviceCb ρ} (honline : ∀ drvid info op,
      step ≠ .online drvid info op) (htick : ∀ now, step ≠ .tick now)
      (hsame : SameDevices s.cb cb) : Effect s step { s with cb := cb }
  | written {buf : Memory} {len : ℕ} {reply : ρ} {cb : HsbDeviceCb ρ}
      (haccept : checkTcpPktValid buf len = 0) (hwritten : Written s.cb buf cb) :
      Effect s (.packet buf len reply) { s with cb := cb }
  | created {drvid : UInt32} {info : HsbDevInfo} {op : Option HsbDevOp} {drv : HsbDevDrv}
      {acts : List (HsbAct ρ)}
      (hnew : ∀ dev ∈ s.cb.offq, devKey dev ≠ (drvid, info.mac))
      (hdrv : findDrv s.cb drvid = some drv) :
      Effect s (.online drvid info op)
        { s with
          cb := { s.cb with
            queue := s.cb.queue ++ [{ id := s.cb.devId, info := info, driver := drv, op := op }]
            devId := s.cb.devId + 1
            asyncQueue := acts }
          assigned := ((drvid, info.mac), s.cb.devId) :: s.assigned }
  | returned {drvid : UInt32} {info : HsbDevInfo} {op : Option HsbDevOp} {i : ℕ} {dev : HsbDev}
      {acts : List (HsbAct ρ)} (hdev : s.cb.offq[i]? = some dev)
      (hkey : devKey dev = (drvid, info.mac)) :
      Effect s (.online drvid info op)
        { s with
          cb := { s.cb with
            queue := s.cb.queue ++ [dev]
            offq := s.cb.offq.eraseIdx i
            asyncQueue := acts }
          assigned := (devKey dev, dev.id) :: s.assigned }
  | left {i : ℕ} {dev : HsbDev} {acts : List (HsbAct ρ)} (hdev : s.cb.queue[i]? = some dev) :
      Effect s (.offline dev.id)
        { s with
          cb := { s.cb with
            queue := s.cb.queue.eraseIdx i
            offq := s.cb.offq ++ [dev]
            asyncQueue := acts } }
  | ticked {now : ℕ} (hclock : s.clock ≤ now) :
      Effect s (.tick now) { s with cb := (checkTimerAndDelay s.cb now).cb, clock := now }

theorem boxStep_effect {s s' : BoxState ρ} {step : BoxStep ρ} (h : boxStep s step = some s') :
    Effect s step s' := by
  cases step with
  | online drvid info op =>
    obtain ⟨done, hdone, rfl⟩ := Option.map_eq_some_iff.mp h
    obtain ⟨i, dev, acts, hdev, hkey, hid, hcb⟩ | ⟨hnew, drv, dev, acts, hdrv, rfl, hid, hcb⟩ :=
      devOnline_eq_some hdone
    · rw [hid, hcb, ← hkey]
      exact .returned hdev hkey
    · rw [hid, hcb]
      exact .created hnew hdrv
  | offline devid =>
    cases Option.some.inj h
    rcases devOffline_cases s.cb devid with ⟨-, hnone⟩ | ⟨i, dev, acts, hdev, rfl, -, hcb⟩
    · rw [hnone]
      exact .quiet nofun nofun (SameDevices.refl s.cb)
    · rw [hcb]
      exact .left hdev
  | event devid type param1 param2 =>
    cases Option.some.inj h
    exact .quiet nofun nofun (devEvent_sameDevices s.cb devid type param1 param2)
  | mode mode =>
    cases Option.some.inj h
    exact .quiet nofun nofun (setBoxWorkMode_sameDevices s.cb mode)
  | packet buf len reply =>
    cases Option.some.inj h
    rcases dealTcpPacket_written s.cb buf len reply with hsame | ⟨haccept, hwritten⟩
    · exact .quiet nofun nofun hsame
    · exact .written haccept hwritten
  | act drivers =>
    simp only [boxStep] at h
    cases hqueue : s.cb.asyncQueue with
    | nil =>
      rw [hqueue] at h
      contradiction
    | cons act rest =>
      rw [hqueue] at h
      obtain ⟨done, hdone, rfl⟩ := Option.map_eq_some_iff.mp h
      obtain ⟨hq, hoffq, hdriverq, hdevId, hsec⟩ :=
        processDevAct_sameDevices _ drivers act done hdone
      exact .quiet nofun nofun ⟨hq, hoffq, hdriverq, hdevId, hsec⟩
  | tick now =>
    simp only [boxStep] at h
    split at h
    · cases Option.some.inj h
      rename_i hclock
      exact .ticked hclock
    · contradiction

/-- What a new device has and what the packets and the tick of a step keep holds of
every device behind the step, online or offline. -/
theorem effect_forall_members {P : HsbDev → Prop} {s s' : BoxState ρ} {step : BoxStep ρ}
    (h : Effect s step s')
    (hnew : ∀ id info drv op, P { id := id, info := info, driver := drv, op := op })
    (hwrite : ∀ buf len reply found f, step = .packet buf len reply →
      checkTcpPktValid buf len = 0 → findDev s.cb (get32 buf 4) = some found →
      PacketWrite buf found f → P found → P (f found))
    (htick : ∀ now last dev, step = .tick now → s.clock ≤ now →
      (last = s.cb.secToday ∨ last = now % secondsPerDay) → P dev →
      P (checkDevTimerAndDelay s.cb.workMode now last dev).dev)
    (hs : ∀ dev ∈ (roster s.cb).members, P dev) : ∀ dev ∈ (roster s'.cb).members, P dev := by
  have honline : ∀ dev ∈ s.cb.queue, P dev :=
    fun dev hdev => hs dev (List.mem_append_left _ hdev)
  have hoffline : ∀ dev ∈ s.cb.offq, P dev :=
    fun dev hdev => hs dev (List.mem_append_right _ hdev)
  have hboth : (∀ dev ∈ s'.cb.queue, P dev) ∧ ∀ dev ∈ s'.cb.offq, P dev := by
    cases h with
    | quiet _ _ hsame =>
      rw [hsame.queue, hsame.offq]
      exact ⟨honline, hoffline⟩
    | written haccept hwritten =>
      obtain ⟨found, f, hfind, hpacket, rfl⟩ := hwritten
      refine ⟨?_, hoffline⟩
      intro dev hdev
      rcases mem_updateFirst hdev with hold | ⟨found', hfound', rfl⟩
      · exact honline dev hold
      · obtain rfl : found = found' := Option.some.inj (hfind.symm.trans hfound')
        have hfound : P found := honline found (List.mem_of_find?_eq_some hfind)
        exact hwrite _ _ _ found f rfl haccept hfind hpacket hfound
    | created _ _ =>
      refine ⟨List.forall_mem_append.mpr ⟨honline, ?_⟩, hoffline⟩
      exact List.forall_mem_singleton.mpr (hnew _ _ _ _)
    | returned hback _ =>
      have hreturned := List.forall_mem_singleton.mpr (hoffline _ (List.mem_of_getElem? hback))
      refine ⟨List.forall_mem_append.mpr ⟨honline, hreturned⟩, ?_⟩
      intro dev hdev
      exact hoffline dev (List.mem_of_mem_eraseIdx hdev)
    | left hgone =>
      have hleft := List.forall_mem_singleton.mpr (honline _ (List.mem_of_getElem? hgone))
      refine ⟨?_, List.forall_mem_append.mpr ⟨hoffline, hleft⟩⟩
      intro dev hdev
      exact honline dev (List.mem_of_mem_eraseIdx hdev)
    | ticked hclock =>
      simp only [checkTimerAndDelay, pushOwnActs_eq, List.forall_mem_map]
      refine ⟨?_, hoffline⟩
      intro tick htickMem
      obtain ⟨dev, hdev, last, hlast, rfl⟩ := mem_checkQueue htickMem
      exact htick _ last dev rfl hclock hlast (honline dev hdev)
  exact List.forall_mem_append.mpr hboth

end HomeSecurityBox.Box
