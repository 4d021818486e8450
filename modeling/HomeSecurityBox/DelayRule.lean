import HomeSecurityBox.Box

/-!
Delays over runs of the box. The check of the tick queues the act of a delay only
if its status is started, and the check itself clears the mark. A new device has
no delay started, setting and deleting leave the mark as it is, and raising an
event looks at the linkages only: in no run is a delay ever started.
-/

namespace HomeSecurityBox.DelayRule

open ByteMemory Protocol DeviceData Device DeviceEvents Registry TcpPacket TimerTick Box
  Transitions

variable {ρ : Type}

/-- The tick queues the act of a delay slot. -/
def FiresDelay (cb : HsbDeviceCb ρ) (now : ℕ) (devid : UInt32) (i : Fin hsbDevMaxDelayNum) :
    Prop :=
  ∃ tick ∈ (checkTimerAndDelay cb now).devs, tick.dev.id = devid ∧
    ∃ body, (Source.delay i, body) ∈ tick.fired

/-- An active delay of an online device waits for the event and may act in the
current work mode. -/
structure Awaits (cb : HsbDeviceCb ρ) (dev : HsbDev) (i : Fin hsbDevMaxDelayNum)
    (type : HsbEvtType) (param1 : UInt16) (param2 : UInt32) : Prop where
  online : dev ∈ cb.queue
  active : (dev.delayStatus.get i).active = true
  evtId : (dev.delay.get i).evtId = type.code
  evtParam1 : (dev.delay.get i).evtParam1 = param1
  evtParam2 : (dev.delay.get i).evtParam2 = param2
  devMode : checkBit dev.workMode.toNat cb.workMode.toNat = true
  delayMode : checkBit (dev.delay.get i).workMode.toNat cb.workMode.toNat = true

def Unstarted (dev : HsbDev) : Prop :=
  ∀ i : Fin hsbDevMaxDelayNum, (dev.delayStatus.get i).started = false

/-- No device, online or offline, has a delay started. -/
def NoneStarted (s : BoxState ρ) : Prop := ∀ dev ∈ (roster s.cb).members, Unstarted dev

theorem delayTable_put_unstarted {dev : HsbDev} {f : HsbDelayStatus → HsbDelayStatus} {i : ℕ}
    (hi : i < delayTable.size) (delay : HsbDelay)
    (hf : ∀ status, (f status).started = status.started) (h : Unstarted dev) :
    Unstarted (delayTable.put i hi delay f dev) := by
  intro j
  have hput := delayTable_lawful.stats_put i hi delay f dev j.val j.isLt
  apply (congrArg HsbDelayStatus.started hput).trans
  by_cases hsame : j.val = i
  · rw [if_pos hsame, hf]
    exact h ⟨i, hi⟩
  · rw [if_neg hsame]
    exact h j

theorem packetWrite_unstarted {buf : Memory} {dev : HsbDev} {f : HsbDev → HsbDev}
    (hwrite : PacketWrite buf dev f) (h : Unstarted dev) : Unstarted (f dev) := by
  cases hwrite with
  | setTimer | delTimer | setLinkage | delLinkage => exact h
  | setDelay hslot => exact delayTable_put_unstarted hslot _ (fun _ => rfl) h
  | delDelay hslot => exact delayTable_put_unstarted hslot _ (fun _ => rfl) h

theorem checkDelay_unstarted (workMode : UInt32) (now : ℕ) (delay : HsbDelay)
    (status : HsbDelayStatus) (h : status.started = false) :
    checkDelay workMode now delay status = status := by
  simp only [checkDelay, delayDue, h, Bool.not_false, Bool.or_true, if_true]

theorem atDayStart_delayStatus (now glSecToday : ℕ) (dev : HsbDev) :
    (atDayStart now glSecToday dev).delayStatus = dev.delayStatus := by
  rcases atDayStart_cases now glSecToday dev with h | h
  · simp only [h, rearmDev]
  · rw [h]

theorem checkDev_unstarted (workMode : UInt32) (now glSecToday : ℕ) (dev : HsbDev)
    (h : Unstarted dev) :
    Unstarted (checkDevTimerAndDelay workMode now glSecToday dev).dev := by
  have hstart : Unstarted (atDayStart now glSecToday dev) := by
    intro i
    rw [atDayStart_delayStatus]
    exact h i
  rcases checkDev_cases workMode now glSecToday dev with ⟨-, h⟩ | ⟨-, h⟩
  · rw [h]
    exact hstart
  · rw [h]
    intro i
    have hi := hstart i
    simp only [checkSlots, get_ofFn]
    exact (congrArg HsbDelayStatus.started (checkDelay_unstarted _ _ _ _ hi)).trans hi

/-- A device without a started delay queues no act of a delay. -/
theorem not_fired_of_unstarted (workMode : UInt32) (now glSecToday : ℕ) (dev : HsbDev)
    (h : Unstarted dev) (i : Fin hsbDevMaxDelayNum) (body : HsbActBody) :
    (Source.delay i, body) ∉ (checkDevTimerAndDelay workMode now glSecToday dev).fired := by
  rcases checkDev_cases workMode now glSecToday dev with ⟨-, hcheck⟩ | ⟨-, hcheck⟩
  · rw [hcheck]
    exact List.not_mem_nil
  · rw [hcheck]
    intro hmem
    simp only [firedSlots, List.mem_append, List.mem_map, List.mem_filter, Prod.mk.injEq,
      reduceCtorEq, false_and, and_false, exists_false, false_or] at hmem
    obtain ⟨j, ⟨-, hdue⟩, -, -⟩ := hmem
    have hstarted : (atDayStart now glSecToday dev).delayStatus[j].started = false := by
      rw [atDayStart_delayStatus]
      exact h j
    simp only [delayDue, hstarted, Bool.not_false, Bool.or_true, if_true,
      Bool.false_eq_true] at hdue

theorem effect_noneStarted {s s' : BoxState ρ} {step : BoxStep ρ} (h : Effect s step s')
    (hs : NoneStarted s) : NoneStarted s' := by
  refine effect_forall_members h ?_ ?_ ?_ hs
  · intro id info drv op i
    simp only [get_replicate]
  · intro buf len reply found f _ _ _ hwrite hfound
    exact packetWrite_unstarted hwrite hfound
  · intro now last dev _ _ _ hdev
    exact checkDev_unstarted s.cb.workMode now last dev hdev

theorem noneStarted_start (drivers : List HsbDevDrv) :
    NoneStarted (BoxState.start drivers : BoxState ρ) := by
  intro dev hdev
  exact absurd hdev List.not_mem_nil

theorem noneStarted_run (drivers : List HsbDevDrv) (steps : List (BoxStep ρ)) (s : BoxState ρ)
    (hrun : run boxStep (BoxState.start drivers) steps = some s) : NoneStarted s := by
  apply run_invariant ?_ steps _ s (noneStarted_start drivers) hrun
  intro s step s' hs hstep
  exact effect_noneStarted (boxStep_effect hstep) hs

/-- Whatever events a run has raised on whatever devices, no tick behind it queues
the act of a delay slot. -/
theorem delay_never_queued (drivers : List HsbDevDrv) (steps : List (BoxStep ρ))
    (s : BoxState ρ) (hrun : run boxStep (BoxState.start drivers) steps = some s) (now : ℕ)
    (devid : UInt32) (i : Fin hsbDevMaxDelayNum) : ¬ FiresDelay s.cb now devid i := by
  have hunstarted := noneStarted_run drivers steps s hrun
  rintro ⟨tick, htick, -, body, hfired⟩
  obtain ⟨dev, hdev, last, -, rfl⟩ := mem_checkQueue htick
  exact not_fired_of_unstarted _ _ _ dev (hunstarted dev (List.mem_append_left _ hdev)) i body
    hfired

/-- SET_DELAY for device 1: ten seconds after its sensor has triggered, an action. -/
def setDelayPacket : Memory :=
  load [0x43, 0x88, 32, 0, 1, 0, 0, 0, 0, 0, 0xFF, 1, 2, 0, 1, 0, 0, 0, 0, 0, 5, 0, 1, 0,
    0, 0, 0, 0, 10, 0, 0, 0] zeros

/-- At one o'clock the delay is set, the sensor triggers and twenty seconds pass. -/
def delayedSensor : List (BoxStep Unit) :=
  [.online 1 { cls := 1 } (some .virtualSwitchOp), .packet setDelayPacket 32 (), .tick 3600,
    .event 1 .sensorTriggered 1 0]

theorem delay_never_queued_sensor :
    ∃ s, run boxStep (BoxState.start [⟨1⟩]) delayedSensor = some s ∧ s.cb.queue.length = 1 ∧
      ¬ FiresDelay s.cb 3620 1 0 := by
  have hlength : (run boxStep (BoxState.start [⟨1⟩]) delayedSensor).map
      (fun s => s.cb.queue.length) = some 1 := by decide +kernel
  obtain ⟨s, hrun, hs⟩ := Option.map_eq_some_iff.mp hlength
  exact ⟨s, hrun, hs, delay_never_queued [⟨1⟩] delayedSensor s hrun 3620 1 0⟩

/-- The only device waits for the event and the tick twenty seconds behind it, ten
more than the delay, queues nothing. -/
theorem delayed_sensor_not_queued :
    ∃ s dev t, run boxStep (BoxState.start [⟨1⟩]) (delayedSensor.take 3) = some s ∧
      Awaits s.cb dev 0 .sensorTriggered 1 0 ∧ dev.delay[0].delaySec = 10 ∧
      s.clock = 3600 ∧
      run boxStep s [.event dev.id .sensorTriggered 1 0, .tick 3620] = some t ∧
      t.cb.asyncQueue = [] := by
  have hwaits : (run boxStep (BoxState.start [⟨1⟩]) (delayedSensor.take 3)).bind (fun s =>
      (s.cb.queue.find? fun dev => decide (dev.delayStatus[0].active = true ∧
        dev.delay[0].evtId = HsbEvtType.code .sensorTriggered ∧ dev.delay[0].evtParam1 = 1 ∧
        dev.delay[0].evtParam2 = 0 ∧ checkBit dev.workMode.toNat s.cb.workMode.toNat = true ∧
        checkBit dev.delay[0].workMode.toNat s.cb.workMode.toNat = true)).bind fun dev =>
      (run boxStep s [.event dev.id .sensorTriggered 1 0, .tick 3620]).map fun t =>
        (dev.delay[0].delaySec, s.clock, t.cb.asyncQueue)) = some (10, 3600, []) := by
    decide +kernel
  obtain ⟨s, hrun, hwaits⟩ := Option.bind_eq_some_iff.mp hwaits
  obtain ⟨dev, hfind, hwaits⟩ := Option.bind_eq_some_iff.mp hwaits
  obtain ⟨t, hticked, hseen⟩ := Option.map_eq_some_iff.mp hwaits
  have hfound := List.find?_some hfind
  obtain ⟨hactive, hevt, hparam1, hparam2, hdevMode, hdelayMode⟩ := of_decide_eq_true hfound
  simp only [Prod.mk.injEq] at hseen
  exact ⟨s, dev, t, hrun, ⟨List.mem_of_find?_eq_some hfind, hactive, hevt, hparam1, hparam2,
    hdevMode, hdelayMode⟩, hseen.1, hseen.2.1, hticked, hseen.2.2⟩

end HomeSecurityBox.DelayRule
