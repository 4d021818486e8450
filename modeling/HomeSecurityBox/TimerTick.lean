import Mathlib.Data.List.FinRange
import HomeSecurityBox.DeviceEvents

/-!
One tick of the timers and delays: the check goes through the online devices, and
the re-arming of a device compares the second of the day with the one that the
device in front of it has just stored. Local time is counted in seconds from a
local midnight that began a Thursday.
-/

namespace HomeSecurityBox.TimerTick

open Protocol DeviceData Device DeviceEvents

variable {ρ : Type}

def secondsPerDay : ℕ := 86400

/-- The fields of the broken-down time that the check reads. -/
structure Tm where
  wday : ℕ
  hour : ℕ
  min : ℕ
  sec : ℕ
  deriving DecidableEq, Repr

def localtime (now : ℕ) : Tm where
  wday := (now / secondsPerDay + 4) % 7
  hour := now % secondsPerDay / 3600
  min := now % 3600 / 60
  sec := now % 60

def secToday (tm : Tm) : ℕ := tm.hour * 3600 + tm.min * 60 + tm.sec

def secTimer (timer : HsbTimer) : ℕ :=
  timer.hour.toNat * 3600 + timer.min.toNat * 60 + timer.sec.toNat

/-- Where an act of the tick comes from. -/
inductive Source
  | timer (slot : Fin hsbDevMaxTimerNum)
  | delay (slot : Fin hsbDevMaxDelayNum)
  deriving DecidableEq, Repr

/-- The first loop of the check at the turn of the day, for one slot. -/
def rearmTimer (wday : ℕ) (timer : HsbTimer) (status : HsbTimerStatus) : HsbTimerStatus :=
  if !status.active then status
  else { status with expired := !checkBit timer.wday.toNat wday }

/-- The tests 1 to 4 of the timer loop. -/
def timerDue (workMode : UInt32) (tm : Tm) (timer : HsbTimer) (status : HsbTimerStatus) :
    Bool :=
  if !status.active || status.expired then false
  else if !checkBit timer.workMode.toNat workMode.toNat then false
  else if !checkBit timer.wday.toNat tm.wday then false
  else if secTimer timer > secToday tm || secToday tm - secTimer timer > 5 then false
  else true

def timerBody (devid : UInt32) (timer : HsbTimer) : HsbActBody :=
  slotAct devid timer.flag timer.actId timer.actParam1 timer.actParam2

/-- One iteration of the timer loop; weekday bit 7 marks a one-shot timer. -/
def checkTimer (workMode : UInt32) (tm : Tm) (timer : HsbTimer) (status : HsbTimerStatus) :
    HsbTimer × HsbTimerStatus :=
  if !timerDue workMode tm timer status then (timer, status)
  else if checkBit timer.wday.toNat 7 then ({}, {})
  else (timer, { status with expired := true })

def delayDue (workMode : UInt32) (now : ℕ) (delay : HsbDelay) (status : HsbDelayStatus) : Bool :=
  if !status.active || !status.started then false
  else if !checkBit delay.workMode.toNat workMode.toNat then false
  else if (now : ℤ) - status.startTm < delay.delaySec.toNat then false
  else true

def delayBody (devid : UInt32) (delay : HsbDelay) : HsbActBody :=
  slotAct devid delay.flag delay.actId delay.actParam1 delay.actParam2

def checkDelay (workMode : UInt32) (now : ℕ) (delay : HsbDelay) (status : HsbDelayStatus) :
    HsbDelayStatus :=
  if !delayDue workMode now delay status then status else { status with started := false }

def rearmDev (wday : ℕ) (dev : HsbDev) : HsbDev :=
  { dev with timerStatus := Vector.ofFn fun i => rearmTimer wday dev.timer[i] dev.timerStatus[i] }

def checkSlots (workMode : UInt32) (now : ℕ) (dev : HsbDev) : HsbDev :=
  let tm := localtime now
  { dev with
    timer := Vector.ofFn fun i => (checkTimer workMode tm dev.timer[i] dev.timerStatus[i]).1
    timerStatus :=
      Vector.ofFn fun i => (checkTimer workMode tm dev.timer[i] dev.timerStatus[i]).2
    delayStatus := Vector.ofFn fun i => checkDelay workMode now dev.delay[i] dev.delayStatus[i] }

/-- The acts of a device's slots: the timers in order, then the delays. -/
def firedSlots (workMode : UInt32) (now : ℕ) (dev : HsbDev) : List (Source × HsbActBody) :=
  let timers := (List.finRange hsbDevMaxTimerNum).filter fun i =>
    timerDue workMode (localtime now) dev.timer[i] dev.timerStatus[i]
  let delays := (List.finRange hsbDevMaxDelayNum).filter fun i =>
    delayDue workMode now dev.delay[i] dev.delayStatus[i]
  timers.map (fun i => (.timer i, timerBody dev.id dev.timer[i])) ++
    delays.map fun i => (.delay i, delayBody dev.id dev.delay[i])

/-- A timer slot of a device. -/
def timerSlot (dev : HsbDev) (i : Fin hsbDevMaxTimerNum) : HsbTimer × HsbTimerStatus :=
  (dev.timer[i], dev.timerStatus[i])

theorem get_ofFn {α : Type} {n : ℕ} (f : Fin n → α) (i : Fin n) :
    (Vector.ofFn f).get i = f i := by
  simp only [Vector.get, Vector.getElem_toArray, Vector.getElem_ofFn]
  rfl

theorem get_replicate {α : Type} {n : ℕ} (a : α) (i : Fin n) :
    (Vector.replicate n a).get i = a := by
  simp [Vector.get]

/-- What the check leaves of one device and of the global `sec_today`. -/
structure DevTick where
  secToday : ℕ
  dev : HsbDev
  fired : List (Source × HsbActBody)

/-- The device as the turn of the day leaves it to the later loops. -/
def atDayStart (now glSecToday : ℕ) (dev : HsbDev) : HsbDev :=
  let tm := localtime now
  if secToday tm < glSecToday ∧ secToday tm < 10 then rearmDev tm.wday dev else dev

def checkDevTimerAndDelay (workMode : UInt32) (now glSecToday : ℕ) (dev : HsbDev) : DevTick :=
  let dev := atDayStart now glSecToday dev
  if !checkBit dev.workMode.toNat workMode.toNat then ⟨secToday (localtime now), dev, []⟩
  else
    ⟨secToday (localtime now), checkSlots workMode now dev, firedSlots workMode now dev⟩

/-- The devices in order; each sees the `sec_today` of the one in front of it. -/
def checkQueue (workMode : UInt32) (now : ℕ) : ℕ → List HsbDev → List DevTick
  | _, [] => []
  | glSecToday, dev :: rest =>
      let done := checkDevTimerAndDelay workMode now glSecToday dev
      done :: checkQueue workMode now done.secToday rest

/-- The ticks of the devices and the control block behind them. -/
structure Tick (ρ : Type) where
  devs : List DevTick
  cb : HsbDeviceCb ρ

def checkTimerAndDelay (cb : HsbDeviceCb ρ) (now : ℕ) : Tick ρ :=
  let devs := checkQueue cb.workMode now cb.secToday cb.queue
  { devs := devs
    cb := pushOwnActs
      { cb with
        queue := devs.map DevTick.dev
        secToday := (devs.getLast?.map DevTick.secToday).getD cb.secToday }
      ((devs.map DevTick.fired).flatten.map Prod.snd) }

theorem secToday_localtime (now : ℕ) : secToday (localtime now) = now % secondsPerDay := by
  simp only [secToday, localtime, secondsPerDay]
  omega

@[simp] theorem checkDev_secToday (workMode : UInt32) (now glSecToday : ℕ) (dev : HsbDev) :
    (checkDevTimerAndDelay workMode now glSecToday dev).secToday = now % secondsPerDay := by
  simp only [checkDevTimerAndDelay]
  split <;> exact secToday_localtime now

/-- The first device compares with the second of the tick before, every other one
with that of the same tick. -/
theorem checkQueue_getElem? (workMode : UInt32) (now glSecToday : ℕ) (queue : List HsbDev)
    (pos : ℕ) :
    (checkQueue workMode now glSecToday queue)[pos]? =
      queue[pos]?.map (checkDevTimerAndDelay workMode now
        (if pos = 0 then glSecToday else now % secondsPerDay)) := by
  induction queue generalizing glSecToday pos with
  | nil => rfl
  | cons dev rest ih =>
    cases pos with
    | zero => rfl
    | succ pos =>
      simp only [checkQueue, List.getElem?_cons_succ, ih, checkDev_secToday, ite_self,
        Nat.add_eq_zero_iff, Nat.one_ne_zero, and_false, if_false]

theorem checkQueue_secToday (workMode : UInt32) (now glSecToday : ℕ) (queue : List HsbDev)
    (tick : DevTick) (h : tick ∈ checkQueue workMode now glSecToday queue) :
    tick.secToday = now % secondsPerDay := by
  induction queue generalizing glSecToday with
  | nil => exact absurd h List.not_mem_nil
  | cons dev rest ih =>
    rcases List.mem_cons.mp h with hhead | hrest
    · rw [hhead, checkDev_secToday]
    · exact ih _ hrest

/-- Every tick of a device is the check of a device of the queue. -/
theorem mem_checkQueue {workMode : UInt32} {now glSecToday : ℕ} {queue : List HsbDev}
    {tick : DevTick} (h : tick ∈ checkQueue workMode now glSecToday queue) :
    ∃ dev ∈ queue, ∃ last, (last = glSecToday ∨ last = now % secondsPerDay) ∧
      tick = checkDevTimerAndDelay workMode now last dev := by
  obtain ⟨pos, hpos⟩ := List.getElem?_of_mem h
  rw [checkQueue_getElem?] at hpos
  obtain ⟨dev, hdev, rfl⟩ := Option.map_eq_some_iff.mp hpos
  refine ⟨dev, List.mem_of_getElem? hdev, _, ?_, rfl⟩
  by_cases hfirst : pos = 0
  · exact Or.inl (if_pos hfirst)
  · exact Or.inr (if_neg hfirst)

theorem timerDue_iff (workMode : UInt32) (now : ℕ) (timer : HsbTimer) (status : HsbTimerStatus)
    (hactive : status.active = true)
    (hmode : checkBit timer.workMode.toNat workMode.toNat = true) :
    timerDue workMode (localtime now) timer status = true ↔
      status.expired = false ∧ checkBit timer.wday.toNat (localtime now).wday = true ∧
        secTimer timer ≤ now % secondsPerDay ∧ now % secondsPerDay ≤ secTimer timer + 5 := by
  simp only [timerDue, hactive, hmode, secToday_localtime]
  cases status.expired
  · cases checkBit timer.wday.toNat (localtime now).wday
    · simp
    · simp
      omega
  · simp

theorem checkTimer_recurring (workMode : UInt32) (tm : Tm) (timer : HsbTimer)
    (status : HsbTimerStatus) (hrecurring : checkBit timer.wday.toNat 7 = false) :
    checkTimer workMode tm timer status =
      (timer, { status with expired := status.expired || timerDue workMode tm timer status }) := by
  unfold checkTimer
  cases hdue : timerDue workMode tm timer status
  · simp
  · simp [hrecurring]

theorem atDayStart_cases (now glSecToday : ℕ) (dev : HsbDev) :
    atDayStart now glSecToday dev = rearmDev (localtime now).wday dev ∨
      atDayStart now glSecToday dev = dev := by
  by_cases h : secToday (localtime now) < glSecToday ∧ secToday (localtime now) < 10
  · exact Or.inl (if_pos h)
  · exact Or.inr (if_neg h)

/-- Re-arming changes nothing but the status of the timers. -/
theorem atDayStart_fields (now glSecToday : ℕ) (dev : HsbDev) :
    (atDayStart now glSecToday dev).timer = dev.timer ∧
      (atDayStart now glSecToday dev).id = dev.id ∧
      (atDayStart now glSecToday dev).workMode = dev.workMode := by
  rcases atDayStart_cases now glSecToday dev with h | h
  · simp only [h, rearmDev, and_self]
  · simp only [h, and_self]

/-- The status of an active slot at the later loops of the check. -/
theorem atDayStart_timerStatus (now glSecToday : ℕ) (dev : HsbDev)
    (i : Fin hsbDevMaxTimerNum) (hactive : dev.timerStatus[i].active = true) :
    (atDayStart now glSecToday dev).timerStatus[i] =
      if now % secondsPerDay < glSecToday ∧ now % secondsPerDay < 10 then
        { dev.timerStatus[i] with
          expired := !checkBit dev.timer[i].wday.toNat (localtime now).wday }
      else dev.timerStatus[i] := by
  simp only [atDayStart, secToday_localtime]
  split
  · simp only [rearmDev, Fin.getElem_fin, Vector.getElem_ofFn, rearmTimer]
    simp only [Fin.getElem_fin] at hactive
    rw [hactive]
    rfl
  · rfl

/-- The check goes through the slots in the work modes of the device only. -/
theorem checkDev_cases (workMode : UInt32) (now glSecToday : ℕ) (dev : HsbDev) :
    checkBit dev.workMode.toNat workMode.toNat = false ∧
        checkDevTimerAndDelay workMode now glSecToday dev =
          ⟨secToday (localtime now), atDayStart now glSecToday dev, []⟩ ∨
      checkBit dev.workMode.toNat workMode.toNat = true ∧
        checkDevTimerAndDelay workMode now glSecToday dev =
          ⟨secToday (localtime now), checkSlots workMode now (atDayStart now glSecToday dev),
            firedSlots workMode now (atDayStart now glSecToday dev)⟩ := by
  obtain ⟨-, -, hworkMode⟩ := atDayStart_fields now glSecToday dev
  cases hmode : checkBit dev.workMode.toNat workMode.toNat with
  | false => exact Or.inl ⟨rfl, by simp only [checkDevTimerAndDelay, hworkMode, hmode]; rfl⟩
  | true => exact Or.inr ⟨rfl, by simp only [checkDevTimerAndDelay, hworkMode, hmode]; rfl⟩

theorem mem_firedSlots_timer (workMode : UInt32) (now : ℕ) (dev : HsbDev)
    (i : Fin hsbDevMaxTimerNum) (body : HsbActBody) :
    (Source.timer i, body) ∈ firedSlots workMode now dev ↔
      timerDue workMode (localtime now) dev.timer[i] dev.timerStatus[i] = true ∧
        body = timerBody dev.id dev.timer[i] := by
  simp only [firedSlots, List.mem_append, List.mem_map, List.mem_filter, List.mem_finRange,
    true_and, Prod.mk.injEq, Source.timer.injEq, reduceCtorEq, false_and, and_false,
    exists_false, or_false]
  constructor
  · rintro ⟨j, hdue, rfl, rfl⟩
    exact ⟨hdue, rfl⟩
  · rintro ⟨hdue, rfl⟩
    exact ⟨i, hdue, rfl, rfl⟩

/-- A recurring slot keeps its timer and stays active; it expires by firing. -/
theorem checkDev_slot (workMode : UInt32) (now glSecToday : ℕ) (dev : HsbDev)
    (i : Fin hsbDevMaxTimerNum) (status : HsbTimerStatus)
    (hmode : checkBit dev.workMode.toNat workMode.toNat = true)
    (hrecurring : checkBit dev.timer[i].wday.toNat 7 = false)
    (hstatus : (atDayStart now glSecToday dev).timerStatus[i] = status) :
    (checkDevTimerAndDelay workMode now glSecToday dev).dev.timer[i] = dev.timer[i] ∧
      (checkDevTimerAndDelay workMode now glSecToday dev).dev.timerStatus[i] =
        { status with
          expired := status.expired || timerDue workMode (localtime now) dev.timer[i] status } ∧
      ∀ body, (Source.timer i, body) ∈ (checkDevTimerAndDelay workMode now glSecToday dev).fired ↔
        timerDue workMode (localtime now) dev.timer[i] status = true ∧
          body = timerBody dev.id dev.timer[i] := by
  obtain ⟨htimers, hid, hworkMode⟩ := atDayStart_fields now glSecToday dev
  have hchecked : checkDevTimerAndDelay workMode now glSecToday dev =
      ⟨secToday (localtime now), checkSlots workMode now (atDayStart now glSecToday dev),
        firedSlots workMode now (atDayStart now glSecToday dev)⟩ := by
    simp [checkDevTimerAndDelay, hworkMode, hmode]
  have htimer : (atDayStart now glSecToday dev).timer[i] = dev.timer[i] := by
    rw [htimers]
  have hslot := checkTimer_recurring workMode (localtime now) dev.timer[i] status hrecurring
  rw [hchecked]
  refine ⟨?_, ?_, ?_⟩
  · simp only [checkSlots, Fin.getElem_fin, Vector.getElem_ofFn]
    simp only [Fin.getElem_fin] at htimer hstatus hslot
    rw [htimer, hstatus, hslot]
  · simp only [checkSlots, Fin.getElem_fin, Vector.getElem_ofFn]
    simp only [Fin.getElem_fin] at htimer hstatus hslot
    rw [htimer, hstatus, hslot]
  · intro body
    rw [mem_firedSlots_timer, htimer, hstatus, hid]

/-- The acts that a tick fires are in the queue of the worker behind it. -/
theorem fired_mem_asyncQueue (cb : HsbDeviceCb ρ) (now : ℕ) (tick : DevTick) (source : Source)
    (body : HsbActBody) (htick : tick ∈ (checkTimerAndDelay cb now).devs)
    (hfired : (source, body) ∈ tick.fired) :
    ⟨body, none⟩ ∈ (checkTimerAndDelay cb now).cb.asyncQueue := by
  simp only [checkTimerAndDelay, pushOwnActs_eq]
  apply List.mem_append_right
  apply List.mem_map_of_mem
  have hmem : (source, body) ∈
      ((checkTimerAndDelay cb now).devs.map DevTick.fired).flatten :=
    List.mem_flatten_of_mem (List.mem_map_of_mem htick) hfired
  exact List.mem_map_of_mem hmem

/-- A tick changes the devices and `sec_today` and queues acts. -/
theorem checkTimerAndDelay_queue (cb : HsbDeviceCb ρ) (now : ℕ) :
    (checkTimerAndDelay cb now).cb.queue = (checkTimerAndDelay cb now).devs.map DevTick.dev := by
  simp only [checkTimerAndDelay, pushOwnActs_eq]

theorem checkTimerAndDelay_workMode (cb : HsbDeviceCb ρ) (now : ℕ) :
    (checkTimerAndDelay cb now).cb.workMode = cb.workMode := by
  simp only [checkTimerAndDelay, pushOwnActs_eq]

theorem checkDev_fields (workMode : UInt32) (now glSecToday : ℕ) (dev : HsbDev) :
    (checkDevTimerAndDelay workMode now glSecToday dev).dev.id = dev.id ∧
      (checkDevTimerAndDelay workMode now glSecToday dev).dev.workMode = dev.workMode := by
  obtain ⟨-, hid, hworkMode⟩ := atDayStart_fields now glSecToday dev
  simp only [checkDevTimerAndDelay]
  split
  · exact ⟨hid, hworkMode⟩
  · simp only [checkSlots, hid, hworkMode, and_self]

/-- With a device online a tick stores its second of the day. -/
theorem checkTimerAndDelay_secToday (cb : HsbDeviceCb ρ) (now : ℕ) (hqueue : cb.queue ≠ []) :
    (checkTimerAndDelay cb now).cb.secToday = now % secondsPerDay := by
  simp only [checkTimerAndDelay, pushOwnActs_eq]
  cases hlast : (checkQueue cb.workMode now cb.secToday cb.queue).getLast? with
  | none =>
    exfalso
    apply hqueue
    cases hq : cb.queue with
    | nil => rfl
    | cons dev rest =>
      rw [hq] at hlast
      simp [checkQueue] at hlast
  | some tick =>
    have hmem := List.mem_of_getLast? hlast
    simpa using checkQueue_secToday cb.workMode now cb.secToday cb.queue tick hmem

end HomeSecurityBox.TimerTick
