import HomeSecurityBox.Base.Latch
import HomeSecurityBox.TimerTick

/-!
A recurring timer over days of ticks. Its `expired` flag is a latch: firing sets
it, and so does the turn of a day without the timer's weekday bit; the turn of a
day with the bit resets it. Only the first device of the queue sees the turn of
the day.
-/

namespace HomeSecurityBox.TimerDays

open DeviceData DeviceEvents TimerTick Latch

variable {ρ : Type}

/-- A slot that has just been set to a recurring timer with a valid time of day. -/
structure ArmedSlot (dev : HsbDev) (slot : Fin hsbDevMaxTimerNum) (timer : HsbTimer) : Prop where
  hour_lt : timer.hour.toNat < 24
  min_lt : timer.min.toNat < 60
  sec_lt : timer.sec.toNat < 60
  recurring : checkBit timer.wday.toNat 7 = false
  set : dev.timer[slot] = timer
  armed : dev.timerStatus[slot] = { active := true, expired := false }

/-- A recurring timer slot of an online device under one tick a second. Tick `k`
comes at second `start + k`; anything may happen between two ticks that keeps the
device online, the slot as it is and the masks open for the work mode. -/
structure SlotRun (ρ : Type) where
  start : ℕ
  devid : UInt32
  slot : Fin hsbDevMaxTimerNum
  timer : HsbTimer
  pre : ℕ → HsbDeviceCb ρ
  pos : ℕ → ℕ
  dev : ℕ → HsbDev
  online : ∀ k, (pre k).queue[pos k]? = some (dev k)
  same : ∀ k, (dev k).id = devid
  initial : ArmedSlot (dev 0) slot timer
  kept : ∀ k after, (checkTimerAndDelay (pre k) (start + k)).devs[pos k]? = some after →
    timerSlot (dev (k + 1)) slot = timerSlot after.dev slot
  secToday : ∀ k, (pre (k + 1)).secToday = (checkTimerAndDelay (pre k) (start + k)).cb.secToday
  devMode : ∀ k, checkBit (dev k).workMode.toNat (pre k).workMode.toNat = true
  timerMode : ∀ k, checkBit timer.workMode.toNat (pre k).workMode.toNat = true

namespace SlotRun

variable (r : SlotRun ρ)

def day (k : ℕ) : ℕ := (r.start + k) / secondsPerDay

def sec (k : ℕ) : ℕ := (r.start + k) % secondsPerDay

/-- The weekday bit of a day is set. -/
def Wanted (d : ℕ) : Prop := checkBit r.timer.wday.toNat ((d + 4) % 7) = true

/-- A day that asks for the act, with a trigger time that comes after the setting. -/
def Qualifies (d : ℕ) : Prop := r.Wanted d ∧ r.start ≤ d * secondsPerDay + secTimer r.timer

/-- Tick `k` queues the act of the slot. -/
def FiresAt (k : ℕ) : Prop :=
  ∃ after, (checkTimerAndDelay (r.pre k) (r.start + k)).devs[r.pos k]? = some after ∧
    (Source.timer r.slot, timerBody r.devid r.timer) ∈ after.fired

def Fires (d : ℕ) : Prop := ∃ k, r.day k = d ∧ r.FiresAt k

/-- Tick `k` lies in the six seconds from the trigger time on of a wanted day. -/
def InWindow (k : ℕ) : Prop :=
  r.Wanted (r.day k) ∧ secTimer r.timer ≤ r.sec k ∧ r.sec k ≤ secTimer r.timer + 5

/-- The device is the first of the queue at the turn of the day. Only at the very
first tick does the `sec_today` of an earlier time decide. -/
def RearmTick (k : ℕ) : Prop :=
  r.pos k = 0 ∧
    if k = 0 then r.sec 0 < (r.pre 0).secToday ∧ r.sec 0 < 10 else r.sec k = 0

def Due (d : ℕ) : Prop := ∃ k, r.day k = d ∧ r.InWindow k

def Rearmed (d : ℕ) : Prop := ∃ k, r.day k = d ∧ r.RearmTick k

def Expired (k : ℕ) : Prop := (r.dev k).timerStatus[r.slot].expired = true

theorem secTimer_lt : secTimer r.timer < secondsPerDay := by
  have hhour := r.initial.hour_lt
  have hmin := r.initial.min_lt
  have hsec := r.initial.sec_lt
  unfold secTimer secondsPerDay
  omega

/-- The second of the day that the device compares with at tick `k`. -/
def lastSec (k : ℕ) : ℕ := if r.pos k = 0 then (r.pre k).secToday else r.sec k

/-- The tick of the device. -/
theorem devTick (k : ℕ) :
    (checkTimerAndDelay (r.pre k) (r.start + k)).devs[r.pos k]? =
      some (checkDevTimerAndDelay (r.pre k).workMode (r.start + k) (r.lastSec k) (r.dev k)) := by
  have hdevs := checkQueue_getElem? (r.pre k).workMode (r.start + k) (r.pre k).secToday
    (r.pre k).queue (r.pos k)
  rw [r.online k] at hdevs
  exact hdevs

/-- The second that the previous tick has left. -/
theorem secToday_succ (k : ℕ) : (r.pre (k + 1)).secToday = r.sec k := by
  rw [r.secToday k]
  apply checkTimerAndDelay_secToday
  intro hempty
  have honline := r.online k
  rw [hempty] at honline
  contradiction

/-- The test for the turn of the day, as the device's place in the queue sees it. -/
theorem rearm_test_iff (k : ℕ) :
    ((r.start + k) % secondsPerDay < r.lastSec k ∧ (r.start + k) % secondsPerDay < 10) ↔
      r.RearmTick k := by
  unfold RearmTick lastSec
  by_cases hpos : r.pos k = 0
  · rw [if_pos hpos]
    cases k with
    | zero => simp [hpos, sec]
    | succ k =>
      have hlast := r.secToday_succ k
      rw [hlast]
      simp only [hpos, true_and, Nat.add_eq_zero_iff, Nat.one_ne_zero, and_false, if_false]
      unfold sec secondsPerDay
      omega
  · rw [if_neg hpos]
    constructor
    · intro h
      exact absurd h.1 (Nat.lt_irrefl _)
    · intro h
      exact absurd h.1 hpos

/-- The status of the slot behind the loop for the turn of the day. -/
def dayStatus (k : ℕ) : HsbTimerStatus :=
  (atDayStart (r.start + k) (r.lastSec k) (r.dev k)).timerStatus[r.slot]

theorem dayStatus_spec (k : ℕ) (htimer : (r.dev k).timer[r.slot] = r.timer)
    (hactive : (r.dev k).timerStatus[r.slot].active = true) :
    (r.dayStatus k).active = true ∧
      ((r.dayStatus k).expired = true ↔
        r.RearmTick k ∧ ¬ r.Wanted (r.day k) ∨ r.Expired k ∧ ¬ r.RearmTick k) := by
  have hstart := atDayStart_timerStatus (r.start + k) (r.lastSec k) (r.dev k) r.slot hactive
  have hrearm := r.rearm_test_iff k
  rw [htimer] at hstart
  unfold dayStatus
  rw [hstart]
  by_cases h : r.RearmTick k
  · rw [if_pos (hrearm.mpr h)]
    refine ⟨hactive, ?_⟩
    simp only [h, Bool.not_eq_eq_eq_not, Bool.not_true, not_true_eq_false, and_false, or_false,
      true_and]
    exact (Bool.not_eq_true _).symm ▸ Iff.rfl
  · rw [if_neg (mt hrearm.mp h)]
    refine ⟨hactive, ?_⟩
    simp only [h, false_and, not_false_eq_true, and_true, false_or]
    rfl

/-- What tick `k` makes of the slot, if the slot is active in front of it. -/
theorem slot_step (k : ℕ) (htimer : (r.dev k).timer[r.slot] = r.timer)
    (hactive : (r.dev k).timerStatus[r.slot].active = true) :
    (r.dev (k + 1)).timer[r.slot] = r.timer ∧
      (r.dev (k + 1)).timerStatus[r.slot].active = true ∧
      (r.Expired (k + 1) ↔ (r.dayStatus k).expired = true ∨ r.InWindow k) ∧
      (r.FiresAt k ↔ (r.dayStatus k).expired = false ∧ r.InWindow k) := by
  obtain ⟨htimer', hstatus'⟩ := Prod.mk.inj (r.kept k _ (r.devTick k))
  obtain ⟨hdayActive, -⟩ := r.dayStatus_spec k htimer hactive
  obtain ⟨hkept, hafter, hfired⟩ := checkDev_slot (r.pre k).workMode (r.start + k) (r.lastSec k)
    (r.dev k) r.slot (r.dayStatus k) (r.devMode k) (htimer.symm ▸ r.initial.recurring) rfl
  rw [htimer] at hkept hafter hfired
  have hdue : timerDue (r.pre k).workMode (localtime (r.start + k)) r.timer (r.dayStatus k) = true ↔
      (r.dayStatus k).expired = false ∧ r.InWindow k :=
    timerDue_iff (r.pre k).workMode (r.start + k) r.timer (r.dayStatus k) hdayActive
      (r.timerMode k)
  refine ⟨htimer'.trans hkept, ?_, ?_, ?_⟩
  · rw [hstatus'.trans hafter]
    exact hdayActive
  · unfold Expired
    rw [hstatus'.trans hafter, Bool.or_eq_true, hdue]
    cases (r.dayStatus k).expired <;> simp
  · have htick := r.devTick k
    constructor
    · rintro ⟨after, hat, hmem⟩
      rw [htick] at hat
      rw [← Option.some.inj hat] at hmem
      exact hdue.mp ((hfired _).mp hmem).1
    · intro h
      refine ⟨_, htick, (hfired _).mpr ⟨hdue.mpr h, ?_⟩⟩
      rw [r.same k]

/-- The slot keeps its timer and stays active through the whole run. -/
theorem slot_kept (k : ℕ) :
    (r.dev k).timer[r.slot] = r.timer ∧ (r.dev k).timerStatus[r.slot].active = true := by
  induction k with
  | zero =>
    refine ⟨r.initial.set, ?_⟩
    rw [r.initial.armed]
  | succ k ih =>
    obtain ⟨htimer, hactive, -, -⟩ := r.slot_step k ih.1 ih.2
    exact ⟨htimer, hactive⟩

theorem not_expired_zero : ¬ r.Expired 0 := by
  unfold Expired
  rw [r.initial.armed]
  simp

/-- The flag is set by the window of a wanted day and by the turn of an unwanted
day; the turn of a wanted day resets it. -/
theorem expired_isLatch :
    IsLatch (fun k => r.InWindow k ∨ r.RearmTick k ∧ ¬ r.Wanted (r.day k))
      (fun k => r.RearmTick k ∧ r.Wanted (r.day k)) r.Expired := by
  refine ⟨?_⟩
  intro k
  obtain ⟨htimer, hactive⟩ := r.slot_kept k
  obtain ⟨-, -, hnext, -⟩ := r.slot_step k htimer hactive
  obtain ⟨-, hday⟩ := r.dayStatus_spec k htimer hactive
  rw [hnext, hday]
  by_cases hrearm : r.RearmTick k
  · by_cases hwanted : r.Wanted (r.day k)
    · simp [hrearm, hwanted]
    · simp [hrearm, hwanted]
  · simp [hrearm, or_comm]

/-- A tick of the window fires unless the flag is set and the day does not reset it. -/
theorem firesAt_iff (k : ℕ) :
    r.FiresAt k ↔ r.InWindow k ∧ (r.RearmTick k ∨ ¬ r.Expired k) := by
  obtain ⟨htimer, hactive⟩ := r.slot_kept k
  obtain ⟨-, -, -, hfires⟩ := r.slot_step k htimer hactive
  obtain ⟨-, hday⟩ := r.dayStatus_spec k htimer hactive
  rw [hfires, ← Bool.not_eq_true, hday]
  by_cases hwindow : r.InWindow k
  · have hwanted : r.Wanted (r.day k) := hwindow.1
    by_cases hrearm : r.RearmTick k
    · simp [hrearm, hwanted, hwindow]
    · simp [hrearm, hwindow]
  · simp [hwindow]

/-- The tick of the trigger time of a day. -/
def triggerTick (d : ℕ) : ℕ := d * secondsPerDay + secTimer r.timer - r.start

/-- The tick of the turn of a day. -/
def midnightTick (d : ℕ) : ℕ := d * secondsPerDay - r.start

theorem day_mono {j k : ℕ} (hjk : j ≤ k) : r.day j ≤ r.day k :=
  Nat.div_le_div_right (Nat.add_le_add_left hjk r.start)

theorem triggerTick_spec {d : ℕ} (hd : r.start ≤ d * secondsPerDay + secTimer r.timer) :
    r.day (r.triggerTick d) = d ∧ r.sec (r.triggerTick d) = secTimer r.timer := by
  have hsec := r.secTimer_lt
  unfold day sec triggerTick
  unfold secondsPerDay at *
  omega

theorem triggerTick_inWindow {d : ℕ} (hd : r.Qualifies d) : r.InWindow (r.triggerTick d) := by
  obtain ⟨hday, hsec⟩ := r.triggerTick_spec hd.2
  refine ⟨?_, Nat.le_of_eq hsec.symm, ?_⟩
  · rw [hday]
    exact hd.1
  · rw [hsec]
    exact Nat.le_add_right _ _

/-- No tick of the same day comes before the turn of the day. -/
theorem day_lt_of_rearmTick {j k : ℕ} (hjk : j < k) (h : r.RearmTick k) : r.day j < r.day k := by
  obtain ⟨-, hsec⟩ := h
  rw [if_neg (Nat.ne_zero_of_lt hjk)] at hsec
  unfold sec at hsec
  unfold day
  unfold secondsPerDay at *
  omega

/-- Before its trigger time a wanted day does not set the flag. -/
theorem not_set_before_trigger {d i : ℕ} (hd : r.Qualifies d) (hi : i < r.triggerTick d)
    (hday : r.day i = d) :
    ¬ (r.InWindow i ∨ r.RearmTick i ∧ ¬ r.Wanted (r.day i)) := by
  intro hset
  rcases hset with hwindow | ⟨-, hunwanted⟩
  · have hsec := hwindow.2.1
    have hlt := r.secTimer_lt
    unfold triggerTick at hi
    unfold day at hday
    unfold sec at hsec
    unfold secondsPerDay at *
    omega
  · rw [hday] at hunwanted
    exact hunwanted hd.1

theorem fires_of_clear {d : ℕ} (hd : r.Qualifies d)
    (h : r.RearmTick (r.triggerTick d) ∨ ¬ r.Expired (r.triggerTick d)) : r.Fires d :=
  ⟨r.triggerTick d, (r.triggerTick_spec hd.2).1,
    (r.firesAt_iff _).mpr ⟨r.triggerTick_inWindow hd, h⟩⟩

theorem fires_of_rearmed {d : ℕ} (hd : r.Qualifies d) (h : r.Rearmed d) : r.Fires d := by
  obtain ⟨k, hk, hrearm⟩ := h
  obtain ⟨hday, -⟩ := r.triggerTick_spec hd.2
  have hle : k ≤ r.triggerTick d := by
    by_contra hlt
    have hearlier := r.day_lt_of_rearmTick (Nat.lt_of_not_le hlt) hrearm
    omega
  apply r.fires_of_clear hd
  rcases Nat.lt_or_eq_of_le hle with hlt | heq
  · refine Or.inr (r.expired_isLatch.after_reset hlt ⟨hrearm, ?_⟩ ?_)
    · rw [hk]
      exact hd.1
    · intro i hki hit
      have hlow := r.day_mono hki
      have hhigh := r.day_mono (Nat.le_of_lt hit)
      exact r.not_set_before_trigger hd hit (by omega)
  · exact Or.inl (heq ▸ hrearm)

theorem fires_of_unspent {d : ℕ} (hd : r.Qualifies d)
    (h : ∀ e, e < d → ¬ r.Due e ∧ (r.Rearmed e → r.Wanted e)) : r.Fires d := by
  obtain ⟨hday, -⟩ := r.triggerTick_spec hd.2
  apply r.fires_of_clear hd
  refine Or.inr (r.expired_isLatch.stays_clear (Nat.zero_le _) r.not_expired_zero ?_)
  intro i _ hit
  have hle := r.day_mono (Nat.le_of_lt hit)
  rcases Nat.lt_or_eq_of_le (hday ▸ hle) with hlt | heq
  · obtain ⟨hdue, hwanted⟩ := h _ hlt
    intro hset
    rcases hset with hwindow | ⟨hrearm, hunwanted⟩
    · exact hdue ⟨i, rfl, hwindow⟩
    · exact hunwanted (hwanted ⟨i, rfl, hrearm⟩)
  · exact r.not_set_before_trigger hd hit heq

/-- A day that has set the flag leaves it set for the turn of every later day. -/
theorem expired_at_midnight {j f : ℕ} (hset : r.InWindow j ∨ r.RearmTick j ∧ ¬ r.Wanted (r.day j))
    (hf : r.day j < f) : r.Expired (r.midnightTick f) := by
  induction f, hf using Nat.le_induction with
  | base =>
    have hlt : j < r.midnightTick (r.day j + 1) := by
      unfold midnightTick day secondsPerDay
      omega
    refine r.expired_isLatch.after_set hlt hset ?_
    intro i hji hi hreset
    have hlater := r.day_lt_of_rearmTick hji hreset.1
    unfold midnightTick at hi
    unfold day at hi hlater
    unfold secondsPerDay at *
    omega
  | succ f hf ih =>
    have hstart : r.start ≤ f * secondsPerDay := by
      unfold day at hf
      unfold secondsPerDay at *
      omega
    have hsec := r.secTimer_lt
    have hday : ∀ i, r.midnightTick f ≤ i → i < r.midnightTick (f + 1) → r.day i = f := by
      intro i hlow hhigh
      unfold midnightTick at hlow hhigh
      unfold day
      unfold secondsPerDay at *
      omega
    by_cases hwanted : r.Wanted f
    · -- the window of day `f` sets the flag again
      have hq : r.Qualifies f := ⟨hwanted, by omega⟩
      have hlow : r.midnightTick f ≤ r.triggerTick f := by
        unfold midnightTick triggerTick
        omega
      have hhigh : r.triggerTick f < r.midnightTick (f + 1) := by
        unfold midnightTick triggerTick
        unfold secondsPerDay at *
        omega
      refine r.expired_isLatch.after_set hhigh (Or.inl (r.triggerTick_inWindow hq)) ?_
      intro i hti hi hreset
      have hlater := r.day_lt_of_rearmTick hti hreset.1
      rw [hday _ hlow hhigh, hday i (by omega) hi] at hlater
      exact Nat.lt_irrefl f hlater
    · have hle : r.midnightTick f ≤ r.midnightTick (f + 1) := by
        unfold midnightTick
        unfold secondsPerDay at *
        omega
      refine r.expired_isLatch.stays_set hle ih ?_
      intro i hlow hhigh hreset
      rw [hday i hlow hhigh] at hreset
      exact hwanted hreset.2

theorem not_fires_of_spent {d j : ℕ} (hrearmed : ¬ r.Rearmed d)
    (hset : r.InWindow j ∨ r.RearmTick j ∧ ¬ r.Wanted (r.day j)) (hj : r.day j < d) :
    ¬ r.Fires d := by
  rintro ⟨k, hk, hfires⟩
  obtain ⟨-, hclear⟩ := (r.firesAt_iff k).mp hfires
  have hmidnight := r.expired_at_midnight hset hj
  have hle : r.midnightTick d ≤ k := by
    unfold midnightTick
    unfold day at hk
    unfold secondsPerDay at *
    omega
  have hdays : ∀ i, r.midnightTick d ≤ i → i < k → ¬ (r.RearmTick i ∧ r.Wanted (r.day i)) := by
    intro i hlow hik hreset
    have hhigh := r.day_mono (Nat.le_of_lt hik)
    refine hrearmed ⟨i, ?_, hreset.1⟩
    unfold midnightTick at hlow
    unfold day at *
    unfold secondsPerDay at *
    omega
  have hexpired : r.Expired k := r.expired_isLatch.stays_set hle hmidnight hdays
  rcases hclear with hrearm | hnot
  · exact hrearmed ⟨k, hk, hrearm⟩
  · exact hnot hexpired

/-- The device re-arms on the day itself, or nothing has used the slot up before. -/
def Ready (d : ℕ) : Prop :=
  r.Rearmed d ∨ ∀ e, e < d → ¬ r.Due e ∧ (r.Rearmed e → r.Wanted e)

theorem fires_iff {d : ℕ} (hd : r.Qualifies d) : r.Fires d ↔ r.Ready d := by
  constructor
  · intro hfires
    by_cases hrearmed : r.Rearmed d
    · exact Or.inl hrearmed
    · refine Or.inr ?_
      intro e he
      constructor
      · rintro ⟨j, rfl, hwindow⟩
        exact r.not_fires_of_spent hrearmed (Or.inl hwindow) he hfires
      · rintro ⟨j, rfl, hrearm⟩
        by_contra hunwanted
        exact r.not_fires_of_spent hrearmed (Or.inr ⟨hrearm, hunwanted⟩) he hfires
  · intro hready
    rcases hready with hrearmed | hunspent
    · exact r.fires_of_rearmed hd hrearmed
    · exact r.fires_of_unspent hd hunspent

theorem firesAt_queued {k : ℕ} (h : r.FiresAt k) :
    ⟨timerBody r.devid r.timer, none⟩ ∈
      (checkTimerAndDelay (r.pre k) (r.start + k)).cb.asyncQueue := by
  obtain ⟨after, hafter, hfired⟩ := h
  exact fired_mem_asyncQueue _ _ after _ _ (List.mem_of_getElem? hafter) hfired

end SlotRun

/-- For every run of ticks: the act of a recurring timer is queued on every day
whose weekday bit is set and whose trigger time comes after the setting if and
only if, on every such day, the device is the first of the queue at midnight, or
neither a trigger time of the slot nor a midnight of an unwanted day at the head
of the queue has come before. What fires is in the queue of the worker. -/
theorem recurring_timer_fires_iff (r : SlotRun ρ) :
    ((∀ d, r.Qualifies d → r.Fires d) ↔ ∀ d, r.Qualifies d → r.Ready d) ∧
      ∀ k, r.FiresAt k → ⟨timerBody r.devid r.timer, none⟩ ∈
        (checkTimerAndDelay (r.pre k) (r.start + k)).cb.asyncQueue := by
  refine ⟨?_, fun k hk => r.firesAt_queued hk⟩
  constructor
  · intro hall d hd
    exact (r.fires_iff hd).mp (hall d hd)
  · intro hready d hd
    exact (r.fires_iff hd).mpr (hready d hd)

def boxAt (cb : HsbDeviceCb ρ) (start : ℕ) : ℕ → HsbDeviceCb ρ
  | 0 => cb
  | k + 1 => (checkTimerAndDelay (boxAt cb start k) (start + k)).cb

def devAt (cb : HsbDeviceCb ρ) (start pos : ℕ) (dev : HsbDev) : ℕ → HsbDev
  | 0 => dev
  | k + 1 =>
      (checkDevTimerAndDelay (boxAt cb start k).workMode (start + k)
        (if pos = 0 then (boxAt cb start k).secToday else (start + k) % secondsPerDay)
        (devAt cb start pos dev k)).dev

theorem boxAt_workMode (cb : HsbDeviceCb ρ) (start k : ℕ) :
    (boxAt cb start k).workMode = cb.workMode := by
  induction k with
  | zero => rfl
  | succ k ih => exact (checkTimerAndDelay_workMode _ _).trans ih

theorem devAt_fields (cb : HsbDeviceCb ρ) (start pos : ℕ) (dev : HsbDev) (k : ℕ) :
    (devAt cb start pos dev k).id = dev.id ∧
      (devAt cb start pos dev k).workMode = dev.workMode := by
  induction k with
  | zero => exact ⟨rfl, rfl⟩
  | succ k ih =>
    obtain ⟨hid, hworkMode⟩ := checkDev_fields (boxAt cb start k).workMode (start + k)
      (if pos = 0 then (boxAt cb start k).secToday else (start + k) % secondsPerDay)
      (devAt cb start pos dev k)
    exact ⟨hid.trans ih.1, hworkMode.trans ih.2⟩

theorem devs_boxAt (cb : HsbDeviceCb ρ) (start pos : ℕ) (dev : HsbDev) (k : ℕ)
    (h : (boxAt cb start k).queue[pos]? = some (devAt cb start pos dev k)) :
    ((checkTimerAndDelay (boxAt cb start k) (start + k)).devs[pos]?).map DevTick.dev =
      some (devAt cb start pos dev (k + 1)) := by
  have hdevs := checkQueue_getElem? (boxAt cb start k).workMode (start + k)
    (boxAt cb start k).secToday (boxAt cb start k).queue pos
  rw [h] at hdevs
  exact congrArg (Option.map DevTick.dev) hdevs

theorem boxAt_queue (cb : HsbDeviceCb ρ) (start pos : ℕ) (dev : HsbDev)
    (h : cb.queue[pos]? = some dev) (k : ℕ) :
    (boxAt cb start k).queue[pos]? = some (devAt cb start pos dev k) := by
  induction k with
  | zero => exact h
  | succ k ih =>
    have hnext := devs_boxAt cb start pos dev k ih
    rw [← List.getElem?_map, ← checkTimerAndDelay_queue] at hnext
    exact hnext

/-- The run of a slot that has just been set in such a box. -/
def leftAlone (cb : HsbDeviceCb ρ) (start pos : ℕ) (dev : HsbDev)
    (slot : Fin hsbDevMaxTimerNum) (timer : HsbTimer) (hdev : cb.queue[pos]? = some dev)
    (hinitial : ArmedSlot dev slot timer)
    (hdevMode : checkBit dev.workMode.toNat cb.workMode.toNat = true)
    (htimerMode : checkBit timer.workMode.toNat cb.workMode.toNat = true) : SlotRun ρ where
  start := start
  devid := dev.id
  slot := slot
  timer := timer
  pre := boxAt cb start
  pos := fun _ => pos
  dev := devAt cb start pos dev
  online := boxAt_queue cb start pos dev hdev
  same := fun k => (devAt_fields cb start pos dev k).1
  initial := hinitial
  kept := by
    intro k after hafter
    have hnext := devs_boxAt cb start pos dev k (boxAt_queue cb start pos dev hdev k)
    rw [hafter] at hnext
    rw [← Option.some.inj hnext]
  secToday := fun _ => rfl
  devMode := by
    intro k
    rw [(devAt_fields cb start pos dev k).2, boxAt_workMode]
    exact hdevMode
  timerMode := by
    intro k
    rw [boxAt_workMode]
    exact htimerMode

/-- Two devices in the queue and a daily timer at noon on the second of them. -/
def noonTimer : HsbTimer := { workMode := 0xFF, hour := 12, wday := 0x7F, actParam1 := 1 }

def plainDev (id : UInt32) : HsbDev := { id := id, info := {}, driver := ⟨1⟩, op := none }

def noonDev : HsbDev :=
  { plainDev 2 with
    timer := (Vector.replicate _ {}).set 0 noonTimer
    timerStatus := (Vector.replicate _ {}).set 0 { active := true, expired := false } }

def noonBox : HsbDeviceCb ℕ := { queue := [plainDev 1, noonDev] }

theorem noonTimer_armed : ArmedSlot noonDev 0 noonTimer :=
  ⟨by decide, by decide, by decide, rfl, rfl, rfl⟩

def noonRun : SlotRun ℕ := leftAlone noonBox 0 1 noonDev 0 noonTimer rfl noonTimer_armed rfl rfl

/-- The second device is switched at noon of the first day and not on the second. -/
theorem second_device_skips_second_day :
    Device.setDevTimer ({ queue := [plainDev 1, plainDev 2] } : HsbDeviceCb ℕ) 2 noonTimer =
        .ok (noonRun.pre 0) ∧
      noonRun.Fires 0 ∧ ¬ ∀ d, noonRun.Qualifies d → noonRun.Fires d := by
  have hfirst : noonRun.Qualifies 0 := ⟨rfl, Nat.zero_le _⟩
  have hsecond : noonRun.Qualifies 1 := ⟨rfl, Nat.zero_le _⟩
  have hdue : noonRun.Due 0 := ⟨noonRun.triggerTick 0, (noonRun.triggerTick_spec hfirst.2).1,
    noonRun.triggerTick_inWindow hfirst⟩
  refine ⟨rfl, noonRun.fires_of_unspent hfirst ?_, ?_⟩
  · intro e he
    exact absurd he (Nat.not_lt_zero e)
  · intro hall
    rcases (noonRun.fires_iff hsecond).mp (hall 1 hsecond) with hrearmed | hunspent
    · obtain ⟨k, -, hpos, -⟩ := hrearmed
      contradiction
    · exact (hunspent 0 Nat.one_pos).1 hdue

end HomeSecurityBox.TimerDays
