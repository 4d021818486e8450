import HomeSecurityBox.RegistryRuns

/-!
What the timers of a box never do, over runs in which devices come, go and are
configured between ticks at any gaps. A slot that has acted is expired or blank.
Re-arming takes a second of the day below the last one that a tick has stored,
which the rest of that day cannot bring: every later tick stores a later second.
-/

namespace HomeSecurityBox.TimerSafety

open ByteMemory Protocol DeviceData Device DeviceEvents Registry TcpPacket TimerTick Box
  RegistryRuns Transitions

variable {ρ : Type}

/-- The tick queues the act of a timer slot. -/
def FiresTimer (cb : HsbDeviceCb ρ) (now : ℕ) (key : DevKey) (i : Fin hsbDevMaxTimerNum) :
    Prop :=
  ∃ tick ∈ (checkTimerAndDelay cb now).devs, devKey tick.dev = key ∧
    ∃ body, (Source.timer i, body) ∈ tick.fired

/-- A timer slot of an online device may act at `now`. -/
structure DueAt (cb : HsbDeviceCb ρ) (now : ℕ) (dev : HsbDev) (i : Fin hsbDevMaxTimerNum) :
    Prop where
  online : dev ∈ cb.queue
  active : (dev.timerStatus.get i).active = true
  devMode : checkBit dev.workMode.toNat cb.workMode.toNat = true
  timerMode : checkBit (dev.timer.get i).workMode.toNat cb.workMode.toNat = true
  weekday : checkBit (dev.timer.get i).wday.toNat (localtime now).wday = true
  notBefore : secTimer (dev.timer.get i) ≤ now % secondsPerDay
  notAfter : now % secondsPerDay ≤ secTimer (dev.timer.get i) + 5

/-- A step sets or deletes the timer slot. -/
def Rewrites (s : BoxState ρ) (key : DevKey) (i : Fin hsbDevMaxTimerNum) : BoxStep ρ → Prop
  | .packet buf len _ =>
      checkTcpPktValid buf len = 0 ∧ (findDev s.cb (get32 buf 4)).map devKey = some key ∧
        (get16 buf 8).toNat = i.val ∧
        (HsbCmd.ofCode (get16 buf 0) = some .setTimer ∨
          HsbCmd.ofCode (get16 buf 0) = some .delTimer)
  | _ => False

instance (s : BoxState ρ) (key : DevKey) (i : Fin hsbDevMaxTimerNum) :
    (step : BoxStep ρ) → Decidable (Rewrites s key i step)
  | .packet buf len _ => inferInstanceAs (Decidable
      (checkTcpPktValid buf len = 0 ∧ (findDev s.cb (get32 buf 4)).map devKey = some key ∧
        (get16 buf 8).toNat = i.val ∧
        (HsbCmd.ofCode (get16 buf 0) = some .setTimer ∨
          HsbCmd.ofCode (get16 buf 0) = some .delTimer)))
  | .online .. | .offline _ | .event .. | .mode _ | .act _ | .tick _ =>
      inferInstanceAs (Decidable False)

/-- The slot will not act before it is re-armed or set. -/
def Spent (i : Fin hsbDevMaxTimerNum) (dev : HsbDev) : Prop :=
  (dev.timerStatus.get i).active = true → (dev.timerStatus.get i).expired = true

def Inactive (i : Fin hsbDevMaxTimerNum) (dev : HsbDev) : Prop :=
  (dev.timerStatus.get i).active = false

/-- The slot is blank or was never set, wherever its device is. -/
def SlotInactive (key : DevKey) (i : Fin hsbDevMaxTimerNum) (s : BoxState ρ) : Prop :=
  ∀ dev ∈ (roster s.cb).members, devKey dev = key → Inactive i dev

/-- The run between `s` and `t` leaves the slot as it was set. -/
def KeepsSlot (key : DevKey) (i : Fin hsbDevMaxTimerNum) (s : BoxState ρ)
    (steps : List (BoxStep ρ)) (t : BoxState ρ) : Prop :=
  Guarded boxStep (fun s step => ¬ Rewrites s key i step) s steps ∧
    run boxStep s steps = some t

/-- Behind `s` the slot does not act on the day of `now` while it is not rewritten. -/
def NotAgainThatDay (s : BoxState ρ) (now : ℕ) (key : DevKey) (i : Fin hsbDevMaxTimerNum) :
    Prop :=
  ∀ steps t later, KeepsSlot key i s steps t → t.clock ≤ later →
    later / secondsPerDay = now / secondsPerDay → ¬ FiresTimer t.cb later key i

/-- Behind `s` the slot is inactive and does not act while it is not rewritten. -/
def NeverAgain (s : BoxState ρ) (key : DevKey) (i : Fin hsbDevMaxTimerNum) : Prop :=
  ∀ steps t later, KeepsSlot key i s steps t →
    SlotInactive key i t ∧ ¬ FiresTimer t.cb later key i

/-- What a tick at `now` from `s` to `s'` may do with the timers. -/
structure SafeTick (s s' : BoxState ρ) (now : ℕ) : Prop where
  queued : s'.cb.asyncQueue = s.cb.asyncQueue ++
    (((checkTimerAndDelay s.cb now).devs.map DevTick.fired).flatten.map Prod.snd).map
      fun body => (⟨body, none⟩ : HsbAct ρ)
  due : ∀ tick ∈ (checkTimerAndDelay s.cb now).devs, ∀ i body,
    (Source.timer i, body) ∈ tick.fired →
      ∃ dev, DueAt s.cb now dev i ∧ devKey dev = devKey tick.dev ∧
        body = timerBody dev.id (dev.timer.get i)
  devices : ((checkTimerAndDelay s.cb now).devs.map fun tick => devKey tick.dev).Nodup
  sources : ∀ tick ∈ (checkTimerAndDelay s.cb now).devs, (tick.fired.map Prod.fst).Nodup
  oncePerDay : ∀ key i, FiresTimer s.cb now key i → NotAgainThatDay s' now key i
  oneShot : ∀ dev ∈ s.cb.queue, ∀ i, checkBit (dev.timer.get i).wday.toNat 7 = true →
    FiresTimer s.cb now (devKey dev) i → NeverAgain s' (devKey dev) i

theorem checkDev_key (workMode : UInt32) (now last : ℕ) (dev : HsbDev) :
    devKey (checkDevTimerAndDelay workMode now last dev).dev = devKey dev :=
  congrArg Prod.fst (checkDev_entry workMode now last dev)

theorem timerDue_spec {workMode : UInt32} {now : ℕ} {timer : HsbTimer} {status : HsbTimerStatus}
    (h : timerDue workMode (localtime now) timer status = true) :
    status.active = true ∧ status.expired = false ∧
      checkBit timer.workMode.toNat workMode.toNat = true ∧
      checkBit timer.wday.toNat (localtime now).wday = true ∧
      secTimer timer ≤ now % secondsPerDay ∧ now % secondsPerDay ≤ secTimer timer + 5 := by
  have hactive : status.active = true := by
    by_contra hoff
    simp [timerDue, hoff] at h
  have hmode : checkBit timer.workMode.toNat workMode.toNat = true := by
    by_contra hoff
    simp [timerDue, hoff] at h
  obtain ⟨hexpired, hday, hlow, hhigh⟩ :=
    (timerDue_iff workMode now timer status hactive hmode).mp h
  exact ⟨hactive, hexpired, hmode, hday, hlow, hhigh⟩

/-- Re-arming keeps whether a slot is active. -/
theorem atDayStart_active (now last : ℕ) (dev : HsbDev) (i : Fin hsbDevMaxTimerNum) :
    ((atDayStart now last dev).timerStatus.get i).active = (dev.timerStatus.get i).active := by
  rcases atDayStart_cases now last dev with h | h
  · rw [h]
    simp only [rearmDev, get_ofFn, rearmTimer]
    split <;> rfl
  · rw [h]

/-- Without the turn of a day the device is checked as it is. -/
theorem atDayStart_same_day {now last : ℕ} (h : last ≤ now % secondsPerDay) (dev : HsbDev) :
    atDayStart now last dev = dev := by
  apply if_neg
  rw [secToday_localtime]
  omega

theorem checkSlots_timerStatus (workMode : UInt32) (now : ℕ) (dev : HsbDev)
    (i : Fin hsbDevMaxTimerNum) :
    (checkSlots workMode now dev).timerStatus.get i =
      (checkTimer workMode (localtime now) (dev.timer.get i) (dev.timerStatus.get i)).2 := by
  simp only [checkSlots, get_ofFn]
  rfl

theorem checkTimer_not_due (workMode : UInt32) (tm : Tm) (timer : HsbTimer)
    (status : HsbTimerStatus) (h : timerDue workMode tm timer status = false) :
    (checkTimer workMode tm timer status).2 = status := by
  simp only [checkTimer, h, Bool.not_false, if_true]

theorem checkTimer_due (workMode : UInt32) (tm : Tm) (timer : HsbTimer)
    (status : HsbTimerStatus) (h : timerDue workMode tm timer status = true) :
    (checkTimer workMode tm timer status).2 =
      if checkBit timer.wday.toNat 7 then {} else { status with expired := true } := by
  simp only [checkTimer, h, Bool.not_true, Bool.false_eq_true, if_false]
  split <;> rfl

/-- A slot is spent by its act, a one-shot timer for good. -/
theorem checkSlots_due {workMode : UInt32} {now : ℕ} {dev : HsbDev} {i : Fin hsbDevMaxTimerNum}
    (h : timerDue workMode (localtime now) (dev.timer.get i) (dev.timerStatus.get i) = true) :
    Spent i (checkSlots workMode now dev) ∧
      (checkBit (dev.timer.get i).wday.toNat 7 = true →
        Inactive i (checkSlots workMode now dev)) := by
  unfold Spent Inactive
  rw [checkSlots_timerStatus, checkTimer_due _ _ _ _ h]
  by_cases honeShot : checkBit (dev.timer.get i).wday.toNat 7 = true
  · rw [if_pos honeShot]
    exact ⟨fun hactive => absurd hactive (by decide), fun _ => rfl⟩
  · rw [if_neg honeShot]
    exact ⟨fun _ => rfl, fun h => absurd h honeShot⟩

theorem checkDev_fired {workMode : UInt32} {now last : ℕ} {dev : HsbDev}
    {i : Fin hsbDevMaxTimerNum} {body : HsbActBody}
    (h : (Source.timer i, body) ∈ (checkDevTimerAndDelay workMode now last dev).fired) :
    checkBit dev.workMode.toNat workMode.toNat = true ∧
      timerDue workMode (localtime now) (dev.timer.get i)
        ((atDayStart now last dev).timerStatus.get i) = true ∧
      body = timerBody dev.id (dev.timer.get i) ∧
      Spent i (checkDevTimerAndDelay workMode now last dev).dev ∧
      (checkBit (dev.timer.get i).wday.toNat 7 = true →
        Inactive i (checkDevTimerAndDelay workMode now last dev).dev) := by
  obtain ⟨htimers, hid, -⟩ := atDayStart_fields now last dev
  rcases checkDev_cases workMode now last dev with ⟨-, hcheck⟩ | ⟨hmode, hcheck⟩
  · rw [hcheck] at h
    exact absurd h List.not_mem_nil
  · rw [hcheck] at h ⊢
    obtain ⟨hdue, hbody⟩ := (mem_firedSlots_timer _ _ _ _ _).mp h
    obtain ⟨hspent, hinactive⟩ := checkSlots_due hdue
    rw [htimers] at hdue hbody hinactive
    rw [hid] at hbody
    exact ⟨hmode, hdue, hbody, hspent, hinactive⟩

/-- Away from the turn of a day a spent slot stays spent. -/
theorem checkDev_spent {workMode : UInt32} {now last : ℕ} {dev : HsbDev}
    {i : Fin hsbDevMaxTimerNum} (hlast : last ≤ now % secondsPerDay) (h : Spent i dev) :
    Spent i (checkDevTimerAndDelay workMode now last dev).dev := by
  have hnotDue : timerDue workMode (localtime now) (dev.timer.get i) (dev.timerStatus.get i) =
      false := by
    by_contra hdue
    obtain ⟨hactive, hexpired, -⟩ := timerDue_spec (Bool.of_not_eq_false hdue)
    rw [h hactive] at hexpired
    contradiction
  rcases checkDev_cases workMode now last dev with ⟨-, hcheck⟩ | ⟨-, hcheck⟩
  · rw [hcheck, atDayStart_same_day hlast]
    exact h
  · rw [hcheck, atDayStart_same_day hlast]
    unfold Spent
    simp only [checkSlots_timerStatus, checkTimer_not_due _ _ _ _ hnotDue]
    exact h

theorem checkDev_inactive {workMode : UInt32} {now last : ℕ} {dev : HsbDev}
    {i : Fin hsbDevMaxTimerNum} (h : Inactive i dev) :
    Inactive i (checkDevTimerAndDelay workMode now last dev).dev := by
  have hstart : Inactive i (atDayStart now last dev) := (atDayStart_active now last dev i).trans h
  rcases checkDev_cases workMode now last dev with ⟨-, hcheck⟩ | ⟨-, hcheck⟩
  · rw [hcheck]
    exact hstart
  · have hnotDue : timerDue workMode (localtime now) ((atDayStart now last dev).timer.get i)
        ((atDayStart now last dev).timerStatus.get i) = false := by
      by_contra hdue
      obtain ⟨hactive, -⟩ := timerDue_spec (Bool.of_not_eq_false hdue)
      rw [hstart] at hactive
      contradiction
    rw [hcheck]
    unfold Inactive
    simp only [checkSlots_timerStatus, checkTimer_not_due _ _ _ _ hnotDue]
    exact hstart

theorem timerTable_put_other {i : ℕ} (hi : i < timerTable.size) (timer : HsbTimer)
    (f : HsbTimerStatus → HsbTimerStatus) (dev : HsbDev) (j : Fin hsbDevMaxTimerNum)
    (hj : j.val ≠ i) :
    (timerTable.put i hi timer f dev).timerStatus.get j = dev.timerStatus.get j :=
  (timerTable_lawful.stats_put i hi timer f dev j.val j.isLt).trans (if_neg hj)

theorem packetWrite_timerStatus {s : BoxState ρ} {buf : Memory} {len : ℕ} {reply : ρ}
    {found : HsbDev} {f : HsbDev → HsbDev} {i : Fin hsbDevMaxTimerNum}
    (haccept : checkTcpPktValid buf len = 0) (hfind : findDev s.cb (get32 buf 4) = some found)
    (hwrite : PacketWrite buf found f)
    (hother : ¬ Rewrites s (devKey found) i (.packet buf len reply)) :
    (f found).timerStatus.get i = found.timerStatus.get i := by
  have hkey : (findDev s.cb (get32 buf 4)).map devKey = some (devKey found) :=
    congrArg (Option.map devKey) hfind
  cases hwrite with
  | setTimer hcmd hslot =>
    apply timerTable_put_other
    intro hsame
    exact hother ⟨haccept, hkey, hsame.symm, Or.inl hcmd⟩
  | delTimer hcmd hslot _ =>
    apply timerTable_put_other
    intro hsame
    exact hother ⟨haccept, hkey, hsame.symm, Or.inr hcmd⟩
  | setDelay | delDelay | setLinkage | delLinkage => rfl

/-- Only the tick moves the clock and the last second of the day. -/
theorem effect_clock {s s' : BoxState ρ} {step : BoxStep ρ} (h : Effect s step s') :
    (s'.clock = s.clock ∧ s'.cb.secToday = s.cb.secToday ∧ ∀ now, step ≠ .tick now) ∨
      ∃ now, step = .tick now ∧ s.clock ≤ now ∧ s'.clock = now ∧
        (s'.cb.secToday = s.cb.secToday ∨ s'.cb.secToday = now % secondsPerDay) := by
  cases h with
  | quiet _ htick hsame => exact Or.inl ⟨rfl, hsame.secToday, htick⟩
  | written _ hwritten =>
    obtain ⟨found, f, -, -, rfl⟩ := hwritten
    exact Or.inl ⟨rfl, rfl, nofun⟩
  | created _ _ => exact Or.inl ⟨rfl, rfl, nofun⟩
  | returned _ _ => exact Or.inl ⟨rfl, rfl, nofun⟩
  | left _ => exact Or.inl ⟨rfl, rfl, nofun⟩
  | @ticked now hclock =>
    refine Or.inr ⟨now, rfl, hclock, rfl, ?_⟩
    by_cases hqueue : s.cb.queue = []
    · refine Or.inl ?_
      simp only [checkTimerAndDelay, pushOwnActs_eq, hqueue, checkQueue, List.getLast?_nil,
        Option.map_none, Option.getD_none]
    · exact Or.inr (checkTimerAndDelay_secToday s.cb now hqueue)

/-- A slot acted at `fired`, and the clock stores a second from then on. -/
structure SpentSince (key : DevKey) (i : Fin hsbDevMaxTimerNum) (fired : ℕ) (s : BoxState ρ) :
    Prop where
  reached : fired ≤ s.clock
  last : ∃ τ, fired ≤ τ ∧ τ ≤ s.clock ∧ s.cb.secToday = τ % secondsPerDay
  spent : s.clock / secondsPerDay = fired / secondsPerDay →
    ∀ dev ∈ (roster s.cb).members, devKey dev = key → Spent i dev

/-- Within the day of the act no tick can compare with a later second. -/
theorem SpentSince.last_le {key : DevKey} {i : Fin hsbDevMaxTimerNum} {fired : ℕ}
    {s : BoxState ρ} (h : SpentSince key i fired s) {now : ℕ} (hclock : s.clock ≤ now)
    (hday : now / secondsPerDay = fired / secondsPerDay) {last : ℕ}
    (hlast : last = s.cb.secToday ∨ last = now % secondsPerDay) :
    last ≤ now % secondsPerDay := by
  obtain ⟨τ, hlow, hhigh, hsec⟩ := h.last
  rcases hlast with rfl | rfl
  · rw [hsec]
    unfold secondsPerDay at *
    omega
  · exact Nat.le_refl _

theorem SpentSince.same_day {key : DevKey} {i : Fin hsbDevMaxTimerNum} {fired : ℕ}
    {s : BoxState ρ} (h : SpentSince key i fired s) {now : ℕ} (hclock : s.clock ≤ now)
    (hday : now / secondsPerDay = fired / secondsPerDay) :
    ∀ dev ∈ (roster s.cb).members, devKey dev = key → Spent i dev := by
  apply h.spent
  have hreached := h.reached
  unfold secondsPerDay at *
  omega

/-- What a step keeps of a slot that it does not rewrite. -/
theorem effect_slot {s s' : BoxState ρ} {step : BoxStep ρ} (h : Effect s step s')
    {key : DevKey} {i : Fin hsbDevMaxTimerNum} (hother : ¬ Rewrites s key i step)
    {P : HsbDev → Prop} (hstatus : ∀ dev dev', dev'.timerStatus.get i = dev.timerStatus.get i →
      P dev → P dev')
    (hnew : ∀ id info drv op, P { id := id, info := info, driver := drv, op := op })
    (htick : ∀ now last dev, step = .tick now → s.clock ≤ now →
      (last = s.cb.secToday ∨ last = now % secondsPerDay) → P dev →
      P (checkDevTimerAndDelay s.cb.workMode now last dev).dev)
    (hs : ∀ dev ∈ (roster s.cb).members, devKey dev = key → P dev) :
    ∀ dev ∈ (roster s'.cb).members, devKey dev = key → P dev := by
  refine effect_forall_members (P := fun dev => devKey dev = key → P dev) h ?_ ?_ ?_ hs
  · intro id info drv op _
    exact hnew id info drv op
  · intro buf len reply found f hstep haccept hfind hwrite hfound hkey
    have hsame : devKey (f found) = devKey found :=
      congrArg Prod.fst (packetWrite_entry hwrite found)
    rw [hsame] at hkey
    apply hstatus found (f found) ?_ (hfound hkey)
    apply packetWrite_timerStatus haccept hfind hwrite
    rw [hkey, ← hstep]
    exact hother
  · intro now last dev hstep hclock hlast hdev hkey
    rw [checkDev_key] at hkey
    exact htick now last dev hstep hclock hlast (hdev hkey)

theorem inactive_of_status {i : Fin hsbDevMaxTimerNum} (dev dev' : HsbDev)
    (hstatus : dev'.timerStatus.get i = dev.timerStatus.get i) (h : Inactive i dev) :
    Inactive i dev' := by
  unfold Inactive
  rw [hstatus]
  exact h

theorem spent_of_status {i : Fin hsbDevMaxTimerNum} (dev dev' : HsbDev)
    (hstatus : dev'.timerStatus.get i = dev.timerStatus.get i) (h : Spent i dev) :
    Spent i dev' := by
  unfold Spent
  rw [hstatus]
  exact h

theorem inactive_new (i : Fin hsbDevMaxTimerNum) (id : UInt32) (info : HsbDevInfo)
    (drv : HsbDevDrv) (op : Option HsbDevOp) :
    Inactive i { id := id, info := info, driver := drv, op := op } := by
  simp only [Inactive, get_replicate]

theorem Inactive.spent {i : Fin hsbDevMaxTimerNum} {dev : HsbDev} (h : Inactive i dev) :
    Spent i dev := by
  intro hactive
  rw [h] at hactive
  contradiction

/-- A blank slot stays blank until it is set. -/
theorem effect_inactive {s s' : BoxState ρ} {step : BoxStep ρ} (h : Effect s step s')
    {key : DevKey} {i : Fin hsbDevMaxTimerNum} (hother : ¬ Rewrites s key i step)
    (hs : SlotInactive key i s) : SlotInactive key i s' :=
  effect_slot h hother inactive_of_status (inactive_new i)
    (fun _ _ _ _ _ _ hdev => checkDev_inactive hdev) hs

theorem effect_spentSince {s s' : BoxState ρ} {step : BoxStep ρ} (h : Effect s step s')
    {key : DevKey} {i : Fin hsbDevMaxTimerNum} {fired : ℕ} (hother : ¬ Rewrites s key i step)
    (hs : SpentSince key i fired s) : SpentSince key i fired s' := by
  rcases effect_clock h with ⟨hclock, hsec, hnotTick⟩ | ⟨now, rfl, hlow, hclock, hsec⟩
  · refine ⟨hclock ▸ hs.reached, ?_, ?_⟩
    · rw [hclock, hsec]
      exact hs.last
    · rw [hclock]
      intro hday
      refine effect_slot h hother spent_of_status ?_ ?_ (hs.spent hday)
      · intro id info drv op
        exact (inactive_new i id info drv op).spent
      · intro now last dev htick
        exact absurd htick (hnotTick now)
  · have hreached := hs.reached
    refine ⟨by omega, ?_, ?_⟩
    · obtain ⟨τ, hτlow, hτhigh, hτ⟩ := hs.last
      rw [hclock]
      rcases hsec with hkept | hstored
      · exact ⟨τ, hτlow, by omega, hkept.trans hτ⟩
      · exact ⟨now, by omega, Nat.le_refl now, hstored⟩
    · rw [hclock]
      intro hday
      refine effect_slot h hother spent_of_status ?_ ?_ (hs.same_day hlow hday)
      · intro id info drv op
        exact (inactive_new i id info drv op).spent
      · intro now' last dev htick hlow' hlast hdev
        obtain rfl := BoxStep.tick.inj htick
        exact checkDev_spent (hs.last_le hlow hday hlast) hdev

/-- A tick goes over the online devices; each keeps its key. -/
theorem tick_device {cb : HsbDeviceCb ρ} {now : ℕ} {tick : DevTick}
    (htick : tick ∈ (checkTimerAndDelay cb now).devs) :
    ∃ dev ∈ cb.queue, devKey dev = devKey tick.dev ∧
      ∃ last, (last = cb.secToday ∨ last = now % secondsPerDay) ∧
        tick = checkDevTimerAndDelay cb.workMode now last dev := by
  obtain ⟨dev, hdev, last, hlast, rfl⟩ := mem_checkQueue htick
  exact ⟨dev, hdev, (checkDev_key cb.workMode now last dev).symm, last, hlast, rfl⟩

theorem not_fires_of_spent {key : DevKey} {i : Fin hsbDevMaxTimerNum} {fired : ℕ}
    {s : BoxState ρ} (hs : SpentSince key i fired s) {now : ℕ} (hclock : s.clock ≤ now)
    (hday : now / secondsPerDay = fired / secondsPerDay) : ¬ FiresTimer s.cb now key i := by
  rintro ⟨tick, htick, hkey, body, hfired⟩
  obtain ⟨dev, hdev, hdevKey, last, hlast, rfl⟩ := tick_device htick
  have hspent : Spent i dev := hs.same_day hclock hday dev (List.mem_append_left _ hdev)
    (hdevKey.trans hkey)
  obtain ⟨-, hdue, -⟩ := checkDev_fired hfired
  rw [atDayStart_same_day (hs.last_le hclock hday hlast)] at hdue
  obtain ⟨hactive, hexpired, -⟩ := timerDue_spec hdue
  rw [hspent hactive] at hexpired
  contradiction

theorem not_fires_of_inactive {key : DevKey} {i : Fin hsbDevMaxTimerNum} {s : BoxState ρ}
    (hs : SlotInactive key i s) (now : ℕ) : ¬ FiresTimer s.cb now key i := by
  rintro ⟨tick, htick, hkey, body, hfired⟩
  obtain ⟨dev, hdev, hdevKey, last, -, rfl⟩ := tick_device htick
  have hinactive : Inactive i dev := hs dev (List.mem_append_left _ hdev) (hdevKey.trans hkey)
  obtain ⟨-, hdue, -⟩ := checkDev_fired hfired
  obtain ⟨hactive, -⟩ := timerDue_spec hdue
  rw [atDayStart_active, hinactive] at hactive
  contradiction

theorem firedSlots_nodup (workMode : UInt32) (now : ℕ) (dev : HsbDev) :
    ((firedSlots workMode now dev).map Prod.fst).Nodup := by
  simp only [firedSlots, List.map_append, List.map_map, Function.comp_def]
  refine List.nodup_append.mpr ⟨?_, ?_, ?_⟩
  · apply List.Nodup.map
    · intro i j hij
      exact Source.timer.inj hij
    · exact (List.nodup_finRange _).filter _
  · apply List.Nodup.map
    · intro i j hij
      exact Source.delay.inj hij
    · exact (List.nodup_finRange _).filter _
  · intro timer htimer delay hdelay
    obtain ⟨i, -, rfl⟩ := List.mem_map.mp htimer
    obtain ⟨j, -, rfl⟩ := List.mem_map.mp hdelay
    exact Source.noConfusion

theorem tick_sources_nodup {cb : HsbDeviceCb ρ} {now : ℕ} {tick : DevTick}
    (htick : tick ∈ (checkTimerAndDelay cb now).devs) : (tick.fired.map Prod.fst).Nodup := by
  obtain ⟨dev, -, last, -, rfl⟩ := mem_checkQueue htick
  rcases checkDev_cases cb.workMode now last dev with ⟨-, hcheck⟩ | ⟨-, hcheck⟩
  · rw [hcheck]
    exact List.nodup_nil
  · rw [hcheck]
    exact firedSlots_nodup cb.workMode now _

theorem fired_due {cb : HsbDeviceCb ρ} {now : ℕ} {tick : DevTick}
    (htick : tick ∈ (checkTimerAndDelay cb now).devs) {i : Fin hsbDevMaxTimerNum}
    {body : HsbActBody} (hfired : (Source.timer i, body) ∈ tick.fired) :
    ∃ dev, DueAt cb now dev i ∧ devKey dev = devKey tick.dev ∧
      body = timerBody dev.id (dev.timer.get i) := by
  obtain ⟨dev, hdev, hdevKey, last, -, rfl⟩ := tick_device htick
  obtain ⟨hdevMode, hdue, hbody, -⟩ := checkDev_fired hfired
  obtain ⟨hactive, -, htimerMode, hweekday, hlow, hhigh⟩ := timerDue_spec hdue
  rw [atDayStart_active] at hactive
  exact ⟨dev, ⟨hdev, hactive, hdevMode, htimerMode, hweekday, hlow, hhigh⟩, hdevKey, hbody⟩

theorem boxStep_tick {s s' : BoxState ρ} {now : ℕ} (h : boxStep s (.tick now) = some s') :
    s' = { s with cb := (checkTimerAndDelay s.cb now).cb, clock := now } := by
  simp only [boxStep] at h
  split at h
  · exact (Option.some.inj h).symm
  · contradiction

/-- The device whose slot has acted is the only one under its key. -/
theorem fired_member {s s' : BoxState ρ} {now : ℕ} (hstep : boxStep s (.tick now) = some s')
    (hkeys : (roster s'.cb).Distinct devKey) {tick : DevTick}
    (htick : tick ∈ (checkTimerAndDelay s.cb now).devs) {dev : HsbDev}
    (hdev : dev ∈ (roster s'.cb).members) (hkey : devKey dev = devKey tick.dev) :
    dev = tick.dev := by
  have hqueue : s'.cb.queue = (checkTimerAndDelay s.cb now).devs.map DevTick.dev := by
    rw [boxStep_tick hstep]
    exact checkTimerAndDelay_queue s.cb now
  have hmem : tick.dev ∈ (roster s'.cb).members := by
    apply List.mem_append_left
    show tick.dev ∈ s'.cb.queue
    rw [hqueue]
    exact List.mem_map_of_mem htick
  exact hkeys.eq_of_mem hdev hmem hkey

theorem fires_spentSince {s s' : BoxState ρ} {now : ℕ} (hstep : boxStep s (.tick now) = some s')
    (hkeys : (roster s'.cb).Distinct devKey) {key : DevKey} {i : Fin hsbDevMaxTimerNum}
    (hfires : FiresTimer s.cb now key i) : SpentSince key i now s' := by
  obtain ⟨tick, htick, rfl, body, hfired⟩ := hfires
  have hnonempty : s.cb.queue ≠ [] := by
    obtain ⟨dev, hdev, -⟩ := mem_checkQueue htick
    exact List.ne_nil_of_mem hdev
  refine ⟨?_, ⟨now, Nat.le_refl now, ?_, ?_⟩, ?_⟩
  · rw [boxStep_tick hstep]
  · rw [boxStep_tick hstep]
  · rw [boxStep_tick hstep]
    exact checkTimerAndDelay_secToday s.cb now hnonempty
  · intro _ dev hdev hkey
    rw [fired_member hstep hkeys htick hdev hkey]
    obtain ⟨found, -, last, -, rfl⟩ := mem_checkQueue htick
    obtain ⟨-, -, -, hspent, -⟩ := checkDev_fired hfired
    exact hspent

theorem oneShot_inactive {s s' : BoxState ρ} {now : ℕ} (hstep : boxStep s (.tick now) = some s')
    (hkeys : (roster s.cb).Distinct devKey) (hkeys' : (roster s'.cb).Distinct devKey)
    {dev : HsbDev} (hdev : dev ∈ s.cb.queue) {i : Fin hsbDevMaxTimerNum}
    (honeShot : checkBit (dev.timer.get i).wday.toNat 7 = true)
    (hfires : FiresTimer s.cb now (devKey dev) i) : SlotInactive (devKey dev) i s' := by
  obtain ⟨tick, htick, htickKey, body, hfired⟩ := hfires
  intro dev' hdev' hkey'
  rw [fired_member hstep hkeys' htick hdev' (hkey'.trans htickKey.symm)]
  obtain ⟨found, hfound, hfoundKey, last, -, rfl⟩ := tick_device htick
  have hsame : found = dev := hkeys.eq_of_mem (List.mem_append_left _ hfound)
    (List.mem_append_left _ hdev) (hfoundKey.trans htickKey)
  obtain ⟨-, -, -, -, hinactive⟩ := checkDev_fired hfired
  apply hinactive
  rw [hsame]
  exact honeShot

theorem spentSince_run {key : DevKey} {i : Fin hsbDevMaxTimerNum} {fired : ℕ} {s t : BoxState ρ}
    {steps : List (BoxStep ρ)} (hs : SpentSince key i fired s)
    (hkeeps : KeepsSlot key i s steps t) : SpentSince key i fired t :=
  run_invariant_guarded
    (fun _ _ _ hs hother hstep => effect_spentSince (boxStep_effect hstep) hother hs)
    steps s t hs hkeeps.1 hkeeps.2

theorem slotInactive_run {key : DevKey} {i : Fin hsbDevMaxTimerNum} {s t : BoxState ρ}
    {steps : List (BoxStep ρ)} (hs : SlotInactive key i s)
    (hkeeps : KeepsSlot key i s steps t) : SlotInactive key i t :=
  run_invariant_guarded
    (fun _ _ _ hs hother hstep => effect_inactive (boxStep_effect hstep) hother hs)
    steps s t hs hkeeps.1 hkeeps.2

theorem distinct_keys_run (drivers : List HsbDevDrv) (steps : List (BoxStep ρ))
    (s : BoxState ρ) (hguard : Guarded boxStep Announced (BoxState.start drivers) steps)
    (hrun : run boxStep (BoxState.start drivers) steps = some s) :
    (roster s.cb).Distinct devKey := by
  have hkept : Preserves boxStep Announced
      (fun s : BoxState ρ => (roster s.cb).Distinct devKey) :=
    fun _ _ _ hs hannounced hstep => effect_distinct_keys (boxStep_effect hstep) hannounced hs
  have hstart : (roster (BoxState.start drivers : BoxState ρ).cb).Distinct devKey :=
    List.nodup_nil
  exact run_invariant_guarded hkept steps _ s hstart hguard hrun

/-- In every run in which drivers announce only devices that are not online, every
tick acts on due slots only, no slot acts twice on a day, in whatever way devices
come, go and are configured until the later tick, and a one-shot slot is inactive
from its act on. -/
theorem timers_safe (drivers : List HsbDevDrv) (steps : List (BoxStep ρ)) (s : BoxState ρ)
    (hguard : Guarded boxStep Announced (BoxState.start drivers) steps)
    (hrun : run boxStep (BoxState.start drivers) steps = some s) (now : ℕ) (s' : BoxState ρ)
    (htick : boxStep s (.tick now) = some s') : SafeTick s s' now := by
  have hkeys := distinct_keys_run drivers steps s hguard hrun
  have hkeys' := effect_distinct_keys (boxStep_effect htick) trivial hkeys
  refine ⟨?_, ?_, ?_, ?_, ?_, ?_⟩
  · rw [boxStep_tick htick]
    simp only [checkTimerAndDelay, pushOwnActs_eq]
  · intro tick hmem i body hfired
    exact fired_due hmem hfired
  · have hdevs := map_checkQueue devKey s.cb.workMode now (checkDev_key s.cb.workMode now)
      s.cb.secToday s.cb.queue
    show ((checkQueue s.cb.workMode now s.cb.secToday s.cb.queue).map
      fun tick => devKey tick.dev).Nodup
    rw [hdevs]
    exact hkeys.present
  · intro tick hmem
    exact tick_sources_nodup hmem
  · intro key i hfires steps' t later hkeeps hclock hday
    have hspent := spentSince_run (fires_spentSince htick hkeys' hfires) hkeeps
    exact not_fires_of_spent hspent hclock hday
  · intro dev hdev i honeShot hfires steps' t later hkeeps
    have hinactive := slotInactive_run
      (oneShot_inactive htick hkeys hkeys' hdev honeShot hfires) hkeeps
    exact ⟨hinactive, not_fires_of_inactive hinactive later⟩

/-- SET_TIMER for device 1, slot 0: once, at noon of any day. -/
def noonOnce : Memory :=
  load [0x33, 0x88, 24, 0, 1, 0, 0, 0, 0, 0, 0xFF, 1, 12, 0, 0, 0xFF, 5, 0, 1, 0, 0, 0, 0, 0]
    zeros

theorem timers_safe_noon :
    ∃ s s', run boxStep (BoxState.start [⟨1⟩])
        [.online 1 { cls := 1 } (some .virtualSwitchOp), .packet noonOnce 24 ()] = some s ∧
      boxStep s (.tick 43202) = some s' ∧ s'.cb.asyncQueue.length = 1 ∧
      SafeTick s s' 43202 := by
  have hruns : (run boxStep (BoxState.start [⟨1⟩])
      [.online 1 { cls := 1 } (some .virtualSwitchOp), .packet noonOnce 24 ()]).bind
      (fun s => (boxStep s (.tick 43202)).map fun s' => s'.cb.asyncQueue.length) = some 1 := by
    decide +kernel
  have hguard : Guarded boxStep Announced (BoxState.start [⟨1⟩])
      [.online 1 { cls := 1 } (some .virtualSwitchOp), .packet noonOnce 24 ()] := by
    decide +kernel
  obtain ⟨s, hrun, hticks⟩ := Option.bind_eq_some_iff.mp hruns
  obtain ⟨s', htick, hlength⟩ := Option.map_eq_some_iff.mp hticks
  exact ⟨s, s', hrun, htick, hlength, timers_safe [⟨1⟩] _ s hguard hrun 43202 s' htick⟩

end HomeSecurityBox.TimerSafety
