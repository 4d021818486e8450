import HomeSecurityBox.Base.Alarm
import HomeSecurityBox.Base.Flow
import HomeSecurityBox.Base.Keyed
import HomeSecurityBox.TimerSafety

/-!
A recurring timer over whole runs of the box. The first online device compares with the
second of the tick before, so its timer slot is an alarm: ticks that come at most six
seconds apart, with anything between them that leaves the slot and the device in place,
act once on every wanted day and on no other day.
-/

namespace HomeSecurityBox.TimerRuns

open ByteMemory Protocol DeviceData Device DeviceEvents Registry TcpPacket TimerTick Box
  RegistryRuns Transitions TimerSafety

variable {ρ : Type}

theorem packetWrite_workMode {buf : Memory} {found : HsbDev} {f : HsbDev → HsbDev}
    (h : PacketWrite buf found f) (dev : HsbDev) : (f dev).workMode = dev.workMode := by
  cases h <;> rfl

theorem timerTable_put_timer {i : ℕ} (hi : i < timerTable.size) (timer : HsbTimer)
    (f : HsbTimerStatus → HsbTimerStatus) (dev : HsbDev) (j : Fin hsbDevMaxTimerNum)
    (hj : j.val ≠ i) : (timerTable.put i hi timer f dev).timer[j] = dev.timer[j] :=
  Vector.getElem_set_ne hi j.isLt (Ne.symm hj)

/-- A packet that does not rewrite a slot leaves its timer. -/
theorem packetWrite_timer {s : BoxState ρ} {buf : Memory} {len : ℕ} {reply : ρ}
    {found : HsbDev} {f : HsbDev → HsbDev} {i : Fin hsbDevMaxTimerNum}
    (haccept : checkTcpPktValid buf len = 0) (hfind : findDev s.cb (get32 buf 4) = some found)
    (hwrite : PacketWrite buf found f)
    (hother : ¬ Rewrites s (devKey found) i (.packet buf len reply)) :
    (f found).timer[i] = found.timer[i] := by
  have hkey : (findDev s.cb (get32 buf 4)).map devKey = some (devKey found) :=
    congrArg (Option.map devKey) hfind
  cases hwrite with
  | setTimer hcmd hslot =>
    apply timerTable_put_timer
    intro hsame
    exact hother ⟨haccept, hkey, hsame.symm, Or.inl hcmd⟩
  | delTimer hcmd hslot _ =>
    apply timerTable_put_timer
    intro hsame
    exact hother ⟨haccept, hkey, hsame.symm, Or.inr hcmd⟩
  | setDelay | delDelay | setLinkage | delLinkage => rfl

/-- A recurring timer in a slot of a device. -/
structure Entry where
  key : DevKey
  devid : UInt32
  devMode : UInt32
  slot : Fin hsbDevMaxTimerNum
  timer : HsbTimer
  recurring : checkBit timer.wday.toNat 7 = false

namespace Entry

variable (e : Entry)

/-- A day counts from a Thursday. -/
def wanted (d : ℕ) : Bool := checkBit e.timer.wday.toNat ((d + 4) % 7)

def alarm : Alarm where
  period := secondsPerDay
  offset := secTimer e.timer
  late := 5
  early := 10
  wanted := e.wanted

/-- The masks of the device and of the timer are open for the work mode. -/
def InMode (s : BoxState ρ) : Prop :=
  checkBit e.devMode.toNat s.cb.workMode.toNat = true ∧
    checkBit e.timer.workMode.toNat s.cb.workMode.toNat = true

instance (s : BoxState ρ) : Decidable (e.InMode s) := inferInstanceAs (Decidable (_ ∧ _))

/-- Ticks come within `gap` seconds and in the work modes of the timer; nothing takes the
device away or writes the slot. -/
def Undisturbed (gap : ℕ) (s : BoxState ρ) : BoxStep ρ → Prop
  | .offline devid => devid ≠ e.devid
  | .packet buf len reply => ¬ Rewrites s e.key e.slot (.packet buf len reply)
  | .tick now => now ≤ s.clock + gap ∧ e.InMode s
  | .online .. | .event .. | .mode _ | .act _ => True

instance (gap : ℕ) (s : BoxState ρ) : (step : BoxStep ρ) → Decidable (e.Undisturbed gap s step)
  | .offline devid => inferInstanceAs (Decidable (devid ≠ e.devid))
  | .packet buf len reply =>
      inferInstanceAs (Decidable (¬ Rewrites s e.key e.slot (.packet buf len reply)))
  | .tick now => inferInstanceAs (Decidable (now ≤ s.clock + gap ∧ e.InMode s))
  | .online .. | .event .. | .mode _ | .act _ => inferInstanceAs (Decidable True)

/-- What the slot of a device looks like. -/
structure In (expired : Bool) (dev : HsbDev) : Prop where
  key : devKey dev = e.key
  id : dev.id = e.devid
  mode : dev.workMode = e.devMode
  timer : dev.timer[e.slot] = e.timer
  status : dev.timerStatus[e.slot] = { active := true, expired := expired }

instance (expired : Bool) (dev : HsbDev) : Decidable (e.In expired dev) :=
  decidable_of_iff
    (devKey dev = e.key ∧ dev.id = e.devid ∧ dev.workMode = e.devMode ∧
      dev.timer[e.slot] = e.timer ∧
      dev.timerStatus[e.slot] = { active := true, expired := expired })
    ⟨fun ⟨hkey, hid, hmode, htimer, hstatus⟩ => ⟨hkey, hid, hmode, htimer, hstatus⟩,
      fun h => ⟨h.key, h.id, h.mode, h.timer, h.status⟩⟩

/-- The entry is in the first online device, behind a tick at the clock of the box. -/
structure Held (st : Alarm.State) (s : BoxState ρ) : Prop where
  first : ∃ dev, s.cb.queue.head? = some dev ∧ e.In st.expired dev
  clock : s.clock = st.last
  secToday : s.cb.secToday = st.last % secondsPerDay

instance (st : Alarm.State) (s : BoxState ρ) : Decidable (e.Held st s) :=
  decidable_of_iff
    ((s.cb.queue.head?.any fun dev => decide (e.In st.expired dev)) = true ∧
      s.clock = st.last ∧ s.cb.secToday = st.last % secondsPerDay)
    ⟨fun ⟨hfirst, hclock, hsec⟩ =>
        have ⟨dev, hhead, hdev⟩ := (Option.any_eq_true _ _).mp hfirst
        ⟨⟨dev, hhead, of_decide_eq_true hdev⟩, hclock, hsec⟩,
      fun ⟨⟨dev, hhead, hdev⟩, hclock, hsec⟩ =>
        ⟨(Option.any_eq_true _ _).mpr ⟨dev, hhead, decide_eq_true hdev⟩, hclock, hsec⟩⟩

/-- The acts of the slot that a step queues, each with its time. -/
def acts (s : BoxState ρ) : BoxStep ρ → List (ℕ × HsbActBody)
  | .tick now =>
      ((((checkTimerAndDelay s.cb now).devs.head?.map DevTick.fired).getD []).filter
        fun fired => fired.1 == Source.timer e.slot).map fun fired => (now, fired.2)
  | .online .. | .offline _ | .event .. | .mode _ | .packet .. | .act _ => []

variable {e : Entry}

theorem In.of_packet {s : BoxState ρ} {buf : Memory} {len : ℕ} {reply : ρ} {expired : Bool}
    {dev : HsbDev} {f : HsbDev → HsbDev} (h : e.In expired dev)
    (haccept : checkTcpPktValid buf len = 0) (hfind : findDev s.cb (get32 buf 4) = some dev)
    (hwrite : PacketWrite buf dev f)
    (hother : ¬ Rewrites s e.key e.slot (.packet buf len reply)) : e.In expired (f dev) := by
  have hentry := packetWrite_entry hwrite dev
  rw [← h.key] at hother
  have hstatus := packetWrite_timerStatus haccept hfind hwrite hother
  have htimer := packetWrite_timer haccept hfind hwrite hother
  exact ⟨(congrArg Prod.fst hentry).trans h.key, (congrArg Prod.snd hentry).trans h.id,
    (packetWrite_workMode hwrite dev).trans h.mode, htimer.trans h.timer, hstatus.trans h.status⟩

/-- A step between two ticks leaves the entry in the first device. -/
theorem Held.of_effect {s s' : BoxState ρ} {step : BoxStep ρ} {st : Alarm.State}
    {gap : ℕ} (h : e.Held st s) (heffect : Effect s step s') (hok : e.Undisturbed gap s step)
    (hnotTick : ∀ now, step ≠ .tick now) : e.Held st s' := by
  obtain ⟨⟨dev, hhead, hdev⟩, hclock, hsec⟩ := h
  obtain ⟨rest, hqueue⟩ := List.head?_eq_some_iff.mp hhead
  cases heffect with
  | quiet _ _ hsame =>
    exact ⟨⟨dev, (congrArg List.head? hsame.queue).trans hhead, hdev⟩, hclock,
      hsame.secToday.trans hsec⟩
  | @written buf len reply _ haccept hwritten =>
    obtain ⟨found, f, hfind, hwrite, rfl⟩ := hwritten
    refine ⟨?_, hclock, hsec⟩
    simp only [HsbDeviceCb.updateDev]
    rw [hqueue, updateFirst]
    by_cases hid : dev.id = get32 buf 4
    · have hfound : found = dev := by
        simp only [findDev, hqueue, List.find?_cons, beq_iff_eq.mpr hid] at hfind
        exact (Option.some.inj hfind).symm
      subst hfound
      rw [if_pos (beq_iff_eq.mpr hid)]
      exact ⟨f found, rfl, hdev.of_packet haccept hfind hwrite hok⟩
    · rw [if_neg (mt beq_iff_eq.mp hid)]
      exact ⟨dev, rfl, hdev⟩
  | created _ _ | returned _ _ =>
    refine ⟨⟨dev, ?_, hdev⟩, hclock, hsec⟩
    simp only [hqueue, List.cons_append, List.head?_cons]
  | @left i gone _ hgone =>
    refine ⟨⟨dev, ?_, hdev⟩, hclock, hsec⟩
    cases i with
    | zero =>
      rw [hqueue] at hgone
      cases Option.some.inj hgone
      exact absurd hdev.id hok
    | succ i =>
      simp only [hqueue, List.eraseIdx_cons_succ, List.head?_cons]
  | @ticked now _ => exact absurd rfl (hnotTick now)

theorem In.dayStart {st : Alarm.State} {dev : HsbDev} (h : e.In st.expired dev) (now : ℕ) :
    (atDayStart now (st.last % secondsPerDay) dev).timerStatus[e.slot] =
      { active := true, expired := e.alarm.expiredAt st now } := by
  have hactive : dev.timerStatus[e.slot].active = true := by rw [h.status]
  rw [atDayStart_timerStatus now _ dev e.slot hactive, h.status, h.timer]
  unfold Alarm.expiredAt
  by_cases hturn : now % secondsPerDay < st.last % secondsPerDay ∧ now % secondsPerDay < 10
  · rw [if_pos hturn]
    exact congrArg (HsbTimerStatus.mk true) (if_pos hturn).symm
  · rw [if_neg hturn]
    exact congrArg (HsbTimerStatus.mk true) (if_neg hturn).symm

/-- The tests of the timer loop are those of the alarm. -/
theorem timerDue_eq {s : BoxState ρ} (hmode : e.InMode s) (st : Alarm.State) (now : ℕ) :
    timerDue s.cb.workMode (localtime now) e.timer
        { active := true, expired := e.alarm.expiredAt st now } = e.alarm.due st now := by
  rw [Bool.eq_iff_iff, timerDue_iff s.cb.workMode now e.timer _ rfl hmode.2, Alarm.due_eq_true]
  exact Iff.rfl

/-- The check of the first device is a check of the alarm. -/
theorem In.checkDev {s : BoxState ρ} {st : Alarm.State} {dev : HsbDev}
    (h : e.In st.expired dev) (hmode : e.InMode s) (now : ℕ) :
    e.In (e.alarm.next st now).expired
        (checkDevTimerAndDelay s.cb.workMode now (st.last % secondsPerDay) dev).dev ∧
      ∀ body, (Source.timer e.slot, body) ∈
          (checkDevTimerAndDelay s.cb.workMode now (st.last % secondsPerDay) dev).fired ↔
        e.alarm.due st now = true ∧ body = timerBody e.devid e.timer := by
  have hentry := checkDev_entry s.cb.workMode now (st.last % secondsPerDay) dev
  have hmask := (checkDev_fields s.cb.workMode now (st.last % secondsPerDay) dev).2
  have hdevMode : checkBit dev.workMode.toNat s.cb.workMode.toNat = true := by
    rw [h.mode]
    exact hmode.1
  have hrecurring : checkBit dev.timer[e.slot].wday.toNat 7 = false := by
    rw [h.timer]
    exact e.recurring
  obtain ⟨htimer, hstatus, hfired⟩ := checkDev_slot s.cb.workMode now (st.last % secondsPerDay)
    dev e.slot _ hdevMode hrecurring (h.dayStart now)
  rw [h.timer, timerDue_eq hmode] at hstatus hfired
  rw [h.id] at hfired
  exact ⟨⟨(congrArg Prod.fst hentry).trans h.key, (congrArg Prod.snd hentry).trans h.id,
    hmask.trans h.mode, htimer.trans h.timer, hstatus⟩, hfired⟩

theorem Held.tick {s s' : BoxState ρ} {st : Alarm.State} {now : ℕ} (h : e.Held st s)
    (hmode : e.InMode s) (htick : boxStep s (.tick now) = some s') :
    e.Held (e.alarm.next st now) s' ∧
      e.acts s (.tick now) =
        if e.alarm.due st now then [(now, timerBody e.devid e.timer)] else [] := by
  obtain ⟨⟨dev, hhead, hdev⟩, -, hsec⟩ := h
  obtain ⟨rest, hqueue⟩ := List.head?_eq_some_iff.mp hhead
  obtain ⟨hnext, hfired⟩ := hdev.checkDev hmode now
  have hfirst : (checkTimerAndDelay s.cb now).devs.head? =
      some (checkDevTimerAndDelay s.cb.workMode now (st.last % secondsPerDay) dev) := by
    rw [← hsec]
    simp only [checkTimerAndDelay, hqueue, checkQueue, List.head?_cons]
  have hs' := boxStep_tick htick
  constructor
  · rw [hs']
    refine ⟨⟨_, ?_, hnext⟩, rfl, ?_⟩
    · rw [checkTimerAndDelay_queue, List.head?_map, hfirst]
      rfl
    · apply checkTimerAndDelay_secToday
      rw [hqueue]
      exact List.cons_ne_nil dev rest
  · have hnodup := tick_sources_nodup (List.mem_of_mem_head? hfirst)
    simp only [acts, hfirst, Option.map_some, Option.getD_some]
    by_cases hdue : e.alarm.due st now = true
    · have hmem := (hfired _).mpr ⟨hdue, rfl⟩
      have honly := Keyed.filter_key hnodup hmem
      rw [if_pos hdue]
      exact congrArg (List.map fun fired => (now, fired.2)) honly
    · rw [if_neg hdue, List.filter_eq_nil_iff.mpr, List.map_nil]
      intro fired hmem hsource
      rw [beq_iff_eq] at hsource
      obtain ⟨source, body⟩ := fired
      cases hsource
      exact hdue ((hfired body).mp hmem).1

/-- What a step of an undisturbed run is to the alarm. -/
theorem Held.step {s s' : BoxState ρ} {step : BoxStep ρ} {st : Alarm.State} {gap : ℕ}
    (h : e.Held st s) (hok : e.Undisturbed gap s step) (hstep : boxStep s step = some s') :
    (e.Held st s' ∧ e.acts s step = []) ∨
      ∃ now, step = .tick now ∧ st.last ≤ now ∧ now ≤ st.last + gap ∧
        e.Held (e.alarm.next st now) s' ∧
        e.acts s step = if e.alarm.due st now then [(now, timerBody e.devid e.timer)] else [] := by
  by_cases htick : ∃ now, step = .tick now
  · obtain ⟨now, rfl⟩ := htick
    have hclock : s.clock ≤ now := by
      by_contra hback
      simp only [boxStep, if_neg hback, reduceCtorEq] at hstep
    have hpace : now ≤ s.clock + gap := hok.1
    rw [h.clock] at hclock hpace
    obtain ⟨hnext, hacts⟩ := h.tick hok.2 hstep
    exact Or.inr ⟨now, rfl, hclock, hpace, hnext, hacts⟩
  · have hnotTick : ∀ now, step ≠ .tick now := fun now heq => htick ⟨now, heq⟩
    refine Or.inl ⟨h.of_effect (boxStep_effect hstep) hok hnotTick, ?_⟩
    cases step with
    | tick now => exact absurd rfl (hnotTick now)
    | online | offline | event | mode | packet | act => rfl

theorem six_lt_day : 6 < secondsPerDay := by decide

theorem six_le_ten : 6 ≤ 10 := by decide

theorem paced {gap : ℕ} (hgap : gap ≤ 6) (htime : secTimer e.timer + gap ≤ secondsPerDay) :
    e.alarm.Paced gap where
  short := Nat.lt_of_le_of_lt hgap six_lt_day
  inDay := htime
  inTime := hgap
  inTurn := Nat.le_trans hgap six_le_ten

/-- The acts of day `d`. -/
def dayActs (e : Entry) (d : ℕ) (s : BoxState ρ) (step : BoxStep ρ) : List (ℕ × HsbActBody) :=
  (e.acts s step).filter fun act => act.1 / secondsPerDay == d

theorem dayActs_of_due (d : ℕ) (s : BoxState ρ) {step : BoxStep ρ} {now : ℕ} {due : Bool}
    (hacts : e.acts s step = if due then [(now, timerBody e.devid e.timer)] else []) :
    e.dayActs d s step =
      if now / secondsPerDay = d ∧ due = true then [(now, timerBody e.devid e.timer)] else [] := by
  unfold dayActs
  rw [hacts]
  cases due with
  | false => simp
  | true =>
    by_cases hday : now / secondsPerDay = d
    · simp [hday]
    · simp [hday]

theorem dayActs_showsOnce {gap d : ℕ} (hpaced : e.alarm.Paced gap) (hwanted : e.wanted d = true) :
    ShowsOnce boxStep (e.Undisturbed gap) (e.dayActs d)
      (fun s : BoxState ρ => ∃ st, e.Held st s ∧ e.alarm.Ready d st)
      (fun s => ∃ st, e.Held st s ∧ e.alarm.Spent d st)
      fun act => e.alarm.time d ≤ act.1 ∧ act.1 < e.alarm.time d + gap ∧
        act.2 = timerBody e.devid e.timer where
  ready := by
    rintro s step s' ⟨st, hheld, hready⟩ hok hstep
    rcases hheld.step hok hstep with ⟨hkept, hacts⟩ | ⟨now, rfl, hle, hgap, hnext, hacts⟩
    · refine Or.inl ⟨⟨st, hkept, hready⟩, ?_⟩
      rw [dayActs, hacts, List.filter_nil]
    · rw [dayActs_of_due d s hacts]
      rcases hready.step hpaced hwanted hle hgap with ⟨hready', hnot⟩ |
        ⟨hspent, hday, hdue, hlate⟩
      · refine Or.inl ⟨⟨_, hnext, hready'⟩, if_neg ?_⟩
        rintro ⟨hday, hdue⟩
        rw [hnot hday] at hdue
        contradiction
      · exact Or.inr ⟨⟨_, hnext, hspent⟩, _, if_pos ⟨hday, hdue⟩, hspent.1, hlate, rfl⟩
  spent := by
    rintro s step s' ⟨st, hheld, hspent⟩ hok hstep
    rcases hheld.step hok hstep with ⟨hkept, hacts⟩ | ⟨now, rfl, hle, hgap, hnext, hacts⟩
    · refine ⟨⟨st, hkept, hspent⟩, ?_⟩
      rw [dayActs, hacts, List.filter_nil]
    · rw [dayActs_of_due d s hacts]
      obtain ⟨hspent', hnot⟩ := hspent.step hpaced hle hgap
      refine ⟨⟨_, hnext, hspent'⟩, if_neg ?_⟩
      rintro ⟨hday, hdue⟩
      rw [hnot hday] at hdue
      contradiction

/-- A wanted day that begins and ends its wait within the run has one act, in time. -/
theorem run_acts_once {gap d : ℕ} (hpaced : e.alarm.Paced gap) (hwanted : e.wanted d = true)
    {s t : BoxState ρ} {steps : List (BoxStep ρ)} {st : Alarm.State} (hheld : e.Held st s)
    (hready : e.alarm.Ready d st) (hguard : Guarded boxStep (e.Undisturbed gap) s steps)
    (hrun : run boxStep s steps = some t) (hend : e.alarm.time d ≤ t.clock) :
    ∃ at', (collect boxStep e.acts s steps).filter (fun act => act.1 / secondsPerDay == d) =
        [(at', timerBody e.devid e.timer)] ∧
      e.alarm.time d ≤ at' ∧ at' < e.alarm.time d + gap := by
  have hover : ¬∃ st', e.Held st' t ∧ e.alarm.Ready d st' := by
    rintro ⟨st', hheld', hready'⟩
    have hearly := hready'.1
    rw [← hheld'.clock] at hearly
    exact absurd hend (Nat.not_le_of_lt hearly)
  obtain ⟨act, hacts, hlow, hhigh, hbody⟩ :=
    (dayActs_showsOnce hpaced hwanted).run steps s t ⟨st, hheld, hready⟩ hguard hrun hover
  refine ⟨act.1, ?_, hlow, hhigh⟩
  rw [collect_filter, ← hbody]
  exact hacts

/-- A day that is not wanted has none. -/
theorem run_acts_none {gap d : ℕ} (hunwanted : e.wanted d = false)
    {s t : BoxState ρ} {steps : List (BoxStep ρ)} {st : Alarm.State} (hheld : e.Held st s)
    (hguard : Guarded boxStep (e.Undisturbed gap) s steps) (hrun : run boxStep s steps = some t) :
    (collect boxStep e.acts s steps).filter (fun act => act.1 / secondsPerDay == d) = [] := by
  have hnever : ShowsOnce boxStep (e.Undisturbed gap) (e.dayActs d) (fun _ => False)
      (fun s : BoxState ρ => ∃ st, e.Held st s) fun _ => False := by
    refine ⟨fun _ _ _ h => h.elim, ?_⟩
    rintro s step s' ⟨st, hheld⟩ hok hstep
    rcases hheld.step hok hstep with ⟨hkept, hacts⟩ | ⟨now, rfl, -, -, hnext, hacts⟩
    · refine ⟨⟨st, hkept⟩, ?_⟩
      rw [dayActs, hacts, List.filter_nil]
    · rw [dayActs_of_due d s hacts]
      refine ⟨⟨_, hnext⟩, if_neg ?_⟩
      rintro ⟨rfl, hdue⟩
      rw [Alarm.not_due_of_unwanted hunwanted] at hdue
      contradiction
  rw [collect_filter]
  exact hnever.run_spent steps s t ⟨st, hheld⟩ hguard hrun

end Entry
end HomeSecurityBox.TimerRuns
