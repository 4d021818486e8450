import HomeSecurityBox.Box

/-!
The registry over runs of the box. Every device that was created is a member
of one of the two queues under the key and the id of its creation; the keys stay
apart because drivers announce no device that is online, the ids because the
counter does not wrap around.
-/

namespace HomeSecurityBox.RegistryRuns

open Protocol DeviceData Device DeviceEvents Registry TcpPacket TimerTick Box Transitions

variable {ρ : Type}

/-- What `dev_online` promised about a device. -/
def entry (dev : HsbDev) : DevKey × UInt32 := (devKey dev, dev.id)

def entries (cb : HsbDeviceCb ρ) : List (DevKey × UInt32) := (roster cb).members.map entry

/-- A driver is registered and announces only what is not online. -/
def Announced (s : BoxState ρ) : BoxStep ρ → Prop
  | .online drvid info _ =>
      findDrv s.cb drvid ≠ none ∧ ∀ dev ∈ s.cb.queue, devKey dev ≠ (drvid, info.mac)
  | _ => True

/-- The device that a step creates is still below the last value of the counter. -/
def Countable (s : BoxState ρ) : BoxStep ρ → Prop
  | .online drvid info _ =>
      (∀ dev ∈ s.cb.offq, devKey dev ≠ (drvid, info.mac)) →
        (roster s.cb).members.length + 1 < 2 ^ 32 - 1
  | _ => True

def Admitted (s : BoxState ρ) (step : BoxStep ρ) : Prop := Announced s step ∧ Countable s step

instance (s : BoxState ρ) : (step : BoxStep ρ) → Decidable (Announced s step)
  | .online drvid info _ => inferInstanceAs (Decidable
      (findDrv s.cb drvid ≠ none ∧ ∀ dev ∈ s.cb.queue, devKey dev ≠ (drvid, info.mac)))
  | .offline _ | .event .. | .mode _ | .packet .. | .act _ | .tick _ =>
      inferInstanceAs (Decidable True)

instance (s : BoxState ρ) : (step : BoxStep ρ) → Decidable (Countable s step)
  | .online drvid info _ => inferInstanceAs (Decidable
      ((∀ dev ∈ s.cb.offq, devKey dev ≠ (drvid, info.mac)) →
        (roster s.cb).members.length + 1 < 2 ^ 32 - 1))
  | .offline _ | .event .. | .mode _ | .packet .. | .act _ | .tick _ =>
      inferInstanceAs (Decidable True)

instance (s : BoxState ρ) (step : BoxStep ρ) : Decidable (Admitted s step) :=
  inferInstanceAs (Decidable (Announced s step ∧ Countable s step))

/-- Every device in one place, under one id. -/
structure Accounted (s : BoxState ρ) : Prop where
  keys : (roster s.cb).Distinct devKey
  ids : (roster s.cb).Distinct HsbDev.id
  counter : s.cb.devId.toNat = (roster s.cb).members.length + 1
  below : ∀ dev ∈ (roster s.cb).members, dev.id ≠ 0 ∧ dev.id < s.cb.devId
  assigned : ∀ given, given ∈ s.assigned ↔ given ∈ entries s.cb

theorem packetWrite_entry {buf : ByteMemory.Memory} {found : HsbDev} {f : HsbDev → HsbDev}
    (h : PacketWrite buf found f) (dev : HsbDev) : entry (f dev) = entry dev := by
  cases h <;> rfl

theorem checkDev_entry (workMode : UInt32) (now glSecToday : ℕ) (dev : HsbDev) :
    entry (checkDevTimerAndDelay workMode now glSecToday dev).dev = entry dev := by
  have hstart : entry (atDayStart now glSecToday dev) = entry dev := by
    rcases atDayStart_cases now glSecToday dev with h | h
    · simp only [h, rearmDev, entry, devKey]
    · rw [h]
  simp only [checkDevTimerAndDelay]
  split
  · exact hstart
  · simpa only [checkSlots, entry, devKey] using hstart

theorem map_checkQueue {β : Type} (g : HsbDev → β) (workMode : UInt32) (now : ℕ)
    (hg : ∀ glSecToday dev, g (checkDevTimerAndDelay workMode now glSecToday dev).dev = g dev)
    (glSecToday : ℕ) (queue : List HsbDev) :
    (checkQueue workMode now glSecToday queue).map (fun done => g done.dev) = queue.map g := by
  induction queue generalizing glSecToday with
  | nil => rfl
  | cons dev rest ih => simp only [checkQueue, List.map_cons, ih, hg]

theorem checkTimerAndDelay_entries (cb : HsbDeviceCb ρ) (now : ℕ) :
    entries (checkTimerAndDelay cb now).cb = entries cb := by
  have hqueue := map_checkQueue entry cb.workMode now (checkDev_entry cb.workMode now)
    cb.secToday cb.queue
  simp only [entries, roster, Roster.members, List.map_append, checkTimerAndDelay,
    pushOwnActs_eq, List.map_map]
  exact congrArg (· ++ cb.offq.map entry) hqueue

theorem written_entries {cb cb' : HsbDeviceCb ρ} {buf : ByteMemory.Memory}
    (h : Written cb buf cb') : entries cb' = entries cb := by
  obtain ⟨dev, f, -, hwrite, rfl⟩ := h
  have hqueue := map_updateFirst entry (ByteMemory.get32 buf 4) f 
    (packetWrite_entry hwrite) cb.queue
  simp only [entries, roster, Roster.members, List.map_append, HsbDeviceCb.updateDev]
  exact congrArg (· ++ cb.offq.map entry) hqueue

/-- Only a creation enters a device; the other steps keep what was promised. -/
theorem effect_entries {s s' : BoxState ρ} {step : BoxStep ρ} (h : Effect s step s') :
    ((entries s'.cb).Perm (entries s.cb) ∧ s'.cb.devId = s.cb.devId ∧
      ∃ given, s'.assigned = given ++ s.assigned ∧ ∀ p ∈ given, p ∈ entries s.cb) ∨
    ∃ drvid info op, step = .online drvid info op ∧
      (∀ dev ∈ s.cb.offq, devKey dev ≠ (drvid, info.mac)) ∧
      (entries s'.cb).Perm (((drvid, info.mac), s.cb.devId) :: entries s.cb) ∧
      s'.cb.devId = s.cb.devId + 1 ∧
      s'.assigned = ((drvid, info.mac), s.cb.devId) :: s.assigned := by
  cases h with
  | quiet _ _ hsame =>
    refine Or.inl ⟨?_, hsame.devId, [], rfl, by simp⟩
    simp only [entries, roster, hsame.queue, hsame.offq]
    exact List.Perm.refl _
  | written _ hwritten =>
    refine Or.inl ⟨?_, ?_, [], rfl, by simp⟩
    · rw [written_entries hwritten]
    · obtain ⟨dev, f, -, -, rfl⟩ := hwritten
      rfl
  | @created drvid info op drv acts hnew hdrv =>
    refine Or.inr ⟨drvid, info, op, rfl, hnew, ?_, rfl, rfl⟩
    have hfound := List.find?_some hdrv
    have hperm := ((roster s.cb).members_enrol
      { id := s.cb.devId, info := info, driver := drv, op := op }).map entry
    rw [← show drv.id = drvid from eq_of_beq hfound]
    exact hperm
  | @returned drvid info op i dev acts hdev _ =>
    have hrejoin : (roster s.cb).rejoin i =
        ⟨s.cb.queue ++ [dev], s.cb.offq.eraseIdx i⟩ := by
      simp only [Roster.rejoin, roster, hdev]
    have hperm := ((roster s.cb).members_rejoin i).map entry
    rw [hrejoin] at hperm
    refine Or.inl ⟨hperm, rfl, [entry dev], rfl, ?_⟩
    intro p hp
    rw [List.mem_singleton.mp hp]
    have hmem : dev ∈ (roster s.cb).members :=
      List.mem_append_right _ (List.mem_of_getElem? hdev)
    exact List.mem_map_of_mem hmem
  | @left i dev acts hdev =>
    have hleave : (roster s.cb).leave i =
        ⟨s.cb.queue.eraseIdx i, s.cb.offq ++ [dev]⟩ := by
      simp only [Roster.leave, roster, hdev]
    have hperm := ((roster s.cb).members_leave i).map entry
    rw [hleave] at hperm
    exact Or.inl ⟨hperm, rfl, [], rfl, by simp⟩
  | ticked _ =>
    refine Or.inl ⟨?_, ?_, [], rfl, by simp⟩
    · rw [checkTimerAndDelay_entries]
    · simp only [checkTimerAndDelay, pushOwnActs_eq]

theorem distinct_devKey_iff (cb : HsbDeviceCb ρ) :
    (roster cb).Distinct devKey ↔ ((entries cb).map Prod.fst).Nodup := by
  simp only [Roster.Distinct, entries, List.map_map]
  rfl

theorem distinct_id_iff (cb : HsbDeviceCb ρ) :
    (roster cb).Distinct HsbDev.id ↔ ((entries cb).map Prod.snd).Nodup := by
  simp only [Roster.Distinct, entries, List.map_map]
  rfl

/-- A key that is neither online nor offline is the key of no entry. -/
theorem key_not_mem_entries {cb : HsbDeviceCb ρ} {key : DevKey}
    (hqueue : ∀ dev ∈ cb.queue, devKey dev ≠ key) (hoffq : ∀ dev ∈ cb.offq, devKey dev ≠ key) :
    key ∉ (entries cb).map Prod.fst := by
  intro hmem
  obtain ⟨given, hgiven, rfl⟩ := List.mem_map.mp hmem
  obtain ⟨dev, hdev, rfl⟩ := List.mem_map.mp hgiven
  rcases List.mem_append.mp hdev with honline | hoffline
  · exact hqueue dev honline rfl
  · exact hoffq dev hoffline rfl

/-- The keys stay apart, whatever the counter does. -/
theorem effect_distinct_keys {s s' : BoxState ρ} {step : BoxStep ρ} (h : Effect s step s')
    (hannounced : Announced s step) (hkeys : (roster s.cb).Distinct devKey) :
    (roster s'.cb).Distinct devKey := by
  rw [distinct_devKey_iff] at hkeys ⊢
  rcases effect_entries h with ⟨hperm, -⟩ | ⟨drvid, info, op, rfl, hoffq, hperm, -⟩
  · exact (hperm.map Prod.fst).nodup_iff.mpr hkeys
  · apply (hperm.map Prod.fst).nodup_iff.mpr
    exact List.nodup_cons.mpr ⟨key_not_mem_entries hannounced.2 hoffq, hkeys⟩

theorem entries_length (cb : HsbDeviceCb ρ) :
    (entries cb).length = (roster cb).members.length := List.length_map entry

theorem below_iff (cb : HsbDeviceCb ρ) :
    (∀ dev ∈ (roster cb).members, dev.id ≠ 0 ∧ dev.id < cb.devId) ↔
      ∀ given ∈ entries cb, given.2 ≠ 0 ∧ given.2 < cb.devId := by
  simp only [entries, List.forall_mem_map]
  rfl

theorem effect_accounted {s s' : BoxState ρ} {step : BoxStep ρ} (h : Effect s step s')
    (hadmitted : Admitted s step) (hs : Accounted s) : Accounted s' := by
  have hkeys := effect_distinct_keys h hadmitted.1 hs.keys
  have hids := (distinct_id_iff s.cb).mp hs.ids
  have hbelow := (below_iff s.cb).mp hs.below
  have hcounter := hs.counter
  rw [← entries_length] at hcounter
  rcases effect_entries h with ⟨hperm, hdevId, given, hassigned, hgiven⟩ |
    ⟨drvid, info, op, rfl, hoffq, hperm, hdevId, hassigned⟩
  · refine ⟨hkeys, ?_, ?_, ?_, ?_⟩
    · exact (distinct_id_iff s'.cb).mpr ((hperm.map Prod.snd).nodup_iff.mpr hids)
    · rw [← entries_length, hperm.length_eq, hdevId]
      exact hcounter
    · rw [below_iff, hdevId]
      intro p hp
      exact hbelow p (hperm.mem_iff.mp hp)
    · intro p
      rw [hassigned, List.mem_append, hs.assigned, hperm.mem_iff]
      constructor
      · rintro (hp | hp)
        · exact hgiven p hp
        · exact hp
      · exact Or.inr
  · have hroom := hadmitted.2 hoffq
    rw [← entries_length] at hroom
    have hnext : (s.cb.devId + 1).toNat = s.cb.devId.toNat + 1 := by
      rw [UInt32.toNat_add, hcounter, UInt32.toNat_one]
      omega
    have hgrows : s.cb.devId < s.cb.devId + 1 := by
      rw [UInt32.lt_iff_toNat_lt, hnext]
      omega
    have hnonzero : s.cb.devId ≠ 0 := by
      intro hzero
      rw [hzero, UInt32.toNat_zero] at hcounter
      omega
    refine ⟨hkeys, ?_, ?_, ?_, ?_⟩
    · rw [distinct_id_iff]
      apply (hperm.map Prod.snd).nodup_iff.mpr
      refine List.nodup_cons.mpr ⟨?_, hids⟩
      intro hmem
      obtain ⟨p, hp, hpid⟩ := List.mem_map.mp hmem
      have hlt := (hbelow p hp).2
      rw [hpid] at hlt
      exact absurd hlt (UInt32.lt_irrefl _)
    · rw [← entries_length, hperm.length_eq, hdevId, hnext, hcounter, List.length_cons]
    · rw [below_iff, hdevId]
      intro p hp
      rcases List.mem_cons.mp (hperm.mem_iff.mp hp) with rfl | hold
      · exact ⟨hnonzero, hgrows⟩
      · exact ⟨(hbelow p hold).1, UInt32.lt_trans (hbelow p hold).2 hgrows⟩
    · intro p
      rw [hassigned, List.mem_cons, hperm.mem_iff, List.mem_cons, hs.assigned]

theorem accounted_start (drivers : List HsbDevDrv) :
    Accounted (BoxState.start drivers : BoxState ρ) := by
  refine ⟨List.nodup_nil, List.nodup_nil, rfl, ?_, ?_⟩
  · intro dev hmem
    exact absurd hmem List.not_mem_nil
  · intro p
    exact Iff.rfl

theorem accounted_run (steps : List (BoxStep ρ)) (s t : BoxState ρ) (hs : Accounted s)
    (hguard : Guarded boxStep Admitted s steps) (hrun : run boxStep s steps = some t) :
    Accounted t :=
  run_invariant_guarded
    (fun _ _ _ hs hadmitted h => effect_accounted (boxStep_effect h) hadmitted hs)
    steps s t hs hguard hrun

/-- The key that a step announces, if it is the coming online of a device. -/
def announcedKey : BoxStep ρ → Option DevKey
  | .online drvid info _ => some (drvid, info.mac)
  | _ => none

theorem effect_offq {s s' : BoxState ρ} {step : BoxStep ρ} (h : Effect s step s')
    {dev : HsbDev} (hdev : dev ∈ s.cb.offq) (hother : announcedKey step ≠ some (devKey dev)) :
    dev ∈ s'.cb.offq := by
  cases h with
  | quiet _ _ hsame =>
    rw [hsame.offq]
    exact hdev
  | written _ hwritten =>
    obtain ⟨found, f, -, -, rfl⟩ := hwritten
    exact hdev
  | created _ _ => exact hdev
  | returned hback hkey =>
    apply Roster.mem_eraseIdx_of_ne hback hdev
    rintro rfl
    exact hother (congrArg some hkey.symm)
  | left _ => exact List.mem_append_left _ hdev
  | ticked _ =>
    simp only [checkTimerAndDelay, pushOwnActs_eq]
    exact hdev

theorem run_offq (steps : List (BoxStep ρ)) (s t : BoxState ρ) (dev : HsbDev)
    (hdev : dev ∈ s.cb.offq) (hother : ∀ step ∈ steps, announcedKey step ≠ some (devKey dev))
    (hrun : run boxStep s steps = some t) : dev ∈ t.cb.offq := by
  induction steps generalizing s with
  | nil =>
    cases Option.some.inj hrun
    exact hdev
  | cons step rest ih =>
    obtain ⟨s', hstep, hrest⟩ := run_cons_eq_some boxStep s t step rest hrun
    have hkept := effect_offq (boxStep_effect hstep) hdev (hother step List.mem_cons_self)
    exact ih s' hkept (fun later hlater => hother later (List.mem_cons_of_mem step hlater)) hrest

/-- A device that is offline comes back as it is. -/
theorem online_returns {s s' : BoxState ρ} {drvid : UInt32} {info : HsbDevInfo}
    {op : Option HsbDevOp} (hs : Accounted s) {dev : HsbDev} (hdev : dev ∈ s.cb.offq)
    (hkey : devKey dev = (drvid, info.mac))
    (hstep : boxStep s (.online drvid info op) = some s') :
    dev ∈ s'.cb.queue ∧ s'.assigned = (devKey dev, dev.id) :: s.assigned := by
  cases boxStep_effect hstep with
  | quiet honline _ _ => exact absurd rfl (honline drvid info op)
  | created hnew _ => exact absurd hkey (hnew dev hdev)
  | @returned _ _ _ i back acts hback hbackkey =>
    have hsame : back = dev := hs.keys.eq_of_mem
      (List.mem_append_right _ (List.mem_of_getElem? hback))
      (List.mem_append_right _ hdev) (hbackkey.trans hkey.symm)
    rw [hsame]
    exact ⟨List.mem_append_right _ List.mem_cons_self, rfl⟩

/-- Going offline and coming back, with any steps between that do not announce
the device, changes nothing of it. -/
def ReturnsUnchanged (s : BoxState ρ) (dev : HsbDev) : Prop :=
  ∀ (away home : BoxState ρ) (between : List (BoxStep ρ)) (info : HsbDevInfo)
    (op : Option HsbDevOp) (back : BoxState ρ),
    boxStep s (.offline dev.id) = some away →
    Guarded boxStep Admitted away between →
    (∀ step ∈ between, announcedKey step ≠ some (devKey dev)) →
    run boxStep away between = some home →
    info.mac = dev.info.mac →
    boxStep home (.online dev.driver.id info op) = some back →
    dev ∈ back.cb.queue ∧ back.assigned = (devKey dev, dev.id) :: home.assigned

theorem offline_leaves {s s' : BoxState ρ} (hs : Accounted s) {dev : HsbDev}
    (hdev : dev ∈ s.cb.queue) (hstep : boxStep s (.offline dev.id) = some s') :
    dev ∈ s'.cb.offq := by
  cases Option.some.inj hstep
  rcases devOffline_cases s.cb dev.id with ⟨hunknown, -⟩ | ⟨i, gone, acts, hgone, hid, -, hcb⟩
  · exact absurd rfl (hunknown dev hdev)
  · have hsame : gone = dev := hs.ids.eq_of_mem
      (List.mem_append_left _ (List.mem_of_getElem? hgone))
      (List.mem_append_left _ hdev) hid
    rw [hcb, hsame]
    exact List.mem_append_right _ List.mem_cons_self

theorem returnsUnchanged {s : BoxState ρ} (hs : Accounted s) {dev : HsbDev}
    (hdev : dev ∈ s.cb.queue) : ReturnsUnchanged s dev := by
  intro away home between info op back hleave hguard hother hrun hmac hback
  have hoffline := offline_leaves hs hdev hleave
  have haway := effect_accounted (boxStep_effect hleave) ⟨trivial, trivial⟩ hs
  have hhome := accounted_run between away home haway hguard hrun
  have hstill := run_offq between away home dev hoffline hother hrun
  have hkey : devKey dev = (dev.driver.id, info.mac) := by rw [hmac, devKey]
  exact online_returns hhome hstill hkey hback

/-- An id that is not online is refused. -/
def RefusesUnknown (cb : HsbDeviceCb ρ) : Prop :=
  ∀ devid, (∀ dev ∈ cb.queue, dev.id ≠ devid) →
    (devOffline cb devid).2.1.queue = cb.queue ∧ (devOffline cb devid).2.1.offq = cb.offq

theorem refusesUnknown (cb : HsbDeviceCb ρ) : RefusesUnknown cb := by
  intro devid hunknown
  rcases devOffline_cases cb devid with ⟨-, hsame⟩ | ⟨i, dev, acts, hdev, hid, -⟩
  · rw [hsame]
    exact ⟨rfl, rfl⟩
  · exact absurd hid (hunknown dev (List.mem_of_getElem? hdev))

/-- A device is given the same id every time it comes online. -/
theorem Accounted.assigned_unique {s : BoxState ρ} (hs : Accounted s) {key : DevKey}
    {id id' : UInt32} (h : (key, id) ∈ s.assigned) (h' : (key, id') ∈ s.assigned) :
    id = id' := by
  have hkeys := (distinct_devKey_iff s.cb).mp hs.keys
  have hsame := List.inj_on_of_nodup_map hkeys ((hs.assigned _).mp h) ((hs.assigned _).mp h') rfl
  exact congrArg Prod.snd hsame

theorem Accounted.online_ids {s : BoxState ρ} (hs : Accounted s) :
    (s.cb.queue.map HsbDev.id).Nodup :=
  Roster.Distinct.present hs.ids

/-- Every device is in one of the two queues, not in both. -/
theorem Accounted.one_place {s : BoxState ρ} (hs : Accounted s) {given : DevKey × UInt32}
    (h : given ∈ s.assigned) :
    ∃ dev, (devKey dev, dev.id) = given ∧
      (dev ∈ s.cb.queue ∧ dev ∉ s.cb.offq ∨ dev ∈ s.cb.offq ∧ dev ∉ s.cb.queue) := by
  obtain ⟨dev, hdev, hgiven⟩ := List.mem_map.mp ((hs.assigned given).mp h)
  refine ⟨dev, hgiven, ?_⟩
  rcases List.mem_append.mp hdev with honline | hoffline
  · exact Or.inl ⟨honline, fun hoffline => hs.ids.not_absent honline hoffline rfl⟩
  · exact Or.inr ⟨hoffline, fun honline => hs.ids.not_absent honline hoffline rfl⟩

theorem registry_invariant (drivers : List HsbDevDrv) (steps : List (BoxStep ρ))
    (s : BoxState ρ) (hguard : Guarded boxStep Admitted (BoxState.start drivers) steps)
    (hrun : run boxStep (BoxState.start drivers) steps = some s) :
    Accounted s ∧
      (∀ given ∈ s.assigned, ∃ dev, (devKey dev, dev.id) = given ∧
        (dev ∈ s.cb.queue ∧ dev ∉ s.cb.offq ∨ dev ∈ s.cb.offq ∧ dev ∉ s.cb.queue)) ∧
      (∀ key id id', (key, id) ∈ s.assigned → (key, id') ∈ s.assigned → id = id') ∧
      (∀ dev ∈ s.cb.queue, ReturnsUnchanged s dev) ∧
      RefusesUnknown s.cb := by
  have hs := accounted_run steps _ s (accounted_start drivers) hguard hrun
  refine ⟨hs, ?_, ?_, ?_, refusesUnknown s.cb⟩
  · intro given hgiven
    exact hs.one_place hgiven
  · intro key id id' h h'
    exact hs.assigned_unique h h'
  · intro dev hdev
    exact returnsUnchanged hs hdev

/-- Two devices; the first goes offline and comes back. -/
def reconnectSteps : List (BoxStep Unit) :=
  let first : HsbDevInfo := { cls := 1, mac := Vector.replicate 8 1 }
  let second : HsbDevInfo := { cls := 1, mac := Vector.replicate 8 2 }
  [.online 1 first (some .virtualSwitchOp), .online 1 second (some .virtualSwitchOp), .offline 1,
    .online 1 first (some .virtualSwitchOp)]

theorem registry_invariant_reconnect :
    ∃ s, run boxStep (BoxState.start [⟨1⟩]) reconnectSteps = some s ∧ Accounted s ∧
      s.assigned.map Prod.snd = [1, 2, 1] := by
  have hids : (run boxStep (BoxState.start [⟨1⟩]) reconnectSteps).map
      (fun s => s.assigned.map Prod.snd) = some [1, 2, 1] := by decide +kernel
  have hguard : Guarded boxStep Admitted (BoxState.start [⟨1⟩]) reconnectSteps := by
    decide +kernel
  obtain ⟨s, hrun, hs⟩ := Option.map_eq_some_iff.mp hids
  exact ⟨s, hrun, (registry_invariant [⟨1⟩] reconnectSteps s hguard hrun).1, hs⟩

end HomeSecurityBox.RegistryRuns
