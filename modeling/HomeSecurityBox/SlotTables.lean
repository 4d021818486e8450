import HomeSecurityBox.Device

/-!
The laws of the slot tables: a table is a partial map from device ids and slots to
records. Setting and deleting change one entry of their own table, and they succeed
exactly where that entry can be changed.
-/

namespace HomeSecurityBox.Device

open Protocol DeviceData

variable {ρ : Type}

theorem map_updateFirst {β : Type} (g : HsbDev → β) (devId : UInt32) (f : HsbDev → HsbDev)
    (hf : ∀ dev, g (f dev) = g dev) (queue : List HsbDev) :
    (updateFirst devId f queue).map g = queue.map g := by
  induction queue with
  | nil => rfl
  | cons dev rest ih =>
    cases hid : dev.id == devId with
    | false => simp only [updateFirst, hid, Bool.false_eq_true, if_false, List.map_cons, ih]
    | true => simp only [updateFirst, hid, if_true, List.map_cons, hf]

theorem find?_updateFirst_other (devId other : UInt32) (f : HsbDev → HsbDev)
    (queue : List HsbDev) (hid : ∀ d : HsbDev, (f d).id = d.id) (hne : other ≠ devId) :
    (updateFirst devId f queue).find? (fun d => d.id == other) =
      queue.find? fun d => d.id == other := by
  induction queue with
  | nil => rfl
  | cons d rest ih =>
    cases hd : d.id == devId with
    | false => simp only [updateFirst, hd, Bool.false_eq_true, if_false, List.find?_cons, ih]
    | true =>
      have hother : (d.id == other) = false := by
        rw [eq_of_beq hd]
        exact beq_eq_false_iff_ne.mpr hne.symm
      simp only [updateFirst, hd, if_true, List.find?_cons, hid, hother]

theorem updateFirst_of_find?_eq_none (devId : UInt32) (f : HsbDev → HsbDev) (queue : List HsbDev)
    (h : queue.find? (fun d => d.id == devId) = none) : updateFirst devId f queue = queue := by
  induction queue with
  | nil => rfl
  | cons d rest ih =>
    cases hd : d.id == devId with
    | false =>
      simp only [List.find?_cons, hd] at h
      simp only [updateFirst, hd, Bool.false_eq_true, if_false, ih h]
    | true => simp only [List.find?_cons, hd, reduceCtorEq] at h

/-- A write through the found pointer changes that device only. -/
theorem mem_updateFirst {devId : UInt32} {f : HsbDev → HsbDev} {queue : List HsbDev}
    {dev : HsbDev} (h : dev ∈ updateFirst devId f queue) :
    dev ∈ queue ∨
      ∃ found, queue.find? (fun d => d.id == devId) = some found ∧ dev = f found := by
  induction queue with
  | nil => exact absurd h List.not_mem_nil
  | cons d rest ih =>
    cases hd : d.id == devId with
    | true =>
      simp only [updateFirst, hd, if_true, List.mem_cons] at h
      rcases h with hhead | hrest
      · exact Or.inr ⟨d, by simp only [List.find?_cons, hd], hhead⟩
      · exact Or.inl (List.mem_cons_of_mem d hrest)
    | false =>
      simp only [updateFirst, hd, Bool.false_eq_true, if_false, List.mem_cons] at h
      rcases h with hhead | hrest
      · exact Or.inl (hhead ▸ List.mem_cons_self)
      · rcases ih hrest with hold | ⟨found, hfound, hdev⟩
        · exact Or.inl (List.mem_cons_of_mem d hold)
        · exact Or.inr ⟨found, by simp only [List.find?_cons, hd, hfound], hdev⟩

theorem findDev_updateDev (cb : HsbDeviceCb ρ) (devId other : UInt32) (f : HsbDev → HsbDev)
    (hid : ∀ d : HsbDev, (f d).id = d.id) :
    findDev (HsbDeviceCb.updateDev cb devId f) other =
      if other = devId then (findDev cb devId).map f else findDev cb other := by
  by_cases hother : other = devId
  · subst hother
    rw [if_pos rfl]
    cases hfind : findDev cb other with
    | none =>
      have hsame := updateFirst_of_find?_eq_none other f cb.queue hfind
      simp only [findDev, HsbDeviceCb.updateDev, hsame]
      exact hfind
    | some dev => exact find?_updateFirst other f cb.queue dev hid hfind
  · rw [if_neg hother]
    exact find?_updateFirst_other devId other f cb.queue hid hother

theorem findDev_ne_none_iff (cb : HsbDeviceCb ρ) (devId : UInt32) :
    findDev cb devId ≠ none ↔ devId ∈ getDevIdList cb := by
  simp only [findDev, getDevIdList, ne_eq, List.find?_eq_none, beq_iff_eq, List.mem_map,
    not_forall, not_not, exists_prop]

theorem getDevIdList_updateDev (cb : HsbDeviceCb ρ) (devId : UInt32) (f : HsbDev → HsbDev)
    (hid : ∀ d : HsbDev, (f d).id = d.id) :
    getDevIdList (HsbDeviceCb.updateDev cb devId f) = getDevIdList cb :=
  map_updateFirst HsbDev.id devId f hid cb.queue

namespace SlotTable

variable {R S R' S' : Type}

/-- What the operations of a table rely on. -/
structure Lawful (t : SlotTable R S) : Prop where
  recs_store : ∀ dev r s, t.recs (t.store dev r s) = r
  stats_store : ∀ dev r s, t.stats (t.store dev r s) = s
  id_store : ∀ dev r s, (t.store dev r s).id = dev.id
  active_arm : ∀ s, t.active (t.arm s) = true
  active_disarm : ∀ s, t.active (t.disarm s) = false

/-- A table that does not see the writes to another one. -/
structure Apart (t : SlotTable R S) (t' : SlotTable R' S') : Prop where
  recs : ∀ dev r s, t'.recs (t.store dev r s) = t'.recs dev
  stats : ∀ dev r s, t'.stats (t.store dev r s) = t'.stats dev

/-- The record in an active slot of a device. -/
def record (t : SlotTable R S) (dev : HsbDev) (slot : UInt16) : Option R :=
  if h : slot.toNat < t.size then
    if t.active (t.stats dev)[slot.toNat] then some (t.recs dev)[slot.toNat] else none
  else none

/-- The table as a partial map. -/
def find (t : SlotTable R S) (cb : HsbDeviceCb ρ) (devId : UInt32) (slot : UInt16) : Option R :=
  (findDev cb devId).bind fun dev => t.record dev slot

/-- Where a record can be set. -/
def HasSlot (t : SlotTable R S) (cb : HsbDeviceCb ρ) (devId : UInt32) (slot : UInt16) : Prop :=
  findDev cb devId ≠ none ∧ slot.toNat < t.size

theorem get_eq (t : SlotTable R S) (cb : HsbDeviceCb ρ) (devId : UInt32) (slot : UInt16) :
    t.get cb devId slot =
      match t.find cb devId slot with
      | some r => .ok r
      | none => .error HsbErrorNo.badParam.code := by
  unfold get find
  cases hfind : findDev cb devId with
  | none => rfl
  | some dev =>
    simp only [Option.bind_some, record]
    by_cases hslot : slot.toNat < t.size
    · simp only [dif_pos hslot]
      by_cases hactive : t.active (t.stats dev)[slot.toNat]
      · simp only [if_pos hactive]
      · simp only [if_neg hactive]
    · simp only [dif_neg hslot]

theorem set_of_hasSlot (t : SlotTable R S) (cb : HsbDeviceCb ρ) (devId : UInt32) (r : R)
    (h : t.HasSlot cb devId (t.slotOf r)) :
    t.set cb devId r =
      .ok (HsbDeviceCb.updateDev cb devId (t.put (t.slotOf r).toNat h.2 r t.arm)) := by
  obtain ⟨dev, hfind⟩ := Option.ne_none_iff_exists'.mp h.1
  simp only [set, hfind, dif_pos h.2]

theorem set_of_not_hasSlot (t : SlotTable R S) (cb : HsbDeviceCb ρ) (devId : UInt32) (r : R)
    (h : ¬t.HasSlot cb devId (t.slotOf r)) :
    t.set cb devId r = .error HsbErrorNo.badParam.code := by
  unfold set
  cases hfind : findDev cb devId with
  | none => rfl
  | some dev =>
    have hslot : ¬(t.slotOf r).toNat < t.size := by
      intro hlt
      exact h ⟨by rw [hfind]; exact Option.some_ne_none dev, hlt⟩
    simp only [dif_neg hslot]

theorem find_some_slot {t : SlotTable R S} {cb : HsbDeviceCb ρ} {devId : UInt32} {slot : UInt16}
    {r : R} (h : t.find cb devId slot = some r) : t.HasSlot cb devId slot := by
  obtain ⟨dev, hfind, hrecord⟩ := Option.bind_eq_some_iff.mp h
  refine ⟨by rw [hfind]; exact Option.some_ne_none dev, ?_⟩
  by_contra hslot
  simp only [record, dif_neg hslot, reduceCtorEq] at hrecord

theorem del_of_find_some (t : SlotTable R S) (cb : HsbDeviceCb ρ) (devId : UInt32)
    (slot : UInt16) (r : R) (h : t.find cb devId slot = some r) :
    t.del cb devId slot =
      .ok (HsbDeviceCb.updateDev cb devId
        (t.put slot.toNat (find_some_slot h).2 t.blank t.disarm)) := by
  have hslot := (find_some_slot h).2
  obtain ⟨dev, hfind, hrecord⟩ := Option.bind_eq_some_iff.mp h
  have hactive : t.active (t.stats dev)[slot.toNat] = true := by
    by_contra hinactive
    simp only [record, dif_pos hslot, if_neg hinactive, reduceCtorEq] at hrecord
  simp only [del, hfind, dif_pos hslot, if_pos hactive]

theorem del_of_find_none (t : SlotTable R S) (cb : HsbDeviceCb ρ) (devId : UInt32)
    (slot : UInt16) (h : t.find cb devId slot = none) :
    t.del cb devId slot = .error HsbErrorNo.badParam.code := by
  unfold del
  unfold find at h
  cases hfind : findDev cb devId with
  | none => rfl
  | some dev =>
    rw [hfind, Option.bind_some] at h
    by_cases hslot : slot.toNat < t.size
    · by_cases hactive : t.active (t.stats dev)[slot.toNat] = true
      · simp only [record, dif_pos hslot, if_pos hactive, reduceCtorEq] at h
      · simp only [dif_pos hslot, if_neg hactive]
    · simp only [dif_neg hslot]

theorem Lawful.id_put {t : SlotTable R S} (ht : t.Lawful) (i : ℕ) (h : i < t.size) (r : R)
    (f : S → S) (dev : HsbDev) : (t.put i h r f dev).id = dev.id := ht.id_store _ _ _

theorem Lawful.stats_put {t : SlotTable R S} (ht : t.Lawful) (i : ℕ) (h : i < t.size) (r : R)
    (f : S → S) (dev : HsbDev) (j : ℕ) (hj : j < t.size) :
    (t.stats (t.put i h r f dev))[j] = if j = i then f (t.stats dev)[i] else (t.stats dev)[j] := by
  simp only [put, ht.stats_store]
  by_cases hsame : j = i
  · subst hsame
    rw [if_pos rfl, Vector.getElem_set_self]
  · rw [if_neg hsame, Vector.getElem_set_ne _ _ (Ne.symm hsame)]

theorem Lawful.record_put {t : SlotTable R S} (ht : t.Lawful) (i : ℕ) (h : i < t.size) (r : R)
    (f : S → S) (dev : HsbDev) (slot : UInt16) :
    t.record (t.put i h r f dev) slot =
      if slot.toNat = i then if t.active (f (t.stats dev)[i]) then some r else none
      else t.record dev slot := by
  by_cases hsame : slot.toNat = i
  · subst hsame
    simp only [record, put, ht.recs_store, ht.stats_store, dif_pos h, if_true,
      Vector.getElem_set_self]
  · rw [if_neg hsame]
    unfold record
    by_cases hslot : slot.toNat < t.size
    · simp only [dif_pos hslot, put, ht.recs_store, ht.stats_store,
        Vector.getElem_set_ne _ _ (Ne.symm hsame)]
    · simp only [dif_neg hslot]

theorem Apart.record_put {t : SlotTable R S} {t' : SlotTable R' S'} (ht : t.Apart t') (i : ℕ)
    (h : i < t.size) (r : R) (f : S → S) (dev : HsbDev) (slot : UInt16) :
    t'.record (t.put i h r f dev) slot = t'.record dev slot := by
  simp only [record, put, ht.recs, ht.stats]

/-- A write to a slot of an online device, seen through the map. -/
theorem Lawful.find_put {t : SlotTable R S} (ht : t.Lawful) (cb : HsbDeviceCb ρ)
    (devId : UInt32) (i : UInt16) (hdev : findDev cb devId ≠ none) (hslot : i.toNat < t.size)
    (r : R) (f : S → S) (entry : Option R)
    (hentry : ∀ s, (if t.active (f s) then some r else none) = entry)
    (other : UInt32) (slot : UInt16) :
    t.find (HsbDeviceCb.updateDev cb devId (t.put i.toNat hslot r f)) other slot =
      if other = devId ∧ slot = i then entry else t.find cb other slot := by
  unfold find
  rw [findDev_updateDev cb devId other _ (ht.id_put _ _ _ _)]
  by_cases hsame : other = devId
  · subst hsame
    obtain ⟨dev, hfind⟩ := Option.ne_none_iff_exists'.mp hdev
    simp only [hfind, if_true, Option.map_some, Option.bind_some, ht.record_put, hentry,
      true_and, UInt16.toNat_inj]
  · simp only [hsame, if_false, false_and]

theorem Apart.find_put {t : SlotTable R S} {t' : SlotTable R' S'} (ht : t.Apart t')
    (hlawful : t.Lawful) (cb : HsbDeviceCb ρ) (devId : UInt32) (i : ℕ) (h : i < t.size) (r : R)
    (f : S → S) (other : UInt32) (slot : UInt16) :
    t'.find (HsbDeviceCb.updateDev cb devId (t.put i h r f)) other slot =
      t'.find cb other slot := by
  unfold find
  rw [findDev_updateDev cb devId other _ (hlawful.id_put _ _ _ _)]
  by_cases hdev : other = devId
  · subst hdev
    rw [if_pos rfl]
    cases findDev cb other with
    | none => rfl
    | some dev => simp only [Option.map_some, Option.bind_some, ht.record_put]
  · simp only [hdev, if_false]

end SlotTable

theorem timerTable_lawful : timerTable.Lawful :=
  ⟨fun _ _ _ => rfl, fun _ _ _ => rfl, fun _ _ _ => rfl, fun _ => rfl, fun _ => rfl⟩

theorem delayTable_lawful : delayTable.Lawful :=
  ⟨fun _ _ _ => rfl, fun _ _ _ => rfl, fun _ _ _ => rfl, fun _ => rfl, fun _ => rfl⟩

theorem linkageTable_lawful : linkageTable.Lawful :=
  ⟨fun _ _ _ => rfl, fun _ _ _ => rfl, fun _ _ _ => rfl, fun _ => rfl, fun _ => rfl⟩

end HomeSecurityBox.Device
