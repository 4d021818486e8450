import Mathlib.Data.List.Nodup

/-!
Lists that are searched by a key. The first element with a key is the only one where
the keys differ, and an element with a new key may be appended.
-/

namespace HomeSecurityBox.Keyed

variable {α κ : Type*} {f : α → κ} {l : List α}

theorem nodup_map_append {a : α} (h : (l.map f).Nodup) (hnew : ∀ b ∈ l, f b ≠ f a) :
    ((l ++ [a]).map f).Nodup := by
  rw [List.map_append, List.map_singleton]
  refine List.nodup_append.mpr ⟨h, List.nodup_singleton _, ?_⟩
  intro key hkey other hother
  obtain ⟨b, hb, rfl⟩ := List.mem_map.mp hkey
  rw [List.mem_singleton.mp hother]
  exact hnew b hb

variable [BEq κ] [LawfulBEq κ]

theorem mem_map_iff_find? {key : κ} :
    key ∈ l.map f ↔ (l.find? fun a => f a == key) ≠ none := by
  rw [ne_eq, List.find?_eq_none]
  constructor
  · intro hmem hall
    obtain ⟨a, ha, rfl⟩ := List.mem_map.mp hmem
    exact hall a ha (beq_self_eq_true (f a))
  · intro hsome
    by_contra hnot
    apply hsome
    intro a ha hkey
    rw [← eq_of_beq hkey] at hnot
    exact hnot (List.mem_map_of_mem ha)

theorem exists_find? {a : α} (ha : a ∈ l) :
    ∃ first, (l.find? fun b => f b == f a) = some first :=
  Option.ne_none_iff_exists'.mp (mem_map_iff_find?.mp (List.mem_map_of_mem ha))

/-- Where the keys differ, the search for a key finds the element that has it. -/
theorem find?_key (h : (l.map f).Nodup) {a : α} (ha : a ∈ l) :
    (l.find? fun b => f b == f a) = some a := by
  obtain ⟨first, hfind⟩ := exists_find? (f := f) ha
  have hkey := List.find?_some hfind
  have hfirst := List.mem_of_find?_eq_some hfind
  rw [hfind, List.inj_on_of_nodup_map h hfirst ha (eq_of_beq hkey)]

theorem filter_key (h : (l.map f).Nodup) {a : α} (ha : a ∈ l) :
    (l.filter fun b => f b == f a) = [a] := by
  induction l with
  | nil => exact absurd ha List.not_mem_nil
  | cons b rest ih =>
    obtain ⟨hnot, hrest⟩ := List.nodup_cons.mp h
    rcases List.mem_cons.mp ha with rfl | hlater
    · rw [List.filter_cons_of_pos (by simp)]
      refine congrArg (a :: ·) (List.filter_eq_nil_iff.mpr ?_)
      intro c hc hkey
      apply hnot
      rw [← eq_of_beq hkey]
      exact List.mem_map_of_mem hc
    · have hne : f b ≠ f a := by
        intro hkey
        apply hnot
        rw [hkey]
        exact List.mem_map_of_mem hlater
      rw [List.filter_cons_of_neg (by simp [hne])]
      exact ih hrest hlater

/-- Where the keys differ, the order does not matter to the search. -/
theorem find?_perm {l' : List α} (h : (l.map f).Nodup) (hperm : l'.Perm l) (key : κ) :
    (l'.find? fun a => f a == key) = l.find? fun a => f a == key := by
  cases hfind : l'.find? fun a => f a == key with
  | none =>
    symm
    rw [List.find?_eq_none]
    intro a ha
    exact List.find?_eq_none.mp hfind a (hperm.mem_iff.mpr ha)
  | some a =>
    have hkey := List.find?_some hfind
    have hmem := hperm.mem_iff.mp (List.mem_of_find?_eq_some hfind)
    rw [← eq_of_beq hkey, find?_key h hmem]

/-- Where the keys differ, taking out the first element with a key takes out all that
have it. -/
theorem eraseIdx_findIdx_eq_filter (h : (l.map f).Nodup) (key : κ) :
    l.eraseIdx (l.findIdx fun a => f a == key) = l.filter fun a => f a != key := by
  induction l with
  | nil => rfl
  | cons a rest ih =>
    obtain ⟨hnot, hrest⟩ := List.nodup_cons.mp h
    by_cases ha : f a = key
    · have hkeep : ∀ b ∈ rest, (f b != key) = true := by
        intro b hb
        apply bne_iff_ne.mpr
        intro hbkey
        apply hnot
        rw [ha, ← hbkey]
        exact List.mem_map_of_mem hb
      rw [List.findIdx_cons, beq_iff_eq.mpr ha, List.filter_cons_of_neg (by simp [ha]),
        List.filter_eq_self.mpr hkeep]
      rfl
    · rw [List.findIdx_cons, beq_eq_false_iff_ne.mpr ha, List.filter_cons_of_pos (by simp [ha]),
        ← ih hrest]
      rfl

end HomeSecurityBox.Keyed
