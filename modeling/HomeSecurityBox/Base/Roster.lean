import Mathlib.Data.List.Nodup
import Mathlib.Data.List.Perm.Basic

/-!
Members that are present or absent, in two lists. A member enrols once and from
then on leaves and rejoins by its position; no member is lost or doubled, so
what tells all members apart goes on doing so.
-/

namespace HomeSecurityBox

structure Roster (α : Type*) where
  present : List α
  absent : List α

namespace Roster

variable {α β : Type*}

def members (r : Roster α) : List α := r.present ++ r.absent

def enrol (r : Roster α) (a : α) : Roster α := { r with present := r.present ++ [a] }

def leave (r : Roster α) (i : ℕ) : Roster α :=
  match r.present[i]? with
  | none => r
  | some a => ⟨r.present.eraseIdx i, r.absent ++ [a]⟩

def rejoin (r : Roster α) (i : ℕ) : Roster α :=
  match r.absent[i]? with
  | none => r
  | some a => ⟨r.present ++ [a], r.absent.eraseIdx i⟩

theorem perm_cons_eraseIdx {l : List α} {i : ℕ} {a : α} (h : l[i]? = some a) :
    l.Perm (a :: l.eraseIdx i) := by
  obtain ⟨hi, hget⟩ := List.getElem?_eq_some_iff.mp h
  rw [← hget]
  exact (List.getElem_cons_eraseIdx_perm hi).symm

theorem mem_eraseIdx_of_ne {l : List α} {i : ℕ} {a b : α} (h : l[i]? = some a) (hb : b ∈ l)
    (hne : b ≠ a) : b ∈ l.eraseIdx i := by
  rcases List.mem_cons.mp ((perm_cons_eraseIdx h).mem_iff.mp hb) with heq | hrest
  · exact absurd heq hne
  · exact hrest

theorem members_enrol (r : Roster α) (a : α) : (r.enrol a).members.Perm (a :: r.members) := by
  simp only [members, enrol, List.append_assoc, List.singleton_append]
  exact List.perm_middle

theorem members_leave (r : Roster α) (i : ℕ) : (r.leave i).members.Perm r.members := by
  unfold leave
  cases h : r.present[i]? with
  | none => exact List.Perm.refl _
  | some a =>
    have hpresent := (perm_cons_eraseIdx h).append_right r.absent
    have hmoved : (r.present.eraseIdx i ++ (r.absent ++ [a])).Perm
        (a :: (r.present.eraseIdx i ++ r.absent)) := by
      rw [← List.append_assoc]
      exact List.perm_append_singleton a _
    exact hmoved.trans hpresent.symm

theorem members_rejoin (r : Roster α) (i : ℕ) : (r.rejoin i).members.Perm r.members := by
  unfold rejoin
  cases h : r.absent[i]? with
  | none => exact List.Perm.refl _
  | some a =>
    have habsent := (perm_cons_eraseIdx h).append_left r.present
    have hmoved : r.present ++ [a] ++ r.absent.eraseIdx i =
        r.present ++ a :: r.absent.eraseIdx i := by
      rw [List.append_assoc, List.singleton_append]
    exact (hmoved ▸ habsent).symm

/-- The members differ in `f`. -/
def Distinct (f : α → β) (r : Roster α) : Prop := (r.members.map f).Nodup

theorem Distinct.eq_of_mem {f : α → β} {r : Roster α} (h : r.Distinct f) {a b : α}
    (ha : a ∈ r.members) (hb : b ∈ r.members) (hab : f a = f b) : a = b :=
  List.inj_on_of_nodup_map h ha hb hab

theorem Distinct.present {f : α → β} {r : Roster α} (h : r.Distinct f) :
    (r.present.map f).Nodup := by
  unfold Distinct members at h
  rw [List.map_append] at h
  exact (List.nodup_append.mp h).1

theorem Distinct.not_absent {f : α → β} {r : Roster α} (h : r.Distinct f) {a b : α}
    (ha : a ∈ r.present) (hb : b ∈ r.absent) : f a ≠ f b := by
  unfold Distinct members at h
  rw [List.map_append] at h
  have hdisjoint := (List.nodup_append.mp h).2.2
  exact hdisjoint (f a) (List.mem_map_of_mem ha) (f b) (List.mem_map_of_mem hb)

end Roster

end HomeSecurityBox
