import Mathlib.Data.List.Forall2
import HomeSecurityBox.Base.Transitions

/-!
Items that enter a system one behind the other and pass through it in that order.
A step adds items at the end and moves on those that are inside; a run keeps all
items it was given, in order, each at some stage of its way.
-/

namespace HomeSecurityBox.Pipeline

open List Transitions

variable {σ α ι : Type*} {R : ι → ι → Prop}

theorem forall₂_trans (htrans : ∀ a b c, R a b → R b c → R a c) {l m n : List ι}
    (h : Forall₂ R l m) (h' : Forall₂ R m n) : Forall₂ R l n := by
  induction h generalizing n with
  | nil => exact h'
  | cons hab _ ih =>
    cases h' with
    | cons hbc hrest => exact Forall₂.cons (htrans _ _ _ hab hbc) (ih hrest)

/-- What a run was given and what was inside before it is inside after it. -/
theorem run_pipeline {step : σ → α → Option σ} {ok : σ → α → Prop} {inv : σ → Prop}
    {items : σ → List ι} {added : α → List ι} (hrefl : ∀ a, R a a)
    (htrans : ∀ a b c, R a b → R b c → R a c) (hkeep : Preserves step ok inv)
    (hstep : ∀ s a s', inv s → ok s a → step s a = some s' →
      Forall₂ R (items s ++ added a) (items s'))
    (labels : List α) :
    ∀ s t, inv s → Guarded step ok s labels → run step s labels = some t →
      Forall₂ R (items s ++ labels.flatMap added) (items t) := by
  induction labels with
  | nil =>
    intro s t _ _ hrun
    cases Option.some.inj hrun
    rw [flatMap_nil, append_nil]
    exact forall₂_same.mpr fun x _ => hrefl x
  | cons a rest ih =>
    intro s t hs hguard hrun
    obtain ⟨s', hs', hrest⟩ := run_cons_eq_some step s t a rest hrun
    have hmoved := hstep s a s' hs hguard.1 hs'
    have hlater := ih s' t (hkeep s a s' hs hguard.1 hs') (hguard.2 s' hs') hrest
    rw [flatMap_cons, ← append_assoc]
    have hadded : Forall₂ R (rest.flatMap added) (rest.flatMap added) :=
      forall₂_same.mpr fun x _ => hrefl x
    exact forall₂_trans htrans (rel_append hmoved hadded) hlater

end HomeSecurityBox.Pipeline
