import Mathlib.Data.Nat.Init

/-!
A latch over discrete ticks. It is set by some ticks and reset by others, and
setting wins. Between two ticks of interest it keeps its value as long as no
tick of the other kind comes.
-/

namespace HomeSecurityBox.Latch

/-- `x k` is the value in front of tick `k`. -/
structure IsLatch (set reset x : ℕ → Prop) : Prop where
  next : ∀ k, x (k + 1) ↔ set k ∨ (x k ∧ ¬ reset k)

variable {set reset x : ℕ → Prop}

theorem IsLatch.stays_set (h : IsLatch set reset x) {j k : ℕ} (hjk : j ≤ k) (hx : x j)
    (hreset : ∀ i, j ≤ i → i < k → ¬ reset i) : x k := by
  induction k, hjk using Nat.le_induction with
  | base => exact hx
  | succ k hjk ih =>
    have hk : x k := ih fun i hji hik => hreset i hji (Nat.lt_succ_of_lt hik)
    exact (h.next k).mpr (Or.inr ⟨hk, hreset k hjk (Nat.lt_succ_self k)⟩)

theorem IsLatch.stays_clear (h : IsLatch set reset x) {j k : ℕ} (hjk : j ≤ k) (hx : ¬ x j)
    (hset : ∀ i, j ≤ i → i < k → ¬ set i) : ¬ x k := by
  induction k, hjk using Nat.le_induction with
  | base => exact hx
  | succ k hjk ih =>
    have hk : ¬ x k := ih fun i hji hik => hset i hji (Nat.lt_succ_of_lt hik)
    intro hnext
    rcases (h.next k).mp hnext with hnow | ⟨hbefore, -⟩
    · exact hset k hjk (Nat.lt_succ_self k) hnow
    · exact hk hbefore

theorem IsLatch.after_set (h : IsLatch set reset x) {j k : ℕ} (hjk : j < k) (hset : set j)
    (hreset : ∀ i, j < i → i < k → ¬ reset i) : x k :=
  h.stays_set hjk ((h.next j).mpr (Or.inl hset)) hreset

theorem IsLatch.after_reset (h : IsLatch set reset x) {j k : ℕ} (hjk : j < k) (hreset : reset j)
    (hset : ∀ i, j ≤ i → i < k → ¬ set i) : ¬ x k := by
  have hnext : ¬ x (j + 1) := by
    intro hx
    rcases (h.next j).mp hx with hnow | ⟨-, hkept⟩
    · exact hset j (Nat.le_refl j) hjk hnow
    · exact hkept hreset
  exact h.stays_clear hjk hnext fun i hji hik => hset i (Nat.le_of_lt hji) hik

end HomeSecurityBox.Latch
