import Mathlib.Data.Nat.Basic
import Mathlib.Tactic.Common

/-!
The loop `while (pos < limit) { body; pos += used; }`, whose body reports how
far the cursor moves. Fuel bounds the number of iterations of the executable
loop; `Returns` is the outcome of the loop itself, which fuel cannot change.
When the advance depends on the position alone, the loop returns if and only
if it never stands still on a position that it visits.
-/

namespace HomeSecurityBox.CursorLoop

variable {σ : Type*}

def loop (body : ℕ → σ → ℕ × σ) (limit : ℕ) : ℕ → ℕ → σ → Option (ℕ × σ)
  | 0, pos, s => if pos < limit then none else some (pos, s)
  | fuel + 1, pos, s =>
      if pos < limit then loop body limit fuel (pos + (body pos s).1) (body pos s).2
      else some (pos, s)

def Returns (body : ℕ → σ → ℕ × σ) (limit pos : ℕ) (s : σ) (r : ℕ × σ) : Prop :=
  ∃ fuel, loop body limit fuel pos s = some r

/-- The positions at which the loop calls its body, when `adv` is its advance. -/
inductive Visited (adv : ℕ → ℕ) (limit : ℕ) : ℕ → ℕ → Prop
  | here (p : ℕ) : Visited adv limit p p
  | next {p q : ℕ} : p < limit → Visited adv limit (p + adv p) q → Visited adv limit p q

variable {body : ℕ → σ → ℕ × σ} {limit : ℕ}

theorem loop_of_le (fuel pos : ℕ) (s : σ) (h : limit ≤ pos) :
    loop body limit fuel pos s = some (pos, s) := by
  cases fuel <;> simp [loop, Nat.not_lt.mpr h]

theorem loop_succ_of_lt (fuel pos : ℕ) (s : σ) (h : pos < limit) :
    loop body limit (fuel + 1) pos s =
      loop body limit fuel (pos + (body pos s).1) (body pos s).2 := by
  simp [loop, h]

/-- More fuel does not change a result. -/
theorem loop_mono (fuel more pos : ℕ) (s : σ) (r : ℕ × σ)
    (h : loop body limit fuel pos s = some r) :
    loop body limit (fuel + more) pos s = some r := by
  induction fuel generalizing pos s with
  | zero =>
    by_cases hpos : pos < limit
    · simp [loop, hpos] at h
    · rw [loop_of_le _ _ _ (Nat.le_of_not_lt hpos)] at h ⊢
      exact h
  | succ fuel ih =>
    by_cases hpos : pos < limit
    · rw [loop_succ_of_lt _ _ _ hpos] at h
      rw [Nat.succ_add, loop_succ_of_lt _ _ _ hpos]
      exact ih _ _ h
    · rw [loop_of_le _ _ _ (Nat.le_of_not_lt hpos)] at h ⊢
      exact h

theorem Returns.unique {pos : ℕ} {s : σ} {r r' : ℕ × σ}
    (h : Returns body limit pos s r) (h' : Returns body limit pos s r') : r = r' := by
  obtain ⟨fuel, hf⟩ := h
  obtain ⟨fuel', hf'⟩ := h'
  have h1 := loop_mono fuel fuel' pos s r hf
  have h2 := loop_mono fuel' fuel pos s r' hf'
  rw [Nat.add_comm] at h2
  exact Option.some.inj (h1.symm.trans h2)

theorem returns_done (pos : ℕ) (s : σ) (h : limit ≤ pos) :
    Returns body limit pos s (pos, s) := ⟨0, loop_of_le 0 pos s h⟩

theorem returns_iff_step (pos : ℕ) (s : σ) (r : ℕ × σ) (h : pos < limit) :
    Returns body limit pos s r ↔
      Returns body limit (pos + (body pos s).1) (body pos s).2 r := by
  constructor
  · rintro ⟨fuel, hf⟩
    cases fuel with
    | zero => simp [loop, h] at hf
    | succ fuel =>
      rw [loop_succ_of_lt _ _ _ h] at hf
      exact ⟨fuel, hf⟩
  · rintro ⟨fuel, hf⟩
    exact ⟨fuel + 1, by rw [loop_succ_of_lt _ _ _ h]; exact hf⟩

/-- Standing still once means standing still for ever. -/
theorem loop_none_of_stuck (adv : ℕ → ℕ) (hadv : ∀ p s, (body p s).1 = adv p)
    (pos : ℕ) (hpos : pos < limit) (hstuck : adv pos = 0) (fuel : ℕ) (s : σ) :
    loop body limit fuel pos s = none := by
  induction fuel generalizing s with
  | zero => simp [loop, hpos]
  | succ fuel ih =>
    rw [loop_succ_of_lt _ _ _ hpos, hadv, hstuck]
    exact ih _

theorem loop_none_of_visited_stuck (adv : ℕ → ℕ) (hadv : ∀ p s, (body p s).1 = adv p)
    {pos q : ℕ} (hvisit : Visited adv limit pos q) (hq : q < limit) (hstuck : adv q = 0)
    (fuel : ℕ) (s : σ) : loop body limit fuel pos s = none := by
  induction hvisit generalizing fuel s with
  | here p => exact loop_none_of_stuck adv hadv p hq hstuck fuel s
  | @next p q hp _ ih =>
    cases fuel with
    | zero => simp [loop, hp]
    | succ fuel =>
      rw [loop_succ_of_lt _ _ _ hp, hadv]
      exact ih hq hstuck fuel _

/-- A cursor that always moves on, and never past the limit, ends at the limit. -/
theorem returns_of_progress (adv : ℕ → ℕ) (hadv : ∀ p s, (body p s).1 = adv p)
    (hbound : ∀ p, p < limit → adv p ≤ limit - p) (pos : ℕ) (hpos : pos ≤ limit)
    (hmove : ∀ q, Visited adv limit pos q → q < limit → 0 < adv q) (s : σ) :
    ∃ s', Returns body limit pos s (limit, s') := by
  have aux : ∀ d pos s, limit - pos = d → pos ≤ limit →
      (∀ q, Visited adv limit pos q → q < limit → 0 < adv q) →
      ∃ s', Returns body limit pos s (limit, s') := by
    intro d
    induction d using Nat.strong_induction_on with
    | h d ih =>
      intro pos s hd hpos hmove
      rcases Nat.lt_or_eq_of_le hpos with hlt | heq
      · have hstep : 0 < adv pos := hmove pos (Visited.here pos) hlt
        have hfit := hbound pos hlt
        obtain ⟨s', hs'⟩ := ih (limit - (pos + adv pos)) (by omega) (pos + adv pos)
          (body pos s).2 rfl (by omega)
          (fun q hq => hmove q (Visited.next hlt hq))
        refine ⟨s', (returns_iff_step pos s _ hlt).mpr ?_⟩
        rw [hadv]
        exact hs'
      · subst heq
        exact ⟨s, returns_done pos s (Nat.le_refl pos)⟩
  exact aux (limit - pos) pos s rfl hpos hmove

end HomeSecurityBox.CursorLoop
