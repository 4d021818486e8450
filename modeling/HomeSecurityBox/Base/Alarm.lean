import Mathlib.Data.Nat.Basic

/-!
An alarm that is due at one second of every wanted day, checked from time to time. A
check compares the second of the day with that of the check before it: where it is
smaller, a new day has begun and the alarm is armed or put off for that day. Checks that
come at most `gap` seconds apart act once on every wanted day, less than `gap` seconds
late, and on no other day.
-/

namespace HomeSecurityBox

/-- The alarm is due from `offset` to `offset + late`; the turn of a day is seen in its
first `early` seconds only. -/
structure Alarm where
  period : ℕ
  offset : ℕ
  late : ℕ
  early : ℕ
  wanted : ℕ → Bool

/-- The time of the last check and whether the alarm has acted or is put off. -/
structure Alarm.State where
  last : ℕ
  expired : Bool
  deriving DecidableEq, Repr

namespace Alarm

variable (a : Alarm)

def expiredAt (st : State) (now : ℕ) : Bool :=
  if now % a.period < st.last % a.period ∧ now % a.period < a.early then
    !a.wanted (now / a.period)
  else st.expired

def due (st : State) (now : ℕ) : Bool :=
  !a.expiredAt st now && (a.wanted (now / a.period) &&
    (decide (a.offset ≤ now % a.period) && decide (now % a.period ≤ a.offset + a.late)))

def next (st : State) (now : ℕ) : State := ⟨now, a.expiredAt st now || a.due st now⟩

/-- The time of day `d` at which the alarm is due. -/
def time (d : ℕ) : ℕ := d * a.period + a.offset

/-- Checks that come in time: no later than the alarm stays due and no later than the
turn of a day is seen. -/
structure Paced (gap : ℕ) : Prop where
  short : gap < a.period
  inDay : a.offset + gap ≤ a.period
  inTime : gap ≤ a.late + 1
  inTurn : gap ≤ a.early

variable {a} {gap : ℕ}

theorem Paced.period_pos (h : a.Paced gap) : 0 < a.period := Nat.zero_lt_of_lt h.short

/-- A number lies in the day that its quotient names. -/
theorem day_bounds (h : 0 < a.period) (now : ℕ) :
    now / a.period * a.period ≤ now ∧ now < now / a.period * a.period + a.period ∧
      now % a.period = now - now / a.period * a.period := by
  have hsplit := Nat.div_add_mod' now a.period
  have hmod := Nat.mod_lt now h
  omega

theorem day_le_of_le {m n : ℕ} (h : m ≤ n) : m * a.period ≤ n * a.period :=
  Nat.mul_le_mul_right a.period h

theorem day_succ_le {m n : ℕ} (h : m < n) : m * a.period + a.period ≤ n * a.period := by
  have hle := day_le_of_le (a := a) (Nat.succ_le_of_lt h)
  rwa [Nat.succ_mul] at hle

/-- Checks in time see every turn of a day, and nothing else as one. -/
theorem turn_iff (h : a.Paced gap) {last now : ℕ} (hle : last ≤ now) (hgap : now ≤ last + gap)
    :
    (now % a.period < last % a.period ∧ now % a.period < a.early) ↔
      now / a.period ≠ last / a.period := by
  obtain ⟨hlastLow, hlastHigh, hlast⟩ := day_bounds h.period_pos last
  obtain ⟨hnowLow, hnowHigh, hnow⟩ := day_bounds h.period_pos now
  have hturn := h.inTurn
  have hshort := h.short
  rcases Nat.lt_trichotomy (last / a.period) (now / a.period) with hlt | heq | hgt
  · have hday := day_succ_le (a := a) hlt
    constructor
    · exact fun _ => Nat.ne_of_gt hlt
    · intro _
      omega
  · rw [heq] at hlast hlastLow
    constructor
    · intro hturned
      omega
    · exact fun hne => absurd heq.symm hne
  · have hday := day_succ_le (a := a) hgt
    omega

theorem expiredAt_eq (h : a.Paced gap) {st : State} {now : ℕ} (hle : st.last ≤ now)
    (hgap : now ≤ st.last + gap) :
    a.expiredAt st now =
      if now / a.period ≠ st.last / a.period then !a.wanted (now / a.period) else st.expired := by
  unfold expiredAt
  simp only [turn_iff h hle hgap]

/-- The alarm will act on day `d`. -/
def Ready (a : Alarm) (d : ℕ) (st : State) : Prop :=
  st.last < a.time d ∧ (st.last / a.period = d → st.expired = false)

/-- The alarm has acted on day `d` or the day has passed. -/
def Spent (a : Alarm) (d : ℕ) (st : State) : Prop :=
  a.time d ≤ st.last ∧ (st.last / a.period = d → st.expired = true)

theorem due_eq_true (st : State) (now : ℕ) :
    a.due st now = true ↔ a.expiredAt st now = false ∧ a.wanted (now / a.period) = true ∧
      a.offset ≤ now % a.period ∧ now % a.period ≤ a.offset + a.late := by
  simp only [due, Bool.and_eq_true, Bool.not_eq_true', decide_eq_true_eq]

/-- On a day that is not wanted the alarm does not act. -/
theorem not_due_of_unwanted {st : State} {now : ℕ} (h : a.wanted (now / a.period) = false) :
    a.due st now = false := by
  rw [due, h, Bool.false_and, Bool.and_false]

theorem not_due_before (h : 0 < a.period) {d now : ℕ} (htime : now < a.time d)
    (hday : now / a.period = d) (st : State) : a.due st now = false := by
  obtain ⟨hlow, -, hmod⟩ := day_bounds h now
  rw [← Bool.not_eq_true, due_eq_true]
  rintro ⟨-, -, hoffset, -⟩
  unfold time at htime
  rw [hday] at hlow hmod
  omega

/-- A check of day `d` before its time keeps the alarm ready; the first one behind
that time acts. -/
theorem Ready.step (hp : a.Paced gap) {d : ℕ}
    (hwanted : a.wanted d = true) {st : State} (hs : a.Ready d st) {now : ℕ}
    (hle : st.last ≤ now) (hgap : now ≤ st.last + gap) :
    (a.Ready d (a.next st now) ∧ (now / a.period = d → a.due st now = false)) ∨
      (a.Spent d (a.next st now) ∧ now / a.period = d ∧ a.due st now = true ∧
        now < a.time d + gap) := by
  obtain ⟨hbefore, hfresh⟩ := hs
  obtain ⟨hnowLow, hnowHigh, hmod⟩ := day_bounds hp.period_pos now
  have hinDay := hp.inDay
  have hinTime := hp.inTime
  have hexpired : now / a.period = d → a.expiredAt st now = false := by
    intro hday
    rw [expiredAt_eq hp hle hgap]
    by_cases hturn : now / a.period = st.last / a.period
    · rw [if_neg (not_not.mpr hturn)]
      exact hfresh (hturn.symm.trans hday)
    · rw [if_pos hturn, hday, hwanted]
      rfl
  by_cases htime : now < a.time d
  · -- the time of the day has not come
    have hnot : now / a.period = d → a.due st now = false :=
      fun hday => not_due_before hp.period_pos htime hday st
    refine Or.inl ⟨⟨htime, ?_⟩, hnot⟩
    intro hday
    show (a.expiredAt st now || a.due st now) = false
    rw [hexpired hday, hnot hday]
    rfl
  · have hday : now / a.period = d := by
      unfold time at hbefore htime
      rcases Nat.lt_trichotomy (now / a.period) d with hlt | heq | hgt
      · have hearlier := day_succ_le (a := a) hlt
        omega
      · exact heq
      · have hlater := day_succ_le (a := a) hgt
        omega
    have hdue : a.due st now = true := by
      rw [due_eq_true]
      refine ⟨hexpired hday, ?_, ?_, ?_⟩
      · rw [hday]
        exact hwanted
      · unfold time at htime
        rw [hday] at hmod
        omega
      · unfold time at hbefore
        rw [hday] at hmod
        omega
    refine Or.inr ⟨⟨Nat.le_of_not_lt htime, ?_⟩, hday, hdue, ?_⟩
    · intro _
      rw [next, hdue, Bool.or_true]
    · omega

/-- Behind its act the alarm does not act again on that day. -/
theorem Spent.step (hp : a.Paced gap) {d : ℕ} {st : State}
    (hs : a.Spent d st) {now : ℕ} (hle : st.last ≤ now) (hgap : now ≤ st.last + gap) :
    a.Spent d (a.next st now) ∧ (now / a.period = d → a.due st now = false) := by
  obtain ⟨hafter, hexpired⟩ := hs
  have hkept : now / a.period = d → a.expiredAt st now = true := by
    intro hday
    have hsame : now / a.period = st.last / a.period := by
      have hlastDay : d ≤ st.last / a.period := by
        rw [Nat.le_div_iff_mul_le hp.period_pos]
        unfold time at hafter
        omega
      have hmono : st.last / a.period ≤ now / a.period := Nat.div_le_div_right hle
      omega
    rw [expiredAt_eq hp hle hgap, if_neg (not_not.mpr hsame)]
    exact hexpired (hsame.symm.trans hday)
  refine ⟨⟨Nat.le_trans hafter hle, ?_⟩, ?_⟩
  · intro hday
    rw [next, hkept hday, Bool.true_or]
  · intro hday
    rw [due, hkept hday]
    rfl

end Alarm

end HomeSecurityBox
