import Mathlib.Data.List.Basic
import Mathlib.Tactic.IntervalCases

/-!
Bytes as groups of six bits, the first bits of a byte first. Three bytes are four groups;
what is left at the end is filled up with zeros, and groups that do not complete a byte are
dropped when they are joined again.
-/

namespace HomeSecurityBox.Sextets

/-- The groups of the bytes `a`, `b` and `c`. -/
def first (a : UInt8) : UInt8 := (0x3F : UInt8) &&& (a >>> 2)

def second (a b : UInt8) : UInt8 :=
  ((a <<< 4) &&& (0x30 : UInt8)) ||| ((b >>> 4) &&& (0x0F : UInt8))

def third (b c : UInt8) : UInt8 :=
  ((b <<< 2) &&& (0x3C : UInt8)) ||| ((c >>> 6) &&& (0x03 : UInt8))

def fourth (c : UInt8) : UInt8 := 0x3F &&& c

/-- The bytes of the groups `p`, `q`, `r` and `s`. -/
def high (p q : UInt8) : UInt8 := (p <<< 2) ||| (q >>> 4)

def middle (q r : UInt8) : UInt8 := ((q &&& 0x0F) <<< 4) ||| (r >>> 2)

def low (r s : UInt8) : UInt8 := ((r &&& 0x03) <<< 6) ||| s

def split : List UInt8 → List UInt8
  | [] => []
  | [a] => [first a, second a 0]
  | [a, b] => [first a, second a b, third b 0]
  | a :: b :: c :: rest => first a :: second a b :: third b c :: fourth c :: split rest

def join : List UInt8 → List UInt8
  | [] => []
  | [_] => []
  | [p, q] => [high p q]
  | [p, q, r] => [high p q, middle q r]
  | p :: q :: r :: s :: rest => high p q :: middle q r :: low r s :: join rest

theorem high_split (a b : UInt8) : high (first a) (second a b) = a := by
  apply UInt8.toBitVec_inj.mp
  apply BitVec.eq_of_getLsbD_eq
  intro i hi
  interval_cases i <;> simp [high, first, second]

theorem middle_split (a b c : UInt8) : middle (second a b) (third b c) = b := by
  apply UInt8.toBitVec_inj.mp
  apply BitVec.eq_of_getLsbD_eq
  intro i hi
  interval_cases i <;> simp [middle, second, third]

theorem low_split (b c : UInt8) : low (third b c) (fourth c) = c := by
  apply UInt8.toBitVec_inj.mp
  apply BitVec.eq_of_getLsbD_eq
  intro i hi
  interval_cases i <;> simp [low, third, fourth]

theorem join_split (bytes : List UInt8) : join (split bytes) = bytes := by
  induction bytes using split.induct with
  | case1 => rfl
  | case2 a => rw [split, join, high_split]
  | case3 a b => rw [split, join, high_split, middle_split]
  | case4 a b c rest ih => rw [split, join, high_split, middle_split, low_split, ih]

theorem and_lt {x mask : UInt8} (h : mask < 64) : x &&& mask < 64 := by
  rw [UInt8.lt_iff_toNat_lt, UInt8.toNat_and] at *
  exact Nat.lt_of_le_of_lt Nat.and_le_right h

theorem mask_lt {x mask : UInt8} (h : mask < 64) : mask &&& x < 64 := by
  rw [UInt8.and_comm]
  exact and_lt h

theorem or_lt {x y : UInt8} (hx : x < 64) (hy : y < 64) : x ||| y < 64 := by
  rw [UInt8.lt_iff_toNat_lt] at *
  rw [UInt8.toNat_or]
  exact Nat.or_lt_two_pow (n := 6) hx hy

theorem first_lt (a : UInt8) : first a < 64 := mask_lt (by decide)

theorem second_lt (a b : UInt8) : second a b < 64 := or_lt (and_lt (by decide)) (and_lt (by decide))

theorem third_lt (b c : UInt8) : third b c < 64 := or_lt (and_lt (by decide)) (and_lt (by decide))

theorem fourth_lt (c : UInt8) : fourth c < 64 := mask_lt (by decide)

theorem split_lt (bytes : List UInt8) : ∀ d ∈ split bytes, d < 64 := by
  induction bytes using split.induct with
  | case1 => exact List.forall_mem_nil _
  | case2 a =>
    simp only [split, List.forall_mem_cons]
    exact ⟨first_lt a, second_lt a 0, List.forall_mem_nil _⟩
  | case3 a b =>
    simp only [split, List.forall_mem_cons]
    exact ⟨first_lt a, second_lt a b, third_lt b 0, List.forall_mem_nil _⟩
  | case4 a b c rest ih =>
    simp only [split, List.forall_mem_cons]
    exact ⟨first_lt a, second_lt a b, third_lt b c, fourth_lt c, ih⟩

/-- How many groups are missing to the next four. -/
def missing (n : ℕ) : ℕ := (3 - n % 3) % 3

theorem split_length (bytes : List UInt8) :
    (split bytes).length + missing bytes.length = 4 * ((bytes.length + 2) / 3) := by
  induction bytes using split.induct with
  | case1 | case2 a | case3 a b => simp only [split, missing, List.length_cons, List.length_nil]
  | case4 a b c rest ih =>
    simp only [split, missing, List.length_cons] at ih ⊢
    omega

end HomeSecurityBox.Sextets
