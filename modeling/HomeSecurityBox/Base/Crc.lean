import Mathlib.Data.List.Basic
import Mathlib.Logic.Function.Iterate

/-!
Reflected cyclic redundancy checks of any width. The register takes the bits of a
message one at a time, the least significant of each symbol first. A symbol can also be
added to the register as a whole, in front of as many shifts as it has bits.
-/

namespace HomeSecurityBox.Crc

variable {w : ℕ} (poly : BitVec w)

/-- One shift of the register; the bit that drops out brings in the polynomial. -/
def shiftOut (reg : BitVec w) : BitVec w :=
  if reg.getLsbD 0 then (reg >>> 1) ^^^ poly else reg >>> 1

/-- A bit of the message is added to the one that drops out. -/
def feedBit (reg : BitVec w) (bit : Bool) : BitVec w :=
  if reg.getLsbD 0 ^^ bit then (reg >>> 1) ^^^ poly else reg >>> 1

/-- The `n` low bits of a symbol, least significant first. -/
def bits : ℕ → BitVec w → List Bool
  | 0, _ => []
  | n + 1, x => x.getLsbD 0 :: bits n (x >>> 1)

/-- The register after a message of symbols as wide as itself. -/
def checksum (init : BitVec w) (message : List (BitVec w)) : BitVec w :=
  (message.flatMap (bits w)).foldl (feedBit poly) init

theorem shiftOut_xor (reg x : BitVec w) :
    shiftOut poly (reg ^^^ x) = feedBit poly reg (x.getLsbD 0) ^^^ (x >>> 1) := by
  unfold shiftOut feedBit
  rw [BitVec.getLsbD_xor, BitVec.ushiftRight_xor_distrib]
  split
  · rw [BitVec.xor_assoc, BitVec.xor_assoc, BitVec.xor_comm poly]
  · rfl

/-- The bits of a symbol, one after the other, are the symbol and as many shifts. -/
theorem feedBits_eq (n : ℕ) (reg x : BitVec w) (hx : ∀ i, n ≤ i → x.getLsbD i = false) :
    (bits n x).foldl (feedBit poly) reg = (shiftOut poly)^[n] (reg ^^^ x) := by
  induction n generalizing reg x with
  | zero =>
    have hzero : x = 0#w := by
      apply BitVec.eq_of_getLsbD_eq
      intro i _
      rw [hx i (Nat.zero_le i), BitVec.getLsbD_zero]
    rw [hzero, BitVec.xor_zero]
    rfl
  | succ n ih =>
    have hrest : ∀ i, n ≤ i → (x >>> 1).getLsbD i = false := by
      intro i hi
      rw [BitVec.getLsbD_ushiftRight]
      exact hx (1 + i) (by omega)
    rw [bits, List.foldl_cons, ih _ _ hrest, ← shiftOut_xor, Function.iterate_succ_apply]

theorem checksum_concat (init : BitVec w) (message : List (BitVec w)) (x : BitVec w) :
    checksum poly init (message ++ [x]) =
      (shiftOut poly)^[w] (checksum poly init message ^^^ x) := by
  have hhigh : ∀ i, w ≤ i → x.getLsbD i = false := fun i hi => BitVec.getLsbD_of_ge x i hi
  rw [checksum, List.flatMap_append, List.foldl_append, List.flatMap_singleton,
    feedBits_eq poly w _ x hhigh]
  rfl

end HomeSecurityBox.Crc
