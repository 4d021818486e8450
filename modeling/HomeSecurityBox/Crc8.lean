import HomeSecurityBox.Base.Crc
import Mathlib.Data.Int.Notation

/-!
The checksum of the smart-config codes. `short` and `int` are words of 16 and 32 bits. The
accumulator keeps earlier bytes above its low byte and is negative when its top bit is set;
only the low byte selects entries of the table.
-/

namespace HomeSecurityBox.Crc8

def crcPolynom : BitVec 32 := 0x8C

abbrev CrcTable := Vector (BitVec 16) 256

/-- A pass of the loop over the bits in `init_crcTable`; the shift is that of an `int`. -/
def remainderStep (remainder : BitVec 32) : BitVec 32 :=
  if remainder &&& 0x01 ≠ 0 then remainder.sshiftRight 1 ^^^ crcPolynom
  else remainder.sshiftRight 1

def remainderOf (dividend : ℕ) : BitVec 32 := remainderStep^[8] (BitVec.ofNat 32 dividend)

def initCrcTable (crcTable : CrcTable) : CrcTable :=
  (List.finRange 256).foldl
    (fun table dividend =>
      table.set dividend.val ((remainderOf dividend.val).setWidth 16) dividend.isLt) crcTable

theorem index_lt (data : BitVec 32) : (data &&& 0xff).toNat < 256 := by
  rw [BitVec.toNat_and]
  exact Nat.lt_succ_of_le Nat.and_le_right

/-- The body of the loop of `crc8`. -/
def crcStep (crcTable : CrcTable) (value : BitVec 16) (byte : UInt8) : BitVec 16 :=
  let data := byte.toBitVec.setWidth 32 ^^^ value.signExtend 32
  let entry := crcTable.get ⟨(data &&& 0xff).toNat, index_lt data⟩
  (entry.signExtend 32 ^^^ (value.signExtend 32 <<< 8)).setWidth 16

def crc8Loop (crcTable : CrcTable) (buf : ℤ → UInt8) (offset : ℤ) (n : ℕ) : BitVec 16 :=
  (List.range n).foldl (fun value (cnt : ℕ) => crcStep crcTable value (buf (offset + cnt))) 0

/-- `buf` is the memory on both sides of the pointer. -/
def crc8 (crcTable : CrcTable) (buf : ℤ → UInt8) (offset len : ℤ) : UInt8 :=
  UInt8.ofBitVec ((crc8Loop crcTable buf offset len.toNat &&& 0xff).setWidth 8)

def bytesAt (buf : ℤ → UInt8) (offset : ℤ) (n : ℕ) : List UInt8 :=
  (List.range n).map fun (cnt : ℕ) => buf (offset + cnt)

/-- The CRC-8 with polynomial 0x8C and initial value 0. -/
def crcOf (bytes : List UInt8) : UInt8 :=
  UInt8.ofBitVec (Crc.checksum 0x8C#8 0#8 (bytes.map UInt8.toBitVec))

theorem bytesAt_succ (buf : ℤ → UInt8) (offset : ℤ) (n : ℕ) :
    bytesAt buf offset (n + 1) = bytesAt buf offset n ++ [buf (offset + n)] := by
  rw [bytesAt, List.range_succ, List.map_append]
  rfl

theorem crcOf_concat (bytes : List UInt8) (byte : UInt8) :
    (crcOf (bytes ++ [byte])).toBitVec =
      (Crc.shiftOut 0x8C#8)^[8] ((crcOf bytes).toBitVec ^^^ byte.toBitVec) := by
  rw [crcOf, List.map_append]
  exact Crc.checksum_concat 0x8C#8 0#8 _ _

theorem remainderStep_setWidth (x : BitVec 8) :
    remainderStep (x.setWidth 32) = (Crc.shiftOut 0x8C#8 x).setWidth 32 := by
  revert x
  decide +kernel

theorem remainderOf_eq (x : BitVec 8) :
    remainderOf x.toNat = ((Crc.shiftOut 0x8C#8)^[8] x).setWidth 32 := by
  have hsteps : ∀ n, remainderStep^[n] (x.setWidth 32) =
      ((Crc.shiftOut 0x8C#8)^[n] x).setWidth 32 := by
    intro n
    induction n with
    | zero => rfl
    | succ n ih =>
      rw [Function.iterate_succ_apply', Function.iterate_succ_apply', ih, remainderStep_setWidth]
  rw [remainderOf, BitVec.ofNat_toNat]
  exact hsteps 8

theorem get_setAll (value : Fin 256 → BitVec 16) (dividends : List (Fin 256))
    (table : CrcTable) (i : Fin 256) (hi : i ∈ dividends ∨ table.get i = value i) :
    (dividends.foldl (fun table dividend =>
      table.set dividend.val (value dividend) dividend.isLt) table).get i = value i := by
  induction dividends generalizing table with
  | nil => exact hi.resolve_left List.not_mem_nil
  | cons dividend rest ih =>
    rw [List.foldl_cons]
    apply ih
    by_cases hsame : dividend = i
    · right
      rw [← hsame]
      exact Vector.getElem_set_self _
    · rcases hi with hmem | hset
      · exact Or.inl ((List.mem_cons.mp hmem).resolve_left (Ne.symm hsame))
      · right
        have hother : (dividend : ℕ) ≠ i := fun h => hsame (Fin.ext h)
        exact (Vector.getElem_set_ne _ _ hother).trans hset

/-- An entry of the table holds eight shifts of its index. -/
theorem get_initCrcTable (crcTable : CrcTable) (i : Fin 256) :
    (initCrcTable crcTable).get i = ((Crc.shiftOut 0x8C#8)^[8] (BitVec.ofFin i)).setWidth 16 := by
  have hentry := get_setAll (fun dividend => (remainderOf dividend.val).setWidth 16)
    (List.finRange 256) crcTable i (Or.inl (List.mem_finRange i))
  have hremainder := remainderOf_eq (BitVec.ofFin i)
  rw [BitVec.toNat_ofFin] at hremainder
  rw [initCrcTable, hentry, hremainder]
  ext j hj
  simp

theorem setWidth_signExtend (value : BitVec 16) :
    (value.signExtend 32).setWidth 8 = value.setWidth 8 := by
  apply BitVec.eq_of_getLsbD_eq
  intro i hi
  rw [BitVec.getLsbD_setWidth, BitVec.getLsbD_setWidth, BitVec.getLsbD_signExtend]
  simp [hi, show i < 16 by omega, show i < 32 by omega]

theorem index_low (data : BitVec 32) :
    BitVec.ofFin ⟨(data &&& 0xff).toNat, index_lt data⟩ = data.setWidth 8 := by
  apply BitVec.eq_of_toNat_eq
  rw [BitVec.toNat_setWidth, ← Nat.and_two_pow_sub_one_eq_mod]
  rfl

theorem shiftLeft_low (value : BitVec 32) : (value <<< 8).setWidth 8 = 0#8 := by
  apply BitVec.eq_of_getLsbD_eq
  intro i hi
  simp [hi]

/-- Only the low byte of the accumulator goes on to the next, and it is the register. -/
theorem crcStep_low (crcTable : CrcTable) (value : BitVec 16) (byte : UInt8) :
    (crcStep (initCrcTable crcTable) value byte).setWidth 8 =
      (Crc.shiftOut 0x8C#8)^[8] (value.setWidth 8 ^^^ byte.toBitVec) := by
  have hdata : (byte.toBitVec.setWidth 32 ^^^ value.signExtend 32).setWidth 8 =
      value.setWidth 8 ^^^ byte.toBitVec := by
    rw [BitVec.setWidth_xor, setWidth_signExtend, BitVec.xor_comm]
    congr 1
    exact BitVec.setWidth_setWidth_of_le _ (by decide)
  rw [crcStep, get_initCrcTable, index_low, hdata, BitVec.setWidth_setWidth_of_le _ (by decide),
    BitVec.setWidth_xor, shiftLeft_low, BitVec.xor_zero, setWidth_signExtend]
  exact (BitVec.setWidth_setWidth_of_le _ (by decide)).trans (BitVec.setWidth_eq _)

theorem crc8Loop_low (crcTable : CrcTable) (buf : ℤ → UInt8) (offset : ℤ) (n : ℕ) :
    (crc8Loop (initCrcTable crcTable) buf offset n).setWidth 8 =
      (crcOf (bytesAt buf offset n)).toBitVec := by
  induction n with
  | zero => rfl
  | succ n ih =>
    rw [crc8Loop, List.range_succ, List.foldl_append, List.foldl_cons, List.foldl_nil,
      crcStep_low, ← crc8Loop, ih, bytesAt_succ, crcOf_concat]

theorem low_byte (value : BitVec 16) : (value &&& 0xff).setWidth 8 = value.setWidth 8 := by
  apply BitVec.eq_of_toNat_eq
  rw [BitVec.toNat_setWidth, BitVec.toNat_setWidth, BitVec.toNat_and]
  have hmask : value.toNat &&& 255 = value.toNat % 256 :=
    Nat.and_two_pow_sub_one_eq_mod value.toNat 8
  exact (congrArg (· % 256) hmask).trans (Nat.mod_mod _ _)

/-- The result is the bitwise checksum of the bytes at the offset, whatever the table was
before `init_crcTable`. -/
theorem crc8_bitwise (crcTable : CrcTable) (buf : ℤ → UInt8) (offset len : ℤ) :
    crc8 (initCrcTable crcTable) buf offset len = crcOf (bytesAt buf offset len.toNat) := by
  rw [crc8, low_byte, crc8Loop_low]

example : crcOf [0x31, 0x32, 0x33, 0x34, 0x35, 0x36, 0x37, 0x38, 0x39] = 0xA1 := by
  decide +kernel

end HomeSecurityBox.Crc8
