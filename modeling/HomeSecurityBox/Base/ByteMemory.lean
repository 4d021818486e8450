import Mathlib.Data.List.Basic
import Mathlib.Data.Nat.Basic
import Mathlib.Tactic.Common

/-!
Little-endian fields of byte memory. A pointer is the total function of the
bytes found from it on, so a read past the valid bytes sees whatever is there;
`load` overlays received bytes on such stale contents. Checked writes into an
array of known capacity reject every byte outside it.
-/

namespace HomeSecurityBox.ByteMemory

abbrev Memory := ℕ → UInt8

def zeros : Memory := fun _ => 0

/-- The memory seen through the pointer `m + off`. -/
def shift (m : Memory) (off : ℕ) : Memory := fun i => m (off + i)

/-- Received bytes overwrite the front of a buffer and leave the rest stale. -/
def load (bytes : List UInt8) (stale : Memory) : Memory :=
  fun i => (bytes[i]?).getD (stale i)

/-- A read of the operating system into the buffer, from an offset on. -/
def store (bytes : List UInt8) (off : ℕ) (m : Memory) : Memory :=
  fun i => if off ≤ i then (bytes[i - off]?).getD (m i) else m i

def take (m : Memory) (n : ℕ) : List UInt8 := (List.range n).map m

def AgreeBelow (n : ℕ) (m m' : Memory) : Prop := ∀ i, i < n → m i = m' i

def get8 (m : Memory) (off : ℕ) : UInt8 := m off

def get16 (m : Memory) (off : ℕ) : UInt16 :=
  UInt16.ofNat ((m off).toNat + 256 * (m (off + 1)).toNat)

def get32 (m : Memory) (off : ℕ) : UInt32 :=
  UInt32.ofNat ((get16 m off).toNat + 65536 * (get16 m (off + 2)).toNat)

def set8 (m : Memory) (off : ℕ) (v : UInt8) : Memory :=
  fun i => if i = off then v else m i

def set16 (m : Memory) (off : ℕ) (v : UInt16) : Memory :=
  set8 (set8 m off (UInt8.ofNat v.toNat)) (off + 1) (UInt8.ofNat (v.toNat / 256))

def set32 (m : Memory) (off : ℕ) (v : UInt32) : Memory :=
  set16 (set16 m off (UInt16.ofNat v.toNat)) (off + 2) (UInt16.ofNat (v.toNat / 65536))

/-- Checked writes into an array of `cap` bytes. -/
def put16 (cap off : ℕ) (v : UInt16) (m : Memory) : Option Memory :=
  if off + 2 ≤ cap then some (set16 m off v) else none

def put32 (cap off : ℕ) (v : UInt32) (m : Memory) : Option Memory :=
  if off + 4 ≤ cap then some (set32 m off v) else none

@[simp] theorem take_length (m : Memory) (n : ℕ) : (take m n).length = n := by
  simp [take]

theorem AgreeBelow.refl (n : ℕ) (m : Memory) : AgreeBelow n m m := fun _ _ => rfl

theorem AgreeBelow.symm {n : ℕ} {m m' : Memory} (h : AgreeBelow n m m') :
    AgreeBelow n m' m := fun i hi => (h i hi).symm

theorem AgreeBelow.trans {n : ℕ} {m m' m'' : Memory} (h : AgreeBelow n m m')
    (h' : AgreeBelow n m' m'') : AgreeBelow n m m'' :=
  fun i hi => (h i hi).trans (h' i hi)

theorem AgreeBelow.mono {n k : ℕ} {m m' : Memory} (h : AgreeBelow n m m') (hk : k ≤ n) :
    AgreeBelow k m m' := fun i hi => h i (Nat.lt_of_lt_of_le hi hk)

theorem AgreeBelow.get8 {n off : ℕ} {m m' : Memory} (h : AgreeBelow n m m')
    (hoff : off + 1 ≤ n) : get8 m off = get8 m' off := h off (by omega)

theorem AgreeBelow.get16 {n off : ℕ} {m m' : Memory} (h : AgreeBelow n m m')
    (hoff : off + 2 ≤ n) : get16 m off = get16 m' off := by
  simp only [ByteMemory.get16, h off (by omega), h (off + 1) (by omega)]

theorem AgreeBelow.get32 {n off : ℕ} {m m' : Memory} (h : AgreeBelow n m m')
    (hoff : off + 4 ≤ n) : get32 m off = get32 m' off := by
  simp only [ByteMemory.get32, h.get16 (show off + 2 ≤ n by omega),
    h.get16 (show off + 2 + 2 ≤ n by omega)]

theorem AgreeBelow.take {n k : ℕ} {m m' : Memory} (h : AgreeBelow n m m') (hk : k ≤ n) :
    take m k = take m' k := by
  apply List.map_congr_left
  intro i hi
  exact h i (Nat.lt_of_lt_of_le (List.mem_range.mp hi) hk)

@[simp] theorem shift_zero (m : Memory) : shift m 0 = m := by
  funext i
  simp [shift]

theorem AgreeBelow.shift {n off k : ℕ} {m m' : Memory} (h : AgreeBelow n m m')
    (hk : off + k ≤ n) : AgreeBelow k (shift m off) (shift m' off) :=
  fun i hi => h (off + i) (by omega)

theorem load_lt (bytes : List UInt8) (stale : Memory) (i : ℕ) (hi : i < bytes.length) :
    load bytes stale i = bytes[i] := by
  simp [load, hi]

theorem load_ge (bytes : List UInt8) (stale : Memory) (i : ℕ) (hi : bytes.length ≤ i) :
    load bytes stale i = stale i := by
  simp [load, hi]

/-- Behind the bytes what differed still differs. -/
theorem load_ne_load {bytes : List UInt8} {m m' : Memory} {i : ℕ} (hi : bytes.length ≤ i)
    (h : m i ≠ m' i) : load bytes m i ≠ load bytes m' i := by
  rw [load_ge _ _ _ hi, load_ge _ _ _ hi]
  exact h

/-- What lies past the received bytes does not matter below their number. -/
theorem load_agree (bytes : List UInt8) (stale stale' : Memory) :
    AgreeBelow bytes.length (load bytes stale) (load bytes stale') := by
  intro i hi
  rw [load_lt bytes stale i hi, load_lt bytes stale' i hi]

/-- Behind a loaded prefix the remaining bytes are loaded. -/
theorem shift_load_append (front back : List UInt8) (stale : Memory) :
    shift (load (front ++ back) stale) front.length =
      load back (shift stale front.length) := by
  funext i
  simp [shift, load, List.getElem?_append_right]

theorem load_append (front back : List UInt8) (stale : Memory) :
    load (front ++ back) stale = load front (load (front ++ back) stale) := by
  funext i
  by_cases hi : i < front.length
  · simp [load, List.getElem?_append_left hi, hi]
  · simp [load, List.getElem?_eq_none (Nat.le_of_not_lt hi)]

theorem take_load (bytes : List UInt8) (stale : Memory) :
    take (load bytes stale) bytes.length = bytes := by
  apply List.ext_getElem (by simp)
  intro i hi hi'
  simp [take, load, hi']

theorem take_load_append (front back : List UInt8) (stale : Memory) :
    take (load (front ++ back) stale) front.length = front := by
  rw [load_append, take_load]

/-- The bytes behind a pointer into the front. -/
theorem drop_take (m : Memory) (off n : ℕ) :
    (take m (off + n)).drop off = take (shift m off) n := by
  apply List.ext_getElem (by simp)
  intro i hi hi'
  simp [take, shift]

theorem take_shift_load (bytes : List UInt8) (stale : Memory) (off n : ℕ)
    (h : off + n ≤ bytes.length) :
    take (shift (load bytes stale) off) n = (bytes.drop off).take n := by
  have hlength : ((bytes.drop off).take n).length = n := by
    rw [List.length_take, List.length_drop]
    omega
  apply List.ext_getElem (by rw [take_length, hlength])
  intro i hi hi'
  rw [hlength] at hi'
  simp only [take, List.getElem_map, List.getElem_range, shift, List.getElem_take,
    List.getElem_drop]
  exact load_lt bytes stale (off + i) (by omega)

/-- Loading what was taken out of a memory. -/
theorem load_take_agree (m stale : Memory) (n : ℕ) : AgreeBelow n (load (take m n) stale) m := by
  intro i hi
  rw [load_lt _ _ _ (by simpa using hi)]
  simp [take]

theorem agree_of_take_eq {m m' : Memory} {n : ℕ} (h : take m n = take m' n) :
    AgreeBelow n m m' :=
  (load_take_agree m zeros n).symm.trans (h ▸ load_take_agree m' zeros n)

/-- What was in front of a read and the read itself. -/
theorem take_store (bytes : List UInt8) (off : ℕ) (m : Memory) :
    take (store bytes off m) (off + bytes.length) = take m off ++ bytes := by
  apply List.ext_getElem (by simp)
  intro i hi hi'
  rw [take_length] at hi
  simp only [take, List.getElem_map, List.getElem_range, store]
  by_cases hfront : off ≤ i
  · have hread : i - off < bytes.length := by omega
    rw [if_pos hfront, List.getElem_append_right (by simpa using hfront)]
    simp [hread]
  · rw [if_neg hfront, List.getElem_append_left (by simpa using hfront)]
    simp

theorem store_zero (bytes : List UInt8) (m : Memory) : store bytes 0 m = load bytes m := by
  funext i
  simp [store, load]

/-- A read in two parts. -/
theorem store_append (front back : List UInt8) (off : ℕ) (m : Memory) :
    store back (off + front.length) (store front off m) = store (front ++ back) off m := by
  funext i
  by_cases hback : off + front.length ≤ i
  · have hrest : i - (off + front.length) = i - off - front.length := by omega
    have hfront : off ≤ i := by omega
    have hpast : front.length ≤ i - off := by omega
    simp only [store, if_pos hback, if_pos hfront, List.getElem?_append_right hpast, hrest,
      List.getElem?_eq_none hpast, Option.getD_none]
  · by_cases hfront : off ≤ i
    · have hhere : i - off < front.length := by omega
      simp only [store, if_neg hback, if_pos hfront, List.getElem?_append_left hhere]
    · simp only [store, if_neg hback, if_neg hfront]

theorem load_take_self (m : Memory) (n : ℕ) : load (take m n) m = m := by
  funext i
  by_cases hi : i < n
  · exact load_take_agree m m n i hi
  · exact load_ge _ _ _ (by rw [take_length]; omega)

/-- A memory that starts with these bytes. -/
theorem agree_load_of_take {m : Memory} {n : ℕ} {bytes : List UInt8} (h : take m n = bytes)
    (stale : Memory) : AgreeBelow n m (load bytes stale) := by
  rw [← h]
  exact (load_take_agree m stale n).symm

theorem set8_same (m : Memory) (off : ℕ) (v : UInt8) : set8 m off v off = v := by
  simp [set8]

theorem set8_other (m : Memory) (off i : ℕ) (v : UInt8) (h : i ≠ off) :
    set8 m off v i = m i := by
  simp [set8, h]

theorem set16_other (m : Memory) (off i : ℕ) (v : UInt16) (h : i < off ∨ off + 2 ≤ i) :
    set16 m off v i = m i := by
  rw [set16, set8_other _ _ _ _ (by omega), set8_other _ _ _ _ (by omega)]

theorem set32_other (m : Memory) (off i : ℕ) (v : UInt32) (h : i < off ∨ off + 4 ≤ i) :
    set32 m off v i = m i := by
  rw [set32, set16_other _ _ _ _ (by omega), set16_other _ _ _ _ (by omega)]

theorem set8_set8 (m : Memory) (off : ℕ) (v w : UInt8) :
    set8 (set8 m off v) off w = set8 m off w := by
  funext i
  rcases eq_or_ne i off with rfl | hne
  · rw [set8_same, set8_same]
  · rw [set8_other _ _ _ _ hne, set8_other _ _ _ _ hne, set8_other _ _ _ _ hne]

theorem store_nil (off : ℕ) (m : Memory) : store [] off m = m := by
  funext i
  simp [store]

theorem store_cons (v : UInt8) (rest : List UInt8) (off : ℕ) (m : Memory) :
    store (v :: rest) off m = store rest (off + 1) (set8 m off v) := by
  have hbyte : store [v] off m = set8 m off v := by
    funext i
    rcases Nat.lt_trichotomy i off with hlt | rfl | hgt
    · rw [store, if_neg (Nat.not_le_of_lt hlt), set8_other _ _ _ _ (Nat.ne_of_lt hlt)]
    · rw [store, if_pos (Nat.le_refl i), Nat.sub_self, set8_same]
      rfl
    · rw [store, if_pos (Nat.le_of_lt hgt), set8_other _ _ _ _ (Nat.ne_of_gt hgt),
        List.getElem?_eq_none (by rw [List.length_singleton]; omega), Option.getD_none]
  rw [← hbyte]
  exact (store_append [v] rest off m).symm

theorem store_concat (bytes : List UInt8) (v : UInt8) (off : ℕ) (m : Memory) :
    store (bytes ++ [v]) off m = set8 (store bytes off m) (off + bytes.length) v := by
  rw [← store_append, store_cons, store_nil]

theorem take_succ (m : Memory) (n : ℕ) : take m (n + 1) = m 0 :: take (shift m 1) n := by
  rw [take, List.range_succ_eq_map, List.map_cons, List.map_map]
  congr 1
  apply List.map_congr_left
  intro i _
  exact congrArg m (Nat.add_comm i 1)

theorem shift_shift (m : Memory) (off n : ℕ) : shift (shift m off) n = shift m (off + n) := by
  funext i
  exact congrArg m (Nat.add_assoc off n i).symm

theorem get16_set16 (m : Memory) (off : ℕ) (v : UInt16) : get16 (set16 m off v) off = v := by
  have hlow : set16 m off v off = UInt8.ofNat v.toNat := by
    rw [set16, set8_other _ _ _ _ (by omega), set8_same]
  have hhigh : set16 m off v (off + 1) = UInt8.ofNat (v.toNat / 256) := by
    rw [set16, set8_same]
  apply UInt16.toNat_inj.mp
  have hv := v.toNat_lt
  rw [get16, hlow, hhigh]
  simp only [UInt16.toNat_ofNat', UInt8.toNat_ofNat']
  omega

theorem get16_of_agree (m m' : Memory) (off : ℕ) (h0 : m off = m' off)
    (h1 : m (off + 1) = m' (off + 1)) : get16 m off = get16 m' off := by
  simp only [get16, h0, h1]

theorem get16_set16_other (m : Memory) (off i : ℕ) (v : UInt16)
    (h : i + 2 ≤ off ∨ off + 2 ≤ i) : get16 (set16 m off v) i = get16 m i :=
  get16_of_agree _ _ _ (set16_other m off i v (by omega))
    (set16_other m off (i + 1) v (by omega))

theorem get16_set32_other (m : Memory) (off i : ℕ) (v : UInt32)
    (h : i + 2 ≤ off ∨ off + 4 ≤ i) : get16 (set32 m off v) i = get16 m i :=
  get16_of_agree _ _ _ (set32_other m off i v (by omega))
    (set32_other m off (i + 1) v (by omega))

theorem get32_set32 (m : Memory) (off : ℕ) (v : UInt32) : get32 (set32 m off v) off = v := by
  have hlow : get16 (set32 m off v) off = UInt16.ofNat v.toNat := by
    rw [set32, get16_set16_other _ _ _ _ (by omega), get16_set16]
  have hhigh : get16 (set32 m off v) (off + 2) = UInt16.ofNat (v.toNat / 65536) := by
    rw [set32, get16_set16]
  apply UInt32.toNat_inj.mp
  have hv := v.toNat_lt
  rw [get32, hlow, hhigh]
  simp only [UInt32.toNat_ofNat', UInt16.toNat_ofNat']
  omega

theorem get32_of_agree (m m' : Memory) (off : ℕ) (h0 : get16 m off = get16 m' off)
    (h1 : get16 m (off + 2) = get16 m' (off + 2)) : get32 m off = get32 m' off := by
  simp only [get32, h0, h1]

theorem get16_set8_other (m : Memory) (off i : ℕ) (v : UInt8)
    (h : i + 2 ≤ off ∨ off + 1 ≤ i) : get16 (set8 m off v) i = get16 m i :=
  get16_of_agree _ _ _ (set8_other m off i v (by omega))
    (set8_other m off (i + 1) v (by omega))

theorem get32_set8_other (m : Memory) (off i : ℕ) (v : UInt8)
    (h : i + 4 ≤ off ∨ off + 1 ≤ i) : get32 (set8 m off v) i = get32 m i :=
  get32_of_agree _ _ _ (get16_set8_other m off i v (by omega))
    (get16_set8_other m off (i + 2) v (by omega))

theorem get32_set16_other (m : Memory) (off i : ℕ) (v : UInt16)
    (h : i + 4 ≤ off ∨ off + 2 ≤ i) : get32 (set16 m off v) i = get32 m i :=
  get32_of_agree _ _ _ (get16_set16_other m off i v (by omega))
    (get16_set16_other m off (i + 2) v (by omega))

theorem get32_set32_other (m : Memory) (off i : ℕ) (v : UInt32)
    (h : i + 4 ≤ off ∨ off + 4 ≤ i) : get32 (set32 m off v) i = get32 m i :=
  get32_of_agree _ _ _ (get16_set32_other m off i v (by omega))
    (get16_set32_other m off (i + 2) v (by omega))

theorem get8_set8 (m : Memory) (off : ℕ) (v : UInt8) : get8 (set8 m off v) off = v :=
  set8_same m off v

theorem get8_set8_other (m : Memory) (off i : ℕ) (v : UInt8) (h : i ≠ off) :
    get8 (set8 m off v) i = get8 m i := set8_other m off i v h

theorem get8_set16_other (m : Memory) (off i : ℕ) (v : UInt16) (h : i < off ∨ off + 2 ≤ i) :
    get8 (set16 m off v) i = get8 m i := set16_other m off i v h

theorem get8_set32_other (m : Memory) (off i : ℕ) (v : UInt32) (h : i < off ∨ off + 4 ≤ i) :
    get8 (set32 m off v) i = get8 m i := set32_other m off i v h

theorem get16_toNat (m : Memory) (off : ℕ) :
    (get16 m off).toNat = (m off).toNat + 256 * (m (off + 1)).toNat := by
  have hlow := (m off).toNat_lt
  have hhigh := (m (off + 1)).toNat_lt
  rw [get16, UInt16.toNat_ofNat']
  omega

theorem get32_toNat (m : Memory) (off : ℕ) :
    (get32 m off).toNat = (get16 m off).toNat + 65536 * (get16 m (off + 2)).toNat := by
  have hlow := (get16 m off).toNat_lt
  have hhigh := (get16 m (off + 2)).toNat_lt
  rw [get32, UInt32.toNat_ofNat']
  omega

/-- A field determines its bytes. -/
theorem bytes_of_get16 {m m' : Memory} {off : ℕ} (h : get16 m off = get16 m' off) :
    m off = m' off ∧ m (off + 1) = m' (off + 1) := by
  have hsame := congrArg UInt16.toNat h
  have hlow := (m off).toNat_lt
  have hlow' := (m' off).toNat_lt
  rw [get16_toNat, get16_toNat] at hsame
  exact ⟨UInt8.toNat_inj.mp (by omega), UInt8.toNat_inj.mp (by omega)⟩

theorem get32_last {m m' : Memory} {off : ℕ} (h : get32 m off = get32 m' off) :
    m (off + 3) = m' (off + 3) := by
  have hsame := congrArg UInt32.toNat h
  have hlow := (get16 m off).toNat_lt
  have hlow' := (get16 m' off).toNat_lt
  rw [get32_toNat, get32_toNat] at hsame
  have hhigh : get16 m (off + 2) = get16 m' (off + 2) := by
    apply UInt16.toNat_inj.mp
    omega
  exact (bytes_of_get16 hhigh).2

theorem AgreeBelow.copy8 {off : ℕ} {m m' : Memory} (h : AgreeBelow off m m') :
    AgreeBelow (off + 1) (set8 m off (ByteMemory.get8 m' off)) m' := by
  intro i hi
  by_cases hlast : i = off
  · rw [hlast, set8_same]
    rfl
  · rw [set8_other _ _ _ _ hlast]
    exact h i (by omega)

theorem AgreeBelow.copy16 {off : ℕ} {m m' : Memory} (h : AgreeBelow off m m') :
    AgreeBelow (off + 2) (set16 m off (ByteMemory.get16 m' off)) m' := by
  have hlow : UInt8.ofNat (ByteMemory.get16 m' off).toNat = ByteMemory.get8 m' off := by
    apply UInt8.toNat_inj.mp
    have hbyte := (m' off).toNat_lt
    rw [UInt8.toNat_ofNat', get16_toNat, ByteMemory.get8]
    omega
  have hhigh : UInt8.ofNat ((ByteMemory.get16 m' off).toNat / 256) =
      ByteMemory.get8 m' (off + 1) := by
    apply UInt8.toNat_inj.mp
    have hbyte := (m' off).toNat_lt
    have hnext := (m' (off + 1)).toNat_lt
    rw [UInt8.toNat_ofNat', get16_toNat, ByteMemory.get8]
    omega
  rw [set16, hlow, hhigh]
  exact h.copy8.copy8

theorem AgreeBelow.copy32 {off : ℕ} {m m' : Memory} (h : AgreeBelow off m m') :
    AgreeBelow (off + 4) (set32 m off (ByteMemory.get32 m' off)) m' := by
  have hlow : UInt16.ofNat (ByteMemory.get32 m' off).toNat = ByteMemory.get16 m' off := by
    apply UInt16.toNat_inj.mp
    have hhalf := (ByteMemory.get16 m' off).toNat_lt
    rw [UInt16.toNat_ofNat', get32_toNat]
    omega
  have hhigh : UInt16.ofNat ((ByteMemory.get32 m' off).toNat / 65536) =
      ByteMemory.get16 m' (off + 2) := by
    apply UInt16.toNat_inj.mp
    have hhalf := (ByteMemory.get16 m' off).toNat_lt
    have hnext := (ByteMemory.get16 m' (off + 2)).toNat_lt
    rw [UInt16.toNat_ofNat', get32_toNat]
    omega
  rw [set32, hlow, hhigh]
  exact h.copy16.copy16

/-- Writing behind a pointer is writing through it. -/
theorem shift_set8 (m : Memory) (base off : ℕ) (v : UInt8) :
    shift (set8 m (base + off) v) base = set8 (shift m base) off v := by
  funext i
  simp only [shift, set8, Nat.add_left_cancel_iff]

theorem shift_set16 (m : Memory) (base off : ℕ) (v : UInt16) :
    shift (set16 m (base + off) v) base = set16 (shift m base) off v := by
  rw [set16, Nat.add_assoc, shift_set8, shift_set8, set16]

theorem shift_set32 (m : Memory) (base off : ℕ) (v : UInt32) :
    shift (set32 m (base + off) v) base = set32 (shift m base) off v := by
  rw [set32, Nat.add_assoc, shift_set16, shift_set16, set32]

theorem AgreeBelow.set8_above {n off : ℕ} {m m' : Memory} (h : AgreeBelow n m m')
    (hoff : n ≤ off) (v : UInt8) : AgreeBelow n (set8 m off v) m' := by
  intro i hi
  rw [set8_other _ _ _ _ (by omega)]
  exact h i hi

theorem AgreeBelow.set16_above {n off : ℕ} {m m' : Memory} (h : AgreeBelow n m m')
    (hoff : n ≤ off) (v : UInt16) : AgreeBelow n (set16 m off v) m' :=
  (h.set8_above hoff _).set8_above (by omega) _

theorem AgreeBelow.set32_above {n off : ℕ} {m m' : Memory} (h : AgreeBelow n m m')
    (hoff : n ≤ off) (v : UInt32) : AgreeBelow n (set32 m off v) m' :=
  (h.set16_above hoff _).set16_above (by omega) _

theorem put16_eq_some_iff (cap off : ℕ) (v : UInt16) (m m' : Memory) :
    put16 cap off v m = some m' ↔ off + 2 ≤ cap ∧ m' = set16 m off v := by
  unfold put16
  split
  · rename_i h
    simp [h, eq_comm]
  · rename_i h
    simp [h]

end HomeSecurityBox.ByteMemory
