import HomeSecurityBox.Base.ByteMemory
import HomeSecurityBox.Base.Sextets
import Mathlib.Tactic.IntervalCases

/-!
The base64 codec of the library. Both functions write through their pointers as they go, the
encoder in place over the groups of six bits. A pointer that is none is NULL, buffers are
large enough and do not overlap, and a result of -1 stands for the `size_t` of the same bits.
-/

namespace HomeSecurityBox.Base64

open ByteMemory Sextets

/-- The counters are of type `int`; beyond that nothing is defined. -/
def intBound : ℕ := 2147483648

/-- Each value is tested again after it has been mapped. -/
def mapChar (d : UInt8) : UInt8 :=
  let d := if d ≤ 25 then d + 65 else if d ≤ 51 then d + (97 - 26)
    else if d ≤ 61 then d + (48 - 52) else d
  let d := if d = 62 then 43 else d
  if d = 63 then 47 else d

/-- The loops that map the groups in place. -/
def mapChars (n tmp : ℕ) (dest : Memory) : Memory :=
  (List.range n).foldl (fun dest i => set8 dest (tmp + i) (mapChar (dest (tmp + i)))) dest

/-- The body of the loop over blocks of three bytes. -/
def encodeBlock (src : Memory) (dest : Memory) (tmp b64Tmp : ℕ) : Memory :=
  let a := src b64Tmp
  let b := src (b64Tmp + 1)
  let c := src (b64Tmp + 2)
  let dest := set8 dest tmp ((0x3F : UInt8) &&& (a >>> 2))
  let dest := set8 dest (tmp + 1)
    (((a <<< 4) &&& (0x30 : UInt8)) ||| ((b >>> 4) &&& (0x0F : UInt8)))
  let dest := set8 dest (tmp + 2)
    (((b <<< 2) &&& (0x3C : UInt8)) ||| ((c >>> 6) &&& (0x03 : UInt8)))
  let dest := set8 dest (tmp + 3) ((0x3F : UInt8) &&& c)
  mapChars 4 tmp dest

def encodeLoop (src : Memory) (size : ℕ) (dest : Memory) (tmp b64Tmp : ℕ) :
    Option (Memory × ℕ × ℕ) :=
  if 3 ≤ size - b64Tmp then
    if tmp + 4 < intBound ∧ b64Tmp + 3 < intBound then
      encodeLoop src size (encodeBlock src dest tmp b64Tmp) (tmp + 4) (b64Tmp + 3)
    else none
  else some (dest, tmp, b64Tmp)
termination_by size - b64Tmp

/-- One or two bytes are left. -/
def encodeRest (src : Memory) (size : ℕ) (dest : Memory) (tmp b64Tmp : ℕ) : Memory :=
  let a := src b64Tmp
  let b := src (b64Tmp + 1)
  let dest :=
    if size - b64Tmp = 1 then
      let dest := set8 dest tmp ((0x3F : UInt8) &&& (a >>> 2))
      let dest := set8 dest (tmp + 1) ((a <<< 4) &&& (0x30 : UInt8))
      set8 dest (tmp + 2) 61
    else
      let dest := set8 dest tmp ((0x3F : UInt8) &&& (a >>> 2))
      let dest := set8 dest (tmp + 1)
        (((a <<< 4) &&& (0x30 : UInt8)) ||| ((b >>> 4) &&& (0x0F : UInt8)))
      set8 dest (tmp + 2) ((b <<< 2) &&& (0x3F : UInt8))
  let dest := mapChars (size - b64Tmp + 1) tmp dest
  set8 (set8 dest (tmp + 3) 61) (tmp + 4) 0

/-- Behind the loop. -/
def encodeTail (src : Memory) (size : ℕ) (dest : Memory) (tmp b64Tmp : ℕ) :
    Option (ℤ × Memory) :=
  if b64Tmp = size then some (tmp, set8 dest tmp 0)
  else if tmp + 4 < intBound then some (↑(tmp + 4), encodeRest src size dest tmp b64Tmp)
  else none

/-- The result and the memory behind `dest`. -/
def encryptB64 (dest src : Option Memory) (size : ℕ) : Option (ℤ × Option Memory) :=
  match dest, src with
  | some dest, some src =>
      (encodeLoop src size dest 0 0).bind fun (dest, tmp, b64Tmp) =>
        (encodeTail src size dest tmp b64Tmp).map fun (ret, dest) => (ret, some dest)
  | dest, _ => some (-1, dest)

set_option maxRecDepth 2000 in
def base64ReverseTable : Vector ℤ 256 := #v[
  -1, -1, -1, -1, -1, -1, -1, -1, -1, -1, -1, -1, -1, -1, -1, -1,
  -1, -1, -1, -1, -1, -1, -1, -1, -1, -1, -1, -1, -1, -1, -1, -1,
  -1, -1, -1, -1, -1, -1, -1, -1, -1, -1, -1, 62, -1, -1, -1, 63,
  52, 53, 54, 55, 56, 57, 58, 59, 60, 61, -1, -1, -1, -1, -1, -1,
  -1,  0,  1,  2,  3,  4,  5,  6,  7,  8,  9, 10, 11, 12, 13, 14,
  15, 16, 17, 18, 19, 20, 21, 22, 23, 24, 25, -1, -1, -1, -1, -1,
  -1, 26, 27, 28, 29, 30, 31, 32, 33, 34, 35, 36, 37, 38, 39, 40,
  41, 42, 43, 44, 45, 46, 47, 48, 49, 50, 51, -1, -1, -1, -1, -1,
  -1, -1, -1, -1, -1, -1, -1, -1, -1, -1, -1, -1, -1, -1, -1, -1,
  -1, -1, -1, -1, -1, -1, -1, -1, -1, -1, -1, -1, -1, -1, -1, -1,
  -1, -1, -1, -1, -1, -1, -1, -1, -1, -1, -1, -1, -1, -1, -1, -1,
  -1, -1, -1, -1, -1, -1, -1, -1, -1, -1, -1, -1, -1, -1, -1, -1,
  -1, -1, -1, -1, -1, -1, -1, -1, -1, -1, -1, -1, -1, -1, -1, -1,
  -1, -1, -1, -1, -1, -1, -1, -1, -1, -1, -1, -1, -1, -1, -1, -1,
  -1, -1, -1, -1, -1, -1, -1, -1, -1, -1, -1, -1, -1, -1, -1, -1,
  -1, -1, -1, -1, -1, -1, -1, -1, -1, -1, -1, -1, -1, -1, -1, -1]

/-- A blank counts as a plus. -/
def digitOf (ch : UInt8) : Option UInt8 :=
  let ch := if ch = 32 then 43 else ch
  let value := base64ReverseTable.get ⟨ch.toNat, ch.toNat_lt⟩
  if value < 0 then none else some (UInt8.ofNat value.toNat)

structure Decoding where
  i : ℕ
  j : ℕ
  result : Memory

/-- The `switch` over the position in a block. -/
def decodeDigit (s : Decoding) (ch : UInt8) : Decoding :=
  match s.i % 4 with
  | 0 => { i := s.i + 1, j := s.j, result := set8 s.result s.j (ch <<< 2) }
  | 1 =>
      let result := set8 s.result s.j (s.result s.j ||| (ch >>> 4))
      { i := s.i + 1, j := s.j + 1
        result := set8 result (s.j + 1) ((ch &&& (0x0F : UInt8)) <<< 4) }
  | 2 =>
      let result := set8 s.result s.j (s.result s.j ||| (ch >>> 2))
      { i := s.i + 1, j := s.j + 1
        result := set8 result (s.j + 1) ((ch &&& (0x03 : UInt8)) <<< 6) }
  | _ =>
      { i := s.i + 1, j := s.j + 1, result := set8 s.result s.j (s.result s.j ||| ch) }

/-- The loop, and the last `ch` that its head has read. -/
def decodeLoop (str : Memory) : ℕ → ℕ → Decoding → UInt8 × Decoding
  | 0, current, s => (str current, s)
  | length + 1, current, s =>
      let ch := str current
      if ch = 0 then (ch, s)
      else if ch = 61 then (ch, s)
      else
        match digitOf ch with
        | none => decodeLoop str length (current + 1) s
        | some digit => decodeLoop str length (current + 1) (decodeDigit s digit)

/-- Behind the loop. -/
def decodeTail (ch : UInt8) (s : Decoding) : ℤ × Memory :=
  if ch = 61 ∧ s.i % 4 = 1 then (-1, s.result)
  else
    let result :=
      if ch = 61 ∧ s.i % 4 = 2 then set8 s.result (s.j + 1) 0
      else if ch = 61 ∧ s.i % 4 = 3 then set8 s.result s.j 0
      else s.result
    (s.j, set8 result s.j 0)

def decodeB64 (desc : Option Memory) (str : Memory) (length : ℤ) : ℤ × Option Memory :=
  match desc with
  | none => (-1, none)
  | some result =>
      let (ch, s) := decodeLoop str length.toNat 0 { i := 0, j := 0, result := result }
      let (ret, result) := decodeTail ch s
      (ret, some result)

theorem mapChars_apply (n tmp : ℕ) (dest : Memory) (i : ℕ) :
    mapChars n tmp dest i = if tmp ≤ i ∧ i < tmp + n then mapChar (dest i) else dest i := by
  induction n with
  | zero =>
    have hnone : ¬ (tmp ≤ i ∧ i < tmp + 0) := by omega
    rw [if_neg hnone]
    rfl
  | succ n ih =>
    have hstep : mapChars (n + 1) tmp dest = set8 (mapChars n tmp dest) (tmp + n)
        (mapChar (mapChars n tmp dest (tmp + n))) := by
      rw [mapChars, List.range_succ, List.foldl_append]
      rfl
    rw [hstep]
    rcases eq_or_ne i (tmp + n) with rfl | hne
    · have hpast : ¬ (tmp ≤ tmp + n ∧ tmp + n < tmp + n) := by omega
      have hin : tmp ≤ tmp + n ∧ tmp + n < tmp + (n + 1) := by omega
      rw [set8_same, ih, if_neg hpast, if_pos hin]
    · have hsame : (tmp ≤ i ∧ i < tmp + n) ↔ (tmp ≤ i ∧ i < tmp + (n + 1)) := by omega
      rw [set8_other _ _ _ _ hne, ih, if_congr hsame rfl rfl]

/-- The loops map what has just been stored. -/
theorem mapChars_store (digits more : List UInt8) (tmp : ℕ) (dest : Memory) :
    mapChars digits.length tmp (store (digits ++ more) tmp dest) =
      store (digits.map mapChar ++ more) tmp dest := by
  funext i
  rw [mapChars_apply]
  by_cases hdigit : tmp ≤ i ∧ i < tmp + digits.length
  · have hindex : i - tmp < digits.length := by omega
    have hindex' : i - tmp < (digits.map mapChar).length := by
      rw [List.length_map]
      exact hindex
    rw [if_pos hdigit, store, if_pos hdigit.1, store, if_pos hdigit.1,
      List.getElem?_append_left hindex, List.getElem?_append_left hindex', List.getElem?_map,
      List.getElem?_eq_getElem hindex]
    rfl
  · rw [if_neg hdigit]
    by_cases hstart : tmp ≤ i
    · have hindex : digits.length ≤ i - tmp := by omega
      have hindex' : (digits.map mapChar).length ≤ i - tmp := by
        rw [List.length_map]
        exact hindex
      rw [store, if_pos hstart, store, if_pos hstart, List.getElem?_append_right hindex,
        List.getElem?_append_right hindex', List.length_map]
    · rw [store, if_neg hstart, store, if_neg hstart]

theorem encodeBlock_eq (src dest : Memory) (tmp b64Tmp : ℕ) :
    encodeBlock src dest tmp b64Tmp =
      store ([first (src b64Tmp), second (src b64Tmp) (src (b64Tmp + 1)),
        third (src (b64Tmp + 1)) (src (b64Tmp + 2)), fourth (src (b64Tmp + 2))].map mapChar)
        tmp dest := by
  have hmapped := mapChars_store [first (src b64Tmp), second (src b64Tmp) (src (b64Tmp + 1)),
    third (src (b64Tmp + 1)) (src (b64Tmp + 2)), fourth (src (b64Tmp + 2))] [] tmp dest
  rw [List.append_nil, List.append_nil] at hmapped
  rw [← hmapped]
  simp only [store_cons, store_nil, encodeBlock, first, second, third, fourth]
  rfl

theorem second_zero (a : UInt8) : second a 0 = (a <<< 4) &&& 0x30 := UInt8.or_zero

theorem third_zero (b : UInt8) : third b 0 = (b <<< 2) &&& 0x3F := by
  apply UInt8.toBitVec_inj.mp
  apply BitVec.eq_of_getLsbD_eq
  intro i hi
  interval_cases i <;> simp [third]

theorem encodeTail_rest (src dest : Memory) {size tmp b64Tmp : ℕ} (hrest : b64Tmp ≠ size)
    (hbound : tmp + 4 < intBound) :
    encodeTail src size dest tmp b64Tmp =
      some (↑(tmp + 4), encodeRest src size dest tmp b64Tmp) := by
  rw [encodeTail, if_neg hrest, if_pos hbound]

/-- The padding and the NUL behind three bytes of the last block. -/
theorem close_block (chars : List UInt8) (hchars : chars.length = 3) (tmp : ℕ) (dest : Memory) :
    set8 (set8 (store chars tmp dest) (tmp + 3) 61) (tmp + 4) 0 =
      store (chars ++ [61, 0]) tmp dest := by
  have hsplit : chars ++ [61, 0] = chars ++ [61] ++ [0] :=
    (List.append_assoc chars [61] [0]).symm
  rw [hsplit, store_concat, store_concat, List.length_append, hchars, List.length_singleton]

theorem encodeRest_one (src dest : Memory) {size tmp b64Tmp : ℕ} (h : size - b64Tmp = 1) :
    encodeRest src size dest tmp b64Tmp =
      store ([first (src b64Tmp), second (src b64Tmp) 0].map mapChar ++ [61] ++ [61, 0])
        tmp dest := by
  rw [← close_block _ rfl, ← mapChars_store, second_zero]
  simp only [encodeRest, h, if_true, List.cons_append, List.nil_append, store_cons, store_nil,
    first]
  rfl

theorem encodeRest_two (src dest : Memory) {size tmp b64Tmp : ℕ} (h : size - b64Tmp = 2) :
    encodeRest src size dest tmp b64Tmp =
      store ([first (src b64Tmp), second (src b64Tmp) (src (b64Tmp + 1)),
        third (src (b64Tmp + 1)) 0].map mapChar ++ [] ++ [61, 0]) tmp dest := by
  have hother : ¬ (2 = 1) := by decide
  rw [← close_block _ rfl, ← mapChars_store, third_zero]
  simp only [encodeRest, h, if_neg hother, List.append_nil, store_cons, store_nil, first, second]
  rfl

/-- The characters of a byte array, with the padding. -/
def text (bytes : List UInt8) : List UInt8 :=
  (split bytes).map mapChar ++ List.replicate (missing bytes.length) 61

theorem text_length (bytes : List UInt8) : (text bytes).length = 4 * ((bytes.length + 2) / 3) := by
  rw [text, List.length_append, List.length_map, List.length_replicate, split_length]

theorem text_one (a : UInt8) : text [a] = [first a, second a 0].map mapChar ++ [61, 61] := by
  rw [text, split]
  rfl

theorem text_two (a b : UInt8) :
    text [a, b] = [first a, second a b, third b 0].map mapChar ++ [61] := by
  rw [text, split]
  rfl

theorem text_block (a b c : UInt8) (rest : List UInt8) :
    text (a :: b :: c :: rest) =
      [first a, second a b, third b c, fourth c].map mapChar ++ text rest := by
  have hmissing : missing (a :: b :: c :: rest).length = missing rest.length := by
    simp only [missing, List.length_cons]
    omega
  rw [text, hmissing, split]
  rfl

/-- The loop from anywhere, and what follows it. -/
def encodeFrom (src : Memory) (size : ℕ) (dest : Memory) (tmp b64Tmp : ℕ) : Option (ℤ × Memory) :=
  (encodeLoop src size dest tmp b64Tmp).bind fun r => encodeTail src size r.1 r.2.1 r.2.2

theorem encodeFrom_done (src dest : Memory) {size tmp b64Tmp : ℕ} (h : size - b64Tmp < 3) :
    encodeFrom src size dest tmp b64Tmp = encodeTail src size dest tmp b64Tmp := by
  rw [encodeFrom, encodeLoop, if_neg (Nat.not_le_of_lt h)]
  rfl

theorem encodeFrom_block (src dest : Memory) {size tmp b64Tmp : ℕ} (h : 3 ≤ size - b64Tmp)
    (hbound : tmp + 4 < intBound ∧ b64Tmp + 3 < intBound) :
    encodeFrom src size dest tmp b64Tmp =
      encodeFrom src size (encodeBlock src dest tmp b64Tmp) (tmp + 4) (b64Tmp + 3) := by
  rw [encodeFrom, encodeLoop, if_pos h, if_pos hbound]
  rfl

theorem source_cons {src : Memory} {b64Tmp : ℕ} {v : UInt8} {rest : List UInt8}
    (h : take (shift src b64Tmp) (v :: rest).length = v :: rest) :
    src b64Tmp = v ∧ take (shift src (b64Tmp + 1)) rest.length = rest := by
  rw [List.length_cons, take_succ, shift_shift] at h
  exact List.cons.inj h

/-- The rest of the source becomes the rest of the string. -/
theorem encodeFrom_eq (bytes : List UInt8) {src dest : Memory} {size tmp b64Tmp : ℕ}
    (hsrc : take (shift src b64Tmp) bytes.length = bytes) (hsize : size = b64Tmp + bytes.length)
    (htmp : tmp + (text bytes).length < intBound) (hb64 : size < intBound) :
    encodeFrom src size dest tmp b64Tmp =
      some (↑(tmp + (text bytes).length), store (text bytes ++ [0]) tmp dest) := by
  induction bytes using split.induct generalizing dest tmp b64Tmp with
  | case1 =>
    have hdone : b64Tmp = size := hsize.symm
    rw [encodeFrom_done _ _ (by omega), encodeTail, if_pos hdone]
    simp only [text, split, missing, List.map_nil, List.length_nil, List.nil_append, store_cons,
      store_nil, Nat.zero_mod, Nat.sub_zero, Nat.mod_self, List.replicate_zero, Nat.add_zero]
  | case2 a =>
    rw [List.length_singleton] at hsize
    have hlen : (text [a]).length = 4 := by rw [text_length, List.length_singleton]
    obtain ⟨ha, -⟩ := source_cons hsrc
    rw [hlen] at htmp ⊢
    rw [encodeFrom_done _ _ (by omega), encodeTail_rest _ _ (by omega) htmp,
      encodeRest_one _ _ (by omega), ha, text_one]
    rfl
  | case3 a b =>
    rw [List.length_cons, List.length_singleton] at hsize
    have hlen : (text [a, b]).length = 4 := by
      rw [text_length, List.length_cons, List.length_singleton]
    obtain ⟨ha, hsrc⟩ := source_cons hsrc
    obtain ⟨hb, -⟩ := source_cons hsrc
    rw [hlen] at htmp ⊢
    rw [encodeFrom_done _ _ (by omega), encodeTail_rest _ _ (by omega) htmp,
      encodeRest_two _ _ (by omega), ha, hb, text_two]
    rfl
  | case4 a b c rest ih =>
    simp only [List.length_cons] at hsize
    have hlen : (text (a :: b :: c :: rest)).length = 4 + (text rest).length := by
      rw [text_block, List.length_append]
      rfl
    obtain ⟨ha, hsrc⟩ := source_cons hsrc
    obtain ⟨hb, hsrc⟩ := source_cons hsrc
    obtain ⟨hc, hsrc⟩ := source_cons hsrc
    have hstore := store_append ([first a, second a b, third b c, fourth c].map mapChar)
      (text rest ++ [0]) tmp dest
    have hb' : src (b64Tmp + 1) = b := hb
    have hc' : src (b64Tmp + 2) = c := hc
    rw [hlen] at htmp ⊢
    rw [encodeFrom_block _ _ (by omega) (by omega), ih hsrc (by omega) (by omega),
      encodeBlock_eq, ha, hb', hc', text_block, List.append_assoc, ← hstore, ← Nat.add_assoc]
    rfl

theorem encryptB64_eq (bytes : List UInt8) (dest stale : Memory)
    (hsize : bytes.length < 536870912) :
    encryptB64 (some dest) (some (load bytes stale)) bytes.length =
      some (↑(text bytes).length, some (load (text bytes ++ [0]) dest)) := by
  have hsrc : take (shift (load bytes stale) 0) bytes.length = bytes := by
    rw [shift_zero, take_load]
  have hlen := text_length bytes
  have hencode := @encodeFrom_eq bytes (load bytes stale) dest bytes.length 0 0 hsrc
    (Nat.zero_add _).symm (by rw [intBound]; omega) (by rw [intBound]; omega)
  have hmap : encryptB64 (some dest) (some (load bytes stale)) bytes.length =
      (encodeFrom (load bytes stale) bytes.length dest 0 0).map fun r => (r.1, some r.2) := by
    rw [encodeFrom, Option.map_bind]
    rfl
  rw [hmap, hencode, store_zero, Nat.zero_add]
  rfl

def base64Alphabet : List UInt8 :=
  ((List.range' 65 26 ++ List.range' 97 26 ++ List.range' 48 10).map UInt8.ofNat) ++ [43, 47]

theorem mapChar_spec (d : UInt8) (hd : d < 64) :
    base64Alphabet[d.toNat]? = some (mapChar d) ∧ digitOf (mapChar d) = some d ∧
      mapChar d ≠ 0 ∧ mapChar d ≠ 61 := by
  have hall : ∀ n < 64, base64Alphabet[n]? = some (mapChar (UInt8.ofNat n)) ∧
      digitOf (mapChar (UInt8.ofNat n)) = some (UInt8.ofNat n) ∧
        mapChar (UInt8.ofNat n) ≠ 0 ∧ mapChar (UInt8.ofNat n) ≠ 61 := by
    decide +kernel
  have hspec := hall d.toNat hd
  rw [UInt8.ofNat_toNat] at hspec
  exact hspec

/-- The groups of a string, up to the first padding; other characters are skipped. -/
def digitsOf : List UInt8 → List UInt8
  | [] => []
  | ch :: rest =>
      if ch = 61 then []
      else
        match digitOf ch with
        | none => digitsOf rest
        | some digit => digit :: digitsOf rest

/-- The loop takes the groups of a string one after the other. -/
theorem decodeLoop_eq (chars : List UInt8) {str : Memory} {current : ℕ} (s : Decoding)
    (hstr : take (shift str current) chars.length = chars) (hnul : 0 ∉ chars) :
    (decodeLoop str chars.length current s).2 = (digitsOf chars).foldl decodeDigit s := by
  induction chars generalizing current s with
  | nil => rfl
  | cons ch rest ih =>
    obtain ⟨hch, hrest⟩ := source_cons hstr
    have hfirst : ch ≠ 0 := fun hzero => hnul (hzero ▸ List.mem_cons_self)
    have hnul' : 0 ∉ rest := fun hmem => hnul (List.mem_cons_of_mem ch hmem)
    simp only [List.length_cons, decodeLoop, hch, if_neg hfirst, digitsOf]
    split
    · rfl
    · cases digitOf ch with
      | none => exact ih s hrest hnul'
      | some digit => exact ih _ hrest hnul'

theorem decodeDigit_first {i : ℕ} (hi : i % 4 = 0) (j : ℕ) (m : Memory) (p : UInt8) :
    decodeDigit ⟨i, j, m⟩ p = ⟨i + 1, j, set8 m j (p <<< 2)⟩ := by
  simp only [decodeDigit, hi]

theorem decodeDigit_second {i : ℕ} (hi : i % 4 = 0) (j : ℕ) (m : Memory) (p q : UInt8) :
    decodeDigit ⟨i + 1, j, set8 m j (p <<< 2)⟩ q =
      ⟨i + 2, j + 1, set8 (set8 m j (high p q)) (j + 1) ((q &&& 0x0F) <<< 4)⟩ := by
  have hpos : (i + 1) % 4 = 1 := by omega
  simp only [decodeDigit, hpos, set8_same, set8_set8]
  rfl

theorem decodeDigit_third {i : ℕ} (hi : i % 4 = 0) (j : ℕ) (m : Memory) (q r : UInt8) :
    decodeDigit ⟨i + 2, j + 1, set8 m (j + 1) ((q &&& 0x0F) <<< 4)⟩ r =
      ⟨i + 3, j + 2, set8 (set8 m (j + 1) (middle q r)) (j + 2) ((r &&& 0x03) <<< 6)⟩ := by
  have hpos : (i + 2) % 4 = 2 := by omega
  simp only [decodeDigit, hpos, set8_same, set8_set8]
  rfl

theorem decodeDigit_fourth {i : ℕ} (hi : i % 4 = 0) (j : ℕ) (m : Memory) (r t : UInt8) :
    decodeDigit ⟨i + 3, j + 2, set8 m (j + 2) ((r &&& 0x03) <<< 6)⟩ t =
      ⟨i + 4, j + 3, set8 m (j + 2) (low r t)⟩ := by
  have hpos : (i + 3) % 4 = 3 := by omega
  simp only [decodeDigit, hpos, set8_same, set8_set8]
  rfl

/-- From the start of a block the groups are joined; behind the bytes there is at most the
beginning of the next. -/
theorem foldl_decodeDigit (digits : List UInt8) {i : ℕ} (hi : i % 4 = 0) (j : ℕ) (m : Memory)
    (v : UInt8) :
    let s := digits.foldl decodeDigit ⟨i, j, m⟩
    s.i = i + digits.length ∧ s.j = j + (join digits).length ∧
      set8 s.result s.j v = store (join digits ++ [v]) j m := by
  induction digits using join.induct generalizing i j m with
  | case1 => exact ⟨rfl, rfl, by rw [join, List.nil_append, store_cons, store_nil]; rfl⟩
  | case2 p =>
    simp only [List.foldl_cons, List.foldl_nil, decodeDigit_first hi, join, List.nil_append,
      store_cons, store_nil, set8_set8]
    exact ⟨rfl, rfl, trivial⟩
  | case3 p q =>
    simp only [List.foldl_cons, List.foldl_nil, decodeDigit_first hi, decodeDigit_second hi, join,
      List.cons_append, List.nil_append, store_cons, store_nil, set8_set8]
    exact ⟨rfl, rfl, trivial⟩
  | case4 p q r =>
    simp only [List.foldl_cons, List.foldl_nil, decodeDigit_first hi, decodeDigit_second hi,
      decodeDigit_third hi, join, List.cons_append, List.nil_append, store_cons, store_nil,
      set8_set8]
    exact ⟨rfl, rfl, trivial⟩
  | case5 p q r t rest ih =>
    have hnext : (i + 4) % 4 = 0 := by omega
    simp only [List.foldl_cons, decodeDigit_first hi, decodeDigit_second hi, decodeDigit_third hi,
      decodeDigit_fourth hi, join, List.cons_append, List.length_cons, store_cons]
    obtain ⟨hi', hj', hm'⟩ := ih hnext (j + 3)
      (set8 (set8 (set8 m j (high p q)) (j + 1) (middle q r)) (j + 2) (low r t))
    refine ⟨?_, ?_, hm'⟩
    · rw [hi']
      omega
    · rw [hj']
      omega

/-- After the whole string the joined bytes are in front of `j`. -/
theorem foldl_decodeDigit_front (digits : List UInt8) (desc : Memory) :
    let s := digits.foldl decodeDigit ⟨0, 0, desc⟩
    s.i = digits.length ∧ s.j = (join digits).length ∧ take s.result s.j = join digits := by
  intro s
  obtain ⟨hi, hj, hresult⟩ := foldl_decodeDigit digits (Nat.zero_mod 4) 0 desc 0
  have hj' : s.j = (join digits).length := hj.trans (Nat.zero_add _)
  have hagree : AgreeBelow s.j (set8 s.result s.j 0) s.result :=
    (AgreeBelow.refl s.j s.result).set8_above (Nat.le_refl _) 0
  have hstored : set8 s.result s.j 0 = store (join digits ++ [0]) 0 desc := hresult
  refine ⟨hi.trans (Nat.zero_add _), hj', ?_⟩
  rw [← hagree.take (Nat.le_refl _), hstored, store_zero, hj', take_load_append]

/-- The padding and the NUL come behind what has been decoded. -/
theorem decodeTail_eq (ch : UInt8) {s : Decoding} (hi : s.i % 4 ≠ 1) :
    (decodeTail ch s).1 = s.j ∧ AgreeBelow s.j (decodeTail ch s).2 s.result := by
  have hnone : ¬ (ch = 61 ∧ s.i % 4 = 1) := fun h => hi h.2
  rw [decodeTail, if_neg hnone]
  refine ⟨rfl, AgreeBelow.set8_above ?_ (Nat.le_refl _) 0⟩
  split
  · exact (AgreeBelow.refl _ _).set8_above (Nat.le_succ _) 0
  · split
    · exact (AgreeBelow.refl _ _).set8_above (Nat.le_refl _) 0
    · exact AgreeBelow.refl _ _

/-- A string with complete groups decodes to the bytes they join to. -/
theorem decodeB64_eq (chars : List UInt8) {str : Memory} (desc : Memory)
    (hstr : take str chars.length = chars) (hnul : 0 ∉ chars)
    (hdigits : (digitsOf chars).length % 4 ≠ 1) :
    ∃ desc', decodeB64 (some desc) str chars.length =
        (↑(join (digitsOf chars)).length, some desc') ∧
      take desc' (join (digitsOf chars)).length = join (digitsOf chars) := by
  have hstart : take (shift str 0) chars.length = chars := by
    rw [shift_zero]
    exact hstr
  obtain ⟨hi, hj, hresult⟩ := foldl_decodeDigit_front (digitsOf chars) desc
  rw [← decodeLoop_eq chars ⟨0, 0, desc⟩ hstart hnul] at hi hj hresult
  obtain ⟨hret, hagree⟩ := decodeTail_eq (decodeLoop str chars.length 0 ⟨0, 0, desc⟩).1
    (show _ % 4 ≠ 1 from hi ▸ hdigits)
  rw [hj] at hret
  refine ⟨_, Prod.ext hret rfl, ?_⟩
  rw [← hj]
  exact (hagree.take (Nat.le_refl _)).trans hresult

theorem digitsOf_padding (n : ℕ) : digitsOf (List.replicate n 61) = [] := by
  cases n with
  | zero => rfl
  | succ n => rfl

theorem digitsOf_map (digits padding : List UInt8) (hdigits : ∀ d ∈ digits, d < 64)
    (hpadding : digitsOf padding = []) : digitsOf (digits.map mapChar ++ padding) = digits := by
  induction digits with
  | nil => exact hpadding
  | cons d rest ih =>
    obtain ⟨hd, hrest⟩ := List.forall_mem_cons.mp hdigits
    obtain ⟨-, hdigit, -, hpad⟩ := mapChar_spec d hd
    rw [List.map_cons, List.cons_append, digitsOf, if_neg hpad, hdigit]
    exact congrArg (d :: ·) (ih hrest)

theorem digitsOf_text (bytes : List UInt8) : digitsOf (text bytes) = split bytes :=
  digitsOf_map _ _ (split_lt bytes) (digitsOf_padding _)

/-- Characters of the alphabet, and the padding to a block of four. -/
def IsBase64 (n : ℕ) (chars : List UInt8) : Prop :=
  ∃ body, chars = body ++ List.replicate (missing n) 61 ∧ ∀ ch ∈ body, ch ∈ base64Alphabet

theorem text_isBase64 (bytes : List UInt8) : IsBase64 bytes.length (text bytes) := by
  refine ⟨(split bytes).map mapChar, rfl, ?_⟩
  rw [List.forall_mem_map]
  intro d hd
  exact List.mem_of_getElem? (mapChar_spec d (split_lt bytes d hd)).1

example : text [77, 97] = [84, 87, 69, 61] := by decide

theorem nul_not_mem_text (bytes : List UInt8) : 0 ∉ text bytes := by
  intro hnul
  rcases List.mem_append.mp hnul with hchar | hpad
  · obtain ⟨d, hd, hzero⟩ := List.mem_map.mp hchar
    exact (mapChar_spec d (split_lt bytes d hd)).2.2.1 hzero
  · exact absurd (List.eq_of_mem_replicate hpad) (by decide)

theorem split_length_mod (bytes : List UInt8) : (split bytes).length % 4 ≠ 1 := by
  have hlen := split_length bytes
  have hmissing : missing bytes.length < 3 := Nat.mod_lt _ (by decide)
  omega

/-- Encoding fills the front of `dest` with a string of the length that it returns, and
decoding that string with that length gives the bytes back. -/
theorem base64_round_trip (bytes : List UInt8) (dest stale desc : Memory)
    (hsize : bytes.length < 536870912) :
    ∃ (n : ℕ) (dest' desc' : Memory), n = 4 * ((bytes.length + 2) / 3) ∧
      encryptB64 (some dest) (some (load bytes stale)) bytes.length = some (↑n, some dest') ∧
      IsBase64 bytes.length (take dest' n) ∧ dest' n = 0 ∧
      decodeB64 (some desc) dest' n = (↑bytes.length, some desc') ∧
      take desc' bytes.length = bytes := by
  have hchars : take (load (text bytes ++ [0]) dest) (text bytes).length = text bytes :=
    take_load_append _ _ _
  have hdigits : (digitsOf (text bytes)).length % 4 ≠ 1 := by
    rw [digitsOf_text]
    exact split_length_mod bytes
  obtain ⟨desc', hdecode, hbytes⟩ := decodeB64_eq (text bytes) desc hchars
    (nul_not_mem_text bytes) hdigits
  rw [digitsOf_text, join_split] at hdecode hbytes
  refine ⟨(text bytes).length, load (text bytes ++ [0]) dest, desc', text_length bytes,
    encryptB64_eq bytes dest stale hsize, ?_, ?_, hdecode, hbytes⟩
  · rw [hchars]
    exact text_isBase64 bytes
  · have hlast : (text bytes).length < (text bytes ++ [0]).length := by
      rw [List.length_append]
      exact Nat.lt_succ_self _
    rw [load_lt _ _ _ hlast, List.getElem_append_right (Nat.le_refl _)]
    simp

theorem base64_round_trip_man :
    ∃ (n : ℕ) (dest' desc' : Memory), n = 4 ∧
      encryptB64 (some zeros) (some (load [77, 97, 110] zeros)) 3 = some (↑n, some dest') ∧
      IsBase64 3 (take dest' n) ∧ dest' n = 0 ∧
      decodeB64 (some zeros) dest' n = (3, some desc') ∧ take desc' 3 = [77, 97, 110] :=
  base64_round_trip [77, 97, 110] zeros zeros zeros (by decide)

end HomeSecurityBox.Base64
