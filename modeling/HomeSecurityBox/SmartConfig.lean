import HomeSecurityBox.Base.ByteMemory
import HomeSecurityBox.Crc8

/-!
The smart-config sender. The credentials go out as the lengths of multicast datagrams: every
byte is spread over a triple of lengths with its index and a checksum of both, and a device
that sees only lengths puts the triples together again.
-/

namespace HomeSecurityBox.SmartConfig

open ByteMemory Crc8

/-- The bytes in front of the NUL. -/
structure CString where
  bytes : List UInt8
  noNul : 0 ∉ bytes

def CString.mem (s : CString) : Memory := load (s.bytes ++ [0]) zeros

def CString.strlen (s : CString) : ℕ := s.bytes.length

/-- The first NUL in the memory is at `strlen`. -/
theorem CString.strlen_first (s : CString) :
    s.mem s.strlen = 0 ∧ ∀ i < s.strlen, s.mem i ≠ 0 := by
  constructor
  · have hlast : s.strlen < (s.bytes ++ [0]).length := by
      rw [List.length_append]
      exact Nat.lt_succ_self _
    rw [CString.mem, load_lt _ _ _ hlast]
    exact List.getElem_concat_length rfl hlast
  · intro i hi hzero
    have hin : i < (s.bytes ++ [0]).length := by
      rw [List.length_append]
      exact Nat.lt_succ_of_lt hi
    rw [CString.mem, load_lt _ _ _ hin, List.getElem_append_left hi] at hzero
    exact s.noNul (hzero ▸ List.getElem_mem hi)

/-- A conversion of `char`, which has a sign. -/
def charToUInt16 (c : UInt8) : UInt16 := UInt16.ofBitVec (c.toBitVec.signExtend 16)

def pointer (m : Memory) : ℤ → UInt8 := fun i => m i.toNat

def codeLen : ℕ := 1024

abbrev DataCode := Vector UInt16 1024

structure Triple where
  first : UInt16
  second : UInt16
  third : UInt16
  deriving DecidableEq, Repr

def Triple.sizes (t : Triple) : List UInt16 := [t.first, t.second, t.third]

/-- What `make_data_code` stores. -/
def dataWords (crcTable : CrcTable) (data : UInt16) (index : UInt8) : Triple :=
  let datal := (data &&& 0xF).toUInt8
  let datah := ((data &&& 0xF0) >>> 4).toUInt8
  let buf := load [data.toUInt8, index] zeros
  let crc := crc8 crcTable (pointer buf) 0 2
  let crcl := crc &&& 0xF
  let crch := (crc &&& 0xF0) >>> 4
  { first := (crch.toUInt16 <<< 4 ||| datah.toUInt16) + 40
    second := ((0x01 : UInt16) <<< 8 ||| index.toUInt16) + 40
    third := (crcl.toUInt16 <<< 4 ||| datal.toUInt16) + 40 }

theorem offset_lt (index : UInt8) : index.toNat * 3 + 2 < 1024 := by
  have hindex := index.toNat_lt
  omega

def makeDataCode (crcTable : CrcTable) (dataCode : DataCode) (data : UInt16) (index : UInt8) :
    DataCode :=
  let offset := index.toNat * 3
  let words := dataWords crcTable data index
  have hoffset := offset_lt index
  ((dataCode.set offset words.first (by omega)).set (offset + 1) words.second (by omega)).set
    (offset + 2) words.third hoffset

/-- The codes while `make_code` fills them, with `total_xor`. -/
structure Making where
  dataCode : DataCode
  totalXor : UInt16

def Making.put (crcTable : CrcTable) (m : Making) (data : UInt16) (index : UInt8) : Making where
  dataCode := makeDataCode crcTable m.dataCode data index
  totalXor := m.totalXor ^^^ data

/-- A loop of `make_code`; the index is cut off to a byte. -/
def putLoop (crcTable : CrcTable) (n base : ℕ) (tmp : ℕ → UInt16) (m : Making) : Making :=
  (List.range n).foldl (fun m cnt => m.put crcTable (tmp cnt) (UInt8.ofNat (base + cnt))) m

/-- The static variables. -/
structure Codes where
  crcTable : CrcTable
  dataCode : DataCode
  dcLen : ℕ

/-- `make_code` up to the check byte. -/
def fillCode (crcTable : CrcTable) (dataCode : DataCode) (ssid pwd : CString)
    (ip bssid : Memory) : Making :=
  let apPwdLen := UInt16.ofNat pwd.strlen
  let apSsidLen := UInt16.ofNat ssid.strlen
  let totalLen := 5 + 4 + apPwdLen + apSsidLen
  let apSsidCrc := (crc8 crcTable (pointer ssid.mem) 0 apSsidLen.toNat).toUInt16
  let apBssidCrc := (crc8 crcTable (pointer bssid) 0 6).toUInt16
  let m : Making := { dataCode := dataCode, totalXor := 0 }
  let m := m.put crcTable totalLen 0
  let m := m.put crcTable apPwdLen 1
  let m := m.put crcTable apSsidCrc 2
  let m := m.put crcTable apBssidCrc 3
  let m := putLoop crcTable 4 5 (fun cnt => (ip cnt).toUInt16) m
  let m := putLoop crcTable apPwdLen.toNat 9 (fun cnt => charToUInt16 (pwd.mem cnt)) m
  putLoop crcTable apSsidLen.toNat (9 + apPwdLen.toNat)
    (fun cnt => charToUInt16 (ssid.mem cnt)) m

/-- The check byte, the sum of all the others, goes to index 4. -/
def makeCode (s : Codes) (ssid pwd : CString) (ip bssid : Memory) : Codes :=
  let crcTable := initCrcTable s.crcTable
  let m := fillCode crcTable s.dataCode ssid pwd ip bssid
  { crcTable := crcTable
    dataCode := makeDataCode crcTable m.dataCode m.totalXor 4
    -- the triples of the name are filled in, but they do not count
    dcLen := (9 + (UInt16.ofNat pwd.strlen).toNat) * 3 }

structure Received where
  mark : UInt16
  byte : UInt16
  crc : UInt16
  deriving DecidableEq, Repr

def Triple.received (t : Triple) : Received :=
  let first := t.first - 40
  let third := t.third - 40
  { mark := t.second - 40
    byte := (first &&& 0xF) <<< 4 ||| (third &&& 0xF)
    crc := (first >>> 4) <<< 4 ||| (third >>> 4) }

/-- The byte at an index, with the checksum of both. -/
def carried (byte index : UInt8) : Received where
  mark := 0x100 ||| index.toUInt16
  byte := byte.toUInt16
  crc := (crcOf [byte, index]).toUInt16

theorem nibbles_toNat {p q : UInt16} (hp : p.toNat < 16) (hq : q.toNat < 16) :
    (p <<< 4 ||| q).toNat = 16 * p.toNat + q.toNat := by
  have hshift : p.toNat <<< 4 = 16 * p.toNat := by
    rw [Nat.shiftLeft_eq]
    omega
  have hfour : (4 : UInt16).toNat % 16 = 4 := rfl
  rw [UInt16.toNat_or, UInt16.toNat_shiftLeft, hfour, Nat.mod_eq_of_lt (by omega),
    ← Nat.shiftLeft_add_eq_or_of_lt hq, hshift]

theorem low_toNat (x : UInt16) : (x &&& 0xF).toNat = x.toNat % 16 := by
  rw [UInt16.toNat_and]
  exact Nat.and_two_pow_sub_one_eq_mod x.toNat 4

theorem high_toNat (x : UInt16) : (x >>> 4).toNat = x.toNat / 16 := by
  rw [UInt16.toNat_shiftRight]
  exact Nat.shiftRight_eq_div_pow _ 4

/-- The device joins the low nibbles of the outer words to one byte and the high nibbles to
another. -/
theorem joined {p q p' q' : UInt16} (hp : p.toNat < 16) (hq : q.toNat < 16)
    (hp' : p'.toNat < 16) (hq' : q'.toNat < 16) (second : UInt16) :
    Triple.received ⟨(p <<< 4 ||| q) + 40, second + 40, (p' <<< 4 ||| q') + 40⟩ =
      ⟨second, q <<< 4 ||| q', p <<< 4 ||| p'⟩ := by
  have hfirst := nibbles_toNat hp hq
  have hthird := nibbles_toNat hp' hq'
  have hlow : ∀ {x y : UInt16}, x.toNat < 16 → y.toNat < 16 → (x <<< 4 ||| y) &&& 0xF = y := by
    intro x y hx hy
    apply UInt16.toNat_inj.mp
    rw [low_toNat, nibbles_toNat hx hy]
    omega
  have hhigh : ∀ {x y : UInt16}, x.toNat < 16 → y.toNat < 16 → (x <<< 4 ||| y) >>> 4 = x := by
    intro x y hx hy
    apply UInt16.toNat_inj.mp
    rw [high_toNat, nibbles_toNat hx hy]
    omega
  simp only [Triple.received, UInt16.add_sub_cancel, hlow hp hq, hlow hp' hq', hhigh hp hq,
    hhigh hp' hq']

theorem mask_high (n : ℕ) : (n &&& 240) >>> 4 = n / 16 % 16 := by
  have hmask : (n &&& 240) >>> 4 = n >>> 4 &&& 15 := Nat.shiftRight_and_distrib
  rw [hmask, Nat.and_two_pow_sub_one_eq_mod (n >>> 4) 4, Nat.shiftRight_eq_div_pow]

def lowNibble (b : UInt8) : UInt16 := (b &&& 0xF).toUInt16

def highNibble (b : UInt8) : UInt16 := ((b &&& 0xF0) >>> 4).toUInt16

theorem lowNibble_toNat (b : UInt8) : (lowNibble b).toNat = b.toNat % 16 := by
  rw [lowNibble, UInt8.toNat_toUInt16, UInt8.toNat_and]
  exact Nat.and_two_pow_sub_one_eq_mod b.toNat 4

theorem highNibble_toNat (b : UInt8) : (highNibble b).toNat = b.toNat / 16 := by
  have hb := b.toNat_lt
  rw [highNibble, UInt8.toNat_toUInt16, UInt8.toNat_shiftRight, UInt8.toNat_and]
  refine (mask_high b.toNat).trans ?_
  omega

theorem lowNibble_lt (b : UInt8) : (lowNibble b).toNat < 16 := by
  rw [lowNibble_toNat]
  omega

theorem highNibble_lt (b : UInt8) : (highNibble b).toNat < 16 := by
  have hb := b.toNat_lt
  rw [highNibble_toNat]
  omega

theorem nibbles_of_byte (b : UInt8) : highNibble b <<< 4 ||| lowNibble b = b.toUInt16 := by
  apply UInt16.toNat_inj.mp
  rw [nibbles_toNat (highNibble_lt b) (lowNibble_lt b), highNibble_toNat, lowNibble_toNat,
    UInt8.toNat_toUInt16]
  omega

theorem bytesAt_pointer (m : Memory) (n : ℕ) : bytesAt (pointer m) 0 n = take m n := by
  apply List.map_congr_left
  intro cnt _
  rw [pointer, Int.zero_add, Int.toNat_natCast]

theorem crc8_pointer (crcTable : CrcTable) (m : Memory) (n : ℕ) :
    crc8 (initCrcTable crcTable) (pointer m) 0 n = crcOf (take m n) := by
  rw [crc8, low_byte, crc8Loop_low, Int.toNat_natCast, bytesAt_pointer]

/-- Only the low byte of the data is stored. -/
theorem dataWords_eq (crcTable : CrcTable) (data : UInt16) (index : UInt8) :
    dataWords (initCrcTable crcTable) data index =
      let byte := data.toUInt8
      let crc := crcOf [byte, index]
      { first := (highNibble crc <<< 4 ||| highNibble byte) + 40
        second := (0x100 ||| index.toUInt16) + 40
        third := (lowNibble crc <<< 4 ||| lowNibble byte) + 40 } := by
  have hcrc : crc8 (initCrcTable crcTable) (pointer (load [data.toUInt8, index] zeros)) 0 2 =
      crcOf [data.toUInt8, index] :=
    crc8_pointer crcTable (load [data.toUInt8, index] zeros) 2
  have hdata : ((data &&& 0xF0) >>> 4).toUInt8.toUInt16 = highNibble data.toUInt8 := by
    apply UInt16.toNat_inj.mp
    have hmask : (data.toNat &&& (0xF0 : UInt16).toNat) >>> ((4 : UInt16).toNat % 16) =
        data.toNat / 16 % 16 := mask_high data.toNat
    rw [highNibble_toNat, UInt8.toNat_toUInt16, UInt16.toNat_toUInt8, UInt16.toNat_toUInt8,
      UInt16.toNat_shiftRight, UInt16.toNat_and, hmask]
    omega
  simp only [dataWords, hcrc, hdata, UInt16.toUInt8_and]
  rfl

theorem dataWords_received (crcTable : CrcTable) (data : UInt16) (index : UInt8) :
    (dataWords (initCrcTable crcTable) data index).received = carried data.toUInt8 index := by
  rw [dataWords_eq]
  simp only [joined (highNibble_lt _) (highNibble_lt _) (lowNibble_lt _) (lowNibble_lt _),
    nibbles_of_byte]
  rfl

theorem nibbles_le {p q : UInt16} (hp : p.toNat < 16) (hq : q.toNat < 16) :
    ((p <<< 4 ||| q) + 40).toNat ≤ codeLen := by
  have hforty : (40 : UInt16).toNat = 40 := rfl
  rw [UInt16.toNat_add, nibbles_toNat hp hq, hforty, codeLen]
  omega

theorem mark_le (index : UInt8) : ((0x100 ||| index.toUInt16) + 40).toNat ≤ codeLen := by
  have hindex : (0x100 ||| index.toUInt16).toNat < 2 ^ 9 := by
    rw [UInt16.toNat_or, UInt8.toNat_toUInt16]
    exact Nat.or_lt_two_pow (by decide) (Nat.lt_trans index.toNat_lt (by decide))
  have hforty : (40 : UInt16).toNat = 40 := rfl
  rw [UInt16.toNat_add, hforty, codeLen]
  omega

theorem dataWords_le (crcTable : CrcTable) (data : UInt16) (index : UInt8) :
    ∀ size ∈ (dataWords (initCrcTable crcTable) data index).sizes, size.toNat ≤ codeLen := by
  rw [dataWords_eq]
  simp only [Triple.sizes, List.forall_mem_cons]
  refine ⟨?_, mark_le index, ?_, List.forall_mem_nil _⟩
  · exact nibbles_le (highNibble_lt _) (highNibble_lt _)
  · exact nibbles_le (lowNibble_lt _) (lowNibble_lt _)

def tripleAt (dataCode : DataCode) (k : UInt8) : Triple :=
  have hk := offset_lt k
  { first := dataCode[k.toNat * 3]
    second := dataCode[k.toNat * 3 + 1]
    third := dataCode[k.toNat * 3 + 2] }

theorem tripleAt_makeDataCode (crcTable : CrcTable) (dataCode : DataCode) (data : UInt16)
    (k : UInt8) :
    tripleAt (makeDataCode crcTable dataCode data k) k = dataWords crcTable data k := by
  simp only [tripleAt, makeDataCode]
  rw [Vector.getElem_set_ne _ _ (by omega), Vector.getElem_set_ne _ _ (by omega),
    Vector.getElem_set_self, Vector.getElem_set_ne _ _ (by omega), Vector.getElem_set_self,
    Vector.getElem_set_self]

theorem tripleAt_makeDataCode_other (crcTable : CrcTable) (dataCode : DataCode) (data : UInt16)
    {index k : UInt8} (h : index ≠ k) :
    tripleAt (makeDataCode crcTable dataCode data index) k = tripleAt dataCode k := by
  have hne : index.toNat ≠ k.toNat := fun hsame => h (UInt8.toNat_inj.mp hsame)
  have hother : ∀ (i : ℕ) (hi : i < 1024), k.toNat * 3 ≤ i → i ≤ k.toNat * 3 + 2 →
      (makeDataCode crcTable dataCode data index)[i] = dataCode[i] := by
    intro i hi hfirst hlast
    rw [makeDataCode, Vector.getElem_set_ne _ _ (by omega), Vector.getElem_set_ne _ _ (by omega),
      Vector.getElem_set_ne _ _ (by omega)]
  have hk := offset_lt k
  simp only [tripleAt]
  rw [hother _ _ (by omega) (by omega), hother _ _ (by omega) (by omega),
    hother _ _ (by omega) (by omega)]

theorem putLoop_succ (crcTable : CrcTable) (n base : ℕ) (tmp : ℕ → UInt16) (m : Making) :
    putLoop crcTable (n + 1) base tmp m =
      (putLoop crcTable n base tmp m).put crcTable (tmp n) (UInt8.ofNat (base + n)) := by
  rw [putLoop, List.range_succ, List.foldl_append]
  rfl

/-- The loop leaves the indices in front of its own. -/
theorem putLoop_kept (crcTable : CrcTable) {n base : ℕ} (tmp : ℕ → UInt16) (m : Making)
    {k : UInt8} (hk : k.toNat < base) (hfits : base + n ≤ 256) :
    tripleAt (putLoop crcTable n base tmp m).dataCode k = tripleAt m.dataCode k := by
  induction n with
  | zero => rfl
  | succ n ih =>
    have hne : UInt8.ofNat (base + n) ≠ k := by
      rintro rfl
      rw [UInt8.toNat_ofNat'] at hk
      omega
    rw [putLoop_succ, Making.put, tripleAt_makeDataCode_other _ _ _ hne, ih (by omega)]

theorem putLoop_written (crcTable : CrcTable) {n base cnt : ℕ} (tmp : ℕ → UInt16) (m : Making)
    (hcnt : cnt < n) (hfits : base + n ≤ 256) :
    tripleAt (putLoop crcTable n base tmp m).dataCode (UInt8.ofNat (base + cnt)) =
      dataWords crcTable (tmp cnt) (UInt8.ofNat (base + cnt)) := by
  induction n with
  | zero => exact absurd hcnt (Nat.not_lt_zero cnt)
  | succ n ih =>
    rw [putLoop_succ, Making.put]
    rcases Nat.lt_succ_iff_lt_or_eq.mp hcnt with hlt | rfl
    · have hne : UInt8.ofNat (base + n) ≠ UInt8.ofNat (base + cnt) := by
        intro hsame
        have hval := congrArg UInt8.toNat hsame
        rw [UInt8.toNat_ofNat', UInt8.toNat_ofNat'] at hval
        omega
      rw [tripleAt_makeDataCode_other _ _ _ hne, ih hlt (by omega)]
    · exact tripleAt_makeDataCode _ _ _ _

def xorAll (bytes : List UInt8) : UInt8 := bytes.foldr (· ^^^ ·) 0

theorem xorAll_append (front back : List UInt8) :
    xorAll (front ++ back) = xorAll front ^^^ xorAll back := by
  induction front with
  | nil => exact UInt8.zero_xor.symm
  | cons b rest ih =>
    exact (congrArg (b ^^^ ·) ih).trans (UInt8.xor_assoc _ _ _).symm

/-- The low byte of the sum is that of the bytes that went in. -/
theorem putLoop_totalXor (crcTable : CrcTable) (n base : ℕ) (tmp : ℕ → UInt16) (m : Making) :
    (putLoop crcTable n base tmp m).totalXor.toUInt8 =
      m.totalXor.toUInt8 ^^^ xorAll ((List.range n).map fun cnt => (tmp cnt).toUInt8) := by
  induction n with
  | zero => exact UInt8.xor_zero.symm
  | succ n ih =>
    rw [putLoop_succ, Making.put, UInt16.toUInt8_xor, ih, List.range_succ, List.map_append,
      xorAll_append, UInt8.xor_assoc]
    exact congrArg (_ ^^^ ·) (congrArg (_ ^^^ ·) UInt8.xor_zero.symm)

def frontBytes (ssid pwd : CString) (bssid : Memory) : List UInt8 :=
  [UInt8.ofNat (9 + pwd.strlen + ssid.strlen), UInt8.ofNat pwd.strlen, crcOf ssid.bytes,
    crcOf (take bssid 6)]

def checkByte (ssid pwd : CString) (ip bssid : Memory) : UInt8 :=
  xorAll (frontBytes ssid pwd bssid ++ take ip 4 ++ pwd.bytes ++ ssid.bytes)

/-- What the device has to receive. -/
def payload (ssid pwd : CString) (ip bssid : Memory) : List UInt8 :=
  frontBytes ssid pwd bssid ++ [checkByte ssid pwd ip bssid] ++ take ip 4 ++ pwd.bytes ++
    ssid.bytes

theorem payload_length (ssid pwd : CString) (ip bssid : Memory) :
    (payload ssid pwd ip bssid).length = 9 + pwd.strlen + ssid.strlen := by
  simp only [payload, frontBytes, List.length_append, List.length_cons, List.length_nil,
    take_length, CString.strlen]

theorem payload_check (ssid pwd : CString) (ip bssid : Memory) :
    (payload ssid pwd ip bssid)[4]? = some (checkByte ssid pwd ip bssid) := rfl

theorem payload_eraseIdx (ssid pwd : CString) (ip bssid : Memory) :
    (payload ssid pwd ip bssid).eraseIdx 4 =
      frontBytes ssid pwd bssid ++ take ip 4 ++ pwd.bytes ++ ssid.bytes := rfl

theorem toUInt8_charToUInt16 (c : UInt8) : (charToUInt16 c).toUInt8 = c := by
  have hlow : (c.toBitVec.signExtend 16).setWidth 8 = c.toBitVec := by
    apply BitVec.eq_of_getLsbD_eq
    intro i hi
    rw [BitVec.getLsbD_setWidth, BitVec.getLsbD_signExtend]
    simp [hi, show i < 16 by omega]
  exact UInt8.toBitVec_inj.mp hlow

theorem CString.take_mem (s : CString) : take s.mem s.strlen = s.bytes := by
  rw [CString.mem, load_append]
  exact take_load s.bytes _

/-- The bytes are in the triples at their indices, up to the one at index 4, and in the sum. -/
structure Filled (crcTable : CrcTable) (m : Making) (bytes : List UInt8) : Prop where
  written : ∀ (k : UInt8) (hk : k.toNat < bytes.length), k ≠ 4 →
    ∃ data : UInt16, data.toUInt8 = bytes[k.toNat] ∧
      tripleAt m.dataCode k = dataWords crcTable data k
  totalXor : m.totalXor.toUInt8 = xorAll (bytes.eraseIdx 4)

theorem Filled.start (crcTable : CrcTable) (dataCode : DataCode) :
    Filled crcTable { dataCode := dataCode, totalXor := 0 } [] where
  written _ hk := absurd hk (Nat.not_lt_zero _)
  totalXor := rfl

/-- Index 4 is left open. -/
theorem Filled.skip {crcTable : CrcTable} {m : Making} {bytes : List UInt8}
    (h : Filled crcTable m bytes) (hlen : bytes.length = 4) (check : UInt8) :
    Filled crcTable m (bytes ++ [check]) where
  written k hk hne := by
    have hlt : k.toNat < bytes.length := by
      have hval : k.toNat ≠ 4 := fun hsame => hne (UInt8.toNat_inj.mp hsame)
      rw [List.length_append, List.length_singleton] at hk
      omega
    obtain ⟨data, hdata, hwritten⟩ := h.written k hlt hne
    exact ⟨data, hdata.trans (List.getElem_append_left hlt).symm, hwritten⟩
  totalXor := by
    have herase : (bytes ++ [check]).eraseIdx 4 = bytes := by
      rw [← hlen, List.eraseIdx_append_of_length_le (Nat.le_refl _), Nat.sub_self]
      exact List.append_nil bytes
    rw [herase, h.totalXor, List.eraseIdx_of_length_le (Nat.le_of_eq hlen)]

/-- A loop appends what it puts. -/
theorem Filled.putLoop {crcTable : CrcTable} {m : Making} {bytes new : List UInt8}
    (h : Filled crcTable m bytes) {n : ℕ} {tmp : ℕ → UInt16} (base : ℕ)
    (hnew : (List.range n).map (fun cnt => (tmp cnt).toUInt8) = new)
    (hbase : bytes.length = base) (hgap : 4 < base ∨ base + n ≤ 4) (hfits : base + n ≤ 256) :
    Filled crcTable (putLoop crcTable n base tmp m) (bytes ++ new) where
  written k hk hne := by
    subst hnew hbase
    rcases Nat.lt_or_ge k.toNat bytes.length with hold | hpast
    · obtain ⟨data, hdata, hwritten⟩ := h.written k hold hne
      refine ⟨data, hdata.trans (List.getElem_append_left hold).symm, ?_⟩
      rw [putLoop_kept crcTable tmp m hold hfits, hwritten]
    · have hcnt : k.toNat - bytes.length < n := by
        rw [List.length_append, List.length_map, List.length_range] at hk
        omega
      have hindex : UInt8.ofNat (bytes.length + (k.toNat - bytes.length)) = k := by
        rw [Nat.add_sub_cancel' hpast, UInt8.ofNat_toNat]
      refine ⟨tmp (k.toNat - bytes.length), ?_, ?_⟩
      · rw [List.getElem_append_right hpast, List.getElem_map, List.getElem_range]
      · have hwritten := putLoop_written crcTable tmp m hcnt hfits
        rw [hindex] at hwritten
        exact hwritten
  totalXor := by
    subst hbase
    rw [putLoop_totalXor, h.totalXor, hnew, ← xorAll_append]
    rcases hgap with hgap | hgap
    · rw [List.eraseIdx_append_of_lt_length hgap]
    · have hlen : (bytes ++ new).length ≤ 4 := by
        rw [List.length_append, ← hnew, List.length_map, List.length_range]
        exact hgap
      have hbytes : bytes.length ≤ 4 := by omega
      rw [List.eraseIdx_of_length_le hlen, List.eraseIdx_of_length_le hbytes]

theorem ofNat_strlen {s : CString} (h : s.strlen < 256) :
    (UInt16.ofNat s.strlen).toNat = s.strlen := by
  rw [UInt16.toNat_ofNat']
  omega

/-- The first four calls. -/
theorem putFront_filled (crcTable : CrcTable) (dataCode : DataCode) (a b c d : UInt16) :
    let m : Making := { dataCode := dataCode, totalXor := 0 }
    Filled crcTable
      ((((m.put crcTable a 0).put crcTable b 1).put crcTable c 2).put crcTable d 3)
      [a.toUInt8, b.toUInt8, c.toUInt8, d.toUInt8] := by
  have hfilled := (Filled.start crcTable dataCode).putLoop 0
    (show (List.range 4).map (fun cnt => ([a, b, c, d].getD cnt 0).toUInt8) =
      [a.toUInt8, b.toUInt8, c.toUInt8, d.toUInt8] from rfl) rfl (Or.inr (by decide)) (by decide)
  exact hfilled

theorem fillCode_filled (crcTable : CrcTable) (dataCode : DataCode) (ssid pwd : CString)
    (ip bssid : Memory) (h : 9 + pwd.strlen + ssid.strlen ≤ 255) :
    Filled (initCrcTable crcTable) (fillCode (initCrcTable crcTable) dataCode ssid pwd ip bssid)
      (payload ssid pwd ip bssid) := by
  have hpwd := ofNat_strlen (s := pwd) (by omega)
  have hssid := ofNat_strlen (s := ssid) (by omega)
  have hssidCrc := crc8_pointer crcTable ssid.mem ssid.strlen
  have hbssidCrc : crc8 (initCrcTable crcTable) (pointer bssid) 0 6 = crcOf (take bssid 6) :=
    crc8_pointer crcTable bssid 6
  rw [ssid.take_mem] at hssidCrc
  have hchars : ∀ s : CString,
      (List.range s.strlen).map (fun cnt => (charToUInt16 (s.mem cnt)).toUInt8) = s.bytes := by
    intro s
    simp only [toUInt8_charToUInt16]
    exact s.take_mem
  have hip : (List.range 4).map (fun cnt => (ip cnt).toUInt16.toUInt8) = take ip 4 := by
    simp only [UInt8.toUInt8_toUInt16]
    rfl
  have hbytes : [(5 + 4 + UInt16.ofNat pwd.strlen + UInt16.ofNat ssid.strlen).toUInt8,
      (UInt16.ofNat pwd.strlen).toUInt8, (crcOf ssid.bytes).toUInt16.toUInt8,
      (crcOf (take bssid 6)).toUInt16.toUInt8] = frontBytes ssid pwd bssid := by
    have htotal : 5 + 4 + UInt16.ofNat pwd.strlen + UInt16.ofNat ssid.strlen =
        UInt16.ofNat (9 + pwd.strlen + ssid.strlen) := by
      rw [UInt16.ofNat_add, UInt16.ofNat_add]
      rfl
    rw [htotal, UInt16.toUInt8_ofNat', UInt16.toUInt8_ofNat', UInt8.toUInt8_toUInt16,
      UInt8.toUInt8_toUInt16, frontBytes]
  have hfront := putFront_filled (initCrcTable crcTable) dataCode
    (5 + 4 + UInt16.ofNat pwd.strlen + UInt16.ofNat ssid.strlen) (UInt16.ofNat pwd.strlen)
    (crcOf ssid.bytes).toUInt16 (crcOf (take bssid 6)).toUInt16
  rw [hbytes] at hfront
  have hcheck := hfront.skip rfl (checkByte ssid pwd ip bssid)
  have haddr := hcheck.putLoop 5 hip rfl (Or.inl (by decide)) (by decide)
  have hpassword := haddr.putLoop 9 (hchars pwd) rfl (Or.inl (by decide)) (by omega)
  have hlength : (frontBytes ssid pwd bssid ++ [checkByte ssid pwd ip bssid] ++ take ip 4 ++
      pwd.bytes).length = 9 + pwd.strlen := by
    simp only [frontBytes, List.length_append, List.length_cons, List.length_nil, take_length,
      CString.strlen]
  have hname := hpassword.putLoop (9 + pwd.strlen) (hchars ssid) hlength (Or.inl (by omega))
    (by omega)
  simp only [fillCode, hpwd, hssid, hssidCrc, hbssidCrc]
  exact hname

/-- Every index of the payload carries its byte. -/
theorem makeCode_carries (s : Codes) (ssid pwd : CString) (ip bssid : Memory)
    (h : 9 + pwd.strlen + ssid.strlen ≤ 255) (k : UInt8)
    (hk : k.toNat < (payload ssid pwd ip bssid).length) :
    ∃ data : UInt16, data.toUInt8 = (payload ssid pwd ip bssid)[k.toNat] ∧
      tripleAt (makeCode s ssid pwd ip bssid).dataCode k =
        dataWords (initCrcTable s.crcTable) data k := by
  have hfilled := fillCode_filled s.crcTable s.dataCode ssid pwd ip bssid h
  by_cases hcheck : k = 4
  · subst hcheck
    refine ⟨_, ?_, tripleAt_makeDataCode _ _ _ _⟩
    rw [hfilled.totalXor, payload_eraseIdx]
    exact (List.getElem_eq_iff hk).mpr (payload_check ssid pwd ip bssid) |>.symm
  · obtain ⟨data, hdata, hwritten⟩ := hfilled.written k hk hcheck
    refine ⟨data, hdata, ?_⟩
    exact (tripleAt_makeDataCode_other _ _ _ (Ne.symm hcheck)).trans hwritten

end HomeSecurityBox.SmartConfig
