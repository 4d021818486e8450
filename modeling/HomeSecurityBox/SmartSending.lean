import HomeSecurityBox.Base.Transitions
import HomeSecurityBox.SmartConfig

/-!
The loop in which `main` of the smart-config sender sends the codes. It looks at the clock
three times in a round, and what it does next depends on the readings; between two of them
it makes at most one call of `_send_data`.
-/

namespace HomeSecurityBox.SmartSending

open ByteMemory Crc8 SmartConfig Transitions

def guideCode : List UInt16 := [515, 514, 513, 512]

def oneDataLen : ℕ := 3

def timeoutGuide : UInt64 := 2000

def timeoutData : UInt64 := 4000

def timeoutTotal : UInt64 := timeoutGuide + timeoutData

def waitUdpSend : UInt64 := 45000

/-- The lengths of the datagrams; without an address or a socket there are none. A read
outside the array is not defined. -/
def sendData (buf : List UInt16) (offset len : ℕ) (opened : Bool) : Option (List UInt16) :=
  if opened then (List.range' offset len).mapM fun cnt => buf[cnt]? else some []

inductive Call
  | guide (sizes : List UInt16)
  | data (sizes : List UInt16)
  deriving DecidableEq, Repr

def Call.sizes : Call → List UInt16
  | .guide sizes => sizes
  | .data sizes => sizes

/-- Which reading of the clock comes next. -/
inductive Point
  | guideTest
  | guideBreak
  | roundEnd
  | done
  deriving DecidableEq, Repr

structure Sender where
  point : Point
  startTime : UInt64
  currentTime : UInt64
  lastTime : UInt64
  index : ℕ
  sent : List Call
  deriving DecidableEq, Repr

/-- A reading of the clock, and whether `_send_data` gets its socket after it. -/
structure Reading where
  now : UInt64
  opened : Bool

/-- The top of the outer loop. -/
def roundTop (codes : Codes) (s : Sender) (opened : Bool) : Option Sender :=
  if timeoutTotal ≤ s.currentTime - s.lastTime then some { s with point := .guideTest }
  else
    (sendData codes.dataCode.toList s.index oneDataLen opened).map fun sizes =>
      { s with
        point := .roundEnd
        index := (s.index + oneDataLen) % codes.dcLen
        sent := s.sent ++ [.data sizes] }

def senderStep (codes : Codes) (s : Sender) (r : Reading) : Option Sender :=
  match s.point with
  | .guideTest =>
      if r.now - s.currentTime < timeoutGuide then
        (sendData guideCode 0 guideCode.length r.opened).map fun sizes =>
          { s with point := .guideBreak, sent := s.sent ++ [.guide sizes] }
      else some { s with point := .roundEnd, lastTime := s.currentTime }
  | .guideBreak =>
      if waitUdpSend < r.now - s.startTime then
        some { s with point := .roundEnd, lastTime := s.currentTime }
      else some { s with point := .guideTest }
  | .roundEnd =>
      let s := { s with currentTime := r.now }
      if waitUdpSend < r.now - s.startTime then some { s with point := .done }
      else roundTop codes s r.opened
  | .done => none

/-- In front of the loop. -/
def senderInit (now : UInt64) : Sender where
  point := .roundEnd
  startTime := now
  currentTime := now
  lastTime := now - timeoutTotal
  index := 0
  sent := []

def senderStart (codes : Codes) (r : Reading) : Option Sender :=
  roundTop codes (senderInit r.now) r.opened

/-- The call sends the guide lengths or a triple that has been filled in. -/
def Sends (dataCode : DataCode) (n : ℕ) : Call → Prop
  | .guide sizes => sizes = [] ∨ sizes = guideCode
  | .data sizes => sizes = [] ∨ ∃ k : UInt8, k.toNat < n ∧ sizes = (tripleAt dataCode k).sizes

theorem sendData_guide (opened : Bool) :
    ∃ sizes, sendData guideCode 0 guideCode.length opened = some sizes ∧
      (sizes = [] ∨ sizes = guideCode) := by
  cases opened with
  | false => exact ⟨[], rfl, Or.inl rfl⟩
  | true => exact ⟨guideCode, rfl, Or.inr rfl⟩

theorem sendData_triple (dataCode : DataCode) (k : UInt8) (opened : Bool) :
    ∃ sizes, sendData dataCode.toList (k.toNat * oneDataLen) oneDataLen opened = some sizes ∧
      (sizes = [] ∨ sizes = (tripleAt dataCode k).sizes) := by
  cases opened with
  | false => exact ⟨[], rfl, Or.inl rfl⟩
  | true =>
    have hk := offset_lt k
    have hget : ∀ (i : ℕ) (hi : i < 1024), dataCode.toList[i]? = some dataCode[i] := by
      intro i hi
      rw [Vector.getElem?_toList]
      exact Vector.getElem?_eq_getElem hi
    refine ⟨_, ?_, Or.inr rfl⟩
    have hrange : List.range' (k.toNat * oneDataLen) oneDataLen =
        [k.toNat * 3, k.toNat * 3 + 1, k.toNat * 3 + 2] := rfl
    rw [sendData, if_pos rfl, hrange]
    simp only [List.mapM_cons, List.mapM_nil, hget _ (show k.toNat * 3 < 1024 by omega),
      hget _ (show k.toNat * 3 + 1 < 1024 by omega), hget _ hk]
    rfl

/-- The sender stands at one of the first `n` triples and has sent no other. -/
structure Inv (codes : Codes) (n : ℕ) (s : Sender) : Prop where
  index : ∃ k : UInt8, k.toNat < n ∧ s.index = k.toNat * oneDataLen
  sent : ∀ call ∈ s.sent, Sends codes.dataCode n call

theorem Inv.send {codes : Codes} {n : ℕ} {s : Sender} (h : Inv codes n s) {call : Call}
    (hcall : Sends codes.dataCode n call) :
    ∀ c ∈ s.sent ++ [call], Sends codes.dataCode n c :=
  List.forall_mem_append.mpr ⟨h.sent, List.forall_mem_singleton.mpr hcall⟩

theorem index_next {n : ℕ} (hn : n ≤ 256) {k : UInt8} (hk : k.toNat < n) :
    ∃ k' : UInt8, k'.toNat < n ∧
      (k.toNat * oneDataLen + oneDataLen) % (n * 3) = k'.toNat * oneDataLen := by
  have hnext : k.toNat * oneDataLen + oneDataLen = (k.toNat + 1) * 3 := (Nat.succ_mul _ _).symm
  rcases Nat.lt_or_ge (k.toNat + 1) n with hin | hend
  · have hval : (UInt8.ofNat (k.toNat + 1)).toNat = k.toNat + 1 := by
      rw [UInt8.toNat_ofNat']
      omega
    refine ⟨UInt8.ofNat (k.toNat + 1), ?_, ?_⟩
    · rw [hval]
      exact hin
    · rw [hnext, hval, Nat.mod_eq_of_lt (by omega), oneDataLen]
  · have hlast : k.toNat + 1 = n := by omega
    refine ⟨0, ?_, ?_⟩
    · exact Nat.lt_of_le_of_lt (Nat.zero_le _) hk
    · rw [hnext, hlast, Nat.mod_self]
      rfl

theorem roundTop_inv {codes : Codes} {n : ℕ} (hlen : codes.dcLen = n * 3) (hn : n ≤ 256)
    {s : Sender} (h : Inv codes n s) (opened : Bool) :
    ∃ t, roundTop codes s opened = some t ∧ Inv codes n t := by
  obtain ⟨k, hk, hindex⟩ := h.index
  unfold roundTop
  split
  · exact ⟨_, rfl, h.index, h.sent⟩
  · obtain ⟨sizes, hsizes, hsent⟩ := sendData_triple codes.dataCode k opened
    have hcall : Sends codes.dataCode n (.data sizes) := hsent.imp_right fun hsame => ⟨k, hk, hsame⟩
    obtain ⟨k', hk', hnext⟩ := index_next hn hk
    rw [hindex, hsizes, hlen]
    exact ⟨_, rfl, ⟨k', hk', hnext⟩, h.send hcall⟩

/-- Until the end every reading has a next state, and the invariant stays. -/
theorem senderStep_inv {codes : Codes} {n : ℕ} (hlen : codes.dcLen = n * 3) (hn : n ≤ 256)
    {s : Sender} (h : Inv codes n s) (hpoint : s.point ≠ .done) (r : Reading) :
    ∃ t, senderStep codes s r = some t ∧ Inv codes n t := by
  unfold senderStep
  split
  · split
    · obtain ⟨sizes, hsizes, hsent⟩ := sendData_guide r.opened
      rw [hsizes]
      exact ⟨_, rfl, h.index, h.send hsent⟩
    · exact ⟨_, rfl, h.index, h.sent⟩
  · split
    · exact ⟨_, rfl, h.index, h.sent⟩
    · exact ⟨_, rfl, h.index, h.sent⟩
  · have hread : Inv codes n { s with currentTime := r.now } := ⟨h.index, h.sent⟩
    simp only
    split
    · exact ⟨_, rfl, hread.index, hread.sent⟩
    · exact roundTop_inv hlen hn hread r.opened
  · contradiction

theorem senderStart_inv {codes : Codes} {n : ℕ} (hlen : codes.dcLen = n * 3) (hpos : 0 < n)
    (hn : n ≤ 256) {r : Reading} {s : Sender} (hstart : senderStart codes r = some s) :
    Inv codes n s := by
  have hfirst : Inv codes n (senderInit r.now) := ⟨⟨0, hpos, rfl⟩, List.forall_mem_nil _⟩
  obtain ⟨t, ht, hinv⟩ := roundTop_inv hlen hn hfirst r.opened
  cases Option.some.inj (ht.symm.trans hstart)
  exact hinv

theorem run_inv {codes : Codes} {n : ℕ} (hlen : codes.dcLen = n * 3) (hn : n ≤ 256)
    {readings : List Reading} {s t : Sender} (h : Inv codes n s)
    (hrun : run (senderStep codes) s readings = some t) : Inv codes n t := by
  refine run_invariant ?_ readings s t h hrun
  intro u r u' hu hstep
  have hpoint : u.point ≠ .done := by
    intro hdone
    rw [senderStep, hdone] at hstep
    contradiction
  obtain ⟨v, hv, hinv⟩ := senderStep_inv hlen hn hu hpoint r
  cases Option.some.inj (hv.symm.trans hstep)
  exact hinv

theorem dcLen_makeCode (s : Codes) (ssid pwd : CString) (ip bssid : Memory)
    (h : 9 + pwd.strlen + ssid.strlen ≤ 255) :
    (makeCode s ssid pwd ip bssid).dcLen = (9 + pwd.strlen) * 3 := by
  rw [makeCode, ofNat_strlen (by omega)]

/-- A call sends datagrams that `_code` can fill; if it sends data, they are the triple of
an index of the payload, and the device reads the byte there out of it. -/
def Carries (dataCode : DataCode) (bytes : List UInt8) (call : Call) : Prop :=
  (∀ size ∈ call.sizes, size.toNat ≤ codeLen) ∧
    ∀ sizes, call = .data sizes → sizes ≠ [] → ∃ (k : UInt8) (hk : k.toNat < bytes.length),
      sizes = (tripleAt dataCode k).sizes ∧
        (tripleAt dataCode k).received = carried bytes[k.toNat] k

theorem guide_le : ∀ size ∈ guideCode, size.toNat ≤ codeLen := by
  simp only [guideCode, List.forall_mem_cons, codeLen]
  refine ⟨?_, ?_, ?_, ?_, List.forall_mem_nil _⟩
  · decide
  · decide
  · decide
  · decide

theorem carries_of_sends {s : Codes} {ssid pwd : CString} {ip bssid : Memory}
    (h : 9 + pwd.strlen + ssid.strlen ≤ 255) {call : Call}
    (hsends : Sends (makeCode s ssid pwd ip bssid).dataCode (9 + pwd.strlen) call) :
    Carries (makeCode s ssid pwd ip bssid).dataCode (payload ssid pwd ip bssid) call := by
  cases call with
  | guide sizes =>
    refine ⟨?_, fun _ hdata => nomatch hdata⟩
    rcases hsends with rfl | rfl
    · exact List.forall_mem_nil _
    · exact guide_le
  | data sizes =>
    rcases hsends with rfl | ⟨k, hk, rfl⟩
    · refine ⟨List.forall_mem_nil _, ?_⟩
      intro sizes hdata hsome
      cases hdata
      contradiction
    · have hin : k.toNat < (payload ssid pwd ip bssid).length := by
        rw [payload_length]
        omega
      obtain ⟨data, hdata, hwritten⟩ := makeCode_carries s ssid pwd ip bssid h k hin
      have hreceived := dataWords_received s.crcTable data k
      rw [hdata, ← hwritten] at hreceived
      refine ⟨?_, ?_⟩
      · rw [Call.sizes, hwritten]
        exact dataWords_le s.crcTable data k
      · intro sizes hsame _
        cases hsame
        exact ⟨k, hin, rfl, hreceived⟩

/-- The codes of any name, password and addresses that fit an index of one byte. Every
index of the payload carries its byte with the checksum of both, the check byte is the sum
of the others, and in every run of the loop, which reads no code outside the array, each
call sends guide lengths or a triple that was filled in, in datagrams that `_code` fills. -/
theorem smart_config_codes (s : Codes) (ssid pwd : CString) (ip bssid : Memory)
    (h : 9 + pwd.strlen + ssid.strlen ≤ 255) :
    let codes := makeCode s ssid pwd ip bssid
    let bytes := payload ssid pwd ip bssid
    bytes.length = 9 + pwd.strlen + ssid.strlen ∧
      (∀ (k : UInt8) (hk : k.toNat < bytes.length),
        (tripleAt codes.dataCode k).received = carried bytes[k.toNat] k) ∧
      bytes[4]? = some (xorAll (bytes.eraseIdx 4)) ∧
      codes.dcLen ≤ 3 * bytes.length ∧
      ∀ (r : Reading) (readings : List Reading) (start t : Sender),
        senderStart codes r = some start → run (senderStep codes) start readings = some t →
          (∀ call ∈ t.sent, Carries codes.dataCode bytes call) ∧
            (t.point ≠ .done → ∀ r, (senderStep codes t r).isSome) := by
  have hdcLen := dcLen_makeCode s ssid pwd ip bssid h
  have hlength := payload_length ssid pwd ip bssid
  refine ⟨hlength, ?_, payload_check ssid pwd ip bssid, ?_, ?_⟩
  · intro k hk
    obtain ⟨data, hdata, hwritten⟩ := makeCode_carries s ssid pwd ip bssid h k hk
    rw [hwritten, dataWords_received, hdata]
  · rw [hdcLen, hlength]
    omega
  · intro r readings start t hstart hrun
    have hinv := run_inv hdcLen (by omega) (senderStart_inv hdcLen (by omega) (by omega) hstart)
      hrun
    refine ⟨?_, ?_⟩
    · intro call hcall
      exact carries_of_sends h (hinv.sent call hcall)
    · intro hpoint r'
      obtain ⟨u, hu, -⟩ := senderStep_inv hdcLen (by omega) hinv hpoint r'
      exact Option.isSome_of_eq_some hu

/-- The static variables before the first call. -/
def zeroCodes : Codes where
  crcTable := Vector.replicate 256 0
  dataCode := Vector.replicate 1024 0
  dcLen := 0

def routerName : CString := ⟨[84, 101, 110, 100, 97, 95, 53, 51, 67, 56, 65, 56], by decide⟩

def routerPwd : CString := ⟨[48, 50, 49, 50, 48, 57, 48, 54], by decide⟩

def boxAddr : Memory := load [192, 168, 1, 120] zeros

def routerMac : Memory := load [0xC8, 0x3A, 0x35, 0x53, 0xC8, 0xA8] zeros

/-- The first character of the password is at index 9. -/
theorem smart_config_codes_router :
    (tripleAt (makeCode zeroCodes routerName routerPwd boxAddr routerMac).dataCode 9).received =
      carried 48 9 :=
  (smart_config_codes zeroCodes routerName routerPwd boxAddr routerMac (by decide)).2.1 9
    (by decide)

end HomeSecurityBox.SmartSending
