import HomeSecurityBox.DeviceData

/-!
The client of the box: what `deal_tcp_pkt` of the pad reads out of a packet. It is
written independently of the box and takes the number of ids and of pairs from the
length in the header.
-/

namespace HomeSecurityBox.PadSim

open ByteMemory Protocol DeviceData

/-- The fields that the client prints. -/
inductive PadMessage
  | devs (ids : List UInt32)
  | info (devId drvid : UInt32) (devClass interface : UInt16) (mac : List UInt8)
  | status (devId : UInt32) (pairs : List (UInt16 × UInt16))
  | timer (devId : UInt32) (timer : HsbTimer)
  | delay (devId : UInt32) (delay : HsbDelay)
  | linkage (devId : UInt32) (link : HsbLinkage)
  | event (event : HsbEvt)
  | result (result : UInt16)
  | unknown (cmd : UInt16)
  deriving DecidableEq, Repr

/-- `(len - off) / 4`, in C's signed division, as the bound of a loop from 0. -/
def wordCount (len : UInt16) (off : ℕ) : ℕ := (((len.toNat : ℤ) - off).tdiv 4).toNat

def timerFields (buf : Memory) : HsbTimer where
  id := get16 buf 8
  workMode := get8 buf 10
  flag := get8 buf 11
  hour := get8 buf 12
  min := get8 buf 13
  sec := get8 buf 14
  wday := get8 buf 15
  actId := get16 buf 16
  actParam1 := get16 buf 18
  actParam2 := get32 buf 20

def delayFields (buf : Memory) : HsbDelay where
  id := get16 buf 8
  workMode := get8 buf 10
  flag := get8 buf 11
  evtId := get16 buf 12
  evtParam1 := get16 buf 14
  evtParam2 := get32 buf 16
  actId := get16 buf 20
  actParam1 := get16 buf 22
  actParam2 := get32 buf 24
  delaySec := get32 buf 28

def linkageFields (buf : Memory) : HsbLinkage where
  id := get16 buf 8
  workMode := get8 buf 10
  flag := get8 buf 11
  evtId := get16 buf 12
  evtParam1 := get16 buf 14
  evtParam2 := get32 buf 16
  actDevid := get32 buf 20
  actId := get16 buf 24
  actParam1 := get16 buf 26
  actParam2 := get32 buf 28

def dealTcpPkt (buf : Memory) : PadMessage :=
  let cmd := get16 buf 0
  let len := get16 buf 2
  match HsbCmd.ofCode cmd with
  | some .getDevsResp =>
      .devs ((List.range (wordCount len 4)).map fun cnt => get32 buf (4 + cnt * 4))
  | some .getInfoResp =>
      .info (get32 buf 4) (get32 buf 8) (get16 buf 12) (get16 buf 14) (take (shift buf 16) 6)
  | some .getStatusResp =>
      .status (get32 buf 4) ((List.range (wordCount len 8)).map fun cnt =>
        (get16 buf (8 + cnt * 4), get16 buf (10 + cnt * 4)))
  | some .getTimerResp => .timer (get32 buf 4) (timerFields buf)
  | some .getDelayResp => .delay (get32 buf 4) (delayFields buf)
  | some .getLinkageResp => .linkage (get32 buf 4) (linkageFields buf)
  | some .event =>
      .event
        { devid := get32 buf 4
          id := get16 buf 8
          param1 := get16 buf 10
          param2 := get32 buf 12 }
  | some .result => .result (get16 buf 4)
  | _ => .unknown cmd

theorem wordCount_of_len {len : UInt16} {off n : ℕ} (h : len.toNat = off + 4 * n) :
    wordCount len off = n := by
  unfold wordCount
  rw [h]
  have hbytes : (((off + 4 * n : ℕ) : ℤ) - off) = 4 * (n : ℤ) := by omega
  rw [hbytes, Int.mul_tdiv_cancel_left _ (by decide), Int.toNat_natCast]

/-- A counted element lies inside the length. -/
theorem wordCount_bound {len : UInt16} {off cnt : ℕ} (h : cnt < wordCount len off) :
    off + cnt * 4 + 4 ≤ len.toNat := by
  unfold wordCount at h
  rcases Nat.lt_or_ge len.toNat off with hshort | hlong
  · have hpos : (((len.toNat : ℤ) - off).tdiv 4) ≤ 0 := by
      rw [← Int.neg_sub, Int.neg_tdiv]
      have hdiv := Int.tdiv_nonneg (show 0 ≤ (off : ℤ) - len.toNat by omega)
        (show (0 : ℤ) ≤ 4 by decide)
      omega
    omega
  · rw [Int.tdiv_eq_ediv_of_nonneg (by omega)] at h
    omega

/-- The end of the fixed fields that the client reads for a command. -/
def fieldsEnd (cmd : UInt16) : ℕ :=
  match HsbCmd.ofCode cmd with
  | some .getStatusResp | some .result => 8
  | some .event => 16
  | some .getInfoResp | some .getTimerResp => 24
  | some .getDelayResp | some .getLinkageResp => 32
  | _ => 4

/-- The client reads nothing behind a packet that has room for the fields of its
command and is no longer than its header says. -/
theorem dealTcpPkt_congr {n : ℕ} {buf buf' : Memory} (h : AgreeBelow n buf buf')
    (hlen : (get16 buf 2).toNat = n) (hfields : fieldsEnd (get16 buf 0) ≤ n) :
    dealTcpPkt buf = dealTcpPkt buf' := by
  have hheader : 4 ≤ n := by
    refine le_trans ?_ hfields
    unfold fieldsEnd
    split <;> omega
  have hcmd := h.get16 (show 0 + 2 ≤ n by omega)
  have hsize := h.get16 (show 2 + 2 ≤ n by omega)
  unfold dealTcpPkt
  unfold fieldsEnd at hfields
  rw [← hcmd, ← hsize]
  have hcount : ∀ {off cnt : ℕ}, cnt < wordCount (get16 buf 2) off → off + cnt * 4 + 4 ≤ n :=
    fun hcnt => hlen ▸ wordCount_bound hcnt
  cases hcode : HsbCmd.ofCode (get16 buf 0) with
  | none => simp only [hcode]
  | some c =>
    simp only [hcode] at hfields ⊢
    cases c
    case getDevsResp =>
      simp only [PadMessage.devs.injEq]
      apply List.map_congr_left
      intro cnt hcnt
      exact h.get32 (hcount (List.mem_range.mp hcnt))
    case getInfoResp =>
      simp only at hfields
      have hmac : AgreeBelow 6 (shift buf 16) (shift buf' 16) := fun i hi => h (16 + i) (by omega)
      simp (disch := omega) only [h.get16, h.get32, hmac.take (Nat.le_refl 6)]
    case getStatusResp =>
      simp only at hfields
      simp only [PadMessage.status.injEq]
      refine ⟨h.get32 (by omega), ?_⟩
      apply List.map_congr_left
      intro cnt hcnt
      have hpair : 8 + cnt * 4 + 4 ≤ n := hcount (List.mem_range.mp hcnt)
      simp (disch := omega) only [h.get16]
    case getTimerResp =>
      simp only at hfields
      simp (disch := omega) only [timerFields, h.get8, h.get16, h.get32]
    case getDelayResp =>
      simp only at hfields
      simp (disch := omega) only [delayFields, h.get8, h.get16, h.get32]
    case getLinkageResp =>
      simp only at hfields
      simp (disch := omega) only [linkageFields, h.get8, h.get16, h.get32]
    case event =>
      simp only at hfields
      simp (disch := omega) only [h.get16, h.get32]
    case result =>
      simp only at hfields
      simp (disch := omega) only [h.get16]
    all_goals rfl

end HomeSecurityBox.PadSim
