import HomeSecurityBox.DeviceData

/-!
The loops that write and read the id/value pairs of a status. The writing loop
serves both drivers and the client notification; it runs `num` times, indexes
the eight entries of the status and writes into a buffer of known capacity, and
an access outside either ends it with `none`. The reading loop stops early when
it has stored as many pairs as the caller's `num` asks for.
-/

namespace HomeSecurityBox.StatusCodec

open ByteMemory Protocol DeviceData

/-- Pairs 0 to `n - 1` are written from offset `base` on. -/
def encodePairs (cap base : ℕ) (status : HsbStatus) : ℕ → Memory → Option Memory
  | 0, buf => some buf
  | n + 1, buf =>
      (encodePairs cap base status n buf).bind fun buf =>
        (status.id[n]?).bind fun id =>
          (status.val[n]?).bind fun val =>
            (put16 cap (base + n * 4) id buf).bind fun buf =>
              put16 cap (base + 2 + n * 4) val buf

/-- `while (len + 4 <= rlen)`; `left` bounds the iterations, each of which takes
four of the `rlen` bytes. -/
def decodePairs (ptr : Memory) (rlen : ℕ) :
    ℕ → ℕ → ℕ → HsbStatus → Option (ℕ × HsbStatus)
  | 0, _, statusNum, status => some (statusNum, status)
  | left + 1, len, statusNum, status =>
      if len + 4 ≤ rlen then
        if h : statusNum < 8 then
          let stored : HsbStatus :=
            { status with
              id := status.id.set statusNum (get16 ptr len)
              val := status.val.set statusNum (get16 ptr (len + 2)) }
          if status.num.toNat ≤ statusNum + 1 then some (statusNum + 1, stored)
          else decodePairs ptr rlen left (len + 4) (statusNum + 1) stored
        else none
      else some (statusNum, status)

/-- The status after the reading loop: `status->num = status_num`. -/
def decodeStatus (ptr : Memory) (rlen : ℕ) (status : HsbStatus) : Option HsbStatus :=
  (decodePairs ptr rlen rlen 4 0 status).map fun done =>
    { done.2 with num := UInt32.ofNat done.1 }

theorem encodePairs_succ_eq_some (cap base : ℕ) (status : HsbStatus) (n : ℕ)
    (buf buf' : Memory) (h : encodePairs cap base status (n + 1) buf = some buf') :
    ∃ (front : Memory) (hn : n < 8), encodePairs cap base status n buf = some front ∧
      base + 2 + n * 4 + 2 ≤ cap ∧
      buf' = set16 (set16 front (base + n * 4) status.id[n]) (base + 2 + n * 4)
        status.val[n] := by
  obtain ⟨front, hfront, h⟩ := Option.bind_eq_some_iff.mp h
  obtain ⟨id, hid, h⟩ := Option.bind_eq_some_iff.mp h
  obtain ⟨val, hval, h⟩ := Option.bind_eq_some_iff.mp h
  obtain ⟨mid, hmid, h⟩ := Option.bind_eq_some_iff.mp h
  obtain ⟨hn, hid⟩ := Vector.getElem?_eq_some_iff.mp hid
  obtain ⟨_, hval⟩ := Vector.getElem?_eq_some_iff.mp hval
  obtain ⟨_, hmid⟩ := (put16_eq_some_iff _ _ _ _ _).mp hmid
  obtain ⟨hcap, hlast⟩ := (put16_eq_some_iff _ _ _ _ _).mp h
  refine ⟨front, hn, hfront, hcap, ?_⟩
  rw [hlast, hmid, hid, hval]

/-- The writing loop stays inside the status exactly for eight pairs at most. -/
theorem encodePairs_isSome_iff (cap base : ℕ) (status : HsbStatus) (n : ℕ) (buf : Memory)
    (hcap : base + 32 ≤ cap) : (encodePairs cap base status n buf).isSome ↔ n ≤ 8 := by
  induction n with
  | zero => simp [encodePairs]
  | succ n ih =>
    constructor
    · intro h
      obtain ⟨buf', hbuf'⟩ := Option.isSome_iff_exists.mp h
      obtain ⟨front, hn, hfront, -, -⟩ := encodePairs_succ_eq_some _ _ _ _ _ _ hbuf'
      omega
    · intro h
      have hn : n < 8 := by omega
      obtain ⟨front, hfront⟩ := Option.isSome_iff_exists.mp (ih.mpr (by omega))
      simp only [encodePairs, hfront, Option.bind_some, Vector.getElem?_eq_getElem hn, put16]
      rw [if_pos (by omega), Option.bind_some, if_pos (by omega)]
      rfl

theorem exists_encodePairs {cap base n : ℕ} (status : HsbStatus) (buf : Memory)
    (hcap : base + 32 ≤ cap) (hn : n ≤ 8) :
    ∃ buf', encodePairs cap base status n buf = some buf' :=
  Option.isSome_iff_exists.mp ((encodePairs_isSome_iff cap base status n buf hcap).mpr hn)

/-- What the writing loop leaves in the buffer: the pairs in order, and every
byte in front of them as it was. -/
theorem encodePairs_spec (cap base : ℕ) (status : HsbStatus) (n : ℕ) (buf buf' : Memory)
    (h : encodePairs cap base status n buf = some buf') :
    (∀ off, off < base → buf' off = buf off) ∧
      ∀ i, i < n → ∃ hi : i < 8, get16 buf' (base + 4 * i) = status.id[i] ∧
        get16 buf' (base + 2 + 4 * i) = status.val[i] := by
  induction n generalizing buf' with
  | zero =>
    cases Option.some.inj h
    exact ⟨fun _ _ => rfl, fun i hi => absurd hi (Nat.not_lt_zero i)⟩
  | succ n ih =>
    obtain ⟨front, hn, hfront, -, rfl⟩ := encodePairs_succ_eq_some _ _ _ _ _ _ h
    obtain ⟨hbelow, hpairs⟩ := ih front hfront
    refine ⟨?_, ?_⟩
    · intro off hoff
      rw [set16_other _ _ _ _ (by omega), set16_other _ _ _ _ (by omega)]
      exact hbelow off hoff
    · intro i hi
      rcases Nat.lt_or_eq_of_le (Nat.le_of_lt_succ hi) with hlt | heq
      · obtain ⟨hi8, hid, hval⟩ := hpairs i hlt
        refine ⟨hi8, ?_, ?_⟩
        · rw [get16_set16_other _ _ _ _ (by omega), get16_set16_other _ _ _ _ (by omega)]
          exact hid
        · rw [get16_set16_other _ _ _ _ (by omega), get16_set16_other _ _ _ _ (by omega)]
          exact hval
      · subst heq
        refine ⟨hn, ?_, ?_⟩
        · rw [get16_set16_other _ _ _ _ (by omega), Nat.mul_comm 4 i, get16_set16]
        · rw [Nat.mul_comm 4 i, get16_set16]

/-- With `num` zero the reading loop stops after the first pair. -/
theorem decodeStatus_of_num_zero (ptr : Memory) (rlen : ℕ) (status : HsbStatus)
    (hnum : status.num = 0) (hlen : 8 ≤ rlen) :
    decodeStatus ptr rlen status =
      some { status with
        id := status.id.set 0 (get16 ptr 4)
        val := status.val.set 0 (get16 ptr 6)
        num := 1 } := by
  obtain ⟨left, rfl⟩ : ∃ left, rlen = left + 1 := ⟨rlen - 1, by omega⟩
  simp [decodeStatus, decodePairs, hlen, hnum]

end HomeSecurityBox.StatusCodec
