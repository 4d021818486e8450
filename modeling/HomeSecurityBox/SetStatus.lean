import HomeSecurityBox.Coalescing
import HomeSecurityBox.VirtualSwitch
import HomeSecurityBox.Zigbee

/-!
From an accepted SET_STATUS packet to the frames of both drivers. The pair count
is computed with a sign from the bytes that remain in the read; at four bytes or
fewer it is negative and becomes an unsigned count far beyond the arrays.
-/

namespace HomeSecurityBox.SetStatus

open ByteMemory Protocol DeviceData TcpPacket StatusCodec

variable {ρ : Type}

/-- Both drivers' encoding loops stay inside the status and their `wbuf`. -/
def EncodedInBounds (status : HsbStatus) : Prop :=
  (VirtualSwitch.setStatusFrame status).isSome ∧
    ∀ (wbuf : Memory) (dev : Zigbee.CzDev) (transId : UInt16),
      (Zigbee.setStatusFrame wbuf dev transId status).isSome

theorem encodedInBounds_iff (status : HsbStatus) :
    EncodedInBounds status ↔ status.num.toNat ≤ 8 := by
  have hvirtual : (VirtualSwitch.setStatusFrame status).isSome ↔ status.num.toNat ≤ 8 := by
    rw [VirtualSwitch.setStatusFrame, Option.isSome_map]
    exact encodePairs_isSome_iff _ _ status _ _ (by decide)
  have hzigbee : ∀ wbuf dev transId,
      (Zigbee.setStatusFrame wbuf dev transId status).isSome ↔ status.num.toNat ≤ 8 := by
    intro wbuf dev transId
    rw [Zigbee.setStatusFrame, Option.isSome_map]
    exact encodePairs_isSome_iff _ _ status _ _ (by decide)
  constructor
  · intro h
    exact hvirtual.mp h.1
  · intro h
    exact ⟨hvirtual.mpr h, fun wbuf dev transId => (hzigbee wbuf dev transId).mpr h⟩

/-- The status that a SET_STATUS packet queues. -/
def queuedStatus (buf : Memory) (len : ℕ) : HsbStatus :=
  getDevStatus buf len { devid := get32 buf 4 }

theorem dealTcpPacket_setStatus (cb : HsbDeviceCb ρ) (buf : Memory) (len : ℕ) (reply : ρ)
    (haccept : checkTcpPktValid buf len = 0) (hcmd : get16 buf 0 = HsbCmd.setStatus.code) :
    (dealTcpPacket cb buf len reply).cb.asyncQueue =
      cb.asyncQueue ++ [⟨.setStatus (queuedStatus buf len), some reply⟩] := by
  rw [dealTcpPacket_asyncQueue cb buf len reply haccept, hcmd]
  simp only [dispatchActs, HsbCmd.ofCode_code]
  rfl

theorem queuedStatus_num_of_le (buf : Memory) (len : ℕ) (hpos : 0 < len) (h : len ≤ 4) :
    (queuedStatus buf len).num = 4294967295 := by
  simp only [queuedStatus, getDevStatus, statusTotal_of_le len hpos h]
  decide

theorem queuedStatus_num_le_iff (buf : Memory) (len : ℕ) (hpos : 0 < len) :
    (queuedStatus buf len).num.toNat ≤ 8 ↔ 4 < len := by
  constructor
  · intro h
    by_contra hle
    rw [queuedStatus_num_of_le buf len hpos (by omega)] at h
    exact absurd h (by decide)
  · intro h
    rw [queuedStatus, Coalescing.getDevStatus_num buf len _ h]
    exact Nat.min_le_left _ _

/-- For every accepted SET_STATUS packet with `len` bytes from its first on, one
status is queued. Its count is at most 8 and both drivers encode it in bounds if
and only if `len` is at least 5; it is then the number of complete pairs behind
the 8-byte header, at most 8, and it is the number of pairs of the packet itself
if and only if the bytes behind the packet do not complete further pairs. -/
theorem setStatus_count_in_bounds_iff (cb : HsbDeviceCb ρ) (buf : Memory) (len : ℕ)
    (reply : ρ) (haccept : checkTcpPktValid buf len = 0)
    (hcmd : get16 buf 0 = HsbCmd.setStatus.code) :
    (dealTcpPacket cb buf len reply).cb.asyncQueue =
        cb.asyncQueue ++ [⟨.setStatus (queuedStatus buf len), some reply⟩] ∧
      ((queuedStatus buf len).num.toNat ≤ 8 ∧ EncodedInBounds (queuedStatus buf len) ↔
        5 ≤ len) ∧
      (5 ≤ len → (queuedStatus buf len).num.toNat = min 8 ((len - 8) / 4)) ∧
      ((queuedStatus buf len).num.toNat = min 8 (((get16 buf 2).toNat - 8) / 4) ↔
        5 ≤ len ∧ min 8 ((len - 8) / 4) = min 8 (((get16 buf 2).toNat - 8) / 4)) := by
  have hpos : 0 < len := ((checkTcpPktValid_eq_zero_iff buf len).mp haccept).1
  have hbound := queuedStatus_num_le_iff buf len hpos
  have hcount : 5 ≤ len → (queuedStatus buf len).num.toNat = min 8 ((len - 8) / 4) :=
    fun h => Coalescing.getDevStatus_num buf len _ h
  refine ⟨dealTcpPacket_setStatus cb buf len reply haccept hcmd, ?_, hcount, ?_⟩
  · rw [encodedInBounds_iff, and_self]
    exact hbound
  · constructor
    · intro h
      have hlen : 4 < len := by
        apply hbound.mp
        rw [h]
        exact Nat.min_le_left _ _
      exact ⟨hlen, (hcount hlen).symm.trans h⟩
    · rintro ⟨hlen, hsame⟩
      exact (hcount hlen).trans hsame

/-- SET_STATUS with declared length 4 and nothing behind it. -/
def shortSetStatus : Memory := load [0x23, 0x88, 4, 0] zeros

theorem short_setStatus_out_of_bounds :
    checkTcpPktValid shortSetStatus 4 = 0 ∧
      get16 shortSetStatus 0 = HsbCmd.setStatus.code ∧
      (dealTcpPacket ({} : HsbDeviceCb ℕ) shortSetStatus 4 0).cb.asyncQueue =
        [⟨.setStatus (queuedStatus shortSetStatus 4), some 0⟩] ∧
      (queuedStatus shortSetStatus 4).num = 4294967295 ∧
      VirtualSwitch.setStatusFrame (queuedStatus shortSetStatus 4) = none := by
  refine ⟨by decide, by decide,
    dealTcpPacket_setStatus {} shortSetStatus 4 0 (by decide) (by decide),
    queuedStatus_num_of_le _ 4 (by decide) (by decide), ?_⟩
  have hnum := queuedStatus_num_of_le shortSetStatus 4 (by decide) (by decide)
  have hout : ¬ (VirtualSwitch.setStatusFrame (queuedStatus shortSetStatus 4)).isSome := by
    rw [VirtualSwitch.setStatusFrame, Option.isSome_map,
      encodePairs_isSome_iff _ _ _ _ _ (by decide), hnum]
    decide
  exact Option.not_isSome_iff_eq_none.mp hout

theorem setStatus_one_pair_in_bounds :
    (dealTcpPacket ({} : HsbDeviceCb ℕ)
        (load Coalescing.setStatusRequest.bytes zeros) 12 0).cb.asyncQueue =
        [] ++ [⟨.setStatus (queuedStatus (load Coalescing.setStatusRequest.bytes zeros) 12),
          some 0⟩] :=
  (setStatus_count_in_bounds_iff ({} : HsbDeviceCb ℕ)
    (load Coalescing.setStatusRequest.bytes zeros) 12 0 (by decide) (by decide)).1

end HomeSecurityBox.SetStatus
