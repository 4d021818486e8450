import HomeSecurityBox.StatusCodec

/-!
The frame of a response that a client's thread writes when it drains its queue.
-/

namespace HomeSecurityBox.Notify

open ByteMemory Protocol DeviceData StatusCodec

variable {ρ : Type}

/-- The size of the `buf` array of `_process_notify`. -/
def notifyBufSize : ℕ := 64

/-- The length of a status frame is computed in 32 bits; an access outside `buf`
or the eight entries of the status is `none`. -/
def makeNotifyResp (resp : HsbResp ρ) : Option Frame :=
  match resp.body with
  | .event event =>
      let len := 16
      let buf := makeCmdHdr zeros .event len
      let buf := set32 buf 4 event.devid
      let buf := set16 buf 8 event.id
      let buf := set16 buf 10 event.param1
      some ⟨len, set32 buf 12 event.param2⟩
  | .result retVal =>
      let len := 8
      let buf := makeCmdHdr zeros .result len
      some ⟨len, set16 buf 4 (UInt16.ofInt retVal)⟩
  | .status status =>
      let len := (8 + status.num * 4).toNat
      let buf := set32 (makeCmdHdr zeros .getStatusResp len) 4 status.devid
      (encodePairs notifyBufSize 8 status status.num.toNat buf).map fun buf => ⟨len, buf⟩

/-- The frame of a status with at most eight pairs. -/
theorem makeNotifyResp_status (status : HsbStatus) (reply : Option ρ)
    (hnum : status.num.toNat ≤ 8) :
    ∃ frame, makeNotifyResp ⟨.status status, reply⟩ = some frame ∧
      frame.len = 8 + 4 * status.num.toNat ∧
      get16 frame.buf 0 = HsbCmd.getStatusResp.code ∧
      (get16 frame.buf 2).toNat = frame.len ∧
      get32 frame.buf 4 = status.devid ∧
      ∀ i, i < status.num.toNat → ∃ hi : i < 8,
        get16 frame.buf (8 + 4 * i) = status.id[i] ∧
          get16 frame.buf (10 + 4 * i) = status.val[i] := by
  have hlen : (8 + status.num * 4).toNat = 8 + 4 * status.num.toNat := by
    simp only [UInt32.toNat_add, UInt32.toNat_mul, UInt32.toNat_ofNat]
    omega
  obtain ⟨buf, hbuf⟩ := exists_encodePairs status
    (set32 (makeCmdHdr zeros .getStatusResp (8 + status.num * 4).toNat) 4 status.devid)
    (show 8 + 32 ≤ notifyBufSize by decide) hnum
  obtain ⟨hbelow, hpairs⟩ := encodePairs_spec _ _ _ _ _ _ hbuf
  have hframe : makeNotifyResp ⟨.status status, reply⟩ =
      some ⟨(8 + status.num * 4).toNat, buf⟩ := by
    simp only [makeNotifyResp, hbuf, Option.map_some]
  have hcmd : get16 buf 0 = HsbCmd.getStatusResp.code := by
    rw [get16_of_agree _ _ 0 (hbelow 0 (by omega)) (hbelow 1 (by omega)),
      get16_set32_other _ _ _ _ (by omega), get16_makeCmdHdr_cmd]
  have hsize : get16 buf 2 = UInt16.ofNat (8 + status.num * 4).toNat := by
    rw [get16_of_agree _ _ 2 (hbelow 2 (by omega)) (hbelow 3 (by omega)),
      get16_set32_other _ _ _ _ (by omega), get16_makeCmdHdr_len]
  have hdevid : get32 buf 4 = status.devid := by
    rw [get32_of_agree _ _ 4
      (get16_of_agree _ _ 4 (hbelow 4 (by omega)) (hbelow 5 (by omega)))
      (get16_of_agree _ _ 6 (hbelow 6 (by omega)) (hbelow 7 (by omega))), get32_set32]
  refine ⟨_, hframe, hlen, hcmd, ?_, hdevid, hpairs⟩
  simp only [hsize, hlen, UInt16.toNat_ofNat']
  omega

end HomeSecurityBox.Notify
