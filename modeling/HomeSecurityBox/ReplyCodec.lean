import HomeSecurityBox.Notify
import HomeSecurityBox.PadSim
import HomeSecurityBox.TcpPacket

/-!
The encoders of the box against the decoder of its client. A value that the box
sends is a reply of the dispatcher or a notification; each has its frame, the
capacity of the buffer that the frame is built in and the message that the client
should read.
-/

namespace HomeSecurityBox.ReplyCodec

open ByteMemory Protocol DeviceData TcpPacket Notify PadSim

/-- The reply buffer of the dispatcher. -/
def replyBufSize : ℕ := 1024

inductive Value
  | devs (ids : List UInt32) (fits : ids.length ≤ 128)
  | info (dev : HsbDev)
  | timer (devId : UInt32) (tm : HsbTimer)
  | delay (devId : UInt32) (entry : HsbDelay)
  | linkage (devId : UInt32) (link : HsbLinkage)
  | result (ok : ℤ)
  | notifyEvent (event : HsbEvt)
  | notifyResult (retVal : ℤ)
  | notifyStatus (status : HsbStatus) (fits : status.num.toNat ≤ 8)

/-- Replies are built over what their buffer holds, notifications over zeros. -/
def Value.frame (buf : Memory) : Value → Option Frame
  | .devs ids _ => some (replyDevIdList buf ids)
  | .info dev => some (replyGetDeviceInfo buf dev)
  | .timer devId tm => some (replyGetTimer buf devId tm)
  | .delay devId entry => some (replyGetDelay buf devId entry)
  | .linkage devId link => some (replyGetLinkage buf devId link)
  | .result ok => some (replyResult buf ok)
  | .notifyEvent event => makeNotifyResp (⟨.event event, none⟩ : HsbResp Unit)
  | .notifyResult retVal => makeNotifyResp (⟨.result retVal, none⟩ : HsbResp Unit)
  | .notifyStatus status _ => makeNotifyResp (⟨.status status, none⟩ : HsbResp Unit)

def Value.capacity : Value → ℕ
  | .notifyEvent _ | .notifyResult _ | .notifyStatus _ _ => notifyBufSize
  | _ => replyBufSize

/-- The first `num` pairs of a status. -/
def statusPairs (status : HsbStatus) : List (UInt16 × UInt16) :=
  (status.id.toList.zip status.val.toList).take status.num.toNat

def Value.message : Value → PadMessage
  | .devs ids _ => .devs ids
  | .info dev =>
      .info dev.id dev.driver.id (UInt16.ofNat dev.info.cls.toNat)
        (UInt16.ofNat dev.info.interface.toNat) (dev.info.mac.toList.take 6)
  | .timer devId tm => .timer devId tm
  | .delay devId entry => .delay devId entry
  | .linkage devId link => .linkage devId link
  | .result ok => .result (UInt16.ofInt ok)
  | .notifyEvent event => .event event
  | .notifyResult retVal => .result (UInt16.ofInt retVal)
  | .notifyStatus status _ => .status status.devid (statusPairs status)

/-- The client reads the message from the packet whatever its buffer holds behind
it, the header carries the number of bytes, and they fit the box's buffer. -/
structure Decodes (capacity : ℕ) (frame : Frame) (message : PadMessage) : Prop where
  read : ∀ stale, dealTcpPkt (load frame.bytes stale) = message
  size : ∀ stale, (get16 (load frame.bytes stale) 2).toNat = frame.bytes.length
  fits : frame.bytes.length ≤ capacity

/-- It is enough to read the buffer in which the frame was built. -/
theorem Decodes.of_buf {capacity n : ℕ} {frame : Frame} {message : PadMessage} {cmd : HsbCmd}
    (hcmd : get16 frame.buf 0 = cmd.code) (hsize : get16 frame.buf 2 = UInt16.ofNat n)
    (hframe : frame.len = n) (hheader : 4 ≤ n) (hfields : fieldsEnd cmd.code ≤ n)
    (hfits : n ≤ capacity) (hcap : capacity ≤ 65535) (hread : dealTcpPkt frame.buf = message) :
    Decodes capacity frame message := by
  subst hframe
  have hlen : (get16 frame.buf 2).toNat = frame.len := by
    rw [hsize, UInt16.toNat_ofNat']
    omega
  have hagree : ∀ stale, AgreeBelow frame.len frame.buf (load frame.bytes stale) :=
    fun stale => (load_take_agree frame.buf stale frame.len).symm
  refine ⟨?_, ?_, ?_⟩
  · intro stale
    rw [← hread]
    exact (dealTcpPkt_congr (hagree stale) hlen (by rw [hcmd]; exact hfields)).symm
  · intro stale
    rw [← (hagree stale).get16 (by omega), hlen, Frame.bytes_length]
  · rw [Frame.bytes_length]
    exact hfits

/-- The id array is written behind the header and read back in order. -/
theorem foldl_set32_spec (ids : List UInt32) (k : ℕ) (buf : Memory) :
    let buf' := (ids.zipIdx k).foldl (fun buf entry => set32 buf (4 + entry.2 * 4) entry.1) buf
    (∀ off, off < 4 + k * 4 → buf' off = buf off) ∧
      ∀ (i : ℕ) (hi : i < ids.length), get32 buf' (4 + (k + i) * 4) = ids[i] := by
  induction ids generalizing k buf with
  | nil => exact ⟨fun _ _ => rfl, fun i hi => absurd hi (Nat.not_lt_zero i)⟩
  | cons id ids ih =>
    obtain ⟨hbelow, hids⟩ := ih (k + 1) (set32 buf (4 + k * 4) id)
    simp only [List.zipIdx_cons, List.foldl_cons]
    refine ⟨?_, ?_⟩
    · intro off hoff
      rw [hbelow off (by omega), set32_other _ _ _ _ (by omega)]
    · intro i hi
      cases i with
      | zero =>
        have hkept := AgreeBelow.get32 (n := 4 + (k + 1) * 4) hbelow
          (show 4 + (k + 0) * 4 + 4 ≤ 4 + (k + 1) * 4 by omega)
        rw [hkept, Nat.add_zero, get32_set32]
        rfl
      | succ i =>
        have hrest := hids i (by simpa using hi)
        rw [show k + 1 + i = k + (i + 1) by omega] at hrest
        exact hrest

/-- Bytes written one behind the other are read back in order. -/
theorem foldl_set8_spec (bytes : List UInt8) (off k : ℕ) (buf : Memory) :
    let buf' := (bytes.zipIdx k).foldl (fun buf entry => set8 buf (off + entry.2) entry.1) buf
    (∀ i, i < off + k → buf' i = buf i) ∧
      ∀ (i : ℕ) (hi : i < bytes.length), buf' (off + (k + i)) = bytes[i] := by
  induction bytes generalizing k buf with
  | nil => exact ⟨fun _ _ => rfl, fun i hi => absurd hi (Nat.not_lt_zero i)⟩
  | cons byte bytes ih =>
    obtain ⟨hbelow, hbytes⟩ := ih (k + 1) (set8 buf (off + k) byte)
    simp only [List.zipIdx_cons, List.foldl_cons]
    refine ⟨?_, ?_⟩
    · intro i hi
      rw [hbelow i (by omega), set8_other _ _ _ _ (by omega)]
    · intro i hi
      cases i with
      | zero =>
        have hfirst := hbelow (off + k) (Nat.lt_succ_self _)
        rw [set8_same] at hfirst
        exact hfirst
      | succ i =>
        have hrest := hbytes i (by simpa using hi)
        rw [show k + 1 + i = k + (i + 1) by omega] at hrest
        exact hrest

theorem copyMac_agree (buf : Memory) (off : ℕ) (mac : Vector UInt8 8) :
    AgreeBelow off (copyMac buf off mac) buf :=
  fun i hi => (foldl_set8_spec (mac.toList.take 6) off 0 buf).1 i hi

theorem get16_copyMac (buf : Memory) (off i : ℕ) (mac : Vector UInt8 8) (h : i + 2 ≤ off) :
    get16 (copyMac buf off mac) i = get16 buf i := (copyMac_agree buf off mac).get16 h

theorem get32_copyMac (buf : Memory) (off i : ℕ) (mac : Vector UInt8 8) (h : i + 4 ≤ off) :
    get32 (copyMac buf off mac) i = get32 buf i := (copyMac_agree buf off mac).get32 h

theorem take_copyMac (buf : Memory) (off : ℕ) (mac : Vector UInt8 8) :
    take (shift (copyMac buf off mac) off) 6 = mac.toList.take 6 := by
  have hlength : (mac.toList.take 6).length = 6 := by simp
  apply List.ext_getElem (by rw [take_length, hlength])
  intro i hi hi'
  have hbyte := (foldl_set8_spec (mac.toList.take 6) off 0 buf).2 i hi'
  rw [Nat.zero_add] at hbyte
  simp only [take, List.getElem_map, List.getElem_range]
  exact hbyte

/-- The ids are written behind the header. -/
theorem replyDevIdList_header (buf : Memory) (ids : List UInt32) :
    AgreeBelow 4 (replyDevIdList buf ids).buf
      (makeCmdHdr buf .getDevsResp (ids.length * 4 + 4)) :=
  (foldl_set32_spec ids 0 (makeCmdHdr buf .getDevsResp (ids.length * 4 + 4))).1

theorem replyDevIdList_decodes (buf : Memory) (ids : List UInt32) (h : ids.length ≤ 128) :
    Decodes replyBufSize (replyDevIdList buf ids) (.devs ids) := by
  have hids := (foldl_set32_spec ids 0 (makeCmdHdr buf .getDevsResp (ids.length * 4 + 4))).2
  have hagree := replyDevIdList_header buf ids
  have hcmd : get16 (replyDevIdList buf ids).buf 0 = HsbCmd.getDevsResp.code := by
    rw [hagree.get16 (by omega), get16_makeCmdHdr_cmd]
  have hsize : get16 (replyDevIdList buf ids).buf 2 = UInt16.ofNat (ids.length * 4 + 4) := by
    rw [hagree.get16 (by omega), get16_makeCmdHdr_len]
  have hcount : wordCount (get16 (replyDevIdList buf ids).buf 2) 4 = ids.length := by
    apply wordCount_of_len
    rw [hsize, UInt16.toNat_ofNat']
    omega
  refine Decodes.of_buf hcmd hsize rfl (Nat.le_add_left _ _) (Nat.le_add_left _ _) ?_
    (by decide) ?_
  · rw [replyBufSize]
    omega
  · unfold dealTcpPkt
    simp only [hcmd, HsbCmd.ofCode_code, hcount, PadMessage.devs.injEq]
    apply List.ext_getElem (by simp)
    intro i hi hi'
    have hid := hids i hi'
    rw [Nat.zero_add] at hid
    rw [List.getElem_map, List.getElem_range]
    exact hid

theorem replyGetDeviceInfo_decodes (buf : Memory) (dev : HsbDev) :
    Decodes replyBufSize (replyGetDeviceInfo buf dev) (Value.info dev).message := by
  have hcmd : get16 (replyGetDeviceInfo buf dev).buf 0 = HsbCmd.getInfoResp.code := by
    simp (disch := omega) only [replyGetDeviceInfo, get16_copyMac, get16_set16_other,
      get16_set32_other, get16_makeCmdHdr_cmd]
  have hsize : get16 (replyGetDeviceInfo buf dev).buf 2 = UInt16.ofNat 24 := by
    simp (disch := omega) only [replyGetDeviceInfo, get16_copyMac, get16_set16_other,
      get16_set32_other, get16_makeCmdHdr_len]
  refine Decodes.of_buf hcmd hsize rfl (by decide) (by decide) (by decide) (by decide) ?_
  unfold dealTcpPkt
  simp (disch := omega) only [hcmd, HsbCmd.ofCode_code, Value.message]
  simp (disch := omega) only [replyGetDeviceInfo, get16_copyMac, get32_copyMac, take_copyMac,
    get16_set16, get16_set16_other, get32_set16_other, get32_set32, get32_set32_other]

theorem replyGetTimer_decodes (buf : Memory) (devId : UInt32) (tm : HsbTimer) :
    Decodes replyBufSize (replyGetTimer buf devId tm) (.timer devId tm) := by
  have hcmd : get16 (replyGetTimer buf devId tm).buf 0 = HsbCmd.getTimerResp.code := by
    simp (disch := omega) only [replyGetTimer, get16_set8_other, get16_set16_other,
      get16_set32_other, get16_makeCmdHdr_cmd]
  have hsize : get16 (replyGetTimer buf devId tm).buf 2 = UInt16.ofNat 24 := by
    simp (disch := omega) only [replyGetTimer, get16_set8_other, get16_set16_other,
      get16_set32_other, get16_makeCmdHdr_len]
  refine Decodes.of_buf hcmd hsize rfl (by decide) (by decide) (by decide) (by decide) ?_
  unfold dealTcpPkt
  simp only [hcmd, HsbCmd.ofCode_code, timerFields]
  simp (disch := omega) only [replyGetTimer, get8_set8, get8_set8_other, get8_set16_other,
    get8_set32_other, get16_set8_other, get16_set16, get16_set16_other, get16_set32_other,
    get32_set8_other, get32_set16_other, get32_set32, get32_set32_other]

theorem replyGetDelay_decodes (buf : Memory) (devId : UInt32) (delay : HsbDelay) :
    Decodes replyBufSize (replyGetDelay buf devId delay) (.delay devId delay) := by
  have hcmd : get16 (replyGetDelay buf devId delay).buf 0 = HsbCmd.getDelayResp.code := by
    simp (disch := omega) only [replyGetDelay, get16_set8_other, get16_set16_other,
      get16_set32_other, get16_makeCmdHdr_cmd]
  have hsize : get16 (replyGetDelay buf devId delay).buf 2 = UInt16.ofNat 32 := by
    simp (disch := omega) only [replyGetDelay, get16_set8_other, get16_set16_other,
      get16_set32_other, get16_makeCmdHdr_len]
  refine Decodes.of_buf hcmd hsize rfl (by decide) (by decide) (by decide) (by decide) ?_
  unfold dealTcpPkt
  simp only [hcmd, HsbCmd.ofCode_code, delayFields]
  simp (disch := omega) only [replyGetDelay, get8_set8, get8_set8_other, get8_set16_other,
    get8_set32_other, get16_set8_other, get16_set16, get16_set16_other, get16_set32_other,
    get32_set8_other, get32_set16_other, get32_set32, get32_set32_other]

theorem replyGetLinkage_decodes (buf : Memory) (devId : UInt32) (link : HsbLinkage) :
    Decodes replyBufSize (replyGetLinkage buf devId link) (.linkage devId link) := by
  have hcmd : get16 (replyGetLinkage buf devId link).buf 0 = HsbCmd.getLinkageResp.code := by
    simp (disch := omega) only [replyGetLinkage, get16_set8_other, get16_set16_other,
      get16_set32_other, get16_makeCmdHdr_cmd]
  have hsize : get16 (replyGetLinkage buf devId link).buf 2 = UInt16.ofNat 32 := by
    simp (disch := omega) only [replyGetLinkage, get16_set8_other, get16_set16_other,
      get16_set32_other, get16_makeCmdHdr_len]
  refine Decodes.of_buf hcmd hsize rfl (by decide) (by decide) (by decide) (by decide) ?_
  unfold dealTcpPkt
  simp only [hcmd, HsbCmd.ofCode_code, linkageFields]
  simp (disch := omega) only [replyGetLinkage, get8_set8, get8_set8_other, get8_set16_other,
    get8_set32_other, get16_set8_other, get16_set16, get16_set16_other, get16_set32_other,
    get32_set8_other, get32_set16_other, get32_set32, get32_set32_other]

theorem replyResult_decodes (buf : Memory) (ok : ℤ) (capacity : ℕ) (hlow : 8 ≤ capacity)
    (hhigh : capacity ≤ 65535) :
    Decodes capacity (replyResult buf ok) (.result (UInt16.ofInt ok)) := by
  have hcmd : get16 (replyResult buf ok).buf 0 = HsbCmd.result.code := by
    simp (disch := omega) only [replyResult, get16_set16_other, get16_makeCmdHdr_cmd]
  have hsize : get16 (replyResult buf ok).buf 2 = UInt16.ofNat 8 := by
    simp (disch := omega) only [replyResult, get16_set16_other, get16_makeCmdHdr_len]
  refine Decodes.of_buf hcmd hsize rfl (by decide) (by decide) hlow hhigh ?_
  unfold dealTcpPkt
  simp only [hcmd, HsbCmd.ofCode_code]
  simp only [replyResult, get16_set16]

theorem notifyEvent_decodes (event : HsbEvt) :
    ∃ frame, makeNotifyResp (⟨.event event, none⟩ : HsbResp Unit) = some frame ∧
      Decodes notifyBufSize frame (.event event) := by
  refine ⟨_, rfl, ?_⟩
  have hread : ∀ {buf : Memory}, get16 buf 0 = HsbCmd.event.code → get32 buf 4 = event.devid →
      get16 buf 8 = event.id → get16 buf 10 = event.param1 → get32 buf 12 = event.param2 →
      dealTcpPkt buf = .event event := by
    intro buf hcmd hdevid hid hparam1 hparam2
    unfold dealTcpPkt
    simp only [hcmd, HsbCmd.ofCode_code, hdevid, hid, hparam1, hparam2]
  refine Decodes.of_buf (show _ = HsbCmd.event.code from ?_) (show _ = UInt16.ofNat 16 from ?_)
    rfl (by decide) (by decide) (by decide) (by decide) (hread ?_ ?_ ?_ ?_ ?_)
  case refine_2 =>
    simp (disch := omega) only [get16_set16_other, get16_set32_other, get16_makeCmdHdr_len]
  all_goals
    simp (disch := omega) only [get16_set16, get16_set16_other, get16_set32_other,
      get32_set16_other, get32_set32, get32_set32_other, get16_makeCmdHdr_cmd]

theorem notifyStatus_decodes (status : HsbStatus) (h : status.num.toNat ≤ 8) :
    ∃ frame, makeNotifyResp (⟨.status status, none⟩ : HsbResp Unit) = some frame ∧
      Decodes notifyBufSize frame (.status status.devid (statusPairs status)) := by
  obtain ⟨frame, hframe, hlen, hcmd, hsize, hdevid, hpairs⟩ :=
    makeNotifyResp_status status (none : Option Unit) h
  have hcount : wordCount (get16 frame.buf 2) 8 = status.num.toNat :=
    wordCount_of_len (hsize.trans hlen)
  have hheader : get16 frame.buf 2 = UInt16.ofNat frame.len := by
    rw [← hsize, UInt16.ofNat_toNat]
  refine ⟨frame, hframe, Decodes.of_buf hcmd hheader rfl (by omega) ?_ ?_ (by decide) ?_⟩
  · rw [hlen]
    exact Nat.le_add_right _ _
  · rw [hlen, notifyBufSize]
    omega
  · unfold dealTcpPkt
    simp only [hcmd, HsbCmd.ofCode_code, hcount, hdevid, PadMessage.status.injEq, true_and]
    have hlength : (statusPairs status).length = status.num.toNat := by
      simp only [statusPairs, List.length_take, List.length_zip, Vector.length_toList]
      omega
    apply List.ext_getElem (by simp [hlength])
    intro i hi hi'
    obtain ⟨hi8, hid, hval⟩ := hpairs i (by omega)
    simp only [List.getElem_map, List.getElem_range, statusPairs, List.getElem_take,
      List.getElem_zip, Vector.getElem_toList]
    rw [Nat.mul_comm i 4, hid, hval]

/-- Every value that the box encodes reaches the client unchanged, up to the fields
that are 16 bits wide in the packet. -/
theorem values_decoded (value : Value) (buf : Memory) :
    ∃ frame, value.frame buf = some frame ∧ Decodes value.capacity frame value.message := by
  cases value with
  | devs ids fits => exact ⟨_, rfl, replyDevIdList_decodes buf ids fits⟩
  | info dev => exact ⟨_, rfl, replyGetDeviceInfo_decodes buf dev⟩
  | timer devId tm => exact ⟨_, rfl, replyGetTimer_decodes buf devId tm⟩
  | delay devId entry => exact ⟨_, rfl, replyGetDelay_decodes buf devId entry⟩
  | linkage devId link => exact ⟨_, rfl, replyGetLinkage_decodes buf devId link⟩
  | result ok => exact ⟨_, rfl, replyResult_decodes buf ok replyBufSize (by decide) (by decide)⟩
  | notifyEvent event => exact notifyEvent_decodes event
  | notifyResult retVal =>
    exact ⟨_, rfl, replyResult_decodes zeros retVal notifyBufSize (by decide) (by decide)⟩
  | notifyStatus status fits => exact notifyStatus_decodes status fits

end HomeSecurityBox.ReplyCodec
