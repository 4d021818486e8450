import HomeSecurityBox.ReplyCodec
import HomeSecurityBox.TcpPacket

/-!
The result code that a client reads in a RESULT packet, against the return value of
the operation that its command runs. The default branch of the dispatcher answers
with `REPLY_FAIL`, which is zero on the wire, and `get_dev_info` fails with -1.
-/

namespace HomeSecurityBox.ResultCodes

open ByteMemory Protocol DeviceData Device RemoteCtl TcpPacket PadSim ReplyCodec

variable {ρ : Type}

/-- The commands with a case of their own in the dispatcher. -/
def handled : List HsbCmd :=
  [.getDevs, .getInfo, .getStatus, .setStatus, .getTimer, .setTimer, .delTimer, .getDelay,
    .setDelay, .delDelay, .getLinkage, .setLinkage, .delLinkage, .doAction, .probeDev]

def Implemented (cmd : UInt16) : Prop := ∃ c ∈ handled, cmd = c.code

/-- The return value of the operation that a command runs, if it runs one. The
asynchronous operations return as soon as their act is queued. -/
def operationRet (cb : HsbDeviceCb ρ) (buf : Memory) (cmd : UInt16) : Option ℤ :=
  match HsbCmd.ofCode cmd with
  | some .getInfo => some (retCode (getDevInfo cb (get32 buf 4)))
  | some .getTimer => some (retCode (getDevTimer cb (get32 buf 4) (get16 buf 8)))
  | some .setTimer => some (retCode (setDevTimer cb (get32 buf 4) (readTimer buf)))
  | some .delTimer => some (retCode (delDevTimer cb (get32 buf 4) (get16 buf 8)))
  | some .getDelay => some (retCode (getDevDelay cb (get32 buf 4) (get16 buf 8)))
  | some .setDelay => some (retCode (setDevDelay cb (get32 buf 4) (readDelay buf)))
  | some .delDelay => some (retCode (delDevDelay cb (get32 buf 4) (get16 buf 8)))
  | some .getLinkage => some (retCode (getDevLinkage cb (get32 buf 4) (get16 buf 8)))
  | some .setLinkage => some (retCode (setDevLinkage cb (get32 buf 4) (readLinkage buf)))
  | some .delLinkage => some (retCode (delDevLinkage cb (get32 buf 4) (get16 buf 8)))
  | some .doAction => some (retCode (readAction buf))
  | some .getDevs | some .getStatus | some .setStatus | some .probeDev =>
      some HsbErrorNo.ok.code
  | _ => none

/-- A value of the enumeration that reports a failure. -/
def ErrorCode (code : ℤ) : Prop := ∃ e : HsbErrorNo, e ≠ .ok ∧ e ≠ .last ∧ code = e.code

def packetCmd (packet : List UInt8) : UInt16 := get16 (load packet zeros) 0

def packetResult (packet : List UInt8) : UInt16 := get16 (load packet zeros) 4

/-- A result is zero after an operation that succeeded and an error code otherwise. -/
def Tells (ret : Option ℤ) (result : UInt16) : Prop :=
  if ret = some HsbErrorNo.ok.code then result = 0 else ErrorCode result.toNat

/-- A RESULT packet that the call writes tells how the command's operation ended. -/
def ResultTold (cb : HsbDeviceCb ρ) (buf : Memory) (len : ℕ) (reply : ρ) : Prop :=
  ∀ packet, (dealTcpPacket cb buf len reply).written = some packet →
    packetCmd packet = HsbCmd.result.code →
      Tells (operationRet cb buf (get16 buf 0)) (packetResult packet)

theorem ErrorCode.badParam : ErrorCode HsbErrorNo.badParam.code :=
  ⟨.badParam, by decide, by decide, rfl⟩

theorem SlotTable.get_error {R S : Type} (t : SlotTable R S) (cb : HsbDeviceCb ρ)
    (devId : UInt32) (slot : UInt16) (code : ℤ) (h : t.get cb devId slot = .error code) :
    ErrorCode code := by
  unfold SlotTable.get at h
  split at h
  · exact Except.error.inj h ▸ ErrorCode.badParam
  · split at h
    · split at h
      · contradiction
      · exact Except.error.inj h ▸ ErrorCode.badParam
    · exact Except.error.inj h ▸ ErrorCode.badParam

theorem SlotTable.set_error {R S : Type} (t : SlotTable R S) (cb : HsbDeviceCb ρ)
    (devId : UInt32) (record : R) (code : ℤ) (h : t.set cb devId record = .error code) :
    ErrorCode code := by
  unfold SlotTable.set at h
  split at h
  · exact Except.error.inj h ▸ ErrorCode.badParam
  · split at h
    · contradiction
    · exact Except.error.inj h ▸ ErrorCode.badParam

theorem SlotTable.del_error {R S : Type} (t : SlotTable R S) (cb : HsbDeviceCb ρ)
    (devId : UInt32) (slot : UInt16) (code : ℤ) (h : t.del cb devId slot = .error code) :
    ErrorCode code := by
  unfold SlotTable.del at h
  split at h
  · exact Except.error.inj h ▸ ErrorCode.badParam
  · split at h
    · split at h
      · contradiction
      · exact Except.error.inj h ▸ ErrorCode.badParam
    · exact Except.error.inj h ▸ ErrorCode.badParam

theorem readAction_error (buf : Memory) (code : ℤ) (h : readAction buf = .error code) :
    ErrorCode code := by
  simp only [readAction] at h
  split at h
  · unfold remoteKeyMapping at h
    split at h
    · exact Except.error.inj h ▸ ErrorCode.badParam
    · split at h
      · contradiction
      · split at h
        · contradiction
        · exact Except.error.inj h ▸ ⟨.others, by decide, by decide, rfl⟩
  · contradiction

theorem packetCmd_bytes (frame : Frame) (h : 2 ≤ frame.len) :
    packetCmd frame.bytes = get16 frame.buf 0 :=
  (load_take_agree frame.buf zeros frame.len).get16 h

theorem packetResult_bytes (frame : Frame) (h : 6 ≤ frame.len) :
    packetResult frame.bytes = get16 frame.buf 4 :=
  (load_take_agree frame.buf zeros frame.len).get16 h

theorem packetResult_replyResult (buf : Memory) (ok : ℤ) :
    packetResult (replyResult buf ok).bytes = UInt16.ofInt ok := by
  rw [packetResult_bytes _ (show 6 ≤ 8 by decide)]
  simp only [replyResult, get16_set16]

theorem packetCmd_replyResult (buf : Memory) (ok : ℤ) :
    packetCmd (replyResult buf ok).bytes = HsbCmd.result.code := by
  rw [packetCmd_bytes _ (show 2 ≤ 8 by decide)]
  simp (disch := omega) only [replyResult, get16_set16_other, get16_makeCmdHdr_cmd]

/-- The narrowing to 16 bits keeps every value of the enumeration. -/
theorem ErrorCode.narrow {code : ℤ} (h : ErrorCode code) :
    ErrorCode (UInt16.ofInt code).toNat := by
  obtain ⟨e, hok, hlast, rfl⟩ := h
  refine ⟨e, hok, hlast, ?_⟩
  cases e <;> rfl

theorem ErrorCode.ne_ok {code : ℤ} (h : ErrorCode code) : code ≠ HsbErrorNo.ok.code := by
  obtain ⟨e, hok, -, rfl⟩ := h
  cases e <;> simp_all [HsbErrorNo.code]

/-- A failure reported with its own code. -/
theorem tells_error {code : ℤ} (h : ErrorCode code) :
    Tells (some code) (UInt16.ofInt code) := by
  unfold Tells
  rw [if_neg (fun heq => h.ne_ok (Option.some.inj heq))]
  exact h.narrow

theorem tells_ok : Tells (some HsbErrorNo.ok.code) (UInt16.ofInt HsbErrorNo.ok.code) := by
  unfold Tells
  rw [if_pos rfl]
  rfl

/-- The client sees a RESULT packet as such. -/
theorem packetCmd_ne_result {capacity : ℕ} {frame : Frame} {message : PadMessage}
    (h : Decodes capacity frame message) (hmessage : ∀ result, message ≠ .result result) :
    packetCmd frame.bytes ≠ HsbCmd.result.code := by
  intro hcmd
  have hread := h.read zeros
  simp only [dealTcpPkt, show get16 (load frame.bytes zeros) 0 = HsbCmd.result.code from hcmd,
    HsbCmd.ofCode_code] at hread
  exact hmessage _ hread.symm

theorem packetCmd_replyDevIdList (buf : Memory) (ids : List UInt32) :
    packetCmd (replyDevIdList buf ids).bytes = HsbCmd.getDevsResp.code := by
  rw [packetCmd_bytes _ (Nat.le_add_left 2 _),
    (replyDevIdList_header buf ids).get16 (show 0 + 2 ≤ 4 by decide), get16_makeCmdHdr_cmd]

/-- The RESULT packet of a dispatched command tells how its operation ended. -/
def Told (done : Dispatch ρ) (ret : Option ℤ) : Prop :=
  ∀ frame, done.frame = some frame → packetCmd frame.bytes = HsbCmd.result.code →
    Tells ret (packetResult frame.bytes)

theorem told_of_no_frame (cb : HsbDeviceCb ρ) (ret : Option ℤ) : Told ⟨none, cb⟩ ret :=
  fun _ hframe => absurd hframe (Option.some_ne_none _).symm

theorem told_result (cb : HsbDeviceCb ρ) (buf : Memory) (ok : ℤ) (ret : Option ℤ)
    (h : Tells ret (UInt16.ofInt ok)) : Told ⟨some (replyResult buf ok), cb⟩ ret := by
  intro frame hframe _
  cases hframe
  rw [packetResult_replyResult]
  exact h

theorem told_confirm (cb : HsbDeviceCb ρ) (stored : Except ℤ (HsbDeviceCb ρ))
    (h : ∀ code, stored = .error code → ErrorCode code) :
    Told (confirm cb stored) (some (retCode stored)) := by
  cases stored with
  | ok cb' => exact told_result cb' zeros _ _ tells_ok
  | error code => exact told_result cb zeros _ _ (tells_error (h code rfl))

theorem told_answer {α : Type} (cb : HsbDeviceCb ρ) (found : Except ℤ α) (encode : α → Frame)
    (hdata : ∀ value, packetCmd (encode value).bytes ≠ HsbCmd.result.code)
    (h : ∀ code, found = .error code → ErrorCode code) :
    Told (answer cb found encode) (some (retCode found)) := by
  cases found with
  | ok value =>
    intro frame hframe hcmd
    cases hframe
    exact absurd hcmd (hdata value)
  | error code => exact told_result cb zeros _ _ (tells_error (h code rfl))

theorem told_getInfo_iff (cb : HsbDeviceCb ρ) (devId : UInt32) :
    Told (answer cb (getDevInfo cb devId) (replyGetDeviceInfo zeros))
      (some (retCode (getDevInfo cb devId))) ↔ (findDev cb devId).isSome := by
  unfold getDevInfo
  cases findDev cb devId with
  | some dev =>
    simp only [Option.isSome_some, iff_true]
    apply told_answer
    · exact fun value => packetCmd_ne_result (replyGetDeviceInfo_decodes zeros value)
        (fun _ => PadMessage.noConfusion)
    · exact fun _ h => absurd h (by simp)
  | none =>
    simp only [Option.isSome_none, Bool.false_eq_true, iff_false]
    intro htold
    have htells := htold _ rfl (packetCmd_replyResult zeros (-1))
    rw [packetResult_replyResult] at htells
    unfold Tells at htells
    rw [if_neg (by decide)] at htells
    obtain ⟨e, -, -, hcode⟩ := htells
    cases e <;> exact absurd hcode (by decide)

/-- The default branch reports success for a command that is not implemented. -/
theorem not_told_default (cb : HsbDeviceCb ρ) : ¬ Told ⟨some (replyResult zeros 0), cb⟩ none := by
  intro htold
  have htells := htold _ rfl (packetCmd_replyResult zeros 0)
  rw [packetResult_replyResult] at htells
  exact absurd rfl (ErrorCode.ne_ok htells)

theorem code_injective {c c' : HsbCmd} (h : c.code = c'.code) : c = c' := by
  have hcode := HsbCmd.ofCode_code c
  rw [h, HsbCmd.ofCode_code] at hcode
  exact (Option.some.inj hcode).symm

theorem implemented_code_iff (c : HsbCmd) : Implemented c.code ↔ c ∈ handled := by
  constructor
  · rintro ⟨c', hc', hcode⟩
    rwa [code_injective hcode]
  · exact fun hc => ⟨c, hc, rfl⟩

theorem not_implemented_of_ofCode_none {cmd : UInt16} (h : HsbCmd.ofCode cmd = none) :
    ¬ Implemented cmd := by
  rintro ⟨c, -, rfl⟩
  simp at h

/-- Every command of the dispatcher: which results tell how the operation ended. -/
theorem told_dispatchCmd_iff (cb : HsbDeviceCb ρ) (buf : Memory) (len : ℕ) (reply : ρ)
    (cmd : UInt16) :
    Told (dispatchCmd cb buf len reply cmd) (operationRet cb buf cmd) ↔
      Implemented cmd ∧ (cmd = HsbCmd.getInfo.code → (findDev cb (get32 buf 4)).isSome) := by
  have hdefault := not_told_default cb
  unfold dispatchCmd operationRet
  cases hcmd : HsbCmd.ofCode cmd with
  | none => exact iff_of_false hdefault (fun h => not_implemented_of_ofCode_none hcmd h.1)
  | some c =>
    obtain rfl := HsbCmd.code_of_ofCode hcmd
    -- what a case of the switch other than GET_INFO has to show
    have hcase : ∀ {done : Dispatch ρ} {ret : Option ℤ}, Told done ret →
        c ∈ handled ∧ c ≠ .getInfo → (Told done ret ↔ Implemented c.code ∧
          (c.code = HsbCmd.getInfo.code → (findDev cb (get32 buf 4)).isSome)) :=
      fun htold hc => iff_of_true htold
        ⟨(implemented_code_iff c).mpr hc.1, fun h => absurd (code_injective h) hc.2⟩
    have hother : c ∉ handled → ¬ (Implemented c.code ∧
        (c.code = HsbCmd.getInfo.code → (findDev cb (get32 buf 4)).isSome)) :=
      fun hc h => hc ((implemented_code_iff c).mp h.1)
    cases c
    case getDevs =>
      refine hcase ?_ (by decide)
      intro frame hframe hresult
      cases hframe
      rw [packetCmd_replyDevIdList] at hresult
      exact absurd hresult (by decide)
    case getInfo =>
      have himpl : Implemented HsbCmd.getInfo.code := (implemented_code_iff _).mpr (by decide)
      simp only [himpl, true_and, forall_const]
      exact told_getInfo_iff cb (get32 buf 4)
    case getStatus => exact hcase (told_of_no_frame _ _) (by decide)
    case setStatus => exact hcase (told_of_no_frame _ _) (by decide)
    case probeDev => exact hcase (told_of_no_frame _ _) (by decide)
    case getTimer =>
      refine hcase (told_answer _ _ _ ?_ (SlotTable.get_error _ _ _ _)) (by decide)
      exact fun tm => packetCmd_ne_result (replyGetTimer_decodes zeros _ tm)
        (fun _ => PadMessage.noConfusion)
    case getDelay =>
      refine hcase (told_answer _ _ _ ?_ (SlotTable.get_error _ _ _ _)) (by decide)
      exact fun delay => packetCmd_ne_result (replyGetDelay_decodes zeros _ delay)
        (fun _ => PadMessage.noConfusion)
    case getLinkage =>
      refine hcase (told_answer _ _ _ ?_ (SlotTable.get_error _ _ _ _)) (by decide)
      exact fun link => packetCmd_ne_result (replyGetLinkage_decodes zeros _ link)
        (fun _ => PadMessage.noConfusion)
    case setTimer | setDelay | setLinkage =>
      exact hcase (told_confirm _ _ (SlotTable.set_error _ _ _ _)) (by decide)
    case delTimer | delDelay | delLinkage =>
      exact hcase (told_confirm _ _ (SlotTable.del_error _ _ _ _)) (by decide)
    case doAction =>
      refine hcase ?_ (by decide)
      cases haction : readAction buf with
      | ok act => exact told_of_no_frame _ _
      | error code =>
        exact told_result cb zeros code _ (tells_error (readAction_error buf code haction))
    all_goals exact iff_of_false hdefault (hother (by decide))

/-- The results of a call tell the truth exactly for the commands of the daemon, and
for GET_INFO only while the device is online. -/
theorem result_told_iff (cb : HsbDeviceCb ρ) (buf : Memory) (len : ℕ) (reply : ρ)
    (haccept : checkTcpPktValid buf len = 0) :
    ResultTold cb buf len reply ↔
      Implemented (get16 buf 0) ∧
        (get16 buf 0 = HsbCmd.getInfo.code → (findDev cb (get32 buf 4)).isSome) := by
  rw [← told_dispatchCmd_iff cb buf len reply]
  unfold ResultTold dealTcpPacket
  rw [if_neg (not_not.mpr haccept)]
  simp only [Option.map_eq_some_iff]
  constructor
  · exact fun h frame hframe => h frame.bytes ⟨frame, hframe, rfl⟩
  · rintro h packet ⟨frame, hframe, rfl⟩
    exact h frame hframe

/-- A client asks for the timer 0 of device 1 on a box without devices. -/
theorem result_told_iff_getTimer :
    ResultTold ({} : HsbDeviceCb Unit) (load [0x31, 0x88, 10, 0, 1, 0, 0, 0, 0, 0] zeros) 10 () ↔
      Implemented 0x8831 ∧ ((0x8831 : UInt16) = HsbCmd.getInfo.code →
        (findDev ({} : HsbDeviceCb Unit) 1).isSome) :=
  result_told_iff _ _ 10 () (by decide)

/-- Command 0x8803 is in the valid range and has no case: its RESULT packet says zero. -/
theorem unassigned_command_succeeds :
    checkTcpPktValid (load [0x03, 0x88, 4, 0] zeros) 4 = 0 ∧
      ¬ ResultTold ({} : HsbDeviceCb Unit) (load [0x03, 0x88, 4, 0] zeros) 4 () := by
  have haccept : checkTcpPktValid (load [0x03, 0x88, 4, 0] zeros) 4 = 0 := by decide
  refine ⟨haccept, ?_⟩
  have hcmd : get16 (load [0x03, 0x88, 4, 0] zeros) 0 = 0x8803 := by decide
  have hnone : HsbCmd.ofCode 0x8803 = none := by decide
  intro htold
  have htells := htold _ rfl (packetCmd_replyResult zeros 0)
  rw [packetResult_replyResult, hcmd, operationRet, hnone] at htells
  exact absurd rfl (ErrorCode.ne_ok htells)

end HomeSecurityBox.ResultCodes
