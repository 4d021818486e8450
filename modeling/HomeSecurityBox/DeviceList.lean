import HomeSecurityBox.RegistryRuns
import HomeSecurityBox.ReplyCodec

/-!
The answer to GET_DEVS. The ids are collected in an array of the dispatcher and
copied from there into its reply buffer; the first loop runs once for each online
device, and nothing compares their number with the size of the array.
-/

namespace HomeSecurityBox.DeviceList

open ByteMemory Protocol DeviceData Device Registry TcpPacket PadSim ReplyCodec Box RegistryRuns
open Transitions

variable {ρ : Type}

/-- The number of entries of the `dev_id` array. -/
abbrev devIdSize : ℕ := 128

/-- `dev_id[num] = pdev->id` along the queue; `none` is a write outside the array. -/
def fillDevId : List HsbDev → Vector UInt32 devIdSize → ℕ →
    Option (Vector UInt32 devIdSize × ℕ)
  | [], devId, num => some (devId, num)
  | pdev :: rest, devId, num =>
      if h : num < devIdSize then fillDevId rest (devId.set num pdev.id) (num + 1) else none

/-- The ids 0 to `n - 1` are written behind the header. -/
def encodeIds (devId : Vector UInt32 devIdSize) : ℕ → Memory → Option Memory
  | 0, buf => some buf
  | n + 1, buf =>
      (encodeIds devId n buf).bind fun buf =>
        (devId[n]?).bind fun id => put32 replyBufSize (4 + n * 4) id buf

/-- The frame of the reply, with checked accesses to both arrays; the id array starts
with whatever the stack holds. -/
def getDevsReply (cb : HsbDeviceCb ρ) (devId : Vector UInt32 devIdSize) : Option Frame :=
  (fillDevId cb.queue devId 0).bind fun filled =>
    let len := filled.2 * 4 + 4
    (encodeIds filled.1 filled.2 (makeCmdHdr zeros .getDevsResp len)).map fun buf => ⟨len, buf⟩

/-- The reply is built inside both arrays, has one entry for each online device, in
queue order, and the client reads exactly these. -/
def ListsDevices (cb : HsbDeviceCb ρ) (devId : Vector UInt32 devIdSize) : Prop :=
  ∃ frame, getDevsReply cb devId = some frame ∧ frame.len = 4 + 4 * cb.queue.length ∧
    Decodes replyBufSize frame (.devs (cb.queue.map HsbDev.id))

/-- The collecting loop stays inside the array while there is room for the rest. -/
theorem fillDevId_isSome_iff (queue : List HsbDev) (devId : Vector UInt32 devIdSize) (num : ℕ)
    (hnum : num ≤ devIdSize) :
    (fillDevId queue devId num).isSome ↔ num + queue.length ≤ devIdSize := by
  induction queue generalizing devId num with
  | nil => simpa [fillDevId] using hnum
  | cons pdev rest ih =>
    simp only [fillDevId, List.length_cons]
    by_cases h : num < devIdSize
    · rw [dif_pos h, ih _ _ (by omega)]
      omega
    · rw [dif_neg h]
      simp only [Option.isSome_none, Bool.false_eq_true, false_iff]
      omega

/-- What it leaves: the entries before `num` and the ids of the queue behind them. -/
theorem fillDevId_eq_some {queue : List HsbDev} {devId devId' : Vector UInt32 devIdSize}
    {num num' : ℕ} (h : fillDevId queue devId num = some (devId', num')) :
    num' = num + queue.length ∧
      devId'.toList.take num' = devId.toList.take num ++ queue.map HsbDev.id := by
  induction queue generalizing devId num with
  | nil =>
    obtain ⟨rfl, rfl⟩ := Prod.mk.inj (Option.some.inj h)
    simp
  | cons pdev rest ih =>
    unfold fillDevId at h
    split at h
    · rename_i hnum
      obtain ⟨hcount, htake⟩ := ih h
      refine ⟨by rw [hcount, List.length_cons]; omega, ?_⟩
      have hset : (devId.set num pdev.id).toList.take (num + 1) =
          devId.toList.take num ++ [pdev.id] := by
        have hlength : num < (devId.toList.set num pdev.id).length := by simpa using hnum
        rw [Vector.toList_set, List.take_succ_eq_append_getElem hlength, List.getElem_set_self,
          List.take_set_of_le (Nat.le_refl num)]
      rw [htake, hset, List.append_assoc]
      rfl
    · contradiction

/-- Inside the arrays the copying loop writes what the encoder of the reply writes. -/
theorem encodeIds_eq (devId : Vector UInt32 devIdSize) (n : ℕ) (buf : Memory)
    (hn : n ≤ devIdSize) :
    encodeIds devId n buf = some ((devId.toList.take n).zipIdx.foldl
      (fun buf entry => set32 buf (4 + entry.2 * 4) entry.1) buf) := by
  induction n with
  | zero => rfl
  | succ n ih =>
    have hlt : n < 128 := hn
    have hlength : n < devId.toList.length := by simpa using hlt
    have hfront : (devId.toList.take n).length = n := by
      rw [List.length_take]
      omega
    rw [encodeIds, ih (by omega), Option.bind_some, Vector.getElem?_eq_getElem hlt,
      Option.bind_some, put32, if_pos (by rw [replyBufSize]; omega),
      List.take_succ_eq_append_getElem hlength, List.zipIdx_append, List.foldl_append, hfront,
      Nat.zero_add]
    rfl

theorem getDevsReply_eq (cb : HsbDeviceCb ρ) (devId : Vector UInt32 devIdSize)
    (h : cb.queue.length ≤ devIdSize) :
    getDevsReply cb devId = some (replyDevIdList zeros (getDevIdList cb)) := by
  have hsome := (fillDevId_isSome_iff cb.queue devId 0 (Nat.zero_le _)).mpr (by omega)
  obtain ⟨⟨filled, num⟩, hfilled⟩ := Option.isSome_iff_exists.mp hsome
  obtain ⟨hnum, htake⟩ := fillDevId_eq_some hfilled
  rw [Nat.zero_add] at hnum
  rw [List.take_zero, List.nil_append] at htake
  have hlength : (getDevIdList cb).length = num := by rw [getDevIdList, List.length_map, hnum]
  simp only [getDevsReply, hfilled, Option.bind_some]
  rw [encodeIds_eq filled num _ (hnum ▸ h), Option.map_some, htake, replyDevIdList, hlength]
  rfl

theorem getDevsReply_none (cb : HsbDeviceCb ρ) (devId : Vector UInt32 devIdSize)
    (h : devIdSize < cb.queue.length) : getDevsReply cb devId = none := by
  have hnone : fillDevId cb.queue devId 0 = none := by
    rw [← Option.not_isSome_iff_eq_none, fillDevId_isSome_iff _ _ _ (Nat.zero_le _)]
    omega
  rw [getDevsReply, hnone, Option.bind_none]

/-- The dispatcher writes this frame. -/
theorem dealTcpPacket_getDevs (cb : HsbDeviceCb ρ) (devId : Vector UInt32 devIdSize)
    (buf : Memory) (len : ℕ) (reply : ρ) (haccept : checkTcpPktValid buf len = 0)
    (hcmd : get16 buf 0 = HsbCmd.getDevs.code) (hroom : cb.queue.length ≤ devIdSize) :
    (dealTcpPacket cb buf len reply).written = (getDevsReply cb devId).map Frame.bytes := by
  rw [getDevsReply_eq cb devId hroom, dealTcpPacket, if_neg (not_not.mpr haccept)]
  simp only [hcmd, dispatchCmd, HsbCmd.ofCode_code]

/-- The list is complete and in bounds exactly while at most 128 devices are online. -/
theorem listsDevices_iff (cb : HsbDeviceCb ρ) (devId : Vector UInt32 devIdSize) :
    ListsDevices cb devId ↔ cb.queue.length ≤ devIdSize := by
  constructor
  · rintro ⟨frame, hframe, -⟩
    by_contra hmany
    rw [getDevsReply_none cb devId (by omega)] at hframe
    contradiction
  · intro h
    have hlength : (getDevIdList cb).length = cb.queue.length := List.length_map _
    refine ⟨_, getDevsReply_eq cb devId h, ?_, ?_⟩
    · rw [replyDevIdList, hlength, Nat.mul_comm, Nat.add_comm]
    · exact replyDevIdList_decodes zeros (getDevIdList cb) (hlength ▸ h)

/-- In the registries that the drivers build up, the id of an online device is in the
list once. -/
theorem online_id_once {s : BoxState ρ} (hs : Accounted s) {dev : HsbDev}
    (hdev : dev ∈ s.cb.queue) : (s.cb.queue.map HsbDev.id).count dev.id = 1 :=
  List.count_eq_one_of_mem hs.online_ids (List.mem_map_of_mem hdev)

/-- The address of the i-th device of a large installation. -/
def crowdMac (i : ℕ) : Vector UInt8 8 := #v[UInt8.ofNat i, 0, 0, 0, 0, 0, 0, 0]

def crowdSteps (n : ℕ) : List (BoxStep ρ) :=
  (List.range n).map fun i =>
    .online 1 { cls := 1, mac := crowdMac i } (some .virtualSwitchOp)

/-- Every new device is admitted and stays online. -/
theorem crowd_run (n : ℕ) :
    ∃ s : BoxState ρ, run boxStep (BoxState.start [⟨1⟩]) (crowdSteps n) = some s ∧
      s.cb.driverq = [⟨1⟩] ∧ s.cb.offq = [] ∧
      s.cb.queue.map devKey = (List.range n).map fun i => (1, crowdMac i) := by
  induction n with
  | zero => exact ⟨BoxState.start [⟨1⟩], rfl, rfl, rfl, rfl⟩
  | succ n ih =>
    obtain ⟨s, hrun, hdrivers, hoffq, hkeys⟩ := ih
    have hdrv : findDrv s.cb 1 = some ⟨1⟩ := by
      rw [findDrv, hdrivers]
      rfl
    have hsteps : (crowdSteps (n + 1) : List (BoxStep ρ)) = crowdSteps n ++
        [.online 1 { cls := 1, mac := crowdMac n } (some .virtualSwitchOp)] := by
      rw [crowdSteps, List.range_succ, List.map_append]
      rfl
    have honline : ∃ done, devOnline s.cb 1 { cls := 1, mac := crowdMac n }
        (some .virtualSwitchOp) = some done := by
      simp only [devOnline, hoffq, hdrv, List.getElem?_nil, Option.map_some]
      exact ⟨_, rfl⟩
    obtain ⟨done, hdone⟩ := honline
    have hstep : boxStep s (.online 1 { cls := 1, mac := crowdMac n } (some .virtualSwitchOp)) =
        some { s with
          cb := done.cb
          assigned := ((1, crowdMac n), done.devid) :: s.assigned } := by
      simp only [boxStep, hdone, Option.map_some]
    refine ⟨_, by rw [hsteps, run_append, hrun, Option.bind_some, run, hstep]; rfl, ?_⟩
    rcases devOnline_eq_some hdone with ⟨i, dev, acts, hdev, -⟩ |
      ⟨-, drv, dev, acts, hfound, hdev, -, hcb⟩
    · rw [hoffq, List.getElem?_nil] at hdev
      contradiction
    · have hid : drv = ⟨1⟩ := Option.some.inj (hfound.symm.trans hdrv)
      have hkey : devKey dev = (1, crowdMac n) := by rw [hdev, hid, devKey]
      refine ⟨by rw [hcb]; exact hdrivers, by rw [hcb]; exact hoffq, ?_⟩
      rw [hcb, List.map_append, hkeys, List.range_succ, List.map_append, List.map_singleton,
        List.map_singleton, hkey]

theorem crowdMac_injective {i j : ℕ} (hi : i < 256) (hj : j < 256)
    (h : crowdMac i = crowdMac j) : i = j := by
  have hbyte : UInt8.ofNat i = UInt8.ofNat j := by
    simpa [crowdMac] using congrArg (fun mac : Vector UInt8 8 => mac[0]) h
  have htoNat := congrArg UInt8.toNat hbyte
  simp only [UInt8.toNat_ofNat'] at htoNat
  omega

/-- Nothing keeps 129 devices with different addresses from being online; then the id
array is overrun. -/
theorem crowd_overruns :
    ∃ s : BoxState Unit, run boxStep (BoxState.start [⟨1⟩]) (crowdSteps 129) = some s ∧
      s.cb.queue.length = 129 ∧ (s.cb.queue.map devKey).Nodup ∧
      ¬ ListsDevices s.cb (Vector.replicate devIdSize 0) := by
  obtain ⟨s : BoxState Unit, hrun, -, -, hkeys⟩ := crowd_run 129
  have hlength : s.cb.queue.length = 129 := by
    rw [← List.length_map devKey, hkeys, List.length_map, List.length_range]
  refine ⟨s, hrun, hlength, ?_, ?_⟩
  · rw [hkeys]
    refine List.Nodup.map_on ?_ List.nodup_range
    intro i hi j hj heq
    rw [List.mem_range] at hi hj
    exact crowdMac_injective (by omega) (by omega) (Prod.mk.inj heq).2
  · rintro ⟨frame, hframe, -⟩
    rw [getDevsReply_none _ _ (by rw [hlength]; decide)] at hframe
    exact absurd hframe.symm (Option.some_ne_none frame)

end HomeSecurityBox.DeviceList
