import HomeSecurityBox.DevAct
import HomeSecurityBox.Notify
import HomeSecurityBox.TcpPacket
import HomeSecurityBox.VirtualSwitch
import HomeSecurityBox.Zigbee

/-!
A status from the device to the client. The pair limit of the reading loops is
the `num` of the caller, and the act that GET_STATUS queues leaves it zero: both
drivers store the first pair and stop.
-/

namespace HomeSecurityBox.StatusRelay

open ByteMemory Protocol DeviceData Device TcpPacket DevAct Notify StatusCodec

variable {ρ : Type}

/-- The devices of both drivers and what their radios receive. -/
structure Radios where
  vsQueue : List VirtualSwitch.VsDev
  transfer : VirtualSwitch.Transfer
  czQueue : List Zigbee.CzDev
  wake : Option (Memory × ℕ)

/-- The driver calls with both `get_status` operations in place. -/
def driverCalls (others : DriverCalls) (radios : Radios) : DriverCalls :=
  { others with
    getStatus := fun op status =>
      match op with
      | .virtualSwitchOp =>
          VirtualSwitch.virtualSwitchGetStatus radios.vsQueue radios.transfer status
      | .sampleOp => Zigbee.sampleGetStatus radios.czQueue radios.wake status }

/-- A well-formed status response of a device: its length field is the number of
bytes received, and one to eight pairs follow the header. -/
structure StatusResponse (cmd : UInt16) (pairs : List (UInt16 × UInt16)) (ptr : Memory)
    (len : ℕ) : Prop where
  cmd : get16 ptr 0 = cmd
  size : (get16 ptr 2).toNat = len
  total : len = 4 + 4 * pairs.length
  nonempty : 1 ≤ pairs.length
  fits : pairs.length ≤ 8
  pair : ∀ (i : ℕ) (hi : i < pairs.length),
    get16 ptr (4 + 4 * i) = (pairs[i]).1 ∧ get16 ptr (6 + 4 * i) = (pairs[i]).2

/-- The device with this id is known to its driver and answers with these pairs. -/
def Answers (radios : Radios) (devid : UInt32) (pairs : List (UInt16 × UInt16)) :
    HsbDevOp → Prop
  | .virtualSwitchOp =>
      ∃ (dev : VirtualSwitch.VsDev) (ret : ℕ) (rbuf : Memory),
        VirtualSwitch.findDevById radios.vsQueue devid = some dev ∧
        radios.transfer dev.ip VirtualSwitch.getStatusFrame.bytes = ((ret : ℤ), rbuf) ∧
        StatusResponse VirtualSwitch.VsCmd.getStatusResp.code pairs rbuf ret
  | .sampleOp =>
      ∃ (dev : Zigbee.CzDev) (recvBuf : Memory) (len : ℕ),
        Zigbee.findDevById radios.czQueue devid = some dev ∧
        radios.wake = some (recvBuf, Zigbee.czHeaderLen + len) ∧
        StatusResponse Zigbee.CzCmd.getStatusResp.code pairs
          (shift recvBuf Zigbee.czHeaderLen) len

/-- The GET_STATUS_RESP frame with this device id and exactly these pairs. -/
structure CarriesStatus (frame : Frame) (devid : UInt32) (pairs : List (UInt16 × UInt16)) :
    Prop where
  cmd : get16 frame.buf 0 = HsbCmd.getStatusResp.code
  devid : get32 frame.buf 4 = devid
  len : frame.len = 8 + 4 * pairs.length
  size : (get16 frame.buf 2).toNat = 8 + 4 * pairs.length
  pair : ∀ (i : ℕ) (hi : i < pairs.length),
    get16 frame.buf (8 + 4 * i) = (pairs[i]).1 ∧ get16 frame.buf (10 + 4 * i) = (pairs[i]).2

/-- The status of a fresh request after its first pair is stored. -/
def firstPairStatus (devid : UInt32) (pair : UInt16 × UInt16) : HsbStatus :=
  HsbStatus.ofPair devid pair.1 pair.2

theorem decodeStatus_response {cmd : UInt16} {pairs : List (UInt16 × UInt16)} {ptr : Memory}
    {len : ℕ} (h : StatusResponse cmd pairs ptr len) (devid : UInt32) (hpos : 0 < pairs.length) :
    decodeStatus ptr len { devid := devid } =
      some (firstPairStatus devid (pairs[0])) := by
  have hlen : 8 ≤ len := by
    have htotal := h.total
    omega
  obtain ⟨hid, hval⟩ := h.pair 0 hpos
  rw [decodeStatus_of_num_zero ptr len { devid := devid } rfl hlen, firstPairStatus, ← hid,
    ← hval]
  rfl

/-- Both drivers return the first pair of a well-formed response. -/
theorem getStatus_of_answers (others : DriverCalls) (radios : Radios) (devid : UInt32)
    (pairs : List (UInt16 × UInt16)) (op : HsbDevOp) (h : Answers radios devid pairs op) :
    ∃ hpos : 0 < pairs.length,
      (driverCalls others radios).getStatus op { devid := devid } =
        some (HsbErrorNo.ok.code, firstPairStatus devid (pairs[0])) := by
  cases op with
  | virtualSwitchOp =>
    obtain ⟨dev, ret, rbuf, hdev, htransfer, hresp⟩ := h
    refine ⟨hresp.nonempty, ?_⟩
    have hmin : ¬ ((ret : ℤ) < VirtualSwitch.minVsCmdLen) := by
      have htotal := hresp.total
      simp only [VirtualSwitch.minVsCmdLen]
      omega
    simp only [driverCalls, VirtualSwitch.virtualSwitchGetStatus, hdev, htransfer, hresp.cmd,
      hresp.size, if_neg hmin, ne_eq, not_true_eq_false, or_self, if_false,
      decodeStatus_response hresp devid hresp.nonempty, Option.map_some]
  | sampleOp =>
    obtain ⟨dev, recvBuf, len, hdev, hwake, hresp⟩ := h
    refine ⟨hresp.nonempty, ?_⟩
    have hlen : ((Zigbee.czHeaderLen + len : ℕ) : ℤ) - (Zigbee.czHeaderLen : ℤ) = len := by
      omega
    simp only [driverCalls, Zigbee.sampleGetStatus, hdev, hwake, Zigbee.statusResult,
      hresp.cmd, hresp.size, hlen, ne_eq, not_true_eq_false, or_self, if_false,
      decodeStatus_response hresp devid hresp.nonempty, Option.map_some]

/-- The response of the worker to a GET_STATUS act of a client. -/
theorem processDevAct_getStatus (cb : HsbDeviceCb ρ) (others : DriverCalls) (radios : Radios)
    (devid : UInt32) (reply : ρ) (dev : HsbDev) (op : HsbDevOp)
    (pairs : List (UInt16 × UInt16)) (honline : findDev cb devid = some dev)
    (hop : dev.op = some op) (hanswer : Answers radios devid pairs op) :
    ∃ hpos : 0 < pairs.length,
      processDevAct cb (driverCalls others radios)
          ⟨.getStatus { devid := devid }, some reply⟩ =
        some ⟨cb, [⟨.status (firstPairStatus devid (pairs[0])), some reply⟩]⟩ := by
  obtain ⟨hpos, hget⟩ := getStatus_of_answers others radios devid pairs op hanswer
  refine ⟨hpos, ?_⟩
  simp only [processDevAct, DevAct.getDevStatus, honline, hop, hget, Option.map_some, statusNotices,
    ne_eq, not_true_eq_false, if_false]

theorem dealTcpPacket_getStatus (cb : HsbDeviceCb ρ) (buf : Memory) (len : ℕ) (reply : ρ)
    (haccept : checkTcpPktValid buf len = 0) (hcmd : get16 buf 0 = HsbCmd.getStatus.code) :
    (dealTcpPacket cb buf len reply).cb.asyncQueue =
      cb.asyncQueue ++ [⟨.getStatus { devid := get32 buf 4 }, some reply⟩] := by
  rw [dealTcpPacket_asyncQueue cb buf len reply haccept, hcmd]
  simp only [dispatchActs, HsbCmd.ofCode_code]

/-- The frame of the first pair carries the whole response exactly when there is
no second pair. -/
theorem carriesStatus_firstPair_iff (devid : UInt32) (pairs : List (UInt16 × UInt16))
    (hpos : 0 < pairs.length) (reply : Option ρ) :
    ∃ frame, makeNotifyResp ⟨.status (firstPairStatus devid (pairs[0])), reply⟩ = some frame ∧
      (CarriesStatus frame devid pairs ↔ pairs.length = 1) := by
  have hnum : (firstPairStatus devid (pairs[0])).num.toNat = 1 := rfl
  obtain ⟨frame, hframe, hlen, hcmd, hsize, hdevid, hpairs⟩ :=
    makeNotifyResp_status (firstPairStatus devid (pairs[0])) reply (by omega)
  rw [hnum] at hlen hpairs
  refine ⟨frame, hframe, ?_⟩
  constructor
  · intro hcarries
    have hcarried := hcarries.len
    omega
  · intro hone
    refine ⟨hcmd, hdevid, by omega, by omega, ?_⟩
    intro i hi
    obtain rfl : i = 0 := by omega
    obtain ⟨_, hid, hval⟩ := hpairs 0 Nat.one_pos
    exact ⟨hid, hval⟩

/-- For every GET_STATUS packet of a client, every online device of either driver
and every well-formed response of the device, the worker answers the client with
one status frame. The frame carries the device id and exactly the pairs of the
response if and only if the response has a single pair. -/
theorem status_relay_iff (cb cb' : HsbDeviceCb ρ) (buf : Memory) (len : ℕ) (reply : ρ)
    (others : DriverCalls) (radios : Radios) (dev : HsbDev) (op : HsbDevOp)
    (pairs : List (UInt16 × UInt16)) (haccept : checkTcpPktValid buf len = 0)
    (hcmd : get16 buf 0 = HsbCmd.getStatus.code)
    (honline : findDev cb' (get32 buf 4) = some dev) (hop : dev.op = some op)
    (hanswer : Answers radios (get32 buf 4) pairs op) :
    ∃ act resp frame,
      (dealTcpPacket cb buf len reply).cb.asyncQueue = cb.asyncQueue ++ [act] ∧
        processDevAct cb' (driverCalls others radios) act = some ⟨cb', [resp]⟩ ∧
        resp.reply = some reply ∧ makeNotifyResp resp = some frame ∧
        (CarriesStatus frame (get32 buf 4) pairs ↔ pairs.length = 1) := by
  obtain ⟨hpos, hprocess⟩ := processDevAct_getStatus cb' others radios (get32 buf 4) reply dev
    op pairs honline hop hanswer
  obtain ⟨frame, hframe, hcarries⟩ :=
    carriesStatus_firstPair_iff (get32 buf 4) pairs hpos (some reply)
  exact ⟨_, _, frame, dealTcpPacket_getStatus cb buf len reply haccept hcmd, hprocess, rfl,
    hframe, hcarries⟩

/-- GET_STATUS for device 1. -/
def getStatusPacket : Memory := load [0x21, 0x88, 8, 0, 1, 0, 0, 0] zeros

def switchDev : HsbDev where
  id := 1
  info := {}
  driver := ⟨1⟩
  op := some .virtualSwitchOp

def switchBox : HsbDeviceCb ℕ := { queue := [switchDev] }

/-- The one virtual switch answers every request with these bytes. -/
def switchRadios (response : List UInt8) : Radios where
  vsQueue := [{ id := 1, ip := 0 }]
  transfer := fun _ _ => (response.length, load response zeros)
  czQueue := []
  wake := none

def idleCalls : DriverCalls where
  probe := fun _ => 0
  getStatus := fun _ status => some (0, status)
  setStatus := fun _ _ => some 0
  setAction := fun _ _ => 0

/-- On/off is 1. -/
def onePairResponse : List UInt8 := [0x22, 0x89, 8, 0, 0, 0, 1, 0]

/-- On/off is 1 and the brightness is 50. -/
def twoPairResponse : List UInt8 := [0x22, 0x89, 12, 0, 0, 0, 1, 0, 1, 0, 50, 0]

theorem onePair_answers :
    Answers (switchRadios onePairResponse) 1 [(0, 1)] .virtualSwitchOp := by
  refine ⟨{ id := 1, ip := 0 }, 8, load onePairResponse zeros, rfl, rfl, ?_⟩
  refine ⟨by decide, by decide, by decide, by decide, by decide, ?_⟩
  intro i hi
  obtain rfl : i = 0 := Nat.lt_one_iff.mp hi
  exact ⟨rfl, rfl⟩

theorem twoPair_answers :
    Answers (switchRadios twoPairResponse) 1 [(0, 1), (1, 50)] .virtualSwitchOp := by
  refine ⟨{ id := 1, ip := 0 }, 12, load twoPairResponse zeros, rfl, rfl, ?_⟩
  refine ⟨by decide, by decide, by decide, by decide, by decide, ?_⟩
  intro i hi
  rcases Nat.le_one_iff_eq_zero_or_eq_one.mp (Nat.le_of_lt_succ hi) with rfl | rfl
  · exact ⟨rfl, rfl⟩
  · exact ⟨rfl, rfl⟩

theorem single_pair_relayed :
    ∃ act resp frame,
      (dealTcpPacket switchBox getStatusPacket 8 0).cb.asyncQueue =
          switchBox.asyncQueue ++ [act] ∧
        processDevAct switchBox (driverCalls idleCalls (switchRadios onePairResponse)) act =
          some ⟨switchBox, [resp]⟩ ∧
        resp.reply = some 0 ∧ makeNotifyResp resp = some frame ∧
        (CarriesStatus frame (get32 getStatusPacket 4) [(0, 1)] ↔
          ([(0, 1)] : List (UInt16 × UInt16)).length = 1) :=
  status_relay_iff switchBox switchBox getStatusPacket 8 0 idleCalls
    (switchRadios onePairResponse) switchDev .virtualSwitchOp [(0, 1)] (by decide) (by decide)
    rfl rfl onePair_answers

/-- The second pair of a response does not reach the client. -/
theorem second_pair_lost :
    Answers (switchRadios twoPairResponse) 1 [(0, 1), (1, 50)] .virtualSwitchOp ∧
      ∃ act resp frame,
        (dealTcpPacket switchBox getStatusPacket 8 0).cb.asyncQueue = [act] ∧
          processDevAct switchBox (driverCalls idleCalls (switchRadios twoPairResponse)) act =
            some ⟨switchBox, [resp]⟩ ∧
          resp.reply = some 0 ∧ makeNotifyResp resp = some frame ∧
          ¬ CarriesStatus frame 1 [(0, 1), (1, 50)] := by
  obtain ⟨hpos, hprocess⟩ := processDevAct_getStatus switchBox idleCalls
    (switchRadios twoPairResponse) 1 0 switchDev .virtualSwitchOp [(0, 1), (1, 50)] rfl rfl
    twoPair_answers
  obtain ⟨frame, hframe, hcarries⟩ :=
    carriesStatus_firstPair_iff 1 [(0, 1), (1, 50)] hpos (some 0)
  have hqueued := dealTcpPacket_getStatus switchBox getStatusPacket 8 0 (by decide) (by decide)
  refine ⟨twoPair_answers, _, _, frame, hqueued, hprocess, rfl, hframe, ?_⟩
  intro hall
  exact absurd (hcarries.mp hall) (by decide)

end HomeSecurityBox.StatusRelay
