import HomeSecurityBox.Base.Flow
import HomeSecurityBox.CommandRelay
import HomeSecurityBox.StaleBytes

/-!
The simulated switch at the other end of the virtual switch driver. It answers every
request at once, tells the whole network when its status changes, and takes commands
from its keyboard. Between the driver and the device the datagrams can be lost.
-/

namespace HomeSecurityBox.SwitchSim

open ByteMemory Protocol DeviceData StatusCodec VirtualSwitch VsDriver StaleBytes Transitions

variable {ρ : Type}

def cmdOfCode (code : UInt16) : Option VsCmd :=
  [VsCmd.deviceDiscover, .deviceDiscoverResp, .getInfo, .getInfoResp, .getStatus,
    .getStatusResp, .setStatus, .statusChanged, .event, .doAction, .keepAlive, .result].find?
      fun cmd => cmd.code == code

theorem cmdOfCode_code (cmd : VsCmd) : cmdOfCode cmd.code = some cmd := by
  cases cmd <;> rfl

/-- `status_on_off` and the buffer of `main`, which keeps what it last read. -/
structure SimState where
  statusOnOff : UInt16 := 0
  buf : Memory := zeros

def mac : List UInt8 := [0x01, 0x02, 0x03, 0x04, 0x05, 0x06]

/-- What a packet or a command makes of the status, the answer and the packet for the
whole network. -/
structure Handled where
  statusOnOff : UInt16
  reply : Option (List UInt8) := none
  announced : Option (List UInt8) := none
  deriving DecidableEq, Repr

def statusChanged (statusOnOff : UInt16) : List UInt8 :=
  take (set16 (set16 (cmdHeader .statusChanged 8) 4 0) 6 statusOnOff) 8

def discoverResp : List UInt8 :=
  let rbuf := cmdHeader .deviceDiscoverResp 32
  let rbuf := set8 (set8 rbuf 4 0) 5 1
  take (store mac 12 (set16 (set16 rbuf 8 0) 10 0)) 32

def infoResp : List UInt8 :=
  take (store mac 8 (set16 (set16 (cmdHeader .getInfoResp 28) 4 0) 6 0)) 28

def statusResp (statusOnOff : UInt16) : List UInt8 :=
  take (set16 (set16 (cmdHeader .getStatusResp 8) 4 0) 6 statusOnOff) 8

def result (value : UInt16) : List UInt8 := take (set16 (cmdHeader .result 8) 4 value) 8

/-- A packet of the wrong length gets no answer, a status that is not supported an
empty one. -/
def dealUdpPkt (statusOnOff : UInt16) (buf : Memory) (count : ℕ) : Handled :=
  if (get16 buf 2).toNat ≠ count then { statusOnOff := statusOnOff }
  else
    match cmdOfCode (get16 buf 0) with
    | some .deviceDiscover => { statusOnOff := statusOnOff, reply := some discoverResp }
    | some .getInfo => { statusOnOff := statusOnOff, reply := some infoResp }
    | some .getStatus => { statusOnOff := statusOnOff, reply := some (statusResp statusOnOff) }
    | some .setStatus =>
        if get16 buf 4 ≠ 0 then { statusOnOff := statusOnOff, reply := some [] }
        else
          { statusOnOff := get16 buf 6
            reply := some (result 1)
            announced :=
              if get16 buf 6 ≠ statusOnOff then some (statusChanged (get16 buf 6)) else none }
    | some .doAction => { statusOnOff := statusOnOff, reply := some (result 1) }
    | some .keepAlive =>
        { statusOnOff := statusOnOff, reply := some (take (cmdHeader .keepAlive 4) 4) }
    | _ => { statusOnOff := statusOnOff, reply := some (result 0) }

/-- What `sscanf` finds in a line from the keyboard. -/
inductive Typed
  | status (val : UInt32)
  | sensor (val : UInt32)
  | key (val : UInt32)
  | other
  deriving DecidableEq, Repr

/-- The number that is typed has 32 bits, the status 16. -/
def dealInputCmd (statusOnOff : UInt16) : Typed → Handled
  | .status val =>
      if statusOnOff.toUInt32 = val then { statusOnOff := statusOnOff }
      else { statusOnOff := val.toUInt16, announced := some (statusChanged val.toUInt16) }
  | .sensor val =>
      { statusOnOff := statusOnOff
        announced :=
          some (take (set16 (set16 (cmdHeader .event 8) 4 (if val = 0 then 1 else 0)) 6 0) 8) }
  | .key val =>
      { statusOnOff := statusOnOff
        announced := some (take (set16 (set16 (cmdHeader .event 8) 4 2) 6 val.toUInt16) 8) }
  | .other => { statusOnOff := statusOnOff }

/-- One datagram in the loop of `main`; `recvfrom` cuts it off at 1024 bytes, and an
empty one is passed over. -/
def recvPacket (s : SimState) (bytes : List UInt8) : SimState × Handled :=
  let bytes := bytes.take 1024
  if bytes.length = 0 then (s, { statusOnOff := s.statusOnOff })
  else
    let buf := load bytes s.buf
    let done := dealUdpPkt s.statusOnOff buf bytes.length
    ({ statusOnOff := done.statusOnOff, buf := buf }, done)

/-- One line from the keyboard, up to 1023 bytes with the NUL behind it. -/
def readInput (scan : List UInt8 → Typed) (s : SimState) (text : List UInt8) :
    SimState × Handled :=
  let text := text.take 1023
  let done := dealInputCmd s.statusOnOff (scan text)
  ({ statusOnOff := done.statusOnOff, buf := set8 (load text s.buf) text.length 0 }, done)

/-- What the network does to a request, to its answer and to what the switch announces,
and what the receive buffer of the driver held before. -/
structure Exchange where
  request : Bool
  reply : Bool
  heard : Bool
  rbuf : Memory

structure Conversation (ρ : Type) where
  sim : SimState
  thread : VsThread ρ

/-- An operation of the driver, a line typed at the switch, a packet of some other host
and a step of the monitor thread. -/
inductive ConvStep (ρ : Type)
  | setStatus (status : HsbStatus) (net : Exchange)
  | getStatus (status : HsbStatus) (net : Exchange)
  | setAction (act : HsbAction) (net : Exchange)
  | typed (text : List UInt8) (heard : Bool)
  | packet (bytes : List UInt8) (heard : Bool)
  | thread (a : VsThreadStep ρ)

/-- `_transfer` with the switch at the other end; without an answer in time, or with an
empty one, it returns -1. -/
def simTransfer (s : SimState) (simAddr : UInt32) (net : Exchange) : Transfer := fun addr frame =>
  let answer :=
    if addr = simAddr ∧ net.request = true ∧ net.reply = true then (recvPacket s frame).2.reply
    else none
  match answer with
  | none => (-1, net.rbuf)
  | some bytes =>
      let bytes := bytes.take 64
      if bytes.length = 0 then (-1, net.rbuf) else (bytes.length, load bytes net.rbuf)

/-- The switch has handled something, and the monitor thread gets what it announces. -/
def deliver (simAddr : UInt32) (thread : VsThread ρ) (heard : Bool) (done : SimState × Handled) :
    Option (Conversation ρ) :=
  match done.2.announced, heard with
  | some bytes, true =>
      (vsThreadStep thread (.datagram simAddr bytes)).map fun thread => ⟨done.1, thread⟩
  | _, _ => some ⟨done.1, thread⟩

/-- The driver sends a request for this device to the switch. -/
def addressed (simAddr : UInt32) (s : Conversation ρ) (devid : UInt32) : Bool :=
  (findDevById s.thread.drv.queue devid).any fun dev => dev.ip == simAddr

/-- A request of the driver, where the network carries it to the switch. -/
def requestStep (simAddr : UInt32) (s : Conversation ρ) (devid : UInt32) (net : Exchange)
    (frame : List UInt8) : Option (Conversation ρ) :=
  if addressed simAddr s devid ∧ net.request = true then
    deliver simAddr s.thread net.heard (recvPacket s.sim frame)
  else some s

def convStep (scan : List UInt8 → Typed) (simAddr : UInt32) (s : Conversation ρ) :
    ConvStep ρ → Option (Conversation ρ)
  | .setStatus status net =>
      (setStatusFrame status).bind fun frame =>
        requestStep simAddr s status.devid net frame.bytes
  | .getStatus status net => requestStep simAddr s status.devid net getStatusFrame.bytes
  | .setAction act net => requestStep simAddr s act.devid net (setActionFrame act).bytes
  | .typed text heard => deliver simAddr s.thread heard (readInput scan s.sim text)
  | .packet bytes heard => deliver simAddr s.thread heard (recvPacket s.sim bytes)
  | .thread a => (vsThreadStep s.thread a).map fun thread => { s with thread := thread }

theorem firstPair_lt : 0 < 8 := by decide

def firstId (status : HsbStatus) : UInt16 := status.id.get ⟨0, firstPair_lt⟩

def firstVal (status : HsbStatus) : UInt16 := status.val.get ⟨0, firstPair_lt⟩

/-- A status was set with HSB_E_OK, was read, or came with a status event. -/
inductive Shown
  | accepted (id val : UInt16)
  | read (num : UInt32) (id val : UInt16)
  | announced (id val : UInt16)
  deriving DecidableEq, Repr

def statusRaised : Option Raised → List Shown
  | some (.status _ id val) => [.announced id val]
  | _ => []

/-- What the monitor thread makes of an announcement. -/
def heardStatus (simAddr : UInt32) (s : Conversation ρ) (heard : Bool) (done : Handled) :
    List Shown :=
  match done.announced, heard with
  | some bytes, true => statusRaised (raisedByDatagram s.thread simAddr bytes)
  | _, _ => []

def requestHeard (simAddr : UInt32) (s : Conversation ρ) (devid : UInt32) (net : Exchange)
    (frame : List UInt8) : List Shown :=
  if addressed simAddr s devid ∧ net.request = true then
    heardStatus simAddr s net.heard (recvPacket s.sim frame).2
  else []

def acceptedStatus (status : HsbStatus) (ret : Option ℤ) : List Shown :=
  if ret = some HsbErrorNo.ok.code then [.accepted (firstId status) (firstVal status)] else []

def readStatus (answer : Option (ℤ × HsbStatus)) : List Shown :=
  match answer with
  | some (ret, status) =>
      if ret = HsbErrorNo.ok.code then [.read status.num (firstId status) (firstVal status)]
      else []
  | none => []

def shownBy (scan : List UInt8 → Typed) (simAddr : UInt32) (s : Conversation ρ) :
    ConvStep ρ → List Shown
  | .setStatus status net =>
      acceptedStatus status
          (virtualSwitchSetStatus s.thread.drv.queue (simTransfer s.sim simAddr net) status) ++
        (setStatusFrame status).elim [] fun frame =>
          requestHeard simAddr s status.devid net frame.bytes
  | .getStatus status net =>
      readStatus
          (virtualSwitchGetStatus s.thread.drv.queue (simTransfer s.sim simAddr net) status) ++
        requestHeard simAddr s status.devid net getStatusFrame.bytes
  | .setAction act net => requestHeard simAddr s act.devid net (setActionFrame act).bytes
  | .typed text heard => heardStatus simAddr s heard (readInput scan s.sim text).2
  | .packet bytes heard => heardStatus simAddr s heard (recvPacket s.sim bytes).2
  | .thread _ => []

/-- A write of the register, with what the box notices of it, and a read. -/
inductive Access
  | write (val : UInt32) (acked heard : Bool)
  | read
  | other
  deriving DecidableEq, Repr

/-- One register of 16 bits. A write that gives the low half of a different number is
announced. -/
def register : Reference UInt16 Access Shown where
  next reg
    | .write val _ _ => val.toUInt16
    | _ => reg
  shown reg
    | .write val acked heard =>
        (if acked then [.accepted 0 val.toUInt16] else []) ++
          if heard ∧ val ≠ reg.toUInt32 then [.announced 0 val.toUInt16] else []
    | .read => [.read 1 0 reg]
    | .other => []

/-- The value that a packet sets. -/
def packetWrite (s : SimState) (bytes : List UInt8) : Option UInt16 :=
  let bytes := bytes.take 1024
  let buf := load bytes s.buf
  if bytes.length ≠ 0 ∧ (get16 buf 2).toNat = bytes.length ∧
      get16 buf 0 = VsCmd.setStatus.code ∧ get16 buf 4 = 0 then some (get16 buf 6)
  else none

def known (simAddr : UInt32) (s : Conversation ρ) : Bool :=
  (findDevByIp s.thread.drv.queue simAddr).isSome

def access (scan : List UInt8 → Typed) (simAddr : UInt32) (s : Conversation ρ) :
    ConvStep ρ → Access
  | .setStatus status net =>
      if (addressed simAddr s status.devid ∧ net.request = true) ∧ firstId status = 0 then
        .write (firstVal status).toUInt32 net.reply (net.heard && known simAddr s)
      else .other
  | .getStatus status net =>
      if (addressed simAddr s status.devid ∧ net.request = true) ∧ net.reply = true then .read
      else .other
  | .typed text heard =>
      match scan (text.take 1023) with
      | .status val => .write val false (heard && known simAddr s)
      | _ => .other
  | .packet bytes heard =>
      match packetWrite s.sim bytes with
      | some val => .write val.toUInt32 false (heard && known simAddr s)
      | none => .other
  | _ => .other

/-- A request to set a status names one. -/
def NamesStatus (a : ConvStep ρ) : Prop :=
  ∀ status net, a = .setStatus status net → 1 ≤ status.num.toNat

theorem fields_of_packet (cmd : VsCmd) (len : ℕ) (v w : UInt16) {n : ℕ} {m : Memory} (hn : 8 ≤ n)
    (h : AgreeBelow n m (set16 (set16 (cmdHeader cmd len) 4 v) 6 w)) :
    get16 m 0 = cmd.code ∧ get16 m 2 = UInt16.ofNat len ∧ get16 m 4 = v ∧ get16 m 6 = w := by
  refine ⟨?_, ?_, ?_, ?_⟩
  · rw [h.get16 (by omega), get16_set16_other _ _ _ _ (by omega),
      get16_set16_other _ _ _ _ (by omega), CommandRelay.cmdHeader_cmd]
  · rw [h.get16 (by omega), get16_set16_other _ _ _ _ (by omega),
      get16_set16_other _ _ _ _ (by omega), CommandRelay.cmdHeader_len]
  · rw [h.get16 (by omega), get16_set16_other _ _ _ _ (by omega), get16_set16]
  · rw [h.get16 (by omega), get16_set16]

theorem received_statusChanged (v : UInt16) : received (statusChanged v) = statusChanged v := by
  apply List.take_of_length_le
  rw [statusChanged, take_length]
  omega

theorem raised_statusChanged (thread : VsThread ρ) (simAddr : UInt32) (v : UInt16) :
    raisedByDatagram thread simAddr (statusChanged v) =
      (findDevByIp thread.drv.queue simAddr).map fun dev => .status dev.id 0 v := by
  have hlen : (statusChanged v).length = 8 := take_length _ _
  obtain ⟨hcmd, hsize, hid, hval⟩ :=
    fields_of_packet .statusChanged 8 0 v (Nat.le_refl 8) (load_take_agree _ thread.rbuf 8)
  unfold raisedByDatagram vsRaised
  rw [received_statusChanged, hlen, statusChanged, hsize, if_neg (by decide)]
  cases findDevByIp thread.drv.queue simAddr with
  | none => rfl
  | some dev =>
    rw [Option.bind_some, vsCall, if_pos hcmd, hid, hval]
    rfl

theorem heardStatus_statusChanged (simAddr : UInt32) (s : Conversation ρ) (heard : Bool)
    {done : Handled} {changed : Prop} [Decidable changed] {v : UInt16}
    (h : done.announced = if changed then some (statusChanged v) else none) :
    heardStatus simAddr s heard done =
      if (heard && known simAddr s) = true ∧ changed then [.announced 0 v] else [] := by
  unfold heardStatus known
  rw [h]
  by_cases hchanged : changed
  · cases heard
    · simp [hchanged]
    · simp only [hchanged, if_true, raised_statusChanged, Bool.true_and, and_true]
      cases findDevByIp s.thread.drv.queue simAddr <;> rfl
  · simp [hchanged]

theorem heardStatus_none (simAddr : UInt32) (s : Conversation ρ) (heard : Bool) {done : Handled}
    (h : done.announced = none) : heardStatus simAddr s heard done = [] := by
  unfold heardStatus
  rw [h]

theorem simTransfer_lost {s : SimState} {simAddr addr : UInt32} {net : Exchange}
    {frame : List UInt8} (h : ¬(addr = simAddr ∧ net.request = true ∧ net.reply = true)) :
    simTransfer s simAddr net addr frame = (-1, net.rbuf) := by
  rw [simTransfer, if_neg h]

theorem simTransfer_answered {s : SimState} {simAddr : UInt32} {net : Exchange}
    {frame bytes : List UInt8} {n : ℕ} (hrequest : net.request = true)
    (hreply : net.reply = true) (h : (recvPacket s frame).2.reply = some bytes)
    (hlen : bytes.length = n) (hpos : 0 < n) (hfits : n ≤ 64) :
    simTransfer s simAddr net simAddr frame = ((n : ℤ), load bytes net.rbuf) := by
  have hwhole : bytes.take 64 = bytes := List.take_of_length_le (by omega)
  simp only [simTransfer, hrequest, hreply, and_self, if_true, h, hwhole, hlen]
  rw [if_neg (by omega)]

theorem simTransfer_empty {s : SimState} {simAddr : UInt32} {net : Exchange}
    {frame : List UInt8} (h : (recvPacket s frame).2.reply = some []) (addr : UInt32) :
    simTransfer s simAddr net addr frame = (-1, net.rbuf) := by
  unfold simTransfer
  rw [h]
  split <;> rfl

theorem resultCode_failed (rbuf : Memory) : resultCode (-1) rbuf = HsbErrorNo.invalidMsg.code := rfl

theorem resultCode_result (rbuf : Memory) :
    resultCode 8 (load (result 1) rbuf) = HsbErrorNo.ok.code := by
  have hagree : AgreeBelow 8 (load (result 1) rbuf) (set16 (cmdHeader .result 8) 4 1) :=
    load_take_agree _ rbuf 8
  have hcmd : get16 (load (result 1) rbuf) 0 = VsCmd.result.code := by
    rw [hagree.get16 (by omega), get16_set16_other _ _ _ _ (by omega), CommandRelay.cmdHeader_cmd]
  have hsize : get16 (load (result 1) rbuf) 2 = 8 := by
    rw [hagree.get16 (by omega), get16_set16_other _ _ _ _ (by omega), CommandRelay.cmdHeader_len]
    rfl
  have hvalue : get16 (load (result 1) rbuf) 4 = 1 := by
    rw [hagree.get16 (by omega), get16_set16]
  rw [resultCode, hcmd, hsize, hvalue]
  rfl

/-- What the request to set a status holds for the switch. -/
theorem setStatusFrame_fields {status : HsbStatus} {frame : Frame}
    (h : setStatusFrame status = some frame) (hone : 1 ≤ status.num.toNat) (stale : Memory) :
    8 ≤ frame.bytes.length ∧ frame.bytes.length ≤ 64 ∧
      get16 (load frame.bytes stale) 0 = VsCmd.setStatus.code ∧
      (get16 (load frame.bytes stale) 2).toNat = frame.bytes.length ∧
      get16 (load frame.bytes stale) 4 = firstId status ∧
      get16 (load frame.bytes stale) 6 = firstVal status := by
  obtain ⟨wbuf, hwbuf, rfl⟩ := Option.map_eq_some_iff.mp h
  have hfew : status.num.toNat ≤ 8 :=
    (encodePairs_isSome_iff wbufSize 4 status status.num.toNat _ (by decide)).mp
      (Option.isSome_iff_exists.mpr ⟨wbuf, hwbuf⟩)
  have hlen := CommandRelay.statusLen_toNat rfl hfew
  obtain ⟨hheader, hpairs⟩ := encodePairs_spec _ _ _ _ _ _ hwbuf
  obtain ⟨_, hid, hval⟩ := hpairs 0 hone
  have hfront : AgreeBelow 4 wbuf (cmdHeader .setStatus (4 + 4 * status.num).toNat) := hheader
  have hbytes : Frame.bytes ⟨(4 + 4 * status.num).toNat, wbuf⟩ =
      take wbuf (4 + 4 * status.num.toNat) := by
    rw [Frame.bytes, hlen]
  have hagree := load_take_agree wbuf stale (4 + 4 * status.num.toNat)
  rw [hbytes, take_length]
  refine ⟨by omega, by omega, ?_, ?_, ?_, ?_⟩
  · rw [hagree.get16 (by omega), hfront.get16 (by omega), CommandRelay.cmdHeader_cmd]
  · rw [hagree.get16 (by omega), hfront.get16 (by omega), CommandRelay.cmdHeader_len, hlen,
      UInt16.toNat_ofNat', Nat.mod_eq_of_lt (by omega)]
  · rw [hagree.get16 (by omega)]
    exact hid
  · rw [hagree.get16 (by omega)]
    exact hval

/-- The switch sets the value of the first pair, and nothing else of the request. -/
theorem recvPacket_setStatus {status : HsbStatus} {frame : Frame} (s : SimState)
    (h : setStatusFrame status = some frame) (hone : 1 ≤ status.num.toNat) :
    (recvPacket s frame.bytes).1.statusOnOff = (recvPacket s frame.bytes).2.statusOnOff ∧
      (recvPacket s frame.bytes).2 =
        if firstId status = 0 then
          { statusOnOff := firstVal status
            reply := some (result 1)
            announced :=
              if firstVal status ≠ s.statusOnOff then some (statusChanged (firstVal status))
              else none }
        else { statusOnOff := s.statusOnOff, reply := some [] } := by
  obtain ⟨hmin, hmax, hcmd, hsize, hid, hval⟩ := setStatusFrame_fields h hone s.buf
  have hwhole : frame.bytes.take 1024 = frame.bytes := List.take_of_length_le (by omega)
  unfold recvPacket
  simp only [hwhole]
  rw [if_neg (by omega)]
  refine ⟨rfl, ?_⟩
  unfold dealUdpPkt
  rw [hsize, hcmd, hid, hval, cmdOfCode_code, if_neg (by simp)]
  by_cases hzero : firstId status = 0
  · rw [if_pos hzero]
    exact if_neg (not_not.mpr hzero)
  · rw [if_neg hzero]
    exact if_pos hzero

/-- HSB_E_OK says that the switch has the value. -/
theorem acceptedStatus_eq (simAddr : UInt32) (s : Conversation ρ) {status : HsbStatus}
    {frame : Frame} (net : Exchange) (h : setStatusFrame status = some frame)
    (hone : 1 ≤ status.num.toNat) :
    acceptedStatus status
        (virtualSwitchSetStatus s.thread.drv.queue (simTransfer s.sim simAddr net) status) =
      if ((addressed simAddr s status.devid ∧ net.request = true) ∧ firstId status = 0) ∧
          net.reply = true then [.accepted 0 (firstVal status)]
      else [] := by
  obtain ⟨-, hdone⟩ := recvPacket_setStatus s.sim h hone
  unfold virtualSwitchSetStatus addressed
  rw [h]
  cases findDevById s.thread.drv.queue status.devid with
  | none => simp [acceptedStatus, HsbErrorNo.code]
  | some dev =>
    simp only [Option.map_some, Option.any_some, beq_iff_eq]
    by_cases hnet : dev.ip = simAddr ∧ net.request = true ∧ net.reply = true
    · obtain ⟨haddr, hrequest, hreply⟩ := hnet
      rw [haddr]
      by_cases hzero : firstId status = 0
      · rw [if_pos hzero] at hdone
        have hreplied : (recvPacket s.sim frame.bytes).2.reply = some (result 1) := by
          rw [hdone]
        have hcode : resultCode ((8 : ℕ) : ℤ) (load (result 1) net.rbuf) = HsbErrorNo.ok.code :=
          resultCode_result net.rbuf
        rw [simTransfer_answered hrequest hreply hreplied (take_length _ 8) (by omega) (by omega),
          hcode, if_pos ⟨⟨⟨rfl, hrequest⟩, hzero⟩, hreply⟩, acceptedStatus, if_pos rfl, hzero]
      · rw [if_neg hzero] at hdone
        rw [simTransfer_empty (by rw [hdone]), if_neg (fun hall => hzero hall.1.2)]
        rfl
    · rw [simTransfer_lost hnet, if_neg]
      · rfl
      · rintro ⟨⟨⟨haddr, hrequest⟩, -⟩, hreply⟩
        exact hnet ⟨haddr, hrequest, hreply⟩

theorem recvPacket_getStatus (s : SimState) :
    (recvPacket s getStatusFrame.bytes).2 =
        { statusOnOff := s.statusOnOff, reply := some (statusResp s.statusOnOff) } ∧
      (recvPacket s getStatusFrame.bytes).1.statusOnOff = s.statusOnOff := by
  have hlen : getStatusFrame.bytes.length = 8 := take_length _ _
  have hwhole : getStatusFrame.bytes.take 1024 = getStatusFrame.bytes :=
    List.take_of_length_le (by omega)
  have hagree : AgreeBelow 8 (load getStatusFrame.bytes s.buf) getStatusFrame.buf :=
    load_take_agree _ s.buf 8
  have hcmd : get16 (load getStatusFrame.bytes s.buf) 0 = VsCmd.getStatus.code := by
    rw [hagree.get16 (by omega), getStatusFrame, get16_set32_other _ _ _ _ (by omega),
      CommandRelay.cmdHeader_cmd]
  have hsize : get16 (load getStatusFrame.bytes s.buf) 2 = 8 := by
    rw [hagree.get16 (by omega), getStatusFrame, get16_set32_other _ _ _ _ (by omega),
      CommandRelay.cmdHeader_len]
    rfl
  have hdone : dealUdpPkt s.statusOnOff (load getStatusFrame.bytes s.buf) 8 =
      { statusOnOff := s.statusOnOff, reply := some (statusResp s.statusOnOff) } := by
    unfold dealUdpPkt
    rw [hsize, hcmd, cmdOfCode_code]
    rfl
  unfold recvPacket
  simp only [hwhole, hlen, hdone]
  exact ⟨rfl, rfl⟩

/-- A status with one pair. -/
def OnePair (status : HsbStatus) (id val : UInt16) : Prop :=
  status.num = 1 ∧ firstId status = id ∧ firstVal status = val

/-- Eight bytes hold one pair, whatever number was asked for. -/
theorem decodeStatus_of_eight (ptr : Memory) (status : HsbStatus) :
    ∃ read, decodeStatus ptr 8 status = some read ∧ OnePair read (get16 ptr 4) (get16 ptr 6) := by
  have hset : ∀ (v : Vector UInt16 8) (x : UInt16), (v.set 0 x).get ⟨0, firstPair_lt⟩ = x :=
    fun v x => Vector.getElem_set_self firstPair_lt
  unfold decodeStatus
  rw [decodePairs, if_pos (by omega), dif_pos (by omega)]
  split
  · exact ⟨_, rfl, rfl, hset _ _, hset _ _⟩
  · rw [decodePairs, if_neg (by omega)]
    exact ⟨_, rfl, rfl, hset _ _, hset _ _⟩

theorem getStatus_answered {queue : List VsDev} {transfer : Transfer} {status : HsbStatus}
    {dev : VsDev} {m : Memory} (hdev : findDevById queue status.devid = some dev)
    (htransfer : transfer dev.ip getStatusFrame.bytes = (((8 : ℕ) : ℤ), m))
    (hcmd : get16 m 0 = VsCmd.getStatusResp.code) (hsize : get16 m 2 = 8) :
    ∃ read, virtualSwitchGetStatus queue transfer status = some (HsbErrorNo.ok.code, read) ∧
      OnePair read (get16 m 4) (get16 m 6) := by
  have hmin : ¬(((8 : ℕ) : ℤ) < minVsCmdLen) := by decide
  have hlen : (8 : UInt16).toNat = 8 := rfl
  obtain ⟨read, hread, hpair⟩ := decodeStatus_of_eight m status
  refine ⟨read, ?_, hpair⟩
  unfold virtualSwitchGetStatus
  simp only [hdev, htransfer, hcmd, hsize, hlen, if_neg hmin, ne_eq, not_true_eq_false, or_self,
    if_false, hread, Option.map_some]

/-- A status that is read is the one that the switch has. -/
theorem readStatus_eq (simAddr : UInt32) (s : Conversation ρ) (status : HsbStatus)
    (net : Exchange) :
    readStatus (virtualSwitchGetStatus s.thread.drv.queue (simTransfer s.sim simAddr net) status) =
      if (addressed simAddr s status.devid ∧ net.request = true) ∧ net.reply = true then
        [.read 1 0 s.sim.statusOnOff]
      else [] := by
  unfold addressed
  cases hdev : findDevById s.thread.drv.queue status.devid with
  | none => simp [virtualSwitchGetStatus, hdev, readStatus, HsbErrorNo.code]
  | some dev =>
    simp only [Option.any_some, beq_iff_eq]
    by_cases hnet : dev.ip = simAddr ∧ net.request = true ∧ net.reply = true
    · obtain ⟨haddr, hrequest, hreply⟩ := hnet
      have hreplied : (recvPacket s.sim getStatusFrame.bytes).2.reply =
          some (statusResp s.sim.statusOnOff) := by
        rw [(recvPacket_getStatus s.sim).1]
      subst haddr
      have htransfer : simTransfer s.sim dev.ip net dev.ip getStatusFrame.bytes =
          (((8 : ℕ) : ℤ), load (statusResp s.sim.statusOnOff) net.rbuf) :=
        simTransfer_answered hrequest hreply hreplied (take_length _ 8) (by omega) (by omega)
      obtain ⟨hcmd, hsize, hid, hval⟩ := fields_of_packet .getStatusResp 8 0 s.sim.statusOnOff
        (Nat.le_refl 8) (load_take_agree _ net.rbuf 8)
      obtain ⟨read, hread, hnum, hreadId, hreadVal⟩ := getStatus_answered hdev htransfer hcmd hsize
      rw [if_pos ⟨⟨rfl, hrequest⟩, hreply⟩, hread, readStatus, if_pos rfl, hnum, hreadId, hreadVal,
        statusResp, hid, hval]
    · have hlost : ¬((dev.ip = simAddr ∧ net.request = true) ∧ net.reply = true) := by
        rintro ⟨⟨haddr, hrequest⟩, hreply⟩
        exact hnet ⟨haddr, hrequest, hreply⟩
      unfold virtualSwitchGetStatus
      simp only [hdev]
      rw [simTransfer_lost hnet, if_neg hlost]
      rfl

theorem cmdOfCode_eq_setStatus_iff (code : UInt16) :
    cmdOfCode code = some .setStatus ↔ code = VsCmd.setStatus.code := by
  constructor
  · intro h
    have hfound := List.find?_some h
    exact (eq_of_beq hfound).symm
  · rintro rfl
    rfl

/-- A packet changes the status by what it writes, and is announced by it. -/
theorem recvPacket_write (s : SimState) (bytes : List UInt8) :
    (recvPacket s bytes).1.statusOnOff = (packetWrite s bytes).getD s.statusOnOff ∧
      (recvPacket s bytes).2.announced =
        (packetWrite s bytes).bind fun val =>
          if val ≠ s.statusOnOff then some (statusChanged val) else none := by
  unfold recvPacket packetWrite
  by_cases hempty : (bytes.take 1024).length = 0
  · simp [hempty]
  · by_cases hsize : (get16 (load (bytes.take 1024) s.buf) 2).toNat = (bytes.take 1024).length
    · by_cases hcmd : get16 (load (bytes.take 1024) s.buf) 0 = VsCmd.setStatus.code
      · have hset := (cmdOfCode_eq_setStatus_iff _).mpr hcmd
        by_cases hid : get16 (load (bytes.take 1024) s.buf) 4 = 0
        · simp only [hempty, hsize, hcmd, hid, dealUdpPkt, ne_eq, not_true_eq_false,
            not_false_eq_true, if_false, if_true, cmdOfCode_code, Option.getD_some,
            Option.bind_some, and_self]
        · simp only [hempty, hsize, hcmd, hid, dealUdpPkt, ne_eq, not_true_eq_false,
            not_false_eq_true, if_false, and_false, if_true, cmdOfCode_code, Option.getD_none,
            Option.bind_none, and_self]
      · have hset := mt (cmdOfCode_eq_setStatus_iff _).mp hcmd
        simp only [hempty, hsize, hcmd, dealUdpPkt, ne_eq, not_true_eq_false, not_false_eq_true,
            if_false, and_false, false_and, Option.getD_none, Option.bind_none]
        split <;> simp_all
    · simp only [hempty, hsize, dealUdpPkt, ne_eq, not_false_eq_true, if_true, if_false, and_false,
        false_and, Option.getD_none, Option.bind_none, and_self]

theorem packetWrite_of_cmd {s : SimState} {bytes : List UInt8} {cmd : VsCmd}
    (hfits : bytes.length ≤ 1024)
    (hcmd : get16 (load bytes s.buf) 0 = cmd.code) (hother : cmd ≠ .setStatus) :
    packetWrite s bytes = none := by
  unfold packetWrite
  simp only [List.take_of_length_le hfits, hcmd]
  rw [if_neg]
  rintro ⟨-, -, hcode, -⟩
  cases cmd <;> contradiction

theorem heardStatus_event (simAddr : UInt32) (s : Conversation ρ) (heard : Bool) {done : Handled}
    {v w : UInt16}
    (h : done.announced = some (take (set16 (set16 (cmdHeader .event 8) 4 v) 6 w) 8)) :
    heardStatus simAddr s heard done = [] := by
  have hwhole : received (take (set16 (set16 (cmdHeader .event 8) 4 v) 6 w) 8) =
      take (set16 (set16 (cmdHeader .event 8) 4 v) 6 w) 8 :=
    List.take_of_length_le (by rw [take_length]; omega)
  obtain ⟨hcmd, -, -, -⟩ :=
    fields_of_packet .event 8 v w (Nat.le_refl 8) (load_take_agree _ s.thread.rbuf 8)
  unfold heardStatus
  rw [h]
  cases heard
  · rfl
  · simp only [raisedByDatagram, vsRaised, hwhole]
    split
    · rfl
    · cases findDevByIp s.thread.drv.queue simAddr with
      | none => rfl
      | some dev =>
        rw [Option.bind_some, vsCall, hcmd, if_neg (by decide), if_pos rfl]
        rfl

theorem deliver_sim {simAddr : UInt32} {thread : VsThread ρ} {heard : Bool}
    {done : SimState × Handled} {s' : Conversation ρ}
    (h : deliver simAddr thread heard done = some s') : s'.sim = done.1 := by
  unfold deliver at h
  split at h
  · obtain ⟨_, -, rfl⟩ := Option.map_eq_some_iff.mp h
    rfl
  · cases Option.some.inj h
    rfl

theorem requestStep_sim {simAddr : UInt32} {s s' : Conversation ρ} {devid : UInt32}
    {net : Exchange} {frame : List UInt8}
    (h : requestStep simAddr s devid net frame = some s') :
    s'.sim =
      if addressed simAddr s devid ∧ net.request = true then (recvPacket s.sim frame).1
      else s.sim := by
  unfold requestStep at h
  split at h
  · rename_i harrives
    rw [if_pos harrives]
    exact deliver_sim h
  · rename_i hlost
    rw [if_neg hlost]
    cases Option.some.inj h
    rfl

/-- A request that sets no status leaves the status, and nothing is announced. -/
theorem request_idle {simAddr : UInt32} {s s' : Conversation ρ} {devid : UInt32}
    {net : Exchange} {frame : List UInt8} (hnone : packetWrite s.sim frame = none)
    (h : requestStep simAddr s devid net frame = some s') :
    s'.sim.statusOnOff = s.sim.statusOnOff ∧ requestHeard simAddr s devid net frame = [] := by
  obtain ⟨hstatus, hannounced⟩ := recvPacket_write s.sim frame
  rw [hnone] at hstatus hannounced
  constructor
  · rw [requestStep_sim h]
    split
    · exact hstatus
    · rfl
  · unfold requestHeard
    split
    · exact heardStatus_none simAddr s net.heard hannounced
    · rfl

theorem setAction_writes_nothing (s : SimState) (act : HsbAction) :
    packetWrite s (setActionFrame act).bytes = none := by
  have hlen : (setActionFrame act).bytes.length = 12 := take_length _ _
  have hagree : AgreeBelow 12 (load (setActionFrame act).bytes s.buf) (setActionFrame act).buf :=
    load_take_agree _ s.buf 12
  have hcmd : get16 (load (setActionFrame act).bytes s.buf) 0 = VsCmd.doAction.code := by
    rw [hagree.get16 (by omega)]
    simp only [setActionFrame]
    rw [get16_set32_other _ _ _ _ (by omega), get16_set16_other _ _ _ _ (by omega),
      get16_set16_other _ _ _ _ (by omega), CommandRelay.cmdHeader_cmd]
  exact packetWrite_of_cmd (by omega) hcmd (by decide)

theorem getStatus_writes_nothing (s : SimState) : packetWrite s getStatusFrame.bytes = none := by
  have hlen : getStatusFrame.bytes.length = 8 := take_length _ _
  have hagree : AgreeBelow 8 (load getStatusFrame.bytes s.buf) getStatusFrame.buf :=
    load_take_agree _ s.buf 8
  have hcmd : get16 (load getStatusFrame.bytes s.buf) 0 = VsCmd.getStatus.code := by
    rw [hagree.get16 (by omega), getStatusFrame, get16_set32_other _ _ _ _ (by omega),
      CommandRelay.cmdHeader_cmd]
  exact packetWrite_of_cmd (by omega) hcmd (by decide)

theorem setStatus_matches {simAddr : UInt32} {s s' : Conversation ρ} {status : HsbStatus}
    {net : Exchange} {frame : Frame} (hframe : setStatusFrame status = some frame)
    (hone : 1 ≤ status.num.toNat)
    (h : requestStep simAddr s status.devid net frame.bytes = some s')
    (scan : List UInt8 → Typed) :
    s'.sim.statusOnOff =
        register.next s.sim.statusOnOff (access scan simAddr s (.setStatus status net)) ∧
      shownBy scan simAddr s (.setStatus status net) =
        register.shown s.sim.statusOnOff (access scan simAddr s (.setStatus status net)) := by
  obtain ⟨hkept, hdone⟩ := recvPacket_setStatus s.sim hframe hone
  have hsim := requestStep_sim h
  have hshown : shownBy scan simAddr s (.setStatus status net) =
      acceptedStatus status
          (virtualSwitchSetStatus s.thread.drv.queue (simTransfer s.sim simAddr net) status) ++
        requestHeard simAddr s status.devid net frame.bytes := by
    rw [shownBy, hframe]
    rfl
  rw [hshown, acceptedStatus_eq simAddr s net hframe hone, requestHeard]
  by_cases harrives : addressed simAddr s status.devid ∧ net.request = true
  · rw [if_pos harrives] at hsim ⊢
    by_cases hid : firstId status = 0
    · rw [if_pos hid] at hdone
      have haccess : access scan simAddr s (.setStatus status net) =
          .write (firstVal status).toUInt32 net.reply (net.heard && known simAddr s) :=
        if_pos ⟨harrives, hid⟩
      have hheard :=
        heardStatus_statusChanged simAddr s net.heard (congrArg Handled.announced hdone)
      rw [hheard, hsim, hkept, hdone, haccess]
      simp [register, UInt16.toUInt32_inj, harrives, hid]
    · rw [if_neg hid] at hdone
      have haccess : access scan simAddr s (.setStatus status net) = .other :=
        if_neg fun hall => hid hall.2
      rw [heardStatus_none simAddr s net.heard (congrArg Handled.announced hdone), hsim, hkept,
        hdone, haccess, if_neg fun hall => hid hall.1.2]
      exact ⟨rfl, rfl⟩
  · have haccess : access scan simAddr s (.setStatus status net) = .other :=
      if_neg fun hall => harrives hall.1
    rw [if_neg harrives] at hsim ⊢
    rw [hsim, haccess, if_neg fun hall => harrives hall.1.1]
    exact ⟨rfl, rfl⟩

theorem getStatus_matches {simAddr : UInt32} {s s' : Conversation ρ} {status : HsbStatus}
    {net : Exchange} (h : requestStep simAddr s status.devid net getStatusFrame.bytes = some s')
    (scan : List UInt8 → Typed) :
    s'.sim.statusOnOff =
        register.next s.sim.statusOnOff (access scan simAddr s (.getStatus status net)) ∧
      shownBy scan simAddr s (.getStatus status net) =
        register.shown s.sim.statusOnOff (access scan simAddr s (.getStatus status net)) := by
  obtain ⟨hkept, hheard⟩ := request_idle (getStatus_writes_nothing s.sim) h
  rw [hkept, shownBy, readStatus_eq, hheard, access]
  split
  · exact ⟨rfl, rfl⟩
  · exact ⟨rfl, rfl⟩

theorem packet_matches {simAddr : UInt32} {s s' : Conversation ρ} {bytes : List UInt8}
    {heard : Bool} (h : deliver simAddr s.thread heard (recvPacket s.sim bytes) = some s')
    (scan : List UInt8 → Typed) :
    s'.sim.statusOnOff =
        register.next s.sim.statusOnOff (access scan simAddr s (.packet bytes heard)) ∧
      shownBy scan simAddr s (.packet bytes heard) =
        register.shown s.sim.statusOnOff (access scan simAddr s (.packet bytes heard)) := by
  obtain ⟨hstatus, hannounced⟩ := recvPacket_write s.sim bytes
  rw [deliver_sim h, hstatus, shownBy, access]
  cases hwrite : packetWrite s.sim bytes with
  | none =>
    rw [hwrite] at hannounced
    exact ⟨rfl, heardStatus_none simAddr s heard hannounced⟩
  | some val =>
    rw [hwrite] at hannounced
    rw [heardStatus_statusChanged simAddr s heard hannounced]
    simp [register, UInt16.toUInt32_inj]

theorem typed_matches {simAddr : UInt32} {s s' : Conversation ρ} {text : List UInt8}
    {heard : Bool} (scan : List UInt8 → Typed)
    (h : deliver simAddr s.thread heard (readInput scan s.sim text) = some s') :
    s'.sim.statusOnOff =
        register.next s.sim.statusOnOff (access scan simAddr s (.typed text heard)) ∧
      shownBy scan simAddr s (.typed text heard) =
        register.shown s.sim.statusOnOff (access scan simAddr s (.typed text heard)) := by
  rw [deliver_sim h, shownBy, access, readInput]
  cases hscan : scan (text.take 1023) with
  | status val =>
    dsimp only [dealInputCmd]
    by_cases hsame : s.sim.statusOnOff.toUInt32 = val
    · rw [if_pos hsame, heardStatus_none simAddr s heard rfl]
      simp [register, ← hsame]
    · have hannounced : (if s.sim.statusOnOff.toUInt32 = val
          then ({ statusOnOff := s.sim.statusOnOff } : Handled)
          else { statusOnOff := val.toUInt16
                 announced := some (statusChanged val.toUInt16) }).announced =
          if val ≠ s.sim.statusOnOff.toUInt32 then some (statusChanged val.toUInt16) else none := by
        rw [if_neg hsame, if_pos (Ne.symm hsame)]
      rw [heardStatus_statusChanged simAddr s heard hannounced, if_neg hsame]
      simp [register]
  | sensor val | key val => exact ⟨rfl, heardStatus_event simAddr s heard rfl⟩
  | other => exact ⟨rfl, heardStatus_none simAddr s heard rfl⟩

theorem conv_matches (scan : List UInt8 → Typed) (simAddr : UInt32) :
    Matches (convStep (ρ := ρ) scan simAddr) (fun _ a => NamesStatus a) (fun _ => True) register
      (fun s => s.sim.statusOnOff) (access scan simAddr) (shownBy scan simAddr) := by
  intro s a s' _ hnames h
  cases a with
  | setStatus status net =>
    obtain ⟨frame, hframe, hstep⟩ := Option.bind_eq_some_iff.mp h
    exact setStatus_matches hframe (hnames status net rfl) hstep scan
  | getStatus status net => exact getStatus_matches h scan
  | setAction act net => exact request_idle (setAction_writes_nothing s.sim act) h
  | typed text heard => exact typed_matches scan h
  | packet bytes heard => exact packet_matches h scan
  | thread a =>
    obtain ⟨thread, -, rfl⟩ := Option.map_eq_some_iff.mp h
    exact ⟨rfl, rfl⟩

/-- Driver, network and switch together are one register. Whatever datagrams are lost, a
status that the box has set with HSB_E_OK was written then, a status that it reads is the
one that was written last, and the status events that reach it are those of the writes
that changed the number, with the value written. -/
theorem switch_is_register (scan : List UInt8 → Typed) (simAddr : UInt32)
    (steps : List (ConvStep ρ)) (s t : Conversation ρ) (hnames : ∀ a ∈ steps, NamesStatus a)
    (hrun : run (convStep scan simAddr) s steps = some t) :
    t.sim.statusOnOff =
        register.after s.sim.statusOnOff
          (collect (convStep scan simAddr) (fun s a => [access scan simAddr s a]) s steps) ∧
      collect (convStep scan simAddr) (shownBy scan simAddr) s steps =
        register.output s.sim.statusOnOff
          (collect (convStep scan simAddr) (fun s a => [access scan simAddr s a]) s steps) :=
  run_simulates (preserves_true _ _) (conv_matches scan simAddr) steps s t trivial
    (guarded_of_forall fun a ha _ => hnames a ha) hrun

/-- A switch that the box knows: it is set and the event is lost, somebody types another
status, and the box reads it. -/
def perfect : Exchange := ⟨true, true, true, zeros⟩

def lampDev : VsDev := { id := 1, ip := 7 }

def lampConversation : Conversation Unit :=
  ⟨{}, ⟨{ cb := {}, queue := [lampDev] }, zeros⟩⟩

def typeOff : List UInt8 → Typed := fun _ => .status 65536

def lampSteps : List (ConvStep Unit) :=
  [.setStatus (HsbStatus.ofPair 1 0 1) { perfect with heard := false }, .typed [] true,
    .getStatus { devid := 1 } perfect, .typed [] true]

theorem switch_is_register_lamp :
    ∃ t, run (convStep typeOff 7) lampConversation lampSteps = some t ∧ t.sim.statusOnOff = 0 ∧
      collect (convStep typeOff 7) (shownBy typeOff 7) lampConversation lampSteps =
        [.accepted 0 1, .announced 0 0, .read 1 0 0, .announced 0 0] := by
  have haccess : collect (convStep typeOff 7) (fun s a => [access typeOff 7 s a])
      lampConversation lampSteps =
        [.write 1 true false, .write 65536 false true, .read, .write 65536 false true] := rfl
  have hsome : (run (convStep typeOff 7) lampConversation lampSteps).isSome := rfl
  obtain ⟨t, hrun⟩ := Option.isSome_iff_exists.mp hsome
  have hnames : ∀ a ∈ lampSteps, NamesStatus a := by
    intro a ha status net hset
    simp only [lampSteps, List.mem_cons, List.not_mem_nil, or_false] at ha
    rcases ha with rfl | rfl | rfl | rfl
    · cases hset
      decide
    all_goals contradiction
  obtain ⟨hlast, hshown⟩ := switch_is_register typeOff 7 lampSteps lampConversation t hnames hrun
  refine ⟨t, hrun, ?_, ?_⟩
  · rw [hlast, haccess]
    rfl
  · rw [hshown, haccess]
    rfl

end HomeSecurityBox.SwitchSim
