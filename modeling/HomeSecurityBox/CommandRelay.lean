import HomeSecurityBox.SetStatus
import HomeSecurityBox.DevAct
import HomeSecurityBox.ZigbeeSending

/-!
A command on its way from the client to the device: the dispatcher decodes it into an
act, the worker hands that to the operation of the device's driver, and the driver
encodes it again. The three have offsets of their own.
-/

namespace HomeSecurityBox.CommandRelay

open ByteMemory Protocol DeviceData Device TcpPacket DevAct SetStatus StatusCodec ZigbeeLink

variable {ρ : Type}

/-- A SET_STATUS frame with `num` pairs for a device. -/
structure SetStatusCommand where
  bytes : List UInt8
  num : ℕ
  few : num ≤ 8
  length : bytes.length = 8 + 4 * num
  cmd : get16 (load bytes zeros) 0 = HsbCmd.setStatus.code
  size : (get16 (load bytes zeros) 2).toNat = bytes.length
  device : get32 (load bytes zeros) 4 ≠ 0

/-- A DO_ACTION frame that is no key of a remote control, and what follows it in its
read. -/
structure DoActionCommand where
  bytes : List UInt8
  rest : List UInt8
  fields : 16 ≤ bytes.length
  cmd : get16 (load bytes zeros) 0 = HsbCmd.doAction.code
  size : (get16 (load bytes zeros) 2).toNat = bytes.length
  action : get16 (load bytes zeros) 8 ≠ hsbActTypeRemoteControl

inductive Command
  | setStatus (command : SetStatusCommand)
  | doAction (command : DoActionCommand)

def Command.bytes : Command → List UInt8
  | .setStatus command => command.bytes
  | .doAction command => command.bytes

/-- The read from the command on; a SET_STATUS is alone in its own. -/
def Command.read : Command → List UInt8
  | .setStatus command => command.bytes
  | .doAction command => command.bytes ++ command.rest

def Command.devid (command : Command) : UInt32 := get32 (load command.bytes zeros) 4

/-- The pairs, or id, param1 and param2. -/
def Command.body : Command → List UInt8
  | .setStatus command => command.bytes.drop 8
  | .doAction command => (command.bytes.drop 8).take 8

def Command.vsCmd : Command → VirtualSwitch.VsCmd
  | .setStatus _ => .setStatus
  | .doAction _ => .doAction

def Command.czCmd : Command → Zigbee.CzCmd
  | .setStatus _ => .setStatus
  | .doAction _ => .doAction

/-- Behind `base` bytes a frame has a command header, whose length covers the rest of the
frame, and this body. -/
structure Carries (frame : Frame) (base : ℕ) (cmd : UInt16) (body : List UInt8) : Prop where
  cmd : get16 frame.buf base = cmd
  size : base + (get16 frame.buf (base + 2)).toNat = frame.len
  body : frame.bytes.drop (base + 4) = body

/-- The radio header is that of a request to the device. -/
structure Addressed (frame : Frame) (dev : Zigbee.CzDev) (transId : UInt16) : Prop where
  magic : get16 frame.buf 0 = Zigbee.czHeaderMagic
  size : (get16 frame.buf 2).toNat = frame.len
  type : get16 frame.buf 4 = Zigbee.CzPktType.uc.code
  shortAddr : get16 frame.buf 6 = dev.shortAddr
  endPoint : get16 frame.buf 8 = dev.endPoint
  transId : transIdOf frame.buf = transId

/-- The operation carries what the command says; `client` is the read. -/
inductive Decoded (client : Memory) : Command → Operation → Prop
  | setStatus {command : SetStatusCommand} {status : HsbStatus}
      (hdevid : status.devid = (Command.setStatus command).devid)
      (hnum : status.num.toNat = command.num)
      (hpairs : ∀ i (hi : i < 8), i < command.num →
        status.id[i] = get16 client (8 + i * 4) ∧ status.val[i] = get16 client (10 + i * 4)) :
      Decoded client (.setStatus command) (.setStatus status)
  | doAction {command : DoActionCommand} {act : HsbAction}
      (hdevid : act.devid = (Command.doAction command).devid) (hid : act.id = get16 client 8)
      (hparam1 : act.param1 = get16 client 10) (hparam2 : act.param2 = get32 client 12) :
      Decoded client (.doAction command) (.setAction act)

/-- The writing loop puts the pairs where it starts. -/
theorem encodePairs_copied {cap base n : ℕ} {status : HsbStatus} {buf buf' client : Memory}
    (h : encodePairs cap base status n buf = some buf')
    (hpairs : ∀ i (hi : i < 8), i < n →
      status.id[i] = get16 client (8 + i * 4) ∧ status.val[i] = get16 client (10 + i * 4)) :
    AgreeBelow (4 * n) (shift buf' base) (shift client 8) := by
  obtain ⟨-, hwritten⟩ := encodePairs_spec cap base status n buf buf' h
  intro j hj
  obtain ⟨hi, hid, hval⟩ := hwritten (j / 4) (by omega)
  obtain ⟨hid', hval'⟩ := hpairs (j / 4) hi (by omega)
  have hids : get16 (shift buf' base) (4 * (j / 4)) = get16 (shift client 8) (4 * (j / 4)) := by
    rw [Nat.mul_comm (j / 4) 4] at hid'
    exact hid.trans hid'
  have hvals : get16 (shift buf' base) (2 + 4 * (j / 4)) =
      get16 (shift client 8) (2 + 4 * (j / 4)) := by
    have hleft : get16 (shift buf' base) (2 + 4 * (j / 4)) =
        get16 buf' (base + 2 + 4 * (j / 4)) := by
      rw [Nat.add_assoc]
      rfl
    have hright : get16 (shift client 8) (2 + 4 * (j / 4)) = get16 client (10 + j / 4 * 4) := by
      rw [show 10 + j / 4 * 4 = 8 + (2 + 4 * (j / 4)) by omega]
      rfl
    rw [hleft, hright, hval, hval']
  obtain ⟨hzero, hone⟩ := bytes_of_get16 hids
  obtain ⟨htwo, hthree⟩ := bytes_of_get16 hvals
  have hcases : j = 4 * (j / 4) ∨ j = 4 * (j / 4) + 1 ∨ j = 2 + 4 * (j / 4) ∨
      j = 2 + 4 * (j / 4) + 1 := by omega
  rcases hcases with hj' | hj' | hj' | hj'
  · rw [hj']
    exact hzero
  · rw [hj']
    exact hone
  · rw [hj']
    exact htwo
  · rw [hj']
    exact hthree

/-- The three writes behind a command header copy the fields of the action. -/
theorem action_copied (m : Memory) (base : ℕ) {act : HsbAction} {client : Memory}
    (hid : act.id = get16 client 8) (hparam1 : act.param1 = get16 client 10)
    (hparam2 : act.param2 = get32 client 12) :
    AgreeBelow 8
      (shift (set32 (set16 (set16 m base act.id) (base + 2) act.param1) (base + 4) act.param2) base)
      (shift client 8) := by
  have hstart := shift_set16 m base 0 act.id
  rw [Nat.add_zero] at hstart
  rw [shift_set32, shift_set16, hstart, hid, hparam1, hparam2]
  have hnone : AgreeBelow 0 (shift m base) (shift client 8) :=
    fun _ hi => absurd hi (Nat.not_lt_zero _)
  exact hnone.copy16.copy16.copy32

theorem carries_of_copied {frame : Frame} {base k : ℕ} {cmd : UInt16} {client : Memory}
    (hcmd : get16 frame.buf base = cmd)
    (hsize : get16 frame.buf (base + 2) = UInt16.ofNat (4 + k)) (hfits : 4 + k < 65536)
    (hlen : frame.len = base + 4 + k)
    (hbody : AgreeBelow k (shift frame.buf (base + 4)) (shift client 8)) :
    Carries frame base cmd (take (shift client 8) k) := by
  refine ⟨hcmd, ?_, ?_⟩
  · rw [hsize, UInt16.toNat_ofNat', Nat.mod_eq_of_lt hfits, hlen, Nat.add_assoc]
  · rw [Frame.bytes, hlen, drop_take]
    exact hbody.take (Nat.le_refl k)

/-- The length of a SET_STATUS frame does not overflow. -/
theorem statusLen_toNat {status : HsbStatus} {n : ℕ} (hnum : status.num.toNat = n) (hn : n ≤ 8) :
    (4 + 4 * status.num).toNat = 4 + 4 * n := by
  rw [UInt32.toNat_add, UInt32.toNat_mul, hnum]
  have hfour : (4 : UInt32).toNat = 4 := rfl
  rw [hfour]
  omega

def Command.bodyLen : Command → ℕ
  | .setStatus command => 4 * command.num
  | .doAction _ => 8

theorem Command.bodyLen_fits (command : Command) : 4 + command.bodyLen < 65536 := by
  cases command with
  | setStatus command =>
    have hfew := command.few
    rw [Command.bodyLen]
    omega
  | doAction command =>
    rw [Command.bodyLen]
    omega

theorem Command.body_eq (command : Command) (stale : Memory) :
    command.body = take (shift (load command.read stale) 8) command.bodyLen := by
  cases command with
  | setStatus command =>
    have hlength := command.length
    rw [Command.read, Command.bodyLen, take_shift_load _ _ _ _ (by omega), Command.body,
      List.take_of_length_le (by rw [List.length_drop]; omega)]
  | doAction command =>
    have hfields := command.fields
    rw [Command.read, Command.bodyLen, take_shift_load _ _ _ _ (by rw [List.length_append]; omega),
      List.drop_append_of_le_length (by omega),
      List.take_append_of_le_length (by rw [List.length_drop]; omega), Command.body]

/-- The datagram of an operation. -/
def vsFrame : Operation → Option Frame
  | .setStatus status => VirtualSwitch.setStatusFrame status
  | .getStatus _ => some VirtualSwitch.getStatusFrame
  | .setAction act => some (VirtualSwitch.setActionFrame act)

theorem cmdHeader_cmd (cmd : VirtualSwitch.VsCmd) (len : ℕ) :
    get16 (VirtualSwitch.cmdHeader cmd len) 0 = cmd.code := by
  rw [VirtualSwitch.cmdHeader, get16_set16_other _ _ _ _ (by omega), get16_set16]

theorem cmdHeader_len (cmd : VirtualSwitch.VsCmd) (len : ℕ) :
    get16 (VirtualSwitch.cmdHeader cmd len) 2 = UInt16.ofNat len := by
  rw [VirtualSwitch.cmdHeader, get16_set16]

theorem vsFrame_carries {client : Memory} {command : Command} {op : Operation}
    (h : Decoded client command op) :
    ∃ frame, vsFrame op = some frame ∧
      Carries frame 0 command.vsCmd.code (take (shift client 8) command.bodyLen) := by
  cases h with
  | @setStatus command status hdevid hnum hpairs =>
    have hfew := command.few
    have hlen := statusLen_toNat hnum hfew
    obtain ⟨buf, hbuf⟩ := exists_encodePairs status
      (VirtualSwitch.cmdHeader .setStatus (4 + 4 * status.num).toNat)
      (show 4 + 32 ≤ VirtualSwitch.wbufSize by decide) (hnum ▸ hfew)
    obtain ⟨hheader, -⟩ := encodePairs_spec _ _ _ _ _ _ hbuf
    have hagree : AgreeBelow 4 buf (VirtualSwitch.cmdHeader .setStatus (4 + 4 * command.num)) := by
      rw [← hlen]
      exact hheader
    refine ⟨⟨(4 + 4 * status.num).toNat, buf⟩, ?_,
      carries_of_copied ?_ ?_ (Command.bodyLen_fits _) ?_ ?_⟩
    · rw [vsFrame, VirtualSwitch.setStatusFrame, hbuf]
      rfl
    · rw [hagree.get16 (by omega)]
      exact cmdHeader_cmd .setStatus _
    · rw [hagree.get16 (by omega)]
      exact cmdHeader_len .setStatus _
    · rw [hlen, Command.bodyLen, Nat.zero_add]
    · rw [hnum] at hbuf
      exact encodePairs_copied hbuf hpairs
  | doAction hdevid hid hparam1 hparam2 =>
    refine ⟨_, rfl, carries_of_copied ?_ ?_ (Command.bodyLen_fits _) rfl ?_⟩
    · simp (disch := omega) only [VirtualSwitch.setActionFrame, get16_set32_other,
        get16_set16_other]
      exact cmdHeader_cmd .doAction 12
    · simp (disch := omega) only [VirtualSwitch.setActionFrame, get16_set32_other,
        get16_set16_other]
      exact cmdHeader_len .doAction 12
    · exact action_copied (VirtualSwitch.cmdHeader .doAction 12) 4 hid hparam1 hparam2

/-- A frame that starts with the headers of a request to the device. -/
theorem addressed_of_agree {frame : Frame} {wbuf : Memory} {len : ℕ} {dev : Zigbee.CzDev}
    {transId : UInt16} {cmd : Zigbee.CzCmd}
    (hagree : AgreeBelow (Zigbee.czHeaderLen + 4) frame.buf
      (Zigbee.frameHeader wbuf len .uc dev.shortAddr dev.endPoint transId cmd))
    (hlen : frame.len = len + Zigbee.czHeaderLen) (hfits : frame.len < 65536) :
    Addressed frame dev transId ∧ get16 frame.buf Zigbee.czHeaderLen = cmd.code ∧
      get16 frame.buf (Zigbee.czHeaderLen + 2) = UInt16.ofNat len := by
  have hfields : ∀ off, off + 2 ≤ 16 → get16 frame.buf off =
      get16 (Zigbee.frameHeader wbuf len .uc dev.shortAddr dev.endPoint transId cmd) off :=
    fun off hoff => hagree.get16 hoff
  simp only [Zigbee.frameHeader, Zigbee.czHeaderLen] at hfields hlen
  refine ⟨⟨?_, ?_, ?_, ?_, ?_, ?_⟩, ?_, ?_⟩
  · rw [hfields 0 (by omega)]
    simp (disch := omega) only [get16_set16_other, get16_set16]
  · rw [hfields 2 (by omega)]
    simp (disch := omega) only [get16_set16_other, get16_set16]
    rw [← hlen, UInt16.toNat_ofNat', Nat.mod_eq_of_lt hfits]
  · rw [hfields 4 (by omega)]
    simp (disch := omega) only [get16_set16_other, get16_set16]
  · rw [hfields 6 (by omega)]
    simp (disch := omega) only [get16_set16_other, get16_set16]
  · rw [hfields 8 (by omega)]
    simp (disch := omega) only [get16_set16_other, get16_set16]
  · rw [transIdOf, hfields 10 (by omega)]
    simp (disch := omega) only [get16_set16_other, get16_set16]
  · rw [Zigbee.czHeaderLen, hfields 12 (by omega)]
    simp (disch := omega) only [get16_set16_other, get16_set16]
  · rw [Zigbee.czHeaderLen, hfields (12 + 2) (by omega), get16_set16]

theorem czFrame_carries {client : Memory} {command : Command} {op : Operation}
    (h : Decoded client command op) (wbuf : Memory) (dev : Zigbee.CzDev) (transId : UInt16) :
    ∃ frame, op.frame wbuf dev transId = some frame ∧
      Carries frame Zigbee.czHeaderLen command.czCmd.code
        (take (shift client 8) command.bodyLen) ∧ Addressed frame dev transId := by
  cases h with
  | @setStatus command status hdevid hnum hpairs =>
    have hfew := command.few
    have hlen := statusLen_toNat hnum hfew
    obtain ⟨buf, hbuf⟩ := exists_encodePairs status
      (Zigbee.frameHeader wbuf (4 + 4 * status.num).toNat .uc dev.shortAddr dev.endPoint transId
        .setStatus)
      (show Zigbee.czHeaderLen + 4 + 32 ≤ Zigbee.wbufSize by decide) (hnum ▸ hfew)
    obtain ⟨hheader, -⟩ := encodePairs_spec _ _ _ _ _ _ hbuf
    have hframe : (4 + 4 * status.num).toNat + Zigbee.czHeaderLen =
        Zigbee.czHeaderLen + 4 + 4 * command.num := by
      rw [hlen, Nat.add_comm, Nat.add_assoc]
    have hfits : (4 + 4 * status.num).toNat + Zigbee.czHeaderLen < 65536 := by
      rw [hframe, Zigbee.czHeaderLen]
      omega
    let frame : Frame := ⟨(4 + 4 * status.num).toNat + Zigbee.czHeaderLen, buf⟩
    have hsome : (Operation.setStatus status).frame wbuf dev transId = some frame := by
      rw [Operation.frame, Zigbee.setStatusFrame, hbuf]
      rfl
    have hagree : AgreeBelow (Zigbee.czHeaderLen + 4) frame.buf (Zigbee.frameHeader wbuf
        (4 + 4 * status.num).toNat .uc dev.shortAddr dev.endPoint transId .setStatus) := hheader
    obtain ⟨haddressed, hcmd, hsize⟩ := addressed_of_agree hagree rfl hfits
    rw [hlen] at hsize
    refine ⟨frame, hsome, carries_of_copied hcmd hsize (Command.bodyLen_fits _) hframe ?_,
      haddressed⟩
    rw [hnum] at hbuf
    exact encodePairs_copied hbuf hpairs
  | @doAction command act hdevid hid hparam1 hparam2 =>
    let frame := Zigbee.setActionFrame wbuf dev transId act
    have hagree : AgreeBelow (Zigbee.czHeaderLen + 4) frame.buf (Zigbee.frameHeader wbuf
        12 .uc dev.shortAddr dev.endPoint transId .doAction) := by
      intro i hi
      simp only [frame, Zigbee.setActionFrame]
      rw [set32_other _ _ _ _ (by omega), set16_other _ _ _ _ (by omega),
        set16_other _ _ _ _ (by omega)]
    obtain ⟨haddressed, hcmd, hsize⟩ := addressed_of_agree hagree rfl
      (show 12 + Zigbee.czHeaderLen < 65536 by decide)
    refine ⟨frame, rfl, carries_of_copied hcmd hsize (Command.bodyLen_fits _) rfl ?_, haddressed⟩
    exact action_copied _ (Zigbee.czHeaderLen + 4) hid hparam1 hparam2

/-- The act that asks the worker for an operation. -/
def actBody : Operation → HsbActBody
  | .setStatus status => .setStatus status
  | .getStatus status => .getStatus status
  | .setAction act => .doAction act

theorem Command.read_agree (command : Command) (stale : Memory) :
    AgreeBelow command.bytes.length (load command.read stale) (load command.bytes zeros) := by
  cases command with
  | setStatus command => exact load_agree command.bytes stale zeros
  | doAction command =>
    rw [Command.read, load_append]
    exact load_agree command.bytes _ zeros

theorem Command.bytes_length_le (command : Command) :
    8 ≤ command.bytes.length ∧ command.bytes.length ≤ command.read.length := by
  cases command with
  | setStatus command =>
    have hlength := command.length
    rw [Command.bytes, Command.read]
    omega
  | doAction command =>
    have hfields := command.fields
    rw [Command.bytes, Command.read, List.length_append]
    omega

theorem Command.accepted (command : Command) (stale : Memory) :
    checkTcpPktValid (load command.read stale) command.read.length = 0 := by
  obtain ⟨hlong, hread⟩ := command.bytes_length_le
  have hagree := command.read_agree stale
  have hheader : hsbCmdValid (get16 (load command.bytes zeros) 0) = true ∧
      (get16 (load command.bytes zeros) 2).toNat = command.bytes.length := by
    cases command with
    | setStatus command =>
      refine ⟨?_, command.size⟩
      rw [Command.bytes, command.cmd]
      exact HsbCmd.code_valid .setStatus
    | doAction command =>
      refine ⟨?_, command.size⟩
      rw [Command.bytes, command.cmd]
      exact HsbCmd.code_valid .doAction
  apply (checkTcpPktValid_eq_zero_iff _ _).mpr
  rw [hagree.get16 (show 0 + 2 ≤ _ by omega), hagree.get16 (show 2 + 2 ≤ _ by omega), hheader.2]
  exact ⟨by omega, hheader.1, hread⟩

/-- The dispatcher queues one act, and its operation carries the command. -/
theorem dealTcpPacket_command (cb : HsbDeviceCb ρ) (reply : ρ) (stale : Memory)
    (command : Command) :
    ∃ op, Decoded (load command.read stale) command op ∧
      (dealTcpPacket cb (load command.read stale) command.read.length reply).cb.asyncQueue =
        cb.asyncQueue ++ [⟨actBody op, some reply⟩] := by
  have haccepted := command.accepted stale
  have hagree := command.read_agree stale
  obtain ⟨hlong, -⟩ := command.bytes_length_le
  have hdevid : get32 (load command.read stale) 4 = command.devid :=
    hagree.get32 (show 4 + 4 ≤ _ by omega)
  cases command with
  | setStatus command =>
    have hfew := command.few
    have hlength := command.length
    have hread : (Command.setStatus command).read.length = 8 + 4 * command.num := hlength
    have htotal : (statusTotal (Command.setStatus command).read.length).toNat = command.num := by
      rw [hread, statusTotal_of_lt _ (by omega)]
      omega
    refine ⟨.setStatus (queuedStatus (load (Command.setStatus command).read stale)
      (Command.setStatus command).read.length), .setStatus ?_ ?_ ?_, ?_⟩
    · simp only [queuedStatus, TcpPacket.getDevStatus, readPairs_devid]
      exact hdevid
    · rw [queuedStatus, Coalescing.getDevStatus_num _ _ _ (by omega)]
      omega
    · intro i hi hn
      simp only [queuedStatus, TcpPacket.getDevStatus, htotal]
      exact readPairs_pair _ _ _ i hi hn
    · refine dealTcpPacket_setStatus cb _ _ reply haccepted ?_
      rw [hagree.get16 (show 0 + 2 ≤ _ by omega)]
      exact command.cmd
  | doAction command =>
    have hfields : 16 ≤ (Command.doAction command).bytes.length := command.fields
    have hcmd : get16 (load (Command.doAction command).read stale) 0 = HsbCmd.doAction.code := by
      rw [hagree.get16 (show 0 + 2 ≤ _ by omega)]
      exact command.cmd
    have hid : get16 (load (Command.doAction command).read stale) 8 ≠
        hsbActTypeRemoteControl := by
      rw [hagree.get16 (show 8 + 2 ≤ _ by omega)]
      exact command.action
    let act : HsbAction :=
      { devid := get32 (load (Command.doAction command).read stale) 4
        id := get16 (load (Command.doAction command).read stale) 8
        param1 := get16 (load (Command.doAction command).read stale) 10
        param2 := get32 (load (Command.doAction command).read stale) 12 }
    refine ⟨.setAction act, .doAction hdevid rfl rfl rfl, ?_⟩
    rw [dealTcpPacket_asyncQueue cb _ _ reply haccepted, hcmd]
    simp only [dispatchActs, HsbCmd.ofCode_code, readAction, if_neg hid]
    rfl

/-- The table of the virtual switch driver, over its list and a transfer. -/
def switchCalls (others : DriverCalls) (queue : List VirtualSwitch.VsDev)
    (transfer : VirtualSwitch.Transfer) : DriverCalls :=
  { others with
    setStatus := fun op status =>
      match op with
      | .virtualSwitchOp => VirtualSwitch.virtualSwitchSetStatus queue transfer status
      | .sampleOp => others.setStatus op status
    setAction := fun op act =>
      match op with
      | .virtualSwitchOp => VirtualSwitch.virtualSwitchSetAction queue transfer act
      | .sampleOp => others.setAction op act }

/-- The table of the zigbee driver; an operation returns when its wait is over. -/
def sampleCalls (others : DriverCalls) (operate : Operation → ℤ) : DriverCalls :=
  { others with
    setStatus := fun op status =>
      match op with
      | .virtualSwitchOp => others.setStatus op status
      | .sampleOp => some (operate (.setStatus status))
    setAction := fun op act =>
      match op with
      | .virtualSwitchOp => others.setAction op act
      | .sampleOp => operate (.setAction act) }

/-- What the table of a driver returns for an operation. -/
def driverCall (drivers : DriverCalls) (table : HsbDevOp) : Operation → Option ℤ
  | .setStatus status => drivers.setStatus table status
  | .getStatus status => (drivers.getStatus table status).map Prod.fst
  | .setAction act => some (drivers.setAction table act)

/-- The worker calls the operation of the device's own table. -/
theorem processDevAct_command {client : Memory} {command : Command} {op : Operation}
    (h : Decoded client command op) {cb : HsbDeviceCb ρ} {dev : HsbDev} {table : HsbDevOp}
    (hdev : findDev cb command.devid = some dev) (htable : dev.op = some table)
    (drivers : DriverCalls) (reply : Option ρ) :
    processDevAct cb drivers ⟨actBody op, reply⟩ =
      (driverCall drivers table op).map fun ret => ⟨cb, resultNotices reply ret⟩ := by
  cases h with
  | @setStatus command status hdevid hnum hpairs =>
    have hbox : ¬((Command.setStatus command).devid = 0 ∧
        status.id.get 0 = hsbStatusTypeWorkMode) := fun hzero => command.device hzero.1
    simp only [processDevAct, actBody, setDevStatus, hdevid, if_neg hbox, hdev, htable,
      Option.map_map]
    rfl
  | @doAction command act hdevid hid hparam1 hparam2 =>
    simp only [processDevAct, actBody, setDevAction, hdevid, hdev, htable, driverCall,
      Option.map_some]

theorem Decoded.devid {client : Memory} {command : Command} {op : Operation}
    (h : Decoded client command op) : op.devid = command.devid := by
  cases h with
  | setStatus hdevid => exact hdevid
  | doAction hdevid => exact hdevid

/-- A known switch gets its frame in one transfer, and the answer to it decides. -/
theorem switchCall_known {client : Memory} {command : Command} {op : Operation}
    (h : Decoded client command op) {queue : List VirtualSwitch.VsDev}
    {dev : VirtualSwitch.VsDev} (hdev : VirtualSwitch.findDevById queue command.devid = some dev)
    {frame : Frame} (hframe : vsFrame op = some frame) (others : DriverCalls)
    (transfer : VirtualSwitch.Transfer) :
    driverCall (switchCalls others queue transfer) .virtualSwitchOp op =
      some (VirtualSwitch.resultCode (transfer dev.ip frame.bytes).1
        (transfer dev.ip frame.bytes).2) := by
  rw [← h.devid] at hdev
  cases h with
  | setStatus _ _ _ =>
    rw [vsFrame] at hframe
    simp only [Operation.devid] at hdev
    simp only [driverCall, switchCalls, VirtualSwitch.virtualSwitchSetStatus, hdev, hframe,
      Option.map_some]
  | doAction _ _ _ _ =>
    rw [← Option.some.inj hframe]
    simp only [Operation.devid] at hdev
    simp only [driverCall, switchCalls, VirtualSwitch.virtualSwitchSetAction, hdev]

theorem switchCall_unknown {client : Memory} {command : Command} {op : Operation}
    (h : Decoded client command op) {queue : List VirtualSwitch.VsDev}
    (hdev : VirtualSwitch.findDevById queue command.devid = none) (others : DriverCalls)
    (transfer : VirtualSwitch.Transfer) :
    driverCall (switchCalls others queue transfer) .virtualSwitchOp op =
      some HsbErrorNo.entryNotFound.code := by
  rw [← h.devid] at hdev
  cases h with
  | setStatus _ _ _ =>
    simp only [Operation.devid] at hdev
    simp only [driverCall, switchCalls, VirtualSwitch.virtualSwitchSetStatus, hdev]
  | doAction _ _ _ _ =>
    simp only [Operation.devid] at hdev
    simp only [driverCall, switchCalls, VirtualSwitch.virtualSwitchSetAction, hdev]

theorem sampleCall {client : Memory} {command : Command} {op : Operation}
    (h : Decoded client command op) (others : DriverCalls) (operate : Operation → ℤ) :
    driverCall (sampleCalls others operate) .sampleOp op = some (operate op) := by
  cases h with
  | setStatus _ _ _ => rfl
  | doAction _ _ _ _ => rfl

/-- A step issues a frame, or what it writes to the UART is what the send buffer holds. -/
theorem step_uart {s s' : LinkState} {a : Step} (h : step s a = some s') :
    s'.issued.length = s.issued.length + 1 ∨
      s'.issued.length = s.issued.length ∧ s'.sendBuf = s.sendBuf ∧
        ∃ k, s'.uart = s.uart ++ List.replicate k s.sendBuf := by
  have hlength : ∀ s : LinkState, (ZigbeeSending.sendPath s).written.length = s.issued.length :=
    fun s => List.length_map Frame.bytes
  rcases ZigbeeSending.step_sendPath s s' a h with ⟨frame, -, hwrite⟩ | ⟨-, hread⟩ | hsame
  · refine Or.inl ?_
    rw [← hlength s', hwrite, ← hlength s]
    exact List.length_append
  · refine Or.inr ⟨?_, congrArg SharedBuffer.Buffer.content hread, 1,
      congrArg SharedBuffer.Buffer.read hread⟩
    rw [← hlength s', hread]
    exact hlength s
  · refine Or.inr ⟨?_, congrArg SharedBuffer.Buffer.content hsame, 0, ?_⟩
    · rw [← hlength s', hsame, hlength s]
    · rw [List.replicate_zero, List.append_nil]
      exact congrArg SharedBuffer.Buffer.read hsame

/-- Until the next frame is issued, the UART gets nothing but the one in the send
buffer. -/
theorem run_uart (steps : List Step) :
    ∀ s t : LinkState, Transitions.run step s steps = some t →
      s.issued.length ≤ t.issued.length ∧ (t.issued.length = s.issued.length →
        ∃ k, t.uart = s.uart ++ List.replicate k s.sendBuf) := by
  induction steps with
  | nil =>
    intro s t hrun
    cases Option.some.inj hrun
    exact ⟨Nat.le_refl _, fun _ => ⟨0, (List.append_nil _).symm⟩⟩
  | cons a rest ih =>
    intro s t hrun
    obtain ⟨s', hs', hrest⟩ := Transitions.run_cons_eq_some step s t a rest hrun
    obtain ⟨hmore, huart⟩ := ih s' t hrest
    rcases step_uart hs' with hissued | ⟨hissued, hsendBuf, k, hk⟩
    · exact ⟨by omega, fun hsame => absurd hsame (by omega)⟩
    · refine ⟨by omega, ?_⟩
      intro hsame
      obtain ⟨k', hk'⟩ := huart (by omega)
      refine ⟨k + k', ?_⟩
      rw [hk', hk, hsendBuf, List.append_assoc, List.replicate_append_replicate]

/-- Whatever the core and the drivers look like when the worker comes to the act: if the
device is online then, its driver sends the command on, to the device, as its own. -/
structure Relayed (act : HsbAct ρ) (command : Command) : Prop where
  transfers : ∀ (cb : HsbDeviceCb ρ) (dev : HsbDev) (queue : List VirtualSwitch.VsDev)
    (switch : VirtualSwitch.VsDev), findDev cb command.devid = some dev →
      dev.op = some .virtualSwitchOp →
      VirtualSwitch.findDevById queue command.devid = some switch →
      ∃ frame, Carries frame 0 command.vsCmd.code command.body ∧
        ∀ others transfer, processDevAct cb (switchCalls others queue transfer) act =
          some ⟨cb, resultNotices act.reply (VirtualSwitch.resultCode
            (transfer switch.ip frame.bytes).1 (transfer switch.ip frame.bytes).2)⟩
  noTransfer : ∀ (cb : HsbDeviceCb ρ) (dev : HsbDev) (queue : List VirtualSwitch.VsDev),
    findDev cb command.devid = some dev → dev.op = some .virtualSwitchOp →
      VirtualSwitch.findDevById queue command.devid = none →
      ∀ others transfer, processDevAct cb (switchCalls others queue transfer) act =
        some ⟨cb, resultNotices act.reply HsbErrorNo.entryNotFound.code⟩
  issues : ∀ (cb : HsbDeviceCb ρ) (dev : HsbDev) (link : LinkState) (node : Zigbee.CzDev)
    (wbuf : Memory), findDev cb command.devid = some dev → dev.op = some .sampleOp →
      link.worker = .idle → Zigbee.findDevById link.queue command.devid = some node →
      ∃ (op : Operation) (frame : Frame) (link' : LinkState),
        (∀ others operate, processDevAct cb (sampleCalls others operate) act =
          some ⟨cb, resultNotices act.reply (operate op)⟩) ∧
        request link op wbuf = some link' ∧ link'.issued = link.issued ++ [frame] ∧
        Carries frame Zigbee.czHeaderLen command.czCmd.code command.body ∧
        Addressed frame node link.transId ∧
        ∀ steps t, Transitions.run step link' steps = some t →
          t.issued.length = link'.issued.length →
            ∃ k, t.uart = link'.uart ++ List.replicate k frame.bytes
  noIssue : ∀ (cb : HsbDeviceCb ρ) (dev : HsbDev) (link : LinkState) (wbuf : Memory),
    findDev cb command.devid = some dev → dev.op = some .sampleOp → link.worker = .idle →
      Zigbee.findDevById link.queue command.devid = none →
      ∃ (op : Operation) (link' : LinkState),
        (∀ others operate, processDevAct cb (sampleCalls others operate) act =
          some ⟨cb, resultNotices act.reply (operate op)⟩) ∧
        request link op wbuf = some link' ∧ link'.issued = link.issued

theorem relayed_of_decoded {command : Command} {op : Operation} {stale : Memory}
    (h : Decoded (load command.read stale) command op) (reply : Option ρ) :
    Relayed (⟨actBody op, reply⟩ : HsbAct ρ) command where
  transfers cb dev queue switch hdev htable hswitch := by
    obtain ⟨frame, hframe, hcarries⟩ := vsFrame_carries h
    rw [← Command.body_eq] at hcarries
    refine ⟨frame, hcarries, fun others transfer => ?_⟩
    rw [processDevAct_command h hdev htable, switchCall_known h hswitch hframe]
    rfl
  noTransfer cb dev queue hdev htable hnone others transfer := by
    rw [processDevAct_command h hdev htable, switchCall_unknown h hnone]
    rfl
  issues cb dev link node wbuf hdev htable hidle hnode := by
    obtain ⟨frame, hframe, hcarries, haddressed⟩ := czFrame_carries h wbuf node link.transId
    rw [← Command.body_eq] at hcarries
    have hrequest : request link op wbuf = some { sendFrame link frame with
        isWaiting := true
        worker := .waiting op frame .blocked } := by
      simp only [request, hidle, h.devid, hnode, hframe, Option.map_some]
    refine ⟨op, frame, _, ?_, hrequest, rfl, hcarries, haddressed, ?_⟩
    · intro others operate
      rw [processDevAct_command h hdev htable, sampleCall h]
      rfl
    · intro steps t hrun hissued
      exact (run_uart steps _ t hrun).2 hissued
  noIssue cb dev link wbuf hdev htable hidle hnone := by
    refine ⟨op, { link with
      completed := link.completed ++ [⟨none, HsbErrorNo.entryNotFound.code, none⟩] }, ?_, ?_, rfl⟩
    · intro others operate
      rw [processDevAct_command h hdev htable, sampleCall h]
      rfl
    · simp only [request, hidle, h.devid, hnone]

/-- A command of a client is queued as one act, and it is sent on with the bytes that the
client sent. -/
theorem command_relayed (cb : HsbDeviceCb ρ) (reply : ρ) (stale : Memory) (command : Command) :
    ∃ act : HsbAct ρ,
      (dealTcpPacket cb (load command.read stale) command.read.length reply).cb.asyncQueue =
        cb.asyncQueue ++ [act] ∧ act.reply = some reply ∧ Relayed act command := by
  obtain ⟨op, hdecoded, hqueued⟩ := dealTcpPacket_command cb reply stale command
  exact ⟨⟨actBody op, some reply⟩, hqueued, rfl, relayed_of_decoded hdecoded (some reply)⟩

/-- One pair for device 1. -/
example : (Command.setStatus
    { bytes := [0x23, 0x88, 12, 0, 1, 0, 0, 0, 0, 0, 1, 0], num := 1, few := by decide,
      length := rfl, cmd := by decide, size := by decide, device := by decide }).body =
    [0, 0, 1, 0] := rfl

end HomeSecurityBox.CommandRelay
