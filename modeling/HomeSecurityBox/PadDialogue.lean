import HomeSecurityBox.Base.Simulation
import HomeSecurityBox.Box
import HomeSecurityBox.PadInput

/-!
A dialogue between the pad and the box. Against lines, packets and receive buffers with
old contents stands the same dialogue in calls with values: a command is a call on the
control block and its answer is a message. Over whole runs, with other clients, devices
and ticks between the lines, both do the same to the box and show the same messages.
-/

namespace HomeSecurityBox.PadDialogue

open ByteMemory Protocol DeviceData Device DeviceEvents DevAct Registry RemoteCtl TcpPacket PadSim
  PadInput ReplyCodec Box Transitions

variable {ρ : Type}

/-- The timer that `set timer` is about: off at 21:49 on every day. -/
def padTimer (timer : ℤ) : HsbTimer where
  id := UInt16.ofInt timer
  workMode := 0xff
  hour := 21
  min := 49
  wday := 0x7F
  actParam1 := 1

/-- The action of the numbers of an `action`, with the keys of a remote control mapped. -/
def padAction (dev id param1 param2 : ℤ) : Except ℤ HsbAction :=
  if UInt16.ofInt id = hsbActTypeRemoteControl then
    remoteKeyMapping (UInt16.ofInt param1) (UInt32.ofInt param2) { devid := UInt32.ofInt dev }
  else
    .ok
      { devid := UInt32.ofInt dev
        id := UInt16.ofInt id
        param1 := UInt16.ofInt param1
        param2 := UInt32.ofInt param2 }

/-- A value is told, or the code of the error. -/
def told {α : Type} (found : Except ℤ α) (message : α → PadMessage) : PadMessage :=
  match found with
  | .ok a => message a
  | .error code => .result (UInt16.ofInt code)

def stored (cb : HsbDeviceCb ρ) (result : Except ℤ (HsbDeviceCb ρ)) :
    Option PadMessage × HsbDeviceCb ρ :=
  match result with
  | .ok cb' => (some (.result (UInt16.ofInt HsbErrorNo.ok.code)), cb')
  | .error code => (some (.result (UInt16.ofInt code)), cb)

/-- A command as a call on the box: the message that answers it at once and the new
control block. -/
def call (cb : HsbDeviceCb ρ) (pad : ρ) : PadCommand → Option PadMessage × HsbDeviceCb ρ
  | .getDevices => (some (.devs (getDevIdList cb)), cb)
  | .getInfo dev =>
      (some (told (getDevInfo cb (UInt32.ofInt dev)) fun found => (Value.info found).message), cb)
  | .getStatus dev => (none, getDevStatusAsync cb (UInt32.ofInt dev) (some pad))
  | .setStatus dev id val =>
      (none, setDevStatusAsync cb
        (HsbStatus.ofPair (UInt32.ofInt dev) (UInt16.ofInt id) (UInt16.ofInt val)) (some pad))
  | .getTimer dev timer =>
      (some (told (getDevTimer cb (UInt32.ofInt dev) (UInt16.ofInt timer))
        (.timer (UInt32.ofInt dev))), cb)
  | .setTimer dev timer => stored cb (setDevTimer cb (UInt32.ofInt dev) (padTimer timer))
  | .delTimer dev timer => stored cb (delDevTimer cb (UInt32.ofInt dev) (UInt16.ofInt timer))
  | .probe drv =>
      (none, probeDevAsync cb { drvid := UInt32.ofNat (UInt16.ofInt drv).toNat } (some pad))
  | .action dev id param1 param2 =>
      match padAction dev id param1 param2 with
      | .ok act => (none, setDevActionAsync cb act (some pad))
      | .error code => (some (.result (UInt16.ofInt code)), cb)

theorem dealTcpPacket_packet (cb : HsbDeviceCb ρ) (cmd : PadCommand) (stale : Memory) (pad : ρ) :
    let done := dispatchCmd cb (load cmd.packet.bytes stale) cmd.packet.len pad cmd.code.code
    dealTcpPacket cb (load cmd.packet.bytes stale) cmd.packet.len pad =
      ⟨0, cmd.packet.len, done.frame.map Frame.bytes, done.cb⟩ := by
  obtain ⟨hcode, hsize, haccept⟩ := packet_accepted cmd stale
  simp only [dealTcpPacket, haccept, ne_eq, not_true_eq_false, if_false, hcode, hsize]

/-- What the pad reads out of a reply frame, whatever its buffer held. -/
def heard (padStale : Memory) (frame : Option Frame) : Option PadMessage :=
  frame.map fun frame => dealTcpPkt (load frame.bytes padStale)

theorem heard_answer {α : Type} (cb : HsbDeviceCb ρ) (found : Except ℤ α) (encode : α → Frame)
    (message : α → PadMessage) (padStale : Memory)
    (h : ∀ a, Decodes replyBufSize (encode a) (message a)) :
    heard padStale (answer cb found encode).frame = some (told found message) := by
  cases found with
  | ok a => exact congrArg some ((h a).read padStale)
  | error code =>
    exact congrArg some
      ((replyResult_decodes zeros code replyBufSize (by decide) (by decide)).read padStale)

theorem heard_confirm (cb : HsbDeviceCb ρ) (result : Except ℤ (HsbDeviceCb ρ)) (padStale : Memory) :
    (heard padStale (confirm cb result).frame, (confirm cb result).cb) = stored cb result := by
  have hread := fun code =>
    (replyResult_decodes zeros code replyBufSize (by decide) (by decide)).read padStale
  cases result with
  | ok cb' => exact Prod.ext (congrArg some (hread _)) rfl
  | error code => exact Prod.ext (congrArg some (hread code)) rfl

theorem getDevStatus_pair (buf : Memory) (devid : UInt32) :
    TcpPacket.getDevStatus buf 12 { devid := devid } =
      HsbStatus.ofPair devid (get16 buf 8) (get16 buf 10) := rfl

theorem readTimer_packet (dev timer : ℤ) (stale : Memory) :
    readTimer (load (PadCommand.setTimer dev timer).packet.bytes stale) = padTimer timer := by
  have hagree : AgreeBelow 24 _ _ := packet_agree (.setTimer dev timer) stale
  simp (disch := omega) only [readTimer, hagree.get16, hagree.get32, hagree.get8]
  simp (disch := omega) only [PadCommand.packet, get16_set16, get16_set16_other,
    get16_set8_other, get8_set16_other, get8_set8, get8_set8_other, get32_set16_other,
    get32_set8_other, get32_set32_other, makeCmdHdr]
  rfl

theorem readAction_packet (dev id param1 param2 : ℤ) (stale : Memory) :
    readAction (load (PadCommand.action dev id param1 param2).packet.bytes stale) =
      padAction dev id param1 param2 := by
  have hagree : AgreeBelow 16 _ _ := packet_agree (.action dev id param1 param2) stale
  simp (disch := omega) only [readAction, hagree.get16, hagree.get32]
  simp (disch := omega) only [PadCommand.packet, get16_set32_other, get16_set16,
    get16_set16_other, get32_set32, get32_set32_other, get32_set16_other]
  rfl

/-- A packet of the pad is the call, and the pad reads the answer of the call. -/
theorem packet_served (cb : HsbDeviceCb ρ) (cmd : PadCommand) (stale padStale : Memory) (pad : ρ)
    (hfew : cmd = .getDevices → (getDevIdList cb).length ≤ 128) :
    let done := dispatchCmd cb (load cmd.packet.bytes stale) cmd.packet.len pad cmd.code.code
    (heard padStale done.frame, done.cb) = call cb pad cmd := by
  have hagree := packet_agree cmd stale
  cases cmd with
  | getDevices =>
    have hread := (replyDevIdList_decodes zeros (getDevIdList cb) (hfew rfl)).read padStale
    exact Prod.ext (congrArg some hread) rfl
  | getInfo dev =>
    have hdev := hagree.get32 (show 4 + 4 ≤ 8 by decide)
    simp only [PadCommand.packet, get32_set32] at hdev
    simp only [PadCommand.code, dispatchCmd, HsbCmd.ofCode_code, call, PadCommand.packet, hdev,
      answer_cb]
    rw [heard_answer cb _ _ _ padStale fun found => replyGetDeviceInfo_decodes zeros found]
  | getStatus dev =>
    have hdev := hagree.get32 (show 4 + 4 ≤ 8 by decide)
    simp only [PadCommand.packet, get32_set32] at hdev
    simp only [PadCommand.code, dispatchCmd, HsbCmd.ofCode_code, call, PadCommand.packet, hdev]
    rfl
  | setStatus dev id val =>
    have hdev := hagree.get32 (show 4 + 4 ≤ 12 by decide)
    have hid := hagree.get16 (show 8 + 2 ≤ 12 by decide)
    have hval := hagree.get16 (show 10 + 2 ≤ 12 by decide)
    simp (disch := omega) only [PadCommand.packet, get32_set16_other, get32_set32,
      get16_set16_other, get16_set16] at hdev hid hval
    simp only [PadCommand.code, dispatchCmd, HsbCmd.ofCode_code, call, PadCommand.packet,
      getDevStatus_pair, hdev, hid, hval]
    rfl
  | getTimer dev timer =>
    have hdev := hagree.get32 (show 4 + 4 ≤ 12 by decide)
    have htimer := hagree.get16 (show 8 + 2 ≤ 12 by decide)
    simp (disch := omega) only [PadCommand.packet, get32_set16_other, get32_set32,
      get16_set16] at hdev htimer
    simp only [PadCommand.code, dispatchCmd, HsbCmd.ofCode_code, call, PadCommand.packet, hdev,
      htimer, answer_cb]
    rw [heard_answer cb _ _ _ padStale fun tm => replyGetTimer_decodes zeros _ tm]
  | setTimer dev timer =>
    have hdev : get32 (load (PadCommand.setTimer dev timer).packet.bytes stale) 4 =
        UInt32.ofInt dev := by
      rw [hagree.get32 (show 4 + 4 ≤ 24 by decide)]
      simp (disch := omega) only [PadCommand.packet, get32_set16_other, get32_set8_other,
        get32_set32]
    simp only [PadCommand.code, dispatchCmd, HsbCmd.ofCode_code, call, readTimer_packet, hdev]
    exact heard_confirm cb _ padStale
  | delTimer dev timer =>
    have hdev := hagree.get32 (show 4 + 4 ≤ 12 by decide)
    have htimer := hagree.get16 (show 8 + 2 ≤ 12 by decide)
    simp (disch := omega) only [PadCommand.packet, get32_set16_other, get32_set32,
      get16_set16] at hdev htimer
    simp only [PadCommand.code, dispatchCmd, HsbCmd.ofCode_code, call, PadCommand.packet, hdev,
      htimer]
    exact heard_confirm cb _ padStale
  | probe drv =>
    have hdrv := hagree.get16 (show 4 + 2 ≤ 8 by decide)
    simp only [PadCommand.packet, get16_set16] at hdrv
    simp only [PadCommand.code, dispatchCmd, HsbCmd.ofCode_code, call, PadCommand.packet, hdrv]
    rfl
  | action dev id param1 param2 =>
    simp only [PadCommand.code, dispatchCmd, HsbCmd.ofCode_code, call, readAction_packet]
    cases padAction dev id param1 param2 with
    | ok act => rfl
    | error code =>
      exact Prod.ext (congrArg some
        ((replyResult_decodes zeros code replyBufSize (by decide) (by decide)).read padStale)) rfl

/-- The responses and events that a step of the box hands to `notify_resp`. -/
def notices (s : BoxState ρ) : BoxStep ρ → List (HsbResp ρ)
  | .online drvid info op =>
      ((devOnline s.cb drvid info op).map fun done => [done.notice]).getD []
  | .offline devid => (devOffline s.cb devid).2.2
  | .event devid type param1 param2 => [(devEvent s.cb devid type param1 param2).2]
  | .mode mode => (setBoxWorkMode s.cb mode).2.2
  | .act drivers =>
      match s.cb.asyncQueue with
      | [] => []
      | act :: rest =>
          ((processDevAct { s.cb with asyncQueue := rest } drivers act).map
            Processed.notices).getD []
  | .packet .. | .tick _ => []

/-- Every client gets the events and the answers to its own acts. -/
def toPad [DecidableEq ρ] (pad : ρ) (resp : HsbResp ρ) : Bool :=
  resp.body.isEvent || decide (resp.reply = some pad)

def respMessage (resp : HsbResp ρ) : PadMessage :=
  match resp.body with
  | .event event => .event event
  | .result retVal => .result (UInt16.ofInt retVal)
  | .status status => .status status.devid (statusPairs status)

/-- A line is typed at the pad, or the box takes another step. Each comes with what the
receive buffers hold from before, a line with what is typed behind it. -/
inductive DialogueStep (ρ : Type)
  | typed (cmd : PadCommand) (rest : List Char) (stale padStale : Memory)
  | other (step : BoxStep ρ) (padStale : Memory)

/-- The line is read, its packet written, received and handled. -/
def dialogueStep (pad : ρ) (s : BoxState ρ) : DialogueStep ρ → Option (BoxState ρ)
  | .typed cmd rest stale _ =>
      match dealInputCmd (cmd.line ++ rest) with
      | .invalid => some s
      | .undefined => none
      | .written bytes => boxStep s (.packet (load bytes stale) bytes.length pad)
  | .other step _ => boxStep s step

/-- What the pad reads out of the packets that a step sends to it. -/
def padHears [DecidableEq ρ] (pad : ρ) (s : BoxState ρ) : DialogueStep ρ → List PadMessage
  | .typed cmd rest stale padStale =>
      match dealInputCmd (cmd.line ++ rest) with
      | .invalid | .undefined => []
      | .written bytes =>
          ((dealTcpPacket s.cb (load bytes stale) bytes.length pad).written.map fun reply =>
            dealTcpPkt (load reply padStale)).toList
  | .other step padStale =>
      ((notices s step).filter (toPad pad)).filterMap fun resp =>
        (Notify.makeNotifyResp resp).map fun frame => dealTcpPkt (load frame.bytes padStale)

/-- The same in calls: no text, no packet, no buffer. -/
inductive CallStep (ρ : Type)
  | call (cmd : PadCommand)
  | other (step : BoxStep ρ)

def DialogueStep.toCall : DialogueStep ρ → CallStep ρ
  | .typed cmd _ _ _ => .call cmd
  | .other step _ => .other step

def callStep (pad : ρ) (s : BoxState ρ) : CallStep ρ → Option (BoxState ρ)
  | .call cmd => some { s with cb := (call s.cb pad cmd).2 }
  | .other step => boxStep s step

def callHears [DecidableEq ρ] (pad : ρ) (s : BoxState ρ) : CallStep ρ → List PadMessage
  | .call cmd => (call s.cb pad cmd).1.toList
  | .other step => ((notices s step).filter (toPad pad)).map respMessage

/-- A status has at most eight pairs. -/
def Fits : HsbRespBody → Prop
  | .status status => status.num.toNat ≤ 8
  | .event _ | .result _ => True

instance : (body : HsbRespBody) → Decidable (Fits body)
  | .status status => inferInstanceAs (Decidable (status.num.toNat ≤ 8))
  | .event _ | .result _ => inferInstanceAs (Decidable True)

/-- A line ends or goes on with a blank, its numbers can be read and its packet fits the
pad's buffer, the ids of the devices fit the box's, and the pairs of a status a packet. -/
def Sound (s : BoxState ρ) : DialogueStep ρ → Prop
  | .typed cmd rest _ _ =>
      Scanf.Ended rest ∧ cmd.readable = true ∧ cmd.packet.len ≤ rbufSize ∧
        (cmd = .getDevices → (getDevIdList s.cb).length ≤ 128)
  | .other step _ => ∀ resp ∈ notices s step, Fits resp.body

instance (s : BoxState ρ) : (step : DialogueStep ρ) → Decidable (Sound s step)
  | .typed cmd rest _ _ => inferInstanceAs (Decidable
      (Scanf.Ended rest ∧ cmd.readable = true ∧ cmd.packet.len ≤ rbufSize ∧
        (cmd = .getDevices → (getDevIdList s.cb).length ≤ 128)))
  | .other step _ => inferInstanceAs (Decidable (∀ resp ∈ notices s step, Fits resp.body))

theorem notice_heard (resp : HsbResp ρ) (padStale : Memory)
    (hfits : Fits resp.body) :
    (Notify.makeNotifyResp resp).map (fun frame => dealTcpPkt (load frame.bytes padStale)) =
      some (respMessage resp) := by
  obtain ⟨body, reply⟩ := resp
  cases body with
  | event event =>
    obtain ⟨frame, hframe, hdecodes⟩ := notifyEvent_decodes event
    have hsame : Notify.makeNotifyResp (⟨.event event, reply⟩ : HsbResp ρ) = some frame := hframe
    rw [hsame]
    exact congrArg some (hdecodes.read padStale)
  | result retVal =>
    exact congrArg some
      ((replyResult_decodes zeros retVal Notify.notifyBufSize (by decide)
        (by decide)).read padStale)
  | status status =>
    obtain ⟨frame, hframe, hdecodes⟩ := notifyStatus_decodes status hfits
    have hsame : Notify.makeNotifyResp (⟨.status status, reply⟩ : HsbResp ρ) = some frame := hframe
    rw [hsame]
    exact congrArg some (hdecodes.read padStale)

/-- A line that fits does what its call does. -/
theorem typed_step [DecidableEq ρ] {pad : ρ} {s : BoxState ρ} {step : DialogueStep ρ}
    (h : Sound s step) :
    dialogueStep pad s step = callStep pad s step.toCall ∧
      padHears pad s step = callHears pad s step.toCall := by
  cases step with
  | typed cmd rest stale padStale =>
    obtain ⟨hrest, hreadable, hfits, hfew⟩ := h
    have hwritten : dealInputCmd (cmd.line ++ rest) = .written cmd.packet.bytes := by
      rw [dealInputCmd_line hrest hreadable, if_pos hfits]
    have hserved := packet_served s.cb cmd stale padStale pad hfew
    have hdone := dealTcpPacket_packet s.cb cmd stale pad
    constructor
    · simp only [dialogueStep, hwritten, DialogueStep.toCall, callStep, boxStep,
        Frame.bytes_length, hdone]
      rw [← hserved]
    · simp only [padHears, hwritten, DialogueStep.toCall, callHears, Frame.bytes_length, hdone]
      rw [← hserved, heard, Option.map_map]
      rfl
  | other step padStale =>
    refine ⟨rfl, ?_⟩
    simp only [padHears, DialogueStep.toCall, callHears]
    have hall : ∀ resp ∈ (notices s step).filter (toPad pad),
        (Notify.makeNotifyResp resp).map (fun frame => dealTcpPkt (load frame.bytes padStale)) =
          some (respMessage resp) := by
      intro resp hresp
      exact notice_heard resp padStale (h resp (List.mem_of_mem_filter hresp))
    rw [List.filterMap_congr hall, ← List.filterMap_eq_map]
    rfl

/-- The wire does not show: over every run, whatever lines are typed and whatever else
happens to the box between them, lines and packets lead to the states and to the
messages of the calls. -/
theorem dialogue_is_calls [DecidableEq ρ] (pad : ρ) (steps : List (DialogueStep ρ))
    (s : BoxState ρ) (hsound : Guarded (dialogueStep pad) Sound s steps) :
    run (dialogueStep pad) s steps = run (callStep pad) s (steps.map DialogueStep.toCall) ∧
      collect (dialogueStep pad) (padHears pad) s steps =
        collect (callStep pad) (callHears pad) s (steps.map DialogueStep.toCall) :=
  run_translated (fun _ _ => typed_step) steps s hsound

/-- A device comes, is listed, is asked for a timer that it has not got and switched. -/
def lampDialogue : List (DialogueStep Unit) :=
  [.other (.online 1 { cls := 1 } (some .virtualSwitchOp)) zeros,
    .typed .getDevices ['\n'] zeros zeros,
    .typed (.getTimer 1 5) ['\n'] (fun _ => 0x88) (fun _ => 0x88),
    .typed (.setStatus 1 0 1) [] (fun _ => 7) zeros,
    .other (.act ⟨fun _ => 0, fun _ _ => none, fun _ _ => some 0, fun _ _ => 0⟩) (fun _ => 9)]

theorem dialogue_is_calls_lamp :
    collect (dialogueStep ()) (padHears ()) (BoxState.start [⟨1⟩]) lampDialogue =
      [.event { devid := 1, id := 1, param1 := 1 }, .devs [1], .result 3, .result 0] := by
  have hsound : Guarded (dialogueStep ()) Sound (BoxState.start [⟨1⟩]) lampDialogue := by
    decide +kernel
  rw [(dialogue_is_calls () lampDialogue (BoxState.start [⟨1⟩]) hsound).2]
  decide +kernel

end HomeSecurityBox.PadDialogue