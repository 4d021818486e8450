import HomeSecurityBox.House

/-!
What the clients of the box are told of a switch in the house. Their requests go through
the queue of the worker, the operations of the driver and two datagrams, and come back as
responses; what the switch announces comes back as events. All of it together is one
register that is served to the clients.
-/

namespace HomeSecurityBox.HouseStatus

open ByteMemory Protocol DeviceData Device DeviceEvents DevAct VirtualSwitch VsDriver StaleBytes
  SwitchSim Box PadSim PadDialogue House Transitions

variable {ρ : Type}

/-- An act that sets or asks for a status of the switch. -/
def aboutSwitch (simAddr : UInt32) (s : HouseState ρ) : HsbActBody → Bool
  | .setStatus status =>
      !setsWorkMode status && isVirtualSwitch s.cb status.devid &&
        addressed simAddr s.conv status.devid
  | .getStatus status => isVirtualSwitch s.cb status.devid && addressed simAddr s.conv status.devid
  | .probe _ | .doAction _ => false

/-- Results, statuses, and of the events those of a status. -/
def isStatusNews (resp : HsbResp ρ) : Bool :=
  match resp.body with
  | .event event => event.id == HsbEvtType.statusUpdated.code
  | .result _ | .status _ => true

/-- Whom a response is for and what its client reads out of it. -/
def spoken (resp : HsbResp ρ) : Option ρ × PadMessage := (resp.reply, respMessage resp)

/-- The steps in which the switch takes part. -/
def involved (simAddr : UInt32) (s : HouseState ρ) : HouseStep ρ → Bool
  | .worker _ _ _ => s.cb.asyncQueue.head?.any fun act => aboutSwitch simAddr s act.body
  | .typed _ _ | .packet _ _ => true
  | .probed _ _ | .monitor _ | .box _ => false

def switchNews (scan : List UInt8 → Typed) (simAddr : UInt32) (s : HouseState ρ)
    (step : HouseStep ρ) : List (Option ρ × PadMessage) :=
  if involved simAddr s step then
    ((collect boxStep notices s.box (boxSteps scan simAddr s step)).filter isStatusNews).map spoken
  else []

/-- What comes to the switch, with the client that waits for an answer, what the network
does and the device whose events the monitor thread raises. -/
inductive Visit (ρ : Type)
  | set (reply : Option ρ) (val : UInt16) (acked : Bool) (listener : Option UInt32)
  | missed (reply : Option ρ)
  | get (reply : Option ρ) (devid : UInt32) (answered : Bool)
  | write (val : UInt32) (listener : Option UInt32)
  | other

def answerOf (reply : Option ρ) (code : ℤ) : List (Option ρ × PadMessage) :=
  reply.toList.map fun client => (some client, .result (UInt16.ofInt code))

def newsOf (reg : UInt16) (val : UInt32) (listener : Option UInt32) :
    List (Option ρ × PadMessage) :=
  if val ≠ reg.toUInt32 then
    listener.toList.map fun devid =>
      (none, .event
        { devid := devid
          id := HsbEvtType.statusUpdated.code
          param1 := 0
          param2 := UInt32.ofNat val.toUInt16.toNat })
  else []

/-- One register of 16 bits that is served to clients. -/
def service : Reference UInt16 (Visit ρ) (Option ρ × PadMessage) where
  next reg
    | .set _ val _ _ => val
    | .write val _ => val.toUInt16
    | .missed _ | .get _ _ _ | .other => reg
  shown reg
    | .set reply val acked listener =>
        answerOf reply (if acked then HsbErrorNo.ok.code else HsbErrorNo.invalidMsg.code) ++
          newsOf reg val.toUInt32 listener
    | .missed reply => answerOf reply HsbErrorNo.invalidMsg.code
    | .get reply devid answered =>
        [(reply,
          if answered then .status devid [(0, reg)]
          else .result (UInt16.ofInt HsbErrorNo.invalidMsg.code))]
    | .write val listener => newsOf reg val listener
    | .other => []

/-- The device of the first entry with the address of the switch, if it is heard. -/
def listener (simAddr : UInt32) (s : Conversation ρ) (heard : Bool) : Option UInt32 :=
  if heard then (findDevByIp s.thread.drv.queue simAddr).map VsDev.id else none

def actVisit (simAddr : UInt32) (s : HouseState ρ) (net : Exchange) (act : HsbAct ρ) : Visit ρ :=
  if aboutSwitch simAddr s act.body then
    match act.body with
    | .setStatus status =>
        if net.request = true ∧ firstId status = 0 then
          .set act.reply (firstVal status) net.reply (listener simAddr s.conv net.heard)
        else .missed act.reply
    | .getStatus status => .get act.reply status.devid (net.request && net.reply)
    | .probe _ | .doAction _ => .other
  else .other

def visit (scan : List UInt8 → Typed) (simAddr : UInt32) (s : HouseState ρ) :
    HouseStep ρ → Visit ρ
  | .worker net _ _ => s.cb.asyncQueue.head?.elim .other (actVisit simAddr s net)
  | .typed text heard =>
      match scan (text.take 1023) with
      | .status val => .write val (listener simAddr s.conv heard)
      | _ => .other
  | .packet bytes heard =>
      match packetWrite s.conv.sim bytes with
      | some val => .write val.toUInt32 (listener simAddr s.conv heard)
      | none => .other
  | .probed _ _ | .monitor _ | .box _ => .other

/-- An act that sets a status names one. -/
def BodyNames : HsbActBody → Prop
  | .setStatus status => 1 ≤ status.num.toNat
  | .probe _ | .getStatus _ | .doAction _ => True

instance : DecidablePred BodyNames
  | .setStatus status => inferInstanceAs (Decidable (1 ≤ status.num.toNat))
  | .probe _ | .getStatus _ | .doAction _ => inferInstanceAs (Decidable True)

def ActsNameStatus (s : HouseState ρ) : HouseStep ρ → Prop
  | .worker _ _ _ => ∀ act ∈ s.cb.asyncQueue.head?, BodyNames act.body
  | .typed _ _ | .packet _ _ | .probed _ _ | .monitor _ | .box _ => True

instance (s : HouseState ρ) : DecidablePred (ActsNameStatus s)
  | .worker _ _ _ => inferInstanceAs (Decidable (∀ act ∈ s.cb.asyncQueue.head?, BodyNames act.body))
  | .typed _ _ | .packet _ _ | .probed _ _ | .monitor _ | .box _ =>
      inferInstanceAs (Decidable True)

theorem transfer_self (sim : SimState) (simAddr : UInt32) (net : Exchange) (elsewhere : Transfer)
    (frame : List UInt8) :
    transfer sim simAddr net elsewhere simAddr frame = simTransfer sim simAddr net simAddr frame :=
  if_pos rfl

/-- Setting a status of the switch succeeds exactly if the switch has a status of this id,
hears the request and is heard. -/
theorem setStatus_switch {queue : List VsDev} {sim : SimState} {simAddr : UInt32} {net : Exchange}
    {elsewhere : Transfer} {status : HsbStatus} {dev : VsDev} {frame : Frame}
    (hdev : findDevById queue status.devid = some dev) (haddr : dev.ip = simAddr)
    (hframe : setStatusFrame status = some frame) (hone : 1 ≤ status.num.toNat) :
    virtualSwitchSetStatus queue (transfer sim simAddr net elsewhere) status =
      some (if (net.request = true ∧ firstId status = 0) ∧ net.reply = true then
        HsbErrorNo.ok.code else HsbErrorNo.invalidMsg.code) := by
  obtain ⟨-, hdone⟩ := recvPacket_setStatus sim hframe hone
  simp only [virtualSwitchSetStatus, hdev, hframe, Option.map_some, haddr, transfer_self,
    Option.some.injEq]
  by_cases hnet : net.request = true ∧ net.reply = true
  · obtain ⟨hrequest, hreply⟩ := hnet
    by_cases hzero : firstId status = 0
    · rw [if_pos hzero] at hdone
      have hreplied : (recvPacket sim frame.bytes).2.reply = some (result 1) := by rw [hdone]
      rw [simTransfer_answered hrequest hreply hreplied (take_length _ 8) (by omega) (by omega),
        if_pos ⟨⟨hrequest, hzero⟩, hreply⟩]
      exact resultCode_result net.rbuf
    · rw [if_neg hzero] at hdone
      rw [simTransfer_empty (by rw [hdone]), if_neg fun hall => hzero hall.1.2]
      exact resultCode_failed net.rbuf
  · rw [simTransfer_lost fun hall => hnet hall.2, if_neg fun hall => hnet ⟨hall.1.1, hall.2⟩]
    exact resultCode_failed net.rbuf

theorem decodePairs_devid {ptr : Memory} {rlen : ℕ} (left : ℕ) :
    ∀ {len statusNum : ℕ} {status : HsbStatus} {done : ℕ × HsbStatus},
      StatusCodec.decodePairs ptr rlen left len statusNum status = some done →
        done.2.devid = status.devid := by
  induction left with
  | zero =>
    intro len statusNum status done h
    cases Option.some.inj h
    rfl
  | succ left ih =>
    intro len statusNum status done h
    rw [StatusCodec.decodePairs] at h
    split at h
    · split at h
      · split at h
        · cases Option.some.inj h
          rfl
        · have hrest := ih h
          exact hrest
      · contradiction
    · cases Option.some.inj h
      rfl

theorem getStatus_devid {queue : List VsDev} {ask : Transfer} {status : HsbStatus}
    {answer : ℤ × HsbStatus} (h : virtualSwitchGetStatus queue ask status = some answer) :
    answer.2.devid = status.devid := by
  simp only [virtualSwitchGetStatus] at h
  split at h
  · cases Option.some.inj h
    rfl
  · split at h
    · cases Option.some.inj h
      rfl
    · split at h
      · cases Option.some.inj h
        rfl
      · obtain ⟨read, hread, rfl⟩ := Option.map_eq_some_iff.mp h
        obtain ⟨done, hdone, rfl⟩ := Option.map_eq_some_iff.mp hread
        exact decodePairs_devid _ hdone

theorem statusPairs_one {status : HsbStatus} {id val : UInt16} (h : OnePair status id val) :
    ReplyCodec.statusPairs status = [(id, val)] := by
  obtain ⟨hnum, rfl, rfl⟩ := h
  unfold ReplyCodec.statusPairs
  rw [hnum]
  apply List.ext_getElem
  · simp only [List.length_take, List.length_zip, Vector.length_toList, List.length_singleton]
    rfl
  · intro i hi hi'
    obtain rfl : i = 0 := by
      rw [List.length_singleton] at hi'
      omega
    simp only [List.getElem_take, List.getElem_zip, Vector.getElem_toList, List.getElem_cons_zero]
    rfl

/-- Asking for the status of the switch gives the one that it has, if both are heard. -/
theorem getStatus_switch {queue : List VsDev} {sim : SimState} {simAddr : UInt32} (net : Exchange)
    (elsewhere : Transfer) {status : HsbStatus} {dev : VsDev}
    (hdev : findDevById queue status.devid = some dev) (haddr : dev.ip = simAddr) :
    ∃ answer, virtualSwitchGetStatus queue (transfer sim simAddr net elsewhere) status =
        some answer ∧
      if (net.request && net.reply) = true then
        answer.1 = HsbErrorNo.ok.code ∧ OnePair answer.2 0 sim.statusOnOff
      else answer.1 = HsbErrorNo.invalidMsg.code := by
  by_cases hnet : net.request = true ∧ net.reply = true
  · obtain ⟨hrequest, hreply⟩ := hnet
    have hreplied : (recvPacket sim getStatusFrame.bytes).2.reply =
        some (statusResp sim.statusOnOff) := by
      rw [(recvPacket_getStatus sim).1]
    have htransfer : transfer sim simAddr net elsewhere dev.ip getStatusFrame.bytes =
        (((8 : ℕ) : ℤ), load (statusResp sim.statusOnOff) net.rbuf) := by
      rw [haddr, transfer_self]
      exact simTransfer_answered hrequest hreply hreplied (take_length _ 8) (by omega) (by omega)
    obtain ⟨hcmd, hsize, hid, hval⟩ := fields_of_packet .getStatusResp 8 0 sim.statusOnOff
      (Nat.le_refl 8) (load_take_agree _ net.rbuf 8)
    obtain ⟨read, hread, hpair⟩ := getStatus_answered hdev htransfer hcmd hsize
    rw [statusResp, hid, hval] at hpair
    refine ⟨_, hread, ?_⟩
    rw [if_pos (by rw [hrequest, hreply]; rfl)]
    exact ⟨rfl, hpair⟩
  · refine ⟨(HsbErrorNo.invalidMsg.code, status), ?_, ?_⟩
    · simp only [virtualSwitchGetStatus, hdev]
      rw [haddr, transfer_self, simTransfer_lost fun hall => hnet hall.2]
      rfl
    · rw [if_neg]
      intro hboth
      exact hnet (Bool.and_eq_true_iff.mp hboth)

/-- The event that a status update of a device sends to every client. -/
def statusEvent (devid : UInt32) (id val : UInt16) : HsbResp ρ :=
  ⟨.event
    { devid := devid
      id := HsbEvtType.statusUpdated.code
      param1 := id
      param2 := UInt32.ofNat val.toNat }, none⟩

/-- Of what the monitor thread calls only `_status_updated` is news of a status. -/
theorem raisedSteps_news (r : Option Raised) (b : BoxState ρ) :
    (collect boxStep notices b (raisedSteps r)).filter isStatusNews =
      match r with
      | some (.status devid id val) => [statusEvent devid id val]
      | _ => [] := by
  cases r with
  | none => rfl
  | some raised =>
    cases raised with
    | registration _ _ _ => rfl
    | status devid id val =>
      simp only [raisedSteps, collect_singleton]
      rfl
    | event devid id param param2 =>
      simp only [raisedSteps]
      cases VsEvtType.ofCode id with
      | none => rfl
      | some type =>
        cases type with
        | keyPressed =>
          simp only
          split
          · simp only [collect_singleton, notices, setBoxWorkMode]
            split <;> rfl
          · rfl
        | sensorTriggered | sensorRecovered | irKey =>
          simp only [collect_singleton]
          rfl

/-- What the switch announces of a new status is told to all clients. -/
theorem announced_news {simAddr : UInt32} (s : Conversation ρ) (heard : Bool) {done : Handled}
    {changed : Prop} [Decidable changed] {v : UInt16} (b : BoxState ρ)
    (h : done.announced = if changed then some (statusChanged v) else none) :
    (collect boxStep notices b (announcedSteps simAddr s heard done)).filter isStatusNews =
      if changed then (listener simAddr s heard).toList.map fun devid => statusEvent devid 0 v
      else [] := by
  unfold announcedSteps listener
  rw [h]
  by_cases hchanged : changed
  · cases heard with
    | false => simp [hchanged, collect]
    | true =>
      simp only [hchanged, if_true, incomingSteps, raised_statusChanged, raisedSteps_news]
      cases findDevByIp s.thread.drv.queue simAddr <;> rfl
  · simp [hchanged, collect]

/-- An event that is announced is no news of a status. -/
theorem event_news {simAddr : UInt32} (s : Conversation ρ) (heard : Bool) {done : Handled}
    (b : BoxState ρ) (h : heardStatus simAddr s heard done = []) :
    (collect boxStep notices b (announcedSteps simAddr s heard done)).filter isStatusNews = [] := by
  unfold heardStatus at h
  unfold announcedSteps
  split
  · rename_i bytes hannounced
    simp only [hannounced] at h
    simp only [incomingSteps, raisedSteps_news]
    cases hraised : raisedByDatagram s.thread simAddr bytes with
    | none => rfl
    | some raised =>
      rw [hraised] at h
      cases raised with
      | status devid id val => contradiction
      | event _ _ _ _ | registration _ _ _ => rfl
  · rfl

theorem spoken_results (reply : Option ρ) (ret : ℤ) :
    ((resultNotices reply ret).filter isStatusNews).map spoken = answerOf reply ret := by
  cases reply <;> rfl

/-- A write of the status is news where it changes the number. -/
theorem written_news {simAddr : UInt32} (s : Conversation ρ) (heard : Bool) {done : Handled}
    {reg : UInt16} {val : UInt32} (b : BoxState ρ)
    (h : done.announced =
      if val ≠ reg.toUInt32 then some (statusChanged val.toUInt16) else none) :
    ((collect boxStep notices b (announcedSteps simAddr s heard done)).filter isStatusNews).map
        spoken = newsOf reg val (listener simAddr s heard) := by
  rw [announced_news s heard b h, newsOf]
  split
  · rw [List.map_map]
    rfl
  · rfl

/-- The switch compares numbers of 16 bits. -/
theorem announced_widen {announced : Option (List UInt8)} {reg v : UInt16}
    (h : announced = if v ≠ reg then some (statusChanged v) else none) :
    announced = if v.toUInt32 ≠ reg.toUInt32 then some (statusChanged v.toUInt32.toUInt16)
      else none := by
  simp only [ne_eq, UInt16.toUInt32_inj, UInt16.toUInt16_toUInt32]
  exact h

theorem isVirtualSwitch_spec {cb : HsbDeviceCb ρ} {devid : UInt32}
    (h : isVirtualSwitch cb devid = true) :
    ∃ dev, findDev cb devid = some dev ∧ dev.op = some .virtualSwitchOp := by
  obtain ⟨dev, hdev, hop⟩ := (Option.any_eq_true _ _).mp h
  exact ⟨dev, hdev, eq_of_beq hop⟩

theorem processDevAct_setStatus {cb : HsbDeviceCb ρ} (rest : List (HsbAct ρ))
    (drivers : DriverCalls) {act : HsbAct ρ} {status : HsbStatus}
    (hbody : act.body = .setStatus status) (hdevice : setsWorkMode status = false)
    (hswitch : isVirtualSwitch cb status.devid = true) :
    processDevAct { cb with asyncQueue := rest } drivers act =
      (drivers.setStatus .virtualSwitchOp status).map fun ret =>
        ⟨{ cb with asyncQueue := rest }, resultNotices act.reply ret⟩ := by
  have hmode : ¬(status.devid = 0 ∧ status.id.get 0 = hsbStatusTypeWorkMode) :=
    of_decide_eq_false hdevice
  obtain ⟨dev, hdev, hop⟩ := isVirtualSwitch_spec hswitch
  have hfound : findDev { cb with asyncQueue := rest } status.devid = some dev := hdev
  simp only [processDevAct, hbody, setDevStatus, if_neg hmode, hfound, hop, Option.map_map]
  rfl

theorem processDevAct_getStatus {cb : HsbDeviceCb ρ} (rest : List (HsbAct ρ))
    (drivers : DriverCalls) {act : HsbAct ρ} {status : HsbStatus}
    (hbody : act.body = .getStatus status) (hswitch : isVirtualSwitch cb status.devid = true) :
    processDevAct { cb with asyncQueue := rest } drivers act =
      (drivers.getStatus .virtualSwitchOp status).map fun answer =>
        ⟨{ cb with asyncQueue := rest }, statusNotices act.reply answer⟩ := by
  obtain ⟨dev, hdev, hop⟩ := isVirtualSwitch_spec hswitch
  have hfound : findDev { cb with asyncQueue := rest } status.devid = some dev := hdev
  simp only [processDevAct, hbody, DevAct.getDevStatus, hfound, hop]

theorem addressed_spec {simAddr : UInt32} {s : Conversation ρ} {devid : UInt32}
    (h : addressed simAddr s devid = true) :
    ∃ dev, findDevById s.thread.drv.queue devid = some dev ∧ dev.ip = simAddr := by
  obtain ⟨dev, hdev, haddr⟩ := (Option.any_eq_true _ _).mp h
  exact ⟨dev, hdev, eq_of_beq haddr⟩

/-- The worker takes an act about something else: the status of the switch stays. -/
theorem worker_elsewhere {scan : List UInt8 → Typed} {simAddr : UInt32} {s : HouseState ρ}
    {net : Exchange} {act : HsbAct ρ} {cb : HsbDeviceCb ρ} {request : ConvStep ρ}
    {conv : Conversation ρ} (hother : aboutSwitch simAddr s act.body = false)
    (hrequest : driverRequest s.cb net act.body = some request)
    (hconv : convStep scan simAddr (s.withCb cb).conv request = some conv) :
    conv.sim.statusOnOff = s.conv.sim.statusOnOff := by
  cases hbody : act.body with
  | probe probe =>
    rw [hbody] at hrequest
    contradiction
  | setStatus status =>
    rw [hbody] at hrequest hother
    simp only [driverRequest] at hrequest
    split at hrequest
    · rename_i hswitch
      cases Option.some.inj hrequest
      have hunknown : addressed simAddr s.conv status.devid = false := by
        simpa only [aboutSwitch, hswitch, Bool.true_and] using hother
      obtain ⟨frame, -, hstep⟩ := Option.bind_eq_some_iff.mp hconv
      rw [requestStep_sim hstep, if_neg]
      · rfl
      · rintro ⟨harrives, -⟩
        exact Bool.false_ne_true (hunknown.symm.trans harrives)
    · contradiction
  | getStatus status =>
    rw [hbody] at hrequest
    simp only [driverRequest] at hrequest
    split at hrequest
    · cases Option.some.inj hrequest
      exact (request_idle (getStatus_writes_nothing _) hconv).1
    · contradiction
  | doAction action =>
    rw [hbody] at hrequest
    simp only [driverRequest] at hrequest
    split at hrequest
    · cases Option.some.inj hrequest
      exact (request_idle (setAction_writes_nothing _ action) hconv).1
    · contradiction

theorem worker_news (scan : List UInt8 → Typed) {simAddr : UInt32} {s : HouseState ρ}
    {net : Exchange} {elsewhere : Transfer} {others : DriverCalls} {act : HsbAct ρ}
    {rest : List (HsbAct ρ)} {done : Processed ρ} (hqueue : s.cb.asyncQueue = act :: rest)
    (hdone : processDevAct { s.cb with asyncQueue := rest } (calls simAddr s net elsewhere others)
      act = some done) (habout : aboutSwitch simAddr s act.body = true) :
    switchNews scan simAddr s (.worker net elsewhere others) =
      (done.notices.filter isStatusNews).map spoken ++
        ((collect boxStep notices { s.box with cb := done.cb }
          ((driverRequest s.cb net act.body).elim [] (convSteps scan simAddr s.conv))).filter
            isStatusNews).map spoken := by
  have hact : boxStep s.box (.act (calls simAddr s net elsewhere others)) =
      some { s.box with cb := done.cb } := by
    simp only [boxStep, HouseState.box, hqueue, hdone, Option.map_some]
  have hnotices : notices s.box (.act (calls simAddr s net elsewhere others)) = done.notices := by
    simp only [notices, HouseState.box, hqueue, hdone, Option.map_some, Option.getD_some]
  have hinvolved : involved simAddr s (.worker net elsewhere others) = true := by
    simp only [involved, hqueue, List.head?_cons, Option.any_some, habout]
  simp only [switchNews, hinvolved, if_true, boxSteps, hqueue, List.head?_cons, Option.bind_some]
  rw [collect_cons _ _ _ hact, hnotices, List.filter_append, List.map_append]

theorem worker_set {scan : List UInt8 → Typed} {simAddr : UInt32} {s s' : HouseState ρ}
    {net : Exchange} {elsewhere : Transfer} {others : DriverCalls} {act : HsbAct ρ}
    {rest : List (HsbAct ρ)} {status : HsbStatus} (hqueue : s.cb.asyncQueue = act :: rest)
    (hbody : act.body = .setStatus status) (hone : 1 ≤ status.num.toNat)
    (habout : aboutSwitch simAddr s act.body = true)
    (h : workerStep scan simAddr s net elsewhere others = some s') :
    s'.conv.sim.statusOnOff =
        service.next s.conv.sim.statusOnOff (actVisit simAddr s net act) ∧
      switchNews scan simAddr s (.worker net elsewhere others) =
        service.shown s.conv.sim.statusOnOff (actVisit simAddr s net act) := by
  obtain ⟨act', rest', done, hqueue', hdone, hrequest⟩ := workerStep_eq_some h
  obtain ⟨rfl, rfl⟩ := List.cons.inj (hqueue.symm.trans hqueue')
  have hall := habout
  simp only [aboutSwitch, hbody, Bool.and_eq_true, Bool.not_eq_true'] at hall
  obtain ⟨⟨hmode, hswitch⟩, haddressed⟩ := hall
  have hdriver : driverRequest s.cb net act.body = some (.setStatus status net) := by
    simp only [driverRequest, hbody, hmode, hswitch, Bool.not_false, Bool.and_self, if_true]
  rcases hrequest with ⟨hnone, -⟩ | ⟨request, conv, hsome, hconv, rfl⟩
  · rw [hdriver] at hnone
    contradiction
  · obtain rfl : request = .setStatus status net := Option.some.inj (hsome.symm.trans hdriver)
    obtain ⟨frame, hframe, hstep⟩ := Option.bind_eq_some_iff.mp hconv
    obtain ⟨dev, hdev, haddr⟩ := addressed_spec haddressed
    obtain ⟨hkept, hhandled⟩ := recvPacket_setStatus s.conv.sim hframe hone
    have hset : (calls simAddr s net elsewhere others).setStatus .virtualSwitchOp status = _ :=
      setStatus_switch hdev haddr hframe hone
    have hresult := processDevAct_setStatus rest (calls simAddr s net elsewhere others) hbody hmode
      hswitch
    rw [hset, Option.map_some] at hresult
    obtain rfl := Option.some.inj (hdone.symm.trans hresult)
    rw [worker_news scan hqueue hdone habout, hdriver, Option.elim_some, convSteps, hframe,
      Option.elim_some, spoken_results, requestSteps]
    have hvisit : actVisit simAddr s net act =
        if net.request = true ∧ firstId status = 0 then
          .set act.reply (firstVal status) net.reply (listener simAddr s.conv net.heard)
        else .missed act.reply := by
      unfold actVisit
      rw [if_pos habout, hbody]
    rw [hvisit]
    by_cases hrequest : net.request = true
    · have harrives : addressed simAddr s.conv status.devid = true ∧ net.request = true :=
        ⟨haddressed, hrequest⟩
      have hsim : conv.sim = (recvPacket s.conv.sim frame.bytes).1 :=
        (requestStep_sim hstep).trans (if_pos harrives)
      rw [if_pos harrives, hsim, hkept]
      by_cases hid : firstId status = 0
      · rw [if_pos hid] at hhandled
        rw [if_pos ⟨hrequest, hid⟩,
          written_news s.conv net.heard _ (announced_widen (congrArg Handled.announced hhandled)),
          hhandled]
        simp only [service, hrequest, hid, true_and, and_self]
      · rw [if_neg hid] at hhandled
        have hquiet := heardStatus_none simAddr s.conv net.heard
          (congrArg Handled.announced hhandled)
        rw [if_neg fun hall => hid hall.2, event_news s.conv net.heard _ hquiet, hhandled,
          if_neg fun hall => hid hall.1.2]
        exact ⟨rfl, List.append_nil _⟩
    · have hlost : ¬(addressed simAddr s.conv status.devid = true ∧ net.request = true) :=
        fun hall => hrequest hall.2
      have hsim : conv.sim = s.conv.sim := (requestStep_sim hstep).trans (if_neg hlost)
      rw [if_neg hlost, hsim, if_neg fun hall => hrequest hall.1,
        if_neg fun hall => hrequest hall.1.1]
      exact ⟨rfl, List.append_nil _⟩

theorem worker_get {scan : List UInt8 → Typed} {simAddr : UInt32} {s s' : HouseState ρ}
    {net : Exchange} {elsewhere : Transfer} {others : DriverCalls} {act : HsbAct ρ}
    {rest : List (HsbAct ρ)} {status : HsbStatus} (hqueue : s.cb.asyncQueue = act :: rest)
    (hbody : act.body = .getStatus status) (habout : aboutSwitch simAddr s act.body = true)
    (h : workerStep scan simAddr s net elsewhere others = some s') :
    s'.conv.sim.statusOnOff =
        service.next s.conv.sim.statusOnOff (actVisit simAddr s net act) ∧
      switchNews scan simAddr s (.worker net elsewhere others) =
        service.shown s.conv.sim.statusOnOff (actVisit simAddr s net act) := by
  obtain ⟨act', rest', done, hqueue', hdone, hrequest⟩ := workerStep_eq_some h
  obtain ⟨rfl, rfl⟩ := List.cons.inj (hqueue.symm.trans hqueue')
  have hall := habout
  simp only [aboutSwitch, hbody, Bool.and_eq_true] at hall
  obtain ⟨hswitch, haddressed⟩ := hall
  have hdriver : driverRequest s.cb net act.body = some (.getStatus status net) := by
    simp only [driverRequest, hbody, hswitch, if_true]
  have hvisit : actVisit simAddr s net act =
      .get act.reply status.devid (net.request && net.reply) := by
    unfold actVisit
    rw [if_pos habout, hbody]
  rcases hrequest with ⟨hnone, -⟩ | ⟨request, conv, hsome, hconv, rfl⟩
  · rw [hdriver] at hnone
    contradiction
  · obtain rfl : request = .getStatus status net := Option.some.inj (hsome.symm.trans hdriver)
    obtain ⟨dev, hdev, haddr⟩ := addressed_spec haddressed
    obtain ⟨answer, hanswer, hread⟩ := getStatus_switch net elsewhere hdev haddr
    have hget : (calls simAddr s net elsewhere others).getStatus .virtualSwitchOp status =
        some answer := hanswer
    have hresult := processDevAct_getStatus rest (calls simAddr s net elsewhere others) hbody
      hswitch
    rw [hget, Option.map_some] at hresult
    obtain rfl := Option.some.inj (hdone.symm.trans hresult)
    have hkept : conv.sim.statusOnOff = s.conv.sim.statusOnOff :=
      (request_idle (getStatus_writes_nothing _) hconv).1
    have hquiet : ∀ b, (collect boxStep notices b
        (requestSteps simAddr s.conv status.devid net getStatusFrame.bytes)).filter
          isStatusNews = [] := by
      intro b
      unfold requestSteps
      split
      · have hnone : (recvPacket s.conv.sim getStatusFrame.bytes).2.announced = none := by
          rw [(recvPacket_getStatus s.conv.sim).1]
        exact event_news s.conv net.heard b (heardStatus_none simAddr s.conv net.heard hnone)
      · rfl
    rw [worker_news scan hqueue hdone habout, hdriver, Option.elim_some, convSteps, hquiet,
      List.map_nil, List.append_nil, hvisit]
    refine ⟨hkept, ?_⟩
    by_cases hnet : (net.request && net.reply) = true
    · rw [if_pos hnet] at hread
      obtain ⟨hok, hpair⟩ := hread
      simp only [statusNotices, hok, service, hnet, if_true, ne_eq, not_true_eq_false, if_false]
      rw [← statusPairs_one hpair, ← getStatus_devid hanswer]
      rfl
    · rw [if_neg hnet] at hread
      have hcode : HsbErrorNo.ok.code ≠ HsbErrorNo.invalidMsg.code := by decide
      simp only [statusNotices, hread, if_pos hcode, service, if_neg hnet]
      rfl

/-- The worker's step: whatever the act is, the switch is visited as `actVisit` says. -/
theorem worker_matches {scan : List UInt8 → Typed} {simAddr : UInt32} {s s' : HouseState ρ}
    {net : Exchange} {elsewhere : Transfer} {others : DriverCalls}
    (hok : ActsNameStatus s (.worker net elsewhere others))
    (h : workerStep scan simAddr s net elsewhere others = some s') :
    s'.conv.sim.statusOnOff = service.next s.conv.sim.statusOnOff
        (visit scan simAddr s (.worker net elsewhere others)) ∧
      switchNews scan simAddr s (.worker net elsewhere others) =
        service.shown s.conv.sim.statusOnOff
          (visit scan simAddr s (.worker net elsewhere others)) := by
  obtain ⟨act, rest, done, hqueue, hdone, hrequest⟩ := workerStep_eq_some h
  have hvisit : visit scan simAddr s (.worker net elsewhere others) =
      actVisit simAddr s net act := by
    simp only [visit, hqueue, List.head?_cons, Option.elim_some]
  rw [hvisit]
  by_cases habout : aboutSwitch simAddr s act.body = true
  · cases hbody : act.body with
    | setStatus status =>
      have hone : BodyNames act.body := hok act (by rw [hqueue]; rfl)
      rw [hbody] at hone
      exact worker_set hqueue hbody hone habout h
    | getStatus status => exact worker_get hqueue hbody habout h
    | probe _ | doAction _ =>
      rw [hbody] at habout
      contradiction
  · have hother : actVisit simAddr s net act = .other := if_neg habout
    have hsilent : switchNews scan simAddr s (.worker net elsewhere others) = [] := by
      unfold switchNews
      rw [if_neg]
      simpa only [involved, hqueue, List.head?_cons, Option.any_some] using habout
    rw [hother, hsilent]
    refine ⟨?_, rfl⟩
    rcases hrequest with ⟨-, rfl⟩ | ⟨request, conv, hsome, hconv, rfl⟩
    · rfl
    · exact worker_elsewhere (eq_false_of_ne_true habout) hsome hconv

theorem packet_visit {scan : List UInt8 → Typed} {simAddr : UInt32} {s s' : HouseState ρ}
    {bytes : List UInt8} {heard : Bool}
    (h : converse scan simAddr s (.packet bytes heard) = some s') :
    s'.conv.sim.statusOnOff =
        service.next s.conv.sim.statusOnOff (visit scan simAddr s (.packet bytes heard)) ∧
      switchNews scan simAddr s (.packet bytes heard) =
        service.shown s.conv.sim.statusOnOff (visit scan simAddr s (.packet bytes heard)) := by
  obtain ⟨conv, hconv, rfl⟩ := Option.map_eq_some_iff.mp h
  obtain ⟨hstatus, hannounced⟩ := recvPacket_write s.conv.sim bytes
  have hnews : switchNews scan simAddr s (.packet bytes heard) =
      ((collect boxStep notices s.box
        (announcedSteps simAddr s.conv heard (recvPacket s.conv.sim bytes).2)).filter
          isStatusNews).map spoken := rfl
  rw [hnews, visit]
  simp only [deliver_sim hconv, hstatus]
  cases hwrite : packetWrite s.conv.sim bytes with
  | none =>
    rw [hwrite] at hannounced
    have hquiet := heardStatus_none simAddr s.conv heard hannounced
    rw [event_news s.conv heard s.box hquiet]
    exact ⟨rfl, rfl⟩
  | some val =>
    rw [hwrite] at hannounced
    rw [written_news s.conv heard s.box (announced_widen hannounced)]
    exact ⟨(UInt16.toUInt16_toUInt32 val).symm, rfl⟩

theorem typed_visit {scan : List UInt8 → Typed} {simAddr : UInt32} {s s' : HouseState ρ}
    {text : List UInt8} {heard : Bool}
    (h : converse scan simAddr s (.typed text heard) = some s') :
    s'.conv.sim.statusOnOff =
        service.next s.conv.sim.statusOnOff (visit scan simAddr s (.typed text heard)) ∧
      switchNews scan simAddr s (.typed text heard) =
        service.shown s.conv.sim.statusOnOff (visit scan simAddr s (.typed text heard)) := by
  obtain ⟨conv, hconv, rfl⟩ := Option.map_eq_some_iff.mp h
  have hnews : switchNews scan simAddr s (.typed text heard) =
      ((collect boxStep notices s.box
        (announcedSteps simAddr s.conv heard (readInput scan s.conv.sim text).2)).filter
          isStatusNews).map spoken := rfl
  rw [hnews, visit]
  simp only [deliver_sim hconv, readInput]
  cases hscan : scan (text.take 1023) with
  | status val =>
    have hannounced : (SwitchSim.dealInputCmd s.conv.sim.statusOnOff (.status val)).announced =
        if val ≠ s.conv.sim.statusOnOff.toUInt32 then some (statusChanged val.toUInt16)
        else none := by
      simp only [SwitchSim.dealInputCmd]
      by_cases hsame : s.conv.sim.statusOnOff.toUInt32 = val
      · rw [if_pos hsame, if_neg (not_not.mpr hsame.symm)]
      · rw [if_neg hsame, if_pos (Ne.symm hsame)]
    have hwritten : (SwitchSim.dealInputCmd s.conv.sim.statusOnOff (.status val)).statusOnOff =
        val.toUInt16 := by
      simp only [SwitchSim.dealInputCmd]
      by_cases hsame : s.conv.sim.statusOnOff.toUInt32 = val
      · rw [if_pos hsame, ← hsame, UInt16.toUInt16_toUInt32]
      · rw [if_neg hsame]
    rw [written_news s.conv heard s.box hannounced, hwritten]
    exact ⟨rfl, rfl⟩
  | sensor val | key val =>
    rw [event_news s.conv heard s.box (heardStatus_event simAddr s.conv heard rfl)]
    exact ⟨rfl, rfl⟩
  | other =>
    rw [event_news s.conv heard s.box (heardStatus_none simAddr s.conv heard rfl)]
    exact ⟨rfl, rfl⟩

theorem house_matches (scan : List UInt8 → Typed) (simAddr : UInt32) :
    Matches (houseStep (ρ := ρ) scan simAddr) ActsNameStatus (fun _ => True) service
      (fun s => s.conv.sim.statusOnOff) (visit scan simAddr) (switchNews scan simAddr) := by
  intro s a s' _ hok h
  cases a with
  | worker net elsewhere others => exact worker_matches hok h
  | typed text heard => exact typed_visit h
  | packet bytes heard => exact packet_visit h
  | probed p it =>
    obtain ⟨done, -, rfl⟩ := Option.map_eq_some_iff.mp h
    exact ⟨rfl, rfl⟩
  | monitor incoming =>
    obtain ⟨conv, hconv, rfl⟩ := Option.map_eq_some_iff.mp h
    obtain ⟨thread, -, rfl⟩ := Option.map_eq_some_iff.mp hconv
    exact ⟨rfl, rfl⟩
  | box step =>
    cases step with
    | act drivers => contradiction
    | online _ _ _ | offline _ | event _ _ _ _ | mode _ | packet _ _ _ | tick _ =>
      simp only [houseStep] at h
      obtain ⟨c, -, rfl⟩ := Option.map_eq_some_iff.mp h
      exact ⟨rfl, rfl⟩

end HomeSecurityBox.HouseStatus
