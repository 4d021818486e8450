import HomeSecurityBox.Discovery
import HomeSecurityBox.PadDialogue
import HomeSecurityBox.SwitchSim

/-!
The box with the virtual switch driver and a switch. The worker calls the operations of
the driver and they ask the switch; a thread that probes registers what answers; the
monitor thread of the driver turns what devices send into calls of the core; everything
else that happens to the box happens to it here. Every run of all this is a run of the box
alone, so what holds of the box in every run holds of it with this driver.
-/

namespace HomeSecurityBox.House

open ByteMemory Protocol DeviceData Device DeviceEvents DevAct Registry VirtualSwitch VsDriver
  StaleBytes SwitchSim Box PadSim PadDialogue Transitions
open Discovery (ProbeState Iteration probeStep registerCall readInfo)

variable {ρ : Type}

/-- The switch and the monitor thread with the core, and the time of the last tick. -/
structure HouseState (ρ : Type) where
  conv : Conversation ρ
  clock : ℕ := 0

namespace HouseState

def cb (s : HouseState ρ) : HsbDeviceCb ρ := s.conv.thread.drv.cb

def withCb (s : HouseState ρ) (cb : HsbDeviceCb ρ) : HouseState ρ :=
  { s with conv.thread.drv.cb := cb }

/-- The core as the box alone. -/
def box (s : HouseState ρ) : BoxState ρ := { cb := s.cb, clock := s.clock }

end HouseState

/-- What reaches the monitor thread. -/
inductive Incoming
  | datagram (addr : UInt32) (bytes : List UInt8)
  | timeout

def Incoming.threadStep : Incoming → VsThreadStep ρ
  | .datagram addr bytes => .datagram addr bytes
  | .timeout => .timeout

/-- The locals of `virtual_switch_probe` in front of a round of its loop. -/
structure ProbeLocals where
  rbuf : Memory
  devaddr : UInt32
  count : ℕ

def ProbeLocals.state (p : ProbeLocals) (vs : VsState ρ) : ProbeState ρ where
  vs := vs
  rbuf := p.rbuf
  devaddr := p.devaddr
  count := p.count

/-- The worker takes an act; the network does `net` to its request of the switch, other
devices answer as `elsewhere` and other drivers as `others`. A line is typed at the switch
or a packet of another host reaches it. The loop of a probe goes round once: in the worker
at a PROBE act, in the monitor thread at an unknown sender, or in the main thread at the
start. Something reaches the monitor thread. Anything else happens to the box. -/
inductive HouseStep (ρ : Type)
  | worker (net : Exchange) (elsewhere : Transfer) (others : DriverCalls)
  | typed (text : List UInt8) (heard : Bool)
  | packet (bytes : List UInt8) (heard : Bool)
  | probed (p : ProbeLocals) (it : Iteration)
  | monitor (incoming : Incoming)
  | box (step : BoxStep ρ)

/-- `_transfer` to the switch or to another device. -/
def transfer (sim : SimState) (simAddr : UInt32) (net : Exchange) (elsewhere : Transfer) :
    Transfer := fun addr frame =>
  if addr = simAddr then simTransfer sim simAddr net addr frame else elsewhere addr frame

/-- The operations behind the table of the virtual switch driver. The rounds of its probe
are steps of their own, in front of the step that gives back its result. -/
def driverCalls (queue : List VsDev) (ask : Transfer) (others : DriverCalls) : DriverCalls where
  probe := others.probe
  getStatus op status :=
    match op with
    | .virtualSwitchOp => virtualSwitchGetStatus queue ask status
    | .sampleOp => others.getStatus op status
  setStatus op status :=
    match op with
    | .virtualSwitchOp => virtualSwitchSetStatus queue ask status
    | .sampleOp => others.setStatus op status
  setAction op act :=
    match op with
    | .virtualSwitchOp => virtualSwitchSetAction queue ask act
    | .sampleOp => others.setAction op act

/-- The device is online with the operations of the virtual switch driver. -/
def isVirtualSwitch (cb : HsbDeviceCb ρ) (devid : UInt32) : Bool :=
  (findDev cb devid).any fun dev => dev.op == some .virtualSwitchOp

/-- A status of the box itself sets its work mode. -/
def setsWorkMode (status : HsbStatus) : Bool :=
  decide (status.devid = 0 ∧ firstId status = hsbStatusTypeWorkMode)

/-- The request of the switch that an act leads to, if it goes to the driver. -/
def driverRequest (cb : HsbDeviceCb ρ) (net : Exchange) : HsbActBody → Option (ConvStep ρ)
  | .probe _ => none
  | .setStatus status =>
      if !setsWorkMode status && isVirtualSwitch cb status.devid then some (.setStatus status net)
      else none
  | .getStatus status =>
      if isVirtualSwitch cb status.devid then some (.getStatus status net) else none
  | .doAction action =>
      if isVirtualSwitch cb action.devid then some (.setAction action net) else none

section

variable (scan : List UInt8 → Typed) (simAddr : UInt32)

def calls (s : HouseState ρ) (net : Exchange) (elsewhere : Transfer) (others : DriverCalls) :
    DriverCalls :=
  driverCalls s.conv.thread.drv.queue (transfer s.conv.sim simAddr net elsewhere) others

/-- The driver and the switch take a step. -/
def converse (s : HouseState ρ) (step : ConvStep ρ) : Option (HouseState ρ) :=
  (convStep scan simAddr s.conv step).map fun conv => { s with conv := conv }

def workerStep (s : HouseState ρ) (net : Exchange) (elsewhere : Transfer)
    (others : DriverCalls) : Option (HouseState ρ) :=
  match s.cb.asyncQueue with
  | [] => none
  | act :: rest =>
      (processDevAct { s.cb with asyncQueue := rest } (calls simAddr s net elsewhere others)
        act).bind fun done =>
          match driverRequest s.cb net act.body with
          | none => some (s.withCb done.cb)
          | some request => converse scan simAddr (s.withCb done.cb) request

def houseStep (s : HouseState ρ) : HouseStep ρ → Option (HouseState ρ)
  | .worker net elsewhere others => workerStep scan simAddr s net elsewhere others
  | .typed text heard => converse scan simAddr s (.typed text heard)
  | .packet bytes heard => converse scan simAddr s (.packet bytes heard)
  | .probed p it =>
      (probeStep (p.state s.conv.thread.drv) it).map fun done =>
        { s with conv.thread.drv := done.vs }
  | .monitor incoming => converse scan simAddr s (.thread incoming.threadStep)
  | .box (.act _) => none
  | .box step =>
      (boxStep s.box step).map fun b => { s.withCb b.cb with clock := b.clock }

end

/-- The calls of the core that `_event` and `_status_updated` make. -/
def raisedSteps : Option Raised → List (BoxStep ρ)
  | some (.status devid id val) => [.event devid .statusUpdated id (UInt32.ofNat val.toNat)]
  | some (.event devid id param param2) =>
      match VsEvtType.ofCode id with
      | some .sensorTriggered => [.event devid .sensorTriggered param 0]
      | some .sensorRecovered => [.event devid .sensorRecovered param 0]
      | some .keyPressed => if param < 3 then [.mode (UInt32.ofNat param.toNat)] else []
      | some .irKey => [.event devid .irKey param param2]
      | none => []
  | _ => []

/-- The call of the core that `_register_device` makes. -/
def registerSteps (s : VsState ρ) (info : VsInfo) : List (BoxStep ρ) :=
  match findDevByMac s.queue info.mac with
  | some _ => []
  | none => [.online virtualSwitchDrv.id (devInfo info) (some .virtualSwitchOp)]

def probedSteps (s : ProbeState ρ) (it : Iteration) : List (BoxStep ρ) :=
  (registerCall s it.received).elim [] fun found => registerSteps s.vs (readInfo found.2)

def incomingSteps (s : VsThread ρ) : Incoming → List (BoxStep ρ)
  | .datagram addr bytes => raisedSteps (raisedByDatagram s addr bytes)
  | .timeout => (s.drv.queue.filter expired).map fun dev => .offline dev.id

/-- What the switch announces reaches the monitor thread. -/
def announcedSteps (simAddr : UInt32) (s : Conversation ρ) (heard : Bool) (done : Handled) :
    List (BoxStep ρ) :=
  match done.announced, heard with
  | some bytes, true => incomingSteps s.thread (.datagram simAddr bytes)
  | _, _ => []

def requestSteps (simAddr : UInt32) (s : Conversation ρ) (devid : UInt32) (net : Exchange)
    (frame : List UInt8) : List (BoxStep ρ) :=
  if addressed simAddr s devid ∧ net.request = true then
    announcedSteps simAddr s net.heard (recvPacket s.sim frame).2
  else []

def convSteps (scan : List UInt8 → Typed) (simAddr : UInt32) (s : Conversation ρ) :
    ConvStep ρ → List (BoxStep ρ)
  | .setStatus status net =>
      (setStatusFrame status).elim [] fun frame =>
        requestSteps simAddr s status.devid net frame.bytes
  | .getStatus status net => requestSteps simAddr s status.devid net getStatusFrame.bytes
  | .setAction act net => requestSteps simAddr s act.devid net (setActionFrame act).bytes
  | .typed text heard => announcedSteps simAddr s heard (readInput scan s.sim text).2
  | .packet bytes heard => announcedSteps simAddr s heard (recvPacket s.sim bytes).2
  | .thread _ => []

/-- A step of the house as steps of the box. -/
def boxSteps (scan : List UInt8 → Typed) (simAddr : UInt32) (s : HouseState ρ) :
    HouseStep ρ → List (BoxStep ρ)
  | .worker net elsewhere others =>
      .act (calls simAddr s net elsewhere others) ::
        (s.cb.asyncQueue.head?.bind fun act => driverRequest s.cb net act.body).elim []
          (convSteps scan simAddr s.conv)
  | .typed text heard => convSteps scan simAddr s.conv (.typed text heard)
  | .packet bytes heard => convSteps scan simAddr s.conv (.packet bytes heard)
  | .probed p it => probedSteps (p.state s.conv.thread.drv) it
  | .monitor incoming => incomingSteps s.conv.thread incoming
  | .box step => [step]

/-- The box alone has the same core at the same time; only its history of ids is its own. -/
structure SameCore (cb : HsbDeviceCb ρ) (clock : ℕ) (b : BoxState ρ) : Prop where
  cb : b.cb = cb
  clock : b.clock = clock

theorem run_raisedSteps (r : Option Raised) (b : BoxState ρ) :
    run boxStep b (raisedSteps r) = some { b with cb := vsHandle b.cb r } := by
  cases r with
  | none => rfl
  | some raised =>
    cases raised with
    | status devid id val => rfl
    | registration _ _ _ => rfl
    | event devid id param param2 =>
      simp only [raisedSteps, vsHandle, VsDriver.event]
      cases VsEvtType.ofCode id with
      | none => rfl
      | some type =>
        cases type with
        | keyPressed =>
          simp only [key]
          split <;> rfl
        | sensorTriggered | sensorRecovered | irKey => rfl

theorem run_offline (devs : List VsDev) (b : BoxState ρ) :
    run boxStep b (devs.map fun dev => .offline dev.id) =
      some { b with cb := offlineAll b.cb devs } := by
  induction devs generalizing b with
  | nil => rfl
  | cons dev rest ih =>
    simp only [List.map_cons, run, boxStep, Option.bind_some, ih]
    rfl

theorem run_registerSteps {s s' : VsState ρ} {addr : UInt32} {info : VsInfo} {clock : ℕ}
    {b : BoxState ρ} (h : registerDevice s addr info = some s') (hb : SameCore s.cb clock b) :
    ∃ b', run boxStep b (registerSteps s info) = some b' ∧ SameCore s'.cb clock b' := by
  unfold registerDevice at h
  unfold registerSteps
  cases hmac : findDevByMac s.queue info.mac with
  | some dev =>
    rw [hmac] at h
    cases Option.some.inj h
    exact ⟨b, rfl, hb⟩
  | none =>
    rw [hmac] at h
    obtain ⟨done, hdone, rfl⟩ := Option.map_eq_some_iff.mp h
    rw [← hb.cb] at hdone
    obtain ⟨b', hb', hcb, hclock⟩ : ∃ b',
        boxStep b (.online virtualSwitchDrv.id (devInfo info) (some .virtualSwitchOp)) = some b' ∧
          b'.cb = done.cb ∧ b'.clock = b.clock :=
      ⟨_, Option.map_eq_some_iff.mpr ⟨done, hdone, rfl⟩, rfl, rfl⟩
    exact ⟨b', (run_singleton _ _ _).trans hb', ⟨hcb, hclock.trans hb.clock⟩⟩

/-- A round of a probe registers what it has taken for a response, and nothing else. -/
theorem run_probedSteps {s s' : ProbeState ρ} {it : Iteration} {clock : ℕ} {b : BoxState ρ}
    (h : probeStep s it = some s') (hb : SameCore s.vs.cb clock b) :
    ∃ b', run boxStep b (probedSteps s it) = some b' ∧ SameCore s'.vs.cb clock b' := by
  unfold probeStep at h
  unfold probedSteps
  split at h
  · contradiction
  · cases hcall : registerCall s it.received with
    | none =>
      rw [hcall] at h
      cases Option.some.inj h
      exact ⟨b, rfl, hb⟩
    | some found =>
      rw [hcall] at h
      obtain ⟨vs, hvs, rfl⟩ := Option.map_eq_some_iff.mp h
      exact run_registerSteps hvs hb

/-- What reaches the monitor thread does to the core what its steps do to the box. -/
theorem run_incomingSteps {s s' : VsThread ρ} {incoming : Incoming} {clock : ℕ} {b : BoxState ρ}
    (h : vsThreadStep s incoming.threadStep = some s') (hb : SameCore s.drv.cb clock b) :
    ∃ b', run boxStep b (incomingSteps s incoming) = some b' ∧ SameCore s'.drv.cb clock b' := by
  cases incoming with
  | datagram addr bytes =>
    simp only [Incoming.threadStep, vsThreadStep, vsStep, Option.map_some] at h
    cases Option.some.inj h
    refine ⟨_, run_raisedSteps _ b, ⟨?_, hb.clock⟩⟩
    simp only [recvDatagram_cb, hb.cb, raisedByDatagram]
  | timeout =>
    obtain ⟨drv, hdrv, rfl⟩ := Option.map_eq_some_iff.mp h
    simp only [vsStep, removeTimeoutDev_eq] at hdrv
    cases Option.some.inj hdrv
    refine ⟨_, run_offline _ b, ⟨?_, hb.clock⟩⟩
    simp only [hb.cb]

theorem run_announcedSteps {simAddr : UInt32} {s s' : Conversation ρ} {heard : Bool}
    {done : SimState × Handled} {clock : ℕ} {b : BoxState ρ}
    (h : deliver simAddr s.thread heard done = some s') (hb : SameCore s.thread.drv.cb clock b) :
    ∃ b', run boxStep b (announcedSteps simAddr s heard done.2) = some b' ∧
      SameCore s'.thread.drv.cb clock b' := by
  unfold deliver at h
  unfold announcedSteps
  cases hannounced : done.2.announced with
  | none =>
    rw [hannounced] at h
    cases Option.some.inj h
    exact ⟨b, rfl, hb⟩
  | some bytes =>
    rw [hannounced] at h
    cases heard with
    | false =>
      cases Option.some.inj h
      exact ⟨b, rfl, hb⟩
    | true =>
      obtain ⟨thread, hthread, rfl⟩ := Option.map_eq_some_iff.mp h
      have hstep : vsThreadStep s.thread (Incoming.datagram simAddr bytes).threadStep =
          some thread := hthread
      exact run_incomingSteps hstep hb

theorem run_requestSteps {simAddr : UInt32} {s s' : Conversation ρ} {devid : UInt32}
    {net : Exchange} {frame : List UInt8} {clock : ℕ} {b : BoxState ρ}
    (h : requestStep simAddr s devid net frame = some s')
    (hb : SameCore s.thread.drv.cb clock b) :
    ∃ b', run boxStep b (requestSteps simAddr s devid net frame) = some b' ∧
      SameCore s'.thread.drv.cb clock b' := by
  unfold requestStep at h
  unfold requestSteps
  by_cases harrives : addressed simAddr s devid ∧ net.request = true
  · rw [if_pos harrives] at h ⊢
    exact run_announcedSteps h hb
  · rw [if_neg harrives] at h ⊢
    cases Option.some.inj h
    exact ⟨b, rfl, hb⟩

/-- A step of the driver or the switch that is no step of the monitor thread itself. -/
def NotThread : ConvStep ρ → Prop
  | .thread _ => False
  | _ => True

theorem run_convSteps {scan : List UInt8 → Typed} {simAddr : UInt32} {s s' : Conversation ρ}
    {step : ConvStep ρ} {clock : ℕ} {b : BoxState ρ} (hstep : NotThread step)
    (h : convStep scan simAddr s step = some s') (hb : SameCore s.thread.drv.cb clock b) :
    ∃ b', run boxStep b (convSteps scan simAddr s step) = some b' ∧
      SameCore s'.thread.drv.cb clock b' := by
  cases step with
  | setStatus status net =>
    obtain ⟨frame, hframe, hrequest⟩ := Option.bind_eq_some_iff.mp h
    simp only [convSteps, hframe, Option.elim_some]
    exact run_requestSteps hrequest hb
  | getStatus status net => exact run_requestSteps h hb
  | setAction act net => exact run_requestSteps h hb
  | typed text heard => exact run_announcedSteps h hb
  | packet bytes heard => exact run_announcedSteps h hb
  | thread a => exact absurd hstep id

theorem driverRequest_notThread {cb : HsbDeviceCb ρ} {net : Exchange} {body : HsbActBody}
    {request : ConvStep ρ} (h : driverRequest cb net body = some request) : NotThread request := by
  cases body with
  | probe probe => contradiction
  | setStatus status | getStatus status | doAction action =>
    simp only [driverRequest] at h
    split at h
    · cases Option.some.inj h
      trivial
    · contradiction

/-- What an act makes of the core does not show in what the switch sends. -/
theorem convSteps_withCb (scan : List UInt8 → Typed) (simAddr : UInt32) (s : HouseState ρ)
    (cb : HsbDeviceCb ρ) (step : ConvStep ρ) :
    convSteps scan simAddr (s.withCb cb).conv step = convSteps scan simAddr s.conv step := by
  have hannounced : ∀ heard done, announcedSteps simAddr (s.withCb cb).conv heard done =
      announcedSteps simAddr s.conv heard done := by
    intro heard done
    unfold announcedSteps
    rfl
  have hrequest : ∀ devid net frame, requestSteps simAddr (s.withCb cb).conv devid net frame =
      requestSteps simAddr s.conv devid net frame := by
    intro devid net frame
    unfold requestSteps
    rw [hannounced]
    rfl
  cases step with
  | setStatus status net =>
    simp only [convSteps, hrequest]
  | getStatus status net => exact hrequest _ _ _
  | setAction act net => exact hrequest _ _ _
  | typed text heard => exact hannounced _ _
  | packet bytes heard => exact hannounced _ _
  | thread a => rfl

/-- What the worker does: an act, and then the request that the act has led to. -/
theorem workerStep_eq_some {scan : List UInt8 → Typed} {simAddr : UInt32} {s s' : HouseState ρ}
    {net : Exchange} {elsewhere : Transfer} {others : DriverCalls}
    (h : workerStep scan simAddr s net elsewhere others = some s') :
    ∃ act rest done, s.cb.asyncQueue = act :: rest ∧
      processDevAct { s.cb with asyncQueue := rest } (calls simAddr s net elsewhere others) act =
        some done ∧
      ((driverRequest s.cb net act.body = none ∧ s' = s.withCb done.cb) ∨
        ∃ request conv, driverRequest s.cb net act.body = some request ∧
          convStep scan simAddr (s.withCb done.cb).conv request = some conv ∧
          s' = { s.withCb done.cb with conv := conv }) := by
  unfold workerStep at h
  cases hqueue : s.cb.asyncQueue with
  | nil =>
    rw [hqueue] at h
    contradiction
  | cons act rest =>
    rw [hqueue] at h
    obtain ⟨done, hdone, hrequest⟩ := Option.bind_eq_some_iff.mp h
    refine ⟨act, rest, done, rfl, hdone, ?_⟩
    cases hbody : driverRequest s.cb net act.body with
    | none =>
      rw [hbody] at hrequest
      exact Or.inl ⟨rfl, (Option.some.inj hrequest).symm⟩
    | some request =>
      rw [hbody] at hrequest
      obtain ⟨conv, hconv, rfl⟩ := Option.map_eq_some_iff.mp hrequest
      exact Or.inr ⟨request, conv, rfl, hconv, rfl⟩

/-- The history of ids of the box has no effect on what it does. -/
theorem boxStep_sameCore {b c b' : BoxState ρ} {step : BoxStep ρ}
    (hstep : boxStep b step = some b') (hc : SameCore b.cb b.clock c) :
    ∃ c', boxStep c step = some c' ∧ SameCore b'.cb b'.clock c' := by
  obtain ⟨cb, clock, assigned⟩ := c
  obtain ⟨rfl, rfl⟩ := hc
  cases step with
  | online drvid info op =>
    obtain ⟨done, hdone, rfl⟩ := Option.map_eq_some_iff.mp hstep
    exact ⟨_, Option.map_eq_some_iff.mpr ⟨done, hdone, rfl⟩, ⟨rfl, rfl⟩⟩
  | offline devid | event devid type param1 param2 | mode mode | packet buf len reply =>
    cases Option.some.inj hstep
    exact ⟨_, rfl, ⟨rfl, rfl⟩⟩
  | act drivers =>
    simp only [boxStep] at hstep ⊢
    split at hstep
    · contradiction
    · obtain ⟨done, hdone, rfl⟩ := Option.map_eq_some_iff.mp hstep
      exact ⟨_, Option.map_eq_some_iff.mpr ⟨done, hdone, rfl⟩, ⟨rfl, rfl⟩⟩
  | tick now =>
    simp only [boxStep] at hstep ⊢
    split at hstep
    · rename_i hclock
      cases Option.some.inj hstep
      exact ⟨_, if_pos hclock, ⟨rfl, rfl⟩⟩
    · contradiction

theorem run_boxSteps {scan : List UInt8 → Typed} {simAddr : UInt32} {s s' : HouseState ρ}
    {step : HouseStep ρ} {b : BoxState ρ} (hb : SameCore s.cb s.clock b)
    (h : houseStep scan simAddr s step = some s') :
    ∃ b', run boxStep b (boxSteps scan simAddr s step) = some b' ∧
      SameCore s'.cb s'.clock b' := by
  cases step with
  | worker net elsewhere others =>
    obtain ⟨act, rest, done, hqueue, hdone, hrequest⟩ := workerStep_eq_some h
    have hact : boxStep b (.act (calls simAddr s net elsewhere others)) =
        some { b with cb := done.cb } := by
      simp only [boxStep, hb.cb, hqueue, hdone, Option.map_some]
    have hcore : SameCore done.cb s.clock { b with cb := done.cb } := ⟨rfl, hb.clock⟩
    simp only [boxSteps, hqueue, List.head?_cons, Option.bind_some, run, hact]
    rcases hrequest with ⟨hnone, rfl⟩ | ⟨request, conv, hsome, hconv, rfl⟩
    · rw [hnone]
      exact ⟨_, rfl, hcore⟩
    · rw [hsome, Option.elim_some, ← convSteps_withCb scan simAddr s done.cb request]
      exact run_convSteps (driverRequest_notThread hsome) hconv hcore
  | typed text heard =>
    obtain ⟨conv, hconv, rfl⟩ := Option.map_eq_some_iff.mp h
    have htyped : NotThread (.typed text heard : ConvStep ρ) := trivial
    exact run_convSteps htyped hconv hb
  | packet bytes heard =>
    obtain ⟨conv, hconv, rfl⟩ := Option.map_eq_some_iff.mp h
    have hpacket : NotThread (.packet bytes heard : ConvStep ρ) := trivial
    exact run_convSteps hpacket hconv hb
  | probed p it =>
    obtain ⟨done, hdone, rfl⟩ := Option.map_eq_some_iff.mp h
    exact run_probedSteps hdone hb
  | monitor incoming =>
    obtain ⟨conv, hconv, rfl⟩ := Option.map_eq_some_iff.mp h
    obtain ⟨thread, hthread, rfl⟩ := Option.map_eq_some_iff.mp hconv
    exact run_incomingSteps hthread hb
  | box step =>
    have hstep : ∃ c, boxStep s.box step = some c ∧
        s' = { s.withCb c.cb with clock := c.clock } := by
      cases step with
      | act drivers => contradiction
      | online _ _ _ | offline _ | event _ _ _ _ | mode _ | packet _ _ _ | tick _ =>
        simp only [houseStep] at h
        obtain ⟨c, hc, rfl⟩ := Option.map_eq_some_iff.mp h
        exact ⟨c, hc, rfl⟩
    obtain ⟨c, hc, rfl⟩ := hstep
    obtain ⟨b', hb', hsame⟩ := boxStep_sameCore hc hb
    exact ⟨b', (run_singleton _ _ _).trans hb', hsame⟩

/-- The house is a box: whatever the worker, the driver with its probes and its monitor
thread and the switch do and whatever datagrams are lost, the core goes through a run of the
box, so what holds after every run of the box holds of the core in the house. -/
theorem house_is_box (scan : List UInt8 → Typed) (simAddr : UInt32) (steps : List (HouseStep ρ))
    (s t : HouseState ρ) (b : BoxState ρ) (hb : SameCore s.cb s.clock b)
    (hrun : run (houseStep scan simAddr) s steps = some t) :
    ∃ b', run boxStep b (collect (houseStep scan simAddr) (boxSteps scan simAddr) s steps) =
        some b' ∧ SameCore t.cb t.clock b' :=
  run_related (fun _ _ _ _ hrelated hstep => run_boxSteps hrelated hstep) steps s b t hb hrun

/-- An evening in the house: the switch is found, set by the pad, switched off by hand while
the network loses what it announces, and asked for its status by the pad. -/
def emptyHouse : HouseState Unit where
  conv := ⟨{}, ⟨{ cb := { driverq := [virtualSwitchDrv] } }, zeros⟩⟩

def padPacket (cmd : PadInput.PadCommand) : HouseStep Unit :=
  .box (.packet (load cmd.packet.bytes zeros) cmd.packet.len ())

def nowhere : Transfer := fun _ _ => (-1, zeros)

def noDrivers : DriverCalls := ⟨fun _ => 0, fun _ _ => none, fun _ _ => none, fun _ _ => 0⟩

/-- The first response to a probe is that of the switch. -/
def lampResponse : List UInt8 := [0x02, 0x89, 32, 0] ++ List.replicate 28 0

def lampFound : HouseStep Unit := .probed ⟨zeros, 0, 8⟩ ⟨.datagram 7 lampResponse, 2900000⟩

def lampEvening : List (HouseStep Unit) :=
  [lampFound, padPacket (.setStatus 1 0 1), .worker perfect nowhere noDrivers,
    .typed [] false, padPacket (.getStatus 1), .worker perfect nowhere noDrivers]

theorem lampEvening_run : ∃ t, run (houseStep typeOff 7) emptyHouse lampEvening = some t := by
  apply Option.isSome_iff_exists.mp
  decide +kernel

theorem house_is_box_lamp : ∃ t b', run (houseStep typeOff 7) emptyHouse lampEvening = some t ∧
    run boxStep (BoxState.start [virtualSwitchDrv])
      (collect (houseStep typeOff 7) (boxSteps typeOff 7) emptyHouse lampEvening) = some b' ∧
    SameCore t.cb t.clock b' := by
  obtain ⟨t, hrun⟩ := lampEvening_run
  obtain ⟨b', hb', hsame⟩ := house_is_box typeOff 7 lampEvening emptyHouse t
    (BoxState.start [virtualSwitchDrv]) ⟨rfl, rfl⟩ hrun
  exact ⟨t, b', hrun, hb', hsame⟩

end HomeSecurityBox.House
