import HomeSecurityBox.ActCauses
import HomeSecurityBox.HouseStatus

/-!
From a cause to the switch. An act that a client, a linkage, a timer or a delay is the cause
of waits behind those before it; when the worker gets to it, its request goes to the switch
over the network, and the switch has the status that the act names.
-/

namespace HomeSecurityBox.Automation

open ByteMemory Protocol DeviceData Device DeviceEvents DevAct VirtualSwitch VsDriver StaleBytes
  SwitchSim Box PadSim PadDialogue OfflineLinkage ActCauses House HouseStatus Transitions

variable {ρ : Type}

def isAct : BoxStep ρ → Bool
  | .act _ => true
  | .online .. | .offline _ | .event .. | .mode _ | .packet .. | .tick _ => false

def isWorker : HouseStep ρ → Bool
  | .worker .. => true
  | .typed .. | .packet .. | .probed .. | .monitor _ | .box _ => false

def houseCarriedOut (s : HouseState ρ) : HouseStep ρ → List (HsbAct ρ)
  | .worker .. => s.cb.asyncQueue.take 1
  | .typed .. | .packet .. | .probed .. | .monitor _ | .box _ => []

/-- The acts that a step of the house is the cause of, as steps of the box. -/
def houseCaused (scan : List UInt8 → Typed) (simAddr : UInt32) (s : HouseState ρ)
    (step : HouseStep ρ) : List (HsbAct ρ) :=
  collect boxStep caused s.box (boxSteps scan simAddr s step)

theorem carriedOut_of_not_act {step : BoxStep ρ} (h : isAct step = false) (s : BoxState ρ) :
    carriedOut s step = [] := by
  cases step with
  | act drivers => contradiction
  | online _ _ _ | offline _ | event _ _ _ _ | mode _ | packet _ _ _ | tick _ => rfl

theorem singleton_not_act {a : BoxStep ρ} (ha : isAct a = false) :
    ∀ step ∈ [a], isAct step = false :=
  List.forall_mem_singleton.mpr ha

theorem raisedSteps_not_act (r : Option Raised) :
    ∀ step ∈ (raisedSteps r : List (BoxStep ρ)), isAct step = false := by
  cases r with
  | none => exact List.forall_mem_nil _
  | some raised =>
    cases raised with
    | registration _ _ _ => exact List.forall_mem_nil _
    | status devid id val => exact singleton_not_act rfl
    | event devid id param param2 =>
      simp only [raisedSteps]
      cases VsEvtType.ofCode id with
      | none => exact List.forall_mem_nil _
      | some type =>
        cases type with
        | keyPressed =>
          simp only
          split
          · exact singleton_not_act rfl
          · exact List.forall_mem_nil _
        | sensorTriggered | sensorRecovered | irKey => exact singleton_not_act rfl

theorem probedSteps_not_act (s : Discovery.ProbeState ρ) (it : Discovery.Iteration) :
    ∀ step ∈ probedSteps s it, isAct step = false := by
  unfold probedSteps registerSteps
  cases Discovery.registerCall s it.received with
  | none => exact List.forall_mem_nil _
  | some found =>
    rw [Option.elim_some]
    cases findDevByMac s.vs.queue (Discovery.readInfo found.2).mac with
    | none => exact singleton_not_act rfl
    | some dev => exact List.forall_mem_nil _

theorem incomingSteps_not_act (s : VsThread ρ) (incoming : Incoming) :
    ∀ step ∈ incomingSteps s incoming, isAct step = false := by
  cases incoming with
  | datagram addr bytes => exact raisedSteps_not_act _
  | timeout =>
    intro step hstep
    obtain ⟨dev, -, rfl⟩ := List.mem_map.mp hstep
    rfl

theorem announcedSteps_not_act (simAddr : UInt32) (s : Conversation ρ) (heard : Bool)
    (done : Handled) : ∀ step ∈ announcedSteps simAddr s heard done, isAct step = false := by
  intro step hstep
  unfold announcedSteps at hstep
  split at hstep
  · exact incomingSteps_not_act _ _ step hstep
  · contradiction

theorem requestSteps_not_act (simAddr : UInt32) (s : Conversation ρ) (devid : UInt32)
    (net : Exchange) (frame : List UInt8) :
    ∀ step ∈ requestSteps simAddr s devid net frame, isAct step = false := by
  intro step hstep
  unfold requestSteps at hstep
  split at hstep
  · exact announcedSteps_not_act _ _ _ _ step hstep
  · contradiction

theorem convSteps_not_act (scan : List UInt8 → Typed) (simAddr : UInt32) (s : Conversation ρ)
    (conv : ConvStep ρ) : ∀ step ∈ convSteps scan simAddr s conv, isAct step = false := by
  intro step hstep
  cases conv with
  | setStatus status net =>
    simp only [convSteps] at hstep
    cases hframe : setStatusFrame status with
    | none =>
      rw [hframe] at hstep
      contradiction
    | some frame =>
      rw [hframe] at hstep
      exact requestSteps_not_act _ _ _ _ _ step hstep
  | getStatus status net => exact requestSteps_not_act _ _ _ _ _ step hstep
  | setAction act net => exact requestSteps_not_act _ _ _ _ _ step hstep
  | typed text heard => exact announcedSteps_not_act _ _ _ _ step hstep
  | packet bytes heard => exact announcedSteps_not_act _ _ _ _ step hstep
  | thread a => contradiction

theorem collect_carriedOut_nil {steps : List (BoxStep ρ)}
    (h : ∀ step ∈ steps, isAct step = false) (s : BoxState ρ) :
    collect boxStep carriedOut s steps = [] :=
  collect_eq_nil (fun step hstep s => carriedOut_of_not_act (h step hstep) s) s

/-- Of the steps of the box that a step of the house consists of, the first one of the
worker takes an act and no other does. -/
theorem carriedOut_boxSteps {scan : List UInt8 → Typed} {simAddr : UInt32} {s s' : HouseState ρ}
    {step : HouseStep ρ} (h : houseStep scan simAddr s step = some s') :
    collect boxStep carriedOut s.box (boxSteps scan simAddr s step) = houseCarriedOut s step := by
  cases step with
  | worker net elsewhere others =>
    obtain ⟨act, rest, done, hqueue, hdone, -⟩ := workerStep_eq_some h
    have hact : boxStep s.box (.act (calls simAddr s net elsewhere others)) =
        some { s.box with cb := done.cb } := by
      simp only [boxStep, HouseState.box, hqueue, hdone, Option.map_some]
    simp only [boxSteps]
    rw [collect_cons _ _ _ hact, collect_carriedOut_nil, List.append_nil]
    · rfl
    · intro step hstep
      cases hrequest : s.cb.asyncQueue.head?.bind fun act => driverRequest s.cb net act.body with
      | none =>
        rw [hrequest] at hstep
        contradiction
      | some request =>
        rw [hrequest] at hstep
        exact convSteps_not_act _ _ _ _ step hstep
  | typed text heard =>
    exact collect_carriedOut_nil (convSteps_not_act scan simAddr s.conv (.typed text heard)) s.box
  | packet bytes heard =>
    exact collect_carriedOut_nil (convSteps_not_act scan simAddr s.conv (.packet bytes heard)) s.box
  | probed p it => exact collect_carriedOut_nil (probedSteps_not_act _ _) _
  | monitor incoming => exact collect_carriedOut_nil (incomingSteps_not_act _ _) _
  | box step =>
    cases step with
    | act drivers => contradiction
    | online _ _ _ | offline _ | event _ _ _ _ | mode _ | packet _ _ _ | tick _ =>
      exact collect_singleton _ _ _ _

/-- The queue of the worker in the house is the one of the box. -/
theorem house_flow (scan : List UInt8 → Typed) (simAddr : UInt32) :
    Flows (houseStep (ρ := ρ) scan simAddr) (fun _ _ => True) (fun _ => True)
      (fun s => s.cb.asyncQueue) houseCarriedOut (houseCaused scan simAddr) := by
  intro s step s' _ _ h
  have hsame : SameCore s.cb s.clock s.box := ⟨rfl, rfl⟩
  obtain ⟨b', hrun, hcore⟩ := run_boxSteps hsame h
  have hflow := run_flows (preserves_true boxStep fun _ _ => True) acts_flow _ _ b' trivial
    (guarded_true _ _ _) hrun
  rw [carriedOut_boxSteps h, hcore.cb] at hflow
  exact hflow

/-- Each step of the worker takes one act. -/
theorem houseCarriedOut_length {scan : List UInt8 → Typed} {simAddr : UInt32}
    (steps : List (HouseStep ρ)) :
    ∀ s t : HouseState ρ, run (houseStep scan simAddr) s steps = some t →
      (collect (houseStep scan simAddr) houseCarriedOut s steps).length =
        steps.countP isWorker := by
  induction steps with
  | nil => exact fun _ _ _ => rfl
  | cons step rest ih =>
    intro s t hrun
    obtain ⟨s', hs', hrest⟩ := run_cons_eq_some _ s t step rest hrun
    have hone : (houseCarriedOut s step).length = if isWorker step then 1 else 0 := by
      cases step with
      | worker net elsewhere others =>
        obtain ⟨act, later, -, hqueue, -⟩ := workerStep_eq_some hs'
        simp only [houseCarriedOut, hqueue]
        rfl
      | typed _ _ | packet _ _ | probed _ _ | monitor _ | box _ => rfl
    rw [collect_cons _ _ rest hs', List.length_append, ih s' t hrest, hone, List.countP_cons,
      Nat.add_comm]

/-- The act that a step has caused is the next one of the worker, when the worker has done
as many steps as there were acts before it. -/
theorem caused_act_next {scan : List UInt8 → Typed} {simAddr : UInt32} {s t : HouseState ρ}
    {step : HouseStep ρ} {steps : List (HouseStep ρ)} {k : ℕ} {act : HsbAct ρ}
    (hrun : run (houseStep scan simAddr) s (step :: steps) = some t)
    (hcaused : (houseCaused scan simAddr s step)[k]? = some act)
    (hturn : (step :: steps).countP isWorker = s.cb.asyncQueue.length + k) :
    t.cb.asyncQueue.head? = some act := by
  obtain ⟨s', hs', -⟩ := run_cons_eq_some _ s t step steps hrun
  have hplace : (s.cb.asyncQueue ++ collect (houseStep scan simAddr) (houseCaused scan simAddr) s
      (step :: steps))[s.cb.asyncQueue.length + k]? = some act := by
    rw [collect_cons _ _ steps hs', List.getElem?_append_right (Nat.le_add_right _ _),
      Nat.add_sub_cancel_left]
    exact List.getElem?_append_left (List.getElem?_eq_some_iff.mp hcaused).1 |>.trans hcaused
  exact run_turn (preserves_true _ fun _ _ => True) (house_flow scan simAddr) trivial
    (guarded_true _ s _) hrun hplace ((houseCarriedOut_length _ s t hrun).trans hturn)

/-- From its cause to the switch: in every run of the house an act that sets the status of
the switch has its turn after exactly the acts queued before it, whatever has caused it and
whatever happens meanwhile. If the device is the switch then and the request gets there, the
switch has the status of the act, the client of the act is told whether that is known, and
all clients are told of the change. -/
theorem cause_reaches_switch (scan : List UInt8 → Typed) (simAddr : UInt32)
    (s t t' : HouseState ρ) (step : HouseStep ρ) (steps : List (HouseStep ρ)) (k : ℕ)
    (act : HsbAct ρ) (status : HsbStatus) (net : Exchange) (elsewhere : Transfer)
    (others : DriverCalls)
    (hrun : run (houseStep scan simAddr) s (step :: steps) = some t)
    (hcaused : (houseCaused scan simAddr s step)[k]? = some act)
    (hturn : (step :: steps).countP isWorker = s.cb.asyncQueue.length + k)
    (hworker : houseStep scan simAddr t (.worker net elsewhere others) = some t')
    (hbody : act.body = .setStatus status) (hone : 1 ≤ status.num.toNat)
    (hid : firstId status = 0) (hswitch : aboutSwitch simAddr t act.body = true)
    (hrequest : net.request = true) :
    t'.conv.sim.statusOnOff = firstVal status ∧
      switchNews scan simAddr t (.worker net elsewhere others) =
        answerOf act.reply
            (if net.reply then HsbErrorNo.ok.code else HsbErrorNo.invalidMsg.code) ++
          newsOf t.conv.sim.statusOnOff (firstVal status).toUInt32
            (listener simAddr t.conv net.heard) := by
  have hnext := caused_act_next hrun hcaused hturn
  obtain ⟨rest, hqueue⟩ : ∃ rest, t.cb.asyncQueue = act :: rest := by
    cases hacts : t.cb.asyncQueue with
    | nil =>
      rw [hacts] at hnext
      contradiction
    | cons head rest =>
      rw [hacts, List.head?_cons] at hnext
      exact ⟨rest, by rw [Option.some.inj hnext]⟩
  have hvisit : actVisit simAddr t net act =
      .set act.reply (firstVal status) net.reply (listener simAddr t.conv net.heard) := by
    unfold actVisit
    rw [if_pos hswitch, hbody]
    exact if_pos ⟨hrequest, hid⟩
  have hset := worker_set hqueue hbody hone hswitch hworker
  rw [hvisit] at hset
  exact hset

/-- SET_LINKAGE for device 2: sets status 0 of device 1 to 1 when its sensor triggers. -/
def linkSensorToLamp : Memory :=
  load [0x53, 0x88, 32, 0, 2, 0, 0, 0, 0, 0, 0xFF, 0, 2, 0, 1, 0, 0, 0, 0, 0, 1, 0, 0, 0,
    0, 0, 1, 0, 0, 0, 0, 0] zeros

/-- The sensor of a second device is linked to the lamp, whose status is being asked for. -/
def sensorEvening : List (HouseStep Unit) :=
  [lampFound, .box (.online virtualSwitchDrv.id { mac := .replicate 8 1 } none),
    .box (.packet linkSensorToLamp 32 ()), padPacket (.getStatus 1)]

def sensorTriggers : HouseStep Unit := .box (.event 2 .sensorTriggered 1 0)

def lampAct : HsbAct Unit := ⟨.setStatus (HsbStatus.ofPair 1 0 1), none⟩

def workerTurn : HouseStep Unit := .worker perfect nowhere noDrivers

theorem cause_reaches_switch_sensor : ∃ s t t',
    run (houseStep typeOff 7) emptyHouse sensorEvening = some s ∧
      run (houseStep typeOff 7) s [sensorTriggers, workerTurn] = some t ∧
      houseStep typeOff 7 t workerTurn = some t' ∧ t'.conv.sim.statusOnOff = 1 ∧
      switchNews typeOff 7 t workerTurn =
        newsOf t.conv.sim.statusOnOff 1 (listener 7 t.conv true) := by
  have hall : ((run (houseStep typeOff 7) emptyHouse sensorEvening).bind fun s =>
      (run (houseStep typeOff 7) s [sensorTriggers, workerTurn]).bind fun t =>
        (houseStep typeOff 7 t workerTurn).map fun _ =>
          ((houseCaused typeOff 7 s sensorTriggers)[0]?, s.cb.asyncQueue.length,
            aboutSwitch 7 t lampAct.body)) = some (some lampAct, 1, true) := by
    decide +kernel
  obtain ⟨s, hs, hall⟩ := Option.bind_eq_some_iff.mp hall
  obtain ⟨t, ht, hall⟩ := Option.bind_eq_some_iff.mp hall
  obtain ⟨t', ht', hall⟩ := Option.map_eq_some_iff.mp hall
  obtain ⟨hcaused, hplace⟩ := Prod.mk.inj hall
  obtain ⟨hwaiting, hswitch⟩ := Prod.mk.inj hplace
  have hturn : [sensorTriggers, workerTurn].countP isWorker = s.cb.asyncQueue.length + 0 := by
    rw [hwaiting]
    rfl
  obtain ⟨hset, hnews⟩ := cause_reaches_switch typeOff 7 s t t' sensorTriggers [workerTurn] 0
    lampAct (HsbStatus.ofPair 1 0 1) perfect nowhere noDrivers ht hcaused hturn ht' rfl
    (by decide) rfl hswitch rfl
  exact ⟨s, t, t', hs, ht, ht', hset, hnews⟩

end HomeSecurityBox.Automation
