import HomeSecurityBox.ActCauses
import HomeSecurityBox.Base.LastWord
import HomeSecurityBox.BoxThreads
import HomeSecurityBox.ConfigRuns

/-!
What a client knows of the box. The list of the online devices is asked for once and then
changes by events; so does the work mode. Events wait in the queue of the client while the
list is read past them, and threads overtake each other on their way to a client; the last
event about a device is the truth about it all the same.
-/

namespace HomeSecurityBox.ClientView

open ByteMemory Protocol DeviceData Device DeviceEvents DevAct Registry TcpPacket TimerTick Box
  RegistryRuns ConfigRuns ActCauses ClientPool OneReply EventFanout PadDialogue UnlockedPop
  ClientEvents BoxThreads Transitions

/-- The drivers call for status, sensor and key events; the others are of the core. -/
def OfDriver : BoxStep Reply → Prop
  | .event _ type _ _ => type ≠ .devUpdated ∧ type ≠ .modeChanged
  | _ => True

instance : DecidablePred OfDriver
  | .event _ type _ _ => inferInstanceAs (Decidable (type ≠ .devUpdated ∧ type ≠ .modeChanged))
  | .online .. | .offline _ | .mode _ | .packet .. | .act _ | .tick _ =>
      inferInstanceAs (Decidable True)

def Allowed (s : BoxState Reply) (step : BoxStep Reply) : Prop := Admitted s step ∧ OfDriver step

instance (s : BoxState Reply) (step : BoxStep Reply) : Decidable (Allowed s step) :=
  inferInstanceAs (Decidable (Admitted s step ∧ OfDriver step))

/-- Something of the box that events tell of, whatever waits for the worker. -/
structure Topic (β : Type) where
  value : BoxState Reply → β
  tells : HsbEvt → Option β
  same : ∀ s queue, value { s with cb := { s.cb with asyncQueue := queue } } = value s
  told : Reports boxStep Allowed Accounted value fun s step =>
    (eventsOf (notices s step)).filterMap tells

theorem eventsOf_results (reply : Option Reply) (ret : ℤ) :
    eventsOf (resultNotices reply ret) = [] := by
  cases reply <;> rfl

theorem eventsOf_statuses (reply : Option Reply) (answer : ℤ × HsbStatus) :
    eventsOf (statusNotices reply answer) = [] := by
  unfold statusNotices
  split <;> rfl

/-- The mode that a call sets, if it is one. -/
def modeSet (mode : UInt32) : Option UInt32 := if hsbWorkModeValid mode then some mode else none

theorem modeSet_valid {mode m : UInt32} (h : m ∈ modeSet mode) : hsbWorkModeValid m = true := by
  unfold modeSet at h
  split at h
  · rename_i hvalid
    rw [← Option.some.inj h]
    exact hvalid
  · contradiction

theorem setBoxWorkMode_events (cb : HsbDeviceCb Reply) (mode : UInt32) :
    eventsOf (setBoxWorkMode cb mode).2.2 = (modeSet mode).toList.map modeEvt ∧
      (setBoxWorkMode cb mode).2.1.workMode = (modeSet mode).getD cb.workMode := by
  unfold setBoxWorkMode modeSet
  cases hsbWorkModeValid mode with
  | false => exact ⟨rfl, rfl⟩
  | true =>
    refine ⟨rfl, ?_⟩
    simp only [Bool.not_true, Bool.false_eq_true, if_false, if_true, devModeChanged, devEvent_eq,
      Option.getD_some]

theorem none_valid : ∀ m ∈ (none : Option UInt32), hsbWorkModeValid m = true :=
  fun m hm => absurd hm (Option.not_mem_none m)

/-- An act tells of the mode that it sets, and of nothing else. -/
theorem processDevAct_events {cb : HsbDeviceCb Reply} {drivers : DriverCalls} {act : HsbAct Reply}
    {done : Processed Reply} (h : processDevAct cb drivers act = some done) :
    ∃ mode : Option UInt32, eventsOf done.notices = mode.toList.map modeEvt ∧
      done.cb.workMode = mode.getD cb.workMode ∧ ∀ m ∈ mode, hsbWorkModeValid m = true := by
  unfold processDevAct at h
  split at h
  · cases Option.some.inj h
    exact ⟨none, eventsOf_results _ _, rfl, none_valid⟩
  · obtain ⟨set, hset, rfl⟩ := Option.map_eq_some_iff.mp h
    simp only [eventsOf_append, eventsOf_results, List.append_nil]
    unfold setDevStatus at hset
    split at hset
    · cases Option.some.inj hset
      obtain ⟨hevents, hmode⟩ := setBoxWorkMode_events cb (UInt32.ofNat _)
      exact ⟨_, hevents, hmode, fun m hm => modeSet_valid hm⟩
    · split at hset
      · cases Option.some.inj hset
        exact ⟨none, rfl, rfl, none_valid⟩
      · split at hset
        · cases Option.some.inj hset
          exact ⟨none, rfl, rfl, none_valid⟩
        · obtain ⟨ret, -, rfl⟩ := Option.map_eq_some_iff.mp hset
          exact ⟨none, rfl, rfl, none_valid⟩
  · obtain ⟨answer, -, rfl⟩ := Option.map_eq_some_iff.mp h
    exact ⟨none, eventsOf_statuses _ _, rfl, none_valid⟩
  · cases Option.some.inj h
    exact ⟨none, eventsOf_results _ _, rfl, none_valid⟩

theorem code_injective {a b : HsbEvtType} (h : a.code = b.code) : a = b := by
  cases a <;> cases b <;> first | rfl | exact absurd h (by decide)

/-- What the events of a step say of the online devices and of the mode. -/
inductive News (cb cb' : HsbDeviceCb Reply) : List HsbEvt → Prop
  | appeared (devid : UInt32) (type : HsbDevUpdatedType) (htype : type ≠ .offline)
      (hids : getDevIdList cb' = getDevIdList cb ++ [devid]) (hmode : cb'.workMode = cb.workMode) :
      News cb cb' [updatedEvt devid type]
  | left (devid : UInt32) (hids : getDevIdList cb' = (getDevIdList cb).erase devid)
      (hmode : cb'.workMode = cb.workMode) : News cb cb' [updatedEvt devid .offline]
  | driver (evt : HsbEvt) (type : HsbEvtType) (htype : type ≠ .devUpdated ∧ type ≠ .modeChanged)
      (hid : evt.id = type.code) (hids : getDevIdList cb' = getDevIdList cb)
      (hmode : cb'.workMode = cb.workMode) : News cb cb' [evt]
  | mode (mode : Option UInt32) (hvalid : ∀ m ∈ mode, hsbWorkModeValid m = true)
      (hids : getDevIdList cb' = getDevIdList cb) (hmode : cb'.workMode = mode.getD cb.workMode) :
      News cb cb' (mode.toList.map modeEvt)

theorem confirm_workMode {cb : HsbDeviceCb Reply} {stored : Except ℤ (HsbDeviceCb Reply)}
    (h : ∀ cb', stored = .ok cb' → cb'.workMode = cb.workMode) :
    (confirm cb stored).cb.workMode = cb.workMode := by
  unfold confirm
  split
  · exact h _ rfl
  · rfl

theorem set_workMode {R S : Type} (table : SlotTable R S) {cb cb' : HsbDeviceCb Reply}
    {devid : UInt32} {record : R} (h : table.set cb devid record = .ok cb') :
    cb'.workMode = cb.workMode := by
  obtain ⟨dev, hslot, -, rfl⟩ := SlotTable.set_eq_ok table cb cb' devid record h
  rfl

theorem del_workMode {R S : Type} (table : SlotTable R S) {cb cb' : HsbDeviceCb Reply}
    {devid : UInt32} {slot : UInt16} (h : table.del cb devid slot = .ok cb') :
    cb'.workMode = cb.workMode := by
  obtain ⟨dev, hslot, -, -, rfl⟩ := SlotTable.del_eq_ok table cb cb' devid slot h
  rfl

/-- A client sets the mode by an act only. -/
theorem dealTcpPacket_workMode (cb : HsbDeviceCb Reply) (buf : Memory) (len : ℕ) (reply : Reply) :
    (dealTcpPacket cb buf len reply).cb.workMode = cb.workMode := by
  unfold dealTcpPacket
  split
  · rfl
  · simp only
    unfold dispatchCmd
    cases HsbCmd.ofCode (get16 buf 0) with
    | none => rfl
    | some c =>
      cases c <;> simp only [answer_cb]
      case setTimer => exact confirm_workMode fun cb' h => set_workMode _ h
      case delTimer => exact confirm_workMode fun cb' h => del_workMode _ h
      case setDelay => exact confirm_workMode fun cb' h => set_workMode _ h
      case delDelay => exact confirm_workMode fun cb' h => del_workMode _ h
      case setLinkage => exact confirm_workMode fun cb' h => set_workMode _ h
      case delLinkage => exact confirm_workMode fun cb' h => del_workMode _ h
      case doAction => cases readAction buf <;> rfl
      all_goals rfl

theorem dealTcpPacket_ids (cb : HsbDeviceCb Reply) (buf : Memory) (len : ℕ) (reply : Reply) :
    getDevIdList (dealTcpPacket cb buf len reply).cb = getDevIdList cb := by
  rcases dealTcpPacket_written cb buf len reply with hsame | ⟨-, dev, f, -, hwrite, hcb⟩
  · exact congrArg (List.map HsbDev.id) hsame.queue
  · rw [hcb]
    exact map_updateFirst HsbDev.id (get32 buf 4) f
      (fun dev => congrArg Prod.snd (packetWrite_entry hwrite dev)) cb.queue

theorem devOnline_notice {cb : HsbDeviceCb Reply} {drvid : UInt32} {info : HsbDevInfo}
    {op : Option HsbDevOp} {done : Onlined Reply} (h : devOnline cb drvid info op = some done) :
    ∃ type, type ≠ HsbDevUpdatedType.offline ∧
      done.notice = ⟨.event (updatedEvt done.devid type), none⟩ := by
  simp only [devOnline] at h
  split at h
  · obtain ⟨drv, -, rfl⟩ := Option.map_eq_some_iff.mp h
    exact ⟨.newAdd, by decide, rfl⟩
  · cases Option.some.inj h
    exact ⟨.online, by decide, rfl⟩

/-- A device that leaves is one that was online. -/
theorem devOffline_notice {cb : HsbDeviceCb Reply} {dev : HsbDev} (hdev : dev ∈ cb.queue) :
    (devOffline cb dev.id).2.2 = [⟨.event (updatedEvt dev.id .offline), none⟩] := by
  have hidx : cb.queue.findIdx (fun d => d.id == dev.id) < cb.queue.length := by
    apply List.findIdx_lt_length_of_exists
    exact ⟨dev, hdev, beq_self_eq_true dev.id⟩
  simp only [devOffline, List.getElem?_eq_getElem hidx]
  rfl

theorem step_news {s s' : BoxState Reply} {step : BoxStep Reply} (hs : Accounted s)
    (hstep : OfDriver step) (h : boxStep s step = some s') :
    News s.cb s'.cb (eventsOf (notices s step)) := by
  cases step with
  | online drvid info op =>
    obtain ⟨done, hdone, rfl⟩ := Option.map_eq_some_iff.mp h
    have hids := congrArg Store.online (online_store hs hdone [])
    rw [← devOnline_devid hdone] at hids
    obtain ⟨type, htype, hnotice⟩ := devOnline_notice hdone
    have hmode : done.cb.workMode = s.cb.workMode := by
      obtain ⟨_, _, _, -, -, -, hcb⟩ | ⟨-, _, _, _, -, -, -, hcb⟩ := devOnline_eq_some hdone <;>
        rw [hcb]
    have hall : eventsOf (notices s (.online drvid info op)) = [updatedEvt done.devid type] := by
      simp only [notices, hdone, Option.map_some, Option.getD_some, hnotice]
      rfl
    rw [hall]
    exact .appeared done.devid type htype hids hmode
  | offline devid =>
    cases Option.some.inj h
    have hids := congrArg Store.online (offline_store hs devid)
    rcases devOffline_cases s.cb devid with ⟨-, hsame⟩ | ⟨i, dev, acts, hdev, rfl, -, hcb⟩
    · simp only [notices, hsame]
      exact .mode none none_valid rfl rfl
    · have hevents : eventsOf (notices s (.offline dev.id)) = [updatedEvt dev.id .offline] := by
        rw [notices, devOffline_notice (List.mem_of_getElem? hdev)]
        rfl
      rw [hevents]
      exact .left dev.id hids (by rw [hcb])
  | event devid type param1 param2 =>
    cases Option.some.inj h
    refine .driver _ type hstep rfl ?_ ?_
    · exact congrArg (List.map HsbDev.id) (devEvent_sameDevices s.cb devid type param1 param2).queue
    · simp only [devEvent_eq]
  | mode mode =>
    cases Option.some.inj h
    obtain ⟨hevents, hmode⟩ := setBoxWorkMode_events s.cb mode
    simp only [notices]
    rw [hevents]
    exact .mode _ (fun m hm => modeSet_valid hm)
      (congrArg (List.map HsbDev.id) (setBoxWorkMode_sameDevices s.cb mode).queue) hmode
  | packet buf len reply =>
    cases Option.some.inj h
    exact .mode none none_valid (dealTcpPacket_ids s.cb buf len reply)
      (dealTcpPacket_workMode s.cb buf len reply)
  | act drivers =>
    simp only [boxStep] at h
    cases hqueue : s.cb.asyncQueue with
    | nil =>
      rw [hqueue] at h
      contradiction
    | cons act rest =>
      rw [hqueue] at h
      obtain ⟨done, hdone, rfl⟩ := Option.map_eq_some_iff.mp h
      obtain ⟨mode, hevents, hmode, hvalid⟩ := processDevAct_events hdone
      have hsame := processDevAct_sameDevices _ drivers act done hdone
      simp only [notices, hqueue, hdone, Option.map_some, Option.getD_some]
      rw [hevents]
      exact .mode mode hvalid (congrArg (List.map HsbDev.id) hsame.queue) hmode
  | tick now =>
    simp only [boxStep] at h
    split at h
    · cases Option.some.inj h
      exact .mode none none_valid (getDevIdList_tick s.cb now)
        (checkTimerAndDelay_workMode s.cb now)
    · contradiction

def tellsOnline (id : UInt32) (evt : HsbEvt) : Option Bool :=
  if evt.id = HsbEvtType.code .devUpdated ∧ evt.devid = id then
    some (decide (evt.param1 ≠ HsbDevUpdatedType.code .offline))
  else none

def tellsMode (evt : HsbEvt) : Option UInt32 :=
  if evt.id = HsbEvtType.code .modeChanged then some (UInt32.ofNat evt.param1.toNat) else none

theorem tellsOnline_updatedEvt (id devid : UInt32) (type : HsbDevUpdatedType) :
    tellsOnline id (updatedEvt devid type) =
      if devid = id then some (decide (type ≠ .offline)) else none := by
  have hcode : decide (type.code ≠ HsbDevUpdatedType.code .offline) = decide (type ≠ .offline) := by
    cases type <;> rfl
  unfold tellsOnline
  rw [← hcode]
  exact if_congr (and_iff_right rfl) rfl rfl

theorem tellsMode_modeEvt {mode : UInt32} (hvalid : hsbWorkModeValid mode = true) :
    tellsMode (modeEvt mode) = some mode := by
  have hlt : mode.toNat < 3 := UInt32.lt_iff_toNat_lt.mp (of_decide_eq_true hvalid)
  have hparam : (UInt16.ofNat mode.toNat).toNat = mode.toNat := by
    rw [UInt16.toNat_ofNat']
    omega
  simp only [tellsMode, modeEvt, if_true, hparam, UInt32.ofNat_toNat]

theorem tells_other (evt : HsbEvt) (type : HsbEvtType) (hid : evt.id = type.code) (id : UInt32) :
    (type ≠ .devUpdated → tellsOnline id evt = none) ∧
      (type ≠ .modeChanged → tellsMode evt = none) := by
  refine ⟨fun htype => if_neg ?_, fun htype => if_neg ?_⟩
  · rintro ⟨hcode, -⟩
    exact htype (code_injective (hid.symm.trans hcode))
  · intro hcode
    exact htype (code_injective (hid.symm.trans hcode))

theorem tellsOnline_modes (id : UInt32) (mode : Option UInt32) :
    (mode.toList.map modeEvt).filterMap (tellsOnline id) = [] := by
  cases mode with
  | none => rfl
  | some mode =>
    have hnone := (tells_other (modeEvt mode) .modeChanged rfl id).1 nofun
    simp only [Option.toList_some, List.map_singleton, List.filterMap_cons, hnone,
      List.filterMap_nil]

theorem tellsMode_modes {mode : Option UInt32} (hvalid : ∀ m ∈ mode, hsbWorkModeValid m = true) :
    (mode.toList.map modeEvt).filterMap tellsMode = mode.toList := by
  cases mode with
  | none => rfl
  | some mode =>
    simp only [Option.toList_some, List.map_singleton, List.filterMap_cons,
      tellsMode_modeEvt (hvalid mode rfl), List.filterMap_nil]

/-- Whether the device is in the list of the online ones. -/
def onlineTopic (id : UInt32) : Topic Bool where
  value s := decide (id ∈ getDevIdList s.cb)
  tells := tellsOnline id
  same _ _ := rfl
  told := by
    intro s step s' hs hok h
    have hnews := step_news hs hok.2 h
    have hnodup : (getDevIdList s.cb).Nodup := hs.online_ids
    change decide (id ∈ getDevIdList s'.cb) = lastWord (decide (id ∈ getDevIdList s.cb))
      ((eventsOf (notices s step)).filterMap (tellsOnline id))
    generalize eventsOf (notices s step) = events at hnews ⊢
    cases hnews with
    | appeared devid type htype hids _ =>
      simp only [hids, List.mem_append, List.mem_singleton, List.filterMap_cons,
        List.filterMap_nil, tellsOnline_updatedEvt]
      by_cases hid : devid = id
      · simp [hid, htype]
      · simp [hid, Ne.symm hid]
    | left devid hids _ =>
      simp only [hids, hnodup.mem_erase_iff, List.filterMap_cons, List.filterMap_nil,
        tellsOnline_updatedEvt]
      by_cases hid : devid = id
      · simp [hid]
      · simp [hid, Ne.symm hid]
    | driver evt type htype hid hids _ =>
      simp only [hids, List.filterMap_cons, List.filterMap_nil,
        (tells_other evt type hid id).1 htype.1, lastWord_nil]
    | mode mode _ hids _ =>
      rw [hids, tellsOnline_modes, lastWord_nil]

def modeTopic : Topic UInt32 where
  value s := s.cb.workMode
  tells := tellsMode
  same _ _ := rfl
  told := by
    intro s step s' hs hok h
    have hnews := step_news hs hok.2 h
    change s'.cb.workMode = lastWord s.cb.workMode
      ((eventsOf (notices s step)).filterMap tellsMode)
    generalize eventsOf (notices s step) = events at hnews ⊢
    cases hnews with
    | appeared devid type _ _ hmode | left devid _ hmode =>
      have hnone : ∀ type, tellsMode (updatedEvt devid type) = none :=
        fun type => (tells_other _ .devUpdated rfl devid).2 nofun
      simp only [hmode, List.filterMap_cons, List.filterMap_nil, hnone, lastWord_nil]
    | driver evt type htype hid _ hmode =>
      simp only [hmode, List.filterMap_cons, List.filterMap_nil,
        (tells_other evt type hid 0).2 htype.2, lastWord_nil]
    | mode mode hvalid _ hmode =>
      rw [hmode, tellsMode_modes hvalid]
      cases mode <;> rfl

theorem accounted_acts {s : BoxState Reply} (h : Accounted s) (queue : List (HsbAct Reply)) :
    Accounted { s with cb := { s.cb with asyncQueue := queue } } :=
  ⟨h.keys, h.ids, h.counter, h.below, h.assigned⟩

variable {β T : Type} [DecidableEq T]

/-- Steps of the box are those that the drivers call. -/
def LiveAllowed (s : LiveBox T) : LiveStep T → Prop
  | .core _ a => Allowed s.box a
  | .thread _ => True

instance (s : LiveBox T) : (a : LiveStep T) → Decidable (LiveAllowed s a)
  | .core _ a => inferInstanceAs (Decidable (Allowed s.box a))
  | .thread _ => inferInstanceAs (Decidable True)

def LiveOk (s : LiveBox T) (a : LiveStep T) : Prop := LiveSound s a ∧ LiveAllowed s a

instance (s : LiveBox T) (a : LiveStep T) : Decidable (LiveOk s a) :=
  inferInstanceAs (Decidable (LiveSound s a ∧ LiveAllowed s a))

/-- Where the value stands behind a step, and that the registry is in order. -/
def Topic.Told (topic : Topic β) (s s' : BoxState Reply) (events : List HsbEvt) : Prop :=
  Accounted s' ∧ topic.value s' = lastWord (topic.value s) (events.filterMap topic.tells)

theorem Topic.told_box (topic : Topic β) {s s' : BoxState Reply} {a : BoxStep Reply}
    (hs : Accounted s) (hallowed : Allowed s a) (h : boxStep s a = some s') :
    topic.Told s s' (eventsOf (notices s a)) :=
  ⟨effect_accounted (boxStep_effect h) hallowed.1 hs, topic.told s a s' hs hallowed h⟩

/-- To the box a step of the pool is a packet, an act of the worker, or nothing. -/
theorem Topic.told_pool (topic : Topic β) {s s' : PoolState} {b : Step} (clock : ℕ)
    (assigned : List (DevKey × UInt32)) (hs : Accounted ⟨s.cb, clock, assigned⟩)
    (hown : ∀ cb acts, b ≠ .box cb acts) (h : step s b = some s') :
    topic.Told ⟨s.cb, clock, assigned⟩ ⟨s'.cb, clock, assigned⟩ (workerRaises s b) := by
  have hsame : s'.cb = s.cb → topic.Told ⟨s.cb, clock, assigned⟩ ⟨s'.cb, clock, assigned⟩ [] := by
    intro hcb
    rw [hcb]
    exact ⟨hs, rfl⟩
  cases b with
  | connect =>
    cases Option.some.inj h
    apply hsame
    unfold connect
    cases s.freeContext <;> rfl
  | request k buf len =>
    obtain ⟨-, -, rfl⟩ := request_eq_some h
    exact topic.told_box (a := .packet buf len ⟨k, (s.context k).tcpSockfd⟩) hs
      ⟨⟨trivial, trivial⟩, trivial⟩ rfl
  | disconnect k =>
    obtain ⟨-, -, rfl⟩ := disconnect_eq_some h
    exact hsame rfl
  | takeAct =>
    obtain ⟨act, rest, -, -, rfl⟩ := takeAct_eq_some h
    exact ⟨accounted_acts hs rest, topic.same ⟨s.cb, clock, assigned⟩ rest⟩
  | finishAct drivers =>
    obtain ⟨act, done, hworker, hdone, rfl⟩ := finishAct_eq_some h
    -- the box takes the act and carries it out in one step
    have hact : boxStep ⟨{ s.cb with asyncQueue := act :: s.cb.asyncQueue }, clock, assigned⟩
        (.act drivers) = some ⟨done.cb, clock, assigned⟩ := by
      simp only [boxStep, hdone, Option.map_some]
    obtain ⟨haccounted, hvalue⟩ := topic.told_box (a := .act drivers)
      (accounted_acts hs (act :: s.cb.asyncQueue)) ⟨⟨trivial, trivial⟩, trivial⟩ hact
    refine ⟨haccounted, ?_⟩
    rw [hvalue, topic.same ⟨s.cb, clock, assigned⟩ (act :: s.cb.asyncQueue)]
    simp only [notices, workerRaises, hworker, hdone, Option.map_some, Option.getD_some]
  | notifyCheck =>
    apply hsame
    rcases notifyCheck_cases h with ⟨cnt, -, rfl⟩ | ⟨resp, rest, cnt, -, hround⟩
    · rfl
    · rcases hround with ⟨k, hmatched, -, rfl⟩ | ⟨k, -, -, rfl⟩ | ⟨-, rfl⟩ <;> rfl
  | notifyPush =>
    obtain ⟨resp, rest, k, hmatched, -, rfl⟩ := notifyPush_eq_some h
    exact hsame rfl
  | wake k =>
    obtain ⟨-, -, -, rfl⟩ := wake_eq_some h
    exact hsame rfl
  | drain k wrote =>
    obtain ⟨-, -, ⟨-, rfl⟩ | ⟨resp, rest, frame, -, -, rfl⟩⟩ := drain_cases h
    · exact hsame rfl
    · cases wrote <;> exact hsame rfl
  | event k event =>
    cases Option.some.inj h
    exact hsame rfl
  | box cb acts => exact absurd rfl (hown cb acts)

theorem Topic.told_live (topic : Topic β) {s s' : LiveBox T} {a : LiveStep T}
    (hs : Accounted s.box) (hok : LiveOk s a) (h : liveStep s a = some s') :
    topic.Told s.box s'.box (news s a) := by
  cases a with
  | core t a =>
    obtain ⟨box, -, -, hbox, rfl, -⟩ := core_eq_some h
    exact topic.told_box hs hok.2 hbox
  | thread a =>
    obtain ⟨pop, hown, hpop, rfl⟩ := thread_eq_some h
    have hsame : pop.fan.pool.cb = s.pop.fan.pool.cb →
        topic.Told s.box ({ s with pop := pop } : LiveBox T).box [] := by
      intro hcb
      simp only [LiveBox.box, hcb]
      exact ⟨hs, rfl⟩
    rcases popStep_fan hok.1.1 hpop with ⟨hfan, k, rfl | rfl⟩ | ⟨b, rfl, hfan⟩
    · exact hsame (by rw [hfan])
    · exact hsame (by rw [hfan])
    · rcases fanStep_cases hfan with ⟨b, pool, rfl, -, hstep, hs'⟩ | ⟨t, event, rfl, -, -⟩ |
        ⟨t, event, cnt, rfl, -, hs'⟩ | ⟨t, event, k, rfl, -, hs'⟩
      · have hnobox : ∀ cb acts, b ≠ .box cb acts := by
          rintro cb acts rfl
          contradiction
        have htold := topic.told_pool s.clock s.assigned hs hnobox hstep
        have hcb : pop.fan.pool.cb = pool.cb := by rw [hs']
        simp only [LiveBox.box, hcb]
        exact htold
      · contradiction
      · exact hsame (by rw [hs']; rfl)
      · exact hsame (by rw [hs']; rfl)

theorem live_accounted_preserves (topic : Topic β) :
    Preserves liveStep LiveOk fun s : LiveBox T => Accounted s.box :=
  fun _ _ _ hs hok h => (topic.told_live hs hok h).1

/-- A client that connects in a run and stays is served well from then on. -/
theorem attached_since {drivers : List HsbDevDrv} {client : Reply}
    {before early steps : List (LiveStep T)} {c s : LiveBox T}
    (hok : Guarded liveStep LiveOk (LiveBox.start drivers) (before ++ early ++ steps))
    (hbefore : run liveStep (LiveBox.start drivers) before = some c)
    (hearly : run liveStep c early = some s) (hconnected : Connected client c.pop.fan.pool)
    (hstays : ∀ b ∈ (early ++ steps).filterMap LiveStep.label, Stays client b) :
    (Attached client c.pop ∧ Guarded liveStep (LiveCalm client) c early) ∧
      Attached client s.pop ∧ Guarded liveStep (LiveCalm client) s steps := by
  have hsound : Guarded liveStep LiveSound (LiveBox.start drivers) (before ++ early ++ steps) :=
    hok.mono fun _ _ h => h.1
  rw [List.append_assoc] at hsound
  obtain ⟨hsoundBefore, hsoundLater⟩ := hsound.of_append hbefore
  obtain ⟨hsoundEarly, hsoundSteps⟩ := hsoundLater.of_append hearly
  rw [List.filterMap_append] at hstays
  obtain ⟨hstaysEarly, hstaysSteps⟩ := List.forall_mem_append.mp hstays
  have hcalm := guarded_live_calm hstaysEarly hsoundEarly
  have hc : Attached client c.pop :=
    ⟨run_invariant_guarded live_orderly_preserves before _ c (start_live_orderly drivers)
      hsoundBefore hbefore, hconnected⟩
  have hs : Attached client s.pop :=
    run_invariant_guarded (live_attached_preserves client) early c s hc hcalm hearly
  exact ⟨⟨hc, hcalm⟩, hs, guarded_live_calm hstaysSteps hsoundSteps⟩

namespace Topic

variable (topic : Topic β)

/-- All events of the topic are raised by one thread, or all by the worker. -/
def OneVoice (source : Option T) (s : LiveBox T) (a : LiveStep T) : Prop :=
  speaker a ≠ source → (news s a).filterMap topic.tells = []

instance [DecidableEq β] (source : Option T) (s : LiveBox T) (a : LiveStep T) :
    Decidable (topic.OneVoice source s a) :=
  inferInstanceAs (Decidable (speaker a ≠ source → (news s a).filterMap topic.tells = []))

/-- What one source raises on the topic over a run. -/
def said (source : Option T) (s : LiveBox T) (steps : List (LiveStep T)) : List β :=
  (collect liveStep (raised source) s steps).filterMap topic.tells

/-- What a client reads of the topic over a run. -/
def heard (client : Reply) (s : LiveBox T) (steps : List (LiveStep T)) : List β :=
  (collect liveStep (onPop (onFan (writes client.slot))) s steps).filterMap topic.tells

/-- What is on its way to a client, from its queue and from one source. -/
def coming (source : Option T) (client : Reply) (s : LiveBox T) : List β :=
  (queued s.pop.fan client.slot).filterMap topic.tells ++
    (due s.pop.fan client.slot source).filterMap topic.tells

variable {topic} {source : Option T} {client : Reply}

theorem said_others {s : LiveBox T} {steps : List (LiveStep T)} {other : Option T}
    (hother : other ≠ source) (hvoice : Guarded liveStep (topic.OneVoice source) s steps) :
    topic.said other s steps = [] := by
  rw [said, collect_filterMap]
  apply collect_eq_nil_guarded _ hvoice
  intro s a hone
  rw [raised]
  split
  · rename_i hspeaker
    exact hone (hspeaker ▸ hother)
  · rfl

/-- The value follows what the one voice raises. -/
theorem value_said (steps : List (LiveStep T)) (s t : LiveBox T) (hs : Accounted s.box)
    (hok : Guarded liveStep LiveOk s steps)
    (hvoice : Guarded liveStep (topic.OneVoice source) s steps)
    (hrun : run liveStep s steps = some t) :
    topic.value t.box = lastWord (topic.value s.box) (topic.said source s steps) := by
  rw [said, collect_filterMap]
  have hkeep : Preserves liveStep (fun s a => LiveOk s a ∧ topic.OneVoice source s a)
      fun s : LiveBox T => Accounted s.box :=
    fun _ _ _ hs hok h => live_accounted_preserves topic _ _ _ hs hok.1 h
  have hreports : Reports liveStep (fun s a => LiveOk s a ∧ topic.OneVoice source s a)
      (fun s : LiveBox T => Accounted s.box) (fun s => topic.value s.box)
      fun s a => (raised source s a).filterMap topic.tells := by
    intro s a s' hs hok h
    dsimp only
    rw [(topic.told_live hs hok.1 h).2, raised]
    by_cases hspeaker : source = speaker a
    · rw [if_pos hspeaker]
    · rw [if_neg hspeaker, hok.2 (Ne.symm hspeaker)]
      rfl
  exact run_reports hkeep hreports steps s t hs (hok.and hvoice) hrun

/-- What is due from a source is the latest that it has raised since the start. -/
theorem due_latest {drivers : List HsbDevDrv} {steps : List (LiveStep T)} {s : LiveBox T}
    (k : Slot) (source : Option T) (hok : Guarded liveStep LiveOk (LiveBox.start drivers) steps)
    (hrun : run liveStep (LiveBox.start drivers) steps = some s) :
    due s.pop.fan k source <:+ collect liveStep (raised source) (LiveBox.start drivers) steps := by
  have hstep : ∀ (s : LiveBox T) a s', True → LiveOk s a → liveStep s a = some s' →
      due s'.pop.fan k source <:+ due s.pop.fan k source ++ raised source s a :=
    fun _ _ _ _ hok h => live_due_suffix k source hok.1 h
  have hlatest := run_holds_latest (preserves_true liveStep LiveOk) hstep steps
    (LiveBox.start drivers) s trivial hok hrun
  have hnothing : due (LiveBox.start (T := T) drivers).pop.fan k source = [] := by
    cases source <;> rfl
  rwa [hnothing, List.nil_append] at hlatest

theorem due_others {drivers : List HsbDevDrv} {steps : List (LiveStep T)} {s : LiveBox T}
    {other : Option T} (k : Slot) (hother : other ≠ source)
    (hok : Guarded liveStep LiveOk (LiveBox.start drivers) steps)
    (hvoice : Guarded liveStep (topic.OneVoice source) (LiveBox.start drivers) steps)
    (hrun : run liveStep (LiveBox.start drivers) steps = some s) :
    (due s.pop.fan k other).filterMap topic.tells = [] := by
  have hlatest := (due_latest k other hok hrun).filterMap topic.tells
  have hnone := said_others hother hvoice
  rw [said] at hnone
  rw [hnone] at hlatest
  exact List.suffix_nil.mp hlatest

/-- What a client hears of one voice, and what is still coming, was coming or has been said. -/
theorem heard_coming (steps : List (LiveStep T)) (s t : LiveBox T)
    (hs : Attached client s.pop) (hcalm : Guarded liveStep (LiveCalm client) s steps)
    (hvoice : Guarded liveStep (topic.OneVoice source) s steps)
    (hrun : run liveStep s steps = some t)
    (hothers : ∀ other, other ≠ source →
      (due s.pop.fan client.slot other).filterMap topic.tells = []) :
    topic.heard client s steps ++ topic.coming source client t =
      topic.coming source client s ++ topic.said source s steps := by
  have hkeep := live_attached_preserves (T := T) client
  have hqueue := run_flows hkeep (live_queue_flow client) steps s t hs hcalm hrun
  have hsource : ∀ source, (collect liveStep (onPop (onFan (pushes client.slot))) s steps).filterMap
      (bySource source) ++ due t.pop.fan client.slot source =
        due s.pop.fan client.slot source ++ collect liveStep (raised source) s steps := by
    intro source
    rw [collect_onPop]
    exact run_flows hkeep (live_source_flow client source) steps s t hs hcalm hrun
  have hmixed : (collect liveStep (onPop (onFan fun s a =>
      (pushes client.slot s a).map Prod.snd)) s steps).filterMap topic.tells =
        ((collect liveStep (onPop (onFan (pushes client.slot))) s steps).filterMap
          (bySource source)).filterMap topic.tells := by
    have hsnd := collect_onPop (pushes client.slot) (some ∘ Prod.snd) s steps
    simp only [List.filterMap_eq_map] at hsnd
    rw [← hsnd]
    apply filterMap_one_source
    intro other hother
    have hflow := congrArg (List.filterMap topic.tells) (hsource other)
    have hsaid : (collect liveStep (raised other) s steps).filterMap topic.tells = [] :=
      said_others hother hvoice
    rw [List.filterMap_append, List.filterMap_append, hothers other hother, hsaid] at hflow
    exact (List.append_eq_nil_iff.mp hflow).1
  have hread := congrArg (List.filterMap topic.tells) hqueue
  have hvoiced := congrArg (List.filterMap topic.tells) (hsource source)
  rw [List.filterMap_append, List.filterMap_append, hmixed] at hread
  rw [List.filterMap_append, List.filterMap_append] at hvoiced
  calc topic.heard client s steps ++ topic.coming source client t
      = (topic.heard client s steps ++ (queued t.pop.fan client.slot).filterMap topic.tells) ++
          (due t.pop.fan client.slot source).filterMap topic.tells := by
        rw [coming, List.append_assoc]
    _ = (queued s.pop.fan client.slot).filterMap topic.tells ++
          ((due s.pop.fan client.slot source).filterMap topic.tells ++
            topic.said source s steps) := by
        rw [heard, hread, List.append_assoc, hvoiced, said]
    _ = topic.coming source client s ++ topic.said source s steps := by
        rw [coming, List.append_assoc]

/-- Who knows the value at some time and hears all events of one voice since then knows the
value, though the first ones that he hears may be older. -/
theorem last_word_right {drivers : List HsbDevDrv} {before early steps : List (LiveStep T)}
    {c s t : LiveBox T}
    (hok : Guarded liveStep LiveOk (LiveBox.start drivers) (before ++ early ++ steps))
    (hvoice : Guarded liveStep (topic.OneVoice source) (LiveBox.start drivers)
      (before ++ early ++ steps))
    (hbefore : run liveStep (LiveBox.start drivers) before = some c)
    (hearly : run liveStep c early = some s) (hsteps : run liveStep s steps = some t)
    (hconnected : Connected client c.pop.fan.pool)
    (hempty : (c.pop.fan.pool.context client.slot).queue = [])
    (hstays : ∀ b ∈ (early ++ steps).filterMap LiveStep.label, Stays client b)
    (hdone : topic.coming source client t = []) :
    topic.value t.box = lastWord (topic.value s.box) (topic.heard client s steps) := by
  have hreached : run liveStep (LiveBox.start drivers) (before ++ early) = some s := by
    rw [run_append, hbefore]
    exact hearly
  obtain ⟨hokReached, hokSteps⟩ := hok.of_append hreached
  obtain ⟨hokBefore, hokEarly⟩ := hokReached.of_append hbefore
  obtain ⟨hvoiceReached, hvoiceSteps⟩ := hvoice.of_append hreached
  obtain ⟨hvoiceBefore, hvoiceEarly⟩ := hvoiceReached.of_append hbefore
  obtain ⟨⟨hc, hcalmEarly⟩, hs, hcalmSteps⟩ :=
    attached_since hok hbefore hearly hconnected hstays
  have haccounted : Accounted (LiveBox.start (T := T) drivers).box := accounted_start drivers
  have haccountedS : Accounted s.box := run_invariant_guarded (live_accounted_preserves topic)
    (before ++ early) _ s haccounted hokReached hreached
  -- what is still coming at the reading was said before it, and nothing was said since
  have hstale : topic.coming source client s <:+
      topic.said source (LiveBox.start drivers) (before ++ early) := by
    have hflow := heard_coming early c s hc hcalmEarly hvoiceEarly hearly
      fun other hother => due_others client.slot hother hokBefore hvoiceBefore hbefore
    have hfirst : topic.coming source client c <:+
        topic.said source (LiveBox.start drivers) before := by
      rw [coming, queued, hempty]
      exact (due_latest client.slot source hokBefore hbefore).filterMap topic.tells
    obtain ⟨front, hfront⟩ := hfirst
    rw [said, collect_append early hbefore, List.filterMap_append]
    refine ⟨front ++ topic.heard client c early, ?_⟩
    rw [List.append_assoc, hflow, ← List.append_assoc, hfront, said, said]
  have hearlier := value_said (before ++ early) _ s haccounted hokReached hvoiceReached hreached
  have hlater := value_said steps s t haccountedS hokSteps hvoiceSteps hsteps
  have hheard := heard_coming steps s t hs hcalmSteps hvoiceSteps hsteps
    fun other hother => due_others client.slot hother hokReached hvoiceReached hreached
  rw [hdone, List.append_nil] at hheard
  rw [hlater, hheard, hearlier]
  exact (lastWord_stale hstale _).symm

end Topic

def lampClient : Reply := ⟨firstClient, 0⟩

def lampConnects : List (LiveStep Bool) := [.thread (.fan (.pool .connect))]

/-- Device 1 comes online, and its event is on its way when the client reads the list. -/
def lampOnline : List (LiveStep Bool) :=
  [.core false (.online 1 { cls := 1 } (some .virtualSwitchOp))]

def scanned (t : Bool) : List (LiveStep Bool) :=
  [.thread (.fan (.test t)), .thread (.fan (.push t))] ++
    List.replicate 5 (.thread (.fan (.test t)))

def readNext : List (LiveStep Bool) :=
  [.thread (.enter firstClient), .thread (.leave firstClient)] ++
    [.thread (.fan (.pool (.drain firstClient true)))]

/-- The device leaves and a key sets the mode; the second thread passes the first. -/
def lampLeaves : List (LiveStep Bool) :=
  scanned false ++ [.core false (.offline 1), .core true (.mode 2)] ++ scanned true ++
    scanned false ++ [.thread (.fan (.pool (.wake firstClient)))] ++ readNext ++ readNext ++
    readNext

end HomeSecurityBox.ClientView
