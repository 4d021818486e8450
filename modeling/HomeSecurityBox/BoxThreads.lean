import HomeSecurityBox.Base.Flow
import HomeSecurityBox.ClientEvents

/-!
The box with all its threads. A thread of a driver or of the timers changes the registry, the
work mode or a timer and goes on to `notify_resp` with the event of that change; the worker,
the accepting thread and the handlers of the clients go on beside it. What the one machine has
of the control block is the box, what it has of the contexts and queues is the pool.
-/

namespace HomeSecurityBox.BoxThreads

open DeviceData DevAct Registry Box ClientPool OneReply PadDialogue EventFanout WrittenFrames
  UnlockedPop ClientEvents Transitions

structure LiveBox (T : Type) where
  pop : PopState T
  clock : ℕ := 0
  assigned : List (DevKey × UInt32) := []

variable {T : Type} [DecidableEq T]

def LiveBox.box (s : LiveBox T) : BoxState Reply :=
  { cb := s.pop.fan.pool.cb, clock := s.clock, assigned := s.assigned }

/-- A thread that is not in `notify_resp` takes a step of the box, or one of those in the pool
takes its next step. -/
inductive LiveStep (T : Type)
  | core (t : T) (a : BoxStep Reply)
  | thread (a : PopStep T)

/-- Packets and acts are handled by the threads of the pool. -/
def ofCore : BoxStep Reply → Bool
  | .packet .. | .act _ => false
  | .online .. | .offline _ | .event .. | .mode _ | .tick _ => true

/-- The box changes and events are raised by steps of the box only. -/
def fanOwn : FanStep T → Bool
  | .raise _ _ | .pool (.box _ _) => false
  | _ => true

def ofThread : PopStep T → Bool
  | .enter _ | .leave _ => true
  | .fan a | .torn a _ => fanOwn a

/-- A step of the box has one event to tell of, or none. -/
def startScan : List HsbEvt → Notifier
  | [] => .idle
  | event :: _ => .scanning event 0

def withCore (s : PopState T) (cb : HsbDeviceCb Reply) (thread : T → Notifier) : PopState T :=
  { s with fan := { pool := { s.fan.pool with cb := cb }, thread := thread } }

def liveStep (s : LiveBox T) : LiveStep T → Option (LiveBox T)
  | .core t a =>
      if s.pop.fan.thread t = .idle ∧ ofCore a = true then
        (boxStep s.box a).map fun box =>
          { pop := withCore s.pop box.cb (Function.update s.pop.fan.thread t
              (startScan (eventsOf (notices s.box a))))
            clock := box.clock
            assigned := box.assigned }
      else none
  | .thread a =>
      if ofThread a then (popStep s.pop a).map fun pop => { s with pop := pop } else none

def LiveBox.start (drivers : List HsbDevDrv) : LiveBox T :=
  { pop := withCore UnlockedPop.start (BoxState.start drivers).cb fun _ => .idle }

/-- The thread whose step it is; the worker has no name. -/
def speaker : LiveStep T → Option T
  | .core t _ => some t
  | .thread _ => none

/-- The events of a step. -/
def news (s : LiveBox T) : LiveStep T → List HsbEvt
  | .core _ a => eventsOf (notices s.box a)
  | .thread a => onFan (raises none) s.pop a

def raised (source : Option T) (s : LiveBox T) (a : LiveStep T) : List HsbEvt :=
  if source = speaker a then news s a else []

def onPop {ι : Type} (view : PopState T → PopStep T → List ι) (s : LiveBox T) :
    LiveStep T → List ι
  | .core _ _ => []
  | .thread a => view s.pop a

def LiveSound (s : LiveBox T) : LiveStep T → Prop
  | .core _ _ => True
  | .thread a => Sound s.pop a

instance (s : LiveBox T) : (a : LiveStep T) → Decidable (LiveSound s a)
  | .core _ _ => inferInstanceAs (Decidable True)
  | .thread a => inferInstanceAs (Decidable (Sound s.pop a))

def LiveStep.label : LiveStep T → Option Step
  | .core _ _ => none
  | .thread a => a.label

/-- The client stays, its writes succeed, and the step is sound. -/
def LiveCalm (client : Reply) (s : LiveBox T) (a : LiveStep T) : Prop :=
  LiveSound s a ∧ ∀ b ∈ a.label, Stays client b

theorem core_eq_some {s s' : LiveBox T} {t : T} {a : BoxStep Reply}
    (h : liveStep s (.core t a) = some s') :
    ∃ box, s.pop.fan.thread t = .idle ∧ ofCore a = true ∧ boxStep s.box a = some box ∧
      s'.box = box ∧
      s'.pop = withCore s.pop box.cb (Function.update s.pop.fan.thread t
        (startScan (eventsOf (notices s.box a)))) := by
  simp only [liveStep] at h
  split at h
  · rename_i hready
    obtain ⟨box, hbox, rfl⟩ := Option.map_eq_some_iff.mp h
    exact ⟨box, hready.1, hready.2, hbox, rfl, rfl⟩
  · contradiction

theorem thread_eq_some {s s' : LiveBox T} {a : PopStep T}
    (h : liveStep s (.thread a) = some s') :
    ∃ pop, ofThread a = true ∧ popStep s.pop a = some pop ∧ s' = { s with pop := pop } := by
  simp only [liveStep] at h
  split at h
  · rename_i hown
    obtain ⟨pop, hpop, rfl⟩ := Option.map_eq_some_iff.mp h
    exact ⟨pop, hown, hpop, rfl⟩
  · contradiction

theorem raises_of_fanOwn {b : FanStep T} (h : fanOwn b = true)
    (source : Option T) (s : FanState T) :
    raises source s b = if source = none then raises none s b else [] := by
  cases b with
  | pool b => rfl
  | raise t event => contradiction
  | test t | push t => exact (ite_self []).symm

theorem raises_of_thread {a : PopStep T} (h : ofThread a = true) (source : Option T)
    (s : PopState T) :
    onFan (raises source) s a = if source = none then onFan (raises none) s a else [] := by
  cases a with
  | enter k | leave k => exact (ite_self []).symm
  | fan b | torn b left => exact raises_of_fanOwn h source s.fan

/-- A step of the box tells of one event at most. -/
theorem eventsOf_notices (s : BoxState Reply) {a : BoxStep Reply} (h : ofCore a = true) :
    (eventsOf (notices s a)).length ≤ 1 := by
  have hone : (notices s a).length ≤ 1 := by
    cases a with
    | packet | act => contradiction
    | online drvid info op =>
      simp only [notices]
      cases devOnline s.cb drvid info op <;> simp
    | offline devid =>
      simp only [notices, devOffline]
      split <;> simp
    | event => exact Nat.le_refl 1
    | mode mode =>
      simp only [notices, DeviceEvents.setBoxWorkMode]
      split <;> simp
    | tick => exact Nat.zero_le 1
  exact (List.length_filterMap_le _ _).trans hone

theorem startScan_due {events : List HsbEvt} (h : events.length ≤ 1) (k : Slot) :
    (startScan events).due k = events := by
  match events, h with
  | [], _ => rfl
  | [event], _ => rw [startScan, Notifier.due, if_pos (Nat.zero_le _)]

section

variable {s : PopState T} (cb : HsbDeviceCb Reply) (thread : T → Notifier)

omit [DecidableEq T] in
theorem withCore_orderly (h : Orderly s) : Orderly (withCore s cb thread) where
  pool := h.pool.of_same_contexts rfl rfl
  framed := h.framed
  pops k hpop := ⟨(h.pops k hpop).inUse, (h.pops k hpop).draining, (h.pops k hpop).queue⟩

omit [DecidableEq T] in
theorem withCore_attached {client : Reply} (h : Attached client s) :
    Attached client (withCore s cb thread) :=
  ⟨withCore_orderly cb thread h.orderly, h.connected⟩

end

omit [DecidableEq T] in
theorem start_live_orderly (drivers : List HsbDevDrv) :
    Orderly (LiveBox.start (T := T) drivers).pop :=
  withCore_orderly _ _ start_orderly

theorem live_orderly_preserves :
    Preserves liveStep LiveSound fun s : LiveBox T => Orderly s.pop := by
  intro s a s' hs hsound h
  cases a with
  | core t a =>
    obtain ⟨box, -, -, -, -, hpop⟩ := core_eq_some h
    rw [hpop]
    exact withCore_orderly _ _ hs
  | thread a =>
    obtain ⟨pop, -, hpop, rfl⟩ := thread_eq_some h
    exact orderly_preserves s.pop a pop hs hsound hpop

theorem live_attached_preserves (client : Reply) :
    Preserves liveStep (LiveCalm client) fun s : LiveBox T => Attached client s.pop := by
  intro s a s' hs hcalm h
  cases a with
  | core t a =>
    obtain ⟨box, -, -, -, -, hpop⟩ := core_eq_some h
    rw [hpop]
    exact withCore_attached _ _ hs
  | thread a =>
    obtain ⟨pop, -, hpop, rfl⟩ := thread_eq_some h
    exact attached_preserves client s.pop a pop hs hcalm hpop

/-- What is due to a context after a step of the box: its event, from the thread that took it. -/
theorem due_core {s s' : LiveBox T} {t : T} {a : BoxStep Reply}
    (h : liveStep s (.core t a) = some s') (k : Slot) (source : Option T) :
    due s'.pop.fan k source = due s.pop.fan k source ++ raised source s (.core t a) := by
  obtain ⟨box, hidle, hcore, -, -, hpop⟩ := core_eq_some h
  have hset : due s'.pop.fan k source = due (s.pop.fan.setThread t
      (startScan (eventsOf (notices s.box a)))) k source := by
    rw [hpop]
    cases source <;> rfl
  rw [hset, due_setThread, startScan_due (eventsOf_notices s.box hcore), raised, speaker, news]
  by_cases hsource : source = some t
  · rw [if_pos hsource, if_pos hsource, hsource, due, hidle]
    rfl
  · rw [if_neg hsource, if_neg hsource, List.append_nil]

theorem collect_onPop {ι κ : Type} (view : FanState T → FanStep T → List ι) (f : ι → Option κ)
    (s : LiveBox T) (steps : List (LiveStep T)) :
    (collect liveStep (onPop (onFan view)) s steps).filterMap f =
      collect liveStep (onPop (onFan fun s a => (view s a).filterMap f)) s steps := by
  rw [collect_filterMap]
  congr 1
  funext s a
  rcases a with _ | a
  · rfl
  · cases a <;> rfl

theorem live_source_flow (client : Reply) (source : Option T) :
    Flows liveStep (LiveCalm client) (fun s => Attached client s.pop)
      (fun s => due s.pop.fan client.slot source)
      (onPop (onFan fun s a => (pushes client.slot s a).filterMap (bySource source)))
      (raised source) := by
  intro s a s' hs hcalm h
  cases a with
  | core t a => exact due_core h client.slot source
  | thread a =>
    obtain ⟨pop, hown, hpop, rfl⟩ := thread_eq_some h
    have hflow := flows_onFan (source_flow client.slot source) s.pop a pop hs hcalm hpop
    rw [raises_of_thread hown] at hflow
    exact hflow

theorem live_queue_flow (client : Reply) :
    Flows liveStep (LiveCalm client) (fun s : LiveBox T => Attached client s.pop)
      (fun s => queued s.pop.fan client.slot) (onPop (onFan (writes client.slot)))
      (onPop (onFan fun s a => (pushes client.slot s a).map Prod.snd)) := by
  intro s a s' hs hcalm h
  cases a with
  | core t a =>
    obtain ⟨box, -, -, -, -, hpop⟩ := core_eq_some h
    dsimp only
    rw [hpop]
    exact (List.append_nil _).symm
  | thread a =>
    obtain ⟨pop, -, hpop, rfl⟩ := thread_eq_some h
    exact flows_onFan (client_flow client.slot) s.pop a pop hs hcalm hpop

theorem live_read_flow (client : Reply) :
    Flows liveStep (LiveCalm client) (fun s : LiveBox T => Attached client s.pop)
      (fun s => eventsRead client s.pop.fan.pool.log) (fun _ _ => [])
      (onPop (onFan (writes client.slot))) := by
  intro s a s' hs hcalm h
  cases a with
  | core t a =>
    obtain ⟨box, -, -, -, -, hpop⟩ := core_eq_some h
    dsimp only
    rw [hpop]
    exact (List.append_nil _).symm
  | thread a =>
    obtain ⟨pop, -, hpop, rfl⟩ := thread_eq_some h
    exact read_writes hs hcalm hpop

/-- What is on its way to a context is the latest that its source has raised. -/
theorem live_due_suffix {s s' : LiveBox T} {a : LiveStep T} (k : Slot) (source : Option T)
    (hsound : LiveSound s a) (h : liveStep s a = some s') :
    due s'.pop.fan k source <:+ due s.pop.fan k source ++ raised source s a := by
  cases a with
  | core t a =>
    rw [due_core h]
  | thread a =>
    obtain ⟨pop, hown, hpop, rfl⟩ := thread_eq_some h
    have hraised : raised source s (.thread a) = onFan (raises source) s.pop a :=
      (raises_of_thread hown source s.pop).symm
    rw [hraised]
    rcases popStep_fan hsound.1 hpop with ⟨hsame, j, rfl | rfl⟩ | ⟨b, rfl, hfan⟩
    · rw [hsame]
      exact ⟨[], (List.append_nil _).symm⟩
    · rw [hsame]
      exact ⟨[], (List.append_nil _).symm⟩
    · exact due_suffix k source hfan

theorem guarded_live_calm {client : Reply} {steps : List (LiveStep T)} {s : LiveBox T}
    (hstays : ∀ b ∈ steps.filterMap LiveStep.label, Stays client b)
    (hsound : Guarded liveStep LiveSound s steps) : Guarded liveStep (LiveCalm client) s steps := by
  apply hsound.and
  apply guarded_of_forall
  intro a ha _ b hb
  exact hstays b (List.mem_filterMap.mpr ⟨a, ha, hb⟩)

end HomeSecurityBox.BoxThreads
