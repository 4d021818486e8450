import HomeSecurityBox.Base.Transitions
import HomeSecurityBox.VsDriver

/-!
Two threads that register devices of the virtual switch driver at the same time:
the monitor thread, which probes when a datagram comes from an unknown address,
and the worker, which probes for a client. A step is a section of `dev_online`
under the lock, one of its queue operations outside of it, or an access to the
list of the driver.
-/

namespace HomeSecurityBox.VsRegistering

open Protocol DeviceData Device DeviceEvents Registry VirtualSwitch VsDriver Transitions

variable {ρ : Type}

inductive Thread
  | monitor
  | worker
  deriving DecidableEq, Repr

def Thread.other : Thread → Thread
  | .monitor => .worker
  | .worker => .monitor

/-- Where a thread stands in `_register_device`: what it does next. -/
inductive Registration
  | idle
  | searching (addr : UInt32) (info : VsInfo)
  | creating (addr : UInt32) (info : VsInfo)
  | popping (addr : UInt32) (info : VsInfo) (id : ℕ) (dev : HsbDev)
  | queueing (addr : UInt32) (info : VsInfo) (dev : HsbDev) (type : HsbDevUpdatedType)
  | raising (addr : UInt32) (info : VsInfo) (dev : HsbDev) (type : HsbDevUpdatedType)
  | listing (addr : UInt32) (info : VsInfo) (devid : UInt32)
  deriving DecidableEq, Repr

/-- The core, the list of the driver, both threads and, newest first, the devices
that were created. -/
structure RegState (ρ : Type) where
  cb : HsbDeviceCb ρ
  queue : List VsDev := []
  point : Thread → Registration := fun _ => .idle
  created : List HsbDev := []

def RegState.start (s : VsState ρ) : RegState ρ := { cb := s.cb, queue := s.queue }

def RegState.goto (s : RegState ρ) (thread : Thread) (point : Registration) : RegState ρ :=
  { s with point := Function.update s.point thread point }

inductive RegStep
  | begin (thread : Thread) (addr : UInt32) (info : VsInfo)
  | proceed (thread : Thread)
  deriving DecidableEq, Repr

/-- `_find_dev_by_mac`, at the head of a call. -/
def begin (s : RegState ρ) (thread : Thread) (addr : UInt32) (info : VsInfo) :
    Option (RegState ρ) :=
  match s.point thread with
  | .idle =>
      match findDevByMac s.queue info.mac with
      | some _ => some s
      | none => some (s.goto thread (.searching addr info))
  | _ => none

/-- The rest of a call, one step at a time. The search hands its index to a pop that
takes whatever is there by then; past the end it takes nothing. -/
def proceed (s : RegState ρ) (thread : Thread) : Option (RegState ρ) :=
  match s.point thread with
  | .idle => none
  | .searching addr info =>
      let id := s.cb.offq.findIdx (sameDevice virtualSwitchDrv.id (devInfo info))
      match s.cb.offq[id]? with
      | none => some (s.goto thread (.creating addr info))
      | some dev => some (s.goto thread (.popping addr info id dev))
  | .creating addr info =>
      (findDrv s.cb virtualSwitchDrv.id).map fun drv =>
        let made := createDev s.cb (devInfo info) drv (some .virtualSwitchOp)
        { s.goto thread (.queueing addr info made.1 .newAdd) with
          cb := made.2
          created := made.1 :: s.created }
  | .popping addr info id dev =>
      some { s.goto thread (.queueing addr info dev .online) with
        cb := { s.cb with offq := s.cb.offq.eraseIdx id } }
  | .queueing addr info dev type =>
      some { s.goto thread (.raising addr info dev type) with
        cb := { s.cb with queue := s.cb.queue ++ [dev] } }
  | .raising addr info dev type =>
      some { s.goto thread (.listing addr info dev.id) with
        cb := (devUpdated s.cb dev.id type).1 }
  | .listing addr info devid =>
      some { s.goto thread .idle with
        queue := s.queue ++ [{ id := devid, ip := addr, info := info }] }

def regStep (s : RegState ρ) : RegStep → Option (RegState ρ)
  | .begin thread addr info => begin s thread addr info
  | .proceed thread => proceed s thread

/-- A call that no step of the other thread falls into is `_register_device`. -/
theorem alone_eq_registerDevice (s : RegState ρ) (thread : Thread) (addr : UInt32)
    (info : VsInfo) (hidle : s.point thread = .idle) (done : VsState ρ)
    (hdone : registerDevice ⟨s.cb, s.queue⟩ addr info = some done) :
    ∃ n t, run regStep s (.begin thread addr info :: List.replicate n (.proceed thread)) = some t ∧
      t.cb = done.cb ∧ t.queue = done.queue ∧ t.point = s.point := by
  unfold registerDevice at hdone
  cases hmac : findDevByMac s.queue info.mac with
  | some dev =>
    simp only [hmac] at hdone
    cases hdone
    exact ⟨0, s, by simp [run, regStep, begin, hidle, hmac], rfl, rfl, rfl⟩
  | none =>
    simp only [hmac] at hdone
    obtain ⟨online, honline, rfl⟩ := Option.map_eq_some_iff.mp hdone
    have hback : Function.update s.point thread .idle = s.point := by
      rw [← hidle, Function.update_eq_self]
    simp only [devOnline] at honline
    cases hoff : s.cb.offq[s.cb.offq.findIdx (sameDevice virtualSwitchDrv.id (devInfo info))]? with
    | none =>
      simp only [hoff] at honline
      obtain ⟨drv, hdrv, rfl⟩ := Option.map_eq_some_iff.mp honline
      let dev := (createDev s.cb (devInfo info) drv (some .virtualSwitchOp)).1
      refine ⟨5, ⟨_, _, s.point, dev :: s.created⟩, ?_, rfl, rfl, rfl⟩
      simp [run, regStep, begin, proceed, hidle, hmac, hoff, hdrv, RegState.goto, List.replicate,
        createDev, hback, dev]
    | some dev =>
      simp only [hoff] at honline
      cases honline
      refine ⟨5, ⟨_, _, s.point, s.created⟩, ?_, rfl, rfl, rfl⟩
      simp [run, regStep, begin, proceed, hidle, hmac, hoff, RegState.goto, List.replicate, hback]

/-- The device that a thread has taken out of a queue or created. -/
def hand : Registration → List HsbDev
  | .queueing _ _ dev _ => [dev]
  | _ => []

def devices (s : RegState ρ) : List HsbDev :=
  s.cb.queue ++ s.cb.offq ++ (hand (s.point .monitor) ++ hand (s.point .worker))

/-- One device, and with it one id, for each address; none is lost and none is there
twice. Between two calls the hands are empty and the devices are those of the two
queues. -/
structure InOrder (base : List HsbDev) (s : RegState ρ) : Prop where
  apart : ((devices s).map devKey).Nodup
  complete : (devices s).Perm (s.created ++ base)

/-- A creation finds no device under its key; a pop finds the device of the search
where the search has found it. -/
def UpToDate (s : RegState ρ) : Registration → Prop
  | .creating _ info =>
      ∀ dev ∈ devices s, devKey dev ≠ (virtualSwitchDrv.id, (devInfo info).mac)
  | .popping _ _ id dev => s.cb.offq[id]? = some dev
  | _ => True

def Undisturbed (s : RegState ρ) : RegStep → Prop
  | .begin _ _ _ => True
  | .proceed thread => UpToDate s (s.point thread)

instance (s : RegState ρ) : (point : Registration) → Decidable (UpToDate s point)
  | .creating _ info => inferInstanceAs (Decidable
      (∀ dev ∈ devices s, devKey dev ≠ (virtualSwitchDrv.id, (devInfo info).mac)))
  | .popping _ _ id dev => inferInstanceAs (Decidable (s.cb.offq[id]? = some dev))
  | .idle | .searching .. | .queueing .. | .raising .. | .listing .. =>
      inferInstanceAs (Decidable True)

instance (s : RegState ρ) : (step : RegStep) → Decidable (Undisturbed s step)
  | .begin _ _ _ => inferInstanceAs (Decidable True)
  | .proceed thread => inferInstanceAs (Decidable (UpToDate s (s.point thread)))

/-- A found device that is about to be popped. -/
def Held (s : RegState ρ) : Prop :=
  ∀ thread addr info id dev, s.point thread = .popping addr info id dev → dev ∈ devices s

theorem devices_perm (s : RegState ρ) (thread : Thread) :
    (devices s).Perm
      (hand (s.point thread) ++ (s.cb.queue ++ s.cb.offq ++ hand (s.point thread.other))) := by
  cases thread with
  | monitor =>
    simp only [devices, Thread.other]
    rw [← List.append_assoc, ← List.append_assoc]
    exact List.perm_append_comm.append_right _
  | worker =>
    simp only [devices, Thread.other]
    rw [← List.append_assoc]
    exact List.perm_append_comm

theorem other_ne (thread : Thread) : thread.other ≠ thread := by
  cases thread <;> decide

theorem eq_or_eq_other (thread mover : Thread) : thread = mover ∨ thread = mover.other := by
  cases thread <;> cases mover <;> decide

@[simp] theorem goto_point (s : RegState ρ) (thread : Thread) (point : Registration) :
    (s.goto thread point).point thread = point := Function.update_self _ _ _

@[simp] theorem goto_other (s : RegState ρ) (thread : Thread) (point : Registration) :
    (s.goto thread point).point thread.other = s.point thread.other :=
  Function.update_of_ne (other_ne thread) _ _

/-- What a step does to the devices: nothing, or it creates one, or it pops one
device and takes another. -/
inductive Moves (s : RegState ρ) (step : RegStep) (s' : RegState ρ) : Prop
  | stay (hok : Undisturbed s step) (hdevices : (devices s').Perm (devices s))
      (hcreated : s'.created = s.created)
  | create (thread : Thread) (addr : UInt32) (info : VsInfo) (dev : HsbDev)
      (hstep : step = .proceed thread) (hpoint : s.point thread = .creating addr info)
      (hkey : devKey dev = (virtualSwitchDrv.id, (devInfo info).mac))
      (hdevices : (devices s').Perm (dev :: devices s)) (hcreated : s'.created = dev :: s.created)
  | pop (thread : Thread) (addr : UInt32) (info : VsInfo) (id : ℕ) (dev : HsbDev)
      (rest : List HsbDev) (hstep : step = .proceed thread)
      (hpoint : s.point thread = .popping addr info id dev)
      (hbefore : (devices s).Perm (s.cb.offq[id]?.toList ++ rest))
      (hdevices : (devices s').Perm (dev :: rest)) (hcreated : s'.created = s.created)

theorem perm_toList_eraseIdx (l : List HsbDev) (i : ℕ) :
    l.Perm (l[i]?.toList ++ l.eraseIdx i) := by
  cases h : l[i]? with
  | none =>
    rw [List.eraseIdx_of_length_le (List.getElem?_eq_none_iff.mp h)]
    exact List.Perm.refl l
  | some dev => exact Roster.perm_cons_eraseIdx h

theorem devices_of_hands {s s' : RegState ρ} (thread : Thread)
    (hother : s'.point thread.other = s.point thread.other)
    (hdevices : (hand (s'.point thread) ++ (s'.cb.queue ++ s'.cb.offq)).Perm
      (hand (s.point thread) ++ (s.cb.queue ++ s.cb.offq))) :
    (devices s').Perm (devices s) := by
  have hafter := devices_perm s' thread
  have hbefore := devices_perm s thread
  rw [hother, ← List.append_assoc] at hafter
  rw [← List.append_assoc] at hbefore
  exact (hafter.trans (hdevices.append_right _)).trans hbefore.symm

/-- A step that is up to date and hands no device over between the thread and the
queues. -/
theorem Moves.of_hands {s s' : RegState ρ} {thread : Thread}
    (hok : UpToDate s (s.point thread)) (hother : s'.point thread.other = s.point thread.other)
    (hdevices : (hand (s'.point thread) ++ (s'.cb.queue ++ s'.cb.offq)).Perm
      (hand (s.point thread) ++ (s.cb.queue ++ s.cb.offq)))
    (hcreated : s'.created = s.created) : Moves s (.proceed thread) s' :=
  .stay hok (devices_of_hands thread hother hdevices) hcreated

theorem proceed_moves {s s' : RegState ρ} {thread : Thread} (h : proceed s thread = some s') :
    Moves s (.proceed thread) s' := by
  unfold proceed at h
  cases hpoint : s.point thread with
  | idle => simp [hpoint] at h
  | searching addr info =>
    simp only [hpoint] at h
    split at h
    · cases h
      refine .of_hands (hpoint ▸ trivial) (goto_other s thread _) ?_ rfl
      simp [hpoint, hand, RegState.goto]
    · cases h
      refine .of_hands (hpoint ▸ trivial) (goto_other s thread _) ?_ rfl
      simp [hpoint, hand, RegState.goto]
  | creating addr info =>
    have hbefore := devices_perm s thread
    simp only [hpoint] at h hbefore
    obtain ⟨drv, hdrv, rfl⟩ := Option.map_eq_some_iff.mp h
    have hfound := List.find?_some hdrv
    have hdrvid : drv.id = virtualSwitchDrv.id := eq_of_beq hfound
    refine .create thread addr info _ rfl hpoint ?_ ?_ rfl
    · rw [← hdrvid]
      rfl
    · refine (devices_perm _ thread).trans ?_
      simp only [RegState.goto, Function.update_self, Function.update_of_ne (other_ne thread)]
      exact (hbefore.symm.cons _)
  | popping addr info id dev =>
    have hbefore := devices_perm s thread
    simp only [hpoint] at h hbefore
    cases h
    refine .pop thread addr info id dev
      (s.cb.queue ++ s.cb.offq.eraseIdx id ++ hand (s.point thread.other)) rfl hpoint ?_ ?_ rfl
    · refine hbefore.trans ?_
      have hoffq := (perm_toList_eraseIdx s.cb.offq id).append_left s.cb.queue
      have hmoved := hoffq.trans (List.perm_append_comm_assoc _ _ _)
      have hall := hmoved.append_right (hand (s.point thread.other))
      simpa only [hand, List.nil_append, List.append_assoc] using hall
    · refine (devices_perm _ thread).trans ?_
      simp only [RegState.goto, Function.update_self, Function.update_of_ne (other_ne thread)]
      exact List.Perm.refl _
  | queueing addr info dev type =>
    simp only [hpoint] at h
    cases h
    refine .of_hands (hpoint ▸ trivial) (goto_other s thread _) ?_ rfl
    simp only [RegState.goto, Function.update_self, hpoint, hand, List.nil_append,
      List.append_assoc, List.singleton_append]
    exact List.perm_middle
  | raising addr info dev type =>
    simp only [hpoint] at h
    cases h
    refine .of_hands (hpoint ▸ trivial) (goto_other s thread _) ?_ rfl
    simp only [RegState.goto, Function.update_self, hpoint, hand]
    rw [devUpdated_eq]
  | listing addr info devid =>
    simp only [hpoint] at h
    cases h
    refine .of_hands (hpoint ▸ trivial) (goto_other s thread _) ?_ rfl
    simp only [RegState.goto, Function.update_self, hpoint, hand]
    exact List.Perm.refl _

theorem begin_moves {s s' : RegState ρ} {thread : Thread} {addr : UInt32} {info : VsInfo}
    (h : begin s thread addr info = some s') : Moves s (.begin thread addr info) s' := by
  unfold begin at h
  cases hpoint : s.point thread with
  | idle =>
    simp only [hpoint] at h
    split at h
    · cases h
      exact .stay trivial (List.Perm.refl _) rfl
    · cases h
      refine .stay trivial (devices_of_hands thread (goto_other s thread _) ?_) rfl
      simp [hpoint, hand, RegState.goto]
  | _ => simp [hpoint] at h

theorem regStep_moves {s s' : RegState ρ} {step : RegStep} (h : regStep s step = some s') :
    Moves s step s' := by
  cases step with
  | begin thread addr info => exact begin_moves h
  | proceed thread => exact proceed_moves h

theorem moves_mem {s s' : RegState ρ} {step : RegStep} (h : Moves s step s')
    (hok : Undisturbed s step) {dev : HsbDev} (hdev : dev ∈ devices s) : dev ∈ devices s' := by
  cases h with
  | stay _ hdevices _ => exact hdevices.mem_iff.mpr hdev
  | create thread addr info new _ _ _ hdevices _ =>
    exact hdevices.mem_iff.mpr (List.mem_cons_of_mem new hdev)
  | pop thread addr info id found rest hstep hpoint hbefore hdevices _ =>
    subst hstep
    simp only [Undisturbed, UpToDate, hpoint] at hok
    rw [hok] at hbefore
    exact hdevices.mem_iff.mpr (hbefore.mem_iff.mp hdev)

/-- A step of one thread leaves the other where it stands. -/
theorem proceed_other {s s' : RegState ρ} {thread : Thread} (h : proceed s thread = some s') :
    s'.point thread.other = s.point thread.other := by
  unfold proceed at h
  cases hpoint : s.point thread with
  | idle => simp [hpoint] at h
  | searching addr info =>
    simp only [hpoint] at h
    split at h
    · cases h
      exact goto_other s thread _
    · cases h
      exact goto_other s thread _
  | creating addr info =>
    simp only [hpoint] at h
    obtain ⟨drv, -, rfl⟩ := Option.map_eq_some_iff.mp h
    exact goto_other s thread _
  | _ =>
    simp only [hpoint] at h
    cases h
    exact goto_other s thread _

/-- The search is the only step that leads to a pop. -/
theorem proceed_popping {s s' : RegState ρ} {thread : Thread} (h : proceed s thread = some s')
    {addr : UInt32} {info : VsInfo} {id : ℕ} {dev : HsbDev}
    (hpoint : s'.point thread = .popping addr info id dev) : dev ∈ s.cb.offq := by
  unfold proceed at h
  cases hbefore : s.point thread with
  | idle => simp [hbefore] at h
  | searching addr' info' =>
    simp only [hbefore] at h
    split at h
    · cases h
      simp at hpoint
    · rename_i found hfound
      cases h
      rw [goto_point] at hpoint
      cases hpoint
      exact List.mem_of_getElem? hfound
  | creating addr' info' =>
    simp only [hbefore] at h
    obtain ⟨drv, -, rfl⟩ := Option.map_eq_some_iff.mp h
    simp [RegState.goto] at hpoint
  | _ =>
    simp only [hbefore] at h
    cases h
    simp [RegState.goto] at hpoint

theorem begin_popping {s s' : RegState ρ} {mover thread : Thread} {addr addr' : UInt32}
    {info info' : VsInfo} {id : ℕ} {dev : HsbDev} (h : begin s mover addr' info' = some s')
    (hpoint : s'.point thread = .popping addr info id dev) :
    s.point thread = .popping addr info id dev := by
  unfold begin at h
  split at h
  · split at h
    · cases h
      exact hpoint
    · cases h
      rcases eq_or_eq_other thread mover with rfl | rfl
      · simp at hpoint
      · rw [goto_other] at hpoint
        exact hpoint
  · contradiction

theorem popping_from {s s' : RegState ρ} {step : RegStep} (h : regStep s step = some s')
    {thread : Thread} {addr : UInt32} {info : VsInfo} {id : ℕ} {dev : HsbDev}
    (hpoint : s'.point thread = .popping addr info id dev) :
    s.point thread = .popping addr info id dev ∨ dev ∈ s.cb.offq := by
  cases step with
  | begin mover addr' info' => exact Or.inl (begin_popping h hpoint)
  | proceed mover =>
    rcases eq_or_eq_other thread mover with rfl | rfl
    · exact Or.inr (proceed_popping h hpoint)
    · rw [proceed_other h] at hpoint
      exact Or.inl hpoint

theorem step_held {s s' : RegState ρ} {step : RegStep} (h : regStep s step = some s')
    (hok : Undisturbed s step) (hheld : Held s) : Held s' := by
  intro thread addr info id dev hpoint
  apply moves_mem (regStep_moves h) hok
  rcases popping_from h hpoint with hbefore | hoffq
  · exact hheld thread addr info id dev hbefore
  · exact List.mem_append_left _ (List.mem_append_right _ hoffq)

theorem step_inOrder {base : List HsbDev} {s s' : RegState ρ} {step : RegStep}
    (h : regStep s step = some s') (hok : Undisturbed s step) (hs : InOrder base s) :
    InOrder base s' := by
  cases regStep_moves h with
  | stay _ hdevices hcreated =>
    refine ⟨(hdevices.map devKey).nodup_iff.mpr hs.apart, ?_⟩
    rw [hcreated]
    exact hdevices.trans hs.complete
  | create thread addr info new hstep hpoint hkey hdevices hcreated =>
    subst hstep
    simp only [Undisturbed, UpToDate, hpoint] at hok
    refine ⟨(hdevices.map devKey).nodup_iff.mpr ?_, ?_⟩
    · refine List.nodup_cons.mpr ⟨?_, hs.apart⟩
      intro hmem
      obtain ⟨dev, hdev, hsame⟩ := List.mem_map.mp hmem
      exact hok dev hdev (hsame.trans hkey)
    · rw [hcreated]
      exact hdevices.trans (hs.complete.cons new)
  | pop thread addr info id found rest hstep hpoint hbefore hdevices hcreated =>
    subst hstep
    simp only [Undisturbed, UpToDate, hpoint] at hok
    rw [hok] at hbefore
    have hsame : (devices s').Perm (devices s) := hdevices.trans hbefore.symm
    refine ⟨(hsame.map devKey).nodup_iff.mpr hs.apart, ?_⟩
    rw [hcreated]
    exact hsame.trans hs.complete

/-- A creation under a key that is there makes a second device of it; a pop of another
device leaves the found one twice. -/
theorem disturbed_breaks {base : List HsbDev} {s s' : RegState ρ} {step : RegStep}
    (h : regStep s step = some s') (hbad : ¬Undisturbed s step) (hheld : Held s) :
    ¬InOrder base s' := by
  intro hs'
  cases regStep_moves h with
  | stay hok _ _ => exact hbad hok
  | create thread addr info new hstep hpoint hkey hdevices _ =>
    subst hstep
    simp only [Undisturbed, UpToDate, hpoint, not_forall, not_not] at hbad
    obtain ⟨dev, hdev, hsame⟩ := hbad
    have hnodup := (hdevices.map devKey).nodup_iff.mp hs'.apart
    have hnew := (List.nodup_cons.mp hnodup).1
    rw [hkey, ← hsame] at hnew
    exact hnew (List.mem_map_of_mem hdev)
  | pop thread addr info id found rest hstep hpoint hbefore hdevices _ =>
    subst hstep
    simp only [Undisturbed, UpToDate, hpoint] at hbad
    have hdev := hbefore.mem_iff.mp (hheld thread addr info id found hpoint)
    have hrest : found ∈ rest := by
      rcases List.mem_append.mp hdev with htaken | hrest
      · exact absurd (Option.mem_toList.mp htaken) hbad
      · exact hrest
    have hnodup := (hdevices.map devKey).nodup_iff.mp hs'.apart
    exact (List.nodup_cons.mp hnodup).1 (List.mem_map_of_mem hrest)

theorem start_inOrder (s : VsState ρ) (hkeys : (roster s.cb).Distinct devKey) :
    InOrder (roster s.cb).members (RegState.start s) := by
  refine ⟨?_, ?_⟩
  · simpa [devices, RegState.start, hand, Roster.Distinct, Roster.members, roster] using hkeys
  · simp [devices, RegState.start, hand, Roster.members, roster]

theorem inOrder_iff (s : VsState ρ) (hkeys : (roster s.cb).Distinct devKey)
    (steps : List RegStep) (t : RegState ρ)
    (hrun : run regStep (RegState.start s) steps = some t) :
    Guarded regStep Undisturbed (RegState.start s) steps ↔
      Throughout regStep (InOrder (roster s.cb).members) (RegState.start s) steps := by
  have hheld : Held (RegState.start s) := by
    intro thread addr info id dev hpoint
    cases hpoint
  have hkeep : Preserves regStep Undisturbed
      (fun u : RegState ρ => InOrder (roster s.cb).members u ∧ Held u) :=
    fun u step u' hu hok h => ⟨step_inOrder h hok hu.1, step_held h hok hu.2⟩
  exact guarded_iff_throughout (fun _ hu => hu.1) hkeep
    (fun u step u' hu hbad h => disturbed_breaks h hbad hu.2) steps (RegState.start s) t
    ⟨start_inOrder s hkeys, hheld⟩ hrun

theorem InOrder.of_idle {base : List HsbDev} {s : RegState ρ} (h : InOrder base s)
    (hidle : ∀ thread, s.point thread = .idle) :
    ((s.cb.queue ++ s.cb.offq).map devKey).Nodup ∧
      (s.cb.queue ++ s.cb.offq).Perm (s.created ++ base) := by
  have hdevices : devices s = s.cb.queue ++ s.cb.offq := by
    simp only [devices, hidle, hand, List.append_nil]
  rw [← hdevices]
  exact ⟨h.apart, h.complete⟩

/-- Both threads keep the registry in order throughout exactly those runs in which
every creation finds no device under its key and every pop the device of its search.
With both calls over, each address has one device in one queue and none is lost. -/
theorem registering_keeps_order (s : VsState ρ) (hkeys : (roster s.cb).Distinct devKey)
    (steps : List RegStep) (t : RegState ρ)
    (hrun : run regStep (RegState.start s) steps = some t) :
    (Throughout regStep (InOrder (roster s.cb).members) (RegState.start s) steps ↔
      Guarded regStep Undisturbed (RegState.start s) steps) ∧
      (Guarded regStep Undisturbed (RegState.start s) steps →
        (∀ thread, t.point thread = .idle) →
          ((t.cb.queue ++ t.cb.offq).map devKey).Nodup ∧
            (t.cb.queue ++ t.cb.offq).Perm (t.created ++ (roster s.cb).members)) := by
  refine ⟨(inOrder_iff s hkeys steps t hrun).symm, ?_⟩
  intro hguard hidle
  have hkeep : Preserves regStep Undisturbed
      (fun u : RegState ρ => InOrder (roster s.cb).members u) :=
    fun _ _ _ hu hok h => step_inOrder h hok hu
  have horder := run_invariant_guarded hkeep steps _ t (start_inOrder s hkeys) hguard hrun
  exact horder.of_idle hidle

/-- Two calls side by side, the monitor thread always one step ahead. -/
def sideBySide (first second : VsInfo) : List RegStep :=
  [.begin .monitor 1 first, .begin .worker 2 second] ++
    (List.replicate 5 [.proceed .monitor, .proceed .worker]).flatten

def noDevices : VsState Unit := ⟨{ driverq := [virtualSwitchDrv] }, []⟩

theorem registering_keeps_order_two_devices :
    ∃ t, run regStep (RegState.start noDevices)
        (sideBySide {} { mac := Vector.replicate 6 1 }) = some t ∧
      t.cb.queue.map HsbDev.id = [1, 2] ∧
      ((t.cb.queue ++ t.cb.offq).map devKey).Nodup := by
  have hend : (run regStep (RegState.start noDevices)
      (sideBySide {} { mac := Vector.replicate 6 1 })).map
        (fun t => (t.cb.queue.map HsbDev.id, t.point .monitor, t.point .worker)) =
      some ([1, 2], .idle, .idle) := by decide +kernel
  have hguard : Guarded regStep Undisturbed (RegState.start noDevices)
      (sideBySide {} { mac := Vector.replicate 6 1 }) := by decide +kernel
  obtain ⟨t, hrun, ht⟩ := Option.map_eq_some_iff.mp hend
  simp only [Prod.mk.injEq] at ht
  refine ⟨t, hrun, ht.1, ?_⟩
  refine ((registering_keeps_order noDevices List.nodup_nil _ t hrun).2 hguard ?_).1
  rintro (_ | _)
  · exact ht.2.1
  · exact ht.2.2

/-- A device of the virtual switch driver. -/
def switchDev (id : UInt32) (mac : UInt8) : HsbDev where
  id := id
  info := devInfo { mac := Vector.replicate 6 mac }
  driver := virtualSwitchDrv
  op := some .virtualSwitchOp

def threeOffline : VsState Unit :=
  ⟨{ driverq := [virtualSwitchDrv], offq := [switchDev 1 1, switchDev 2 2, switchDev 3 3],
     devId := 4 }, []⟩

/-- Both threads find no device of one address and create it twice. Two devices that are
back at the same time: the index of the second is out of date after the first pop, so
that a third device is lost and the second one is in both queues. -/
theorem registering_breaks_order :
    (run regStep (RegState.start noDevices) (sideBySide {} {})).map (fun t =>
        (t.cb.queue.map fun dev => (devKey dev, dev.id), t.point .monitor, t.point .worker)) =
      some ([((1, Vector.replicate 8 0), 1), ((1, Vector.replicate 8 0), 2)], .idle, .idle) ∧
    (run regStep (RegState.start threeOffline)
        (sideBySide { mac := Vector.replicate 6 1 } { mac := Vector.replicate 6 2 })).map (fun t =>
        (t.cb.queue.map HsbDev.id, t.cb.offq.map HsbDev.id, t.point .monitor, t.point .worker)) =
      some ([1, 2], [2], .idle, .idle) := by
  decide +kernel

end HomeSecurityBox.VsRegistering
