import Mathlib.Logic.Function.Basic
import HomeSecurityBox.Base.Flow
import HomeSecurityBox.ClientPool

/-!
The queue of the worker thread with its mutex and its condition, in single steps of the
threads. Callers lock, change the queue or the flag, unlock and then signal; the worker
tests, sleeps and pops under the mutex and processes outside it. However the steps
interleave, the worker takes every pushed item once and in order, never a NULL one, and
does not sleep on a queue that is not empty unless a signal is on its way.
-/

namespace HomeSecurityBox.ThreadControl

open DeviceData Device ClientPool Transitions

/-- The operations on a `thread_data_control`; data is a pointer, `none` for NULL. -/
inductive Call (α : Type)
  | activate
  | deactivate
  | pushData (data : Option α)
  | pushDataHead (data : Option α)
  deriving DecidableEq, Repr

/-- A thread in one of the operations: before the lock, under it, in front of the
unlock and in front of the signal. -/
inductive Caller (α : Type)
  | idle
  | entered (call : Call α)
  | locked (call : Call α)
  | changed
  | signalling
  deriving DecidableEq, Repr

/-- Where `async_process_thread` is. `popping` stands behind the inner loop, `got` behind
the unlock; `woken` has left the condition and waits for the mutex. -/
inductive Worker (α : Type)
  | start
  | outer
  | inner
  | asleep
  | woken
  | popping
  | popped (data : Option α)
  | got (data : Option α)
  | processing (data : α)
  | exiting
  | exited
  deriving DecidableEq, Repr

/-- The thread that holds the mutex. -/
inductive Owner (T : Type)
  | worker
  | caller (t : T)
  deriving DecidableEq, Repr

structure MonitorState (T α : Type) where
  dataQueue : List (Option α) := []
  active : Bool := false
  mutex : Option (Owner T) := none
  worker : Worker α := .start
  caller : T → Caller α := fun _ => .idle

variable {T α : Type} [DecidableEq T]

/-- The tests of the arguments in front of the lock. -/
def Call.refused : Call α → Bool
  | .pushData none | .pushDataHead none => true
  | _ => false

def Call.apply (s : MonitorState T α) : Call α → MonitorState T α
  | .activate => { s with active := true }
  | .deactivate => { s with active := false }
  | .pushData data => { s with dataQueue := s.dataQueue ++ [data] }
  | .pushDataHead data => { s with dataQueue := data :: s.dataQueue }

def MonitorState.setCaller (s : MonitorState T α) (t : T) (pc : Caller α) : MonitorState T α :=
  { s with caller := Function.update s.caller t pc }

@[simp, grind =] theorem setCaller_caller (s : MonitorState T α) (t t' : T) (pc : Caller α) :
    (s.setCaller t pc).caller t' = if t' = t then pc else s.caller t' :=
  Function.update_apply s.caller t pc t'

@[simp, grind =] theorem setCaller_dataQueue (s : MonitorState T α) (t : T) (pc : Caller α) :
    (s.setCaller t pc).dataQueue = s.dataQueue := rfl

@[simp, grind =] theorem setCaller_active (s : MonitorState T α) (t : T) (pc : Caller α) :
    (s.setCaller t pc).active = s.active := rfl

@[simp, grind =] theorem setCaller_mutex (s : MonitorState T α) (t : T) (pc : Caller α) :
    (s.setCaller t pc).mutex = s.mutex := rfl

@[simp, grind =] theorem setCaller_worker (s : MonitorState T α) (t : T) (pc : Caller α) :
    (s.setCaller t pc).worker = s.worker := rfl

omit [DecidableEq T] in
@[simp, grind =] theorem apply_mutex (call : Call α) (s : MonitorState T α) :
    (call.apply s).mutex = s.mutex := by
  cases call <;> rfl

omit [DecidableEq T] in
@[simp, grind =] theorem apply_worker (call : Call α) (s : MonitorState T α) :
    (call.apply s).worker = s.worker := by
  cases call <;> rfl

omit [DecidableEq T] in
@[simp, grind =] theorem apply_caller (call : Call α) (s : MonitorState T α) :
    (call.apply s).caller = s.caller := by
  cases call <;> rfl

omit [DecidableEq T] in
theorem apply_filled {call : Call α} {s : MonitorState T α} (hcall : call.refused = false)
    (hqueue : none ∉ s.dataQueue) : none ∉ (call.apply s).dataQueue := by
  cases call with
  | activate | deactivate => exact hqueue
  | pushData data | pushDataHead data =>
    cases data with
    | none => contradiction
    | some data => simpa [Call.apply] using hqueue

def workerStep (s : MonitorState T α) : Option (MonitorState T α) :=
  match s.worker with
  | .start =>
      if s.mutex.isNone then some { s with mutex := some .worker, worker := .outer } else none
  | .outer => some { s with worker := if s.active then .inner else .exiting }
  | .inner =>
      if s.dataQueue.length = 0 ∧ s.active then some { s with mutex := none, worker := .asleep }
      else some { s with worker := .popping }
  | .asleep => none
  | .woken =>
      if s.mutex.isNone then some { s with mutex := some .worker, worker := .inner } else none
  | .popping =>
      if s.active = false then some { s with worker := .exiting }
      else
        some { s with dataQueue := s.dataQueue.tail, worker := .popped s.dataQueue.head?.join }
  | .popped data => some { s with mutex := none, worker := .got data }
  | .got none => some { s with worker := .start }
  | .got (some data) => some { s with worker := .processing data }
  | .processing _ => some { s with worker := .start }
  | .exiting => some { s with mutex := none, worker := .exited }
  | .exited => none

/-- A signal has an effect only on a thread that waits on the condition. -/
def Worker.signalled : Worker α → Worker α
  | .asleep => .woken
  | pc => pc

def callerStep (s : MonitorState T α) (t : T) : Option (MonitorState T α) :=
  match s.caller t with
  | .idle => none
  | .entered call =>
      if s.mutex.isNone then
        some { s.setCaller t (.locked call) with mutex := some (.caller t) }
      else none
  | .locked call => some ((call.apply s).setCaller t .changed)
  | .changed => some { s.setCaller t .signalling with mutex := none }
  | .signalling => some { s.setCaller t .idle with worker := s.worker.signalled }

/-- A thread enters an operation or goes on in it, the worker goes on, or its wait ends
by the time-out. -/
inductive MonitorStep (T α : Type)
  | enter (t : T) (call : Call α)
  | caller (t : T)
  | worker
  | expire
  deriving DecidableEq, Repr

def monitorStep (s : MonitorState T α) : MonitorStep T α → Option (MonitorState T α)
  | .enter t call =>
      match s.caller t with
      | .idle => some (if call.refused then s else s.setCaller t (.entered call))
      | _ => none
  | .caller t => callerStep s t
  | .worker => workerStep s
  | .expire =>
      match s.worker with
      | .asleep => some { s with worker := .woken }
      | _ => none

def Worker.holds : Worker α → Bool
  | .outer | .inner | .popping | .popped _ | .exiting => true
  | _ => false

def Caller.holds : Caller α → Bool
  | .locked _ | .changed => true
  | _ => false

/-- A caller that has still to signal. -/
def Caller.willSignal : Caller α → Bool
  | .changed | .signalling => true
  | _ => false

def Caller.pending : Caller α → Option (Call α)
  | .entered call | .locked call => some call
  | _ => none

/-- Something for the worker to do. -/
def MonitorState.busy (s : MonitorState T α) : Prop := s.dataQueue ≠ [] ∨ s.active = false

structure MonitorInv (s : MonitorState T α) : Prop where
  worker_owns : s.mutex = some .worker ↔ s.worker.holds = true
  caller_owns : ∀ t, s.mutex = some (.caller t) ↔ (s.caller t).holds = true
  queue_filled : none ∉ s.dataQueue
  calls_filled : ∀ t call, (s.caller t).pending = some call → call.refused = false
  taken_filled : s.worker ≠ .popped none ∧ s.worker ≠ .got none
  nonempty : s.worker = .popping → s.busy
  signalled : s.worker = .asleep → s.busy → ∃ t, (s.caller t).willSignal = true

omit [DecidableEq T] in
theorem initial_inv : MonitorInv ({} : MonitorState T α) := by
  constructor <;> simp [Worker.holds, Caller.holds, Caller.pending]

omit [DecidableEq T] in
theorem MonitorInv.worker_step {s s' : MonitorState T α} (hs : MonitorInv s)
    (h : workerStep s = some s') : MonitorInv s' := by
  obtain ⟨hworker, hcaller, hqueue, hcalls, htaken, hnonempty, hsignal⟩ := hs
  unfold workerStep at h
  cases hpc : s.worker <;> rw [hpc] at h hworker htaken hnonempty hsignal
  case start | woken =>
    simp only at h
    split at h
    · cases Option.some.inj h
      constructor <;> grind [Worker.holds]
    · contradiction
  case outer =>
    cases Option.some.inj h
    constructor <;> grind [Worker.holds]
  case inner =>
    simp only at h
    split at h <;> cases Option.some.inj h
    · constructor <;> grind [Worker.holds, MonitorState.busy]
    · constructor <;> grind [Worker.holds, MonitorState.busy, List.length_eq_zero_iff]
  case popping =>
    simp only at h
    split at h <;> cases Option.some.inj h
    · constructor <;> grind [Worker.holds]
    · rename_i hactive
      have hfilled : s.dataQueue ≠ [] := (hnonempty rfl).resolve_right hactive
      obtain ⟨data, rest, hq⟩ := List.exists_cons_of_ne_nil hfilled
      constructor <;> grind [Worker.holds]
  case popped data =>
    cases Option.some.inj h
    constructor <;> grind [Worker.holds]
  case got data =>
    cases data <;> cases Option.some.inj h
    · constructor <;> grind [Worker.holds]
    · constructor <;> grind [Worker.holds]
  case processing data =>
    cases Option.some.inj h
    constructor <;> grind [Worker.holds]
  case exiting =>
    cases Option.some.inj h
    constructor <;> grind [Worker.holds]
  case asleep | exited => contradiction

theorem Worker.signalled_cases (pc : Worker α) :
    pc = .asleep ∧ pc.signalled = .woken ∨ pc ≠ .asleep ∧ pc.signalled = pc := by
  cases pc <;> simp [Worker.signalled]

omit [DecidableEq T] in
theorem MonitorInv.wake {s : MonitorState T α} (hs : MonitorInv s) :
    MonitorInv { s with worker := s.worker.signalled } := by
  rcases s.worker.signalled_cases with ⟨hpc, hwoken⟩ | ⟨-, hsame⟩
  · obtain ⟨hworker, hcaller, hqueue, hcalls, htaken, hnonempty, hsignal⟩ := hs
    rw [hwoken]
    constructor <;> grind [Worker.holds]
  · rw [hsame]
    exact hs

/-- A signal on its way stays so while another thread moves. -/
theorem willSignal_setCaller {s : MonitorState T α} {t : T} {pc : Caller α}
    (hpc : (s.caller t).willSignal = false) (h : ∃ u, (s.caller u).willSignal = true) :
    ∃ u, ((s.setCaller t pc).caller u).willSignal = true := by
  obtain ⟨u, hu⟩ := h
  have hne : u ≠ t := by
    rintro rfl
    rw [hpc] at hu
    contradiction
  refine ⟨u, ?_⟩
  rw [setCaller_caller, if_neg hne, hu]

theorem MonitorInv.caller_step {s s' : MonitorState T α} {t : T} (hs : MonitorInv s)
    (h : callerStep s t = some s') : MonitorInv s' := by
  obtain ⟨hworker, hcaller, hqueue, hcalls, htaken, hnonempty, hsignal⟩ := hs
  unfold callerStep at h
  cases hpc : s.caller t <;> rw [hpc] at h
  case idle => contradiction
  case entered call =>
    simp only at h
    split at h
    · cases Option.some.inj h
      constructor
      case signalled =>
        intro hasleep hbusy
        exact willSignal_setCaller (by rw [hpc]; rfl) (hsignal hasleep hbusy)
      all_goals grind [Worker.holds, Caller.holds, Caller.pending, MonitorState.busy]
    · contradiction
  case locked call =>
    cases Option.some.inj h
    have hheld : s.mutex = some (.caller t) := (hcaller t).mpr (by rw [hpc]; rfl)
    constructor
    case signalled =>
      intro _ _
      exact ⟨t, by simp [Caller.willSignal]⟩
    case queue_filled =>
      rw [setCaller_dataQueue]
      exact apply_filled (hcalls t call (by rw [hpc]; rfl)) hqueue
    case nonempty =>
      intro hpopping
      rw [setCaller_worker, apply_worker] at hpopping
      grind [Worker.holds]
    case calls_filled =>
      intro u later hpending
      rw [setCaller_caller, apply_caller] at hpending
      split at hpending
      · contradiction
      · exact hcalls u later hpending
    all_goals grind [Caller.holds]
  case changed =>
    cases Option.some.inj h
    constructor
    case signalled =>
      intro _ _
      exact ⟨t, by simp [Caller.willSignal]⟩
    all_goals grind [Worker.holds, Caller.holds, Caller.pending, MonitorState.busy]
  case signalling =>
    cases Option.some.inj h
    have hawake : s.worker.signalled ≠ .asleep := by
      rcases s.worker.signalled_cases with ⟨-, hwoken⟩ | ⟨hpc, hsame⟩
      · rw [hwoken]
        nofun
      · rwa [hsame]
    obtain ⟨hworker, hcaller, hqueue, hcalls, htaken, hnonempty, -⟩ :=
      MonitorInv.wake ⟨hworker, hcaller, hqueue, hcalls, htaken, hnonempty, hsignal⟩
    constructor
    case signalled => exact fun hasleep => absurd hasleep hawake
    all_goals grind [Caller.holds, Caller.pending, MonitorState.busy]

theorem MonitorInv.enter {s : MonitorState T α} {t : T} {call : Call α} (hs : MonitorInv s)
    (hidle : s.caller t = .idle) (hcall : call.refused = false) :
    MonitorInv (s.setCaller t (.entered call)) := by
  obtain ⟨hworker, hcaller, hqueue, hcalls, htaken, hnonempty, hsignal⟩ := hs
  constructor
  case signalled =>
    intro hasleep hbusy
    exact willSignal_setCaller (by rw [hidle]; rfl) (hsignal hasleep hbusy)
  case calls_filled =>
    intro u later hpending
    rw [setCaller_caller] at hpending
    split at hpending
    · cases Option.some.inj hpending
      exact hcall
    · exact hcalls u later hpending
  all_goals grind [Caller.holds, MonitorState.busy]

theorem MonitorInv.step {s s' : MonitorState T α} {a : MonitorStep T α} (hs : MonitorInv s)
    (h : monitorStep s a = some s') : MonitorInv s' := by
  cases a with
  | enter t call =>
    cases hidle : s.caller t <;> simp only [monitorStep, hidle] at h
    case idle =>
      cases Option.some.inj h
      split
      · exact hs
      · exact hs.enter hidle (by simpa using ‹¬call.refused = true›)
    all_goals contradiction
  | caller t => exact hs.caller_step h
  | worker => exact hs.worker_step h
  | expire =>
    cases hpc : s.worker <;> simp only [monitorStep, hpc] at h
    case asleep =>
      cases Option.some.inj h
      have hwake := hs.wake
      rwa [hpc] at hwake
    all_goals contradiction

def Worker.handed : Worker α → List α
  | .popped (some data) | .got (some data) | .processing data => [data]
  | _ => []

def MonitorState.held (s : MonitorState T α) : List α :=
  s.worker.handed ++ s.dataQueue.filterMap id

def pushed (s : MonitorState T α) : MonitorStep T α → List α
  | .caller t =>
      match s.caller t with
      | .locked (.pushData (some data)) => [data]
      | _ => []
  | _ => []

def processed (s : MonitorState T α) : MonitorStep T α → List α
  | .worker =>
      match s.worker with
      | .processing data => [data]
      | _ => []
  | _ => []

/-- `thread_control_push_data_head` has no caller in the program. -/
def headPush : MonitorStep T α → Bool
  | .enter _ (.pushDataHead _) => true
  | _ => false

def TailOnly (s : MonitorState T α) : Prop :=
  ∀ t data, (s.caller t).pending ≠ some (.pushDataHead data)

theorem tailOnly_setCaller {s : MonitorState T α} {t : T} {pc : Caller α} (hs : TailOnly s)
    (hpc : ∀ data, pc.pending ≠ some (.pushDataHead data)) : TailOnly (s.setCaller t pc) := by
  intro u data
  rw [setCaller_caller]
  split
  · exact hpc data
  · exact hs u data

theorem tailOnly_step {s s' : MonitorState T α} {a : MonitorStep T α} (hs : TailOnly s)
    (ha : headPush a = false) (h : monitorStep s a = some s') : TailOnly s' := by
  cases a with
  | enter t call =>
    cases hidle : s.caller t <;> simp only [monitorStep, hidle] at h
    case idle =>
      cases Option.some.inj h
      split
      · exact hs
      · apply tailOnly_setCaller hs
        cases call <;> simp_all [Caller.pending, headPush]
    all_goals contradiction
  | caller t =>
    cases hpc : s.caller t <;> simp only [monitorStep, callerStep, hpc] at h
    case idle => contradiction
    case entered call =>
      split at h
      · cases Option.some.inj h
        have hcall : ∀ data, (Caller.locked call).pending ≠ some (.pushDataHead data) := by
          intro data
          have := hs t data
          rwa [hpc] at this
        exact tailOnly_setCaller hs hcall
      · contradiction
    case locked call =>
      cases Option.some.inj h
      apply tailOnly_setCaller
      · intro u data
        rw [apply_caller]
        exact hs u data
      · nofun
    case changed | signalling =>
      cases Option.some.inj h
      exact tailOnly_setCaller hs nofun
  | worker =>
    have hcaller : s'.caller = s.caller := by
      cases hpc : s.worker <;> simp only [monitorStep, workerStep, hpc] at h
      all_goals grind
    intro u data
    rw [hcaller]
    exact hs u data
  | expire =>
    cases hpc : s.worker <;> simp only [monitorStep, hpc] at h
    case asleep =>
      cases Option.some.inj h
      exact hs
    all_goals contradiction

/-- The invariants of the runs below. -/
def Sound (s : MonitorState T α) : Prop := MonitorInv s ∧ TailOnly s

omit [DecidableEq T] in
theorem sound_start : Sound ({} : MonitorState T α) := ⟨initial_inv, nofun⟩

theorem sound_preserved :
    Preserves (monitorStep (T := T) (α := α)) (fun _ a => headPush a = false) Sound :=
  fun _ _ _ hs ha h => ⟨hs.1.step h, tailOnly_step hs.2 ha h⟩

omit [DecidableEq T] in
theorem worker_flow {s s' : MonitorState T α} (hs : MonitorInv s) (h : workerStep s = some s') :
    processed s .worker ++ s'.held = s.held := by
  unfold workerStep at h
  cases hpc : s.worker <;> simp only [hpc] at h <;>
    simp only [processed, MonitorState.held, hpc]
  case start | woken =>
    split at h
    · cases Option.some.inj h
      rfl
    · contradiction
  case outer =>
    cases Option.some.inj h
    cases s.active <;> rfl
  case inner =>
    split at h <;> cases Option.some.inj h <;> rfl
  case popping =>
    split at h <;> cases Option.some.inj h
    · rfl
    · rename_i hactive
      have hfilled : s.dataQueue ≠ [] := (hs.nonempty hpc).resolve_right hactive
      obtain ⟨data, rest, hq⟩ := List.exists_cons_of_ne_nil hfilled
      cases data with
      | none => exact absurd (hq ▸ List.mem_cons_self) hs.queue_filled
      | some data =>
        rw [hq]
        rfl
  case popped data =>
    cases Option.some.inj h
    cases data <;> rfl
  case processing data =>
    cases Option.some.inj h
    rfl
  case got data =>
    cases data <;> cases Option.some.inj h <;> rfl
  case exiting =>
    cases Option.some.inj h
    rfl
  case asleep | exited => contradiction

omit [DecidableEq T] in
theorem handed_signalled (pc : Worker α) : pc.signalled.handed = pc.handed := by
  cases pc <;> rfl

theorem caller_flow {s s' : MonitorState T α} {t : T} (hs : Sound s)
    (h : callerStep s t = some s') : s'.held = s.held ++ pushed s (.caller t) := by
  unfold callerStep at h
  cases hpc : s.caller t <;> simp only [hpc] at h <;> simp only [pushed, hpc, List.append_nil]
  case idle => contradiction
  case entered call =>
    split at h
    · cases Option.some.inj h
      rfl
    · contradiction
  case locked call =>
    cases Option.some.inj h
    have hcall := hs.1.calls_filled t call (by rw [hpc]; rfl)
    have htail := hs.2 t
    rw [hpc] at htail
    cases call with
    | activate | deactivate => exact (List.append_nil _).symm
    | pushData data =>
      cases data with
      | none => contradiction
      | some data =>
        change s.worker.handed ++ (s.dataQueue ++ [some data]).filterMap id =
          s.worker.handed ++ s.dataQueue.filterMap id ++ [data]
        rw [List.filterMap_append, List.append_assoc]
        rfl
    | pushDataHead data => exact absurd rfl (htail data)
  case changed =>
    cases Option.some.inj h
    rfl
  case signalling =>
    cases Option.some.inj h
    exact congrArg (· ++ s.dataQueue.filterMap id) (handed_signalled s.worker)

theorem monitor_flow :
    Flows (monitorStep (T := T) (α := α)) (fun _ a => headPush a = false) Sound
      MonitorState.held processed pushed := by
  intro s a s' hs _ h
  cases a with
  | enter t call =>
    cases hidle : s.caller t <;> simp only [monitorStep, hidle] at h
    case idle =>
      cases Option.some.inj h
      apply Eq.trans (List.nil_append _)
      split <;> exact (List.append_nil _).symm
    all_goals contradiction
  | caller t => exact caller_flow hs h
  | worker => exact (worker_flow hs.1 h).trans (List.append_nil _).symm
  | expire =>
    cases hpc : s.worker <;> simp only [monitorStep, hpc] at h
    case asleep =>
      cases Option.some.inj h
      simp only [processed, pushed, List.nil_append, List.append_nil, MonitorState.held, hpc,
        Worker.handed]
    all_goals contradiction

/-- The queue of the box is the reference: a push is `pushAct` and the pop is `takeAct`,
each in one step. -/
inductive QueueLabel
  | push (act : HsbAct Reply)
  | take
  | finish
  | stay

def queueReference : Reference PoolState QueueLabel (HsbAct Reply) where
  next pool
    | .push act => { pool with cb := pushAct pool.cb act }
    | .take => (takeAct pool).getD pool
    | .finish => { pool with worker := .idle }
    | .stay => pool
  shown pool
    | .finish =>
        match pool.worker with
        | .busy act => [act]
        | _ => []
    | _ => []

def handWorker : List (HsbAct Reply) → ClientPool.Worker
  | [] => .idle
  | act :: _ => .busy act

/-- The pool with the queue and the hand of the worker as the monitor has them. -/
def poolOf (pool : PoolState) (s : MonitorState T (HsbAct Reply)) : PoolState :=
  { pool with
    cb := { pool.cb with asyncQueue := s.dataQueue.filterMap id }
    worker := handWorker s.worker.handed }

def queueLabel (s : MonitorState T (HsbAct Reply)) : MonitorStep T (HsbAct Reply) → QueueLabel
  | .caller t =>
      match s.caller t with
      | .locked (.pushData (some act)) => .push act
      | _ => .stay
  | .worker =>
      match s.worker with
      | .popping => if s.active then .take else .stay
      | .processing _ => .finish
      | _ => .stay
  | _ => .stay

omit [DecidableEq T] in
theorem poolOf_congr {pool : PoolState} {s s' : MonitorState T (HsbAct Reply)}
    (hqueue : s'.dataQueue = s.dataQueue) (hhand : s'.worker.handed = s.worker.handed) :
    poolOf pool s' = poolOf pool s := by
  rw [poolOf, poolOf, hqueue, hhand]

omit [DecidableEq T] in
theorem worker_matches {pool : PoolState} {s s' : MonitorState T (HsbAct Reply)}
    (hs : MonitorInv s) (h : workerStep s = some s') :
    poolOf pool s' = queueReference.next (poolOf pool s) (queueLabel s .worker) ∧
      processed s .worker = queueReference.shown (poolOf pool s) (queueLabel s .worker) := by
  unfold workerStep at h
  cases hpc : s.worker <;> simp only [hpc] at h <;> simp only [queueLabel, processed, hpc]
  case start | woken =>
    split at h
    · cases Option.some.inj h
      exact ⟨poolOf_congr rfl (by rw [hpc]; rfl), rfl⟩
    · contradiction
  case outer =>
    cases Option.some.inj h
    refine ⟨poolOf_congr rfl ?_, rfl⟩
    rw [hpc]
    cases s.active <;> rfl
  case inner =>
    split at h <;> cases Option.some.inj h <;> exact ⟨poolOf_congr rfl (by rw [hpc]; rfl), rfl⟩
  case popping =>
    split at h <;> cases Option.some.inj h
    · rename_i hactive
      rw [hactive]
      exact ⟨poolOf_congr rfl (by rw [hpc]; rfl), rfl⟩
    · rename_i hactive
      have hfilled : s.dataQueue ≠ [] := (hs.nonempty hpc).resolve_right hactive
      obtain ⟨data, rest, hq⟩ := List.exists_cons_of_ne_nil hfilled
      rw [if_pos (Bool.eq_true_of_not_eq_false hactive)]
      cases data with
      | none => exact absurd (hq ▸ List.mem_cons_self) hs.queue_filled
      | some act =>
        refine ⟨?_, rfl⟩
        simp only [queueReference, takeAct, poolOf, hpc, hq, List.filterMap_cons, id,
          Worker.handed, handWorker]
        rfl
  case popped data =>
    cases Option.some.inj h
    refine ⟨poolOf_congr rfl ?_, rfl⟩
    rw [hpc]
    cases data <;> rfl
  case processing data =>
    cases Option.some.inj h
    refine ⟨rfl, ?_⟩
    simp only [queueReference, poolOf, hpc, Worker.handed, handWorker]
  case got data =>
    cases data <;> cases Option.some.inj h <;> exact ⟨poolOf_congr rfl (by rw [hpc]; rfl), rfl⟩
  case exiting =>
    cases Option.some.inj h
    exact ⟨poolOf_congr rfl (by rw [hpc]; rfl), rfl⟩
  case asleep | exited => contradiction

theorem caller_matches {pool : PoolState} {s s' : MonitorState T (HsbAct Reply)} {t : T}
    (hs : Sound s) (h : callerStep s t = some s') :
    poolOf pool s' = queueReference.next (poolOf pool s) (queueLabel s (.caller t)) ∧
      processed s (.caller t) =
        queueReference.shown (poolOf pool s) (queueLabel s (.caller t)) := by
  unfold callerStep at h
  cases hpc : s.caller t <;> simp only [hpc] at h <;> simp only [queueLabel, processed, hpc]
  case idle => contradiction
  case entered call =>
    split at h
    · cases Option.some.inj h
      exact ⟨poolOf_congr rfl rfl, rfl⟩
    · contradiction
  case locked call =>
    cases Option.some.inj h
    have hcall := hs.1.calls_filled t call (by rw [hpc]; rfl)
    have htail := hs.2 t
    rw [hpc] at htail
    cases call with
    | activate | deactivate => exact ⟨poolOf_congr rfl rfl, rfl⟩
    | pushData data =>
      cases data with
      | none => contradiction
      | some act =>
        refine ⟨?_, rfl⟩
        simp only [queueReference, pushAct, poolOf, setCaller_worker, setCaller_dataQueue,
          Call.apply, List.filterMap_append]
        rfl
    | pushDataHead data => exact absurd rfl (htail data)
  case changed =>
    cases Option.some.inj h
    exact ⟨poolOf_congr rfl rfl, rfl⟩
  case signalling =>
    cases Option.some.inj h
    exact ⟨poolOf_congr rfl (handed_signalled s.worker), rfl⟩

theorem monitor_matches (pool : PoolState) :
    Matches (monitorStep (T := T) (α := HsbAct Reply)) (fun _ a => headPush a = false) Sound
      queueReference (poolOf pool) queueLabel processed := by
  intro s a s' hs _ h
  cases a with
  | enter t call =>
    cases hidle : s.caller t <;> simp only [monitorStep, hidle] at h
    case idle =>
      cases Option.some.inj h
      refine ⟨?_, rfl⟩
      split <;> exact poolOf_congr rfl rfl
    all_goals contradiction
  | caller t => exact caller_matches hs h
  | worker => exact worker_matches hs.1 h
  | expire =>
    cases hpc : s.worker <;> simp only [monitorStep, hpc] at h
    case asleep =>
      cases Option.some.inj h
      exact ⟨poolOf_congr rfl (by rw [hpc]; rfl), rfl⟩
    all_goals contradiction

/-- No thread is in an operation. -/
def Quiet (s : MonitorState T α) : Prop := ∀ t, s.caller t = .idle

def Worker.stopping : Worker α → Bool
  | .exiting | .exited => true
  | _ => false

/-- Steps to the next test of the queue; every item in the queue costs one round. -/
def Worker.distance : Worker α → ℕ
  | .asleep | .exited => 0
  | .exiting => 1
  | .popping => 2
  | .inner => 3
  | .outer | .woken => 4
  | .start => 5
  | .processing _ => 6
  | .got _ => 7
  | .popped _ => 8

omit [DecidableEq T] in
theorem mutex_free_of_quiet {s : MonitorState T α} (hs : MonitorInv s) (hquiet : Quiet s)
    (hworker : s.worker.holds = false) : s.mutex = none := by
  cases howner : s.mutex with
  | none => rfl
  | some owner =>
    cases owner with
    | worker =>
      rw [hs.worker_owns.mp howner] at hworker
      contradiction
    | caller t =>
      have hheld := (hs.caller_owns t).mp howner
      rw [hquiet t] at hheld
      contradiction

omit [DecidableEq T] in
theorem not_asleep_busy {s : MonitorState T α} (hs : MonitorInv s) (hquiet : Quiet s)
    (hbusy : s.busy) : s.worker ≠ .asleep := by
  intro hasleep
  obtain ⟨t, ht⟩ := hs.signalled hasleep hbusy
  rw [hquiet t] at ht
  contradiction

/-- What the worker serves the queue from. -/
structure Serving (s : MonitorState T α) : Prop where
  sound : Sound s
  quiet : Quiet s
  active : s.active = true
  running : s.worker.stopping = false

theorem serving_progress (s : MonitorState T α) (hs : Serving s)
    (hmore : ¬(s.worker = .asleep ∧ s.dataQueue = [])) :
    ∃ s', monitorStep s .worker = some s' ∧ Serving s' ∧
      8 * s'.dataQueue.length + s'.worker.distance <
        8 * s.dataQueue.length + s.worker.distance := by
  obtain ⟨hsound, hquiet, hactive, hrunning⟩ := hs
  have hfree := mutex_free_of_quiet hsound.1 hquiet
  suffices hnext : ∃ s', workerStep s = some s' ∧ s'.caller = s.caller ∧ s'.active = true ∧
      s'.worker.stopping = false ∧
      8 * s'.dataQueue.length + s'.worker.distance <
        8 * s.dataQueue.length + s.worker.distance by
    obtain ⟨s', hstep, hcaller, hactive', hrunning', hless⟩ := hnext
    have hquiet' : Quiet s' := fun t => by rw [hcaller, hquiet t]
    exact ⟨s', hstep, ⟨sound_preserved s .worker s' hsound rfl hstep, hquiet', hactive', hrunning'⟩,
      hless⟩
  unfold workerStep
  cases hpc : s.worker <;> rw [hpc] at hfree hrunning hmore
  case start | woken =>
    have hnone : s.mutex.isNone = true := by rw [hfree rfl]; rfl
    refine ⟨_, if_pos hnone, rfl, hactive, rfl, ?_⟩
    simp [Worker.distance]
  case outer =>
    refine ⟨_, rfl, rfl, hactive, ?_⟩
    simp [hactive, Worker.stopping, Worker.distance]
  case inner =>
    by_cases hempty : s.dataQueue.length = 0
    · refine ⟨_, if_pos ⟨hempty, hactive⟩, rfl, hactive, rfl, ?_⟩
      simp [Worker.distance]
    · refine ⟨_, if_neg (fun h => hempty h.1), rfl, hactive, rfl, ?_⟩
      simp [Worker.distance]
  case asleep =>
    have hbusy : s.busy := Or.inl fun hempty => hmore ⟨rfl, hempty⟩
    exact absurd hpc (not_asleep_busy hsound.1 hquiet hbusy)
  case popping =>
    have hfilled : s.dataQueue ≠ [] := by
      refine (hsound.1.nonempty hpc).resolve_right ?_
      rw [hactive]
      nofun
    have hlength := List.length_pos_iff.mpr hfilled
    refine ⟨_, if_neg (by rw [hactive]; nofun), rfl, hactive, rfl, ?_⟩
    simp only [List.length_tail, Worker.distance]
    omega
  case popped data =>
    refine ⟨_, rfl, rfl, hactive, rfl, ?_⟩
    simp [Worker.distance]
  case got data =>
    cases data <;>
    · refine ⟨_, rfl, rfl, hactive, rfl, ?_⟩
      simp [Worker.distance]
  case processing data =>
    refine ⟨_, rfl, rfl, hactive, rfl, ?_⟩
    simp [Worker.distance]
  case exiting | exited => contradiction

/-- The worker has been told to stop, with this queue. -/
structure Closing (queue : List (Option α)) (s : MonitorState T α) : Prop where
  sound : Sound s
  quiet : Quiet s
  inactive : s.active = false
  kept : s.dataQueue = queue

theorem closing_progress (queue : List (Option α)) (s : MonitorState T α) (hs : Closing queue s)
    (hmore : s.worker ≠ .exited) :
    ∃ s', monitorStep s .worker = some s' ∧ Closing queue s' ∧
      s'.worker.distance < s.worker.distance := by
  obtain ⟨hsound, hquiet, hinactive, hkept⟩ := hs
  have hfree := mutex_free_of_quiet hsound.1 hquiet
  suffices hnext : ∃ s', workerStep s = some s' ∧ s'.caller = s.caller ∧ s'.active = false ∧
      s'.dataQueue = queue ∧ s'.worker.distance < s.worker.distance by
    obtain ⟨s', hstep, hcaller, hinactive', hkept', hless⟩ := hnext
    have hquiet' : Quiet s' := fun t => by rw [hcaller, hquiet t]
    exact ⟨s', hstep, ⟨sound_preserved s .worker s' hsound rfl hstep, hquiet', hinactive', hkept'⟩,
      hless⟩
  unfold workerStep
  cases hpc : s.worker <;> rw [hpc] at hfree hmore
  case start | woken =>
    have hnone : s.mutex.isNone = true := by rw [hfree rfl]; rfl
    refine ⟨_, if_pos hnone, rfl, hinactive, hkept, ?_⟩
    simp [Worker.distance]
  case outer =>
    refine ⟨_, rfl, rfl, hinactive, hkept, ?_⟩
    simp [hinactive, Worker.distance]
  case inner =>
    have hleave : ¬(s.dataQueue.length = 0 ∧ s.active = true) := by
      rw [hinactive]
      exact fun h => Bool.noConfusion h.2
    refine ⟨_, if_neg hleave, rfl, hinactive, hkept, ?_⟩
    simp [Worker.distance]
  case asleep => exact absurd hpc (not_asleep_busy hsound.1 hquiet (Or.inr hinactive))
  case popping =>
    refine ⟨_, if_pos hinactive, rfl, hinactive, hkept, ?_⟩
    simp [Worker.distance]
  case popped data =>
    refine ⟨_, rfl, rfl, hinactive, hkept, ?_⟩
    simp [Worker.distance]
  case got data =>
    cases data <;>
    · refine ⟨_, rfl, rfl, hinactive, hkept, ?_⟩
      simp [Worker.distance]
  case processing data =>
    refine ⟨_, rfl, rfl, hinactive, hkept, ?_⟩
    simp [Worker.distance]
  case exiting =>
    refine ⟨_, rfl, rfl, hinactive, hkept, ?_⟩
    simp [Worker.distance]
  case exited => contradiction

theorem worker_alone {n : ℕ} {s t : MonitorState T α} (hs : Sound s)
    (hrun : run monitorStep s (List.replicate n .worker) = some t) :
    collect monitorStep processed s (List.replicate n .worker) ++ t.held = s.held := by
  have hguard : Guarded monitorStep (fun _ a => headPush a = false) s (List.replicate n .worker) :=
    guarded_of_forall fun a ha _ => by rw [List.eq_of_mem_replicate ha]; rfl
  have hflow := run_flows sound_preserved monitor_flow _ s t hs hguard hrun
  have hpushed : collect monitorStep pushed s (List.replicate n .worker) = [] :=
    collect_eq_nil (fun a ha s => by rw [List.eq_of_mem_replicate ha]; rfl) s
  rw [hflow, hpushed, List.append_nil]

/-- Whatever way the threads interleave, the items are processed in the order in which
they were pushed, each once, and no NULL is ever taken out. From every state the worker
alone serves what is queued, without waiting for a time-out, while it is active; told to
stop it ends behind the item in its hand. -/
theorem pushed_items_processed (steps : List (MonitorStep T α)) (t : MonitorState T α)
    (htail : ∀ a ∈ steps, headPush a = false) (hrun : run monitorStep {} steps = some t) :
    collect monitorStep processed {} steps ++ t.worker.handed ++ t.dataQueue.filterMap id =
        collect monitorStep pushed {} steps ∧
      t.worker ≠ .got none ∧
      (Quiet t → t.active = true → t.worker.stopping = false →
        ∃ n u, run monitorStep t (List.replicate n .worker) = some u ∧
          u.worker = .asleep ∧ u.dataQueue = [] ∧
          collect monitorStep processed t (List.replicate n .worker) =
            t.worker.handed ++ t.dataQueue.filterMap id) ∧
      (Quiet t → t.active = false →
        ∃ n u, run monitorStep t (List.replicate n .worker) = some u ∧
          u.worker = .exited ∧ u.dataQueue = t.dataQueue ∧
          collect monitorStep processed t (List.replicate n .worker) = t.worker.handed) := by
  have hguard : Guarded monitorStep (fun _ a => headPush a = false) {} steps :=
    guarded_of_forall fun a ha _ => htail a ha
  have hsound : Sound t :=
    run_invariant_guarded sound_preserved steps {} t sound_start hguard hrun
  refine ⟨?_, hsound.1.taken_filled.2, ?_, ?_⟩
  · have hflow := run_flows sound_preserved monitor_flow steps {} t sound_start hguard hrun
    rw [List.append_assoc]
    exact hflow
  · intro hquiet hactive hrunning
    obtain ⟨n, u, hserved, hserving, hasleep, hempty⟩ :=
      run_settles (fun s => 8 * s.dataQueue.length + s.worker.distance) serving_progress t
        ⟨hsound, hquiet, hactive, hrunning⟩
    refine ⟨n, u, hserved, hasleep, hempty, ?_⟩
    have halone := worker_alone hsound hserved
    rw [MonitorState.held, hasleep, hempty] at halone
    rw [← MonitorState.held, ← halone]
    exact (List.append_nil _).symm
  · intro hquiet hinactive
    obtain ⟨n, u, hstopped, hclosing, hexited⟩ :=
      run_settles (fun s => s.worker.distance) (closing_progress t.dataQueue) t
        ⟨hsound, hquiet, hinactive, rfl⟩
    refine ⟨n, u, hstopped, hexited, hclosing.kept, ?_⟩
    have halone := worker_alone hsound hstopped
    rw [MonitorState.held, MonitorState.held, hexited, hclosing.kept] at halone
    exact List.append_cancel_right halone

def enterAndLeave (t : Bool) (call : Call ℕ) : List (MonitorStep Bool ℕ) :=
  [.enter t call, .caller t, .caller t, .caller t, .caller t]

/-- The worker sleeps; one thread pushes and signals, and while the worker is on its way
back to the mutex the other one pushes too. -/
def overtakenWake : List (MonitorStep Bool ℕ) :=
  enterAndLeave false .activate ++ [.worker, .worker, .worker] ++
    enterAndLeave false (.pushData (some 5)) ++ enterAndLeave true (.pushData (some 7))

theorem pushed_items_processed_overtaken :
    ∃ t n u, run monitorStep {} overtakenWake = some t ∧ t.worker = .woken ∧
      run monitorStep t (List.replicate n .worker) = some u ∧
      u.worker = .asleep ∧ u.dataQueue = [] ∧
      collect monitorStep processed t (List.replicate n .worker) = [5, 7] := by
  have hseen : (run monitorStep {} overtakenWake).map
      (fun t => (t.worker, t.active, t.dataQueue, t.caller false, t.caller true)) =
        some (.woken, true, [some 5, some 7], .idle, .idle) := by decide
  have htail : ∀ a ∈ overtakenWake, headPush a = false := by decide
  obtain ⟨t, hrun, ht⟩ := Option.map_eq_some_iff.mp hseen
  simp only [Prod.mk.injEq] at ht
  obtain ⟨hworker, hactive, hqueue, hfirst, hsecond⟩ := ht
  have hquiet : Quiet t := by
    intro b
    cases b
    · exact hfirst
    · exact hsecond
  obtain ⟨-, -, hserved, -⟩ := pushed_items_processed overtakenWake t htail hrun
  obtain ⟨n, u, hserve, hasleep, hempty, hdone⟩ :=
    hserved hquiet hactive (by rw [hworker]; rfl)
  refine ⟨t, n, u, hrun, hworker, hserve, hasleep, hempty, ?_⟩
  rw [hdone, hworker, hqueue]
  rfl

/-- Seen from the rest of the box the queue is one list that each push and each pop
changes in one step: the runs of the threads with mutex and condition are runs of
`pushAct` and `takeAct`, with the same acts processed in the same order. -/
theorem act_queue_refined (pool : PoolState) (steps : List (MonitorStep T (HsbAct Reply)))
    (t : MonitorState T (HsbAct Reply)) (htail : ∀ a ∈ steps, headPush a = false)
    (hrun : run monitorStep {} steps = some t) :
    poolOf pool t =
        queueReference.after (poolOf pool ({} : MonitorState T (HsbAct Reply)))
          (collect monitorStep (fun s a => [queueLabel s a]) {} steps) ∧
      collect monitorStep processed {} steps =
        queueReference.output (poolOf pool ({} : MonitorState T (HsbAct Reply)))
          (collect monitorStep (fun s a => [queueLabel s a]) {} steps) := by
  have hguard : Guarded monitorStep (fun _ a => headPush a = false) {} steps :=
    guarded_of_forall fun a ha _ => htail a ha
  exact run_simulates sound_preserved (monitor_matches pool) steps {} t sound_start hguard hrun

def statusAct : HsbAct Reply := ⟨.getStatus { devid := 3 }, none⟩

/-- One act pushed while the worker tests the queue, popped and processed. -/
def servedAct : List (MonitorStep Unit (HsbAct Reply)) :=
  [.enter () .activate, .caller (), .caller (), .caller (), .worker, .worker, .caller (),
    .enter () (.pushData (some statusAct)), .worker, .caller (), .caller (), .caller (),
    .caller ()] ++ List.replicate 6 .worker

theorem act_queue_refined_served :
    ∃ t, run monitorStep {} servedAct = some t ∧
      collect monitorStep processed {} servedAct = [statusAct] ∧
      poolOf {} t =
        queueReference.after (poolOf {} ({} : MonitorState Unit (HsbAct Reply)))
          (collect monitorStep (fun s a => [queueLabel s a]) {} servedAct) := by
  have hseen : (run monitorStep {} servedAct).map (fun t => t.dataQueue) = some [] := rfl
  have htail : ∀ a ∈ servedAct, headPush a = false := by
    simp [servedAct, headPush]
  obtain ⟨t, hrun, -⟩ := Option.map_eq_some_iff.mp hseen
  have hrefined := act_queue_refined {} servedAct t htail hrun
  exact ⟨t, hrun, rfl, hrefined.1⟩

end HomeSecurityBox.ThreadControl
