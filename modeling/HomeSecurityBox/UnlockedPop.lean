import HomeSecurityBox.EventFanout
import HomeSecurityBox.OneReply
import HomeSecurityBox.WrittenFrames

/-!
The pop of `_process_notify`, which takes no lock. `notify_resp` holds the lock of a context
around its push, the handler takes the head of the queue out without it; a push that falls
into the pop leaves the queue with whatever the two list operations make of it. Where no push
does, the machine with the pop in steps of its own is the one with a pop in one step.
-/

namespace HomeSecurityBox.UnlockedPop

open DeviceData DevAct ClientPool OneReply EventFanout WrittenFrames Transitions

/-- Where the handler of a context is: not in the pop, inside `g_queue_pop_head`, or behind it
with the response in its hands. -/
inductive Pop
  | outside
  | inside
  | popped
  deriving DecidableEq, Repr

/-- The response that is being taken out stands at the head of its queue until it is written. -/
structure PopState (T : Type) where
  fan : FanState T
  pop : Slot → Pop := fun _ => .outside

/-- A handler that has found its queue not empty enters the pop and comes back from it. The
other steps are those of the threads, where `torn` is a push into a queue whose head is just
being taken out: no documentation promises what is behind the head then. -/
inductive PopStep (T : Type)
  | enter (k : Slot)
  | leave (k : Slot)
  | fan (a : FanStep T)
  | torn (a : FanStep T) (left : List (HsbResp Reply))

variable {T : Type} [DecidableEq T]

def PopState.setPop (s : PopState T) (k : Slot) (pop : Pop) : PopState T :=
  { s with pop := Function.update s.pop k pop }

/-- The context whose queue a step pushes to. -/
def target (s : FanState T) : FanStep T → Option Slot
  | .pool .notifyPush =>
      match s.pool.worker with
      | .pushing _ _ k _ => some k
      | _ => none
  | .push t =>
      match s.thread t with
      | .holding _ k => some k
      | _ => none
  | _ => none

/-- The context whose handler ends a round of `_process_notify`. -/
def drained : FanStep T → Option Slot
  | .pool (.drain k _) => some k
  | _ => none

/-- The round writes what the pop has brought, or ends the loop at an empty queue. -/
def AtRound (s : PopState T) (k : Slot) : Prop :=
  s.pop k = if (s.fan.pool.context k).queue.isEmpty then .outside else .popped

instance (s : PopState T) (k : Slot) : Decidable (AtRound s k) :=
  inferInstanceAs (Decidable (_ = _))

def FanState.setQueue (s : FanState T) (k : Slot) (queue : List (HsbResp Reply)) : FanState T :=
  { s with pool := s.pool.setContext k { s.pool.context k with queue := queue } }

def popStep (s : PopState T) : PopStep T → Option (PopState T)
  | .enter k =>
      let ctx := s.fan.pool.context k
      if ctx.inUse ∧ ctx.draining ∧ ctx.queue.isEmpty = false ∧ s.pop k = .outside then
        some (s.setPop k .inside)
      else none
  | .leave k => if s.pop k = .inside then some (s.setPop k .popped) else none
  | .fan a =>
      if (∀ k ∈ target s.fan a, s.pop k ≠ .inside) ∧ ∀ k ∈ drained a, AtRound s k then
        (fanStep s.fan a).map fun fan =>
          { fan := fan, pop := (drained a).elim s.pop fun k => Function.update s.pop k .outside }
      else none
  | .torn a left =>
      (target s.fan a).bind fun k =>
        if s.pop k = .inside then
          (fanStep s.fan a).map fun fan =>
            { s with fan := FanState.setQueue fan k ((s.fan.pool.context k).queue.take 1 ++ left) }
        else none

/-- No push falls into the pop of its context. -/
def Apart (s : PopState T) : PopStep T → Prop
  | .fan a | .torn a _ => ∀ k ∈ target s.fan a, s.pop k ≠ .inside
  | .enter _ | .leave _ => True

instance (s : PopState T) : (a : PopStep T) → Decidable (Apart s a)
  | .fan a | .torn a _ => inferInstanceAs (Decidable (∀ k ∈ target s.fan a, s.pop k ≠ .inside))
  | .enter _ | .leave _ => inferInstanceAs (Decidable True)

def FanRoomy (s : FanState T) : FanStep T → Prop
  | .pool a => Roomy s.pool a
  | .raise _ _ | .test _ | .push _ => True

instance (s : FanState T) : (a : FanStep T) → Decidable (FanRoomy s a)
  | .pool a => inferInstanceAs (Decidable (Roomy s.pool a))
  | .raise _ _ | .test _ | .push _ => inferInstanceAs (Decidable True)

def PopRoomy (s : PopState T) : PopStep T → Prop
  | .fan a | .torn a _ => FanRoomy s.fan a
  | .enter _ | .leave _ => True

instance (s : PopState T) : (a : PopStep T) → Decidable (PopRoomy s a)
  | .fan a | .torn a _ => inferInstanceAs (Decidable (FanRoomy s.fan a))
  | .enter _ | .leave _ => inferInstanceAs (Decidable True)

/-- No push falls into a pop, and the arrays have room for the devices that are asked for. -/
def Sound (s : PopState T) (a : PopStep T) : Prop := Apart s a ∧ PopRoomy s a

instance (s : PopState T) (a : PopStep T) : Decidable (Sound s a) :=
  inferInstanceAs (Decidable (Apart s a ∧ PopRoomy s a))

/-- The box before the first client. -/
def start : PopState T := { fan := { pool := {}, thread := fun _ => .idle } }

theorem first_lt : 0 < maxTcpClientNum := by decide

def firstClient : Slot := ⟨0, first_lt⟩

/-- The step of the pool that a step is. -/
def PopStep.label : PopStep T → Option Step
  | .fan (.pool a) | .torn (.pool a) _ => some a
  | _ => none

/-- What a step shows by what its thread does. -/
def onFan {ι : Type} (view : FanState T → FanStep T → List ι) (s : PopState T) :
    PopStep T → List ι
  | .enter _ | .leave _ => []
  | .fan a | .torn a _ => view s.fan a

theorem enter_eq_some {s s' : PopState T} {k : Slot} (h : popStep s (.enter k) = some s') :
    (s.fan.pool.context k).inUse = true ∧ (s.fan.pool.context k).draining = true ∧
      (s.fan.pool.context k).queue.isEmpty = false ∧ s.pop k = .outside ∧
      s' = s.setPop k .inside := by
  simp only [popStep] at h
  split at h
  · rename_i hready
    exact ⟨hready.1, hready.2.1, hready.2.2.1, hready.2.2.2, (Option.some.inj h).symm⟩
  · contradiction

theorem leave_eq_some {s s' : PopState T} {k : Slot} (h : popStep s (.leave k) = some s') :
    s.pop k = .inside ∧ s' = s.setPop k .popped := by
  simp only [popStep] at h
  split at h
  · rename_i hinside
    exact ⟨hinside, (Option.some.inj h).symm⟩
  · contradiction

theorem fan_eq_some {s s' : PopState T} {a : FanStep T} (h : popStep s (.fan a) = some s') :
    (∀ k ∈ drained a, AtRound s k) ∧ fanStep s.fan a = some s'.fan ∧
      s'.pop = (drained a).elim s.pop fun k => Function.update s.pop k .outside := by
  simp only [popStep] at h
  split at h
  · rename_i hready
    obtain ⟨fan, hfan, rfl⟩ := Option.map_eq_some_iff.mp h
    exact ⟨hready.2, hfan, rfl⟩
  · contradiction

theorem torn_eq_some {s s' : PopState T} {a : FanStep T} {left : List (HsbResp Reply)}
    (h : popStep s (.torn a left) = some s') : ∃ k ∈ target s.fan a, s.pop k = .inside := by
  simp only [popStep] at h
  obtain ⟨k, hk, h⟩ := Option.bind_eq_some_iff.mp h
  split at h
  · rename_i hinside
    exact ⟨k, hk, hinside⟩
  · contradiction

/-- Away from the pops a step is one of the machine that pops in one step, or none. -/
theorem popStep_fan {s s' : PopState T} {a : PopStep T} (hapart : Apart s a)
    (h : popStep s a = some s') :
    (s'.fan = s.fan ∧ (∃ k, a = .enter k ∨ a = .leave k)) ∨
      ∃ b, a = .fan b ∧ fanStep s.fan b = some s'.fan := by
  cases a with
  | enter k =>
    obtain ⟨-, -, -, -, rfl⟩ := enter_eq_some h
    exact Or.inl ⟨rfl, k, Or.inl rfl⟩
  | leave k =>
    obtain ⟨-, rfl⟩ := leave_eq_some h
    exact Or.inl ⟨rfl, k, Or.inr rfl⟩
  | fan b => exact Or.inr ⟨b, rfl, (fan_eq_some h).2.1⟩
  | torn b left =>
    obtain ⟨k, hk, hinside⟩ := torn_eq_some h
    exact absurd hinside (hapart k hk)

/-- To the pool a step is one of its own, the event that a thread pushes, or nothing. -/
theorem popStep_pool {s s' : PopState T} {a : PopStep T} (hsound : Sound s a)
    (h : popStep s a = some s') :
    (a.label = none ∧ s'.fan.pool = s.fan.pool) ∨
      (∃ k event, a.label = none ∧ step s.fan.pool (.event k event) = some s'.fan.pool) ∨
      ∃ b, a.label = some b ∧ Roomy s.fan.pool b ∧ step s.fan.pool b = some s'.fan.pool := by
  rcases popStep_fan hsound.1 h with ⟨hsame, k, rfl | rfl⟩ | ⟨b, rfl, hfan⟩
  · exact Or.inl ⟨rfl, congrArg FanState.pool hsame⟩
  · exact Or.inl ⟨rfl, congrArg FanState.pool hsame⟩
  · rcases fanStep_cases hfan with ⟨b, pool, rfl, -, hpool, hs'⟩ | ⟨t, event, rfl, -, hs'⟩ |
      ⟨t, event, cnt, rfl, -, hs'⟩ | ⟨t, event, k, rfl, -, hs'⟩
    · rw [hs']
      exact Or.inr (Or.inr ⟨b, rfl, hsound.2, hpool⟩)
    · rw [hs']
      exact Or.inl ⟨rfl, rfl⟩
    · rw [hs']
      exact Or.inl ⟨rfl, rfl⟩
    · rw [hs']
      exact Or.inr (Or.inl ⟨k, event, rfl, rfl⟩)

/-- The handler of the context is in the loop of `_process_notify`, at a queue with something
in it. -/
structure InRound (s : PoolState) (k : Slot) : Prop where
  inUse : (s.context k).inUse = true
  draining : (s.context k).draining = true
  queue : (s.context k).queue.isEmpty = false

/-- Only the handler itself ends its round. -/
theorem InRound.step {s s' : PoolState} {a : Step} {k : Slot} (hs : InRound s k)
    (hother : ∀ wrote, a ≠ .drain k wrote) (h : ClientPool.step s a = some s') :
    InRound s' k := by
  have hnext : (s'.context k).inUse = true ∧ (s'.context k).draining = true ∧
      (s'.context k).queue.isEmpty = false := by
    have hcontext := step_context h k
    generalize s'.context k = ctx at hcontext
    cases hcontext with
    | kept => exact ⟨hs.inUse, hs.draining, hs.queue⟩
    | accepted _ hunused =>
      rw [hs.inUse] at hunused
      contradiction
    | closed hidle | woken hidle =>
      rw [hs.draining] at hidle
      contradiction
    | pushed resp =>
      rw [pushResp, setContext_self]
      exact ⟨hs.inUse, hs.draining, by simp⟩
    | emptied | written | failed => exact absurd rfl (hother _)
  exact ⟨hnext.1, hnext.2.1, hnext.2.2⟩

/-- What every sound run keeps. -/
structure Orderly (s : PopState T) : Prop where
  pool : PoolInv s.fan.pool
  framed : ∀ w ∈ s.fan.pool.log, Framed w
  pops : ∀ k, s.pop k ≠ .outside → InRound s.fan.pool k

omit [DecidableEq T] in
theorem start_orderly : Orderly (start : PopState T) :=
  ⟨initial_poolInv, fun _ hw => absurd hw List.not_mem_nil, fun _ hpop => absurd rfl hpop⟩

theorem orderly_preserves : Preserves popStep Sound (Orderly (T := T)) := by
  intro s a s' hs hsound h
  have hpool : PoolInv s'.fan.pool ∧ ∀ w ∈ s'.fan.pool.log, Framed w := by
    rcases popStep_pool hsound h with ⟨-, hsame⟩ | ⟨k, event, -, hstep⟩ | ⟨b, -, hroom, hstep⟩
    · rw [hsame]
      exact ⟨hs.pool, hs.framed⟩
    · exact ⟨step_poolInv hs.pool hstep,
        framed_preserves _ (.event k event) _ hs.framed trivial hstep⟩
    · exact ⟨step_poolInv hs.pool hstep, framed_preserves _ _ _ hs.framed hroom hstep⟩
  refine ⟨hpool.1, hpool.2, ?_⟩
  intro k hpop
  cases a with
  | enter j =>
    obtain ⟨huse, hdraining, hqueue, -, rfl⟩ := enter_eq_some h
    by_cases hk : k = j
    · subst hk
      exact ⟨huse, hdraining, hqueue⟩
    · apply hs.pops k
      simpa only [PopState.setPop, Function.update_of_ne hk] using hpop
  | leave j =>
    obtain ⟨hinside, rfl⟩ := leave_eq_some h
    by_cases hk : k = j
    · subst hk
      exact hs.pops k (by rw [hinside]; decide)
    · apply hs.pops k
      simpa only [PopState.setPop, Function.update_of_ne hk] using hpop
  | torn b left =>
    obtain ⟨j, hj, hinside⟩ := torn_eq_some h
    exact absurd hinside (hsound.1 j hj)
  | fan b =>
    obtain ⟨-, hfan, hpops⟩ := fan_eq_some h
    have hnot : drained b ≠ some k := by
      intro hdrained
      rw [hpops, hdrained, Option.elim_some, Function.update_self] at hpop
      exact hpop rfl
    have hround : InRound s.fan.pool k := by
      apply hs.pops k
      rw [hpops] at hpop
      cases hdrained : drained b with
      | none =>
        rw [hdrained] at hpop
        exact hpop
      | some j =>
        have hj : k ≠ j := fun hsame => hnot (hsame ▸ hdrained)
        rwa [hdrained, Option.elim_some, Function.update_of_ne hj] at hpop
    rcases fanStep_cases hfan with ⟨b, pool, rfl, -, hstep, hs'⟩ | ⟨t, event, rfl, -, hs'⟩ |
      ⟨t, event, cnt, rfl, -, hs'⟩ | ⟨t, event, j, rfl, -, hs'⟩
    · rw [hs']
      refine hround.step ?_ hstep
      rintro wrote rfl
      exact hnot rfl
    · rw [hs']
      exact hround
    · rw [hs']
      exact hround
    · rw [hs']
      exact hround.step (a := .event j event) (by simp) rfl

/-- The client is connected in an orderly pool. -/
structure Attached (client : Reply) (s : PopState T) : Prop where
  orderly : Orderly s
  connected : Connected client s.fan.pool

/-- The client stays, its writes succeed, and the step is sound. -/
def Calm (client : Reply) (s : PopState T) (a : PopStep T) : Prop :=
  Sound s a ∧ ∀ b ∈ a.label, Stays client b

theorem step_connected {client : Reply} {s s' : PoolState} {a : Step} (hinv : PoolInv s)
    (hconnected : Connected client s) (hstays : Stays client a) (h : step s a = some s') :
    Connected client s' := (step_passed hinv hconnected hstays h).connected

theorem attached_preserves (client : Reply) :
    Preserves popStep (Calm client) (Attached (T := T) client) := by
  intro s a s' hs hcalm h
  refine ⟨orderly_preserves s a s' hs.orderly hcalm.1 h, ?_⟩
  rcases popStep_pool hcalm.1 h with ⟨-, hsame⟩ | ⟨k, event, -, hstep⟩ | ⟨b, hlabel, -, hstep⟩
  · rw [hsame]
    exact hs.connected
  · exact step_connected (a := .event k event) hs.orderly.pool hs.connected trivial hstep
  · exact step_connected hs.orderly.pool hs.connected (hcalm.2 b hlabel) hstep

/-- A client that is connected somewhere in a sound run. -/
theorem attached_of_reached {client : Reply} {before : List (PopStep T)} {s : PopState T}
    (hsound : Guarded popStep Sound start before) (hreached : run popStep start before = some s)
    (hconnected : Connected client s.fan.pool) : Attached client s :=
  ⟨run_invariant_guarded orderly_preserves before start s start_orderly hsound hreached, hconnected⟩

theorem guarded_calm {client : Reply} {steps : List (PopStep T)} {s : PopState T}
    (hstays : ∀ b ∈ steps.filterMap PopStep.label, Stays client b)
    (hsound : Guarded popStep Sound s steps) : Guarded popStep (Calm client) s steps := by
  apply hsound.and
  apply guarded_of_forall
  intro a ha _ b hb
  exact hstays b (List.mem_filterMap.mpr ⟨a, ha, hb⟩)

end HomeSecurityBox.UnlockedPop
