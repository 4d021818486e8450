import HomeSecurityBox.TimerRuns

/-!
The main loop of the daemon. It waits one second in `select` for its control socket; a
datagram sends it back to wait for what is left of that second, and everything else,
a failing call included, to the timers. A round is longer than the second only by what
holds the thread up: other work, late wake-ups and datagrams that keep coming when the
second is over. Where this is a few seconds at most, a recurring timer of the first
device acts once on every day that asks for it.
-/

namespace HomeSecurityBox.MainLoop

open Protocol DeviceData DeviceEvents TimerTick Box Transitions TimerRuns

variable {ρ : Type}

def usecPerSec : ℕ := 1000000

/-- What `select` comes back with; `nread` is what `recvfrom` returns behind it. -/
inductive Select
  | failed
  | timeout
  | readable (nread : ℤ)
  deriving DecidableEq, Repr

structure DaemonListenData where
  recvTime : ℕ := 0

/-- The time of a datagram is noted; an empty one leaves what the memset has left. -/
def daemonSelect (time : ℕ) : Select → DaemonListenData
  | .failed => {}
  | .timeout => {}
  | .readable nread => if nread ≤ 0 then {} else { recvTime := time }

/-- The box, the clock in microseconds and what is left in `tv`. `held` is how much
longer than the second this round will be. -/
structure MainState (ρ : Type) where
  box : BoxState ρ
  usec : ℕ
  left : ℕ := usecPerSec
  held : ℕ := 0

/-- The thread calls `select`, which takes some time, or does not get to it; another
thread or a driver takes a step of its own. -/
inductive MainStep (ρ : Type)
  | select (took : ℕ) (result : Select)
  | busy (usec : ℕ)
  | other (step : BoxStep ρ)

/-- The call sends the loop to the timers. -/
def Checks (s : MainState ρ) (took : ℕ) (result : Select) : Prop :=
  (daemonSelect ((s.usec + took) / usecPerSec) result).recvTime = 0

instance (s : MainState ρ) (took : ℕ) (result : Select) : Decidable (Checks s took result) :=
  inferInstanceAs (Decidable (_ = _))

/-- One way through the loop; `select` leaves in `tv` the time that was not slept. -/
def mainStep (s : MainState ρ) : MainStep ρ → Option (MainState ρ)
  | .select took result =>
      if result = .timeout ∧ took < s.left then none
      else if Checks s took result then
        (boxStep s.box (.tick ((s.usec + took) / usecPerSec))).map fun box =>
          { box := box, usec := s.usec + took }
      else
        some { s with
          usec := s.usec + took
          left := s.left - took
          held := s.held + (took - s.left) }
  | .busy usec => some { s with usec := s.usec + usec, held := s.held + usec }
  | .other (.tick _) => none
  | .other step => (boxStep s.box step).map fun box => { s with box := box }

/-- The steps of the box in a step of the daemon. -/
def boxSteps (s : MainState ρ) : MainStep ρ → List (BoxStep ρ)
  | .select took result =>
      if Checks s took result then [.tick ((s.usec + took) / usecPerSec)] else []
  | .busy _ => []
  | .other step => [step]

/-- How long a round has lasted: a second of waiting and the hold-ups. -/
structure Round (s : MainState ρ) : Prop where
  left_le : s.left ≤ usecPerSec
  since : ∃ start, s.box.clock = start / usecPerSec ∧
    s.usec + s.left = start + usecPerSec + s.held

/-- The thread is held up for no more than `lag` seconds in a round, and the steps of
the other threads leave the entry in place. -/
def Calm (e : Entry) (lag : ℕ) (s : MainState ρ) : MainStep ρ → Prop
  | .select took result =>
      Checks s took result → s.held + (took - s.left) ≤ lag * usecPerSec ∧ e.InMode s.box
  | .busy _ => True
  | .other step => e.Undisturbed (lag + 1) s.box step

instance (e : Entry) (lag : ℕ) (s : MainState ρ) :
    (step : MainStep ρ) → Decidable (Calm e lag s step)
  | .select took result => inferInstanceAs (Decidable
      (Checks s took result → s.held + (took - s.left) ≤ lag * usecPerSec ∧ e.InMode s.box))
  | .busy _ => inferInstanceAs (Decidable True)
  | .other step => inferInstanceAs (Decidable (e.Undisturbed (lag + 1) s.box step))

theorem mainStep_select {s s' : MainState ρ} {took : ℕ} {result : Select}
    (h : mainStep s (.select took result) = some s') :
    (Checks s took result ∧
        ∃ box, boxStep s.box (.tick ((s.usec + took) / usecPerSec)) = some box ∧
          s' = { box := box, usec := s.usec + took }) ∨
      ¬Checks s took result ∧ s' = { s with
        usec := s.usec + took
        left := s.left - took
        held := s.held + (took - s.left) } := by
  simp only [mainStep] at h
  split at h
  · contradiction
  · split at h
    · rename_i hchecks
      obtain ⟨box, hbox, rfl⟩ := Option.map_eq_some_iff.mp h
      exact Or.inl ⟨hchecks, box, hbox, rfl⟩
    · rename_i hchecks
      exact Or.inr ⟨hchecks, (Option.some.inj h).symm⟩

theorem mainStep_other {s s' : MainState ρ} {step : BoxStep ρ}
    (h : mainStep s (.other step) = some s') :
    (∀ now, step ≠ .tick now) ∧
      ∃ box, boxStep s.box step = some box ∧ s' = { s with box := box } := by
  have hmap : (∀ now, step ≠ .tick now) ∧
      (boxStep s.box step).map (fun box => { s with box := box }) = some s' := by
    cases step with
    | tick now => contradiction
    | online | offline | event | mode | packet | act => exact ⟨by simp, h⟩
  obtain ⟨hnotTick, hsome⟩ := hmap
  obtain ⟨box, hbox, rfl⟩ := Option.map_eq_some_iff.mp hsome
  exact ⟨hnotTick, box, hbox, rfl⟩

theorem boxStep_clock {s s' : BoxState ρ} {step : BoxStep ρ} (h : boxStep s step = some s')
    (hnotTick : ∀ now, step ≠ .tick now) : s'.clock = s.clock := by
  rcases TimerSafety.effect_clock (boxStep_effect h) with ⟨hclock, -⟩ | ⟨now, htick, -⟩
  · exact hclock
  · exact absurd htick (hnotTick now)

/-- A check begins a round. -/
theorem round_of_checks {s s' : MainState ρ} {took : ℕ} {result : Select}
    (h : mainStep s (.select took result) = some s') (hchecks : Checks s took result) :
    Round s' := by
  rcases mainStep_select h with ⟨-, box, hbox, rfl⟩ | ⟨hnot, -⟩
  · have hclock := congrArg BoxState.clock (TimerSafety.boxStep_tick hbox)
    exact ⟨Nat.le_refl usecPerSec, s.usec + took, hclock, (Nat.add_zero _).symm⟩
  · exact absurd hchecks hnot

theorem Round.step {s s' : MainState ρ} {step : MainStep ρ} (h : Round s)
    (hstep : mainStep s step = some s') : Round s' := by
  obtain ⟨hleft, start, hclock, hround⟩ := h
  cases step with
  | select took result =>
    by_cases hchecks : Checks s took result
    · exact round_of_checks hstep hchecks
    · rcases mainStep_select hstep with ⟨hyes, -⟩ | ⟨-, rfl⟩
      · exact absurd hyes hchecks
      · refine ⟨Nat.le_trans (Nat.sub_le _ _) hleft, start, hclock, ?_⟩
        show s.usec + took + (s.left - took) = start + usecPerSec + (s.held + (took - s.left))
        omega
  | busy usec =>
    cases Option.some.inj hstep
    refine ⟨hleft, start, hclock, ?_⟩
    show s.usec + usec + s.left = start + usecPerSec + (s.held + usec)
    omega
  | other step =>
    obtain ⟨hnotTick, box, hbox, rfl⟩ := mainStep_other hstep
    exact ⟨hleft, start, (boxStep_clock hbox hnotTick).trans hclock, hround⟩

/-- The second of a check is at most a second and the hold-up behind the last one. -/
theorem Round.tick_le {s : MainState ρ} (h : Round s) {took lag : ℕ}
    (hheld : s.held + (took - s.left) ≤ lag * usecPerSec) :
    (s.usec + took) / usecPerSec ≤ s.box.clock + (lag + 1) := by
  obtain ⟨hleft, start, hclock, hround⟩ := h
  rw [hclock]
  unfold usecPerSec at *
  omega

/-- What the daemon does to the box is a run of the box with ticks in time. -/
theorem embeds (e : Entry) (lag : ℕ) :
    Embeds mainStep (Calm e lag) Round boxStep (e.Undisturbed (lag + 1))
      (MainState.box : MainState ρ → BoxState ρ) boxSteps := by
  intro s step s' hround hok hstep
  cases step with
  | select took result =>
    rcases mainStep_select hstep with ⟨hchecks, box, hbox, rfl⟩ | ⟨hnot, rfl⟩
    · obtain ⟨hheld, hmode⟩ := hok hchecks
      simp only [boxSteps, if_pos hchecks, Guarded, run, hbox, Option.bind_some]
      exact ⟨⟨⟨hround.tick_le hheld, hmode⟩, fun _ _ => trivial⟩, trivial⟩
    · simp only [boxSteps, if_neg hnot]
      exact ⟨trivial, rfl⟩
  | busy usec =>
    cases Option.some.inj hstep
    exact ⟨trivial, rfl⟩
  | other step =>
    obtain ⟨-, box, hbox, rfl⟩ := mainStep_other hstep
    simp only [boxSteps, Guarded, run, hbox, Option.bind_some]
    exact ⟨⟨hok, fun _ _ => trivial⟩, trivial⟩

/-- SET_TIMER for device 1, slot 0: at noon of every day. -/
def noonDaily : ByteMemory.Memory :=
  ByteMemory.load [0x33, 0x88, 24, 0, 1, 0, 0, 0, 0, 0, 0xFF, 1, 12, 0, 0, 0x7F, 5, 0, 1, 0, 0, 0,
    0, 0] ByteMemory.zeros

theorem noon_recurring : checkBit (TcpPacket.readTimer noonDaily).wday.toNat 7 = false := by
  decide +kernel

theorem firstSlot_lt : 0 < hsbDevMaxTimerNum := by decide

def noonEntry : Entry where
  key := (1, Vector.replicate 8 0)
  devid := 1
  devMode := hsbWorkModeAll
  slot := ⟨0, firstSlot_lt⟩
  timer := TcpPacket.readTimer noonDaily
  recurring := noon_recurring

/-- Nine seconds before noon the first check finds the timer. -/
def beforeNoon : List (MainStep Unit) :=
  [.other (.online 1 { cls := 1 } (some .virtualSwitchOp)), .other (.packet noonDaily 24 ())]

/-- A datagram and a hold-up of two seconds in a round, and one of five in the next. -/
def acrossNoon : List (MainStep Unit) :=
  [.select 300000 (.readable 5), .busy 2000000, .select 700000 .timeout, .busy 5000000,
    .select 1000000 .timeout, .select 1000000 .failed]

end HomeSecurityBox.MainLoop
