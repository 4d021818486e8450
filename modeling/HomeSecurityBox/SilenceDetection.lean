import HomeSecurityBox.VsAgreement

/-!
The monitor thread of the virtual switch driver with a clock. Every `select` starts
again with two seconds, so a datagram of any device ends the wait without a call of
`_remove_timeout_dev`. A listed device is taken offline by time-outs only, and the
traffic of the others can put them off.
-/

namespace HomeSecurityBox.SilenceDetection

open ByteMemory Protocol DeviceData VirtualSwitch VsDriver VsAgreement Transitions

variable {ρ : Type}

/-- Two seconds, in microseconds. -/
def selectTime : ℕ := 2000000

/-- A step and the time that its `select` took. -/
abbrev TimedVsStep := VsStep × ℕ

/-- A time-out takes the whole time and a datagram less; a discovery response is taken
by another thread. -/
def Takes : TimedVsStep → Prop
  | (.discovered .., d) => d = 0
  | (.datagram .., d) => d < selectTime
  | (.timeout, d) => d = selectTime

instance : (step : TimedVsStep) → Decidable (Takes step)
  | (.discovered .., d) => inferInstanceAs (Decidable (d = 0))
  | (.datagram .., d) => inferInstanceAs (Decidable (d < selectTime))
  | (.timeout, d) => inferInstanceAs (Decidable (d = selectTime))

/-- The state of the driver and what has happened, newest first. -/
structure Timed (ρ : Type) where
  state : VsState ρ
  past : List TimedVsStep := []

def timedStep (s : Timed ρ) (step : TimedVsStep) : Option (Timed ρ) :=
  if Takes step then (vsStep s.state step.1).map fun state => ⟨state, step :: s.past⟩ else none

/-- The device is the sender, be the datagram well formed or not. -/
def sends (dev : VsDev) : VsStep → Bool
  | .discovered _ info => info.mac == dev.info.mac
  | .datagram addr _ _ => addr == dev.ip
  | .timeout => false

/-- The time since the device last sent something. -/
def silence (dev : VsDev) : List TimedVsStep → ℕ
  | [] => 0
  | (step, d) :: past => if sends dev step then 0 else d + silence dev past

def silenceLimit : ℕ := 26000000

/-- No listed device has been silent for longer than 26 seconds. -/
def Heard (s : Timed ρ) : Prop := ∀ dev ∈ s.state.queue, silence dev s.past ≤ silenceLimit

def timeouts (n : ℕ) : List TimedVsStep := List.replicate n (.timeout, selectTime)

/-- Nor will one have been after time-outs only. -/
def HeardOn (s : Timed ρ) : Prop :=
  ∀ n t, run timedStep s (timeouts n) = some t → Heard t

/-- The silence of a listed device when the time-outs that it takes to remove it have
passed and nothing else has. -/
def finalSilence (dev : VsDev) (past : List TimedVsStep) : ℕ :=
  silence dev past + selectTime * (11 - dev.idleTime)

/-- A datagram does not put off the removal of another device too far. -/
def InTime (s : Timed ρ) : TimedVsStep → Prop
  | (.datagram addr _ _, d) => ∀ dev ∈ s.state.queue, dev.ip ≠ addr →
      finalSilence dev s.past + d ≤ silenceLimit
  | _ => True

instance (s : Timed ρ) : (step : TimedVsStep) → Decidable (InTime s step)
  | (.datagram addr _ _, d) => inferInstanceAs (Decidable
      (∀ dev ∈ s.state.queue, dev.ip ≠ addr → finalSilence dev s.past + d ≤ silenceLimit))
  | (.discovered .., _) | (.timeout, _) => inferInstanceAs (Decidable True)

/-- What time-outs lead to stays within the limit. -/
def Settled (s : Timed ρ) : Prop :=
  ∀ dev ∈ s.state.queue, dev.idleTime ≤ 11 ∧ finalSilence dev s.past ≤ silenceLimit

theorem timedStep_eq_some {s s' : Timed ρ} {step : TimedVsStep}
    (h : timedStep s step = some s') :
    Takes step ∧ vsStep s.state step.1 = some s'.state ∧ s'.past = step :: s.past := by
  unfold timedStep at h
  split at h
  · rename_i htakes
    obtain ⟨state, hstate, rfl⟩ := Option.map_eq_some_iff.mp h
    exact ⟨htakes, hstate, rfl⟩
  · contradiction

theorem findDevByIp_at {queue : List VsDev} {addr : UInt32} {found : VsDev}
    (h : findDevByIp queue addr = some found) :
    queue[queue.findIdx fun dev => dev.ip == addr]? = some found ∧ found.ip = addr := by
  refine ⟨?_, ?_⟩
  · rw [← List.find?_eq_getElem?_findIdx]
    exact h
  · have hip := List.find?_some (show queue.find? (fun dev => dev.ip == addr) = some found from h)
    exact eq_of_beq hip

/-- A datagram leaves the devices as they are but for a refreshed sender. -/
theorem mem_of_recvDatagram {s : VsState ρ} {addr : UInt32} {rbuf : Memory} {ret : ℕ}
    {dev : VsDev} (h : dev ∈ (recvDatagram s addr rbuf ret).queue) :
    dev ∈ s.queue ∨ dev.ip = addr ∧ dev.idleTime = 0 := by
  unfold recvDatagram at h
  split at h
  · exact Or.inl h
  · cases hfind : findDevByIp s.queue addr with
    | none =>
      rw [hfind] at h
      exact Or.inl h
    | some found =>
      rw [hfind] at h
      obtain ⟨hat, hip⟩ := findDevByIp_at hfind
      obtain ⟨n, hn⟩ := List.getElem?_of_mem h
      rw [List.getElem?_modify] at hn
      obtain ⟨old, hold, hdev⟩ := Option.map_eq_some_iff.mp hn
      by_cases hsame : (s.queue.findIdx fun dev => dev.ip == addr) = n
      · rw [hsame, hold] at hat
        rw [if_pos hsame, Option.some.inj hat] at hdev
        rw [← hdev]
        exact Or.inr ⟨hip, rfl⟩
      · rw [if_neg hsame] at hdev
        rw [← hdev]
        exact Or.inl (List.mem_of_getElem? hold)

theorem mem_recvDatagram {s : VsState ρ} {addr : UInt32} (rbuf : Memory) (ret : ℕ)
    {dev : VsDev} (h : dev ∈ s.queue) (hip : dev.ip ≠ addr) :
    dev ∈ (recvDatagram s addr rbuf ret).queue := by
  unfold recvDatagram
  split
  · exact h
  · cases hfind : findDevByIp s.queue addr with
    | none => exact h
    | some found =>
      obtain ⟨hat, hfound⟩ := findDevByIp_at hfind
      obtain ⟨n, hn⟩ := List.getElem?_of_mem h
      have hother : (s.queue.findIdx fun dev => dev.ip == addr) ≠ n := by
        rintro rfl
        rw [hn] at hat
        exact hip (Option.some.inj hat ▸ hfound)
      apply List.mem_of_getElem? (i := n)
      rw [List.getElem?_modify, hn]
      simp only [if_neg hother]
      rfl

theorem silence_cons_of_sends {dev : VsDev} {step : VsStep} (d : ℕ) (past : List TimedVsStep)
    (h : sends dev step = true) : silence dev ((step, d) :: past) = 0 := by
  simp only [silence, h, if_true]

theorem silence_cons_le (dev : VsDev) (step : VsStep) (d : ℕ) (past : List TimedVsStep) :
    silence dev ((step, d) :: past) ≤ d + silence dev past := by
  simp only [silence]
  split
  · exact Nat.zero_le _
  · exact Nat.le_refl _

theorem silence_tickIdle (dev : VsDev) (past : List TimedVsStep) :
    silence (tickIdle dev) past = silence dev past := by
  induction past with
  | nil => rfl
  | cons step past ih =>
    have hsends : sends (tickIdle dev) step.1 = sends dev step.1 := by
      cases step.1 <;> rfl
    simp only [silence, hsends, ih]

/-- Whoever has just sent something is far from the limit. -/
theorem finalSilence_of_silent_zero {dev : VsDev} {past : List TimedVsStep}
    (h : silence dev past = 0) : finalSilence dev past ≤ silenceLimit := by
  have hidle : 11 - dev.idleTime ≤ 11 := Nat.sub_le _ _
  have htime : selectTime * (11 - dev.idleTime) ≤ selectTime * 11 := Nat.mul_le_mul_left _ hidle
  simp only [finalSilence, h, selectTime, silenceLimit] at htime ⊢
  omega

theorem discovered_settled {s s' : Timed ρ} {addr : UInt32} {info : VsInfo}
    (h : timedStep s (.discovered addr info, 0) = some s') (hs : Settled s) : Settled s' := by
  obtain ⟨-, hstep, hpast⟩ := timedStep_eq_some h
  have hold : ∀ dev ∈ s.state.queue, dev.idleTime ≤ 11 ∧
      finalSilence dev s'.past ≤ silenceLimit := by
    intro dev hdev
    obtain ⟨hidle, hfinal⟩ := hs dev hdev
    have hless := silence_cons_le dev (.discovered addr info) 0 s.past
    refine ⟨hidle, ?_⟩
    rw [hpast]
    unfold finalSilence at hfinal ⊢
    omega
  intro dev hdev
  rcases registerDevice_cases hstep with ⟨-, hsame⟩ | ⟨-, done, listed, -, hlisted, hnext⟩
  · rw [hsame] at hdev
    exact hold dev hdev
  · rw [hnext] at hdev
    rcases List.mem_append.mp hdev with hbefore | hnew
    · exact hold dev hbefore
    · rw [List.mem_singleton.mp hnew, hlisted]
      refine ⟨Nat.zero_le 11, finalSilence_of_silent_zero ?_⟩
      rw [hpast]
      exact silence_cons_of_sends 0 s.past (beq_self_eq_true info.mac)

theorem datagram_settled {s s' : Timed ρ} {addr : UInt32} {rbuf : Memory} {ret d : ℕ}
    (h : timedStep s (.datagram addr rbuf ret, d) = some s')
    (hok : InTime s (.datagram addr rbuf ret, d)) (hs : Settled s) : Settled s' := by
  obtain ⟨-, hstep, hpast⟩ := timedStep_eq_some h
  intro dev hdev
  rw [← Option.some.inj hstep] at hdev
  by_cases hip : dev.ip = addr
  · have hzero : silence dev s'.past = 0 := by
      rw [hpast]
      exact silence_cons_of_sends d s.past (beq_iff_eq.mpr hip.symm)
    refine ⟨?_, finalSilence_of_silent_zero hzero⟩
    rcases mem_of_recvDatagram hdev with hold | ⟨-, hrefreshed⟩
    · exact (hs dev hold).1
    · omega
  · rcases mem_of_recvDatagram hdev with hold | ⟨hsender, -⟩
    · have hlater := hok dev hold hip
      have hless := silence_cons_le dev (.datagram addr rbuf ret) d s.past
      refine ⟨(hs dev hold).1, ?_⟩
      rw [hpast]
      unfold finalSilence at hlater ⊢
      omega
    · exact absurd hsender hip

/-- A time-out adds two seconds to the silence and takes one call off what is left. -/
theorem finalSilence_tickIdle {dev : VsDev} (past : List TimedVsStep)
    (hidle : dev.idleTime ≤ 10) :
    finalSilence (tickIdle dev) ((.timeout, selectTime) :: past) = finalSilence dev past := by
  have hsilence : silence (tickIdle dev) ((.timeout, selectTime) :: past) =
      selectTime + silence dev past := by
    rw [silence_tickIdle]
    rfl
  have hcalls : 11 - dev.idleTime = (11 - (tickIdle dev).idleTime) + 1 := by
    simp only [tickIdle]
    omega
  rw [finalSilence, hsilence, finalSilence, hcalls, Nat.mul_add, Nat.mul_one]
  omega

theorem timeout_settled {s s' : Timed ρ} (h : timedStep s (.timeout, selectTime) = some s')
    (hs : Settled s) : Settled s' := by
  obtain ⟨-, hstep, hpast⟩ := timedStep_eq_some h
  intro dev hdev
  rw [vsStep, removeTimeoutDev_eq] at hstep
  rw [← Option.some.inj hstep] at hdev
  obtain ⟨old, hold, rfl⟩ := List.mem_map.mp hdev
  obtain ⟨hmem, hkept⟩ := List.mem_filter.mp hold
  have hidle : old.idleTime ≤ 10 := by
    simpa [expired] using hkept
  refine ⟨Nat.succ_le_succ hidle, ?_⟩
  rw [hpast, finalSilence_tickIdle s.past hidle]
  exact (hs old hmem).2

theorem timedStep_settled : Preserves (timedStep (ρ := ρ)) InTime Settled := by
  rintro s ⟨step, d⟩ s' hs hok h
  have htakes := (timedStep_eq_some h).1
  cases step with
  | discovered addr info =>
    cases htakes
    exact discovered_settled h hs
  | datagram addr rbuf ret => exact datagram_settled h hok hs
  | timeout =>
    cases htakes
    exact timeout_settled h hs

theorem timeouts_succ (n : ℕ) : timeouts (n + 1) = (.timeout, selectTime) :: timeouts n := rfl

theorem timeout_step (s : Timed ρ) :
    ∃ s', timedStep s (.timeout, selectTime) = some s' ∧
      s'.past = (.timeout, selectTime) :: s.past ∧
      s'.state.queue = (s.state.queue.filter fun dev => !expired dev).map tickIdle := by
  have hstep : timedStep s (.timeout, selectTime) =
      some ⟨⟨offlineAll s.state.cb (s.state.queue.filter expired),
        (s.state.queue.filter fun dev => !expired dev).map tickIdle⟩,
        (.timeout, selectTime) :: s.past⟩ := by
    simp only [timedStep, Takes, if_true, vsStep, removeTimeoutDev_eq, Option.map_some]
  exact ⟨_, hstep, rfl, rfl⟩

/-- A listed device stays listed until its calls are used up, and is silent meanwhile. -/
theorem timeouts_run {dev : VsDev} (n : ℕ) (s : Timed ρ) (hdev : dev ∈ s.state.queue)
    (hn : dev.idleTime + n ≤ 11) :
    ∃ (t : Timed ρ) (last : VsDev), run timedStep s (timeouts n) = some t ∧
      last ∈ t.state.queue ∧ silence last t.past = silence dev s.past + selectTime * n := by
  induction n generalizing s dev with
  | zero => exact ⟨s, dev, rfl, hdev, rfl⟩
  | succ n ih =>
    obtain ⟨s', hstep, hpast, hqueue⟩ := timeout_step s
    have hkept : expired dev = false := decide_eq_false (by omega)
    have hnext : tickIdle dev ∈ s'.state.queue := by
      rw [hqueue]
      exact List.mem_map_of_mem (List.mem_filter.mpr ⟨hdev, by rw [hkept]; rfl⟩)
    obtain ⟨t, last, hrun, hlast, hsilence⟩ := ih s' hnext (by simp only [tickIdle]; omega)
    refine ⟨t, last, ?_, hlast, ?_⟩
    · rw [timeouts_succ, run, hstep]
      exact hrun
    · have hlonger : silence (tickIdle dev) ((.timeout, selectTime) :: s.past) =
          selectTime + silence dev s.past := by
        rw [silence_tickIdle]
        rfl
      rw [hsilence, hpast, hlonger, Nat.mul_succ]
      omega

theorem Settled.heard {s : Timed ρ} (hs : Settled s) : Heard s :=
  fun dev hdev => Nat.le_trans (Nat.le_add_right _ _) (hs dev hdev).2

/-- Time-outs keep what is settled. -/
theorem Settled.heardOn {s : Timed ρ} (hs : Settled s) : HeardOn s := by
  intro n t hrun
  have hguard : Guarded timedStep InTime s (timeouts n) := by
    clear hrun hs
    induction n generalizing s with
    | zero => trivial
    | succ n ih => exact ⟨trivial, fun s' _ => ih⟩
  exact (run_invariant_guarded timedStep_settled (timeouts n) s t hs hguard hrun).heard

/-- A datagram that comes too late leaves a device that will be silent for too long. -/
theorem not_heardOn_of_late {s s' : Timed ρ} {step : TimedVsStep} (hs : Settled s)
    (hlate : ¬ InTime s step) (h : timedStep s step = some s') : ¬ HeardOn s' := by
  obtain ⟨step, d⟩ := step
  cases step with
  | discovered addr info => exact absurd trivial hlate
  | timeout => exact absurd trivial hlate
  | datagram addr rbuf ret =>
    simp only [InTime, not_forall, Nat.not_le] at hlate
    obtain ⟨dev, hdev, hip, hfinal⟩ := hlate
    obtain ⟨-, hstep, hpast⟩ := timedStep_eq_some h
    have hstill : dev ∈ s'.state.queue := by
      rw [← Option.some.inj hstep]
      exact mem_recvDatagram rbuf ret hdev hip
    have hidle := (hs dev hdev).1
    obtain ⟨t, last, hrun, hlast, hsilence⟩ := timeouts_run (11 - dev.idleTime) s' hstill (by omega)
    intro hheard
    have hbound := hheard _ t hrun last hlast
    have hother : sends dev (.datagram addr rbuf ret) = false :=
      beq_eq_false_iff_ne.mpr (Ne.symm hip)
    have hlonger : silence dev s'.past = d + silence dev s.past := by
      rw [hpast, silence, hother]
      rfl
    rw [hsilence, hlonger] at hbound
    unfold finalSilence at hfinal
    omega

def Timed.start (drivers : List HsbDevDrv) : Timed ρ := ⟨VsAgreement.start drivers, []⟩

theorem settled_start (drivers : List HsbDevDrv) : Settled (Timed.start drivers : Timed ρ) :=
  fun _ hdev => absurd hdev List.not_mem_nil

theorem HeardOn.heard {s : Timed ρ} (h : HeardOn s) : Heard s := h 0 s rfl

/-- Silence is bounded, also when only time-outs follow, exactly in the runs in which
no datagram puts off the removal of another device for too long. -/
theorem silence_bounded_iff (drivers : List HsbDevDrv) (steps : List TimedVsStep)
    (t : Timed ρ) (hrun : run timedStep (Timed.start drivers) steps = some t) :
    (Guarded timedStep InTime (Timed.start drivers : Timed ρ) steps ↔
        Throughout timedStep HeardOn (Timed.start drivers : Timed ρ) steps) ∧
      (Guarded timedStep InTime (Timed.start drivers : Timed ρ) steps →
        Throughout timedStep Heard (Timed.start drivers : Timed ρ) steps) := by
  have hiff := guarded_iff_throughout (fun _ hs => hs.heardOn) timedStep_settled
    (fun _ _ _ hs hlate h => not_heardOn_of_late hs hlate h) steps (Timed.start drivers) t
    (settled_start drivers) hrun
  exact ⟨hiff, fun hguard => (hiff.mp hguard).mono fun _ h => h.heard⟩

/-- Two lamps; the second answers every keep alive and the first not at all. -/
def lampInfo (last : UInt8) : VsInfo := { devClass := 2, mac := #v[1, 2, 3, 4, 5, last] }

/-- A keep alive of four bytes. -/
def keepAlive : Memory := load [0x51, 0x89, 4, 0] zeros

def lampSteps : List TimedVsStep :=
  [(.discovered 7 (lampInfo 1), 0), (.discovered 8 (lampInfo 2), 0),
    (.timeout, selectTime), (.datagram 8 keepAlive 4, 1000)]

theorem silence_bounded_iff_lamps :
    ∃ t : Timed Unit, run timedStep (Timed.start [virtualSwitchDrv]) lampSteps = some t ∧
      t.state.queue.map VsDev.idleTime = [1, 0] ∧
      Throughout timedStep Heard (Timed.start [virtualSwitchDrv] : Timed Unit) lampSteps := by
  have hidle : (run timedStep (Timed.start [virtualSwitchDrv] : Timed Unit) lampSteps).map
      (fun t => t.state.queue.map VsDev.idleTime) = some [1, 0] := by decide +kernel
  have hguard : Guarded timedStep InTime (Timed.start [virtualSwitchDrv] : Timed Unit)
      lampSteps := by decide +kernel
  obtain ⟨t, hrun, ht⟩ := Option.map_eq_some_iff.mp hidle
  exact ⟨t, hrun, ht, (silence_bounded_iff [virtualSwitchDrv] lampSteps t hrun).2 hguard⟩

/-- The second lamp sends a keep alive every 1.5 seconds. -/
def chatterSteps : List TimedVsStep :=
  [(.discovered 7 (lampInfo 1), 0), (.discovered 8 (lampInfo 2), 0)] ++
    List.replicate 18 (.datagram 8 keepAlive 4, 1500000)

/-- After 27 seconds without a word of the first lamp it is still listed. -/
theorem chatter_hides_silence :
    ∃ t : Timed Unit, run timedStep (Timed.start [virtualSwitchDrv]) chatterSteps = some t ∧
      ¬ Heard t := by
  have hsilence : (run timedStep (Timed.start [virtualSwitchDrv] : Timed Unit) chatterSteps).map
      (fun t => t.state.queue.map fun dev => silence dev t.past) = some [27000000, 0] := by
    decide +kernel
  obtain ⟨t, hrun, ht⟩ := Option.map_eq_some_iff.mp hsilence
  refine ⟨t, hrun, ?_⟩
  intro hheard
  have hfirst : 27000000 ∈ t.state.queue.map fun dev => silence dev t.past := by
    rw [ht]
    exact List.mem_cons_self
  obtain ⟨dev, hdev, hdevsilence⟩ := List.mem_map.mp hfirst
  have hbound := hheard dev hdev
  rw [hdevsilence] at hbound
  exact absurd hbound (by decide)

end HomeSecurityBox.SilenceDetection
