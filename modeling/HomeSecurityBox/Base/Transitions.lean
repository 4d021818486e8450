import Mathlib.Data.List.Basic

/-!
Runs of a labelled step function. A label fixes the choice made by a step and
`none` says that the step is not possible there. An invariant that holds at
the start and is preserved by every step allowed by a guard holds after every
run whose steps all meet the guard.
-/

namespace HomeSecurityBox.Transitions

variable {σ α : Type*}

def run (step : σ → α → Option σ) : σ → List α → Option σ
  | s, [] => some s
  | s, a :: rest => (step s a).bind fun s' => run step s' rest

/-- Every step of the run is taken from a state that meets the guard. -/
def Guarded (step : σ → α → Option σ) (ok : σ → α → Prop) : σ → List α → Prop
  | _, [] => True
  | s, a :: rest => ok s a ∧ ∀ s', step s a = some s' → Guarded step ok s' rest

instance decidableGuarded (step : σ → α → Option σ) (ok : σ → α → Prop)
    [∀ s a, Decidable (ok s a)] : ∀ s labels, Decidable (Guarded step ok s labels)
  | _, [] => inferInstanceAs (Decidable True)
  | s, a :: rest =>
      have : Decidable (∀ s', step s a = some s' → Guarded step ok s' rest) :=
        match step s a with
        | none => isTrue nofun
        | some s' =>
            have := decidableGuarded step ok s' rest
            decidable_of_iff (Guarded step ok s' rest)
              ⟨fun hrest _ hs => Option.some.inj hs ▸ hrest, fun hall => hall s' rfl⟩
      inferInstanceAs (Decidable (ok s a ∧ ∀ s', step s a = some s' → Guarded step ok s' rest))

def Preserves (step : σ → α → Option σ) (ok : σ → α → Prop) (inv : σ → Prop) : Prop :=
  ∀ s a s', inv s → ok s a → step s a = some s' → inv s'

theorem run_cons_eq_some (step : σ → α → Option σ) (s t : σ) (a : α) (rest : List α)
    (h : run step s (a :: rest) = some t) :
    ∃ s', step s a = some s' ∧ run step s' rest = some t :=
  Option.bind_eq_some_iff.mp h

theorem run_singleton (step : σ → α → Option σ) (s : σ) (a : α) : run step s [a] = step s a :=
  Option.bind_fun_some (step s a)

/-- Some run from a start leads to the state. -/
def Reachable (step : σ → α → Option σ) (start : σ → Prop) (s : σ) : Prop :=
  ∃ s₀ labels, start s₀ ∧ run step s₀ labels = some s

theorem run_append (step : σ → α → Option σ) (s : σ) (front back : List α) :
    run step s (front ++ back) = (run step s front).bind fun s' => run step s' back := by
  induction front generalizing s with
  | nil => rfl
  | cons a rest ih =>
    simp only [List.cons_append, run]
    cases step s a with
    | none => rfl
    | some s' => exact ih s'

theorem Reachable.step {step : σ → α → Option σ} {start : σ → Prop} {s s' : σ} {a : α}
    (h : Reachable step start s) (hstep : step s a = some s') : Reachable step start s' := by
  obtain ⟨s₀, labels, hstart, hrun⟩ := h
  refine ⟨s₀, labels ++ [a], hstart, ?_⟩
  rw [run_append, hrun]
  simp only [Option.bind_some, run, hstep]

/-- The invariant rule for guarded runs. -/
theorem run_invariant_guarded {step : σ → α → Option σ} {ok : σ → α → Prop}
    {inv : σ → Prop} (hstep : Preserves step ok inv) (labels : List α) :
    ∀ s t, inv s → Guarded step ok s labels → run step s labels = some t → inv t := by
  induction labels with
  | nil =>
    intro s t hs _ hrun
    cases Option.some.inj hrun
    exact hs
  | cons a rest ih =>
    intro s t hs hguard hrun
    obtain ⟨s', hs', hrest⟩ := run_cons_eq_some step s t a rest hrun
    exact ih s' t (hstep s a s' hs hguard.1 hs') (hguard.2 s' hs') hrest

theorem guarded_true (step : σ → α → Option σ) (s : σ) (labels : List α) :
    Guarded step (fun _ _ => True) s labels := by
  induction labels generalizing s with
  | nil => trivial
  | cons a rest ih => exact ⟨trivial, fun s' _ => ih s'⟩

theorem guarded_of_forall {step : σ → α → Option σ} {ok : σ → α → Prop} {labels : List α}
    (h : ∀ a ∈ labels, ∀ s, ok s a) {s : σ} : Guarded step ok s labels := by
  induction labels generalizing s with
  | nil => trivial
  | cons a rest ih =>
    exact ⟨h a List.mem_cons_self s, fun s' _ => ih fun b hb => h b (List.mem_cons_of_mem a hb)⟩

theorem Guarded.and {step : σ → α → Option σ} {ok ok' : σ → α → Prop} {labels : List α} :
    ∀ {s : σ}, Guarded step ok s labels → Guarded step ok' s labels →
      Guarded step (fun s a => ok s a ∧ ok' s a) s labels := by
  induction labels with
  | nil => exact fun _ _ => trivial
  | cons a rest ih =>
    intro s h h'
    exact ⟨⟨h.1, h'.1⟩, fun s' hs' => ih (h.2 s' hs') (h'.2 s' hs')⟩

theorem Guarded.of_append {step : σ → α → Option σ} {ok : σ → α → Prop} {front back : List α} :
    ∀ {s s' : σ}, Guarded step ok s (front ++ back) → run step s front = some s' →
      Guarded step ok s front ∧ Guarded step ok s' back := by
  induction front with
  | nil =>
    intro s s' hguard hrun
    cases Option.some.inj hrun
    exact ⟨trivial, hguard⟩
  | cons a rest ih =>
    intro s s' hguard hrun
    obtain ⟨s₁, hs₁, hrest⟩ := run_cons_eq_some step s s' a rest hrun
    obtain ⟨hfront, hback⟩ := ih (hguard.2 s₁ hs₁) hrest
    refine ⟨⟨hguard.1, ?_⟩, hback⟩
    intro s₂ hs₂
    rwa [← Option.some.inj (hs₁.symm.trans hs₂)]

theorem Guarded.mono {step : σ → α → Option σ} {ok ok' : σ → α → Prop}
    (h : ∀ s a, ok s a → ok' s a) {labels : List α} :
    ∀ {s : σ}, Guarded step ok s labels → Guarded step ok' s labels := by
  induction labels with
  | nil => exact fun _ => trivial
  | cons a rest ih => exact fun hguard => ⟨h _ a hguard.1, fun s' hs' => ih (hguard.2 s' hs')⟩

/-- The invariant rule for arbitrary runs. -/
theorem run_invariant {step : σ → α → Option σ} {inv : σ → Prop}
    (hstep : ∀ s a s', inv s → step s a = some s' → inv s')
    (labels : List α) (s t : σ) (hs : inv s) (hrun : run step s labels = some t) : inv t :=
  have hpreserves : Preserves step (fun _ _ => True) inv :=
    fun s a s' hi _ h => hstep s a s' hi h
  run_invariant_guarded hpreserves labels s t hs (guarded_true step s labels) hrun

/-- Two guards that agree in the states of an invariant allow the same runs. -/
theorem guarded_congr {step : σ → α → Option σ} {ok ok' : σ → α → Prop} {inv : σ → Prop}
    (hstep : ∀ s a s', inv s → step s a = some s' → inv s')
    (hsame : ∀ s a s', inv s → step s a = some s' → (ok s a ↔ ok' s a)) (labels : List α) :
    ∀ s t, inv s → run step s labels = some t →
      (Guarded step ok s labels ↔ Guarded step ok' s labels) := by
  induction labels with
  | nil => exact fun _ _ _ _ => Iff.rfl
  | cons a rest ih =>
    intro s t hs hrun
    obtain ⟨s', hs', hrest⟩ := run_cons_eq_some step s t a rest hrun
    have hnext := ih s' t (hstep s a s' hs hs') hrest
    simp only [Guarded, hs', Option.some.injEq, forall_eq', hsame s a s' hs hs', hnext]

/-- A step that brings a measure down until the goal is there reaches it when repeated. -/
theorem run_settles {step : σ → α → Option σ} {a : α} {inv goal : σ → Prop} (measure : σ → ℕ)
    (hprogress : ∀ s, inv s → ¬goal s →
      ∃ s', step s a = some s' ∧ inv s' ∧ measure s' < measure s) :
    ∀ s, inv s → ∃ n t, run step s (List.replicate n a) = some t ∧ inv t ∧ goal t := by
  intro s
  induction hm : measure s using Nat.strongRecOn generalizing s with
  | ind m ih =>
    intro hs
    by_cases hgoal : goal s
    · exact ⟨0, s, rfl, hs, hgoal⟩
    · obtain ⟨s', hstep, hs', hless⟩ := hprogress s hs hgoal
      obtain ⟨n, t, hrun, ht⟩ := ih (measure s') (hm ▸ hless) s' rfl hs'
      refine ⟨n + 1, t, ?_, ht⟩
      rw [List.replicate_succ, run, hstep]
      exact hrun

/-- The run meets `good` in every state, the first and the last included. -/
def Throughout (step : σ → α → Option σ) (good : σ → Prop) : σ → List α → Prop
  | s, [] => good s
  | s, a :: rest => good s ∧ ∀ s', step s a = some s' → Throughout step good s' rest

theorem Throughout.head {step : σ → α → Option σ} {good : σ → Prop} {s : σ} {labels : List α}
    (h : Throughout step good s labels) : good s := by
  cases labels with
  | nil => exact h
  | cons a rest => exact h.1

theorem Throughout.mono {step : σ → α → Option σ} {good good' : σ → Prop}
    (hgood : ∀ s, good s → good' s) {labels : List α} :
    ∀ {s : σ}, Throughout step good s labels → Throughout step good' s labels := by
  induction labels with
  | nil => exact fun h => hgood _ h
  | cons a rest ih => exact fun h => ⟨hgood _ h.1, fun s' hs' => ih (h.2 s' hs')⟩

/-- Where the steps that meet the guard keep an invariant and every other step ends
in a bad state, the guard is the exact condition for a run without bad states. -/
theorem guarded_iff_throughout {step : σ → α → Option σ} {ok : σ → α → Prop}
    {inv good : σ → Prop} (hgood : ∀ s, inv s → good s) (hkeep : Preserves step ok inv)
    (hbreak : ∀ s a s', inv s → ¬ok s a → step s a = some s' → ¬good s')
    (labels : List α) :
    ∀ s t, inv s → run step s labels = some t →
      (Guarded step ok s labels ↔ Throughout step good s labels) := by
  induction labels with
  | nil =>
    intro s t hs _
    exact ⟨fun _ => hgood s hs, fun _ => trivial⟩
  | cons a rest ih =>
    intro s t hs hrun
    obtain ⟨s', hs', hrest⟩ := run_cons_eq_some step s t a rest hrun
    have honly : ∀ s'', step s a = some s'' → s'' = s' := by
      intro s'' hs''
      exact Option.some.inj (hs''.symm.trans hs')
    constructor
    · intro hguard
      refine ⟨hgood s hs, ?_⟩
      intro s'' hs''
      rw [honly s'' hs'']
      have hinv := hkeep s a s' hs hguard.1 hs'
      exact (ih s' t hinv hrest).mp (hguard.2 s' hs')
    · intro hall
      have hnext := hall.2 s' hs'
      have hok : ok s a := by
        by_contra hbad
        exact hbreak s a s' hs hbad hs' hnext.head
      refine ⟨hok, ?_⟩
      intro s'' hs''
      rw [honly s'' hs'']
      exact (ih s' t (hkeep s a s' hs hok hs') hrest).mpr hnext

end HomeSecurityBox.Transitions
