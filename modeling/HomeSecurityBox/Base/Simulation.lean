import HomeSecurityBox.Base.Transitions

/-!
Forward simulation of labelled runs by a reference. A reference is a total machine
that answers each label with what it shows; a concrete step stands for one label and
shows what its label does. A match of single steps is a match of whole runs.
-/

namespace HomeSecurityBox.Transitions

variable {σ α τ β ω : Type*}

/-- A machine that takes every label, with what a label shows in a state. -/
structure Reference (τ β ω : Type*) where
  next : τ → β → τ
  shown : τ → β → List ω

namespace Reference

variable (R : Reference τ β ω)

def after (t : τ) (labels : List β) : τ := labels.foldl R.next t

def output : τ → List β → List ω
  | _, [] => []
  | t, label :: rest => R.shown t label ++ output (R.next t label) rest

@[simp] theorem after_nil (t : τ) : R.after t [] = t := rfl

@[simp] theorem after_cons (t : τ) (label : β) (rest : List β) :
    R.after t (label :: rest) = R.after (R.next t label) rest := rfl

end Reference

/-- What a run collects of its steps, each seen from the state it is taken in. -/
def collect (step : σ → α → Option σ) (view : σ → α → List ω) : σ → List α → List ω
  | _, [] => []
  | s, a :: rest => view s a ++ ((step s a).elim [] fun s' => collect step view s' rest)

theorem collect_cons (step : σ → α → Option σ) (view : σ → α → List ω) {s s' : σ} {a : α}
    (rest : List α) (h : step s a = some s') :
    collect step view s (a :: rest) = view s a ++ collect step view s' rest := by
  rw [collect, h]
  rfl

theorem collect_singleton (step : σ → α → Option σ) (view : σ → α → List ω) (s : σ) (a : α) :
    collect step view s [a] = view s a := by
  rw [collect]
  cases step s a <;> exact List.append_nil _

theorem collect_append {step : σ → α → Option σ} {view : σ → α → List ω} {front : List α}
    (back : List α) : ∀ {s s' : σ}, run step s front = some s' →
      collect step view s (front ++ back) =
        collect step view s front ++ collect step view s' back := by
  induction front with
  | nil =>
    intro s s' hrun
    cases Option.some.inj hrun
    rfl
  | cons a rest ih =>
    intro s s' hrun
    obtain ⟨s₁, hs₁, hrest⟩ := run_cons_eq_some step s s' a rest hrun
    rw [List.cons_append, collect_cons _ _ _ hs₁, collect_cons _ _ _ hs₁, ih hrest,
      List.append_assoc]

theorem collect_eq_nil {step : σ → α → Option σ} {view : σ → α → List ω} {labels : List α}
    (h : ∀ a ∈ labels, ∀ s, view s a = []) (s : σ) : collect step view s labels = [] := by
  induction labels generalizing s with
  | nil => rfl
  | cons a rest ih =>
    rw [collect, h a List.mem_cons_self s, List.nil_append]
    cases step s a with
    | none => rfl
    | some s' => exact ih (fun b hb => h b (List.mem_cons_of_mem a hb)) s'

theorem collect_eq_nil_guarded {step : σ → α → Option σ} {ok : σ → α → Prop}
    {view : σ → α → List ω} (h : ∀ s a, ok s a → view s a = []) {labels : List α} :
    ∀ {s : σ}, Guarded step ok s labels → collect step view s labels = [] := by
  induction labels with
  | nil => exact fun _ => rfl
  | cons a rest ih =>
    intro s hguard
    rw [collect, h s a hguard.1, List.nil_append]
    cases hs' : step s a with
    | none => rfl
    | some s' => exact ih (hguard.2 s' hs')

/-- One step of the machine is one label of the reference, and shows the same. -/
def Matches (step : σ → α → Option σ) (ok : σ → α → Prop) (inv : σ → Prop)
    (R : Reference τ β ω) (abs : σ → τ) (label : σ → α → β) (view : σ → α → List ω) : Prop :=
  ∀ s a s', inv s → ok s a → step s a = some s' →
    abs s' = R.next (abs s) (label s a) ∧ view s a = R.shown (abs s) (label s a)

/-- The simulation rule. -/
theorem run_simulates {step : σ → α → Option σ} {ok : σ → α → Prop} {inv : σ → Prop}
    {R : Reference τ β ω} {abs : σ → τ} {label : σ → α → β} {view : σ → α → List ω}
    (hkeep : Preserves step ok inv) (hmatch : Matches step ok inv R abs label view)
    (labels : List α) :
    ∀ s t, inv s → Guarded step ok s labels → run step s labels = some t →
      abs t = R.after (abs s) (collect step (fun s a => [label s a]) s labels) ∧
        collect step view s labels =
          R.output (abs s) (collect step (fun s a => [label s a]) s labels) := by
  induction labels with
  | nil =>
    intro s t _ _ hrun
    cases Option.some.inj hrun
    exact ⟨rfl, rfl⟩
  | cons a rest ih =>
    intro s t hs hguard hrun
    obtain ⟨s', hs', hrest⟩ := run_cons_eq_some step s t a rest hrun
    obtain ⟨hnext, hview⟩ := hmatch s a s' hs hguard.1 hs'
    obtain ⟨hlast, hshown⟩ :=
      ih s' t (hkeep s a s' hs hguard.1 hs') (hguard.2 s' hs') hrest
    rw [collect_cons _ _ rest hs', collect_cons _ _ rest hs', List.singleton_append,
      Reference.after_cons, Reference.output, ← hnext, ← hview]
    exact ⟨hlast, congrArg (view s a ++ ·) hshown⟩

/-- Two systems with the same states, whose steps correspond and show the same. -/
theorem run_translated {step : σ → α → Option σ} {step' : σ → β → Option σ} {ok : σ → α → Prop}
    {view : σ → α → List ω} {view' : σ → β → List ω} {tr : α → β}
    (h : ∀ s a, ok s a → step s a = step' s (tr a) ∧ view s a = view' s (tr a))
    (labels : List α) :
    ∀ s, Guarded step ok s labels →
      run step s labels = run step' s (labels.map tr) ∧
        collect step view s labels = collect step' view' s (labels.map tr) := by
  induction labels with
  | nil => exact fun _ _ => ⟨rfl, rfl⟩
  | cons a rest ih =>
    intro s hguard
    obtain ⟨hstep, hview⟩ := h s a hguard.1
    simp only [List.map_cons, run, collect, ← hstep, ← hview]
    cases hs' : step s a with
    | none => exact ⟨rfl, rfl⟩
    | some s' =>
      obtain ⟨hrun, hcollect⟩ := ih s' (hguard.2 s' hs')
      exact ⟨hrun, congrArg (view s a ++ ·) hcollect⟩

theorem guarded_append {step : σ → α → Option σ} {ok : σ → α → Prop} {front back : List α} :
    ∀ {s s' : σ}, Guarded step ok s front → run step s front = some s' →
      Guarded step ok s' back → Guarded step ok s (front ++ back) := by
  induction front with
  | nil =>
    intro s s' _ hrun hback
    cases Option.some.inj hrun
    exact hback
  | cons a rest ih =>
    intro s s' hfront hrun hback
    obtain ⟨s₁, hs₁, hrest⟩ := run_cons_eq_some step s s' a rest hrun
    refine ⟨hfront.1, ?_⟩
    intro s₂ hs₂
    cases Option.some.inj (hs₁.symm.trans hs₂)
    exact ih (hfront.2 s₁ hs₁) hrest hback

/-- A component of a system takes some steps of its own in each step of the system. -/
def Embeds (step : σ → α → Option σ) (ok : σ → α → Prop) (inv : σ → Prop)
    (step' : τ → β → Option τ) (ok' : τ → β → Prop) (part : σ → τ)
    (own : σ → α → List β) : Prop :=
  ∀ s a s', inv s → ok s a → step s a = some s' →
    Guarded step' ok' (part s) (own s a) ∧ run step' (part s) (own s a) = some (part s')

/-- A run of the system is a run of its component. -/
theorem run_embeds {step : σ → α → Option σ} {ok : σ → α → Prop} {inv : σ → Prop}
    {step' : τ → β → Option τ} {ok' : τ → β → Prop} {part : σ → τ} {own : σ → α → List β}
    (hkeep : Preserves step ok inv) (hembed : Embeds step ok inv step' ok' part own)
    (labels : List α) :
    ∀ s t, inv s → Guarded step ok s labels → run step s labels = some t →
      Guarded step' ok' (part s) (collect step own s labels) ∧
        run step' (part s) (collect step own s labels) = some (part t) := by
  induction labels with
  | nil =>
    intro s t _ _ hrun
    cases Option.some.inj hrun
    exact ⟨trivial, rfl⟩
  | cons a rest ih =>
    intro s t hs hguard hrun
    obtain ⟨s', hs', hrest⟩ := run_cons_eq_some step s t a rest hrun
    obtain ⟨hown, hpart⟩ := hembed s a s' hs hguard.1 hs'
    obtain ⟨hlater, hlast⟩ := ih s' t (hkeep s a s' hs hguard.1 hs') (hguard.2 s' hs') hrest
    rw [collect_cons _ _ rest hs', run_append, hpart]
    exact ⟨guarded_append hown hpart hlater, hlast⟩

/-- A run of one machine is a run of another, where each step is some steps of the other
between related states. -/
theorem run_related {step : σ → α → Option σ} {step' : τ → β → Option τ} {R : σ → τ → Prop}
    {own : σ → α → List β}
    (hstep : ∀ s t a s', R s t → step s a = some s' →
      ∃ t', run step' t (own s a) = some t' ∧ R s' t') (labels : List α) :
    ∀ s t s', R s t → run step s labels = some s' →
      ∃ t', run step' t (collect step own s labels) = some t' ∧ R s' t' := by
  induction labels with
  | nil =>
    intro s t s' hrelated hrun
    cases Option.some.inj hrun
    exact ⟨t, rfl, hrelated⟩
  | cons a rest ih =>
    intro s t s' hrelated hrun
    obtain ⟨s₁, hs₁, hrest⟩ := run_cons_eq_some step s s' a rest hrun
    obtain ⟨t₁, hfirst, hrelated₁⟩ := hstep s t a s₁ hrelated hs₁
    obtain ⟨t', hlater, hend⟩ := ih s₁ t₁ s' hrelated₁ hrest
    refine ⟨t', ?_, hend⟩
    rw [collect_cons _ _ rest hs₁, run_append, hfirst]
    exact hlater

end HomeSecurityBox.Transitions
