import HomeSecurityBox.Base.Simulation

/-!
What a run holds back. A step takes items off the front of what is held and adds
items at its end; over a whole run the items taken are those held first and those
added, in this order, up to what is still held.
-/

namespace HomeSecurityBox.Transitions

variable {σ α ι κ : Type*}

/-- Every step takes from the front and adds behind. -/
def Flows (step : σ → α → Option σ) (ok : σ → α → Prop) (inv : σ → Prop) (held : σ → List ι)
    (taken added : σ → α → List ι) : Prop :=
  ∀ s a s', inv s → ok s a → step s a = some s' → taken s a ++ held s' = held s ++ added s a

theorem run_flows {step : σ → α → Option σ} {ok : σ → α → Prop} {inv : σ → Prop}
    {held : σ → List ι} {taken added : σ → α → List ι} (hkeep : Preserves step ok inv)
    (hflow : Flows step ok inv held taken added) (labels : List α) :
    ∀ s t, inv s → Guarded step ok s labels → run step s labels = some t →
      collect step taken s labels ++ held t = held s ++ collect step added s labels := by
  induction labels with
  | nil =>
    intro s t _ _ hrun
    cases Option.some.inj hrun
    simp only [collect, List.nil_append, List.append_nil]
  | cons a rest ih =>
    intro s t hs hguard hrun
    obtain ⟨s', hs', hrest⟩ := run_cons_eq_some step s t a rest hrun
    have hfirst := hflow s a s' hs hguard.1 hs'
    have hlater := ih s' t (hkeep s a s' hs hguard.1 hs') (hguard.2 s' hs') hrest
    rw [collect_cons _ _ rest hs', collect_cons _ _ rest hs']
    calc taken s a ++ collect step taken s' rest ++ held t
        = taken s a ++ (held s' ++ collect step added s' rest) := by
          rw [List.append_assoc, hlater]
      _ = held s ++ (added s a ++ collect step added s' rest) := by
          rw [← List.append_assoc, hfirst, List.append_assoc]

/-- Where items are dropped on the way, what is held is still the latest of what came in. -/
theorem run_holds_latest {step : σ → α → Option σ} {ok : σ → α → Prop} {inv : σ → Prop}
    {held : σ → List ι} {added : σ → α → List ι} (hkeep : Preserves step ok inv)
    (hstep : ∀ s a s', inv s → ok s a → step s a = some s' → held s' <:+ held s ++ added s a)
    (labels : List α) :
    ∀ s t, inv s → Guarded step ok s labels → run step s labels = some t →
      held t <:+ held s ++ collect step added s labels := by
  induction labels with
  | nil =>
    intro s t _ _ hrun
    cases Option.some.inj hrun
    exact ⟨[], (List.append_nil _).symm⟩
  | cons a rest ih =>
    intro s t hs hguard hrun
    obtain ⟨s', hs', hrest⟩ := run_cons_eq_some step s t a rest hrun
    obtain ⟨front, hfront⟩ := hstep s a s' hs hguard.1 hs'
    have hlater := ih s' t (hkeep s a s' hs hguard.1 hs') (hguard.2 s' hs') hrest
    rw [collect_cons _ _ rest hs', ← List.append_assoc, ← hfront, List.append_assoc]
    exact hlater.trans (List.suffix_append front _)

/-- An item has its turn when all those in front of it are taken. -/
theorem run_turn {step : σ → α → Option σ} {ok : σ → α → Prop} {inv : σ → Prop}
    {held : σ → List ι} {taken added : σ → α → List ι} (hkeep : Preserves step ok inv)
    (hflow : Flows step ok inv held taken added) {labels : List α} {s t : σ} (hs : inv s)
    (hguard : Guarded step ok s labels) (hrun : run step s labels = some t) {n : ℕ} {x : ι}
    (hx : (held s ++ collect step added s labels)[n]? = some x)
    (hn : (collect step taken s labels).length = n) : (held t).head? = some x := by
  rw [← run_flows hkeep hflow labels s t hs hguard hrun, ← hn,
    List.getElem?_append_right (Nat.le_refl _), Nat.sub_self] at hx
  rw [List.head?_eq_getElem?, hx]

theorem preserves_true (step : σ → α → Option σ) (ok : σ → α → Prop) :
    Preserves step ok fun _ => True := fun _ _ _ _ _ _ => trivial

/-- A step shows something once: before it nothing is shown and behind it nothing is. -/
structure ShowsOnce (step : σ → α → Option σ) (ok : σ → α → Prop) (view : σ → α → List ι)
    (before after : σ → Prop) (good : ι → Prop) : Prop where
  ready : ∀ s a s', before s → ok s a → step s a = some s' →
    (before s' ∧ view s a = []) ∨ (after s' ∧ ∃ x, view s a = [x] ∧ good x)
  spent : ∀ s a s', after s → ok s a → step s a = some s' → after s' ∧ view s a = []

theorem ShowsOnce.run_spent {step : σ → α → Option σ} {ok : σ → α → Prop}
    {view : σ → α → List ι} {before after : σ → Prop} {good : ι → Prop}
    (h : ShowsOnce step ok view before after good) (labels : List α) :
    ∀ s t, after s → Guarded step ok s labels → run step s labels = some t →
      collect step view s labels = [] := by
  induction labels with
  | nil => exact fun _ _ _ _ _ => rfl
  | cons a rest ih =>
    intro s t hs hguard hrun
    obtain ⟨s', hs', hrest⟩ := run_cons_eq_some step s t a rest hrun
    obtain ⟨hafter, hview⟩ := h.spent s a s' hs hguard.1 hs'
    rw [collect_cons _ _ rest hs', hview, List.nil_append]
    exact ih s' t hafter (hguard.2 s' hs') hrest

/-- A run that ends behind the step has shown its item and no other. -/
theorem ShowsOnce.run {step : σ → α → Option σ} {ok : σ → α → Prop} {view : σ → α → List ι}
    {before after : σ → Prop} {good : ι → Prop} (h : ShowsOnce step ok view before after good)
    (labels : List α) :
    ∀ s t, before s → Guarded step ok s labels → Transitions.run step s labels = some t →
      ¬before t → ∃ x, collect step view s labels = [x] ∧ good x := by
  induction labels with
  | nil =>
    intro s t hs _ hrun hend
    cases Option.some.inj hrun
    exact absurd hs hend
  | cons a rest ih =>
    intro s t hs hguard hrun hend
    obtain ⟨s', hs', hrest⟩ := run_cons_eq_some step s t a rest hrun
    rw [collect_cons _ _ rest hs']
    rcases h.ready s a s' hs hguard.1 hs' with ⟨hbefore, hview⟩ | ⟨hafter, x, hview, hgood⟩
    · rw [hview, List.nil_append]
      exact ih s' t hbefore (hguard.2 s' hs') hrest hend
    · refine ⟨x, ?_, hgood⟩
      rw [hview, h.run_spent rest s' t hafter (hguard.2 s' hs') hrest, List.append_nil]

/-- Items are selected one by one, so a selection of a run is the run's selection. -/
theorem collect_filterMap (step : σ → α → Option σ) (view : σ → α → List ι) (f : ι → Option κ)
    (s : σ) (labels : List α) :
    (collect step view s labels).filterMap f =
      collect step (fun s a => (view s a).filterMap f) s labels := by
  induction labels generalizing s with
  | nil => rfl
  | cons a rest ih =>
    simp only [collect, List.filterMap_append]
    cases step s a with
    | none => rfl
    | some s' => exact congrArg _ (ih s')

theorem collect_filter (step : σ → α → Option σ) (view : σ → α → List ι) (p : ι → Bool)
    (s : σ) (labels : List α) :
    (collect step view s labels).filter p =
      collect step (fun s a => (view s a).filter p) s labels := by
  simpa only [List.filterMap_eq_filter] using
    collect_filterMap step view (Option.guard p) s labels

end HomeSecurityBox.Transitions
