import HomeSecurityBox.Base.Flow

/-!
The last word. Reports carry the new value of something; who hears them in order knows the
value by the last one, also if some of the reports that he hears are older than what he
started from, and also if they come mixed with the reports of others.
-/

namespace HomeSecurityBox.Transitions

variable {σ α β ι κ : Type*}

/-- The value after some reports. -/
def lastWord (value : β) (reports : List β) : β := reports.getLast?.getD value

@[simp] theorem lastWord_nil (value : β) : lastWord value [] = value := rfl

@[simp] theorem lastWord_singleton (value report : β) : lastWord value [report] = report := rfl

theorem lastWord_append (value : β) (front back : List β) :
    lastWord value (front ++ back) = lastWord (lastWord value front) back := by
  cases back with
  | nil => rw [List.append_nil, lastWord_nil]
  | cons report rest =>
    simp only [lastWord, List.getLast?_append_of_ne_nil front (List.cons_ne_nil report rest),
      List.getLast?_cons, Option.getD_some]

/-- Reports that are heard again from some point on lead to the same value. -/
theorem lastWord_stale {value : β} {earlier stale : List β} (h : stale <:+ earlier)
    (later : List β) :
    lastWord (lastWord value earlier) (stale ++ later) =
      lastWord (lastWord value earlier) later := by
  obtain ⟨front, rfl⟩ := h
  have hagain : lastWord (lastWord value (front ++ stale)) stale =
      lastWord value (front ++ stale) := by
    cases hlast : stale.getLast? with
    | none => rw [List.getLast?_eq_none_iff.mp hlast, lastWord_nil]
    | some report =>
      simp only [lastWord, List.getLast?_append, hlast, Option.some_or, Option.getD_some]
  rw [lastWord_append _ stale, hagain]

/-- Every step reports the value that it leads to. -/
def Reports (step : σ → α → Option σ) (ok : σ → α → Prop) (inv : σ → Prop) (value : σ → β)
    (reports : σ → α → List β) : Prop :=
  ∀ s a s', inv s → ok s a → step s a = some s' → value s' = lastWord (value s) (reports s a)

theorem run_reports {step : σ → α → Option σ} {ok : σ → α → Prop} {inv : σ → Prop}
    {value : σ → β} {reports : σ → α → List β} (hkeep : Preserves step ok inv)
    (hreports : Reports step ok inv value reports) (labels : List α) :
    ∀ s t, inv s → Guarded step ok s labels → run step s labels = some t →
      value t = lastWord (value s) (collect step reports s labels) := by
  induction labels with
  | nil =>
    intro s t _ _ hrun
    cases Option.some.inj hrun
    rfl
  | cons a rest ih =>
    intro s t hs hguard hrun
    obtain ⟨s', hs', hrest⟩ := run_cons_eq_some step s t a rest hrun
    rw [collect_cons _ _ rest hs', lastWord_append, ← hreports s a s' hs hguard.1 hs']
    exact ih s' t (hkeep s a s' hs hguard.1 hs') (hguard.2 s' hs') hrest

/-- Of the mixed reports of several sources those on one topic are in the order of their
source, if no other source has any. -/
theorem filterMap_one_source [DecidableEq κ] {mixed : List (κ × ι)} {tells : ι → Option β}
    {source : κ} (hothers : ∀ other, other ≠ source →
      (mixed.filterMap fun item => if item.1 = other then some item.2 else none).filterMap tells =
        []) :
    (mixed.map Prod.snd).filterMap tells =
      (mixed.filterMap fun item => if item.1 = source then some item.2 else none).filterMap
        tells := by
  rw [List.filterMap_filterMap, List.filterMap_map]
  apply List.filterMap_congr
  rintro ⟨k, item⟩ hitem
  by_cases hsource : k = source
  · simp only [hsource, if_true, Option.bind_some, Function.comp_apply]
  · simp only [if_neg hsource, Option.bind_none, Function.comp_apply]
    have hnone := hothers k hsource
    rw [List.filterMap_filterMap, List.filterMap_eq_nil_iff] at hnone
    simpa only [if_true, Option.bind_some] using hnone (k, item) hitem

end HomeSecurityBox.Transitions
