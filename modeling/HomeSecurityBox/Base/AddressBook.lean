import HomeSecurityBox.Base.Keyed
import HomeSecurityBox.Base.Transitions

/-!
Members that are reached by an address. They announce their addresses over and over;
a book lists each member with the address of its first announcement and is asked in
both directions, for the address of an id and for the member behind an address. What
the answers should be is read off the history of the announcements, newest first.
Two addresses that look alike to the second question have the same view.
-/

namespace HomeSecurityBox.AddressBook

open Keyed Transitions

structure Entry (ι M A : Type*) where
  id : ι
  member : M
  addr : A

structure Book (ι M A : Type*) where
  entries : List (Entry ι M A) := []
  history : List (M × A) := []

variable {ι M A B : Type*}

/-- The address that a member announced last. -/
def latest [DecidableEq M] (history : List (M × A)) (m : M) : Option A :=
  (history.find? fun said => said.1 == m).map Prod.snd

def Book.listed (b : Book ι M A) : List M := b.entries.map Entry.member

def Book.route [DecidableEq ι] (b : Book ι M A) (id : ι) : Option A :=
  (b.entries.find? fun e => e.id == id).map Entry.addr

def Book.memberAt [DecidableEq B] (view : A → B) (b : Book ι M A) (v : B) : Option M :=
  (b.entries.find? fun e => view e.addr == v).map Entry.member

/-- The listed member that announced the view last, of those whose last announcement it
is. -/
def Book.owner [DecidableEq M] [DecidableEq A] [DecidableEq B] (view : A → B)
    (b : Book ι M A) (v : B) : Option M :=
  (b.history.find? fun said => decide
    (view said.2 = v ∧ latest b.history said.1 = some said.2 ∧ said.1 ∈ b.listed)).map Prod.fst

/-- The first announcement of a member that is not listed enters the book. -/
def Book.announce [DecidableEq M] (b : Book ι M A) (id : ι) (m : M) (a : A) : Book ι M A where
  entries := if m ∈ b.listed then b.entries else b.entries ++ [⟨id, m, a⟩]
  history := (m, a) :: b.history

/-- The book answers what was announced last. -/
structure Book.Current [DecidableEq ι] [DecidableEq M] [DecidableEq A] [DecidableEq B]
    (view : A → B) (b : Book ι M A) : Prop where
  routes : ∀ e ∈ b.entries, b.route e.id = latest b.history e.member
  members : ∀ v, b.memberAt view v = b.owner view v

structure Book.Sound [DecidableEq M] (view : A → B) (b : Book ι M A) : Prop where
  ids : (b.entries.map Entry.id).Nodup
  views : (b.entries.map fun e => view e.addr).Nodup
  addresses : ∀ e ∈ b.entries, latest b.history e.member = some e.addr

/-- A listed member keeps its address; any other has an id and a view that no entry
has. -/
def Book.Fits (view : A → B) (b : Book ι M A) (id : ι) (m : M) (a : A) : Prop :=
  (∀ e ∈ b.entries, e.member = m → e.addr = a) ∧
    (m ∉ b.listed → ∀ e ∈ b.entries, e.id ≠ id ∧ view e.addr ≠ view a)

instance [DecidableEq ι] [DecidableEq M] [DecidableEq A] [DecidableEq B] (view : A → B)
    (b : Book ι M A) (id : ι) (m : M) (a : A) :
    Decidable (b.Fits view id m a) :=
  inferInstanceAs (Decidable (_ ∧ _))

theorem Book.mem_listed {b : Book ι M A} {e : Entry ι M A} (he : e ∈ b.entries) :
    e.member ∈ b.listed :=
  List.mem_map_of_mem he

section Histories

variable [DecidableEq M]

theorem latest_cons_self (history : List (M × A)) (m : M) (a : A) :
    latest ((m, a) :: history) m = some a := by
  simp only [latest, List.find?_cons, beq_self_eq_true, Option.map_some]

theorem latest_cons_other (history : List (M × A)) {m m' : M} (a : A) (h : m ≠ m') :
    latest ((m, a) :: history) m' = latest history m' := by
  simp only [latest, List.find?_cons, beq_eq_false_iff_ne.mpr h]

theorem latest_mem {history : List (M × A)} {m : M} {a : A} (h : latest history m = some a) :
    (m, a) ∈ history := by
  obtain ⟨said, hsaid, rfl⟩ := Option.map_eq_some_iff.mp h
  have hmember := List.find?_some hsaid
  rw [← eq_of_beq hmember]
  exact List.mem_of_find?_eq_some hsaid

namespace Book

variable {view : A → B} {b : Book ι M A}

theorem announce_listed {m : M} (id : ι) (a : A) (h : m ∈ b.listed) :
    (b.announce id m a).entries = b.entries := if_pos h

theorem announce_unlisted {m : M} (id : ι) (a : A) (h : m ∉ b.listed) :
    (b.announce id m a).entries = b.entries ++ [⟨id, m, a⟩] := if_neg h

theorem mem_listed_announce (b : Book ι M A) (id : ι) (m : M) (a : A) :
    m ∈ (b.announce id m a).listed := by
  by_cases hlisted : m ∈ b.listed
  · rw [listed, announce_listed id a hlisted]
    exact hlisted
  · rw [listed, announce_unlisted id a hlisted, List.map_append]
    exact List.mem_append_right _ (List.mem_singleton_self m)

theorem sound_empty : ({} : Book ι M A).Sound view :=
  ⟨List.nodup_nil, List.nodup_nil, fun _ he => absurd he List.not_mem_nil⟩

theorem Sound.route_eq [DecidableEq ι] (hs : b.Sound view) {e : Entry ι M A} (he : e ∈ b.entries) :
    b.route e.id = some e.addr := by
  rw [route, find?_key hs.ids he, Option.map_some]

theorem Sound.memberAt_eq [DecidableEq B] (hs : b.Sound view) {e : Entry ι M A}
    (he : e ∈ b.entries) :
    b.memberAt view (view e.addr) = some e.member := by
  rw [memberAt, find?_key (f := fun e : Entry ι M A => view e.addr) hs.views he, Option.map_some]

/-- Members that leave the book take nothing from the others. -/
theorem Sound.sublist (hs : b.Sound view) {entries : List (Entry ι M A)}
    (h : entries.Sublist b.entries) : ({ b with entries := entries } : Book ι M A).Sound view :=
  ⟨hs.ids.sublist (h.map _), hs.views.sublist (h.map _), fun e he => hs.addresses e (h.subset he)⟩

theorem Sound.announce (hs : b.Sound view) {id : ι} {m : M} {a : A} (hfits : b.Fits view id m a) :
    (b.announce id m a).Sound view := by
  by_cases hlisted : m ∈ b.listed
  · have hentries := announce_listed id a hlisted
    refine ⟨?_, ?_, ?_⟩
    · rw [hentries]
      exact hs.ids
    · rw [hentries]
      exact hs.views
    · intro e he
      rw [hentries] at he
      by_cases hm : m = e.member
      · subst hm
        rw [hfits.1 e he rfl]
        exact latest_cons_self b.history e.member a
      · exact (latest_cons_other b.history a hm).trans (hs.addresses e he)
  · have hentries := announce_unlisted id a hlisted
    have hnew := hfits.2 hlisted
    refine ⟨?_, ?_, ?_⟩
    · rw [hentries]
      exact nodup_map_append hs.ids fun e he => (hnew e he).1
    · rw [hentries]
      exact nodup_map_append hs.views fun e he => (hnew e he).2
    · intro e he
      rw [hentries] at he
      rcases List.mem_append.mp he with hold | hlast
      · have hm : m ≠ e.member := by
          intro hm
          rw [hm] at hlisted
          exact hlisted (mem_listed hold)
        exact (latest_cons_other b.history a hm).trans (hs.addresses e hold)
      · rw [List.mem_singleton.mp hlast]
        exact latest_cons_self b.history m a

variable [DecidableEq A]

/-- What an owner is known by. -/
theorem owner_eq_some [DecidableEq B] {v : B} {m : M} (h : b.owner view v = some m) :
    ∃ a, view a = v ∧ latest b.history m = some a ∧ m ∈ b.listed := by
  obtain ⟨said, hsaid, rfl⟩ := Option.map_eq_some_iff.mp h
  have hspec := List.find?_some hsaid
  exact ⟨said.2, of_decide_eq_true hspec⟩

theorem owner_isSome [DecidableEq B] {v : B} {m : M} {a : A} (hview : view a = v)
    (hlatest : latest b.history m = some a) (hlisted : m ∈ b.listed) :
    ∃ m', b.owner view v = some m' := by
  cases howner : b.owner view v with
  | some m' => exact ⟨m', rfl⟩
  | none =>
    have hnone := List.find?_eq_none.mp (Option.map_eq_none_iff.mp howner) (m, a)
      (latest_mem hlatest)
    exact absurd (decide_eq_true ⟨hview, hlatest, hlisted⟩) hnone

/-- An owner's entry has what it owns, whatever the addresses are compared by. -/
theorem Sound.owner_entry {C : Type*} [DecidableEq C] {view' : A → C} (hs : b.Sound view)
    {v : C} {m : M} (h : b.owner view' v = some m) :
    ∃ e ∈ b.entries, e.member = m ∧ view' e.addr = v := by
  obtain ⟨a, hview, hlatest, hlisted⟩ := owner_eq_some h
  obtain ⟨e, he, rfl⟩ := List.mem_map.mp hlisted
  have haddr : e.addr = a := Option.some.inj ((hs.addresses e he).symm.trans hlatest)
  exact ⟨e, he, rfl, haddr ▸ hview⟩

variable [DecidableEq B]

/-- Who has just announced a view owns it. -/
theorem owner_announce (b : Book ι M A) (id : ι) (m : M) (a : A) :
    (b.announce id m a).owner view (view a) = some m := by
  have hhead : view a = view a ∧ latest (b.announce id m a).history m = some a ∧
      m ∈ (b.announce id m a).listed :=
    ⟨rfl, latest_cons_self b.history m a, mem_listed_announce b id m a⟩
  have hfind : ((b.announce id m a).history.find? fun said => decide
      (view said.2 = view a ∧ latest (b.announce id m a).history said.1 = some said.2 ∧
        said.1 ∈ (b.announce id m a).listed)) = some (m, a) :=
    List.find?_cons_of_pos (decide_eq_true hhead)
  rw [owner, hfind, Option.map_some]

/-- Who has announced an address last is found by its view. -/
theorem Sound.memberAt_of_owner (hs : b.Sound view) {a : A} {m : M}
    (h : b.owner (fun a => a) a = some m) : b.memberAt view (view a) = some m := by
  obtain ⟨e, he, rfl, rfl⟩ := hs.owner_entry h
  exact hs.memberAt_eq he

theorem Sound.current [DecidableEq ι] (hs : b.Sound view) : b.Current view := by
  refine ⟨?_, ?_⟩
  · intro e he
    rw [hs.route_eq he, hs.addresses e he]
  · intro v
    cases howner : b.owner view v with
    | some m =>
      obtain ⟨e, he, rfl, rfl⟩ := hs.owner_entry howner
      exact hs.memberAt_eq he
    | none =>
      have hnobody : (b.entries.find? fun e => view e.addr == v) = none := by
        apply List.find?_eq_none.mpr
        intro e he hview
        obtain ⟨m, hsome⟩ := owner_isSome (eq_of_beq hview) (hs.addresses e he) (mem_listed he)
        rw [howner] at hsome
        contradiction
      rw [memberAt, hnobody, Option.map_none]

variable [DecidableEq ι]

/-- A listed member that has moved is still looked for at its old address. -/
theorem Sound.moved_not_current (hs : b.Sound view) {id : ι} {a : A} {e : Entry ι M A}
    (he : e ∈ b.entries) (hmoved : e.addr ≠ a) : ¬(b.announce id e.member a).Current view := by
  intro hcurrent
  have hentries := announce_listed id a (mem_listed he)
  have hroute := hcurrent.routes e (by rw [hentries]; exact he)
  rw [route, hentries] at hroute
  have hold : some e.addr = some a :=
    ((hs.route_eq he).symm.trans hroute).trans (latest_cons_self b.history e.member a)
  exact hmoved (Option.some.inj hold)

/-- A view that is used again still leads to the entry that had it first. -/
theorem reused_view_not_current {id : ι} {m : M} {a : A} {e : Entry ι M A}
    (hlisted : m ∉ b.listed) (he : e ∈ b.entries) (hview : view e.addr = view a) :
    ¬(b.announce id m a).Current view := by
  intro hcurrent
  have hentries := announce_unlisted id a hlisted
  have hmemberAt : ∃ first ∈ b.entries,
      (b.announce id m a).memberAt view (view a) = some first.member := by
    cases hfind : b.entries.find? fun e => view e.addr == view a with
    | none => exact absurd (beq_iff_eq.mpr hview) (List.find?_eq_none.mp hfind e he)
    | some first =>
      refine ⟨first, List.mem_of_find?_eq_some hfind, ?_⟩
      rw [memberAt, hentries, List.find?_append, hfind, Option.some_or, Option.map_some]
  obtain ⟨first, hfirst, hfound⟩ := hmemberAt
  rw [hcurrent.members, owner_announce] at hfound
  apply hlisted
  rw [Option.some.inj hfound]
  exact mem_listed hfirst

/-- An id that is used again still leads to the entry that had it first. -/
theorem reused_id_not_current {m : M} {a : A} {e : Entry ι M A} (hlisted : m ∉ b.listed)
    (he : e ∈ b.entries) : ¬(b.announce e.id m a).Current view := by
  by_cases hview : ∃ other ∈ b.entries, view other.addr = view a
  · obtain ⟨other, hother, hsame⟩ := hview
    exact reused_view_not_current hlisted hother hsame
  · intro hcurrent
    have hentries := announce_unlisted e.id a hlisted
    have hroute := hcurrent.routes ⟨e.id, m, a⟩ (by
      rw [hentries]
      exact List.mem_append_right _ (List.mem_singleton_self _))
    rw [show latest (b.announce e.id m a).history m = some a from
      latest_cons_self b.history m a, route, hentries, List.find?_append] at hroute
    cases hfind : b.entries.find? fun other => other.id == e.id with
    | none => exact absurd (beq_self_eq_true e.id) (List.find?_eq_none.mp hfind e he)
    | some first =>
      rw [hfind, Option.some_or, Option.map_some] at hroute
      exact hview ⟨first, List.mem_of_find?_eq_some hfind, congrArg view (Option.some.inj hroute)⟩

theorem Sound.announce_current_iff (hs : b.Sound view) {id : ι} {m : M} {a : A} :
    (b.announce id m a).Current view ↔ b.Fits view id m a := by
  constructor
  · intro hcurrent
    refine ⟨?_, ?_⟩
    · rintro e he rfl
      by_contra hmoved
      exact hs.moved_not_current he hmoved hcurrent
    · intro hlisted e he
      refine ⟨?_, ?_⟩
      · rintro rfl
        exact reused_id_not_current hlisted he hcurrent
      · intro hview
        exact reused_view_not_current hlisted he hview hcurrent
  · intro hfits
    exact (hs.announce hfits).current

end Book

/-- A step either announces an entry to the book or takes entries out of it. -/
structure Keeps {σ α : Type*} (step : σ → α → Option σ) (book : σ → Book ι M A)
    (said : σ → α → Option (Entry ι M A)) : Prop where
  announces : ∀ s a s' e, said s a = some e → step s a = some s' →
    book s' = (book s).announce e.id e.member e.addr
  others : ∀ s a s', said s a = none → step s a = some s' →
    (book s').history = (book s).history ∧ (book s').entries.Sublist (book s).entries

/-- What a step announces fits the book. -/
def FitsNext {σ α : Type*} (view : A → B) (book : σ → Book ι M A)
    (said : σ → α → Option (Entry ι M A)) (s : σ) (a : α) : Prop :=
  ∀ e ∈ said s a, (book s).Fits view e.id e.member e.addr

instance {σ α : Type*} [DecidableEq ι] [DecidableEq A] [DecidableEq B] (view : A → B)
    (book : σ → Book ι M A) (said : σ → α → Option (Entry ι M A)) (s : σ) (a : α) :
    Decidable (FitsNext view book said s a) :=
  inferInstanceAs (Decidable (∀ e ∈ said s a, _))

variable [DecidableEq A] [DecidableEq B] [DecidableEq ι]

/-- A property that a sound book has and that makes it current holds in every state of
a run if and only if every announcement fits the book. -/
theorem Keeps.guarded_iff {σ α : Type*} {step : σ → α → Option σ} {book : σ → Book ι M A}
    {said : σ → α → Option (Entry ι M A)} (h : Keeps step book said) {view : A → B}
    {good : σ → Prop} (hgood : ∀ s, (book s).Sound view → good s)
    (hcurrent : ∀ s, good s → (book s).Current view)
    (labels : List α) (s t : σ) (hs : (book s).Sound view) (hrun : run step s labels = some t) :
    Guarded step (FitsNext view book said) s labels ↔ Throughout step good s labels := by
  have hkeep : Preserves step (FitsNext view book said) (fun s => (book s).Sound view) := by
    intro s a s' hsound hfits hstep
    cases hsaid : said s a with
    | some e =>
      rw [h.announces s a s' e hsaid hstep]
      exact hsound.announce (hfits e hsaid)
    | none =>
      obtain ⟨hhistory, hentries⟩ := h.others s a s' hsaid hstep
      have hshrunk := hsound.sublist hentries
      rw [← hhistory] at hshrunk
      exact hshrunk
  have hbreak : ∀ s a s', (book s).Sound view → ¬FitsNext view book said s a →
      step s a = some s' → ¬good s' := by
    intro s a s' hsound hfits hstep hall
    apply hfits
    intro e hsaid
    have hnext := hcurrent s' hall
    rw [h.announces s a s' e hsaid hstep] at hnext
    exact hsound.announce_current_iff.mp hnext
  exact guarded_iff_throughout hgood hkeep hbreak labels s t hs hrun

end Histories

end HomeSecurityBox.AddressBook
