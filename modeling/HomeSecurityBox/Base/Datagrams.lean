import HomeSecurityBox.Base.Flow
import Mathlib.Data.List.Perm.Basic

/-!
Parties that exchange datagrams. A party reacts to a datagram with what it sends and
also acts by itself; the network delivers what is in flight in any order, loses it and
copies it, and a stranger puts datagrams with any source into it. What is in flight
keeps a property that every reaction hands on, and where a reaction sends less weight
than it takes, what the parties make of the datagrams of others is bounded.
-/

namespace HomeSecurityBox.Datagrams

open Transitions

variable {A P M E : Type*}

structure Datagram (A M : Type*) where
  src : A
  dst : A
  body : M
  deriving DecidableEq, Repr

/-- The next state of a party and what it sends, each with its destination. -/
structure Behaviour (A P M E : Type*) where
  receive : P → A → M → P × List (A × M)
  act : P → E → Option (P × List (A × M))

structure Network (A P M : Type*) where
  party : A → P
  flight : List (Datagram A M)

inductive NetStep (A M E : Type*)
  | act (addr : A) (event : E)
  | forge (d : Datagram A M)
  | deliver (i : ℕ)
  | lose (i : ℕ)
  | copy (i : ℕ)
  deriving DecidableEq, Repr

/-- The network writes the source. -/
def sent (src : A) (out : List (A × M)) : List (Datagram A M) :=
  out.map fun m => ⟨src, m.1, m.2⟩

theorem mem_sent {src : A} {out : List (A × M)} {d : Datagram A M} :
    d ∈ sent src out ↔ ∃ m ∈ out, d = ⟨src, m.1, m.2⟩ := by
  unfold sent
  rw [List.mem_map]
  exact ⟨fun ⟨m, hm, hd⟩ => ⟨m, hm, hd.symm⟩, fun ⟨m, hm, hd⟩ => ⟨m, hm, hd.symm⟩⟩

variable [DecidableEq A] (b : Behaviour A P M E)

def netStep (s : Network A P M) : NetStep A M E → Option (Network A P M)
  | .act addr event => (b.act (s.party addr) event).map fun next =>
      ⟨Function.update s.party addr next.1, s.flight ++ sent addr next.2⟩
  | .forge d => some ⟨s.party, s.flight ++ [d]⟩
  | .deliver i => s.flight[i]?.map fun d =>
      let next := b.receive (s.party d.dst) d.src d.body
      ⟨Function.update s.party d.dst next.1, s.flight.eraseIdx i ++ sent d.dst next.2⟩
  | .lose i => s.flight[i]?.map fun _ => ⟨s.party, s.flight.eraseIdx i⟩
  | .copy i => s.flight[i]?.map fun d => ⟨s.party, s.flight ++ [d]⟩

/-- What each step asks for and what it does. -/
inductive NetEffect (s : Network A P M) : NetStep A M E → Network A P M → Prop
  | acted {addr : A} {event : E} {next : P × List (A × M)}
      (hact : b.act (s.party addr) event = some next) :
      NetEffect s (.act addr event)
        ⟨Function.update s.party addr next.1, s.flight ++ sent addr next.2⟩
  | forged (d : Datagram A M) : NetEffect s (.forge d) ⟨s.party, s.flight ++ [d]⟩
  | delivered {i : ℕ} {d : Datagram A M} (hflight : s.flight[i]? = some d) :
      NetEffect s (.deliver i)
        ⟨Function.update s.party d.dst (b.receive (s.party d.dst) d.src d.body).1,
          s.flight.eraseIdx i ++ sent d.dst (b.receive (s.party d.dst) d.src d.body).2⟩
  | lost {i : ℕ} {d : Datagram A M} (hflight : s.flight[i]? = some d) :
      NetEffect s (.lose i) ⟨s.party, s.flight.eraseIdx i⟩
  | copied {i : ℕ} {d : Datagram A M} (hflight : s.flight[i]? = some d) :
      NetEffect s (.copy i) ⟨s.party, s.flight ++ [d]⟩

variable {b}

theorem netStep_effect {s s' : Network A P M} {a : NetStep A M E}
    (h : netStep b s a = some s') : NetEffect b s a s' := by
  cases a with
  | act addr event =>
    obtain ⟨next, hact, rfl⟩ := Option.map_eq_some_iff.mp h
    exact .acted hact
  | forge d =>
    cases Option.some.inj h
    exact .forged d
  | deliver i =>
    obtain ⟨d, hflight, rfl⟩ := Option.map_eq_some_iff.mp h
    exact .delivered hflight
  | lose i =>
    obtain ⟨d, hflight, rfl⟩ := Option.map_eq_some_iff.mp h
    exact .lost hflight
  | copy i =>
    obtain ⟨d, hflight, rfl⟩ := Option.map_eq_some_iff.mp h
    exact .copied hflight

/-- Reactions and acts keep `inv` of their party and send what is `good`. -/
structure HandsOn (b : Behaviour A P M E) (inv : A → P → Prop) (good : Datagram A M → Prop) :
    Prop where
  receive : ∀ p d, inv d.dst p → good d → inv d.dst (b.receive p d.src d.body).1 ∧
    ∀ d' ∈ sent d.dst (b.receive p d.src d.body).2, good d'
  act : ∀ a p event next, inv a p → b.act p event = some next →
    inv a next.1 ∧ ∀ d ∈ sent a next.2, good d

/-- All parties and all datagrams of a network. -/
structure AllGood (inv : A → P → Prop) (good : Datagram A M → Prop) (s : Network A P M) :
    Prop where
  party : ∀ a, inv a (s.party a)
  flight : ∀ d ∈ s.flight, good d

/-- A stranger forges only what is good. -/
def ForgesGood (good : Datagram A M → Prop) (_ : Network A P M) : NetStep A M E → Prop
  | .forge d => good d
  | _ => True

omit [DecidableEq A] in
instance (good : Datagram A M → Prop) [DecidablePred good] (s : Network A P M) :
    ∀ a : NetStep A M E, Decidable (ForgesGood good s a)
  | .forge d => inferInstanceAs (Decidable (good d))
  | .act _ _ | .deliver _ | .lose _ | .copy _ => inferInstanceAs (Decidable True)

theorem update_inv {inv : A → P → Prop} {party : A → P} (hparty : ∀ a, inv a (party a)) {a : A}
    {p : P} (hp : inv a p) (a' : A) : inv a' (Function.update party a p a') := by
  by_cases h : a' = a
  · subst a'
    rw [Function.update_self]
    exact hp
  · rw [Function.update_of_ne h]
    exact hparty a'

theorem HandsOn.preserves {inv : A → P → Prop} {good : Datagram A M → Prop}
    (h : HandsOn b inv good) : Preserves (netStep b) (ForgesGood good) (AllGood inv good) := by
  intro s a s' hs hok hstep
  have hmore : ∀ {flight more : List (Datagram A M)}, flight ⊆ s.flight →
      (∀ d ∈ more, good d) → ∀ d ∈ flight ++ more, good d := by
    intro flight more hsub hnew d hd
    rcases List.mem_append.mp hd with hold | hadd
    · exact hs.flight d (hsub hold)
    · exact hnew d hadd
  cases netStep_effect hstep with
  | acted hact =>
    obtain ⟨hnext, hsent⟩ := h.act _ _ _ _ (hs.party _) hact
    exact ⟨update_inv hs.party hnext, hmore (List.Subset.refl _) hsent⟩
  | forged d =>
    refine ⟨hs.party, hmore (List.Subset.refl _) ?_⟩
    intro d' hd'
    rw [List.mem_singleton.mp hd']
    exact hok
  | delivered hflight =>
    obtain ⟨hnext, hsent⟩ :=
      h.receive _ _ (hs.party _) (hs.flight _ (List.mem_of_getElem? hflight))
    exact ⟨update_inv hs.party hnext, hmore List.eraseIdx_subset hsent⟩
  | lost hflight => exact ⟨hs.party, fun d hd => hs.flight d (List.eraseIdx_subset hd)⟩
  | copied hflight =>
    refine ⟨hs.party, hmore (List.Subset.refl _) ?_⟩
    intro d' hd'
    rw [List.mem_singleton.mp hd']
    exact hs.flight _ (List.mem_of_getElem? hflight)

/-- No token is lost, and the party does not end its wait by itself. -/
def Patient (a : A) (quits : E → Prop) (token : Datagram A M → Prop) (s : Network A P M) :
    NetStep A M E → Prop
  | .act addr event => addr = a → ¬quits event
  | .lose i => ∀ d ∈ s.flight[i]?, ¬token d
  | _ => True

instance (a : A) (quits : E → Prop) [DecidablePred quits] (token : Datagram A M → Prop)
    [DecidablePred token] (s : Network A P M) :
    ∀ step : NetStep A M E, Decidable (Patient a quits token s step)
  | .act addr event => inferInstanceAs (Decidable (addr = a → ¬quits event))
  | .lose i => inferInstanceAs (Decidable (∀ d ∈ s.flight[i]?, ¬token d))
  | .forge _ | .deliver _ | .copy _ => inferInstanceAs (Decidable True)

/-- Where the party of an address waits, a token is in flight: who receives a token sends
one again or is the party that it was owed to, and the wait is then over. -/
structure Owes (b : Behaviour A P M E) (inv : A → P → Prop) (a : A) (quits : E → Prop)
    (waits : P → Prop) (token : Datagram A M → Prop) : Prop where
  receive : ∀ p d, inv d.dst p → token d →
    (∃ d' ∈ sent d.dst (b.receive p d.src d.body).2, token d') ∨
      (d.dst = a ∧ ¬waits (b.receive p d.src d.body).1)
  stays : ∀ p src body, inv a p → waits (b.receive p src body).1 → waits p
  act : ∀ p event next, inv a p → ¬quits event → b.act p event = some next → waits next.1 →
    waits p ∨ ∃ d ∈ sent a next.2, token d

/-- The wait of the party is backed by a token. -/
def Backed (a : A) (waits : P → Prop) (token : Datagram A M → Prop) (s : Network A P M) : Prop :=
  waits (s.party a) → ∃ d ∈ s.flight, token d

omit [DecidableEq A] in
theorem mem_or_mem_eraseIdx {flight : List (Datagram A M)} {i : ℕ} {d d' : Datagram A M}
    (hi : flight[i]? = some d) (hd' : d' ∈ flight) : d' = d ∨ d' ∈ flight.eraseIdx i := by
  obtain ⟨hlt, rfl⟩ := List.getElem?_eq_some_iff.mp hi
  exact List.mem_cons.mp ((List.getElem_cons_eraseIdx_perm hlt).mem_iff.mpr hd')

theorem Owes.backed {inv : A → P → Prop} {a : A} {quits : E → Prop} {waits : P → Prop}
    {token : Datagram A M → Prop} (h : Owes b inv a quits waits token) {s s' : Network A P M}
    {step : NetStep A M E} (hinv : ∀ a, inv a (s.party a)) (hs : Backed a waits token s)
    (hok : Patient a quits token s step) (hstep : netStep b s step = some s') :
    Backed a waits token s' := by
  intro hwaits
  cases netStep_effect hstep with
  | @acted addr event next hact =>
    by_cases haddr : addr = a
    · subst addr
      simp only [Function.update_self] at hwaits
      rcases h.act _ _ _ (hinv a) (hok rfl) hact hwaits with hold | ⟨d, hd, htoken⟩
      · obtain ⟨d, hd, htoken⟩ := hs hold
        exact ⟨d, List.mem_append_left _ hd, htoken⟩
      · exact ⟨d, List.mem_append_right _ hd, htoken⟩
    · simp only [Function.update_of_ne (Ne.symm haddr)] at hwaits
      obtain ⟨d, hd, htoken⟩ := hs hwaits
      exact ⟨d, List.mem_append_left _ hd, htoken⟩
  | forged d =>
    obtain ⟨d', hd', htoken⟩ := hs hwaits
    exact ⟨d', List.mem_append_left _ hd', htoken⟩
  | @delivered i d hflight =>
    have hold : waits (s.party a) := by
      by_cases hdst : a = d.dst
      · subst hdst
        simp only [Function.update_self] at hwaits
        exact h.stays _ _ _ (hinv _) hwaits
      · simpa only [Function.update_of_ne hdst] using hwaits
    obtain ⟨d', hd', htoken⟩ := hs hold
    rcases mem_or_mem_eraseIdx hflight hd' with rfl | hleft
    · rcases h.receive _ d' (hinv _) htoken with ⟨again, hagain, hnew⟩ | ⟨hdst, hover⟩
      · exact ⟨again, List.mem_append_right _ hagain, hnew⟩
      · subst hdst
        simp only [Function.update_self] at hwaits
        exact absurd hwaits hover
    · exact ⟨d', List.mem_append_left _ hleft, htoken⟩
  | @lost i d hflight =>
    obtain ⟨d', hd', htoken⟩ := hs hwaits
    rcases mem_or_mem_eraseIdx hflight hd' with rfl | hleft
    · exact absurd htoken (hok d' hflight)
    · exact ⟨d', hleft, htoken⟩
  | copied hflight =>
    obtain ⟨d', hd', htoken⟩ := hs hwaits
    exact ⟨d', List.mem_append_left _ hd', htoken⟩

theorem HandsOn.run_backed {inv : A → P → Prop} {good : Datagram A M → Prop} {a : A}
    {quits : E → Prop} {waits : P → Prop} {token : Datagram A M → Prop}
    (h : HandsOn b inv good) (howes : Owes b inv a quits waits token)
    {labels : List (NetStep A M E)} {s t : Network A P M} (hs : AllGood inv good s)
    (hbacked : Backed a waits token s) (hforge : Guarded (netStep b) (ForgesGood good) s labels)
    (hpatient : Guarded (netStep b) (Patient a quits token) s labels)
    (hrun : run (netStep b) s labels = some t) :
    AllGood inv good t ∧ Backed a waits token t := by
  have hkeep : Preserves (netStep b)
      (fun s step => ForgesGood good s step ∧ Patient a quits token s step)
      (fun s => AllGood inv good s ∧ Backed a waits token s) := by
    intro s step s' hs hok hstep
    exact ⟨h.preserves s step s' hs.1 hok.1 hstep, howes.backed hs.1.party hs.2 hok.2 hstep⟩
  exact run_invariant_guarded hkeep labels s t ⟨hs, hbacked⟩ (hforge.and hpatient) hrun

/-- What the others and the copying network put into flight. -/
def added (b : Behaviour A P M E) (s : Network A P M) : NetStep A M E → List (Datagram A M)
  | .act addr event => (b.act (s.party addr) event).elim [] fun next => sent addr next.2
  | .forge d => [d]
  | .copy i => s.flight[i]?.toList
  | .deliver _ | .lose _ => []

def NetStep.delivers : NetStep A M E → Bool
  | .deliver _ => true
  | _ => false

def weight (w : Datagram A M → ℕ) : List (Datagram A M) → ℕ
  | [] => 0
  | d :: rest => w d + weight w rest

omit [DecidableEq A] in
@[simp] theorem weight_append (w : Datagram A M → ℕ) (ds ds' : List (Datagram A M)) :
    weight w (ds ++ ds') = weight w ds + weight w ds' := by
  induction ds with
  | nil => simp only [List.nil_append, weight, Nat.zero_add]
  | cons d rest ih => simp only [List.cons_append, weight, ih, Nat.add_assoc]

omit [DecidableEq A] in
theorem weight_perm (w : Datagram A M → ℕ) {ds ds' : List (Datagram A M)} (h : ds.Perm ds') :
    weight w ds = weight w ds' := by
  induction h with
  | nil => rfl
  | cons d _ ih => simp only [weight, ih]
  | swap d d' rest =>
    simp only [weight]
    omega
  | trans _ _ ih ih' => exact ih.trans ih'

omit [DecidableEq A] in
theorem weight_eraseIdx (w : Datagram A M → ℕ) {flight : List (Datagram A M)} {i : ℕ}
    {d : Datagram A M} (hi : flight[i]? = some d) :
    w d + weight w (flight.eraseIdx i) = weight w flight := by
  obtain ⟨hlt, rfl⟩ := List.getElem?_eq_some_iff.mp hi
  exact weight_perm w (List.getElem_cons_eraseIdx_perm hlt)

omit [DecidableEq A] in
theorem weight_le {w : Datagram A M → ℕ} {n : ℕ} (h : ∀ d, w d ≤ n) (ds : List (Datagram A M)) :
    weight w ds ≤ n * ds.length := by
  induction ds with
  | nil => exact Nat.zero_le _
  | cons d rest ih =>
    have hfirst := h d
    simp only [weight, List.length_cons, Nat.mul_succ]
    omega

omit [DecidableEq A] in
theorem length_le_weight {w : Datagram A M → ℕ} (h : ∀ d, 0 < w d) (ds : List (Datagram A M)) :
    ds.length ≤ weight w ds := by
  induction ds with
  | nil => exact Nat.le_refl 0
  | cons d rest ih =>
    have hfirst := h d
    simp only [weight, List.length_cons]
    omega

/-- A reaction sends less than it takes. -/
def Spends (b : Behaviour A P M E) (w : Datagram A M → ℕ) : Prop :=
  ∀ p d, weight w (sent d.dst (b.receive p d.src d.body).2) < w d

theorem Spends.step {w : Datagram A M → ℕ} (h : Spends b w) {s s' : Network A P M}
    {a : NetStep A M E} (hstep : netStep b s a = some s') :
    a.delivers.toNat + weight w s'.flight ≤ weight w s.flight + weight w (added b s a) := by
  cases netStep_effect hstep with
  | acted hact =>
    simp only [NetStep.delivers, Bool.toNat_false, weight_append, added, hact, Option.elim_some]
    omega
  | forged d =>
    simp only [NetStep.delivers, Bool.toNat_false, weight_append, added]
    omega
  | @delivered i d hflight =>
    have hspends := h (s.party d.dst) d
    have hrest := weight_eraseIdx w hflight
    simp only [NetStep.delivers, Bool.toNat_true, weight_append, added]
    omega
  | lost hflight =>
    have hrest := weight_eraseIdx w hflight
    simp only [NetStep.delivers, Bool.toNat_false, added]
    omega
  | copied hflight =>
    simp only [NetStep.delivers, Bool.toNat_false, weight_append, added, hflight,
      Option.toList_some]
    omega

/-- The budget of a run: deliveries and what is left are paid by what was there and what
was added. -/
theorem Spends.run {w : Datagram A M → ℕ} (h : Spends b w) (labels : List (NetStep A M E)) :
    ∀ s t, Transitions.run (netStep b) s labels = some t →
      labels.countP NetStep.delivers + weight w t.flight ≤
        weight w s.flight + weight w (collect (netStep b) (added b) s labels) := by
  induction labels with
  | nil =>
    intro s t hrun
    cases Option.some.inj hrun
    simp only [List.countP_nil, collect, weight, Nat.zero_add, Nat.add_zero, Nat.le_refl]
  | cons a rest ih =>
    intro s t hrun
    obtain ⟨s', hs', hrest⟩ := run_cons_eq_some _ s t a rest hrun
    have hfirst := h.step hs'
    have hlater := ih s' t hrest
    have hcount : (a :: rest).countP NetStep.delivers =
        rest.countP NetStep.delivers + a.delivers.toNat := by
      rw [List.countP_cons]
      cases a.delivers <;> rfl
    rw [collect_cons _ _ rest hs', weight_append, hcount]
    omega

end HomeSecurityBox.Datagrams
