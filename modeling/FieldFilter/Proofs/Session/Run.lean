import Mathlib.Tactic.SplitIfs
import FieldFilter.Proofs.Options.Found
import FieldFilter.Proofs.Session.Operations

/-!
# FieldFilter.Proofs.Session.Run — whatever may happen to a session

`Traffic.run` lets any events happen to a session in any order, succeeding or refused, with any number of
lookups under way.  `Later s s'` says what holds between a session and each one after it, whatever the event
between them (`Traffic.later_of_step`): no resolver is lost, and none of them counts backwards.
-/

namespace FieldFilter.Session

/-- What can happen to a session. -/
inductive Event where
  | chooseField (text : LooseText)
  | chooseOperator (operator : LooseText)
  | commit (value : LooseText)
  | cancel
  | add (field operator value : LooseText)
  | removeChip (index : Int)
  | clear
  | subscribe (name : LooseText)
  | suggestions (text : LooseText)
  | openResolver (key : LooseText)
  | startLookup (query : LooseText)
  /-- The lookup with this number, counted from 0 in the order of the starts, comes back. -/
  | finishLookup (task : Nat)

/-- What a run tells about operators and lookups, as it happens. -/
inductive Happening where
  /-- An operator was chosen for the field. -/
  | choice (key : LooseText)
  /-- The lookup with this number was begun for the field. -/
  | request (task : Nat) (key : LooseText)
  /-- The lookup with this number came back with these options. -/
  | answer (task : Nat) (options : List LooseText)

/-- A session, its lookups by number (those that have come back are blank), and what has happened so far. -/
structure Traffic where
  session : Session
  lookups : List (Option (LooseText × Ticket)) := []
  log : List Happening := []

/-- What a lookup for the options of a field comes back with. -/
def outcome (s : Session) (answer : LookupOutcome) (key query : LooseText) : LookupOutcome :=
  match s.registry.get? key with
  | some f => f.outcome answer query
  | none => answer

namespace Traffic

/-- A session to which nothing has happened. -/
def fresh (registry : Registry) (listeners : List LooseText) : Traffic :=
  { session := { registry, listeners } }

def withSession (t : Traffic) (s : Session) : Traffic := { t with session := s }

/-- One event, where `answer task` is what the lookup with that number comes back with.  No lookup comes back
before it is begun, or twice, and none that is stopped brings options.  Listeners react as given. -/
def step (answer : Nat → LookupOutcome) (t : Traffic) (e : Event) (reactions : List Listening := []) :
    Option Traffic :=
  match e with
  | .chooseField text => some (t.withSession (t.session.chooseField text).session)
  | .chooseOperator operator =>
    let reply := t.session.chooseOperator operator
    match reply.answer, t.session.field with
    | .ok (), some key => some { t with session := reply.session, log := t.log ++ [.choice key] }
    | _, _ => some (t.withSession reply.session)
  | .commit value => some (t.withSession (t.session.commit value reactions).session)
  | .cancel => some (t.withSession t.session.cancel)
  | .add field operator value => some (t.withSession (t.session.add field operator value reactions).session)
  | .removeChip index => some (t.withSession (t.session.removeChip index reactions).session)
  | .clear => some (t.withSession (t.session.clear reactions).session)
  | .subscribe name => some (t.withSession (t.session.subscribe name))
  | .suggestions text => some (t.withSession (t.session.suggestions text).session)
  | .openResolver key =>
    match t.session.resolver key with
    | .ok (_, s) => some (t.withSession s)
    | .error _ => some t
  | .startLookup query =>
    let reply := t.session.startLookup query
    match reply.answer with
    | .ok (key, ticket) =>
      some ⟨reply.session, t.lookups ++ [some (key, ticket)], t.log ++ [.request t.lookups.length key]⟩
    | .error _ => some (t.withSession reply.session)
  | .finishLookup task =>
    match t.lookups[task]? with
    | some (some (key, ticket)) =>
      let o := t.session.outcome (answer task) key ticket.query
      some ⟨(t.session.finishLookup key ticket o).session, t.lookups.set task none,
        t.log ++ (o.options?.map (.answer task)).toList⟩
    | _ => none

/-- The events happen one after the other, and all listeners just come back. -/
def run (answer : Nat → LookupOutcome) (t : Traffic) (es : List Event) : Option Traffic :=
  es.foldlM (fun t e => t.step answer e) t

/-- What every step keeps holds after every run. -/
theorem run_induction {answer : Nat → LookupOutcome} {P : Traffic → Prop}
    (hstep : ∀ {t t' : Traffic} {e}, P t → t.step answer e = some t' → P t') {t t' : Traffic} {es : List Event}
    (ht : P t) (hrun : t.run answer es = some t') : P t' := by
  induction es generalizing t with
  | nil =>
    cases hrun
    exact ht
  | cons e es ih =>
    obtain ⟨mid, hs, hrest⟩ := Option.bind_eq_some_iff.mp hrun
    exact ih (hstep ht hs) hrest

end Traffic

/-! ### Later sessions -/

/-- What may become of the resolver of a field: it may be asked more, or made on first use. -/
inductive Grows (f? : Option Field) : Option Resolver → Option Resolver → Prop
  | same {r? : Option Resolver} : Grows f? r? r?
  | asked {r r' : Resolver} : r'.field = r.field → r.generation ≤ r'.generation →
    Grows f? (some r) (some r')
  | made {r : Resolver} : f? = some r.field → Grows f? none (some r)

theorem Grows.trans {f? : Option Field} {a b c : Option Resolver} (h : Grows f? a b) (h' : Grows f? b c) :
    Grows f? a c := by
  cases h with
  | same => exact h'
  | asked hf hg =>
    cases h' with
    | same => exact .asked hf hg
    | asked hf' hg' => exact .asked (hf'.trans hf) (Nat.le_trans hg hg')
  | made hf =>
    cases h' with
    | same => exact .made hf
    | asked hf' hg' => exact .made (hf.trans (congrArg some hf'.symm))

structure Later (s s' : Session) : Prop where
  registry : s'.registry = s.registry
  grows : ∀ k, Grows (s.registry.get? k) (s.resolvers.lookup k) (s'.resolvers.lookup k)

variable {s s' s'' : Session} {key : LooseText} {f : Field} {r r' : Resolver}

theorem Later.refl (s : Session) : Later s s := ⟨rfl, fun _ => .same⟩

theorem Later.trans (h : Later s s') (h' : Later s' s'') : Later s s'' :=
  ⟨h'.registry.trans h.registry, fun k => (h.grows k).trans (h.registry ▸ h'.grows k)⟩

theorem Later.lookup (h : Later s s') (hr : s.resolvers.lookup key = some r) :
    ∃ r', s'.resolvers.lookup key = some r' ∧ r.generation ≤ r'.generation := by
  have hg := h.grows key
  rw [hr] at hg
  generalize s'.resolvers.lookup key = after at hg
  cases hg with
  | same => exact ⟨r, rfl, Nat.le_refl _⟩
  | asked _ hgen => exact ⟨_, rfl, hgen⟩

/-- Where one resolver is made or asked more, the session is a later one. -/
theorem later_of_resolverAt {l : List (LooseText × Resolver)} (r : Resolver)
    (hreg : s'.registry = s.registry) (hres : s'.resolvers = l) (hf : s.registry.get? key = some f)
    (hl : ∀ k, l.lookup k = s.resolvers.lookup k ∨ k = key ∧ l.lookup k = some r)
    (hfield : r.field = (s.resolverAt key f).field)
    (hgen : (s.resolverAt key f).generation ≤ r.generation) : Later s s' := by
  refine ⟨hreg, fun k => ?_⟩
  rw [hres]
  rcases hl k with h | ⟨rfl, h⟩
  · rw [h]
    exact .same
  · rw [h]
    unfold resolverAt at hfield hgen
    cases hk : s.resolvers.lookup k with
    | none =>
      rw [hk] at hfield
      exact .made (hf.trans (congrArg some hfield.symm))
    | some r₀ =>
      rw [hk] at hfield hgen
      exact .asked hfield hgen

theorem later_cancel (s : Session) : Later s s.cancel := by
  obtain ⟨l, hs, hl⟩ := s.cancel_eq
  rw [hs]
  refine ⟨rfl, fun k => ?_⟩
  rw [hl k]
  by_cases hk : s.field = some k
  · rw [if_pos hk]
    cases s.resolvers.lookup k with
    | none => exact .same
    | some r => exact .asked rfl (Nat.le_succ _)
  · rw [if_neg hk]
    exact .same

theorem later_chooseField (s : Session) (text : LooseText) : Later s (s.chooseField text).session := by
  rcases s.chooseField_cases text with ⟨e, h⟩ | ⟨key, -, -, h⟩
  · rw [h]
    exact .refl s
  · rw [h]
    exact ⟨rfl, fun _ => .same⟩

theorem later_chooseOperator (s : Session) (operator : LooseText) :
    Later s (s.chooseOperator operator).session := by
  rcases s.chooseOperator_cases operator with ⟨e, h⟩ | ⟨key, f, l, -, -, hf, -, h, hl⟩
  · rw [h]
    exact .refl s
  · rw [h]
    refine later_of_resolverAt ((s.resolverAt key f).prime "").resolver rfl rfl hf (fun k => ?_) ?_ ?_
    · rw [hl k]
      split_ifs with hk
      · exact Or.inr ⟨hk.1, rfl⟩
      · exact Or.inl rfl
    · rw [Resolver.prime_resolver]
    · rw [Resolver.prime_resolver]
      exact Nat.le_succ _

theorem later_commit (s : Session) (value : LooseText) : Later s (s.commit value).session := by
  rcases s.commit_cases value with ⟨e, -, h⟩ | ⟨_, _, c, -, -, -, -, -, h⟩
  · rw [h]
    exact .refl s
  · rw [h]
    have hchips : Later s { s with chips := s.chips ++ [c] } := ⟨rfl, fun _ => .same⟩
    exact hchips.trans (later_cancel _)

theorem later_add (s : Session) (field operator value : LooseText) :
    Later s (s.add field operator value).session := by
  rcases s.add_cases field operator value with ⟨e, -, h⟩ | ⟨key, s₁, h₁, hrest⟩
  · rw [h]
    exact .refl s
  · have hl₁ : Later s s₁ := by simpa [h₁] using later_chooseField s field
    rcases hrest with ⟨e, -, h⟩ | ⟨s₂, h₂, hrest⟩
    · rw [h]
      exact hl₁.trans (later_cancel s₁)
    · have hl₂ : Later s₁ s₂ := by simpa [h₂] using later_chooseOperator s₁ operator
      rcases hrest with ⟨e, -, h⟩ | ⟨c, -, h⟩
      · rw [h]
        exact (hl₁.trans hl₂).trans (later_cancel s₂)
      · rw [h]
        exact (hl₁.trans hl₂).trans (later_commit s₂ value)

theorem later_clear (s : Session) : Later s s.clear.session := by
  have hchips : Later s { s with chips := [] } := ⟨rfl, fun _ => .same⟩
  exact hchips.trans (later_cancel _)

theorem later_suggestions (s : Session) (text : LooseText) : Later s (s.suggestions text).session := by
  rcases s.suggestions_cases text with h | ⟨key, f, l, hf, h, hl⟩
  · rw [h]
    exact .refl s
  · rw [h]
    refine later_of_resolverAt (s.resolverAt key f) rfl rfl hf (fun k => ?_) rfl (Nat.le_refl _)
    rw [hl k]
    split_ifs with hk
    · exact Or.inr ⟨hk, rfl⟩
    · exact Or.inl rfl

theorem later_withResolver (hr : s.resolvers.lookup key = some r) (hfield : r'.field = r.field)
    (hgen : r.generation ≤ r'.generation) : Later s (s.withResolver key r') := by
  refine ⟨rfl, fun k => ?_⟩
  rw [lookup_withResolver]
  by_cases hk : k = key
  · rw [if_pos hk, hk, hr]
    exact .asked hfield hgen
  · rw [if_neg hk]
    exact .same

theorem later_resolver (h : s.resolver key = .ok (r, s')) :
    Later s s' ∧ s'.resolvers.lookup key = some r := by
  cases hf : s.registry.get? key with
  | some f =>
    obtain ⟨l, hr, hl⟩ := resolver_eq hf
    rw [hr] at h
    cases h
    refine ⟨later_of_resolverAt (s.resolverAt key f) rfl rfl hf (fun k => ?_) rfl (Nat.le_refl _), ?_⟩
    · by_cases hk : k = key
      · exact .inr ⟨hk, by rw [hl k, if_pos hk]⟩
      · exact .inl (by rw [hl k, if_neg hk])
    · rw [hl key, if_pos rfl]
  | none =>
    unfold resolver at h
    cases hlook : s.resolvers.lookup key with
    | some r₀ =>
      rw [hlook] at h
      cases h
      exact ⟨.refl s, hlook⟩
    | none => simp [hlook, Registry.get_of_none hf, bind, Except.bind] at h

theorem later_startLookup (s : Session) (query : LooseText) : Later s (s.startLookup query).session := by
  unfold startLookup
  split
  · exact .refl s
  · split
    · exact .refl s
    · next h =>
      obtain ⟨hlater, hr⟩ := later_resolver h
      exact hlater.trans (later_withResolver hr rfl (Nat.le_succ _))

theorem later_finishLookup (s : Session) (key : LooseText) (ticket : Ticket) (o : LookupOutcome) :
    Later s (s.finishLookup key ticket o).session := by
  unfold finishLookup
  split
  · exact .refl s
  · next h =>
    obtain ⟨hlater, hr⟩ := later_resolver h
    exact hlater.trans (later_withResolver hr Resolver.finish_field (Nat.le_of_eq Resolver.finish_generation.symm))

/-- **Every event leads to a later session.** -/
theorem Traffic.later_of_step {answer : Nat → LookupOutcome} {t t' : Traffic} {e : Event}
    (h : t.step answer e = some t') : Later t.session t'.session := by
  cases e with
  | chooseField text =>
    cases h
    exact later_chooseField _ text
  | chooseOperator operator =>
    have hlater := later_chooseOperator t.session operator
    simp only [step] at h
    split at h <;> cases h <;> exact hlater
  | commit value =>
    cases h
    exact later_commit _ value
  | cancel =>
    cases h
    exact later_cancel _
  | add field operator value =>
    cases h
    exact later_add _ field operator value
  | removeChip index =>
    cases h
    rcases t.session.removeChip_cases index with ⟨e, heq⟩ | ⟨i, -, heq⟩
    · exact ⟨by rw [heq]; rfl, fun k => by rw [heq]; exact .same⟩
    · exact ⟨by rw [heq]; rfl, fun k => by rw [heq]; exact .same⟩
  | clear =>
    cases h
    exact later_clear _
  | subscribe name =>
    cases h
    exact ⟨rfl, fun _ => .same⟩
  | suggestions text =>
    cases h
    exact later_suggestions _ text
  | openResolver key =>
    simp only [step] at h
    split at h
    · next hr =>
      cases h
      exact (later_resolver hr).1
    · cases h
      exact .refl _
  | startLookup query =>
    have hlater := later_startLookup t.session query
    simp only [step] at h
    split at h <;> cases h <;> exact hlater
  | finishLookup task =>
    simp only [step] at h
    split at h
    · cases h
      exact later_finishLookup ..
    · cases h

end FieldFilter.Session
