import FieldFilter.Proofs.Session.Run
import FieldFilter.Proofs.Session.Selection
import FieldFilter.Proofs.Text.Loose

/-!
# FieldFilter.Proofs.Session.Effect — all that an event does to a session

`Traffic.reply` is what is seen of an event from outside: its answer, the session after it, and the calls of
listeners.  `Effect` lists in eight cases what these can be, up to resolvers, where all listeners just come back
(`Traffic.effect`).  Invariants of sessions and the account of their chips are read off these cases and open no
operation.
-/

namespace FieldFilter

/-- The reply with something else in the place of its answer. -/
def Reply.map {α β : Type} (f : α → β) (r : Reply α) : Reply β := ⟨r.answer.map f, r.session, r.published⟩

/-- The condition may stand among chips: its field is registered, its operator suits the field, and its value
is not empty and has no white space around it. -/
structure Registry.Accepts (r : Registry) (c : Condition) : Prop where
  suits : ∃ f, r.get? c.field = some f ∧ c.operator ∈ f.type.operatorWords
  filled : c.value.isEmpty = false
  trimmed : c.value.strip = c.value

namespace Session

/-! ### What is seen of an event -/

/-- An event brings a chip, or takes chips away, if it goes through. -/
def Event.editsChips : Event → Bool
  | .commit _ | .add .. | .removeChip _ | .clear => true
  | _ => false

/-- The listeners that an event brings. -/
def Event.newListeners : Event → List LooseText
  | .subscribe name => [name]
  | _ => []

/-- What an event answers, which is a chip if it brings one, the session after it, and the listeners called, which
react as given.  A lookup that has come back, or was never begun, does not come back. -/
def Traffic.reply (answer : Nat → LookupOutcome) (t : Traffic) (e : Event) (reactions : List Listening := []) :
    Option (Reply (Option Condition)) :=
  match e with
  | .chooseField text => some ((t.session.chooseField text).map fun _ => none)
  | .chooseOperator operator => some ((t.session.chooseOperator operator).map fun _ => none)
  | .commit value => some ((t.session.commit value reactions).map some)
  | .cancel => some ⟨.ok none, t.session.cancel, []⟩
  | .add field operator value => some ((t.session.add field operator value reactions).map some)
  | .removeChip index => some ((t.session.removeChip index reactions).map fun _ => none)
  | .clear => some ((t.session.clear reactions).map fun _ => none)
  | .subscribe name => some ⟨.ok none, t.session.subscribe name, []⟩
  | .suggestions text => some ((t.session.suggestions text).map fun _ => none)
  | .openResolver key =>
    match t.session.resolver key with
    | .ok (_, s) => some ⟨.ok none, s, []⟩
    | .error e => some ⟨.error e, t.session, []⟩
  | .startLookup query => some ((t.session.startLookup query).map fun _ => none)
  | .finishLookup task =>
    match t.lookups[task]? with
    | some (some (key, ticket)) =>
      let o := t.session.outcome (answer task) key ticket.query
      some ((t.session.finishLookup key ticket o).map fun _ => none)
    | _ => none

/-- A step of a run is a reply with its session. -/
theorem Traffic.reply_of_step {answer : Nat → LookupOutcome} {t t' : Traffic} {e : Event}
    {reactions : List Listening} (h : t.step answer e reactions = some t') :
    ∃ r, t.reply answer e reactions = some r ∧ t'.session = r.session := by
  cases e with
  | chooseOperator operator =>
    refine ⟨_, rfl, ?_⟩
    simp only [step] at h
    split at h <;> cases h <;> rfl
  | openResolver key =>
    simp only [step, reply] at h ⊢
    cases hr : t.session.resolver key <;> simp only [hr, Option.some.injEq] at h ⊢ <;>
      exact ⟨_, rfl, h ▸ rfl⟩
  | startLookup query =>
    refine ⟨_, rfl, ?_⟩
    simp only [step] at h
    split at h <;> cases h <;> rfl
  | finishLookup task =>
    rcases hlook : t.lookups[task]? with _ | _ | ⟨key, ticket⟩
    · simp [step, hlook] at h
    · simp [step, hlook] at h
    · simp only [step, reply, hlook, Option.some.injEq] at h ⊢
      exact ⟨_, rfl, h ▸ rfl⟩
  | _ =>
    cases h
    exact ⟨_, rfl, rfl⟩

/-! ### Steps that look at options -/

variable {s s' : Session} {key : LooseText} {r : Resolver}

theorem resolver_frame (h : s.resolver key = .ok (r, s')) : ∃ l, s' = { s with resolvers := l } := by
  unfold resolver at h
  cases hlook : s.resolvers.lookup key with
  | some r₀ =>
    simp only [hlook, Except.ok.injEq, Prod.mk.injEq] at h
    exact ⟨s.resolvers, h.2.symm⟩
  | none =>
    simp only [hlook] at h
    cases hget : s.registry.get key with
    | error e => simp [hget, bind, Except.bind] at h
    | ok f =>
      simp only [hget, bind, Except.bind, pure, Except.pure, Except.ok.injEq, Prod.mk.injEq] at h
      exact ⟨_, h.2.symm⟩

theorem suggestions_frame (s : Session) (text : LooseText) :
    ∃ a l, s.suggestions text = ⟨a, { s with resolvers := l }, []⟩ := by
  unfold suggestions
  split
  iterate 4 exact ⟨_, s.resolvers, rfl⟩
  · split
    · split
      · exact ⟨_, s.resolvers, rfl⟩
      · next h =>
        obtain ⟨l, rfl⟩ := resolver_frame h
        exact ⟨_, l, rfl⟩
    · exact ⟨_, s.resolvers, rfl⟩

theorem startLookup_frame (s : Session) (query : LooseText) :
    ∃ a l, s.startLookup query = ⟨a, { s with resolvers := l }, []⟩ := by
  unfold startLookup
  split
  · exact ⟨_, s.resolvers, rfl⟩
  · split
    · exact ⟨_, s.resolvers, rfl⟩
    · next h =>
      obtain ⟨l, rfl⟩ := resolver_frame h
      exact ⟨_, _, rfl⟩

theorem finishLookup_frame (s : Session) (key : LooseText) (ticket : Ticket) (o : LookupOutcome) :
    ∃ a l, s.finishLookup key ticket o = ⟨a, { s with resolvers := l }, []⟩ := by
  unfold finishLookup
  split
  · exact ⟨_, s.resolvers, rfl⟩
  · next h =>
    obtain ⟨l, rfl⟩ := resolver_frame h
    exact ⟨_, _, rfl⟩

/-! ### The cases -/

/-- The session with these chips and no chip under way. -/
def atRest (s : Session) (chips : List Condition) (l : List (LooseText × Resolver)) : Session :=
  { s with stage := .idle, field := none, operator := none, chips, resolvers := l }

/-- What an event that happens to a session can answer, leave and publish. -/
inductive Effect (s : Session) : Event → Reply (Option Condition) → Prop
  /-- The event is refused, or only looks at options. -/
  | still {e : Event} (a : Except Fault (Option Condition)) (l : List (LooseText × Resolver)) :
    (e.editsChips = true → ∃ fault, a = .error fault) → e.newListeners = [] →
    Effect s e ⟨a, { s with resolvers := l }, []⟩
  /-- The chip under way is given up. -/
  | givenUp {e : Event} (a : Except Fault (Option Condition)) (l : List (LooseText × Resolver)) :
    (e.editsChips = true → ∃ fault, a = .error fault) → e.newListeners = [] →
    Effect s e ⟨a, s.atRest s.chips l, []⟩
  | fieldChosen {text key : LooseText} {f : Field} : s.registry.get? key = some f →
    Effect s (.chooseField text)
      ⟨.ok none, { s with field := some key, operator := none, stage := .fieldChosen }, []⟩
  | operatorChosen {key operator : LooseText} {f : Field} (l : List (LooseText × Resolver)) :
    s.field = some key → s.registry.get? key = some f → operator ∈ f.type.operatorWords →
    Effect s (.chooseOperator operator)
      ⟨.ok none, { s with operator := some operator, stage := .operatorChosen, resolvers := l }, []⟩
  | put {e : Event} {c : Condition} (l : List (LooseText × Resolver)) :
    ((∃ value, e = .commit value) ∨ ∃ field operator value, e = .add field operator value) →
    s.registry.Accepts c →
    Effect s e ⟨.ok (some c), s.atRest (s.chips ++ [c]) l, (s.atRest (s.chips ++ [c]) l).announcement⟩
  | removed {index : Int} {i : Nat} : Node.position? index s.chips.length = some i →
    Effect s (.removeChip index) ⟨.ok none, { s with chips := s.chips.eraseIdx i },
      { s with chips := s.chips.eraseIdx i }.announcement⟩
  | cleared (l : List (LooseText × Resolver)) :
    Effect s .clear ⟨.ok none, s.atRest [] l, (s.atRest [] l).announcement⟩
  | subscribed (name : LooseText) : Effect s (.subscribe name) ⟨.ok none, s.subscribe name, []⟩

/-! ### Every event is one of them -/

theorem cancel_atRest (s : Session) : ∃ l, s.cancel = s.atRest s.chips l := by
  obtain ⟨l, hs, -⟩ := s.cancel_eq
  exact ⟨l, hs⟩

theorem chooseField_effect (s : Session) (text : LooseText) :
    Effect s (.chooseField text) ((s.chooseField text).map fun _ => none) := by
  rcases s.chooseField_cases text with ⟨e, h⟩ | ⟨key, -, hfind, h⟩
  · rw [h]
    exact .still _ s.resolvers nofun rfl
  · obtain ⟨f, hf⟩ := Registry.find_registered hfind
    rw [h]
    exact .fieldChosen hf

theorem chooseOperator_effect (s : Session) (operator : LooseText) :
    Effect s (.chooseOperator operator) ((s.chooseOperator operator).map fun _ => none) := by
  rcases s.chooseOperator_cases operator with ⟨e, h⟩ | ⟨key, f, l, -, hkey, hf, hop, h, -⟩
  · rw [h]
    exact .still _ s.resolvers nofun rfl
  · rw [h]
    exact .operatorChosen l hkey hf hop

/-- A chip that is committed may stand among chips. -/
theorem accepts_of_condition {registry : Registry} {key operator value : LooseText} {c : Condition}
    (h : registry.condition key operator value.strip = .ok c) (hne : value.strip.isEmpty = false) :
    registry.Accepts c := by
  obtain ⟨f, hf, hop, rfl⟩ := Registry.condition_eq_ok.mp h
  exact ⟨⟨f, hf, hop⟩, hne, LooseText.strip_strip value⟩

theorem commit_effect (s : Session) (value : LooseText) :
    Effect s (.commit value) ((s.commit value).map some) := by
  rcases s.commit_cases value with ⟨e, -, h⟩ | ⟨key, operator, c, -, -, -, hne, hc, h⟩
  · rw [h]
    exact .still _ s.resolvers (fun _ => ⟨e, rfl⟩) rfl
  · obtain ⟨l, hl⟩ := cancel_atRest { s with chips := s.chips ++ [c] }
    rw [h, hl]
    exact .put l (.inl ⟨value, rfl⟩) (accepts_of_condition hc hne)

theorem add_effect (s : Session) (field operator value : LooseText) :
    Effect s (.add field operator value) ((s.add field operator value).map some) := by
  rcases s.add_cases field operator value with ⟨e, -, h⟩ | ⟨key, s₁, h₁, hrest⟩
  · rw [h]
    exact .still _ s.resolvers (fun _ => ⟨e, rfl⟩) rfl
  · have hs₁ := chooseField_ok (congrArg Reply.answer h₁)
    rw [h₁] at hs₁
    subst hs₁
    rcases hrest with ⟨e, -, h⟩ | ⟨s₂, h₂, ⟨e, -, h⟩ | ⟨c, hc, h⟩⟩
    · obtain ⟨l, hl⟩ := cancel_atRest { s with field := some key, operator := none, stage := .fieldChosen }
      rw [h, hl]
      exact .givenUp _ l (fun _ => ⟨e, rfl⟩) rfl
    all_goals
      obtain ⟨l, hs₂⟩ := chooseOperator_ok (congrArg Reply.answer h₂)
      rw [h₂] at hs₂
      subst hs₂
    · obtain ⟨l', hl⟩ := cancel_atRest
        { s with field := some key, operator := some operator, stage := .operatorChosen, resolvers := l }
      rw [h, hl]
      exact .givenUp _ l' (fun _ => ⟨e, rfl⟩) rfl
    · rcases commit_cases _ value with ⟨e, -, hcommit⟩ | ⟨_, _, c', -, -, -, hne, hcond, hcommit⟩
      · rw [hcommit] at hc
        cases hc
      · obtain ⟨l', hl⟩ := cancel_atRest { s with
          field := some key, operator := some operator, stage := .operatorChosen, resolvers := l,
          chips := s.chips ++ [c'] }
        rw [h, hcommit, hl]
        exact .put l' (.inr ⟨field, operator, value, rfl⟩) (accepts_of_condition hcond hne)

theorem removeChip_effect (s : Session) (index : Int) :
    Effect s (.removeChip index) ((s.removeChip index).map fun _ => none) := by
  rcases s.removeChip_cases index with ⟨e, h⟩ | ⟨i, hi, h⟩
  · rw [h]
    exact .still _ s.resolvers (fun _ => ⟨e, rfl⟩) rfl
  · rw [h]
    exact .removed hi

theorem clear_effect (s : Session) : Effect s .clear (s.clear.map fun _ => none) := by
  obtain ⟨l, hl⟩ := cancel_atRest { s with chips := [] }
  simp only [clear, hl]
  exact .cleared l

/-- **What an event does to a session** is one of the cases. -/
theorem Traffic.effect {answer : Nat → LookupOutcome} {t : Traffic} {e : Event} {r : Reply (Option Condition)}
    (h : t.reply answer e = some r) : Effect t.session e r := by
  cases e with
  | chooseField text => exact Option.some.inj h ▸ chooseField_effect t.session text
  | chooseOperator operator => exact Option.some.inj h ▸ chooseOperator_effect t.session operator
  | commit value => exact Option.some.inj h ▸ commit_effect t.session value
  | cancel =>
    obtain ⟨l, hl⟩ := cancel_atRest t.session
    cases h
    rw [hl]
    exact .givenUp _ l nofun rfl
  | add field operator value => exact Option.some.inj h ▸ add_effect t.session field operator value
  | removeChip index => exact Option.some.inj h ▸ removeChip_effect t.session index
  | clear => exact Option.some.inj h ▸ clear_effect t.session
  | subscribe name =>
    cases h
    exact .subscribed name
  | suggestions text =>
    obtain ⟨a, l, hl⟩ := suggestions_frame t.session text
    cases h
    rw [hl]
    exact .still _ l nofun rfl
  | openResolver key =>
    simp only [reply] at h
    split at h
    · next hr =>
      obtain ⟨l, rfl⟩ := resolver_frame hr
      cases h
      exact .still _ l nofun rfl
    · cases h
      exact .still _ t.session.resolvers nofun rfl
  | startLookup query =>
    obtain ⟨a, l, hl⟩ := startLookup_frame t.session query
    cases h
    rw [hl]
    exact .still _ l nofun rfl
  | finishLookup task =>
    simp only [reply] at h
    split at h
    · next key ticket _ =>
      obtain ⟨a, l, hl⟩ := finishLookup_frame t.session key ticket
        (t.session.outcome (answer task) key ticket.query)
      rw [hl] at h
      cases h
      exact .still _ l nofun rfl
    · cases h

/-- Nobody is called unless chips are brought or taken away. -/
theorem Effect.silent {s : Session} {e : Event} {r : Reply (Option Condition)} (h : Effect s e r)
    (he : e.editsChips = false) : r.published = [] := by
  cases h with
  | put l hput _ => rcases hput with ⟨value, rfl⟩ | ⟨field, operator, value, rfl⟩ <;> cases he
  | removed | cleared => cases he
  | still | givenUp | fieldChosen | operatorChosen | subscribed => rfl

end Session
end FieldFilter
