import FieldFilter.Options.Resolver

/-!
# FieldFilter.Proofs.Options.Found — the options that a request brings

`Field.found f answer query` is the list that a request for options of `f` brings when a lookup, if `f` needs
one, comes back with `answer`.  Only a request to stop brings none.  `Resolver.finish` applies this list and no
other one (`Resolver.finish_cases`).
-/

namespace FieldFilter

/-- The options in an outcome, unless it is a request to stop.  Only a list that can be written has any. -/
def LookupOutcome.options? : LookupOutcome → Option (List LooseText)
  | .listed values => some (if Value.areWritable values then values.map Value.display else [])
  | .nothing | .unlisted _ | .raised (.failure _) => some []
  | .raised (.stop _) => none

/-- A lookup that went wrong, or came back with something that is no list of options. -/
inductive LookupOutcome.Fruitless : LookupOutcome → Prop
  | nothing : Fruitless .nothing
  | unlisted (kind : String) : Fruitless (.unlisted kind)
  | failed (reason : LooseText) : Fruitless (.raised (.failure reason))
  | unwritable {values : List Value} : Value.areWritable values = false → Fruitless (.listed values)

theorem LookupOutcome.options?_eq_none {o : LookupOutcome} :
    o.options? = none ↔ ∃ name, o = .raised (.stop name) := by
  match o with
  | .nothing | .unlisted _ | .listed _ | .raised (.failure _) => simp [options?]
  | .raised (.stop name) => simp [options?]

namespace Field

/-- What a request for options comes back with.  A lookup may answer anything at all; without one the field's
source decides. -/
def outcome (f : Field) (answer : LookupOutcome) (query : LooseText) : LookupOutcome :=
  match f.source with
  | .lookup _ => answer
  | _ => f.consult query

/-- The options that a request brings, unless its lookup is stopped. -/
def found (f : Field) (answer : LookupOutcome) (query : LooseText) : Option (List LooseText) :=
  (f.staticOptions? query).or answer.options?

/-- The options of a field before anything is typed or looked up. -/
def unfiltered (f : Field) : List LooseText :=
  match f.source with
  | .absent => if f.type = .boolean then ["true", "false"] else []
  | .fixed options => options
  | .lookup _ => []

variable {f : Field} {answer : LookupOutcome} {query : LooseText}

/-- What can be wrong with an outcome is dealt with, but a request to stop passes through. -/
theorem settle_cases (query : LooseText) (o : LookupOutcome) :
    (∃ name, o = .raised (.stop name) ∧ f.settle query o = .error (.stop name)) ∨
      ∃ options warnings, o.options? = some options ∧ f.settle query o = .ok (options, warnings) := by
  match o with
  | .nothing | .unlisted _ | .raised (.failure _) => exact .inr ⟨_, _, rfl, rfl⟩
  | .raised (.stop name) => exact .inl ⟨name, rfl, rfl⟩
  | .listed values =>
    refine .inr ?_
    by_cases hwritable : Value.areWritable values = true
    · simp [settle, LookupOutcome.options?, hwritable]
    · simp [settle, LookupOutcome.options?, hwritable]

theorem areWritable_text (texts : List LooseText) : Value.areWritable (texts.map .text) = true := by
  induction texts with
  | nil => rfl
  | cons t texts ih => simpa [Value.areWritable, Value.isWritable] using ih

theorem options?_listed_text (texts : List LooseText) :
    (LookupOutcome.listed (texts.map .text)).options? = some texts := by
  have hdisplay : Value.display ∘ Value.text = id := rfl
  simp [LookupOutcome.options?, areWritable_text, hdisplay]

/-- Without options of its own, a field has what its lookup answers. -/
theorem outcome_eq (h : f.staticOptions? query = none) : f.outcome answer query = answer := by
  unfold outcome
  unfold staticOptions? at h
  split
  · rfl
  · next hno =>
    split at h
    · cases h
    · cases h
    · next hsource => exact absurd hsource (hno _)

theorem options?_outcome : (f.outcome answer query).options? = f.found answer query := by
  unfold outcome found consult staticOptions?
  cases f.source with
  | absent => exact options?_listed_text _
  | fixed options => exact options?_listed_text _
  | lookup reply => rfl

/-- A lookup that brings nothing usable counts as an empty list. -/
theorem found_fruitless (hf : f.staticOptions? query = none) (h : answer.Fruitless) :
    f.found answer query = some [] := by
  rw [found, hf]
  cases h with
  | unwritable h => simp [LookupOutcome.options?, h]
  | nothing | unlisted | failed => rfl

/-- Only a request to stop brings no options. -/
theorem found_eq_none : f.found answer query = none ↔
    f.staticOptions? query = none ∧ ∃ name, answer = .raised (.stop name) := by
  rw [found, Option.or_eq_none_iff, LookupOutcome.options?_eq_none]

end Field

/-! ### Options for an empty query -/

theorem Text.occursIn_nil {α : Type} [BEq α] (hay : List α) : Text.occursIn [] hay = true := by
  cases hay <;> rfl

theorem filterOptions_empty (options : List LooseText) : filterOptions options "" = options := by
  have hall : ∀ t ∈ options, LooseText.occursInAnyCase "" t = true := fun t _ => Text.occursIn_nil _
  exact List.filter_eq_self.mpr hall

/-- The options that need no lookup are all offered for an empty query. -/
theorem Field.static_empty (f : Field) : (f.staticOptions? "").getD [] = f.unfiltered := by
  unfold staticOptions? unfiltered
  cases f.source with
  | absent =>
    by_cases hb : f.type = .boolean
    · simp only [if_pos hb, filterOptions_empty, booleanOptions, Option.getD_some]
    · simp only [if_neg hb, Option.getD_some]
  | fixed options => exact filterOptions_empty options
  | lookup reply => rfl

/-! ### One who is told -/

namespace Reaction

variable {State Call : Type} {reaction : Reaction State Call}

/-- The one who is told leaves the state alone, and calls nobody. -/
def Inert (reaction : Reaction State Call) : Prop := ∀ s, reaction.uses s = (s, [])

/-- The one who is told only comes back. -/
structure Quiet (reaction : Reaction State Call) : Prop where
  inert : reaction.Inert
  comesBack : reaction.raises = none

theorem quiet_default : ({} : Reaction State Call).Quiet := ⟨fun _ => rfl, rfl⟩

end Reaction

/-! ### What a step of a resolver does -/

namespace Resolver

variable {r : Resolver} {ticket : Ticket} {o : LookupOutcome} {reaction : Reaction Resolver (List LooseText)}

/-- **What a lookup that comes back can do.**  A request to stop passes through, the newest request is applied and
announced, and any other one is dropped. -/
theorem finish_cases (r : Resolver) (ticket : Ticket) (o : LookupOutcome)
    (reaction : Reaction Resolver (List LooseText)) :
    (∃ name, o = .raised (.stop name) ∧
      r.finish ticket o reaction = { resolver := r, answer := .error (.stop name) }) ∨
    ∃ options warnings, o.options? = some options ∧
      ((ticket.generation = r.generation ∧ r.finish ticket o reaction =
          { r with options, query := some ticket.query : Resolver }.announce reaction warnings) ∨
        ticket.generation ≠ r.generation ∧ r.finish ticket o reaction = { resolver := r, warnings }) := by
  unfold finish
  rcases r.field.settle_cases ticket.query o with
    ⟨name, ho, hsettle⟩ | ⟨options, warnings, ho, hsettle⟩
  · exact .inl ⟨name, ho, by rw [hsettle]⟩
  · refine .inr ⟨options, warnings, ho, ?_⟩
    rw [hsettle]
    by_cases h : ticket.generation = r.generation
    · exact .inl ⟨h, if_pos h⟩
    · exact .inr ⟨h, if_neg h⟩

/-- One who leaves the resolver alone may still raise something. -/
theorem announce_inert (h : reaction.Inert) (warnings : List Warning) :
    r.announce reaction warnings =
      { resolver := r
        answer := if r.announces then reaction.answer (some r.options) else .ok (some r.options)
        announced := if r.announces then [r.options] else [], warnings } := by
  unfold announce
  rw [h r]
  split <;> rfl

/-- Priming is announced like any list that is applied. -/
theorem prime_inert (h : reaction.Inert) (query : LooseText) :
    r.prime query reaction =
      { r with
        options := (r.field.staticOptions? query).getD []
        query := (r.field.staticOptions? query).map fun _ => query
        generation := r.generation + 1 : Resolver }.announce reaction [] := by
  unfold prime
  simp only [announce_inert h]
  unfold Reaction.answer
  cases r.announces <;> cases reaction.raises <;> rfl

/-- Of all outcomes only the newest one is applied, and only if it brings options. -/
theorem finish_resolver (h : reaction.Inert) : (r.finish ticket o reaction).resolver =
    if ticket.generation = r.generation then
      o.options?.elim r fun options => { r with options, query := some ticket.query }
    else r := by
  rcases finish_cases r ticket o reaction with ⟨name, rfl, heq⟩ | ⟨options, warnings, ho, ⟨hg, heq⟩ | ⟨hg, heq⟩⟩
  · rw [heq]
    exact (ite_self r).symm
  · rw [heq, if_pos hg, ho, announce_inert h]
    rfl
  · rw [heq, if_neg hg]

/-! ### One who only comes back -/

theorem prime_resolver (query : LooseText) : (r.prime query).resolver =
    { r with
      options := (r.field.staticOptions? query).getD []
      query := (r.field.staticOptions? query).map fun _ => query
      generation := r.generation + 1 } := by
  rw [prime_inert Reaction.quiet_default.inert, announce_inert Reaction.quiet_default.inert]

theorem finish_of_ne (h : ticket.generation ≠ r.generation) : (r.finish ticket o).resolver = r := by
  rw [finish_resolver Reaction.quiet_default.inert, if_neg h]

@[simp] theorem finish_generation : (r.finish ticket o).resolver.generation = r.generation := by
  rw [finish_resolver Reaction.quiet_default.inert]
  cases o.options? <;> split <;> rfl

@[simp] theorem finish_field : (r.finish ticket o).resolver.field = r.field := by
  rw [finish_resolver Reaction.quiet_default.inert]
  cases o.options? <;> split <;> rfl

@[simp] theorem finish_announces : (r.finish ticket o).resolver.announces = r.announces := by
  rw [finish_resolver Reaction.quiet_default.inert]
  cases o.options? <;> split <;> rfl

end Resolver
end FieldFilter
