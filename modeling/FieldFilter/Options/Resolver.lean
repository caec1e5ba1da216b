import FieldFilter.Options.Lookup

/-!
# FieldFilter.Options.Resolver — the options shown for one field

Lookups can end in any order.  A `Resolver` numbers everything that is asked of it; a lookup carries the
number of its request as a `Ticket`, and its outcome is applied only while no newer number has been given
out.  A list that is applied is announced to one who may do anything when told of it (`Reaction`).
-/

namespace FieldFilter

/-- The options applied for a field, the query they belong to, and the number of the last request. -/
structure Resolver where
  field : Field
  /-- Whether lists are announced when they are applied. -/
  announces : Bool := false
  options : List LooseText := []
  query : Option LooseText := none
  generation : Nat := 0
  deriving Inhabited

/-- A request for options that has been made: what was asked, and the number it was given. -/
structure Ticket where
  query : LooseText
  generation : Nat
  deriving DecidableEq, Repr, Inhabited

/-- What one step of a resolver leads to. -/
structure Resolution where
  resolver : Resolver
  /-- The list applied by the step, if it applied one, unless something was raised during the step. -/
  answer : Except Raised (Option (List LooseText)) := .ok none
  /-- The lists announced during the step. -/
  announced : List (List LooseText) := []
  warnings : List Warning := []
  deriving Inhabited

namespace Resolver

/-- Announces the applied options, if lists are announced.  The one who is told may use the resolver. -/
def announce (r : Resolver) (reaction : Reaction Resolver (List LooseText)) (warnings : List Warning) :
    Resolution :=
  if r.announces then
    let (used, others) := reaction.uses r
    { resolver := used, answer := reaction.answer (some r.options), announced := r.options :: others, warnings }
  else { resolver := r, answer := .ok (some r.options), warnings }

/-- Applies the options that need no lookup.  A field that needs one starts empty.  The options that are left when
all have been told are the answer. -/
def prime (r : Resolver) (query : LooseText) (reaction : Reaction Resolver (List LooseText) := {}) : Resolution :=
  let found := r.field.staticOptions? query
  let primed := { r with
    options := found.getD [], query := found.map fun _ => query, generation := r.generation + 1 }
  let told := primed.announce reaction []
  { told with answer := told.answer.map fun _ => some told.resolver.options }

/-- Forgets the applied options. -/
def reset (r : Resolver) : Resolver :=
  { r with options := [], query := none, generation := r.generation + 1 }

/-- Makes a request for options. -/
def start (r : Resolver) (query : LooseText) : Ticket × Resolver :=
  (⟨query, r.generation + 1⟩, { r with generation := r.generation + 1 })

/-- Takes the outcome of a request: it is applied if the request is still the newest thing asked, and
otherwise dropped.  A request to stop passes through. -/
def finish (r : Resolver) (ticket : Ticket) (outcome : LookupOutcome)
    (reaction : Reaction Resolver (List LooseText) := {}) : Resolution :=
  match r.field.settle ticket.query outcome with
  | .error e => { resolver := r, answer := .error e }
  | .ok (options, warnings) =>
    if ticket.generation = r.generation then
      { r with options, query := some ticket.query : Resolver }.announce reaction warnings
    else { resolver := r, warnings }

/-- A request whose outcome comes at once. -/
def resolve (r : Resolver) (query : LooseText) : Resolution :=
  let (ticket, r) := r.start query
  r.finish ticket (r.field.consult query)

end Resolver
end FieldFilter
