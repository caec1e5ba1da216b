import FieldFilter.Filter.Build
import FieldFilter.Filter.Evaluate
import FieldFilter.Options.Resolver

/-!
# FieldFilter.Session — assembling chips one by one

A chip is built in three steps: a field is chosen, then an operator, then a value is committed.  Committed
chips make a flat `and` filter, which is published to all listeners after every change.  Each step returns
a `Reply`: the answer or the fault, the session after it, and what was published.

Listeners are code from outside.  A step that publishes is given what each of them does when it is called: it may
use the session while the others are still to be told, and it may raise something, which ends the step after the
change has been made.
-/

namespace FieldFilter

/-- The chips committed so far and the chip under way. -/
structure Session where
  registry : Registry
  stage : Stage := .idle
  /-- The key of the field chosen for the next chip. -/
  field : Option LooseText := none
  /-- The operator chosen for the next chip. -/
  operator : Option LooseText := none
  chips : List Condition := []
  /-- Names of the listeners, in the order of their subscription. -/
  listeners : List LooseText := []
  /-- Option resolvers by field key, in the order of their first use. -/
  resolvers : List (LooseText × Resolver) := []
  deriving Inhabited

/-- What a step of a session leads to. -/
structure Reply (α : Type) where
  answer : Except Fault α
  session : Session
  /-- The listeners called during the step, each with the filter it was given. -/
  published : List (LooseText × Node) := []

namespace Session

/-- The chips as a flat `and` group; without chips it asks for nothing. -/
def filter (s : Session) : Node := Node.ofChips (s.chips.map .condition)

def subscribe (s : Session) (name : LooseText) : Session :=
  { s with listeners := s.listeners ++ [name] }

/-! ### Publishing -/

/-- What a listener does when it is called with a filter. -/
abbrev Listening := Reaction Session (LooseText × Node)

/-- One call of every listener with the present filter. -/
def announcement (s : Session) : List (LooseText × Node) :=
  s.listeners.map fun name => (name, s.filter)

/-- Calls the listeners one after the other, from a position on, with a filter.  They react in their order, those
without a reaction by coming back.  Nobody is called after one that raises something. -/
def tell (filter : Node) (s : Session) (position : Nat) : List Listening → Reply Unit
  | [] => ⟨.ok (), s, (s.listeners.drop position).map fun name => (name, filter)⟩
  | reaction :: rest =>
    match s.listeners[position]? with
    | none => ⟨.ok (), s, []⟩
    | some name =>
      let (s, calls) := reaction.uses s
      match reaction.raises with
      | some e => ⟨.error (.raised e), s, (name, filter) :: calls⟩
      | none =>
        let others := tell filter s (position + 1) rest
        { others with published := (name, filter) :: calls ++ others.published }

/-- Publishes the present filter and answers, if all listeners come back. -/
def publish {α : Type} (s : Session) (answer : α) (reactions : List Listening) : Reply α :=
  let told := s.tell s.filter 0 reactions
  { told with answer := told.answer.map fun () => answer }

/-! ### Resolvers -/

/-- Puts a resolver under a key: in the place of the one there, else at the end. -/
def putResolver (key : LooseText) (r : Resolver) : List (LooseText × Resolver) → List (LooseText × Resolver)
  | [] => [(key, r)]
  | (k, q) :: rest => if k = key then (k, r) :: rest else (k, q) :: putResolver key r rest

def withResolver (s : Session) (key : LooseText) (r : Resolver) : Session :=
  { s with resolvers := putResolver key r s.resolvers }

/-- The resolver of a registered field, which is made on first use. -/
def resolver (s : Session) (key : LooseText) : Except Fault (Resolver × Session) :=
  match s.resolvers.lookup key with
  | some r => .ok (r, s)
  | none => do
    let r : Resolver := { field := ← s.registry.get key }
    return (r, s.withResolver key r)

/-! ### Assembling a chip -/

/-- Gives up the chip under way and forgets the options of its field.  Committed chips stay. -/
def cancel (s : Session) : Session :=
  let s := match s.field with
    | none => s
    | some key =>
      match s.resolvers.lookup key with
      | some r => s.withResolver key r.reset
      | none => s
  { s with stage := .idle, field := none, operator := none }

/-- Chooses the field of the next chip by key or label. -/
def chooseField (s : Session) (text : LooseText) : Reply LooseText :=
  if s.stage = .operatorChosen then ⟨.error (.wrongStage s.stage .chooseField), s, []⟩
  else
    match s.registry.find text with
    | none => ⟨.error (.unknownField text), s, []⟩
    | some key =>
      ⟨.ok key, { s with field := some key, operator := none, stage := .fieldChosen }, []⟩

/-- Applies the options that the chosen field has without a lookup, if its values are picked. -/
def primeOptions (s : Session) (key : LooseText) : Except Fault Session := do
  let f ← s.registry.get key
  if f.type.hasChoices then
    let (r, s) ← s.resolver key
    return s.withResolver key (r.prime "").resolver
  else return s

/-- Chooses the operator for the chosen field. -/
def chooseOperator (s : Session) (operator : LooseText) : Reply Unit :=
  match s.stage, s.field with
  | .idle, _ | _, none => ⟨.error (.wrongStage s.stage .chooseOperator), s, []⟩
  | _, some key =>
    match s.registry.condition key operator "" with
    | .error e => ⟨.error e, s, []⟩
    | .ok _ =>
      let chosen := { s with operator := some operator, stage := .operatorChosen }
      match chosen.primeOptions key with
      | .ok primed => ⟨.ok (), primed, []⟩
      | .error e => ⟨.error e, chosen, []⟩

/-- Puts the finished chip at the end of the chips.  White space around the value is dropped. -/
def commit (s : Session) (value : LooseText) (reactions : List Listening := []) : Reply Condition :=
  match s.stage, s.field, s.operator with
  | .operatorChosen, some key, some operator =>
    let value := value.strip
    if value.isEmpty then ⟨.error (.emptyValue key), s, []⟩
    else
      match s.registry.condition key operator value with
      | .error e => ⟨.error e, s, []⟩
      | .ok c =>
        { s with chips := s.chips ++ [c] }.cancel.publish c reactions
  | _, _, _ => ⟨.error (.wrongStage s.stage .commit), s, []⟩

/-- Commits a whole chip in one call.  After a failure, such as that its operator or value is refused, the chip
under way is given up. -/
def add (s : Session) (field operator value : LooseText) (reactions : List Listening := []) :
    Reply Condition :=
  let first := s.chooseField field
  match first.answer with
  | .error e => ⟨.error e, first.session, []⟩
  | .ok _ =>
    let second := first.session.chooseOperator operator
    match second.answer with
    | .error e => ⟨.error e, second.session.cancel, []⟩
    | .ok () =>
      let third := second.session.commit value reactions
      match third.answer with
      | .error e => if e.isFailure then { third with session := third.session.cancel } else third
      | .ok _ => third

/-! ### Changing the chips -/

/-- Removes the chip at an index. -/
def removeChip (s : Session) (index : Int) (reactions : List Listening := []) : Reply Unit :=
  match Node.position? index s.chips.length with
  | none => ⟨.error (.indexOutOfRange index s.chips.length), s, []⟩
  | some i => { s with chips := s.chips.eraseIdx i }.publish () reactions

/-- Drops all chips and the one under way. -/
def clear (s : Session) (reactions : List Listening := []) : Reply Unit :=
  { s with chips := [] }.cancel.publish () reactions

/-! ### Options -/

/-- Makes a request for options of the chosen field: its key, and the ticket of the request. -/
def startLookup (s : Session) (query : LooseText) : Reply (LooseText × Ticket) :=
  match s.field with
  | none => ⟨.error (.wrongStage s.stage .lookUp), s, []⟩
  | some key =>
    match s.resolver key with
    | .error e => ⟨.error e, s, []⟩
    | .ok (r, s) =>
      let (ticket, r) := r.start query
      ⟨.ok (key, ticket), s.withResolver key r, []⟩

/-- Takes the outcome of a request for a field's options.  The options then applied for that field, which
may belong to a newer request, are the answer. -/
def finishLookup (s : Session) (key : LooseText) (ticket : Ticket) (outcome : LookupOutcome) :
    Reply (List LooseText) :=
  match s.resolver key with
  | .error e => ⟨.error e, s, []⟩
  | .ok (r, s) =>
    let done := r.finish ticket outcome
    let options := (done.answer.map fun _ => done.resolver.options).mapError .raised
    ⟨options, s.withResolver key done.resolver, []⟩

/-- The field chosen for the next chip. -/
def activeField (s : Session) : Except Fault (Option Field) :=
  match s.field with
  | none => .ok none
  | some key => (s.registry.get key).map some

/-- What the menu offers at the present step: field keys, then operators, then the applied options of a
field whose values are picked. -/
def suggestions (s : Session) (text : LooseText) : Reply (List LooseText) :=
  match s.stage, s.activeField with
  | .idle, _ => ⟨.ok (s.registry.suggestFields text), s, []⟩
  | _, .error e => ⟨.error e, s, []⟩
  | _, .ok none => ⟨.ok [], s, []⟩
  | .fieldChosen, .ok (some f) => ⟨.ok (f.type.suggestOperators text), s, []⟩
  | .operatorChosen, .ok (some f) =>
    if f.type.hasChoices then
      match s.resolver f.key with
      | .error e => ⟨.error e, s, []⟩
      | .ok (r, s) => ⟨.ok r.options, s, []⟩
    else ⟨.ok [], s, []⟩

/-! ### Views -/

/-- The chips as shown, with the label of each field. -/
def chipLabels (s : Session) : List LooseText :=
  s.chips.map fun c =>
    let label := match s.registry.get? c.field with
      | some f => f.label
      | none => c.field
    label ++ ": " ++ c.operator ++ " " ++ c.value

/-- The rows whose records satisfy every chip, in their order. -/
def apply {α : Type} (s : Session) (record : α → Record) (rows : List α) :
    Except Incomparable (List α) :=
  filterOn record s.filter rows

end Session
end FieldFilter
