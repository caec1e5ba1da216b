import FieldFilter.Schema.FieldType

/-!
# FieldFilter.Fault — what can be wrong with a filter

One case for each way in which building, typing or assembling a filter can fail, and the wording of each
in `Fault.message`.  Code from outside may do anything when it is called: what it raises passes through as it is
(`Raised`), and it may use what it is told of (`Reaction`).
-/

namespace FieldFilter

/-- How far the assembly of the next chip has come. -/
inductive Stage where
  | idle
  | fieldChosen
  | operatorChosen
  deriving DecidableEq, Repr, Inhabited

def Stage.word : Stage → String
  | idle => "idle"
  | fieldChosen => "field_chosen"
  | operatorChosen => "operator_chosen"

/-- A step of chip assembly that needs a certain stage. -/
inductive Action where
  | chooseField
  | chooseOperator
  | commit
  | lookUp
  deriving DecidableEq, Repr

def Action.phrase : Action → String
  | chooseField => "choose a field"
  | chooseOperator => "choose an operator"
  | commit => "commit a chip"
  | lookUp => "look up options"

/-- Where an expression stops making sense: at a character, counted from its start, or at its end. -/
inductive Stop where
  | offset (n : Nat)
  | textEnd
  deriving DecidableEq, Repr

/-! ### Code from outside -/

/-- What is raised by code from outside that is called: a lookup of options, or one who is told of a change. -/
inductive Raised where
  /-- Something went wrong there, for the reason given. -/
  | failure (reason : LooseText)
  /-- A request to stop, given by its name: a cancellation, or an exit.  Nobody who deals with failures holds it up. -/
  | stop (name : String)
  deriving DecidableEq, Repr, Inhabited

/-- What one who is told of a change does before coming back.  Most do nothing. -/
structure Reaction (State Call : Type) where
  /-- What becomes of the state that has changed, and the calls that are made meanwhile. -/
  uses : State → State × List Call := fun s => (s, [])
  /-- What is raised instead of coming back. -/
  raises : Option Raised := none

/-- The answer of a step that ends with telling one of a change. -/
def Reaction.answer {State Call α : Type} (reaction : Reaction State Call) (a : α) : Except Raised α :=
  reaction.raises.elim (.ok a) .error

/-! ### Faults -/

/-- What is wrong with a filter or with a step in building one. -/
inductive Fault where
  | unknownField (field : LooseText)
  | duplicateField (field : LooseText)
  | invalidOperator (field operator : LooseText) (allowed : List Operator)
  | invalidCombinator (combinator : LooseText)
  | indexOutOfRange (index : Int) (size : Nat)
  | unreadable (text : LooseText) (stop : Stop)
  | wrongStage (stage : Stage) (action : Action)
  | emptyValue (field : LooseText)
  /-- Nothing is wrong with the step, but something was raised by code that it called. -/
  | raised (what : Raised)
  deriving DecidableEq, Repr

/-- Whoever deals with failures deals with this one. -/
def Fault.isFailure : Fault → Bool
  | raised (.stop _) => false
  | _ => true

/-- The wording of a fault. -/
def Fault.message : Fault → LooseText
  | unknownField field => "Unknown field: " ++ field
  | duplicateField field => "Duplicate field key: " ++ field
  | invalidOperator field operator allowed =>
    "Operator '" ++ operator ++ "' is not allowed for field '" ++ field ++ "' (allowed: " ++
      ", ".intercalate (allowed.map Operator.word) ++ ")"
  | invalidCombinator combinator =>
    "Invalid combinator: " ++ combinator.quoted ++ " (expected 'and' or 'or')"
  | indexOutOfRange index size =>
    "Index " ++ toString index ++ " out of range for group of " ++ toString size ++ " children"
  | unreadable text _ => "Failed to parse filter expression '" ++ text ++ "'"
  | wrongStage stage action => "Cannot " ++ action.phrase ++ " while session is " ++ stage.word
  | emptyValue field => "No value given for field '" ++ field ++ "'"
  | raised (.failure reason) => reason
  | raised (.stop name) => name

end FieldFilter
