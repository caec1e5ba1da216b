import FieldFilter.Fault

/-!
# FieldFilter.Schema.Field — the fields of a schema

A field has a key, a label, a type and a source of value options: none, a fixed list, or a lookup that
answers a query in one of several ways.
-/

namespace FieldFilter

/-- What comes back from a lookup of options. -/
inductive LookupOutcome where
  | nothing
  | listed (values : List Value)
  /-- Something that is no list of options, given by the name of its kind. -/
  | unlisted (kind : String)
  /-- The lookup did not come back, but raised something. -/
  | raised (what : Raised)
  deriving Repr, Inhabited

/-- The outcome of a lookup that comes back with a value.  An object is the list of its keys. -/
def LookupOutcome.ofValue : Value → LookupOutcome
  | .null => nothing
  | .list items => listed items
  | .object entries => listed (entries.map fun e => .text e.1)
  | v => unlisted v.kindName

/-- Where the value options of a field come from. -/
inductive OptionSource where
  | absent
  | fixed (options : List LooseText)
  | lookup (answer : LooseText → LookupOutcome)
  deriving Inhabited

/-- A field that records can be filtered on. -/
structure Field where
  key : LooseText
  label : LooseText
  type : FieldType
  source : OptionSource := .absent
  deriving Inhabited

/-- The fixed options of a field, if it has such a list. -/
def Field.fixedOptions? (f : Field) : Option (List LooseText) :=
  match f.source with
  | .fixed options => some options
  | _ => none

end FieldFilter
