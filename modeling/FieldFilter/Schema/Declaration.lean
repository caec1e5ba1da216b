import FieldFilter.Schema.Registry

/-!
# FieldFilter.Schema.Declaration — fields as they are declared

A declaration names a field's type by a word, which may be missing or wrong, and may leave its label out.
`Registry.declare` turns declarations into a registry one by one.
-/

namespace FieldFilter

/-- The type of a field as it is declared. -/
inductive DeclaredType where
  | missing
  | word (w : LooseText)
  /-- Something that is no word at all. -/
  | unusable
  deriving DecidableEq, Repr

/-- A field as it is declared.  Without a label the key serves as one. -/
structure Declaration where
  key : LooseText
  label : Option LooseText := none
  type : DeclaredType
  source : OptionSource := .absent

/-- What is wrong with a list of declarations. -/
inductive DeclarationFault where
  | missingType (key : LooseText)
  | unknownType (key : LooseText)
  | fault (f : Fault)
  deriving DecidableEq, Repr

namespace Declaration

/-- The field that a declaration describes. -/
def toField (d : Declaration) : Except DeclarationFault Field :=
  match d.type with
  | .missing => .error (.missingType d.key)
  | .unusable => .error (.unknownType d.key)
  | .word w =>
    match FieldType.ofWord? w with
    | some type => .ok { key := d.key, label := d.label.getD d.key, type, source := d.source }
    | none => .error (.unknownType d.key)

/-- Puts a declaration under its key: in the place of an earlier one with that key, else at the end. -/
def insert (d : Declaration) : List Declaration → List Declaration
  | [] => [d]
  | e :: rest => if e.key = d.key then d :: rest else e :: insert d rest

/-- One declaration for each key: the last one, at the place of the first. -/
def keyed (ds : List Declaration) : List Declaration := ds.foldl (fun acc d => insert d acc) []

end Declaration

/-- Declares fields one after the other; the first fault ends it. -/
def Registry.declare (ds : List Declaration) : Except DeclarationFault Registry :=
  ds.foldlM (fun r d => do (r.push (← d.toField)).mapError .fault) empty

end FieldFilter
