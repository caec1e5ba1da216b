import FieldFilter.LoadFault
import FieldFilter.Schema.Registry
import FieldFilter.Toml.Document

/-!
# FieldFilter.Schema.Document — schemas in TOML files

A schema file has a table `fields` with one table for each field.  `Schema.ofTable` turns a document into a
registry with the fields in the order of the file, or reports the first field that is wrong.  A type that is none
is shown before it is refused, which breaks down where tables stand in too many tables.
-/

namespace FieldFilter.Schema

open Toml (Datum Table)

/-- The type of a field that is given by a datum.  An integer that has too many digits to be shown is refused like
any other datum. -/
def type (key : String) (d : Option Datum) : Except SchemaFault FieldType :=
  match (d.bind Datum.text?).bind fun w => FieldType.ofWord? w with
  | some type => .ok type
  | none =>
    match d.bind (Datum.unshown? maxNesting) with
    | some .tooDeep => .error (.brokenDown .tooDeep)
    | some .numeralTooLong | none => .error (.refused (.type key))

/-- One field from its table. -/
def field (key : String) (d : Datum) : Except SchemaFault Field :=
  match d with
  | .table spec => do
    let type ← type key (spec.lookup "type")
    match ((spec.lookup "label").getD (.text key)).text? with
    | none => .error (.refused (.label key))
    | some label =>
      match spec.lookup "options" with
      | none => .ok { key, label, type }
      | some options =>
        match options.texts? with
        | none => .error (.refused (.options key))
        | some texts => .ok { key, label, type, source := .fixed (texts.map .ofString) }
  | _ => .error (.refused (.notTable key))

/-- The fields of the table of fields, in its order. -/
def fields : Table → Except SchemaFault (List Field)
  | [] => .ok []
  | (key, d) :: rest => do
    let f ← field key d
    return f :: (← fields rest)

/-- The registry that a document describes. -/
def ofTable (document : Table) : Except SchemaFault Registry := do
  match document.lookup "fields" with
  | some (.table []) => throw (.refused .noFields)
  | some (.table entries) =>
    let fs ← fields entries
    match Registry.ofFields fs with
    | .ok r => return r
    | .error (.duplicateField key) => throw (.refused (.repeatedKey key))
    | .error _ => throw (.refused .noFields)
  | _ => throw (.refused .noFields)

/-- Loads a schema file. -/
def load (w : Workspace) (path : Path) : Except LoadFault Registry := do
  let path ← (w.openable path).mapError .breakdown
  let bytes ← (w.read path).mapError fun e => .schema path (.file e)
  match Toml.Document.decode bytes with
  | .error .numeralTooLong => throw (.breakdown .numeralTooLong)
  | .error .tooDeep => throw (.breakdown .tooDeep)
  | .error _ => throw (.schema path .undecodable)
  | .ok document => (ofTable document).mapError (SchemaFault.inFile path)

end FieldFilter.Schema
