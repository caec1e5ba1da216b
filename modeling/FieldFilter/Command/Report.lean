import FieldFilter.Console.Table
import FieldFilter.Json.Writer
import FieldFilter.Schema.Registry
import FieldFilter.Value.Coercion

/-!
# FieldFilter.Command.Report — fields and rows as results

Tables and JSON values for the results of commands.
-/

namespace FieldFilter.Report

/-- What can be given as a value of a field: its fixed options, else a placeholder. -/
def valueHint (f : Field) : LooseText :=
  match f.fixedOptions? with
  | some options => LooseText.intercalate ", " options
  | none => f.type.placeholder

/-- A table of fields. -/
def fieldTable (r : Registry) : Console.Table where
  columns := { heading := "Key" } ::
    (["Label", "Type", "Operators", "Value"] : List LooseText).map fun heading => { heading, wraps := true }
  rows := r.fields.map fun f =>
    [f.key, f.label, f.type.word, LooseText.intercalate " " f.type.operatorWords, valueHint f]

/-- A list of texts as a value. -/
def texts (l : List LooseText) : Value := .list (l.map .text)

/-- A field as a value. -/
def fieldValue (f : Field) : Value :=
  .object [
    ("key", .text f.key), ("label", .text f.label), ("type", .text f.type.word),
    ("operators", texts f.type.operatorWords), ("options", (f.fixedOptions?.map texts).getD .null)]

/-- The fields as a value. -/
def fieldValues (r : Registry) : Value := .list (r.fields.map fieldValue)

/-- The label for a key: that of the field with the key, else the key itself. -/
def label (r : Registry) (key : LooseText) : LooseText :=
  match r.get? key with
  | some f => f.label
  | none => key

/-- A table of some columns of rows. -/
def rowTable (r : Registry) (columns : List LooseText) (rows : List Record) : Console.Table where
  columns := columns.map fun key => { heading := label r key }
  rows := rows.map fun row => columns.map fun key => (row.get key).toText

end FieldFilter.Report
