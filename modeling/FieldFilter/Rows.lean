import FieldFilter.Json.Reader
import FieldFilter.LoadFault

/-!
# FieldFilter.Rows — rows in JSON files

A file of rows is a JSON array of objects.
-/

namespace FieldFilter.Rows

/-- The records in an array, of which the first has the given number. -/
def records (number : Nat) : List Value → Except RowsReason (List Record)
  | [] => .ok []
  | .object entries :: rest => do return entries :: (← records (number + 1) rest)
  | _ :: _ => .error (.notObject number)

/-- The records that a value holds. -/
def ofValue : Value → Except RowsReason (List Record)
  | .list items => records 0 items
  | _ => .error .notArray

/-- Loads a file of rows. -/
def load (w : Workspace) (path : Path) : Except LoadFault (List Record) := do
  let path ← (w.openable path).mapError .breakdown
  let bytes ← (w.read path).mapError fun e => .rows path (.file e)
  match (decodeText bytes).bind Json.read with
  | .error .numeralTooLong => throw (.breakdown .numeralTooLong)
  | .error .tooDeep => throw (.breakdown .tooDeep)
  | .error _ => throw (.rows path .undecodable)
  | .ok v => (ofValue v).mapError (.rows path)

/-- All keys of the rows, in the order in which they are first met. -/
def columns (rows : List Record) : List LooseText :=
  (rows.flatMap fun r => r.map Prod.fst).foldl
    (fun seen key => if seen.contains key then seen else seen ++ [key]) []

/-- The rows as a value. -/
def toValue (rows : List Record) : Value := .list (rows.map .object)

end FieldFilter.Rows
