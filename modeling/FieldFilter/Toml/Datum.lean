import FieldFilter.DecodeFault
import FieldFilter.Number.Binary64

/-!
# FieldFilter.Toml.Datum — what a TOML document holds

A document is a table of data.  Tables keep the order in which their keys appear.  A table that a header names can
be nested deeper than brackets are followed, and then it cannot be shown (`Datum.unshown?`).
-/

namespace FieldFilter.Toml

/-- A datum of a document. -/
inductive Datum where
  | text (s : String)
  | integer (n : Int)
  | float (x : Binary64)
  | boolean (b : Bool)
  /-- A date, a time or both, as written. -/
  | moment (written : String)
  | array (items : List Datum)
  | table (entries : List (String × Datum))
  deriving Repr, Inhabited

/-- A table with its keys in order. -/
abbrev Table := List (String × Datum)

/-- The text, if the datum is one. -/
def Datum.text? : Datum → Option String
  | text s => some s
  | _ => none

/-- The texts of an array that holds nothing else. -/
def Datum.texts? : Datum → Option (List String)
  | array items => items.mapM text?
  | _ => none

/-! ### Data in messages -/

/-- What keeps a datum from being shown. -/
inductive Unshown where
  | tooDeep
  | numeralTooLong
  deriving DecidableEq, Repr

namespace Datum

mutual

/-- What keeps the datum from being shown with so many steps left to go into brackets, if anything does.  Data are
shown in their order, so that the first obstacle counts. -/
def unshown? : Nat → Datum → Option Unshown
  | 0, _ => some .tooDeep
  | _ + 1, integer n => if n.natAbs < integerLimit then none else some .numeralTooLong
  | steps + 1, array items => itemsUnshown? steps items
  | steps + 1, table entries => entriesUnshown? steps entries
  | _ + 1, _ => none

def itemsUnshown? (steps : Nat) : List Datum → Option Unshown
  | [] => none
  | d :: rest => (unshown? steps d).or (itemsUnshown? steps rest)

def entriesUnshown? (steps : Nat) : List (String × Datum) → Option Unshown
  | [] => none
  | (_, d) :: rest => (unshown? steps d).or (entriesUnshown? steps rest)

end

end Datum
end FieldFilter.Toml
