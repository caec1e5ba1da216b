import FieldFilter.DecodeFault
import FieldFilter.Toml.Datum

/-!
# FieldFilter.Toml.Branch — parts of a document under way

A `Branch` is a part of a document that may still grow.  It remembers how a table came about, because that
decides what later statements may add to it: a header may come once, keys with points extend a table only
in the section that made it, and inline data is never extended.
-/

namespace FieldFilter.Toml

/-- How a table came about. -/
inductive Origin where
  /-- By a longer header. -/
  | implied
  /-- By its own header. -/
  | declared
  /-- By a key with points, in the section with the given number. -/
  | dotted (sectionNumber : Nat)
  deriving DecidableEq, Repr

/-- A part of a document under way. -/
inductive Branch where
  /-- Data that is not extended. -/
  | fixed (d : Datum)
  | table (origin : Origin) (entries : List (String × Branch))
  /-- An array of tables: the finished ones, and the one that is still extended. -/
  | tables (finished : List Datum) (last : List (String × Branch))
  deriving Repr, Inhabited

namespace Branch

mutual

/-- The datum that a branch has become. -/
def finish : Branch → Datum
  | fixed d => d
  | table _ entries => .table (finishEntries entries)
  | tables finished last => .array (finished ++ [.table (finishEntries last)])

def finishEntries : List (String × Branch) → Table
  | [] => []
  | (key, b) :: rest => (key, b.finish) :: finishEntries rest

end

/-- Changes what is under a key; a new key goes to the end. -/
def alter (key : String) (change : Option Branch → Except DecodeFault Branch) :
    List (String × Branch) → Except DecodeFault (List (String × Branch))
  | [] => do return [(key, ← change none)]
  | (k, b) :: rest => do
    if k = key then return (k, ← change (some b)) :: rest
    else return (k, b) :: (← alter key change rest)

/-- Changes the table at the end of a path of keys.  Tables on the way are made where they are missing,
and of an array of tables the last one is meant. -/
def within (change : List (String × Branch) → Except DecodeFault (List (String × Branch))) :
    List String → List (String × Branch) → Except DecodeFault (List (String × Branch))
  | [], entries => change entries
  | key :: path, entries =>
    entries |> alter key fun
      | none => do return table .implied (← within change path [])
      | some (table origin inner) => do return table origin (← within change path inner)
      | some (tables finished last) => do return tables finished (← within change path last)
      | some (fixed _) => .error .malformed

/-- Declares a table by a header: it may be there already, but only by a longer header. -/
def declareTable (key : String) : List (String × Branch) → Except DecodeFault (List (String × Branch)) :=
  alter key fun
    | none => .ok (table .declared [])
    | some (table .implied inner) => .ok (table .declared inner)
    | some _ => .error .malformed

/-- Starts the next table of an array of tables. -/
def declareItem (key : String) : List (String × Branch) → Except DecodeFault (List (String × Branch)) :=
  alter key fun
    | none => .ok (tables [] [])
    | some (tables finished last) => .ok (tables (finished ++ [.table (finishEntries last)]) [])
    | some _ => .error .malformed

/-- Puts a datum under a new key.  Tables on the way are those of this section, or new ones. -/
def assign (sectionNumber : Nat) (d : Datum) :
    List String → List (String × Branch) → Except DecodeFault (List (String × Branch))
  | [], _ => .error .malformed
  | [key], entries =>
    entries |> alter key fun
      | none => .ok (fixed d)
      | some _ => .error .malformed
  | key :: path, entries =>
    entries |> alter key fun
      | none => do return table (.dotted sectionNumber) (← assign sectionNumber d path [])
      | some (table origin inner) =>
        if origin = .implied ∨ origin = .dotted sectionNumber then do
          return table (.dotted sectionNumber) (← assign sectionNumber d path inner)
        else .error .malformed
      | some _ => .error .malformed

end Branch

end FieldFilter.Toml
