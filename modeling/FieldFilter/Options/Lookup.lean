import FieldFilter.Filter.Operator
import FieldFilter.Schema.Field

/-!
# FieldFilter.Options.Lookup — value options for a query

Fixed lists are filtered by the query on the spot.  A lookup's outcome is settled into a list of texts:
whatever goes wrong with it leaves an empty list and a warning.  Only a request to stop passes through.
-/

namespace FieldFilter

/-- A warning that a lookup for a field went wrong. -/
structure Warning where
  field : LooseText
  query : LooseText
  reason : LooseText
  deriving DecidableEq, Repr

def Warning.message (w : Warning) : LooseText :=
  "Option lookup for " ++ w.field ++ " failed (query=" ++ w.query.quoted ++ "): " ++ w.reason

/-- The options that contain the query without regard to case, in their order. -/
def filterOptions (options : List LooseText) (query : LooseText) : List LooseText :=
  options.filter query.occursInAnyCase

namespace Field

/-- The options of a boolean field without a source of its own. -/
def booleanOptions : List LooseText := ["true", "false"]

/-- The options that need no lookup, or `none` where one is needed. -/
def staticOptions? (f : Field) (query : LooseText) : Option (List LooseText) :=
  match f.source with
  | .absent => some (if f.type = .boolean then filterOptions booleanOptions query else [])
  | .fixed options => some (filterOptions options query)
  | .lookup _ => none

/-- What a query for options comes back with, as far as the field's source decides it. -/
def consult (f : Field) (query : LooseText) : LookupOutcome :=
  match f.source with
  | .lookup answer => answer query
  | _ => .listed (((f.staticOptions? query).getD []).map .text)

/-- Why an integer with too many digits is not shown. -/
def tooManyDigits : LooseText :=
  "Exceeds the limit (" ++ toString maxIntegerDigits ++ " digits) for integer string conversion; " ++
    "use sys.set_int_max_str_digits() to increase the limit"

/-- The options in an outcome, with a warning if there is something wrong with it. -/
def settle (f : Field) (query : LooseText) : LookupOutcome → Except Raised (List LooseText × List Warning)
  | .nothing => .ok ([], [])
  | .listed values =>
    if Value.areWritable values then .ok (values.map Value.display, [])
    else .ok ([], [⟨f.key, query, tooManyDigits⟩])
  | .unlisted kind => .ok ([], [⟨f.key, query, "expected a list of options, got " ++ kind⟩])
  | .raised (.failure reason) => .ok ([], [⟨f.key, query, reason⟩])
  | .raised (.stop name) => .error (.stop name)

/-- The options for a query, with a warning if finding them went wrong. -/
def resolve (f : Field) (query : LooseText) : Except Raised (List LooseText × List Warning) :=
  f.settle query (f.consult query)

end Field
end FieldFilter
