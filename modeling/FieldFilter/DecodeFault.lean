/-!
# FieldFilter.DecodeFault — why bytes are no document

Reading a file as a document fails in one of four ways.  The wording of the first two is left open:
messages hold `unspecifiedDetail` in its place.
-/

namespace FieldFilter

/-- Why the contents of a file cannot be read as a document. -/
inductive DecodeFault where
  /-- The bytes are not UTF-8. -/
  | notUtf8
  /-- The text breaks a rule of the format. -/
  | malformed
  /-- An integer has more digits than are read. -/
  | numeralTooLong
  /-- Brackets stand in more brackets than are followed. -/
  | tooDeep
  deriving DecidableEq, Repr, Inhabited

/-- Stands in messages for an account of what is wrong. -/
def unspecifiedDetail : String := "<detail>"

/-- The largest number of decimal digits of an integer that is read or written. -/
def maxIntegerDigits : Nat := 4300

/-- The least number that has more digits. -/
def integerLimit : Nat := Nat.pow 10 maxIntegerDigits

/-- The steps into brackets that are taken before giving up, when a document is read or a part of it is shown. -/
def maxNesting : Nat := 980

/-- The text that bytes encode. -/
def decodeText (bytes : ByteArray) : Except DecodeFault String :=
  match String.fromUTF8? bytes with
  | some s => .ok s
  | none => .error .notUtf8

end FieldFilter
