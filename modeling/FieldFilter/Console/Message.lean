import FieldFilter.Text.Loose

/-!
# FieldFilter.Console.Message — texts with spans

A `Message` is a text together with the spans of it that have looks of their own.  The text holds no bell,
backspace, vertical tab, form feed or carriage return, for these are never printed.
-/

namespace FieldFilter.Console

/-- The places of a text from one on and up to another. -/
structure Span where
  start : Nat
  stop : Nat
  deriving DecidableEq, Repr

namespace Span

/-- The span in a text that comes after so many marks. -/
def after (before : Nat) (s : Span) : Span := ⟨before + s.start, before + s.stop⟩

/-- The span as it lies in a part of the text: the part comes after so many marks and has so many. -/
def within (before size : Nat) (s : Span) : Span := ⟨s.start - before, min (s.stop - before) size⟩

/-- The span has places on both sides of a place. -/
def crosses (place : Nat) (s : Span) : Bool := s.start < place && place < s.stop

/-- The span has no places. -/
def isEmpty (s : Span) : Bool := s.stop ≤ s.start

end Span

/-- A text, and the spans of it that have looks of their own. -/
structure Message where
  text : List Mark := []
  spans : List Span := []
  deriving DecidableEq, Repr

namespace Message

/-- Controls that are never printed. -/
def isUnprinted (c : Char) : Bool := [7, 8, 11, 12, 13].contains c.toNat

/-- The text without the controls that are never printed. -/
def printed (s : List Mark) : List Mark := s.filter fun m => !m.is isUnprinted

end Message
end FieldFilter.Console
