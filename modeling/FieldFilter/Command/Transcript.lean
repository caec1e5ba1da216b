import FieldFilter.Command.Arguments
import FieldFilter.Console.Highlight
import FieldFilter.Console.Markup
import FieldFilter.Console.Table
import FieldFilter.LoadFault

/-!
# FieldFilter.Command.Transcript — runs of commands

A `Run` writes to two streams, may write files, and may end before its last step.  What it has written by
then stays: `Run.outcome` gives the transcript together with the way the run ended.
-/

namespace FieldFilter

open Console

/-- What a run has written. -/
structure Transcript where
  output : String := ""
  errors : String := ""
  /-- The files written, each under its resolved path. -/
  saved : List (Path × String) := []
  deriving Repr

/-- How a run ends. -/
inductive Ending where
  | status (code : Nat)
  | misused (fault : UsageFault)
  | brokenDown (b : Breakdown)
  deriving DecidableEq, Repr

/-- The exit status of an ending. -/
def Ending.code : Ending → Nat
  | status code => code
  | misused _ => 2
  | brokenDown _ => 1

/-- A computation that writes a transcript and may end before its last step. -/
abbrev Run := ExceptT Ending (StateM Transcript)

/-- What is left of a run. -/
structure Outcome where
  ending : Ending
  transcript : Transcript
  deriving Repr

namespace Run

/-- Runs a command.  A run that comes to its last step ends well. -/
def outcome (run : Run Unit) : Outcome :=
  match (ExceptT.run run).run {} with
  | (.ok (), t) => ⟨.status 0, t⟩
  | (.error e, t) => ⟨e, t⟩

/-- Ends the run with an exit status. -/
def exit {α : Type} (code : Nat) : Run α := throw (.status code)

/-- Writes text to the output as it is.  A half of a surrogate pair ends the run, for there are no bytes for
it. -/
def put (text : LooseText) : Run Unit :=
  match text.whole? with
  | some s => modify fun t => { t with output := t.output ++ s }
  | none => throw (.brokenDown .byteless)

/-- Echoes a line to the output. -/
def echo (text : LooseText) : Run Unit := put (Line.echo text)

/-- Writes text to the error stream, where halves of surrogate pairs are escaped. -/
def putError (text : LooseText) : Run Unit := modify fun t => { t with errors := t.errors ++ text.escaped }

/-- Writes what was printed; what stopped the printing ends the run. -/
def release (write : LooseText → Run Unit) (p : Line.Printout) : Run Unit := do
  write p.text
  if let some e := p.fault then throw (.brokenDown (.uncut e.signs))

/-- Shows a table. -/
def showTable (t : Table) : Run Unit := release put t.print

/-- Prints a message to the output. -/
def say (markup : LooseText) : Run Unit := release put (Line.print Highlight.spans (Markup.message markup))

/-- Prints a message, of which nothing stands out but what is in a style, to the output. -/
def sayEvenly (markup : LooseText) : Run Unit :=
  release put (Line.print (fun _ => []) (Markup.message markup))

/-- Prints a piece of information. -/
def inform (markup : LooseText) : Run Unit := say (Markup.styled "info" markup)

/-- Prints a message to the error stream. -/
def complain (markup : LooseText) : Run Unit :=
  release putError (Line.print Highlight.spans (Markup.message markup))

def warn (markup : LooseText) : Run Unit :=
  complain (Markup.styled "warning" "Warning:" ++ " " ++ markup)

/-- Prints an error. -/
def report (markup : LooseText) : Run Unit := complain (Markup.styled "error" "Error:" ++ " " ++ markup)

/-- Prints a hint after an error. -/
def hint (markup : LooseText) : Run Unit :=
  complain ("  " ++ Markup.styled "info" "Hint:" ++ " " ++ markup)

/-- Notes that a file is to hold a text.  A half of a surrogate pair in the text leaves the file empty and ends
the run. -/
def save (path : Path) (text : LooseText) : Run Unit := do
  modify fun t => { t with saved := t.saved ++ [(path, text.whole?.getD "")] }
  if text.whole?.isNone then throw (.brokenDown .byteless)

/-- The value, unless the run breaks down. -/
def orBreak {α : Type} : Except Breakdown α → Run α
  | .ok a => pure a
  | .error b => throw (.brokenDown b)

/-- The value, unless a value of a record could not be compared. -/
def compared {α : Type} : Except Incomparable α → Run α
  | .ok a => pure a
  | .error (.outOfRange n) => throw (.brokenDown (.outOfRange n))
  | .error .numeralTooLong => throw (.brokenDown .numeralTooLong)

/-- What was loaded; a fault with a message is reported and ends the run with an exit status. -/
def loaded {α : Type} (code : Nat) : Except LoadFault α → Run α
  | .ok a => pure a
  | .error (.breakdown b) => throw (.brokenDown b)
  | .error f => do
    report (Markup.escape (f.message?.getD ""))
    exit code

end Run
end FieldFilter
