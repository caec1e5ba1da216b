import FieldFilter.Files.Path

/-!
# FieldFilter.Command.Arguments — reading options and arguments

`Arguments.read` takes a command line apart by the forms of the options it may hold.  Options have a long
name after two hyphens and perhaps a letter after one; letters can be joined, and the text after a letter
whose option takes values is its first value.
-/

namespace FieldFilter

/-- A form of option: its long name, its letter, and the number of values it takes. -/
structure OptionForm where
  name : String
  letter : Option Char := none
  arity : Nat := 0
  deriving Repr

/-- An option as given: its long name and its values. -/
structure GivenOption where
  name : String
  values : List LooseText := []
  deriving DecidableEq, Repr

/-- What is wrong with a command line. -/
inductive UsageFault where
  | unknownOption (text : LooseText)
  | missingValue (name : String)
  | unwantedValue (name : String)
  | unknownChoice (name : String) (value : LooseText)
  /-- What is given for an option cannot be a path. -/
  | noPath (name : String) (fault : PathFault)
  | missingArgument (name : String)
  | extraArguments (arguments : List LooseText)
  | missingCommand
  | unknownCommand (name : LooseText)
  deriving DecidableEq, Repr

def UsageFault.message : UsageFault → LooseText
  | unknownOption text => "No such option: " ++ text
  | missingValue name => "Option '--" ++ name ++ "' requires more values."
  | unwantedValue name => "Option '--" ++ name ++ "' does not take a value."
  | unknownChoice name value => "'" ++ value ++ "' is no value of option '--" ++ name ++ "'."
  | noPath name _ => "What is given for option '--" ++ name ++ "' cannot be a path."
  | missingArgument name => "Missing argument '" ++ name ++ "'."
  | extraArguments arguments => "Unexpected arguments: " ++ LooseText.intercalate " " arguments
  | missingCommand => "Missing command."
  | unknownCommand name => "No such command: " ++ name

/-- The options of a command line, in their order, and its other arguments. -/
structure Arguments where
  options : List GivenOption := []
  words : List LooseText := []
  deriving DecidableEq, Repr

namespace Arguments

/-- Takes the values of an option: those attached to it, then as many of the arguments after it as are
missing.  The number is that of the arguments used. -/
def takeValues (form : OptionForm) (attached after : List LooseText) :
    Except UsageFault (List GivenOption × Nat) :=
  let missing := form.arity - attached.length
  if after.length < missing then .error (.missingValue form.name)
  else .ok ([⟨form.name, attached ++ after.take missing⟩], missing)

/-- The options in letters joined after one hyphen. -/
def readLetters (forms : List OptionForm) (after : List LooseText) :
    List Mark → Except UsageFault (List GivenOption × Nat)
  | [] => .ok ([], 0)
  | m :: rest =>
    match forms.find? fun form => form.letter.map .char == some m with
    | none => .error (.unknownOption ⟨[.char '-', m]⟩)
    | some form =>
      if form.arity = 0 then do
        let (given, used) ← readLetters forms after rest
        return (⟨form.name, []⟩ :: given, used)
      else takeValues form (if rest.isEmpty then [] else [⟨rest⟩]) after

/-- The option after two hyphens.  What stands after an equals sign is its first value. -/
def readName (forms : List OptionForm) (after : List LooseText) (text : List Mark) :
    Except UsageFault (List GivenOption × Nat) :=
  let name : LooseText := ⟨text.takeWhile (· != .char '=')⟩
  match forms.find? fun form => name == form.name, text.dropWhile (· != .char '=') with
  | none, _ => .error (.unknownOption ("--" ++ name))
  | some form, [] => if form.arity = 0 then .ok ([⟨form.name, []⟩], 0) else takeValues form [] after
  | some form, _ :: value =>
    if form.arity = 0 then .error (.unwantedValue form.name)
    else takeValues form [⟨value⟩] after

/-- The options in one argument, if it is one that holds options. -/
def readOptions? (forms : List OptionForm) (after : List LooseText) :
    List Mark → Option (Except UsageFault (List GivenOption × Nat))
  | .char '-' :: .char '-' :: text => some (readName forms after text)
  | .char '-' :: m :: rest => some (readLetters forms after (m :: rest))
  | _ => none

/-- Reads a command line.  Two hyphens alone end the options; so does the first other argument, unless
options and arguments may be mixed. -/
def read (forms : List OptionForm) (mixed : Bool) : List LooseText → Except UsageFault Arguments
  | [] => .ok {}
  | argument :: after =>
    if argument = "--" then .ok { words := after }
    else
      match readOptions? forms after argument.marks with
      | some (.error e) => .error e
      | some (.ok (given, used)) => do
        let a ← read forms mixed (after.drop used)
        return { a with options := given ++ a.options }
      | none =>
        if mixed then do
          let a ← read forms mixed after
          return { a with words := argument :: a.words }
        else .ok { words := argument :: after }
termination_by arguments => arguments.length
decreasing_by all_goals (simp; try omega)

/-- Whether an option is given. -/
def has (a : Arguments) (name : String) : Bool := a.options.any (·.name == name)

/-- All values of an option, one list for each time it is given. -/
def all (a : Arguments) (name : String) : List (List LooseText) :=
  (a.options.filter (·.name == name)).map GivenOption.values

/-- The value of an option that takes one.  The last one given holds. -/
def last? (a : Arguments) (name : String) : Option LooseText := (a.all name).getLast?.bind List.head?

end Arguments
end FieldFilter
