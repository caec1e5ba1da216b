import FieldFilter.Command.Arguments
import FieldFilter.Files.Path

/-!
# FieldFilter.Command.Request — what a command line asks for

A command line holds preferences, the name of a command, and what is asked of the command.
`Opening.read` reads it up to the command's name and `Request.read` reads the rest.
-/

namespace FieldFilter

/-- An option that is answered before everything else. -/
inductive Eager where
  | help
  | version
  deriving DecidableEq, Repr

/-- How results are written. -/
inductive Format where
  | table
  | json
  deriving DecidableEq, Repr

/-- The commands. -/
inductive CommandName where
  | fields
  | filter
  | help
  | initConfig
  | options
  deriving DecidableEq, Repr

namespace CommandName

def all : List CommandName := [fields, filter, help, initConfig, options]

def word : CommandName → String
  | fields => "fields"
  | filter => "filter"
  | help => "help"
  | initConfig => "init-config"
  | options => "options"

/-- The command that a word names. -/
def ofWord? (w : LooseText) : Option CommandName := all.find? fun c => w == c.word

end CommandName

/-- What holds for every command. -/
structure Preferences where
  /-- The configuration file, where one is named. -/
  config : Option Path := none
  verbose : Bool := false
  quiet : Bool := false
  deriving DecidableEq, Repr

/-- What is asked of the command `filter`. -/
structure FilterRequest where
  expression : List LooseText := []
  /-- Conditions by field, operator and value. -/
  chips : List (LooseText × LooseText × LooseText) := []
  schema : Option Path := none
  data : Option Path := none
  format : Format := .table
  columns : Option LooseText := none
  deriving Repr

/-- What is asked of the command `options`. -/
structure OptionsRequest where
  field : LooseText
  query : LooseText := ""
  schema : Option Path := none
  json : Bool := false
  deriving Repr

/-- What is asked of the command `init-config`. -/
structure StarterRequest where
  force : Bool := false
  output : Option Path := none
  schema : Option Path := none
  data : Option Path := none
  deriving Repr

/-- A command and what is asked of it. -/
inductive Request where
  | fields (schema : Option Path) (format : Format)
  | filter (r : FilterRequest)
  | help (topics : List LooseText)
  | initConfig (r : StarterRequest)
  | options (r : OptionsRequest)
  deriving Repr

/-- The files that a request names. -/
def Request.paths : Request → List Path
  | fields schema _ => schema.toList
  | filter r => r.schema.toList ++ r.data.toList
  | help _ => []
  | initConfig r => r.output.toList
  | options r => r.schema.toList

/-! ### Forms of options -/

def helpForm : OptionForm := { name := "help" }

def schemaForm : OptionForm := { name := "schema", letter := some 's', arity := 1 }

def dataForm : OptionForm := { name := "data", letter := some 'd', arity := 1 }

def formatForm : OptionForm := { name := "format", letter := some 'f', arity := 1 }

/-- The options before the command's name. -/
def preferenceForms : List OptionForm := [
  { name := "config", letter := some 'c', arity := 1 },
  { name := "no-color" },
  { name := "verbose", letter := some 'v' },
  { name := "debug" },
  { name := "quiet", letter := some 'q' },
  { name := "version" },
  helpForm]

/-- The options of a command. -/
def CommandName.forms : CommandName → List OptionForm
  | fields => [schemaForm, formatForm, helpForm]
  | filter => [
      { name := "where", letter := some 'w', arity := 3 }, schemaForm, dataForm, formatForm,
      { name := "columns", letter := some 'C', arity := 1 }, helpForm]
  | help => [helpForm]
  | initConfig => [
      { name := "force", letter := some 'f' }, { name := "output", letter := some 'o', arity := 1 },
      { schemaForm with letter := none }, { dataForm with letter := none }, helpForm]
  | options => [schemaForm, { name := "json" }, helpForm]

/-! ### Reading -/

namespace Arguments

variable (a : Arguments)

/-- The first option given that is answered before everything else. -/
def eager? : Option Eager :=
  a.options.findSome? fun o =>
    if o.name = "help" then some .help else if o.name = "version" then some .version else none

def path? (name : String) : Option Path := (a.last? name).map Path.ofText

/-- The format asked for; tables unless another is. -/
def format : Except UsageFault Format :=
  match a.last? "format" with
  | none => .ok .table
  | some w =>
    if w = "table" then .ok .table
    else if w = "json" then .ok .json
    else .error (.unknownChoice "format" w)

/-- The options whose values are paths. -/
def pathNames : List String := ["config", "schema", "data", "output"]

/-- Checks the value that holds for an option. -/
def checkValue (o : GivenOption) : Except UsageFault Unit := do
  if o.name = "format" then
    let _ ← a.format
  if pathNames.contains o.name then
    if let some fault := (a.last? o.name).bind Path.faultIn? then throw (.noPath o.name fault)

/-- Checks the values of options, in the order in which the options are given. -/
def checkValues : Except UsageFault Unit := a.options.forM a.checkValue

/-- Refuses words past the number that is taken. -/
def noMore : List LooseText → Except UsageFault Unit
  | [] => .ok ()
  | words => .error (.extraArguments words)

/-- The conditions given as options. -/
def chips : List (LooseText × LooseText × LooseText) :=
  (a.all "where").filterMap fun
    | [field, operator, value] => some (field, operator, value)
    | _ => none

end Arguments

/-- The request that a command's arguments make. -/
def Request.ofArguments (a : Arguments) : CommandName → Except UsageFault Request
  | .fields => do
    let format ← a.format
    Arguments.noMore a.words
    return .fields (a.path? "schema") format
  | .filter => do
    return .filter {
      expression := a.words, chips := a.chips, schema := a.path? "schema", data := a.path? "data",
      format := ← a.format, columns := a.last? "columns" }
  | .help => .ok (.help a.words)
  | .initConfig => do
    Arguments.noMore a.words
    return .initConfig {
      force := a.has "force", output := a.path? "output",
      schema := a.path? "schema", data := a.path? "data" }
  | .options =>
    match a.words with
    | [] => .error (.missingArgument "FIELD")
    | field :: rest => do
      Arguments.noMore (rest.drop 1)
      return .options {
        field, query := rest.headD "", schema := a.path? "schema", json := a.has "json" }

/-- The request that the arguments after a command's name make, or an option to be answered before. -/
def Request.read (name : CommandName) (arguments : List LooseText) :
    Except UsageFault (Eager ⊕ Request) := do
  let a ← Arguments.read name.forms true arguments
  match a.eager? with
  | some e => return .inl e
  | none => do
    a.checkValues
    return .inr (← ofArguments a name)

/-- A command line up to the name of its command, and the arguments after it. -/
structure Opening where
  preferences : Preferences
  command : CommandName
  arguments : List LooseText
  deriving Repr

/-- The variable that names the configuration file where no option does. -/
def configVariable : String := "SMART_SEARCH_CONFIG"

/-- The value of an environment variable; an empty one counts as none. -/
def setting? (environment : List (LooseText × LooseText)) (name : LooseText) : Option LooseText :=
  (environment.lookup name).filter fun v => !v.isEmpty

/-- Reads a command line up to the name of its command, or to an option to be answered before.  A word in
the place of the command that looks like an option is read as one once more. -/
def Opening.read (environment : List (LooseText × LooseText)) (arguments : List LooseText) :
    Except UsageFault (Eager ⊕ Opening) := do
  let a ← Arguments.read preferenceForms false arguments
  if let some e := a.eager? then return .inl e
  a.checkValues
  match a.words with
  | [] => throw .missingCommand
  | word :: rest =>
    match CommandName.ofWord? word with
    | some command =>
      let config := (a.last? "config").or (setting? environment configVariable)
      return .inr {
        preferences := {
          config := config.map Path.ofText, verbose := a.has "verbose" || a.has "debug",
          quiet := a.has "quiet" }
        command, arguments := rest }
    | none =>
      let again ← Arguments.read preferenceForms false (word :: rest)
      if let some e := again.eager? then return .inl e
      again.checkValues
      throw (.unknownCommand word)

end FieldFilter
