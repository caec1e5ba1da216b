import FieldFilter.Command.Report
import FieldFilter.Command.Request
import FieldFilter.Command.Starter
import FieldFilter.Command.Transcript
import FieldFilter.Filter.Render
import FieldFilter.Rows
import FieldFilter.Schema.Document
import FieldFilter.Session
import FieldFilter.Settings

/-!
# FieldFilter.Command.Program — the commands at work

`Program.run` answers a command line: it reads the preferences, loads the configuration, reads what is
asked of the command and carries it out.  Everything it needs to know of the world is the environment and
the workspace that it is given.
-/

namespace FieldFilter

open Console

/-- What a command works with. -/
structure Context where
  workspace : Workspace
  settings : Settings
  verbose : Bool := false
  quiet : Bool := false

namespace Program

/-- The exit status for input that makes no sense. -/
def invalidInput : Nat := 1

/-- The exit status for files that cannot be used. -/
def unusableFile : Nat := 2

def versionLine : String := "smart-search, version 0.1.0"

/-- How a command is used, or the whole program. -/
def usageLine : Option CommandName → String
  | none => "Usage: smart-search [OPTIONS] COMMAND [ARGS]..."
  | some .fields => "Usage: smart-search fields [OPTIONS]"
  | some .filter => "Usage: smart-search filter [OPTIONS] [EXPRESSION]..."
  | some .help => "Usage: smart-search help [OPTIONS] [COMMAND]..."
  | some .initConfig => "Usage: smart-search init-config [OPTIONS]"
  | some .options => "Usage: smart-search options [OPTIONS] FIELD [QUERY]"

/-- A line for each option, and for the whole program a line for each command. -/
def helpText (command : Option CommandName) : String :=
  let forms := (command.map CommandName.forms).getD preferenceForms
  let options := forms.map fun f => "  --" ++ f.name
  let commands := if command.isNone then "Commands:" :: CommandName.all.map ("  " ++ ·.word) else []
  "\n".intercalate (usageLine command :: "Options:" :: options ++ commands)

open Run

/-- Answers an option that comes before everything else. -/
def answerEager (command : Option CommandName) : Eager → Run Unit
  | .help => echo (helpText command)
  | .version => echo versionLine

/-- Prints a piece of information where much is to be told. -/
def detail (c : Context) (markup : LooseText) : Run Unit := if c.verbose then inform markup else pure ()

/-- Loads the schema: the file given, else the configured one. -/
def loadRegistry (c : Context) (given : Option Path) : Run Registry := do
  match Settings.schemaFile (some c.settings) given with
  | none =>
    report "No schema file given"
    hint "Pass --schema or set paths.schema in the config"
    exit unusableFile
  | some path =>
    let r ← loaded unusableFile (Schema.load c.workspace path)
    detail c ("Loaded " ++ toString r.size ++ " fields from " ++ Markup.escape path.text)
    return r

/-! ### Fields and their options -/

def fields (c : Context) (schema : Option Path) (format : Format) : Run Unit := do
  let r ← loadRegistry c schema
  match format with
  | .json => echo (Json.indented 0 (Report.fieldValues r))
  | .table => showTable (Report.fieldTable r)

/-- The keys of a schema as markup. -/
def keyList (r : Registry) : LooseText := Markup.escape (LooseText.intercalate ", " r.keys)

def options (c : Context) (q : OptionsRequest) : Run Unit := do
  let r ← loadRegistry c q.schema
  match (r.find q.field).bind r.get? with
  | none =>
    report (Markup.escape (Fault.message (.unknownField q.field)))
    hint ("Available: " ++ keyList r)
    exit invalidInput
  | some f =>
    if f.type.hasChoices then
      let (found, _) ← orBreak ((f.resolve q.query).mapError .raised)
      if q.json then echo (Json.inlineTexts found) else found.forM echo
    else
      inform (Markup.escape f.label ++ " takes free-form " ++ f.type.word ++ " values (e.g. " ++
        f.type.placeholder ++ ")")

/-! ### Filtering rows -/

/-- The session after chips are added one by one, up to the first that is refused. -/
def addChips (s : Session) : List (LooseText × LooseText × LooseText) → Except Fault Session
  | [] => .ok s
  | (field, operator, value) :: rest => do
    let reply := s.add field operator value
    let _ ← reply.answer
    addChips reply.session rest

/-- The filter of a session and the filter of an expression together. -/
def combine (chips expression : Node) : Node :=
  match chips, expression with
  | .everything, m => m
  | n, .everything => n
  | n, m => n.append m

/-- The chips and the whole filter that are asked for. -/
def buildFilter (r : Registry) (q : FilterRequest) : Except Fault (List Condition × Node) := do
  let s ← addChips { registry := r } q.chips
  let parsed ← r.parse (LooseText.intercalate " " q.expression)
  return (s.chips, combine s.filter parsed)

/-- A chip with the label of its field, after its number. -/
def chipLine (r : Registry) (number : Nat) (c : Condition) : LooseText :=
  Markup.escape ("[" ++ toString number ++ "]") ++ " " ++
    Markup.styled "chip.label" (Markup.escape (Report.label r c.field) ++ ":") ++ " " ++
    Markup.styled "chip.operator" (Markup.escape c.operator) ++ " " ++
    Markup.styled "chip.value" (Markup.escape c.value)

/-- How many rows of all. -/
def share (matched rows : List Record) : String :=
  toString matched.length ++ " of " ++ toString rows.length ++ " rows"

/-- Shows the rows that match in a table, with the filter below it. -/
def showRows (c : Context) (q : FilterRequest) (r : Registry) (n : Node)
    (rows matched : List Record) : Run Unit := do
  let chosen := Settings.shownColumns (some c.settings) q.columns
  let columns := if chosen.isEmpty then Rows.columns rows else chosen
  showTable (Report.rowTable r columns matched)
  if !c.quiet then
    let text : LooseText := if n.render.isEmpty then "(no filter)" else n.render
    inform ("Filter: " ++ Markup.escape text ++ " (" ++ share matched rows ++ ")")

def filter (c : Context) (q : FilterRequest) : Run Unit := do
  let r ← loadRegistry c q.schema
  match Settings.dataFile (some c.settings) q.data with
  | none =>
    report "No data file given"
    hint "Pass --data or set paths.data in the config"
    exit unusableFile
  | some data =>
    match buildFilter r q with
    | .error f =>
      report ("Invalid filter: " ++ Markup.escape f.message)
      hint ("Fields: " ++ keyList r)
      exit invalidInput
    | .ok (chips, n) =>
      if c.verbose then
        chips.zipIdx.forM fun (chip, number) => sayEvenly (chipLine r number chip)
      let rows ← loaded unusableFile (Rows.load c.workspace data)
      let matched ← compared (filterOn id n rows)
      detail c (toString n.countConditions ++ " conditions, " ++ share matched rows ++ " matched")
      match q.format with
      | .json => echo (Json.indented 0 (Rows.toValue matched))
      | .table =>
        if matched.isEmpty then inform ("No rows match: " ++ Markup.escape n.render)
        else showRows c q r n rows matched

/-! ### The configuration to start from -/

/-- A given path, resolved. -/
def resolved (c : Context) : Option Path → Run (Option Path)
  | none => pure none
  | some p => do return some (← orBreak (c.workspace.locate p))

def initConfig (c : Context) (q : StarterRequest) : Run Unit := do
  let path ← orBreak (c.workspace.locate (q.output.getD Settings.defaultPath))
  if (← orBreak (c.workspace.isPresent path)) && !q.force then
    report ("Config file already exists: " ++ Markup.escape path.text)
    hint "Use --force to overwrite"
    exit invalidInput
  let schema ← resolved c q.schema
  let data ← resolved c q.data
  let text := Starter.document schema data
  match c.workspace.write path .empty with
  | .error _ =>
    report ("Failed to write config file: " ++ unspecifiedDetail)
    exit unusableFile
  | .ok _ =>
    save path text
    say (Markup.styled "success" ("Created config file: " ++ Markup.escape path.text))
    if schema.isNone || data.isNone then
      inform "Edit \\[paths] to point at your schema and data files."

/-! ### Help -/

/-- Shows how a command is used, or how the whole program is. -/
def help : List LooseText → Run Unit
  | [] => echo (helpText none)
  | topic :: _ =>
    match CommandName.ofWord? topic with
    | some command => echo (helpText (some command))
    | none => do
      report ("Unknown command: " ++ Markup.escape topic)
      exit invalidInput

/-! ### The whole program -/

def carryOut (c : Context) : Request → Run Unit
  | .fields schema format => fields c schema format
  | .filter q => filter c q
  | .help topics => help topics
  | .initConfig q => initConfig c q
  | .options q => options c q

/-- Whether a notice is to be shown.  That there is no configuration is no surprise where none is named. -/
def isShown (p : Preferences) : Notice → Bool
  | .noConfiguration _ => !p.quiet && (p.config.isSome || p.verbose)
  | _ => !p.quiet

/-- Loads the configuration and shows the notices about it. -/
def prepare (w : Workspace) (p : Preferences) : Run Context := do
  let (settings, notices) ← loaded invalidInput (Settings.load w p.config)
  (notices.filter (isShown p)).forM fun n => warn (Markup.escape n.message)
  return { workspace := w, settings, verbose := p.verbose, quiet := p.quiet }

/-- What was read from a command line; a misuse ends the run, and so does a path that is none. -/
def understood {α : Type} : Except UsageFault α → Run α
  | .ok a => pure a
  | .error (.noPath _ fault) => throw (.brokenDown (.path fault))
  | .error f => throw (.misused f)

/-- The run that a command line asks for. -/
def serve (w : Workspace) (environment : List (LooseText × LooseText)) (arguments : List LooseText) :
    Run Unit := do
  match ← understood (Opening.read environment arguments) with
  | .inl e => answerEager none e
  | .inr opening =>
    let c ← prepare w opening.preferences
    match ← understood (Request.read opening.command opening.arguments) with
    | .inl e => answerEager (some opening.command) e
    | .inr request => carryOut c request

/-- Answers a command line. -/
def run (w : Workspace) (environment : List (LooseText × LooseText)) (arguments : List LooseText) : Outcome :=
  (serve w environment arguments).outcome

end Program
end FieldFilter
