import FieldFilter.Filter.Operator
import FieldFilter.LoadFault
import FieldFilter.Toml.Document
import FieldFilter.Toml.Writer

/-!
# FieldFilter.Settings — configuration files

A configuration names the schema file, the file of rows, the columns shown and whether output is colored.
`Settings.load` reads one, with paths relative to it, and `Settings.save` writes one.
-/

namespace FieldFilter

/-- A configuration and the path it was loaded from. -/
structure Settings where
  schemaPath : Option Path := none
  dataPath : Option Path := none
  coloredOutput : Bool := true
  /-- The columns shown in tables; none stands for every column. -/
  columns : List LooseText := []
  source : Option Path := none
  deriving DecidableEq, Repr, Inhabited

/-- Something about a configuration that is worth telling but does no harm. -/
inductive Notice where
  | noConfiguration (path : Path)
  | noSchemaFile (path : Path)
  | noDataFile (path : Path)
  deriving DecidableEq, Repr

/-- The wording of a notice. -/
def Notice.message : Notice → LooseText
  | noConfiguration path =>
    "No config file found at " ++ path.text ++ ". Using defaults. " ++
      "Create config with: smart-search init-config"
  | noSchemaFile path => "Schema file not found: " ++ path.text
  | noDataFile path => "Data file not found: " ++ path.text

namespace Settings

open Toml (Datum Table)

/-- The file used where no other is named. -/
def defaultPath : Path := Path.ofText "~/.config/smart-search/config.toml"

/-- The absolute form of a path that is relative to a directory. -/
def absolute (w : Workspace) (base p : Path) : Except Breakdown Path := do
  match w.expandHome p with
  | .error e => throw (.path e)
  | .ok p => ((base.join p).resolve w.directory).mapError .path

/-- The absolute form of a path in the configuration, with a notice if nothing is there. -/
def checkPath (w : Workspace) (base : Path) (missing : Path → Notice) :
    Option Path → Except Breakdown (Option Path × List Notice)
  | none => .ok (none, [])
  | some p => do
    let p ← absolute w base p
    return (some p, if ← w.isPresent p then [] else [missing p])

/-- The configuration with absolute paths, and notices about files that are not there.  Paths are relative
to the configuration's own directory. -/
def check (s : Settings) (w : Workspace) : Except Breakdown (Settings × List Notice) := do
  let base := (s.source.map Path.parent).getD w.directory
  let (schemaPath, missingSchema) ← checkPath w base .noSchemaFile s.schemaPath
  let (dataPath, missingData) ← checkPath w base .noDataFile s.dataPath
  return ({ s with schemaPath, dataPath }, missingSchema ++ missingData)

/-- What is under a key of a section.  A text or an array in the place of the section has nothing under a
key that does not occur in it. -/
def entryOf (sectionName key : String) : Option Datum → Except LoadFault (Option Datum)
  | none => .ok none
  | some (.table entries) => .ok (entries.lookup key)
  | some (.text s) =>
    if Text.occursIn key.toList s.toList then .error (.breakdown (.notTable sectionName)) else .ok none
  | some (.array items) =>
    if (items.filterMap Datum.text?).contains key then .error (.breakdown (.notTable sectionName))
    else .ok none
  | some _ => .error (.breakdown (.notTable sectionName))

/-- A path in a configuration. -/
def pathEntry (e : Entitled) : Option Datum → Except LoadFault (Option Path)
  | none => .ok none
  | some (.text s) => .ok (some (Path.ofText s))
  | some _ => .error (.entry e)

def flagEntry (e : Entitled) (fallback : Bool) : Option Datum → Except LoadFault Bool
  | none => .ok fallback
  | some (.boolean b) => .ok b
  | some _ => .error (.entry e)

def textsEntry (e : Entitled) : Option Datum → Except LoadFault (List LooseText)
  | none => .ok []
  | some d =>
    match d.texts? with
    | some texts => .ok (texts.map .ofString)
    | none => .error (.entry e)

/-- The configuration that a document describes. -/
def ofTable (document : Table) (source : Path) : Except LoadFault Settings := do
  let paths := document.lookup "paths"
  let schemaPath ← pathEntry .schemaPath (← entryOf "paths" "schema" paths)
  let dataPath ← pathEntry .dataPath (← entryOf "paths" "data" paths)
  let display := document.lookup "display"
  let coloredOutput ← flagEntry .coloredOutput true (← entryOf "display" "colored_output" display)
  let columns ← textsEntry .columns (← entryOf "display" "columns" display)
  return { schemaPath, dataPath, coloredOutput, columns, source := some source }

/-- Loads a configuration, with notices.  Where there is no file the defaults hold. -/
def load (w : Workspace) (path : Option Path) : Except LoadFault (Settings × List Notice) := do
  let p ← (w.locate (path.getD defaultPath)).mapError .breakdown
  if ← (w.isPresent p).mapError .breakdown then
    let bytes ← (w.read p).mapError fun e => .breakdown (.file e)
    match Toml.Document.decode bytes with
    | .error .notUtf8 => throw (.breakdown .notUtf8)
    | .error .numeralTooLong => throw (.breakdown .numeralTooLong)
    | .error .tooDeep => throw (.breakdown .tooDeep)
    | .error .malformed => throw (.configuration p)
    | .ok document =>
      let s ← ofTable document p
      (s.check w).mapError .breakdown
  else return ({}, [.noConfiguration p])

/-- The sections of the configuration file. -/
def sections (s : Settings) : List (String × List (String × Toml.Setting)) :=
  let columns := if s.columns.isEmpty then [] else [("columns", Toml.Setting.texts s.columns)]
  let path (key : String) (p : Option Path) : List (String × Toml.Setting) :=
    (p.map fun p => (key, Toml.Setting.text p.text)).toList
  let paths := path "schema" s.schemaPath ++ path "data" s.dataPath
  ("display", ("colored_output", .flag s.coloredOutput) :: columns) ::
    (if paths.isEmpty then [] else [("paths", paths)])

/-- The configuration as the text of a file. -/
def write (s : Settings) : LooseText := Toml.writeSections s.sections

/-- The path that a configuration is saved to. -/
def target (s : Settings) (w : Workspace) (path : Option Path) : Except Breakdown Path :=
  w.locate ((path.or s.source).getD defaultPath)

/-- Saves a configuration: to the path given, else to where it came from, else to the default place. -/
def save (s : Settings) (w : Workspace) (path : Option Path) : Except Breakdown Workspace := do
  let p ← s.target w path
  match s.write.whole? with
  | some text => (w.write p text.toUTF8).mapError .file
  | none =>
    let _ ← (w.write p .empty).mapError .file
    throw .byteless

/-! ### What is used -/

/-- The schema file to use: the one given, else the configured one. -/
def schemaFile (s : Option Settings) (given : Option Path) : Option Path :=
  given.or (s.bind schemaPath)

/-- The file of rows to use: the one given, else the configured one. -/
def dataFile (s : Option Settings) (given : Option Path) : Option Path :=
  given.or (s.bind dataPath)

/-- The columns named in a list between commas; blank names are left out. -/
def splitColumns (t : LooseText) : List LooseText :=
  ((t.splitOn ',').map LooseText.strip).filter fun name => !name.isEmpty

/-- The columns to show: those given, unless the text is empty, else the configured ones. -/
def shownColumns (s : Option Settings) (given : Option LooseText) : List LooseText :=
  match given with
  | some text => if text.isEmpty then (s.map columns).getD [] else splitColumns text
  | none => (s.map columns).getD []

end Settings
end FieldFilter
