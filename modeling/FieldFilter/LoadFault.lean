import FieldFilter.DecodeFault
import FieldFilter.Fault
import FieldFilter.Files.Tree

/-!
# FieldFilter.LoadFault — what can be wrong with a file

Files are refused with a message that names the file and the reason.  A few conditions have no message of
their own; these are a `Breakdown`.
-/

namespace FieldFilter

/-- What ends an operation without a message. -/
inductive Breakdown where
  | outOfRange (integer : Int)
  | path (fault : PathFault)
  | file (fault : FileFault)
  | notUtf8
  | numeralTooLong
  | tooDeep
  | raised (what : Raised)
  /-- A section of a configuration is no table. -/
  | notTable (sectionName : String)
  /-- What is to be written holds a half of a surrogate pair, for which there are no bytes. -/
  | byteless
  /-- A text is to be cut past its signs, which take some columns. -/
  | uncut (columns : Nat)
  deriving DecidableEq, Repr

/-- An account of a breakdown for whoever looks into it. -/
def Breakdown.message : Breakdown → String
  | outOfRange integer => toString integer ++ " is past the range of doubles"
  | path .byteless => "a path holds half of a surrogate pair"
  | path .nulInside => "a path holds a NUL character"
  | path (.unknownHome user) =>
    "the home directory of " ++ (if user.isEmpty then "the user" else user.escaped) ++ " is not known"
  | file fault => fault.message
  | notUtf8 => "a configuration is not UTF-8"
  | numeralTooLong => "an integer has more than " ++ toString maxIntegerDigits ++ " digits"
  | tooDeep => "brackets stand in too many brackets"
  | raised what => (Fault.message (.raised what)).escaped
  | notTable sectionName => sectionName ++ " is no table"
  | byteless => "half of a surrogate pair cannot be written"
  | uncut columns => "a text cannot be cut after column " ++ toString columns

/-- Why a schema file is refused. -/
inductive SchemaReason where
  | file (fault : FileFault)
  | undecodable
  | noFields
  | notTable (key : LooseText)
  | type (key : LooseText)
  | label (key : LooseText)
  | options (key : LooseText)
  | repeatedKey (key : LooseText)
  deriving DecidableEq, Repr

/-- Why a document is no schema: it is refused for a reason, or an account of what is wrong breaks down. -/
inductive SchemaFault where
  | refused (reason : SchemaReason)
  | brokenDown (b : Breakdown)
  deriving DecidableEq, Repr

/-- Why a file of rows is refused. -/
inductive RowsReason where
  | file (fault : FileFault)
  | undecodable
  | notArray
  | notObject (row : Nat)
  deriving DecidableEq, Repr

/-- An entry of a configuration that has to be of a certain kind. -/
inductive Entitled where
  | schemaPath
  | dataPath
  | coloredOutput
  | columns
  deriving DecidableEq, Repr

/-- Why a file cannot be loaded. -/
inductive LoadFault where
  | schema (path : Path) (reason : SchemaReason)
  | rows (path : Path) (reason : RowsReason)
  | configuration (path : Path)
  | entry (e : Entitled)
  | breakdown (b : Breakdown)
  deriving DecidableEq, Repr

/-- The fault of a file whose document is no schema. -/
def SchemaFault.inFile (path : Path) : SchemaFault → LoadFault
  | refused reason => .schema path reason
  | brokenDown b => .breakdown b

/-- The wording of a file's fault where a file is loaded. -/
def FileFault.reason : FileFault → String
  | notFound => "file not found"
  | nameTooLong => unspecifiedDetail
  | f => f.message

def SchemaReason.message : SchemaReason → LooseText
  | file fault => fault.reason
  | undecodable => unspecifiedDetail
  | noFields => "expected at least one [fields.<key>] table"
  | notTable key => "fields." ++ key ++ " must be a table"
  | type key =>
    "fields." ++ key ++ ".type must be one of: " ++ ", ".intercalate (FieldType.all.map FieldType.word)
  | label key => "fields." ++ key ++ ".label must be a string"
  | options key => "fields." ++ key ++ ".options must be a list of strings"
  | repeatedKey key => "fields." ++ key ++ " comes twice"

def RowsReason.message : RowsReason → String
  | file fault => fault.reason
  | undecodable => unspecifiedDetail
  | notArray => "expected a JSON array of objects"
  | notObject row => "row " ++ toString row ++ " is not an object"

/-- The name of an entry, its section before a point. -/
def Entitled.name : Entitled → String
  | schemaPath => "paths.schema"
  | dataPath => "paths.data"
  | coloredOutput => "display.colored_output"
  | columns => "display.columns"

/-- What an entry has to be. -/
def Entitled.demand : Entitled → String
  | schemaPath | dataPath => "must be a string path"
  | coloredOutput => "must be a boolean"
  | columns => "must be a list of strings"

/-- The wording of a fault; a breakdown has none. -/
def LoadFault.message? : LoadFault → Option LooseText
  | schema path reason => some ("Invalid schema at " ++ path.text ++ ": " ++ reason.message)
  | rows path reason => some ("Invalid data at " ++ path.text ++ ": " ++ reason.message)
  | configuration path => some ("Invalid config at " ++ path.text ++ ": " ++ unspecifiedDetail)
  | entry e => some ("Invalid config value for '" ++ e.name ++ "': " ++ e.demand : String)
  | breakdown _ => none

namespace Workspace

variable (w : Workspace)

/-- The path with its tilde replaced, for a file that is to be opened as it is. -/
def openable (p : Path) : Except Breakdown Path := do
  match w.expandHome p with
  | .error e => throw (.path e)
  | .ok p =>
    match Path.faultIn? p.text with
    | some fault => throw (.path fault)
    | none => return p

/-- The resolved path. -/
def locate (p : Path) : Except Breakdown Path :=
  match w.resolve p with
  | .ok p => .ok p
  | .error e => .error (.path e)

/-- Whether there is anything at a resolved path. -/
def isPresent (p : Path) : Except Breakdown Bool :=
  match w.hasEntry p with
  | .ok b => .ok b
  | .error e => .error (.file e)

end Workspace
end FieldFilter
