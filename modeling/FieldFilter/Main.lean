import FieldFilter.Command.Program

/-!
# FieldFilter.Main — the command line

Brings the files that a command line names into a workspace, answers the command line, and writes what it
leads to.
-/

namespace FieldFilter.CommandLine

/-- The path that parts lead to from the root. -/
def absolute (parts : List LooseText) : String := ({ root := .single, parts } : Path).text.escaped

/-- Adds what is at the end of some parts to a tree: a file with its bytes, or a directory. -/
def addEntry (root : Entry) (parts : List LooseText) : IO Entry := do
  try
    let bytes ← IO.FS.readBinFile (absolute parts)
    return ((root.makeDirectories parts.dropLast).bind (·.write bytes parts)).toOption.getD root
  catch
    | .noFileOrDirectory .. => return root
    | _ => return (root.makeDirectories parts).toOption.getD root

/-- Adds what is at a path and at every step on the way to it. -/
def addPath (w : Workspace) (p : Path) : IO Workspace := do
  match w.expandHome p with
  | .error _ => return w
  | .ok p =>
    let parts := w.partsOf p
    let steps := (List.range parts.length).map fun n => Path.collapse (parts.take (n + 1))
    return { w with root := ← steps.foldlM addEntry w.root }

/-- Adds every file that a command line names, itself or through its configuration. -/
def gather (w : Workspace) (environment : List (LooseText × LooseText)) (arguments : List LooseText) :
    IO Workspace := do
  match Opening.read environment arguments with
  | .ok (.inr opening) =>
    let config := opening.preferences.config.getD Settings.defaultPath
    let named := match Request.read opening.command opening.arguments with
      | .ok (.inr request) => request.paths
      | _ => []
    let w ← (config :: named).foldlM addPath w
    match Settings.load w opening.preferences.config with
    | .ok (s, _) => (s.schemaPath.toList ++ s.dataPath.toList).foldlM addPath w
    | .error _ => return w
  | _ => return w

/-- The user and the home directory in a line of the list of users. -/
def homeOf? (line : LooseText) : Option (LooseText × Path) :=
  match line.splitOn ':' with
  | [user, _, _, _, _, home, _] => (Path.ofHome? home).map (user, ·)
  | _ => none

/-- The home directories of the users of this system. -/
def homes : IO (List (LooseText × Path)) := do
  try
    let text ← IO.FS.readFile "/etc/passwd"
    return ((text : LooseText).splitOn '\n').filterMap homeOf?
  catch _ => return []

/-- Writes a file, and the directories above it. -/
def save (path : Path) (text : String) : IO Unit := do
  IO.FS.createDirAll path.parent.text.escaped
  IO.FS.writeFile path.text.escaped text

/-- What is written to the error stream at the end. -/
def lastWords : Ending → String
  | .status _ => ""
  | .misused f => Program.usageLine none ++ "\n\nError: " ++ f.message.escaped ++ "\n"
  | .brokenDown b => "Error: " ++ b.message ++ "\n"

end FieldFilter.CommandLine

open FieldFilter in
/-- Answers the command line. -/
def main (words : List String) : IO UInt32 := do
  let arguments := words.map LooseText.ofString
  let directory := Path.ofText (← IO.currentDir).toString
  let home := Path.ofHome? ((← IO.getEnv "HOME").getD "/")
  let environment := ((← IO.getEnv configVariable).map fun v =>
    (LooseText.ofString configVariable, LooseText.ofString v)).toList
  let homes ← CommandLine.homes
  let w ← CommandLine.gather { root := .directory [], directory, home, homes } environment arguments
  let o := Program.run w environment arguments
  o.transcript.saved.forM fun (path, text) => CommandLine.save path text
  IO.print o.transcript.output
  IO.eprint (o.transcript.errors ++ CommandLine.lastWords o.ending)
  return o.ending.code.toUInt32
