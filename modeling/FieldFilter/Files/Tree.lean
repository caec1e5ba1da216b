import FieldFilter.Files.Path

/-!
# FieldFilter.Files.Tree — a directory tree as a value

An `Entry` is a file with its bytes or a directory with its entries.  Paths are followed part by part, so
every part but the last has to be an existing directory.
-/

namespace FieldFilter

/-- A file or a directory. -/
inductive Entry where
  | file (bytes : ByteArray)
  | directory (entries : List (LooseText × Entry))
  deriving Inhabited

/-- Why a file cannot be used. -/
inductive FileFault where
  | notFound
  | notDirectory
  | isDirectory
  | alreadyExists
  | nameTooLong
  deriving DecidableEq, Repr

/-- The wording of a fault. -/
def FileFault.message : FileFault → String
  | notFound => "No such file or directory"
  | notDirectory => "Not a directory"
  | isDirectory => "Is a directory"
  | alreadyExists => "File exists"
  | nameTooLong => "File name too long"

namespace Entry

/-- The most bytes that one name may have. -/
def maxNameBytes : Nat := 255

/-- Follows parts from an entry, of which the directories above are given, nearest first. -/
def follow (above : List Entry) (here : Entry) : List LooseText → Except FileFault Entry
  | [] => .ok here
  | part :: rest =>
    match here with
    | file _ => .error .notDirectory
    | directory entries =>
      if part = ".." then
        match above with
        | [] => follow [] here rest
        | up :: above => follow above up rest
      else if maxNameBytes < Path.partBytes part then .error .nameTooLong
      else
        match entries.lookup part with
        | none => .error .notFound
        | some e => follow (here :: above) e rest

/-- The bytes of the file at the end of some parts. -/
def read (root : Entry) (parts : List LooseText) : Except FileFault ByteArray :=
  match follow [] root parts with
  | .error e => .error e
  | .ok (file bytes) => .ok bytes
  | .ok (directory _) => .error .isDirectory

/-- Whether there is anything at the end of some parts. -/
def hasEntry (root : Entry) (parts : List LooseText) : Except FileFault Bool :=
  match follow [] root parts with
  | .ok _ => .ok true
  | .error .notFound | .error .notDirectory => .ok false
  | .error e => .error e

/-- Puts an entry under a name: in the place of the one there, else at the end. -/
def put (name : LooseText) (e : Entry) : List (LooseText × Entry) → List (LooseText × Entry)
  | [] => [(name, e)]
  | (n, old) :: rest => if n = name then (n, e) :: rest else (n, old) :: put name e rest

/-- The directories along some parts, made where they are missing. -/
def makeDirectories (here : Entry) : List LooseText → Except FileFault Entry
  | [] =>
    match here with
    | directory _ => .ok here
    | file _ => .error .alreadyExists
  | part :: rest =>
    match here with
    | file _ => .error .notDirectory
    | directory entries =>
      if maxNameBytes < Path.partBytes part then .error .nameTooLong
      else do
        let inner := (entries.lookup part).getD (directory [])
        return directory (put part (← makeDirectories inner rest) entries)

/-- The tree with a file at the end of some parts; its directory has to exist. -/
def write (bytes : ByteArray) (here : Entry) : List LooseText → Except FileFault Entry
  | [] => .error .isDirectory
  | [name] =>
    match here with
    | file _ => .error .notDirectory
    | directory entries =>
      if maxNameBytes < Path.partBytes name then .error .nameTooLong
      else
        match entries.lookup name with
        | some (directory _) => .error .isDirectory
        | _ => .ok (directory (put name (file bytes) entries))
  | part :: rest =>
    match here with
    | file _ => .error .notDirectory
    | directory entries =>
      match entries.lookup part with
      | none => .error .notFound
      | some e => do return directory (put part (← write bytes e rest) entries)

end Entry

/-- The tree of all files, the directory that relative paths start from, and the home directories, which may
be relative themselves. -/
structure Workspace where
  root : Entry
  directory : Path
  /-- The home directory of the user at work. -/
  home : Option Path
  /-- The home directories of users by their names. -/
  homes : List (LooseText × Path) := []
  deriving Inhabited

namespace Workspace

variable (w : Workspace)

/-- The parts that lead from the root of the tree along a path. -/
def partsOf (p : Path) : List LooseText := (w.directory.join p).parts

/-- The number of bytes from which on a path is too long. -/
def pathBytesLimit : Nat := 4096

/-- Refuses a path that is too long. -/
def checkLength (p : Path) : Except FileFault Unit :=
  if pathBytesLimit ≤ Path.partBytes p.text then .error .nameTooLong else .ok ()

def read (p : Path) : Except FileFault ByteArray := do
  checkLength p
  w.root.read (w.partsOf p)

def hasEntry (p : Path) : Except FileFault Bool := do
  checkLength p
  w.root.hasEntry (w.partsOf p)

/-- The home directory of a user; the empty name stands for the user at work. -/
def home? (user : LooseText) : Option Path := if user.isEmpty then w.home else w.homes.lookup user

def expandHome (p : Path) : Except PathFault Path := p.expandHome w.home?

/-- The absolute path without double points, after its tilde is replaced. -/
def resolve (p : Path) : Except PathFault Path := do
  (← w.expandHome p).resolve w.directory

/-- Writes a file at a resolved path; missing directories are made. -/
def write (p : Path) (bytes : ByteArray) : Except FileFault Workspace := do
  checkLength p
  let root ← w.root.makeDirectories p.parts.dropLast
  return { w with root := ← root.write bytes p.parts }

end Workspace
end FieldFilter
