import FieldFilter.Text.Loose

/-!
# FieldFilter.Files.Path — paths

A `Path` is normalised on reading: empty parts and single points are left out, while double points stay
until `Path.resolve`, which makes a path absolute and goes up for each of them.
-/

namespace FieldFilter

/-- Where a path starts.  Two leading slashes, and no more, are kept apart from one. -/
inductive PathRoot where
  | relative
  | single
  | double
  deriving DecidableEq, Repr, Inhabited

def PathRoot.text : PathRoot → String
  | relative => ""
  | single => "/"
  | double => "//"

/-- A path: its root and its parts, without empty parts and single points. -/
structure Path where
  root : PathRoot := .relative
  parts : List LooseText := []
  deriving DecidableEq, Repr, Inhabited

/-- What makes a path unusable before any file is looked for. -/
inductive PathFault where
  /-- The path holds a half of a surrogate pair that stands for no byte. -/
  | byteless
  /-- The path holds a NUL character. -/
  | nulInside
  /-- The home directory of a named user is asked for. -/
  | unknownHome (user : LooseText)
  deriving DecidableEq, Repr

namespace Path

/-- The mark is a half that stands for no byte. -/
def isByteless : Mark → Bool
  | .char _ => false
  | .half h => !h.isByte

/-- What makes a text unusable as a path or a part of one. -/
def faultIn? (t : LooseText) : Option PathFault :=
  if t.marks.any isByteless then some .byteless
  else if t.marks.contains (.char '\x00') then some .nulInside
  else none

def rootOf : List Mark → PathRoot
  | .char '/' :: .char '/' :: .char '/' :: _ => .single
  | .char '/' :: .char '/' :: _ => .double
  | .char '/' :: _ => .single
  | _ => .relative

/-- A part that leads nowhere. -/
def isIdle (part : LooseText) : Bool := part = "" || part = "."

/-- Reads a path. -/
def ofText (t : LooseText) : Path where
  root := rootOf t.marks
  parts := (t.splitOn '/').filter fun part => !isIdle part

/-- The path as text; the empty relative path is a single point. -/
def text (p : Path) : LooseText :=
  if p.root = .relative ∧ p.parts = [] then "."
  else p.root.text ++ LooseText.intercalate "/" p.parts

/-- The directory that a setting names as someone's home.  Slashes alone name the root, as no text does, and
what begins with a tilde names nothing. -/
def ofHome? (setting : LooseText) : Option Path :=
  if LooseText.isStartOf "~" setting then none
  else if setting.marks.all (· == .char '/') then some { root := .single }
  else some (ofText setting)

/-- A path that is followed from another one; an absolute path stands for itself. -/
def join (base p : Path) : Path :=
  if p.root = .relative then { base with parts := base.parts ++ p.parts } else p

/-- The path without its last part. -/
def parent (p : Path) : Path := { p with parts := p.parts.dropLast }

/-- The path with a tilde at its start, and perhaps the name of a user after it, replaced by a home
directory.  The empty name stands for the user at work. -/
def expandHome (p : Path) (home? : LooseText → Option Path) : Except PathFault Path :=
  match p.root, p.parts with
  | .relative, ⟨.char '~' :: name⟩ :: rest =>
    match faultIn? ⟨name⟩, home? ⟨name⟩ with
    | some fault, _ => .error fault
    | none, some home => .ok (home.join { parts := rest })
    | none, none => .error (.unknownHome ⟨name⟩)
  | _, _ => .ok p

/-- The parts of an absolute path without double points, each of which goes up by one. -/
def collapse (parts : List LooseText) : List LooseText :=
  parts.foldl (fun above (part : LooseText) => if part = ".." then above.dropLast else above ++ [part]) []

/-- The absolute path without double points.  A part that is unusable is refused. -/
def resolve (p directory : Path) : Except PathFault Path :=
  match p.parts.findSome? faultIn? with
  | some fault => .error fault
  | none => .ok { root := .single, parts := collapse (directory.join p).parts }

/-- The bytes of a part. -/
def partBytes (part : LooseText) : Nat :=
  (part.marks.map fun
    | .char c => c.utf8Size
    | .half _ => 1).foldl (· + ·) 0

end Path
end FieldFilter
