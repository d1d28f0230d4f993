import Std.Data.HashMap
import Postbox.Fault

/-!
# FileTree — files and directories

  A tree of files says what is at which place: a directory, or a file with its bytes. The
  root is a directory by itself. A path is followed step by step, as an operating system follows it:
  each step but the last must lead to a directory, and two dots lead to the place above. A relative
  path starts at the working directory; a path without any text leads to nothing.
-/

namespace Postbox

/-- What is at a place. -/
inductive FileTree.Node
  | directory
  | file (content : List UInt8)
deriving DecidableEq, Repr

/-- The names that lead from the root to a place. -/
abbrev FileTree.Place := List String

/-- What is at which place, and the working directory. -/
structure FileTree where
  nodes   : Std.HashMap FileTree.Place FileTree.Node := {}
  current : FileTree.Place := []
deriving Repr

namespace FileTree

/-- The parts of a path's text between its slashes. -/
structure Path where
  parts : List String
deriving DecidableEq, Repr

namespace Path

/-- The path that a text denotes. -/
def ofText (s : String) : Path := ⟨(s.toList.splitOn '/').map String.ofList⟩

/-- Whether a path starts at the root. -/
def isAbsolute (p : Path) : Bool := p.parts.length > 1 && p.parts.head? == some ""

/-- Whether a slash follows the last step, as it does only in the path of a directory. -/
def isDirectory (p : Path) : Bool := p.parts.getLast? == some ""

/-- Whether a part leads nowhere. -/
def isIdle (part : String) : Bool := part == "" || part == "."

/-- The steps of a path. A single dot is a step where it is the last one. -/
def steps (p : Path) : List String :=
  p.parts.dropLast.filter (fun s => !isIdle s) ++ (p.parts.getLast?.filter (· != "")).toList

/-- The number of bytes of a path's text. -/
def size (p : Path) : Nat :=
  (p.parts.map String.utf8ByteSize).foldl (· + ·) (p.parts.length - 1)

/-- The shortest text, in bytes, that is too long for a path. -/
def sizeLimit : Nat := 4096

/-- Whether a path has no text. -/
def isEmpty (p : Path) : Bool := p.parts == [""]

/-- Why a path cannot be followed at all, whatever there is. The empty text leads nowhere, not to
    the working directory. -/
def problem? (p : Path) : Option FileProblem :=
  if p.isEmpty then some .notFound
  else if p.parts.any fun s => s.toList.contains '\x00' then some .nulByte
  else if p.size ≥ sizeLimit then some .nameTooLong
  else none

/-- The parts up to the last one that leads somewhere. -/
def trim (parts : List String) : List String := (parts.reverse.dropWhile isIdle).reverse

/-- The directory that a path lies in. A path without parts is the working directory. -/
def parent (p : Path) : Path :=
  let above := trim (trim p.parts).dropLast
  ⟨if p.isAbsolute && above.isEmpty then ["", ""] else above⟩

end Path

/-- What is at a place. -/
def node? (place : Place) (t : FileTree) : Option Node :=
  if place.isEmpty then some .directory else t.nodes[place]?

/-- The tree with something else at a place. -/
def put (place : Place) (node : Node) (t : FileTree) : FileTree :=
  { t with nodes := t.nodes.insert place node }

/-- The longest name, in bytes. -/
def maxName : Nat := 255

/-- One step from a place that must be a directory. -/
def step (t : FileTree) (place : Place) (name : String) : Except FileProblem Place :=
  match t.node? place with
  | none           => .error .notFound
  | some (.file _) => .error .notADirectory
  | some .directory =>
    if name == "." then .ok place
    else if name == ".." then .ok place.dropLast
    else if name.utf8ByteSize > maxName then .error .nameTooLong
    else .ok (place ++ [name])

/-- The place where a path starts. -/
def start (p : Path) (t : FileTree) : Place := if p.isAbsolute then [] else t.current

/-- The place that a path leads to, where something may be or not. -/
def place (p : Path) (t : FileTree) : Except FileProblem Place := do
  if let some e := p.problem? then throw e
  p.steps.foldlM t.step (t.start p)

/-- What a path leads to. -/
def find (p : Path) (t : FileTree) : Except FileProblem Node := do
  match t.node? (← t.place p) with
  | none            => throw .notFound
  | some .directory => return .directory
  | some (.file bs) => if p.isDirectory then throw .notADirectory else return .file bs

/-- Whether a path leads to something. -/
def exists? (p : Path) (t : FileTree) : Bool := (t.find p).isOk

/-- The bytes of the file that a path leads to. -/
def read (p : Path) (t : FileTree) : Except FileProblem (List UInt8) := do
  match ← t.find p with
  | .directory => throw .isADirectory
  | .file bs   => return bs

/-- Goes on from a place by some steps, and makes the directories that are missing. A file in the
    way is one where no directory can be made, if it is the last step or one has been made
    (`hasMade`); else it is one that cannot be gone through. -/
def makeFrom (place : Place) (hasMade : Bool) :
    List String → FileTree → Except FileProblem Unit × FileTree
  | [], t           => (.ok (), t)
  | name :: rest, t =>
    match t.step place name with
    | .error e => (.error e, t)
    | .ok next =>
      match t.node? next with
      | none            => makeFrom next true rest (t.put next .directory)
      | some .directory => makeFrom next hasMade rest t
      | some (.file _)  =>
        if hasMade || rest.isEmpty then (.error .alreadyExists, t)
        else makeFrom next hasMade rest t

/-- Makes the directory that a path leads to, and those that it lies in. One that is there already
    is as good as a new one. -/
def makeDirectories (p : Path) (t : FileTree) : Except FileProblem Unit × FileTree :=
  match p.problem? with
  | some e => (.error e, t)
  | none   => makeFrom (t.start p) false p.steps t

/-- Writes the file that a path leads to. -/
def write (p : Path) (content : List UInt8) (t : FileTree) : Except FileProblem FileTree := do
  let place ← t.place p
  if p.isDirectory || t.node? place == some .directory then throw .isADirectory
  return t.put place (.file content)

end FileTree

end Postbox
