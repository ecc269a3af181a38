import LanguageClient.Storage.IoError
import LanguageClient.Storage.Path
import LanguageClient.Text.Utf8

/-!
# Files

The part of a file system that the client reads and writes, as data: directories, and files with
their bytes and whether they may be executed.  A place is the list of names from the root to it; a
path is text, and `resolve` follows it from a working directory to a place, step by step, so that a
step out of something that is no directory fails where the system would fail.

The tree is a list of places with what is there.  The root is always a directory, and so is
everything on the way to a place that `put` fills.
-/

namespace LanguageClient

/-- The names from the root to a place. -/
abbrev Place := List String

/-- What is at a place. -/
inductive Node
  | directory
  | file (content : List UInt8) (executable : Bool)
  deriving DecidableEq, Inhabited, Repr

/-- Places and what is there; of two entries for one place the first counts. -/
structure FileTree where
  entries : List (Place × Node) := []
  deriving Inhabited, Repr

namespace FileTree

def node? (t : FileTree) (p : Place) : Option Node :=
  if p.isEmpty then some .directory else t.entries.lookup p

/-- The tree with something at a place, whatever was there. -/
def set (t : FileTree) (p : Place) (n : Node) : FileTree :=
  ⟨(p, n) :: t.entries.filter (·.1 ≠ p)⟩

/-- The directories on the way to a place, the outermost first. -/
def parents (p : Place) : List Place :=
  (List.range p.length).map p.take

/-- Fills a place and makes the directories on the way to it. -/
def put (t : FileTree) (p : Place) (n : Node) : FileTree :=
  ((parents p).foldl (fun t d => if (t.node? d).isSome then t else t.set d .directory) t).set p n

/-- Removes a place and everything below it. -/
def removeTree (t : FileTree) (p : Place) : FileTree :=
  ⟨t.entries.filter fun (q, _) => !p.isPrefixOf q⟩

/-- The names in a directory. -/
def names (t : FileTree) (p : Place) : List String :=
  t.entries.filterMap fun (q, _) =>
    if q.length = p.length + 1 && p.isPrefixOf q then q.getLast? else none

/-! ## Paths -/

/-- How many bytes a name may have. -/
def maxNameBytes : Nat := 255

/-- How many bytes a path may have. -/
def maxPathBytes : Nat := 4095

/-- Follows segments from a place.  Every segment but a name at the very end has to start in a
directory, and none is looked up that is too long for a name; that last name may be missing. -/
def walk (t : FileTree) (at_ : Place) : List (List Char) → Except OsError Place
  | [] => .ok at_
  | s :: rest =>
    match t.node? at_ with
    | none => .error .notFound
    | some (.file _ _) => .error .notADirectory
    | some .directory =>
      if Path.isIdle s then t.walk at_ rest
      else if s = ['.', '.'] then t.walk at_.dropLast rest
      else if (String.ofList s).utf8ByteSize > maxNameBytes then .error .nameTooLong
      else t.walk (at_ ++ [String.ofList s]) rest

/-- The place that a path names for someone in a working directory. -/
def resolve (t : FileTree) (cwd : Place) (path : String) : Except IoError Place :=
  if path.contains '\x00' then .error .zeroInPath
  else if path.isEmpty then .error (.system .notFound)
  else if path.utf8ByteSize > maxPathBytes then .error (.system .nameTooLong)
  else
    (match Path.split path.toList with
      | (.root, segments) => t.walk [] segments
      | (.dot, segments) => t.walk cwd segments
      | (.nothing, segments) => t.walk cwd segments).mapError .system

/-- What a path names. -/
def find (t : FileTree) (cwd : Place) (path : String) : Except IoError (Place × Node) := do
  let p ← t.resolve cwd path
  match t.node? p with
  | some n => .ok (p, n)
  | none => .error (.system .notFound)

/-- The path of the place that a path names, without detours. -/
def canonical (t : FileTree) (cwd : Place) (path : String) : Except IoError String := do
  let (p, _) ← t.find cwd path
  return Path.absolute p

/-- Whether a path names a regular file. -/
def isFile (t : FileTree) (cwd : Place) (path : String) : Bool :=
  match t.find cwd path with
  | .ok (_, .file _ _) => true
  | _ => false

def exists? (t : FileTree) (cwd : Place) (path : String) : Bool :=
  (t.find cwd path).toBool

def read (t : FileTree) (cwd : Place) (path : String) : Except IoError (List UInt8) := do
  match ← t.find cwd path with
  | (_, .file content _) => .ok content
  | (_, .directory) => .error (.system .isADirectory)

/-- The text of a file. -/
def readText (t : FileTree) (cwd : Place) (path : String) : Except IoError String := do
  let bytes ← t.read cwd path
  match Utf8.decode? bytes with
  | some s => .ok s
  | none => .error .notText

/-- Gives a file new content, and makes it if it is missing. -/
def write (t : FileTree) (cwd : Place) (path : String) (content : List UInt8) :
    Except IoError FileTree := do
  let p ← t.resolve cwd path
  match t.node? p with
  | some .directory => .error (.system .isADirectory)
  | some (.file _ executable) => .ok (t.set p (.file content executable))
  | none => .ok (t.set p (.file content false))

/-- Makes the directories that a path leads through, as far as they are missing. -/
def makePath (t : FileTree) (cwd : Place) (path : String) : Except IoError FileTree :=
  if path.contains '\x00' then .error .zeroInPath
  else if path.utf8ByteSize > maxPathBytes then .error (.system .nameTooLong)
  else
    (match Path.split path.toList with
      | (.root, segments) => go t [] segments
      | (.dot, segments) => go t cwd segments
      | (.nothing, segments) => go t cwd segments).mapError .system
where
  go (t : FileTree) (at_ : Place) : List (List Char) → Except OsError FileTree
    | [] => .ok t
    | s :: rest =>
      if Path.isIdle s then go t at_ rest
      else if s = ['.', '.'] then go t at_.dropLast rest
      else if (String.ofList s).utf8ByteSize > maxNameBytes then .error .nameTooLong
      else
        let p := at_ ++ [String.ofList s]
        match t.node? p with
        | some .directory => go t p rest
        | some (.file _ _) =>
          .error (if rest.all Path.isIdle then .alreadyExists else .notADirectory)
        | none => go (t.set p .directory) p rest

end FileTree

/-- The variables of a process. -/
abbrev Environment := List (String × String)

namespace Environment

def get? (env : Environment) (name : String) : Option String := env.lookup name

end Environment

end LanguageClient
