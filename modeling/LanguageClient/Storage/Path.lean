/-!
# Paths

A path is text.  Slashes separate its segments; an empty segment and a single dot name the same
place as nothing, except a dot at the very front of a relative path, which is a component of its
own.  Two dots are a component like any other here: where they lead is for the file tree to say.

`relativeTo` is how a path is shown to a person who works in some directory: without the directory
if it lies below it, and in full otherwise.  Components are compared, and what is shown is the text
that is left, so doubled slashes further down stay.
-/

namespace LanguageClient.Path

def separator : Char := '/'

/-- The pieces between separators. -/
def segments : List Char → List (List Char)
  | [] => [[]]
  | c :: cs =>
    if c = separator then [] :: segments cs
    else match segments cs with
      | [] => [[c]]
      | s :: rest => (c :: s) :: rest

/-- Puts separators between segments. -/
def joinSegments : List (List Char) → List Char
  | [] => []
  | [s] => s
  | s :: rest => s ++ separator :: joinSegments rest

/-- A segment that leads nowhere. -/
def isIdle (segment : List Char) : Bool := segment = [] || segment = ['.']

/-- Where a path starts from. -/
inductive Lead
  | root | dot | nothing
  deriving DecidableEq, Repr

/-- The start of a path and the segments after it. -/
def split (path : List Char) : Lead × List (List Char) :=
  match segments path with
  | [] => (.nothing, [])
  | first :: rest =>
    if first = [] && !path.isEmpty then (.root, rest)
    else if first = ['.'] then (.dot, rest)
    else (.nothing, first :: rest)

def isAbsolute (path : String) : Bool := path.toList.head? = some separator

/-- The names along a path. -/
def components (path : String) : List String :=
  ((segments path.toList).filter (!isIdle ·)).map String.ofList

/-- A path as seen from a directory. -/
def join (base path : String) : String :=
  if isAbsolute path then path
  else
    match base.toList.getLast? with
    | none => path
    | some c => if c = separator then base ++ path else base ++ "/" ++ path

/-- What is left of the segments after the given components. -/
def strip? : List (List Char) → List (List Char) → Option (List (List Char))
  | [], segments => some segments
  | c :: cs, segments =>
    match segments.dropWhile isIdle with
    | [] => none
    | s :: rest => if s = c then strip? cs rest else none

/-- Without idle segments at the end. -/
def trimEnd (segments : List (List Char)) : List (List Char) :=
  (segments.reverse.dropWhile isIdle).reverse

/-- The rest of a path below a directory, if it lies below it. -/
def below? (directory path : String) : Option String :=
  let (lead, prefixSegments) := split directory.toList
  let (pathLead, pathSegments) := split path.toList
  let names := prefixSegments.filter (!isIdle ·)
  if lead = .nothing && names.isEmpty then
    -- No component is taken away, so the start of the path stays as well.
    let body := joinSegments (trimEnd pathSegments)
    some (String.ofList (match pathLead with
      | .root => separator :: body
      | .dot => if body.isEmpty then ['.'] else '.' :: separator :: body
      | .nothing => body))
  else if lead ≠ pathLead then none
  else
    (strip? names pathSegments).map fun rest =>
      String.ofList (joinSegments (trimEnd (rest.dropWhile isIdle)))

/-- The path as shown to someone who works in the directory. -/
def relativeTo (directory path : String) : String :=
  (below? directory path).getD path

/-- The path without its last component; the root and the empty path have none. -/
def parent? (path : String) : Option String :=
  let (lead, body) := split path.toList
  match (trimEnd body).reverse with
  | [] => if lead = .dot then some "" else none
  | _ :: before =>
    let before := joinSegments (trimEnd before.reverse)
    some (String.ofList (match lead with
      | .root => separator :: before
      | .dot => if before.isEmpty then ['.'] else '.' :: separator :: before
      | .nothing => before))

/-- The path with these components. -/
def absolute (names : List String) : String :=
  "/" ++ "/".intercalate names

end LanguageClient.Path
