import LanguageClient.Rehearsal.Shell.Pattern
import LanguageClient.Storage.FileTree

/-!
# Fields

Expanding a word leaves a row of *marks*: bytes that remember whether they were quoted and whether
they may be cut, and the places where a field begins or ends whatever stands there.  `split` cuts the
row at separators, which are some blanks and perhaps other bytes: blanks next to each other count as
one separator and those at the ends as none, while every other separator ends a field even if that is
empty.  A field in which something unquoted is a pattern becomes the paths that it matches.
-/

namespace LanguageClient.Shell

inductive Mark
  | byte (b : UInt8) (quoted cuttable : Bool)
  /-- There is a field here, even if nothing else is. -/
  | present
  /-- What stands before belongs to another field than what comes after. -/
  | cut
  deriving DecidableEq, Inhabited, Repr

namespace Mark

def quoted (bs : Bytes) : List Mark := .present :: bs.map fun b => .byte b true false

def plain (bs : Bytes) : List Mark := bs.map fun b => .byte b false false

def cuttable (bs : Bytes) : List Mark := bs.map fun b => .byte b false true

/-- Several texts, each in a field of its own. -/
def each (mark : Bytes → List Mark) : List Bytes → List Mark
  | [] => []
  | [b] => mark b
  | b :: rest => mark b ++ .cut :: each mark rest

/-- The bytes as one text; fields are joined. -/
def joined (join : Bytes) (ms : List Mark) : Bytes :=
  ms.flatMap fun
    | .byte b _ _ => [b]
    | .present => []
    | .cut => join

/-- The bytes as a text that is going to be a pattern. -/
def marked (ms : List Mark) : List Pattern.Marked :=
  ms.filterMap fun
    | .byte b q _ => some (b, q)
    | _ => none

end Mark

/-! ## Cutting -/

/-- A separator that counts only once. -/
def isBlank (b : UInt8) : Bool := b = 0x20 || b = 0x09 || b = 0x0A

/-- The separators unless a script says otherwise. -/
def blanks : Bytes := [0x20, 0x09, 0x0A]

namespace Field

/-- Cuts a row of marks after an unfinished field; `absorbing` while a separator would still belong to
the end of the field before. -/
def splitFrom (separators : Bytes) :
    (unfinished : Option (List Pattern.Marked)) → (absorbing : Bool) → List Mark →
    List (List Pattern.Marked)
  | f, _, [] => f.toList
  | f, absorbing, .byte b q true :: rest =>
    if separators.contains b then
      if isBlank b then f.toList ++ splitFrom separators none (absorbing || f.isSome) rest
      else
        match f with
        | some f => f :: splitFrom separators none false rest
        | none =>
          if absorbing then splitFrom separators none false rest
          else [] :: splitFrom separators none false rest
    else splitFrom separators (some (f.getD [] ++ [(b, q)])) false rest
  | f, _, .byte b q false :: rest =>
    splitFrom separators (some (f.getD [] ++ [(b, q)])) false rest
  | f, _, .present :: rest => splitFrom separators (some (f.getD [])) false rest
  | f, _, .cut :: rest => f.toList ++ splitFrom separators none false rest

/-- The fields of a row of marks. -/
def split (separators : Bytes) (ms : List Mark) : List (List Pattern.Marked) :=
  splitFrom separators none false ms

example : (split [0x20, 0x3A] (Mark.cuttable [0x61, 0x20, 0x3A, 0x20, 0x62, 0x3A, 0x3A, 0x20])).map
    (·.map (·.1)) = [[0x61], [0x62], []] := by decide

/-! ## Cutting a line into parts -/

/-- The first part of a line and what is after its separator; a quoted byte separates nothing. -/
def nextPart (separators : Bytes) (line : List Pattern.Marked) :
    List Pattern.Marked × List Pattern.Marked :=
  let separates (m : Pattern.Marked) : Bool := !m.2 && separators.contains m.1
  let blank (m : Pattern.Marked) : Bool := separates m && isBlank m.1
  let line := line.dropWhile blank
  let part := line.takeWhile (!separates ·)
  let rest := (line.drop part.length).dropWhile blank
  (part, match rest with
    | m :: after => if separates m then after.dropWhile blank else rest
    | [] => [])

/-- The parts of a line for `n` takers.  The last one takes what is left, but without a separator if
that is all there is behind one part. -/
def parts (separators : Bytes) : (n : Nat) → List Pattern.Marked → List Bytes
  | 0, _ => []
  | 1, line =>
    let blank (m : Pattern.Marked) : Bool := !m.2 && separators.contains m.1 && isBlank m.1
    let line := line.dropWhile blank
    match nextPart separators line with
    | (part, []) => [part.map (·.1)]
    | _ => [((line.reverse.dropWhile blank).reverse).map (·.1)]
  | n + 2, line =>
    let (part, rest) := nextPart separators line
    part.map (·.1) :: parts separators (n + 1) rest

/-! ## Paths -/

/-- Cuts a text at slashes. -/
def atSlashes : List Pattern.Marked → List (List Pattern.Marked)
  | [] => [[]]
  | m :: rest =>
    match atSlashes rest with
    | [] => [[m]]
    | s :: more => if m.1 = Pattern.byteOf '/' then [] :: s :: more else (m :: s) :: more

/-- The names that a pattern matches; a dot in front has to be given as such. -/
def matchingNames (pattern : List Pattern.Marked) (names : List String) : List String :=
  let dotted := pattern.head?.any fun m => m.1 = Pattern.byteOf '.'
  let names := if dotted then "." :: ".." :: names else names.filter (!·.startsWith ".")
  (names.filter fun n => (Pattern.ofMarked pattern).accepts (bytesOf n)).mergeSort (· ≤ ·)

/-- The paths that some segments match, after a text that ends in a slash or is empty. -/
def pathsFrom (files : FileTree) (cwd : Place) (before : String) :
    List (List Pattern.Marked) → List String
  | [] => [before]
  | segment :: rest =>
    let text := textOf (segment.map (·.1))
    let names :=
      if Pattern.isMagic segment then
        match files.find cwd (if before.isEmpty then "." else before) with
        | .ok (p, .directory) => matchingNames segment (files.names p)
        | _ => []
      else [text]
    names.flatMap fun name =>
      if rest.isEmpty then
        if name.isEmpty || files.exists? cwd (before ++ name) then [before ++ name] else []
      else pathsFrom files cwd (before ++ name ++ "/") rest

/-- A field as it is given to a command: the paths that it matches, or else its text. -/
def toArgs (files : FileTree) (cwd : Place) (field : List Pattern.Marked) : List Bytes :=
  let text := field.map (·.1)
  if Pattern.isMagic field then
    match pathsFrom files cwd "" (atSlashes field) with
    | [] => [text]
    | paths => paths.map bytesOf
  else [text]

end Field

end LanguageClient.Shell
