import LanguageClient.Toml.Table

/-!
# Configuration files

`parse?` reads a whole file as a table.  A file is a list of sections: the lines before the first
header, and for each header the lines after it.  The lines of a section give dotted keys their
values; the sections are then put into the table one after another.

Lists and braces nest at most `maxDepth` deep, which is also the measure by which `value?` recurses,
and a dotted key has at most `maxKeys` parts.
-/

namespace LanguageClient.Toml

open Text (Reader)

/-- How deep lists and braces may nest. -/
def maxDepth : Nat := 79

/-- How many parts a dotted key may have. -/
def maxKeys : Nat := 79

/-! ## Keys -/

def isBare (c : Char) : Bool := c.isAlphanum || c = '-' || c = '_'

/-- One part of a key. -/
def simpleKey? : Reader String := fun cs =>
  match cs with
  | '"' :: _ => shortString? cs
  | '\'' :: _ => shortString? cs
  | _ => (Reader.run1? isBare cs).map fun (k, r) => (String.ofList k, r)

/-- The parts of a dotted key, with blanks around each of them. -/
def dottedLoop? : (fuel : Nat) → Reader (List String)
  | 0, _ => none
  | fuel + 1, cs =>
    match simpleKey? (skipSpaces cs) with
    | none => none
    | some (key, rest) =>
      match skipSpaces rest with
      | '.' :: rest => (dottedLoop? fuel rest).map fun (keys, r) => (key :: keys, r)
      | rest => some ([key], rest)

def key? : Reader (List String) := dottedLoop? maxKeys

/-! ## Values -/

/-- Passes over blanks, line ends and comments. -/
def skipLines : (fuel : Nat) → List Char → List Char
  | 0, cs => cs
  | fuel + 1, cs =>
    let cs := skipComment (skipSpaces cs)
    match newline? cs with
    | some (_, rest) => skipLines fuel rest
    | none => cs

/-- The items of a list after its bracket; a comma may follow the last. -/
def itemsLoop? (value : Reader Node) : (fuel : Nat) → Reader (List Node)
  | 0, _ => none
  | fuel + 1, cs =>
    match skipLines cs.length cs with
    | ']' :: rest => some ([], rest)
    | cs => do
      let (v, rest) ← value cs
      match skipLines rest.length rest with
      | ']' :: rest => return ([v], rest)
      | ',' :: rest =>
        let (vs, rest) ← itemsLoop? value fuel rest
        return (v :: vs, rest)
      | _ => none

/-- A key and its value. -/
def keyValue? (value : Reader Node) : Reader (List String × Node) := fun cs => do
  let (path, cs) ← key? cs
  match cs with
  | '=' :: cs =>
    let (v, cs) ← value (skipSpaces cs)
    return ((path, v), cs)
  | _ => none

/-- The keys and values in braces, all on one line and without a comma at the end. -/
def membersLoop? (value : Reader Node) : (fuel : Nat) → Reader (List (List String × Node))
  | 0, _ => none
  | fuel + 1, cs => do
    let (line, rest) ← keyValue? value cs
    match skipSpaces rest with
    | '\x7d' :: rest => return ([line], rest)
    | ',' :: rest =>
      let (lines, rest) ← membersLoop? value fuel rest
      return (line :: lines, rest)
    | _ => none

/-- A table in braces, after the opening one. -/
def braces? (value : Reader Node) : Reader Node := fun cs => do
  let (lines, rest) ← match skipSpaces cs with
    | '\x7d' :: rest => some ([], rest)
    | cs => membersLoop? value cs.length cs
  let es ← Entries.assignAll? lines []
  return (.table (nodesOf es), rest)

/-- A number or a date; which of them it is shows only further on. -/
def numeric? : Reader Node :=
  Reader.orElse
    (fun cs => (DateTime.read? .plain cs).map fun (d, r) => (.scalar (.date d.render), r))
    (fun cs => (number? cs).map fun (n, r) => (.scalar n, r))

/-- A value. -/
def value? : (depth : Nat) → Reader Node
  | depth, cs =>
    match cs with
    | '"' :: _ => (string? cs).map fun (s, r) => (.scalar (.str s), r)
    | '\'' :: _ => (string? cs).map fun (s, r) => (.scalar (.str s), r)
    | '[' :: rest =>
      match depth with
      | 0 => none
      | depth + 1 =>
        (itemsLoop? (value? depth) (rest.length + 1) rest).map fun (vs, r) => (.list vs, r)
    | '\x7b' :: rest =>
      match depth with
      | 0 => none
      | depth + 1 => braces? (value? depth) rest
    | 't' :: 'r' :: 'u' :: 'e' :: rest => some (.scalar (.bool true), rest)
    | 'f' :: 'a' :: 'l' :: 's' :: 'e' :: rest => some (.scalar (.bool false), rest)
    | _ => numeric? cs

/-! ## Lines and sections -/

/-- What a line is. -/
inductive Line
  | empty
  | assignment (path : List String) (value : Node)
  | header (path : List String)
  | doubledHeader (path : List String)

/-- The end of a line, after blanks and a comment. -/
def lineEnd? : Reader Unit := fun cs =>
  match skipComment (skipSpaces cs) with
  | [] => some ((), [])
  | rest => newline? rest

/-- A line with its end. -/
def line? : Reader Line := fun cs =>
  match skipSpaces cs with
  | '[' :: '[' :: rest => do
    let (path, rest) ← key? rest
    let ((), rest) ← Reader.word? [']', ']'] rest
    let ((), rest) ← lineEnd? rest
    return (.doubledHeader path, rest)
  | '[' :: rest => do
    let (path, rest) ← key? rest
    let ((), rest) ← Reader.word? [']'] rest
    let ((), rest) ← lineEnd? rest
    return (.header path, rest)
  | cs =>
    match lineEnd? cs with
    | some ((), rest) => some (.empty, rest)
    | none => do
      let ((path, value), rest) ← keyValue? (value? maxDepth) cs
      let ((), rest) ← lineEnd? rest
      return (.assignment path value, rest)

/-- All lines of a file. -/
def lines? : (fuel : Nat) → List Char → Option (List Line)
  | _, [] => some []
  | 0, _ => none
  | fuel + 1, cs => do
    let (line, rest) ← line? cs
    let more ← lines? fuel rest
    return line :: more

/-- What opens a section. -/
inductive Opening
  | start
  | header (path : List String)
  | doubledHeader (path : List String)

/-- A section: what opens it, and its assignments. -/
structure Section where
  opening : Opening
  assignments : List (List String × Node)

/-- The sections of a file whose first lines belong to a section already opened. -/
def sections (opening : Opening) : List Line → List Section
  | [] => [⟨opening, []⟩]
  | .empty :: rest => sections opening rest
  | .assignment path value :: rest =>
    match sections opening rest with
    | [] => []
    | s :: more => ⟨s.opening, (path, value) :: s.assignments⟩ :: more
  | .header path :: rest => ⟨opening, []⟩ :: sections (.header path) rest
  | .doubledHeader path :: rest => ⟨opening, []⟩ :: sections (.doubledHeader path) rest

/-- Puts a section into the table. -/
def Section.enter? (s : Section) (es : Entries) : Option Entries :=
  match s.opening with
  | .start => es.assignAll? s.assignments
  | .header path => es.open? path s.assignments
  | .doubledHeader path => es.append? path s.assignments

/-- The table that a file describes: its members sorted by key.  The file itself is always a table,
whatever its first key. -/
def parse? (text : String) : Option (List (String × Json)) := do
  let cs := match text.toList with
    | '\uFEFF' :: rest => rest
    | cs => cs
  let lines ← lines? (cs.length + 1) cs
  let es ← (sections .start lines).foldlM (fun es s => s.enter? es) []
  let members ← membersOf? (nodesOf es)
  return members.foldl (fun sorted (k, v) => Json.put k v sorted) []

end LanguageClient.Toml
