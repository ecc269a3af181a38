import LanguageClient.Document.Position
import LanguageClient.Storage.FileTree
import LanguageClient.Text.Classes
import LanguageClient.Text.Decimal

/-!
# Locations on the command line

A person names a place in a file as `file:line` or `file:line:column`, counted from one.  File names
may hold colons themselves, so the name ends at the first colon that a digit or a minus sign
follows; and a colon in second place, after a letter, belongs to a drive.  A minus sign is only
looked for so that a negative line is refused as one.
-/

namespace LanguageClient

/-- A place in a file, counted from one. -/
structure Location where
  file : String
  line : UInt32
  column : UInt32
  deriving DecidableEq, Inhabited, Repr

/-- The two numbers of a location. -/
inductive LocationPart
  | line | column
  deriving DecidableEq, Inhabited, Repr

def LocationPart.name : LocationPart → String
  | line => "line"
  | column => "column"

/-- Why a text is no location. -/
inductive LocationError
  | empty
  | noLine
  | negativeLine
  | notANumber (part : LocationPart) (text : String)
  | zero (part : LocationPart)
  | fileNotFound (path : String)
  deriving DecidableEq, Inhabited, Repr

def LocationError.message : LocationError → String
  | empty => "Location cannot be empty"
  | noLine =>
    "Invalid location format. Expected: file:line[:column]\nExample: src/Main.aya:10:5"
  | negativeLine => "Invalid line number: negative values not allowed (1-indexed)"
  | notANumber part text =>
    "Invalid " ++ part.name ++ " number '" ++ text ++ "': must be a positive integer"
  | zero part => part.name ++ " number must be >= 1 (got 0)"
  | fileNotFound path => "File not found: " ++ path

namespace Location

/-- The greatest line and column. -/
def maxNumber : Nat := 0xFFFFFFFF

/-- Whether a character may begin a line number, or pretends to. -/
def beginsNumber (c : Char) : Bool := c.isDigit || c = '-'

/-- Splits at the first colon before a digit or a minus sign. -/
def splitAtNumber? : List Char → Option (List Char × List Char)
  | [] => none
  | c :: cs =>
    if c = ':' && cs.head?.any beginsNumber then some ([], cs)
    else (splitAtNumber? cs).map fun (file, rest) => (c :: file, rest)

/-- Whether a character is a letter that may name a drive. -/
def isDriveLetter (c : Char) : Bool := c.isAlpha

/-- Splits the name of the file from the numbers, passing over a drive. -/
def splitFile? : List Char → Option (List Char × List Char)
  | a :: b :: c :: rest =>
    if isDriveLetter a && b = ':' then
      (splitAtNumber? (c :: rest)).map fun (file, numbers) => (a :: b :: file, numbers)
    else splitAtNumber? (a :: b :: c :: rest)
  | cs => splitAtNumber? cs

/-- Reads one of the numbers. -/
def number (part : LocationPart) (cs : List Char) : Except LocationError UInt32 :=
  match Text.readNat? maxNumber cs with
  | none => .error (.notANumber part (String.ofList cs))
  | some 0 => .error (.zero part)
  | some n => .ok (UInt32.ofNat n)

/-- Splits at the first colon. -/
def splitColumn : List Char → List Char × Option (List Char)
  | [] => ([], none)
  | c :: cs =>
    if c = ':' then ([], some cs)
    else ((c :: (splitColumn cs).1), (splitColumn cs).2)

/-- Reads a location from text. -/
def parseChars (cs : List Char) : Except LocationError Location :=
  let cs := Text.trim cs
  if cs.isEmpty then .error .empty
  else
    match splitFile? cs with
    | none => .error .noLine
    | some (_, '-' :: _) => .error .negativeLine
    | some (file, numbers) => do
      let (line, column) := splitColumn numbers
      let line ← number .line line
      let column ← match column with
        | none => .ok 1
        | some cs => number .column cs
      return ⟨String.ofList file, line, column⟩

def parse (text : String) : Except LocationError Location :=
  parseChars text.toList

/-- The text of a location, with its column. -/
def render (l : Location) : String :=
  l.file ++ ":" ++ toString l.line.toNat ++ ":" ++ toString l.column.toNat

/-- The position that the location means. -/
def position (l : Location) : Position := .ofCounted l.line l.column

/-- The same location with the full path of its file, which has to exist. -/
def absolute (t : FileTree) (cwd : Place) (l : Location) : Except LocationError Location :=
  let path := Path.join (Path.absolute cwd) l.file
  match t.canonical cwd path with
  | .ok file => .ok { l with file }
  | .error _ => .error (.fileNotFound path)

end Location

end LanguageClient
