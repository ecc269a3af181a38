import LanguageClient.Json.Basic
import LanguageClient.Text.Quoted

/-!
# Values of the wrong shape

A typed value is read from a `Json` value that is there already: a message of the server, or a
configuration table.  When its shape is wrong there is one `Fault`: what was met where, and the way
to it through the keys of the tables around it.  A message of the server is refused with the cause
alone; a configuration file is refused with the cause and the way.
-/

namespace LanguageClient

/-- What is wrong at one place. -/
inductive FaultCause
  /-- A value of another type. -/
  | invalidType (found : Json) (expected : String)
  /-- A number that the type does not hold. -/
  | invalidValue (found : Json) (expected : String)
  /-- A number that stands for none of the listed ones. -/
  | notListed (found : Nat) (known : List Nat)
  | missingField (name : String)
  | duplicateField (name : String)
  /-- A list with the wrong number of items. -/
  | invalidLength (found : Nat) (expected : String)
  | unknownName (found : String) (known : List String)
  /-- A value that is none of the alternatives of a type. -/
  | noAlternative (type : String)
  /-- An object that should have exactly one key. -/
  | notOneKey
  /-- In a configuration file: neither a name nor a table in the place of a name. -/
  | notAName
  /-- In a configuration file: a table of other than one key in the place of a name. -/
  | notOneEntry (none : Bool)
  /-- In a configuration file: something under a name that has nothing under it. -/
  | notEmpty (found : Json)
  deriving Inhabited

/-- How a value is called in a message, with a way to write a number that has a point.  A date is
called a string, as it is read as one. -/
def Json.describe (number : Binary64 → String) : Json → String
  | .null => "null"
  | .bool true => "boolean `true`"
  | .bool false => "boolean `false`"
  | .int n => "integer `" ++ toString n ++ "`"
  | .float x => "floating point `" ++ number x ++ "`"
  | .str s => "string " ++ Text.quoted s
  | .arr _ => "sequence"
  | .obj _ => "map"
  | .date text => "string " ++ Text.quoted text

/-- The names of a list, each quoted, with a word in front that fits their number. -/
def oneOfNames : List String → String
  | [] => "there are no variants"
  | [a] => "expected `" ++ a ++ "`"
  | [a, b] => "expected `" ++ a ++ "` or `" ++ b ++ "`"
  | names => "expected one of " ++ ", ".intercalate (names.map fun n => "`" ++ n ++ "`")

/-- The kind of a configuration value as its file calls it. -/
def Json.entryKind : Json → String
  | .null => "null"
  | .bool _ => "boolean"
  | .int _ => "integer"
  | .float _ => "float"
  | .str _ => "string"
  | .arr _ => "array"
  | .obj _ => "table"
  | .date _ => "datetime"

/-- The text of a cause, with a way to write a number that has a point. -/
def FaultCause.message (number : Binary64 → String) : FaultCause → String
  | .invalidType found expected =>
    "invalid type: " ++ found.describe number ++ ", expected " ++ expected
  | .invalidValue found expected =>
    "invalid value: " ++ found.describe number ++ ", expected " ++ expected
  | .notListed found known =>
    "invalid value: " ++ toString found ++ ", expected one of: "
      ++ ", ".intercalate (known.map toString)
  | .missingField name => "missing field `" ++ name ++ "`"
  | .duplicateField name => "duplicate field `" ++ name ++ "`"
  | .invalidLength found expected => "invalid length " ++ toString found ++ ", expected " ++ expected
  | .unknownName found known => "unknown variant `" ++ found ++ "`, " ++ oneOfNames known
  | .noAlternative type => "data did not match any variant of untagged enum " ++ type
  | .notOneKey => "invalid value: map, expected map with a single key"
  | .notAName => "invalid type: unit variant, expected string only"
  | .notOneEntry true => "wanted exactly 1 element, found 0 elements"
  | .notOneEntry false => "wanted exactly 1 element, more than 1 element"
  | .notEmpty (.arr _) => "expected empty array"
  | .notEmpty (.obj _) => "expected empty table"
  | .notEmpty found => "expected table, found " ++ found.entryKind

/-- A cause, and the keys on the way to it, outermost first. -/
structure Fault where
  path : List String
  cause : FaultCause
  deriving Inhabited

namespace Fault

def of (cause : FaultCause) : Fault := ⟨[], cause⟩

/-- The same fault seen from the table around. -/
def under (key : String) (f : Fault) : Fault := { f with path := key :: f.path }

/-- The text for a message of the server: the cause alone, its numbers as they are on the wire. -/
def message (f : Fault) : String := f.cause.message Binary64.exponential

/-- The text for a configuration file: a line for the cause, its numbers with all places written
out, and a line for the way if there is any. -/
def located (f : Fault) : String :=
  f.cause.message Binary64.positional ++ "\n"
    ++ (if f.path.isEmpty then "" else "in `" ++ ".".intercalate f.path ++ "`\n")

end Fault

/-- A way to read a typed value. -/
abbrev Decoder (α : Type) := Json → Except Fault α

end LanguageClient
