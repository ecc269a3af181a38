import LanguageClient.Json.Basic
import LanguageClient.Text.Decimal

/-!
# Writing JSON

`compact` is the form on the wire: no blanks at all, members in the order in which the object lists
them.  `pretty` is the form a command prints: one member or item a line, two blanks deeper for each
level, and an empty array or object on one line.  Both write the same scalars.
-/

namespace LanguageClient.Json

/-- One character inside a string.  Only quotes, backslashes and control characters are escaped. -/
def renderChar (c : Char) : List Char :=
  if c = '"' then ['\\', '"']
  else if c = '\\' then ['\\', '\\']
  else if c = '\n' then ['\\', 'n']
  else if c = '\r' then ['\\', 'r']
  else if c = '\t' then ['\\', 't']
  else if c = '\x08' then ['\\', 'b']
  else if c = '\x0c' then ['\\', 'f']
  else if c.toNat < 0x20 then
    ['\\', 'u', '0', '0', Text.hexDigitSmall (c.toNat / 16), Text.hexDigitSmall (c.toNat % 16)]
  else [c]

def renderString (s : String) : List Char :=
  '"' :: s.toList.flatMap renderChar ++ ['"']

/-- A number that JSON cannot express is written as null. -/
def renderFloat (x : Binary64) : List Char :=
  if x.isNaN || x.isInfinite then ['n', 'u', 'l', 'l'] else x.exponential.toList

def renderBool : Bool → List Char
  | true => ['t', 'r', 'u', 'e']
  | false => ['f', 'a', 'l', 's', 'e']

mutual

/-- The compact form. -/
def render : Json → List Char
  | .null => ['n', 'u', 'l', 'l']
  | .bool b => renderBool b
  | .int n => (toString n).toList
  | .float x => renderFloat x
  | .str s => renderString s
  | .arr items => '[' :: renderItems items
  | .obj members => '\x7b' :: renderMembers members
  | .date text => renderString text

/-- The items of an array and the bracket that closes it. -/
def renderItems : List Json → List Char
  | [] => [']']
  | [item] => render item ++ [']']
  | item :: rest => render item ++ ',' :: renderItems rest

/-- The members of an object and the brace that closes it. -/
def renderMembers : List (String × Json) → List Char
  | [] => ['\x7d']
  | [(key, value)] => renderString key ++ ':' :: render value ++ ['\x7d']
  | (key, value) :: rest => renderString key ++ ':' :: render value ++ ',' :: renderMembers rest

end

/-- The text of a value as it travels. -/
def compact (j : Json) : String :=
  String.ofList (render j)

/-- A new line at a depth. -/
def breakLine (depth : Nat) : List Char :=
  '\n' :: List.replicate (2 * depth) ' '

mutual

/-- The form for people, for a value that stands at some depth. -/
def layOut (depth : Nat) : Json → List Char
  | .arr [] => ['[', ']']
  | .arr items => '[' :: breakLine (depth + 1) ++ layOutItems depth items
  | .obj [] => ['\x7b', '\x7d']
  | .obj members => '\x7b' :: breakLine (depth + 1) ++ layOutMembers depth members
  | .null => ['n', 'u', 'l', 'l']
  | .bool b => renderBool b
  | .int n => (toString n).toList
  | .float x => renderFloat x
  | .str s => renderString s
  | .date text => renderString text

def layOutItems (depth : Nat) : List Json → List Char
  | [] => [']']
  | [item] => layOut (depth + 1) item ++ breakLine depth ++ [']']
  | item :: rest => layOut (depth + 1) item ++ ',' :: breakLine (depth + 1) ++ layOutItems depth rest

def layOutMembers (depth : Nat) : List (String × Json) → List Char
  | [] => ['\x7d']
  | [(key, value)] =>
    renderString key ++ ':' :: ' ' :: layOut (depth + 1) value ++ breakLine depth ++ ['\x7d']
  | (key, value) :: rest =>
    renderString key ++ ':' :: ' ' :: layOut (depth + 1) value ++ ',' :: breakLine (depth + 1)
      ++ layOutMembers depth rest

end

/-- The text of a value as it is printed. -/
def pretty (j : Json) : String :=
  String.ofList (layOut 0 j)

end LanguageClient.Json
