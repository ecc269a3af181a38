import LanguageClient.Json.Numeral
import LanguageClient.Text.Reader

/-!
# Reading JSON

`parse?` reads a whole text as one value.  Only whether a text is JSON matters, not what is wrong
with it, so a reader answers the value and the rest of the text, or nothing.

Arrays and objects nest at most `maxDepth` deep.  The depth that is left is the measure by which
`value?` recurses; the items of one array or object are read by `items?`, which calls the reader of
one item again and again and is the same loop for both.
-/

namespace LanguageClient.Json.Syntax

open Text (Reader)

/-- How deep arrays and objects may nest. -/
def maxDepth : Nat := 127

/-- The blanks of JSON. -/
def isBlank (c : Char) : Bool :=
  c = ' ' || c = '\n' || c = '\t' || c = '\r'

def skipBlanks (cs : List Char) : List Char :=
  cs.dropWhile isBlank

/-! ## Strings -/

/-- Four hexadecimal digits. -/
def hex4? (a b c d : Char) : Option Nat := do
  let a ← Text.hexValue? a
  let b ← Text.hexValue? b
  let c ← Text.hexValue? c
  let d ← Text.hexValue? d
  return ((a * 16 + b) * 16 + c) * 16 + d

/-- The character of a one-letter escape. -/
def escape? : Char → Option Char
  | '"' => some '"'
  | '\\' => some '\\'
  | '/' => some '/'
  | 'b' => some '\x08'
  | 'f' => some '\x0c'
  | 'n' => some '\n'
  | 'r' => some '\r'
  | 't' => some '\t'
  | _ => none

/-- The rest of a string after its opening quote.  Two escaped code units of 16 bits that form a
surrogate pair are one character; half a pair is a fault. -/
def stringBody? : Reader (List Char)
  | [] => none
  | '"' :: rest => some ([], rest)
  | '\\' :: 'u' :: a :: b :: c :: d :: rest =>
    match hex4? a b c d with
    | none => none
    | some n =>
      if n < 0xD800 || 0xE000 ≤ n then
        (stringBody? rest).map fun (cs, r) => (Char.ofNat n :: cs, r)
      else if 0xDC00 ≤ n then none
      else match rest with
        | '\\' :: 'u' :: a :: b :: c :: d :: rest =>
          match hex4? a b c d with
          | none => none
          | some m =>
            if 0xDC00 ≤ m && m < 0xE000 then
              (stringBody? rest).map fun (cs, r) =>
                (Char.ofNat (0x10000 + (n - 0xD800) * 0x400 + (m - 0xDC00)) :: cs, r)
            else none
        | _ => none
  | '\\' :: e :: rest =>
    match escape? e with
    | none => none
    | some c => (stringBody? rest).map fun (cs, r) => (c :: cs, r)
  | c :: rest =>
    if c.toNat < 0x20 || c = '\\' then none
    else (stringBody? rest).map fun (cs, r) => (c :: cs, r)

/-- A string, from its opening quote on. -/
def string? : Reader String
  | '"' :: rest => (stringBody? rest).map fun (cs, r) => (String.ofList cs, r)
  | _ => none

/-! ## Numbers -/

/-- At least one digit. -/
def digits1? : Reader (List Char) := Reader.run1? Char.isDigit

/-- The digits of an integer part: at least one, and a zero only alone. -/
def whole? : Reader (List Char) := fun cs =>
  match digits1? cs with
  | some ('0' :: _ :: _, _) => none
  | found => found

def fraction? : Reader (Option (List Char))
  | '.' :: rest => (digits1? rest).map fun (ds, r) => (some ds, r)
  | cs => some (none, cs)

def exponentBody? : Reader (Bool × List Char)
  | '+' :: rest => (digits1? rest).map fun (ds, r) => ((false, ds), r)
  | '-' :: rest => (digits1? rest).map fun (ds, r) => ((true, ds), r)
  | cs => (digits1? cs).map fun (ds, r) => ((false, ds), r)

def exponent? : Reader (Option (Bool × List Char))
  | 'e' :: rest => (exponentBody? rest).map fun (e, r) => (some e, r)
  | 'E' :: rest => (exponentBody? rest).map fun (e, r) => (some e, r)
  | cs => some (none, cs)

def unsigned? (negative : Bool) : Reader Json := fun cs => do
  let (whole, cs) ← whole? cs
  let (fraction, cs) ← fraction? cs
  let (exponent, cs) ← exponent? cs
  let value ← Numeral.value? ⟨negative, whole, fraction, exponent⟩
  return (value, cs)

def number? : Reader Json
  | '-' :: rest => unsigned? true rest
  | cs => unsigned? false cs

/-! ## Values -/

/-- Items separated by commas up to a closing character, the first of them at the front.  Every
item takes at least one character, so the text's length is fuel enough. -/
def itemsLoop? {α : Type} (item : Reader α) (close : Char) : Nat → Reader (List α)
  | 0, _ => none
  | fuel + 1, cs =>
    match item (skipBlanks cs) with
    | none => none
    | some (x, rest) =>
      match skipBlanks rest with
      | [] => none
      | c :: rest =>
        if c = close then some ([x], rest)
        else if c = ',' then
          (itemsLoop? item close fuel rest).map fun (xs, r) => (x :: xs, r)
        else none

/-- The items of an array or object after its opening character. -/
def items? {α : Type} (item : Reader α) (close : Char) : Reader (List α) := fun cs =>
  match skipBlanks cs with
  | [] => none
  | c :: rest => if c = close then some ([], rest) else itemsLoop? item close cs.length (c :: rest)

/-- A member of an object. -/
def member? (value : Reader Json) : Reader (String × Json) := fun cs =>
  match string? cs with
  | none => none
  | some (key, rest) =>
    match skipBlanks rest with
    | ':' :: rest => (value (skipBlanks rest)).map fun (v, r) => ((key, v), r)
    | _ => none

/-- One of the three words. -/
def word? : Reader Json
  | 'n' :: 'u' :: 'l' :: 'l' :: rest => some (.null, rest)
  | 't' :: 'r' :: 'u' :: 'e' :: rest => some (.bool true, rest)
  | 'f' :: 'a' :: 'l' :: 's' :: 'e' :: rest => some (.bool false, rest)
  | _ => none

/-- A value without the blanks around it, where arrays and objects may nest `depth` deep. -/
def value? : (depth : Nat) → Reader Json
  | depth, cs =>
    match cs with
    | [] => none
    | '"' :: _ => (string? cs).map fun (s, r) => (.str s, r)
    | '[' :: rest =>
      match depth with
      | 0 => none
      | depth + 1 => (items? (value? depth) ']' rest).map fun (xs, r) => (.arr xs, r)
    | '\x7b' :: rest =>
      match depth with
      | 0 => none
      | depth + 1 =>
        (items? (member? (value? depth)) '\x7d' rest).map fun (ms, r) => (ofMembers ms, r)
    | c :: _ => if c = '-' || c.isDigit then number? cs else word? cs

end Syntax

/-- The value that a text denotes. -/
def parse? (text : String) : Option Json :=
  match Syntax.value? Syntax.maxDepth (Syntax.skipBlanks text.toList) with
  | some (j, rest) => if (Syntax.skipBlanks rest).isEmpty then some j else none
  | none => none

end LanguageClient.Json
