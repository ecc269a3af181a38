import LanguageClient.Json.Basic
import LanguageClient.Text.Decimal
import LanguageClient.Text.Reader

/-!
# Scalars of a configuration file

Configuration files are TOML 1.0.  This file reads what a key can be given that holds nothing else:
strings in four kinds of quotes, integers in four bases and floating point numbers.  Dates have a
file of their own.
-/

namespace LanguageClient.Toml

open Text (Reader)

def isSpace (c : Char) : Bool := c = ' ' || c = '\t'

def skipSpaces (cs : List Char) : List Char := cs.dropWhile isSpace

/-- The end of a line. -/
def newline? : Reader Unit
  | '\n' :: rest => some ((), rest)
  | '\r' :: '\n' :: rest => some ((), rest)
  | _ => none

/-- The characters of a comment, and of a string with single quotes apart from the quote. -/
def isPrintable (c : Char) : Bool :=
  c = '\t' || (0x20 ≤ c.toNat && c.toNat < 0x7F) || 0x80 ≤ c.toNat

/-- Passes over a comment up to the end of its line. -/
def skipComment (cs : List Char) : List Char :=
  match cs with
  | '#' :: rest => rest.dropWhile isPrintable
  | _ => cs

/-! ## Strings -/

def hexNumber? (digits : List Char) : Option Nat :=
  digits.foldlM (fun n c => (Text.hexValue? c).map (n * 16 + ·)) 0

/-- The character with a number, which must not be half of a surrogate pair. -/
def scalar? (n : Nat) : Option Char :=
  if n < 0xD800 || (0xE000 ≤ n && n < 0x110000) then some (Char.ofNat n) else none

/-- An escape after its backslash. -/
def escape? : Reader Char
  | 'b' :: rest => some ('\x08', rest)
  | 't' :: rest => some ('\t', rest)
  | 'n' :: rest => some ('\n', rest)
  | 'f' :: rest => some ('\x0c', rest)
  | 'r' :: rest => some ('\r', rest)
  | '"' :: rest => some ('"', rest)
  | '\\' :: rest => some ('\\', rest)
  | 'u' :: rest => hex? 4 rest
  | 'U' :: rest => hex? 8 rest
  | _ => none
where
  hex? (n : Nat) : Reader Char := fun cs =>
    if cs.length < n then none
    else do return (← scalar? (← hexNumber? (cs.take n)), cs.drop n)

/-- What may stand in double quotes as itself. -/
def isBasic (c : Char) : Bool := isPrintable c && c ≠ '"' && c ≠ '\\'

/-- What may stand in single quotes. -/
def isLiteral (c : Char) : Bool := isPrintable c && c ≠ '\''

/-- The rest of a string in double quotes.  Fuel is the length of the text. -/
def basicBody? : (fuel : Nat) → Reader (List Char)
  | 0, _ => none
  | _ + 1, [] => none
  | _ + 1, '"' :: rest => some ([], rest)
  | fuel + 1, '\\' :: rest => do
    let (c, rest) ← escape? rest
    let (cs, rest) ← basicBody? fuel rest
    return (c :: cs, rest)
  | fuel + 1, c :: rest =>
    if isBasic c then (basicBody? fuel rest).map fun (cs, r) => (c :: cs, r) else none

/-- Passes over blanks and line ends. -/
def skipBreaks : List Char → List Char
  | '\r' :: '\n' :: rest => skipBreaks rest
  | c :: rest => if isSpace c || c = '\n' then skipBreaks rest else c :: rest
  | [] => []

/-- How many quotes stand in front, up to five. -/
def quotes (q : Char) (cs : List Char) : Nat := ((cs.take 5).takeWhile (· = q)).length

/-- The rest of a string over several lines in triple double quotes.  Up to two quotes may stand at
its very end; a backslash at the end of a line takes away the break and all blanks after it. -/
def multiBasicBody? : (fuel : Nat) → Reader (List Char)
  | 0, _ => none
  | _ + 1, [] => none
  | fuel + 1, '"' :: rest =>
    let n := quotes '"' ('"' :: rest)
    if n ≥ 3 then some (List.replicate (n - 3) '"', ('"' :: rest).drop n)
    else (multiBasicBody? fuel rest).map fun (cs, r) => ('"' :: cs, r)
  | fuel + 1, '\\' :: rest =>
    match newline? (skipSpaces rest) with
    | some (_, after) => multiBasicBody? fuel (skipBreaks after)
    | none => do
      let (c, rest) ← escape? rest
      let (cs, rest) ← multiBasicBody? fuel rest
      return (c :: cs, rest)
  | fuel + 1, c :: rest =>
    match newline? (c :: rest) with
    | some (_, after) => (multiBasicBody? fuel after).map fun (cs, r) => ('\n' :: cs, r)
    | none =>
      if isBasic c then (multiBasicBody? fuel rest).map fun (cs, r) => (c :: cs, r) else none

/-- The rest of a string in single quotes. -/
def literalBody? : Reader (List Char) := fun cs =>
  match cs.span isLiteral with
  | (body, '\'' :: rest) => some (body, rest)
  | _ => none

/-- The rest of a string over several lines in triple single quotes. -/
def multiLiteralBody? : (fuel : Nat) → Reader (List Char)
  | 0, _ => none
  | _ + 1, [] => none
  | fuel + 1, '\'' :: rest =>
    let n := quotes '\'' ('\'' :: rest)
    if n ≥ 3 then some (List.replicate (n - 3) '\'', ('\'' :: rest).drop n)
    else (multiLiteralBody? fuel rest).map fun (cs, r) => ('\'' :: cs, r)
  | fuel + 1, c :: rest =>
    match newline? (c :: rest) with
    | some (_, after) => (multiLiteralBody? fuel after).map fun (cs, r) => ('\n' :: cs, r)
    | none =>
      if isLiteral c then (multiLiteralBody? fuel rest).map fun (cs, r) => (c :: cs, r) else none

/-- Without a line break right after the opening quotes. -/
def afterBreak (cs : List Char) : List Char :=
  match newline? cs with
  | some (_, rest) => rest
  | none => cs

/-- A string on one line, as a key may be. -/
def shortString? : Reader String
  | '"' :: rest => (basicBody? (rest.length + 1) rest).map fun (cs, r) => (String.ofList cs, r)
  | '\'' :: rest => (literalBody? rest).map fun (cs, r) => (String.ofList cs, r)
  | _ => none

/-- A string in any quotes. -/
def string? : Reader String
  | '"' :: '"' :: '"' :: rest =>
    (multiBasicBody? (rest.length + 1) (afterBreak rest)).map fun (cs, r) => (String.ofList cs, r)
  | '\'' :: '\'' :: '\'' :: rest =>
    (multiLiteralBody? (rest.length + 1) (afterBreak rest)).map fun (cs, r) => (String.ofList cs, r)
  | cs => shortString? cs

/-! ## Numbers -/

/-- Digits with single underscores between them; the underscores are left out. -/
def grouped? (p : Char → Bool) : Reader (List Char)
  | [] => none
  | c :: rest => if p c then (more rest).map fun (ds, r) => (c :: ds, r) else none
where
  more : Reader (List Char)
    | '_' :: c :: rest => if p c then (more rest).map fun (ds, r) => (c :: ds, r) else none
    | ['_'] => none
    | c :: rest => if p c then (more rest).map fun (ds, r) => (c :: ds, r) else some ([], c :: rest)
    | [] => some ([], [])

/-- A sign, if there is one: whether it is a minus. -/
def sign : List Char → Option Bool × List Char
  | '+' :: rest => (some false, rest)
  | '-' :: rest => (some true, rest)
  | cs => (none, cs)

/-- A decimal number without leading zeros. -/
def decimal? : Reader (List Char) := fun cs =>
  match cs with
  | '0' :: '_' :: _ => none
  | '0' :: rest => some (['0'], rest)
  | _ => grouped? Char.isDigit cs

def inBase (base : Nat) (digits : List Char) : Nat :=
  digits.foldl (fun n c => n * base + (Text.hexValue? c).getD 0) 0

/-- An integer of 64 bits with a sign. -/
def int64? (n : Int) : Option Json :=
  if -0x8000000000000000 ≤ n && n ≤ 0x7FFFFFFFFFFFFFFF then some (.int n) else none

def integer? : Reader Json := fun cs =>
  match cs with
  | '0' :: 'x' :: rest => based? 16 (fun c => (Text.hexValue? c).isSome) rest
  | '0' :: 'o' :: rest => based? 8 (fun c => '0' ≤ c && c ≤ '7') rest
  | '0' :: 'b' :: rest => based? 2 (fun c => c = '0' || c = '1') rest
  | _ => do
    let (negative, rest) := sign cs
    let (digits, rest) ← decimal? rest
    let n : Int := inBase 10 digits
    return (← int64? (if negative = some true then -n else n), rest)
where
  based? (base : Nat) (p : Char → Bool) : Reader Json := fun cs => do
    let (digits, rest) ← grouped? p cs
    return (← int64? (inBase base digits), rest)

/-- The digits after an `e`, with the sign of the exponent. -/
def exponent? : Reader Int
  | 'e' :: rest => digits? rest
  | 'E' :: rest => digits? rest
  | _ => none
where
  digits? : Reader Int := fun cs => do
    let (negative, rest) := sign cs
    let (digits, rest) ← grouped? Char.isDigit rest
    let n : Int := inBase 10 digits
    return (if negative = some true then -n else n, rest)

def float? : Reader Json := fun cs =>
  let (negative, rest) := sign cs
  let signed (x : Binary64) : Binary64 := if negative = some true then x.neg else x
  match rest with
  | 'i' :: 'n' :: 'f' :: rest => some (.float (signed .infinity), rest)
  | 'n' :: 'a' :: 'n' :: rest => some (.float (signed .nan), rest)
  | _ => do
    let (whole, rest) ← decimal? rest
    let (fraction, rest) ← match rest with
      | '.' :: rest => grouped? Char.isDigit rest
      | rest => some ([], rest)
    let (power, rest) ← match exponent? rest with
      | some found => some found
      | none =>
        -- Without a fraction and an exponent it is no floating point number.
        if fraction.isEmpty then none
        else match rest with
          | c :: _ => if c = 'e' || c = 'E' then none else some (0, rest)
          | [] => some (0, rest)
    let x := Binary64.ofDecimal (inBase 10 (whole ++ fraction)) (power - fraction.length)
    if x.isInfinite && negative ≠ some true then none
    else return (.float (signed x), rest)

/-- A number with a point or an exponent, or an integer. -/
def number? : Reader Json := Reader.orElse float? integer?

end LanguageClient.Toml
