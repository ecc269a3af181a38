/-!
# Decimal numerals

Natural numbers with an upper limit, as they stand in a header (`Content-Length`), a location
(`file:line:column`), an environment variable (a port) or a response id that a server sent back as
a string.  One plus sign may come first.  `readNat limit` answers the number or says which of three
things is wrong with the text; of several faults the one met first from the left is named.
-/

namespace LanguageClient.Text

/-- Why a text is no numeral within the limit. -/
inductive NumeralError
  | empty
  | invalidDigit
  | tooLarge
  deriving DecidableEq, Repr

def NumeralError.message : NumeralError → String
  | .empty => "cannot parse integer from empty string"
  | .invalidDigit => "invalid digit found in string"
  | .tooLarge => "number too large to fit in target type"

/-- The value of a decimal digit. -/
def digit? (c : Char) : Option Nat :=
  if c.isDigit then some (c.toNat - '0'.toNat) else none

/-- Appends the digits of a text to a value, as long as the value stays within the limit. -/
def appendDigits (limit : Nat) : Nat → List Char → Except NumeralError Nat
  | value, [] => .ok value
  | value, c :: cs =>
    match digit? c with
    | none => .error .invalidDigit
    | some d =>
      if value * 10 + d ≤ limit then appendDigits limit (value * 10 + d) cs
      else .error .tooLarge

/-- Reads a numeral: an optional plus sign and at least one digit, nothing else. -/
def readNat (limit : Nat) : List Char → Except NumeralError Nat
  | [] => .error .empty
  | ['+'] => .error .invalidDigit
  | '+' :: cs => appendDigits limit 0 cs
  | cs => appendDigits limit 0 cs

/-- `readNat` where the reason of a failure does not matter. -/
def readNat? (limit : Nat) (cs : List Char) : Option Nat :=
  (readNat limit cs).toOption

/-- The hexadecimal digit of a value below 16, capital. -/
def hexDigit (n : Nat) : Char :=
  if n < 10 then Char.ofNat ('0'.toNat + n) else Char.ofNat ('A'.toNat + (n - 10))

/-- The hexadecimal digit of a value below 16, small. -/
def hexDigitSmall (n : Nat) : Char :=
  if n < 10 then Char.ofNat ('0'.toNat + n) else Char.ofNat ('a'.toNat + (n - 10))

/-- The value of a hexadecimal digit of either case. -/
def hexValue? (c : Char) : Option Nat :=
  if '0' ≤ c && c ≤ '9' then some (c.toNat - '0'.toNat)
  else if 'a' ≤ c && c ≤ 'f' then some (c.toNat - 'a'.toNat + 10)
  else if 'A' ≤ c && c ≤ 'F' then some (c.toNat - 'A'.toNat + 10)
  else none

/-- A number in small hexadecimal digits, without leading zeros. -/
def hexText (n : Nat) : List Char :=
  Nat.toDigits 16 n

end LanguageClient.Text
