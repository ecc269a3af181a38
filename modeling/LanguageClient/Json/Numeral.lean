import LanguageClient.Json.Basic
import LanguageClient.Text.Decimal

/-!
# JSON numerals

A numeral is an integer part, and possibly a fraction and an exponent.  Without fraction and
exponent it is an integer when 64 bits hold it.  Every other numeral is floating point, and its
value is taken in one fixed way, which is not always the nearest value:

1. the digits are gathered into a significand of at most 64 bits; what no longer fits is dropped,
   and dropped digits of the integer part count as powers of ten;
2. the significand is rounded to floating point;
3. it is multiplied or divided, once, by the power of ten that is left (in steps of `10 ^ 308` for
   very small numbers).

A value too large to be finite is a fault of the text.
-/

namespace LanguageClient.Json

/-- The greatest significand. -/
def maxSignificand : Nat := 0xFFFFFFFFFFFFFFFF

/-- The exponents that have a power of ten. -/
def maxPower : Nat := 308

/-- Gathers digits while they fit; answers the significand, how many digits it took, and how many
were left over. -/
def gather (significand : Nat) : List Char → Nat × Nat × Nat
  | [] => (significand, 0, 0)
  | c :: cs =>
    let next := significand * 10 + (Text.digit? c).getD 0
    if next ≤ maxSignificand then
      let (s, taken, left) := gather next cs
      (s, taken + 1, left)
    else (significand, 0, (c :: cs).length)

/-- Divides by ten to the given power, at most `maxPower` at a time. -/
def scaleDown : (fuel : Nat) → Binary64 → Nat → Binary64
  | 0, x, _ => x
  | fuel + 1, x, power =>
    if power ≤ maxPower then x.div (.ofDecimal 1 power)
    else if x.isZero then x
    else scaleDown fuel (x.div (.ofDecimal 1 maxPower)) (power - maxPower)

/-- `significand * 10 ^ exponent`, if it is finite. -/
def scaled? (significand : Nat) (exponent : Int) : Option Binary64 :=
  let x := Binary64.ofRatio significand 1
  if exponent ≥ 0 then
    if exponent ≤ maxPower then
      let y := x.mul (.ofDecimal 1 exponent)
      if y.isInfinite then none else some y
    else if significand == 0 then some .zero
    else none
  else some (scaleDown 8 x exponent.natAbs)

/-- The parts of a numeral as they stand in the text; the digits of an exponent come with its
sign. -/
structure Numeral where
  negative : Bool
  whole : List Char
  fraction : Option (List Char)
  exponent : Option (Bool × List Char)

def digitsValue (cs : List Char) : Nat :=
  cs.foldl (fun n c => n * 10 + (Text.digit? c).getD 0) 0

/-- Beyond this an exponent is not added up: only its sign and a zero significand count. -/
def maxExponent : Nat := 0x7FFFFFFF

/-- The floating point value of a numeral. -/
def Numeral.float? (n : Numeral) : Option Binary64 :=
  let (whole, _, dropped) := gather 0 n.whole
  let (significand, taken, _) := gather whole (n.fraction.getD [])
  let start : Int := dropped - taken
  let magnitude :=
    match n.exponent with
    | none => scaled? significand start
    | some (negative, digits) =>
      let e := digitsValue digits
      if e > maxExponent then
        if significand != 0 && !negative then none else some .zero
      else scaled? significand (if negative then start - e else start + e)
  magnitude.map fun x => if n.negative then x.neg else x

/-- The value of a numeral. -/
def Numeral.value? (n : Numeral) : Option Json :=
  if n.fraction.isNone && n.exponent.isNone then
    let v := digitsValue n.whole
    if n.negative then
      if 0 < v && v ≤ 0x8000000000000000 then some (.int (-v)) else n.float?.map .float
    else if v ≤ maxSignificand then some (.int v)
    else n.float?.map .float
  else n.float?.map .float

end LanguageClient.Json
