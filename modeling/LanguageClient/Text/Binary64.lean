/-!
# Binary floating point

JSON and TOML numbers with a fraction, an exponent or more than 64 bits are 64-bit binary floating
point.  The client never computes with them, but it hands them on (in a request's parameters, in a
response's result) and names them in error messages, so it has to know which number a numeral means
and which numeral to write for it.

A value is its bit pattern, and every operation is exact arithmetic on natural numbers followed by
one rounding:

* `ofRatio` is the value nearest to a fraction, ties going to the even bit pattern;
* `mul` and `div` round the exact result once;
* `shortest` finds the fewest decimal digits that still read back as the value, and among those the
  decimal nearest to it.

`exponential` and `positional` are the two ways in which the digits are laid out: the first is used
where numbers travel, the second in messages.
-/

namespace LanguageClient

/-- A 64-bit floating point value. -/
structure Binary64 where
  bits : UInt64
  deriving DecidableEq, Repr

namespace Binary64

def signBit : Nat := 0x8000000000000000

/-- What a field other than zero adds to the fraction. -/
def hiddenBit : Nat := 0x10000000000000

/-- The bit pattern of positive infinity; a larger pattern without the sign is no number. -/
def infinityBits : Nat := 0x7FF0000000000000

def isNegative (x : Binary64) : Bool := x.bits.toNat ≥ signBit

/-- The pattern without its sign. -/
def magnitude (x : Binary64) : Nat := x.bits.toNat % signBit

def isInfinite (x : Binary64) : Bool := x.magnitude == infinityBits

def isNaN (x : Binary64) : Bool := x.magnitude > infinityBits

def isZero (x : Binary64) : Bool := x.magnitude == 0

def ofMagnitude (negative : Bool) (m : Nat) : Binary64 :=
  ⟨UInt64.ofNat (if negative then m + signBit else m)⟩

def zero : Binary64 := ⟨0⟩

def infinity : Binary64 := ofMagnitude false infinityBits

def nan : Binary64 := ofMagnitude false 0x7FF8000000000000

def neg (x : Binary64) : Binary64 := ofMagnitude (!x.isNegative) x.magnitude

/-- A finite magnitude is `m * 2 ^ (e - 1074)` for the answered `(m, e)`. -/
def parts (x : Binary64) : Nat × Nat :=
  let field := x.magnitude / hiddenBit
  let fraction := x.magnitude % hiddenBit
  if field == 0 then (fraction, 0) else (fraction + hiddenBit, field - 1)

/-- `num / den` to the nearest natural number, a tie to the even one. -/
def roundRatio (num den : Nat) : Nat :=
  let q := num / den
  let r := num % den
  if 2 * r > den || (2 * r == den && q % 2 == 1) then q + 1 else q

/-- The value nearest to the nonnegative fraction `num / den`.  The unit in the last place is the
power of two that leaves 53 bits, and never less than `2 ^ -1074`; rounding up to the next power of
two is right by itself, because the patterns of consecutive values are consecutive. -/
def ofRatio (num den : Nat) : Binary64 :=
  if num == 0 || den == 0 then zero
  else
    -- `num / den` lies strictly between `2 ^ (size - 1)` and `2 ^ (size + 1)`.
    let size : Int := (num.log2 : Int) - (den.log2 : Int)
    let unit (e : Int) : Nat :=
      if e ≥ 0 then roundRatio num (den <<< e.toNat) else roundRatio (num <<< (-e).toNat) den
    let fits (e : Int) : Bool :=
      if e ≥ 0 then num < den <<< (e.toNat + 53)
      else if e + 53 ≥ 0 then num < den <<< (e + 53).toNat
      else num <<< (-(e + 53)).toNat < den
    let e := if fits (size - 53) then size - 53 else size - 52
    let e := if e < -1074 then -1074 else e
    if e > 971 then infinity
    else
      let m := unit e
      let pattern := m + (e + 1074).toNat * hiddenBit
      if pattern ≥ infinityBits then infinity else ofMagnitude false pattern

/-- The numerator and denominator of a finite magnitude. -/
def ratio (x : Binary64) : Nat × Nat :=
  let (m, e) := x.parts
  if e ≥ 1074 then (m <<< (e - 1074), 1) else (m, 1 <<< (1074 - e))

/-- The product of two finite magnitudes. -/
def mul (x y : Binary64) : Binary64 :=
  let (a, b) := x.ratio
  let (c, d) := y.ratio
  ofRatio (a * c) (b * d)

/-- The quotient of two finite magnitudes, the second not zero. -/
def div (x y : Binary64) : Binary64 :=
  let (a, b) := x.ratio
  let (c, d) := y.ratio
  ofRatio (a * d) (b * c)

/-- The value nearest to `digits * 10 ^ exponent`. -/
def ofDecimal (digits : Nat) (exponent : Int) : Binary64 :=
  if digits == 0 then zero
  else
    -- The size in decimal places decides numbers far out of range without computing the power.
    let places := (Nat.toDigits 10 digits).length
    if (places : Int) + exponent > 400 then infinity
    else if (places : Int) + exponent < -400 then zero
    else if exponent ≥ 0 then ofRatio (digits * Nat.pow 10 exponent.toNat) 1
    else ofRatio digits (Nat.pow 10 (-exponent).toNat)

/-! ## Shortest digits -/

/-- Compares `a * 10 ^ k` with `num / den`, for an integer `k`. -/
def compareScaled (a : Nat) (k : Int) (num den : Nat) : Ordering :=
  if k ≥ 0 then compare (a * Nat.pow 10 k.toNat * den) num
  else compare (a * den) (num * Nat.pow 10 (-k).toNat)

/-- The decimal place of the first digit of `num / den`: the least `k` with
`num / den < 10 ^ (k + 1)`, searched upwards from a start below it. -/
def leadingPlace (num den : Nat) : Nat → Int → Int
  | 0, k => k
  | fuel + 1, k =>
    if compareScaled 1 (k + 1) num den == .gt then k else leadingPlace num den fuel (k + 1)

/-- The digits `d` and exponent `k` of the shortest decimal `d * 10 ^ k` that reads back as a
positive finite value.  The decimals that read back form an interval around the value, half a unit
to either side, which includes its ends when the pattern is even. -/
def shortest (x : Binary64) : Nat × Int :=
  let (m, e) := x.parts
  -- Everything over the common denominator `den`, in quarters of a unit.
  let scale (n : Nat) : Nat := if e ≥ 1074 then n <<< (e - 1074) else n
  let den : Nat := 4 * (if e ≥ 1074 then 1 else 1 <<< (1074 - e))
  let value := scale (4 * m)
  let above := scale (4 * m + 2)
  -- Just above a power of two the neighbour below is only half a unit away.
  let below := if m == hiddenBit && e > 0 then scale (4 * m - 1) else scale (4 * m - 2)
  let even := m % 2 == 0
  let inside (a : Nat) (k : Int) : Bool :=
    let lo := compareScaled a k below den
    let hi := compareScaled a k above den
    (lo == .gt || (even && lo == .eq)) && (hi == .lt || (even && hi == .eq))
  let place := leadingPlace value den 700 (-330)
  let rec search : Nat → Int → Nat × Int
    | 0, k => (roundAt value den k, k)
    | fuel + 1, k =>
      let low := floorAt value den k
      let hitLow := inside low k
      let hitHigh := inside (low + 1) k
      if hitLow && hitHigh then (roundAt value den k, k)
      else if hitLow then (low, k)
      else if hitHigh then (low + 1, k)
      else search fuel (k - 1)
  search 17 place
where
  /-- `num / den` in units of `10 ^ k`, rounded down. -/
  floorAt (num den : Nat) (k : Int) : Nat :=
    if k ≥ 0 then num / (den * Nat.pow 10 k.toNat) else num * Nat.pow 10 (-k).toNat / den
  /-- `num / den` in units of `10 ^ k`, rounded to nearest, a tie to the even number. -/
  roundAt (num den : Nat) (k : Int) : Nat :=
    if k ≥ 0 then roundRatio num (den * Nat.pow 10 k.toNat)
    else roundRatio (num * Nat.pow 10 (-k).toNat) den

/-- The shortest digits without trailing zeros, and the place of the point relative to their
start: `0.d₁d₂…` times ten to that power. -/
def digitsAndPoint (x : Binary64) : List Char × Int :=
  let (d, k) := x.shortest
  let ds := Nat.toDigits 10 d
  let trimmed := (ds.reverse.dropWhile (· == '0')).reverse
  (trimmed, k + ds.length)

def zeros (n : Nat) : List Char := List.replicate n '0'

/-- Digits with a point, all places written out: `0.5`, `100.0`. -/
def layPositional (ds : List Char) (point : Int) : List Char :=
  if point ≤ 0 then '0' :: '.' :: zeros (-point).toNat ++ ds
  else
    let n := point.toNat
    if ds.length ≤ n then ds ++ zeros (n - ds.length) ++ ['.', '0']
    else ds.take n ++ '.' :: ds.drop n

def signed (x : Binary64) (body : List Char) : String :=
  String.ofList (if x.isNegative then '-' :: body else body)

/-- The text with all places written out, and always with a point. -/
def positional (x : Binary64) : String :=
  if x.isNaN then "NaN"
  else if x.isInfinite then signed x ['i', 'n', 'f']
  else if x.isZero then signed x ['0', '.', '0']
  else
    let (ds, point) := x.digitsAndPoint
    signed x (layPositional ds point)

/-- An exponent as it is written: always with its sign, and with no more digits than it needs. -/
def exponentPart (power : Int) : List Char :=
  'e' :: (if power < 0 then '-' else '+') :: Nat.toDigits 10 power.natAbs

/-- The text of a finite number on the wire: positional from `1e-5` up to below `1e+16`, with an
exponent outside.  What is no number is written as the absent value by the caller. -/
def exponential (x : Binary64) : String :=
  if x.isZero then signed x ['0', '.', '0']
  else
    let (ds, point) := x.digitsAndPoint
    if -5 < point && point ≤ 16 then signed x (layPositional ds point)
    else
      let power := exponentPart (point - 1)
      match ds with
      | [] => signed x []
      | [d] => signed x (d :: power)
      | d :: rest => signed x (d :: '.' :: rest ++ power)

end Binary64

end LanguageClient
