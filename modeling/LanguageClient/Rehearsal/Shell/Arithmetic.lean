import LanguageClient.Data.Table
import LanguageClient.Text.Utf8

/-!
# Arithmetic of the shell

An expression between double parentheses is made of whole numbers of 64 bits, names of variables,
parentheses and operators.  It is read as a tree and then evaluated, so that the side of a condition
that is not taken neither assigns nor divides.
-/

namespace LanguageClient.Shell.Arithmetic

/-- Why an expression has no value. -/
inductive Mistake
  | expecting (what : String)
  | divisionByZero
  /-- The text of a variable is no number. -/
  | illegalNumber (text : String)
  deriving DecidableEq, Inhabited, Repr

def Mistake.message (expression : String) : Mistake → String
  | expecting what => "arithmetic expression: expecting " ++ what ++ ": \"" ++ expression ++ "\""
  | divisionByZero => "arithmetic expression: division by zero: \"" ++ expression ++ "\""
  | illegalNumber text => "Illegal number: " ++ text

inductive Token
  | number (n : Int)
  | name (s : String)
  | symbol (s : String)
  deriving DecidableEq, Inhabited, Repr

inductive Expr
  | number (n : Int)
  | name (s : String)
  | unary (op : String) (a : Expr)
  | binary (op : String) (a b : Expr)
  | choose (condition yes no : Expr)
  | assign (name : String) (op : Option String) (a : Expr)
  deriving Inhabited, Repr

/-! ## Numbers -/

/-- A number as 64 bits keep it. -/
def wrap (n : Int) : Int := n.bmod 0x10000000000000000

/-- The most that 64 bits hold. -/
def saturate (n : Nat) : Int := min (n : Int) 0x7FFFFFFFFFFFFFFF

/-- The value of a digit in a base. -/
def digit? (base : Nat) (c : Char) : Option Nat :=
  let n := if c.isDigit then c.toNat - '0'.toNat
    else if 'a' ≤ c && c ≤ 'f' then c.toNat - 'a'.toNat + 10
    else if 'A' ≤ c && c ≤ 'F' then c.toNat - 'A'.toNat + 10
    else 99
  if n < base then some n else none

def ofDigits (base : Nat) (ds : List Char) : Nat :=
  ds.foldl (fun n d => n * base + (digit? base d).getD 0) 0

/-- The number in front: hexadecimal behind `0x`, octal behind `0`, and decimal otherwise. -/
def numeral (cs : List Char) : Int × List Char :=
  let take (base : Nat) (cs : List Char) : Int × List Char :=
    let ds := cs.takeWhile fun c => (digit? base c).isSome
    (saturate (ofDigits base ds), cs.drop ds.length)
  match cs with
  | '0' :: x :: d :: rest =>
    if (x = 'x' || x = 'X') && (digit? 16 d).isSome then take 16 (d :: rest) else take 8 cs
  | '0' :: _ => take 8 cs
  | _ => take 10 cs

/-- The number that a whole text is, with blanks in front and a sign. -/
def number? (cs : List Char) : Option Int :=
  let cs := cs.dropWhile fun c => c = ' ' || c = '\t' || c = '\n'
  let (negative, cs) := match cs with
    | '-' :: rest => (true, rest)
    | '+' :: rest => (false, rest)
    | cs => (false, cs)
  if cs.head?.any Char.isDigit then
    match numeral cs with
    | (n, []) => some (if negative then -n else n)
    | _ => none
  else none

/-! ## Reading -/

/-- Symbols of more than one character, the longest first. -/
def longSymbols : List String :=
  ["<<=", ">>=", "||", "&&", "==", "!=", "<=", ">=", "<<", ">>", "+=", "-=", "*=", "/=", "%=", "&=",
    "|=", "^="]

/-- Cuts an expression into tokens. -/
def tokens : (fuel : Nat) → List Char → List Token
  | 0, _ => []
  | _ + 1, [] => []
  | fuel + 1, c :: rest =>
    if c = ' ' || c = '\t' || c = '\n' then tokens fuel rest
    else if c.isDigit then
      let (n, rest) := numeral (c :: rest)
      .number n :: tokens fuel rest
    else if c.isAlpha || c = '_' then
      let name := (c :: rest).takeWhile fun d => d.isAlphanum || d = '_'
      .name (String.ofList name) :: tokens fuel ((c :: rest).drop name.length)
    else
      match longSymbols.find? fun s => s.toList.isPrefixOf (c :: rest) with
      | some s => .symbol s :: tokens fuel ((c :: rest).drop s.length)
      | none => .symbol (String.ofList [c]) :: tokens fuel rest

/-- The operators between two operands, those that bind least first. -/
def levels : List (List String) :=
  [["||"], ["&&"], ["|"], ["^"], ["&"], ["==", "!="], ["<", "<=", ">", ">="], ["<<", ">>"],
    ["+", "-"], ["*", "/", "%"]]

/-- Operators that may stand before the sign of an assignment. -/
def assigning : List String := ["+", "-", "*", "/", "%", "&", "|", "^", "<<", ">>"]

/-- The operator of an assignment, if the symbol is one. -/
def assignment? (s : String) : Option (Option String) :=
  if s = "=" then some none
  else (assigning.find? fun op => op ++ "=" = s).map some

mutual

/-- A whole expression: an assignment, or a condition. -/
def expression : (fuel : Nat) → List Token → Except Mistake (Expr × List Token)
  | 0, _ => .error (.expecting "primary")
  | fuel + 1, ts =>
    match ts with
    | .name x :: .symbol s :: rest =>
      match assignment? s with
      | some op => do
        let (a, rest) ← expression fuel rest
        return (.assign x op a, rest)
      | none => condition fuel ts
    | _ => condition fuel ts

/-- An expression and perhaps two others, of which it chooses one. -/
def condition : (fuel : Nat) → List Token → Except Mistake (Expr × List Token)
  | 0, _ => .error (.expecting "primary")
  | fuel + 1, ts => do
    let (c, rest) ← level fuel levels ts
    match rest with
    | .symbol "?" :: rest =>
      let (yes, rest) ← expression fuel rest
      match rest with
      | .symbol ":" :: rest =>
        let (no, rest) ← condition fuel rest
        return (.choose c yes no, rest)
      | _ => .error (.expecting "':'")
    | _ => return (c, rest)

/-- A number, a name, an expression in parentheses, or one with a sign. -/
def operand : (fuel : Nat) → List Token → Except Mistake (Expr × List Token)
  | 0, _ => .error (.expecting "primary")
  | fuel + 1, ts =>
    match ts with
    | .number n :: rest => .ok (.number n, rest)
    | .name x :: rest => .ok (.name x, rest)
    | .symbol "(" :: rest => do
      let (a, rest) ← expression fuel rest
      match rest with
      | .symbol ")" :: rest => return (a, rest)
      | _ => .error (.expecting "')'")
    | .symbol s :: rest =>
      if ["-", "+", "!", "~"].contains s then do
        let (a, rest) ← operand fuel rest
        return (.unary s a, rest)
      else .error (.expecting "primary")
    | [] => .error (.expecting "primary")

/-- Operands with operators of some levels between them. -/
def level : (fuel : Nat) → List (List String) → List Token → Except Mistake (Expr × List Token)
  | 0, _, _ => .error (.expecting "primary")
  | fuel + 1, [], ts => operand fuel ts
  | fuel + 1, ops :: higher, ts => do
    let (a, rest) ← level fuel higher ts
    more fuel ops higher a rest

/-- What follows the first operand of a level. -/
def more : (fuel : Nat) → List String → List (List String) → Expr → List Token →
    Except Mistake (Expr × List Token)
  | 0, _, _, _, _ => .error (.expecting "primary")
  | fuel + 1, ops, higher, a, ts =>
    match ts with
    | .symbol s :: rest =>
      if ops.contains s then do
        let (b, rest) ← level fuel higher rest
        more fuel ops higher (.binary s a b) rest
      else .ok (a, ts)
    | _ => .ok (a, ts)

end

/-- Reads a whole expression. -/
def read (text : List Char) : Except Mistake Expr := do
  let ts := tokens (text.length + 1) text
  match ← expression (32 * (ts.length + 1)) ts with
  | (e, []) => return e
  | _ => .error (.expecting "EOF")

/-! ## Evaluating -/

def ofBool (b : Bool) : Int := if b then 1 else 0

/-- Applies an operator of bits. -/
def bitwise (f : Int64 → Int64 → Int64) (a b : Int) : Int := (f (.ofInt a) (.ofInt b)).toInt

/-- Applies an operator to two values. -/
def apply (op : String) (a b : Int) : Except Mistake Int :=
  match op with
  | "==" => .ok (ofBool (a = b))
  | "!=" => .ok (ofBool (a ≠ b))
  | "<" => .ok (ofBool (a < b))
  | "<=" => .ok (ofBool (a ≤ b))
  | ">" => .ok (ofBool (b < a))
  | ">=" => .ok (ofBool (b ≤ a))
  | "+" => .ok (wrap (a + b))
  | "-" => .ok (wrap (a - b))
  | "*" => .ok (wrap (a * b))
  | "/" => if b = 0 then .error .divisionByZero else .ok (wrap (a.tdiv b))
  | "%" => if b = 0 then .error .divisionByZero else .ok (wrap (a.tmod b))
  | "&" => .ok (bitwise (· &&& ·) a b)
  | "|" => .ok (bitwise (· ||| ·) a b)
  | "^" => .ok (bitwise (· ^^^ ·) a b)
  | "<<" => .ok (bitwise (· <<< ·) a b)
  | ">>" => .ok (bitwise (· >>> ·) a b)
  | _ => .error (.expecting "EOF")

/-- What variables hold, and what an expression has given them. -/
structure Memory where
  text : String → List Char
  given : Table String Int := []

namespace Memory

def value (m : Memory) (x : String) : Except Mistake Int :=
  match m.given.get? x with
  | some n => .ok n
  | none =>
    if (m.text x).isEmpty then .ok 0
    else
      match number? (m.text x) with
      | some n => .ok n
      | none => .error (.illegalNumber (String.ofList (m.text x)))

end Memory

/-- The value of an expression, and what variables hold then. -/
def Expr.evaluate (m : Memory) : Expr → Except Mistake (Int × Memory)
  | number n => .ok (n, m)
  | name x => (m.value x).map fun n => (n, m)
  | unary op a => do
    let (n, m) ← a.evaluate m
    return (match op with
      | "-" => wrap (-n)
      | "!" => ofBool (n = 0)
      | "~" => -n - 1
      | _ => n, m)
  | binary op a b => do
    let (x, m) ← a.evaluate m
    if op = "||" && x ≠ 0 then return (1, m)
    else if op = "&&" && x = 0 then return (0, m)
    else
      let (y, m) ← b.evaluate m
      if op = "||" || op = "&&" then return (ofBool (y ≠ 0), m)
      else return (← apply op x y, m)
  | choose c yes no => do
    let (x, m) ← c.evaluate m
    if x ≠ 0 then yes.evaluate m else no.evaluate m
  | assign x op a => do
    let (n, m) ← a.evaluate m
    let n ← match op with
      | none => .ok n
      | some op => apply op (← m.value x) n
    return (n, { m with given := m.given.set x n })

/-- The value of an expression, given the texts of variables, and the variables that it assigns. -/
def evaluate (text : String → List Char) (expression : List Char) :
    Except Mistake (Int × Table String Int) := do
  let (n, m) ← (← read expression).evaluate { text }
  return (n, m.given)

end LanguageClient.Shell.Arithmetic
