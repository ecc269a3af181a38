import LanguageClient.Rehearsal.Shell.Arithmetic
import LanguageClient.Rehearsal.Shell.Pattern

/-!
# Escapes and formats

A backslash begins an escape, which stands for a byte, and a percent sign a conversion, which stands for
an argument.  `echo` writes words in which there may be escapes, `format` a format whose conversions
take the arguments one after another, again and again while there are some.
-/

namespace LanguageClient.Shell

/-- The byte that a letter stands for behind a backslash. -/
def escape? (c : UInt8) : Option UInt8 :=
  ([('n', 0x0A), ('r', 0x0D), ('t', 0x09), ('a', 0x07), ('b', 0x08), ('f', 0x0C), ('v', 0x0B),
    ('\\', 0x5C)] : List (Char × UInt8)).findSome? fun (k, v) =>
      if Pattern.byteOf k = c then some v else none

def octalDigit? (c : UInt8) : Option Nat :=
  if 0x30 ≤ c && c ≤ 0x37 then some (c.toNat - 0x30) else none

/-- At most `n` octal digits in front: their value and how many there are. -/
def octal : (n : Nat) → Bytes → Nat × Nat
  | 0, _ => (0, 0)
  | _ + 1, [] => (0, 0)
  | n + 1, c :: rest =>
    match octalDigit? c with
    | none => (0, 0)
    | some d =>
      let (v, k) := octal n rest
      (d <<< (3 * k) + v, k + 1)

/-- A text with its escapes replaced, and whether it said that nothing is to follow.  Only an `extended`
one can say so, and in it a zero may stand before three octal digits. -/
def unescape (extended : Bool) : Bytes → Bytes × Bool
  | [] => ([], false)
  | 0x5C :: c :: rest =>
    if c = Pattern.byteOf 'c' && extended then ([], true)
    else
      match escape? c with
      | some b =>
        let (t, stop) := unescape extended rest
        (b :: t, stop)
      | none =>
        let (v, k) := octal (if extended && c = 0x30 then 4 else 3) (c :: rest)
        if k = 0 then
          let (t, stop) := unescape extended rest
          (0x5C :: c :: t, stop)
        else
          let (t, stop) := unescape extended (rest.drop (k - 1))
          (UInt8.ofNat v :: t, stop)
  | b :: rest =>
    let (t, stop) := unescape extended rest
    (b :: t, stop)
termination_by b => b.length
decreasing_by all_goals (simp only [List.length_cons, List.length_drop]; omega)

/-- Writes words as the `echo` of the shell does. -/
def echo (args : List Bytes) : Bytes :=
  let (quiet, args) := match args with
    | first :: rest => if textOf first = "-n" then (true, rest) else (false, args)
    | [] => (false, [])
  let (text, stop) := unescape true (joinWith [0x20] args)
  if quiet || stop then text else text ++ [newline]

/-- Writes words as the `echo` of the system does, for which escapes are an option. -/
def systemEcho (args : List Bytes) : Bytes :=
  let isOption (b : Bytes) : Bool :=
    match (textOf b).toList with
    | '-' :: c :: rest => (c :: rest).all ['n', 'e', 'E'].contains
    | _ => false
  let options := (args.takeWhile isOption).flatMap fun b => (textOf b).toList
  let text := joinWith [0x20] (args.dropWhile isOption)
  let escapes := (options.reverse.find? fun c => c = 'e' || c = 'E') = some 'e'
  let (text, stop) := if escapes then unescape true text else (text, false)
  if options.contains 'n' || stop then text else text ++ [newline]

/-- The number that an argument is meant to be, and what is wrong with it. -/
def numericArg (b : Bytes) : Int × Option String :=
  let cs := (textOf b).toList
  match cs with
  | [] => (0, none)
  | '\'' :: c :: _ => (c.toNat, none)
  | '"' :: c :: _ => (c.toNat, none)
  | _ =>
    match Arithmetic.number? cs with
    | some n => (n, none)
    | none =>
      let body := cs.dropWhile fun c => c = ' ' || c = '\t' || c = '\n' || c = '-' || c = '+'
      if body.head?.any Char.isDigit then
        let n := (Arithmetic.numeral body).1
        (if cs.contains '-' then -n else n, some (textOf b ++ ": not completely converted"))
      else (0, some (textOf b ++ ": expected numeric value"))

/-- A conversion of a format. -/
structure Conversion where
  atLeft : Bool := false
  zeros : Bool := false
  plus : Bool := false
  blank : Bool := false
  width : Nat := 0
  /-- The most bytes of a text, or the fewest digits of a number. -/
  precision : Option Nat := none
  kind : UInt8
  deriving Inhabited, Repr

namespace Conversion

def isDigit (b : UInt8) : Bool := 0x30 ≤ b && b ≤ 0x39

def numberOf (digits : Bytes) : Nat := digits.foldl (fun n d => n * 10 + (d.toNat - 0x30)) 0

/-- The conversion behind a percent sign, and the rest. -/
def read? (b : Bytes) : Option (Conversion × Bytes) :=
  let isFlag (c : UInt8) : Bool := c = 0x2D || c = 0x30 || c = 0x2B || c = 0x20
  let flags := b.takeWhile isFlag
  let afterFlags := b.dropWhile isFlag
  let afterWidth := afterFlags.dropWhile isDigit
  let precision := match afterWidth with
    | 0x2E :: rest => some (numberOf (rest.takeWhile isDigit))
    | _ => none
  let afterPrecision := match afterWidth with
    | 0x2E :: rest => rest.dropWhile isDigit
    | rest => rest
  match afterPrecision with
  | [] => none
  | kind :: rest =>
    some (
      { atLeft := flags.contains 0x2D
        zeros := flags.contains 0x30
        plus := flags.contains 0x2B
        blank := flags.contains 0x20
        width := numberOf (afterFlags.takeWhile isDigit)
        precision
        kind }, rest)

/-- A number in a base, with its sign. -/
def digitsOf (c : Conversion) (base : Nat) (n : Int) : Bytes :=
  let digits := Nat.toDigits base n.natAbs
  let digits := List.replicate ((c.precision.getD 1) - digits.length) '0' ++ digits
  let signed := c.kind = Pattern.byteOf 'd' || c.kind = Pattern.byteOf 'i'
  bytesOf (String.ofList (
    if n < 0 then '-' :: digits
    else if signed && c.plus then '+' :: digits
    else if signed && c.blank then ' ' :: digits
    else digits))

/-- Fills up to the width. -/
def pad (c : Conversion) (isNumber : Bool) (text : Bytes) : Bytes :=
  let missing := c.width - text.length
  if c.atLeft then text ++ List.replicate missing 0x20
  else if c.zeros && isNumber && c.precision.isNone then
    match text with
    | sign :: digits =>
      if isDigit sign || 0x61 ≤ sign then List.replicate missing 0x30 ++ text
      else sign :: (List.replicate missing 0x30 ++ digits)
    | [] => List.replicate missing 0x30
  else List.replicate missing 0x20 ++ text

/-- The letters of conversions that are known. -/
def known : List Char := ['s', 'b', 'c', 'd', 'i', 'u', 'o', 'x', 'X']

def letter (c : Conversion) : Char := Char.ofNat c.kind.toNat

/-- What stands for an argument, what is wrong with it, and whether nothing is to follow. -/
def convert (c : Conversion) (arg : Bytes) : Bytes × Option String × Bool :=
  let cut (text : Bytes) : Bytes := match c.precision with
    | some n => text.take n
    | none => text
  let (n, wrong) := numericArg arg
  let unsigned : Int := if n < 0 then n + 0x10000000000000000 else n
  match c.letter with
  | 's' => (c.pad false (cut arg), none, false)
  | 'b' =>
    let (text, stop) := unescape true arg
    (c.pad false (cut text), none, stop)
  | 'c' => (c.pad false (arg.take 1), none, false)
  | 'x' => (c.pad true (c.digitsOf 16 unsigned), wrong, false)
  | 'X' =>
    (c.pad true ((c.digitsOf 16 unsigned).map fun b => if 0x61 ≤ b then b - 0x20 else b), wrong, false)
  | 'o' => (c.pad true (c.digitsOf 8 unsigned), wrong, false)
  | 'u' => (c.pad true (c.digitsOf 10 unsigned), wrong, false)
  | _ => (c.pad true (c.digitsOf 10 n), wrong, false)

end Conversion

/-- What comes of a format. -/
structure Formatted where
  text : Bytes := []
  wrong : List String := []
  /-- The arguments that have not been used. -/
  left : List Bytes := []
  /-- Nothing is to follow. -/
  stops : Bool := false
  /-- A conversion that there is not. -/
  invalid : Option Bytes := none
  deriving Inhabited, Repr

def Formatted.after (before : Bytes) (wrong : List String) (f : Formatted) : Formatted :=
  { f with text := before ++ f.text, wrong := wrong ++ f.wrong }

/-- A format with its conversions replaced. -/
def formatOnce : (fuel : Nat) → List Bytes → Bytes → Formatted
  | 0, args, _ => { left := args }
  | _ + 1, args, [] => { left := args }
  | fuel + 1, args, 0x25 :: 0x25 :: rest => (formatOnce fuel args rest).after [0x25] []
  | fuel + 1, args, 0x25 :: rest =>
    match Conversion.read? rest with
    | none => { left := args, invalid := some [0x25] }
    | some (c, after) =>
      if Conversion.known.contains c.letter then
        let (text, wrong, stops) := c.convert (args.headD [])
        if stops then { text, left := [], stops } else (formatOnce fuel args.tail after).after text wrong.toList
      else { left := args, invalid := some (0x25 :: rest.take (rest.length - after.length)) }
  | fuel + 1, args, b :: rest => (formatOnce fuel args rest).after [b] []

/-- Writes arguments as `printf` does; the format is used again while arguments are left. -/
def format (fmt : Bytes) (args : List Bytes) : Formatted :=
  let fmt := (unescape false fmt).1
  let rec again : (fuel : Nat) → List Bytes → Formatted
    | 0, _ => {}
    | fuel + 1, args =>
      let f := formatOnce (fmt.length + 1) args fmt
      if f.left.isEmpty || f.left.length = args.length || f.stops || f.invalid.isSome then f
      else (again fuel f.left).after f.text f.wrong
  again (args.length + 1) args

end LanguageClient.Shell
