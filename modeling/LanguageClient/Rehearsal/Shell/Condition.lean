import LanguageClient.Rehearsal.Shell.Arithmetic
import LanguageClient.Rehearsal.Shell.Bytes
import LanguageClient.Storage.FileTree

/-!
# Conditions

What a test says of texts, numbers and files.  A word that could be an operator is one only where that
makes sense, so what a test means depends on how many words there are.
-/

namespace LanguageClient.Shell

/-- What a word is to a test. -/
inductive TestWord
  | unary (op : String)
  | binary (op : String)
  | not | and | or
  | opening | closing
  | operand
  /-- There is none. -/
  | missing
  deriving DecidableEq, Repr

namespace TestWord

def unaryNames : List String :=
  ["-r", "-w", "-x", "-e", "-f", "-d", "-c", "-b", "-p", "-u", "-g", "-k", "-s", "-t", "-z", "-n", "-h",
    "-O", "-G", "-L", "-S"]

def binaryNames : List String :=
  ["=", "!=", "<", ">", "-eq", "-ne", "-gt", "-ge", "-lt", "-le", "-nt", "-ot", "-ef"]

/-- What a word may be by itself. -/
def ofText (text : String) : TestWord :=
  if unaryNames.contains text then unary text
  else if binaryNames.contains text then binary text
  else
    match text with
    | "!" => not
    | "-a" => and
    | "-o" => or
    | "(" => opening
    | ")" => closing
    | _ => operand

def isBinary : TestWord → Bool
  | binary _ => true
  | _ => false

/-- What the first of some words is: one that could ask something of the next is a mere text if there is
nothing after it, or if the next word compares. -/
def first : List Bytes → TestWord
  | [] => missing
  | [a] =>
    match ofText (textOf a) with
    | unary _ | opening => operand
    | w => w
  | a :: b :: rest =>
    match ofText (textOf a) with
    | unary op => if !rest.isEmpty && (ofText (textOf b)).isBinary then operand else unary op
    | w => w

end TestWord

/-- What a test asks of one text. -/
def unaryTest (files : FileTree) (cwd : Place) (op : String) (a : Bytes) : Bool :=
  let path := textOf a
  let isDevice := ["/dev/null", "/dev/zero"].contains path
  let exists_ := isDevice || files.exists? cwd path
  match op with
  | "-z" => a.isEmpty
  | "-n" => !a.isEmpty
  | "-e" | "-r" | "-w" | "-O" | "-G" => exists_
  | "-f" => files.isFile cwd path
  | "-d" =>
    match files.find cwd path with
    | .ok (_, .directory) => true
    | _ => false
  | "-s" =>
    match files.find cwd path with
    | .ok (_, .file content _) => !content.isEmpty
    | .ok (_, .directory) => true
    | .error _ => false
  | "-x" =>
    match files.find cwd path with
    | .ok (_, .file _ executable) => executable
    | .ok (_, .directory) => true
    | .error _ => false
  | "-c" => isDevice
  | _ => false

/-- What a test says of two texts; a complaint if one of them should be a number and is not. -/
def binaryTest (op : String) (a b : Bytes) : Except String Bool :=
  let number (t : Bytes) : Except String Int :=
    let digits := (textOf t).trimAscii.toString.toList
    let body := match digits with
      | '-' :: rest => rest
      | '+' :: rest => rest
      | cs => cs
    if !body.isEmpty && body.all Char.isDigit then
      let n : Int := Arithmetic.ofDigits 10 body
      .ok (if digits.head? = some '-' then -n else n)
    else .error ("Illegal number: " ++ textOf t)
  let compare (f : Int → Int → Bool) : Except String Bool := do
    let x ← number a
    return f x (← number b)
  match op with
  | "=" => .ok (a = b)
  | "!=" => .ok (a ≠ b)
  | "<" => .ok (textOf a < textOf b)
  | ">" => .ok (textOf b < textOf a)
  | "-eq" => compare (· = ·)
  | "-ne" => compare (· ≠ ·)
  | "-lt" => compare (· < ·)
  | "-le" => compare (· ≤ ·)
  | "-gt" => compare (· > ·)
  | "-ge" => compare (· ≥ ·)
  | _ => .ok false

-- Each of these answers with the words from the last one that it has used.
mutual

/-- Alternatives of a test. -/
def anyTest (files : FileTree) (cwd : Place) : (fuel : Nat) → TestWord → List Bytes →
    Except String (Bool × List Bytes)
  | 0, _, _ => .error "argument expected"
  | fuel + 1, w, args => do
    let (a, args) ← allTests files cwd fuel w args
    if TestWord.first args.tail = .or then
      let (b, args) ← anyTest files cwd fuel (TestWord.first (args.drop 2)) (args.drop 2)
      return (a || b, args)
    else return (a, args)

/-- Tests that all have to hold. -/
def allTests (files : FileTree) (cwd : Place) : (fuel : Nat) → TestWord → List Bytes →
    Except String (Bool × List Bytes)
  | 0, _, _ => .error "argument expected"
  | fuel + 1, w, args => do
    let (a, args) ← negatedTest files cwd fuel w args
    if TestWord.first args.tail = .and then
      let (b, args) ← allTests files cwd fuel (TestWord.first (args.drop 2)) (args.drop 2)
      return (a && b, args)
    else return (a, args)

/-- One test, perhaps negated. -/
def negatedTest (files : FileTree) (cwd : Place) : (fuel : Nat) → TestWord → List Bytes →
    Except String (Bool × List Bytes)
  | 0, _, _ => .error "argument expected"
  | fuel + 1, w, args =>
    if w = .not then do
      let next := TestWord.first args.tail
      let (a, args) ← negatedTest files cwd fuel next (if next = .missing then args else args.tail)
      return (!a, args)
    else oneTest files cwd fuel w args

/-- One test. -/
def oneTest (files : FileTree) (cwd : Place) : (fuel : Nat) → TestWord → List Bytes →
    Except String (Bool × List Bytes)
  | 0, _, _ => .error "argument expected"
  | _ + 1, .missing, args => .ok (false, args)
  | fuel + 1, .opening, args =>
    let inside := TestWord.first args.tail
    if inside = .closing then .ok (false, args.tail)
    else do
      let (a, args) ← anyTest files cwd fuel inside args.tail
      if TestWord.first args.tail = .closing then return (a, args.tail)
      else .error "closing paren expected"
  | _ + 1, .unary op, args =>
    match args.tail with
    | [] => .error (op ++ ": argument expected")
    | a :: rest => .ok (unaryTest files cwd op a, a :: rest)
  | _ + 1, _, args =>
    let a := args.headD []
    match TestWord.first args.tail, args.drop 2 with
    | .binary op, [] => .error (op ++ ": argument expected")
    | .binary op, b :: rest => (binaryTest op a b).map fun r => (r, b :: rest)
    | _, _ => .ok (!a.isEmpty, args)

end

/-- What a test of files and texts says, or what is wrong with it.  What three or four words mean
depends on their number. -/
def test (files : FileTree) (cwd : Place) (args : List Bytes) : Except String Bool :=
  let run (w : TestWord) (args : List Bytes) : Except String Bool := do
    match ← anyTest files cwd (8 * args.length + 8) w args with
    | (_, last :: _ :: _) =>
      if last.isEmpty then .error "unexpected operator"
      else .error (textOf last ++ ": unexpected operator")
    | (r, _) => return r
  let plain (args : List Bytes) : Except String Bool :=
    if args.isEmpty then .ok false else run (TestWord.first args) args
  let inBrackets (args : List Bytes) : Bool :=
    args.head?.map textOf = some "(" && args.getLast?.map textOf = some ")"
  let three (args : List Bytes) : Except String Bool :=
    if (args[1]?.map fun b => (TestWord.ofText (textOf b)).isBinary) = some true then run .operand args
    else if inBrackets args then plain (args.drop 1).dropLast
    else if args.head?.map textOf = some "!" then (plain args.tail).map (!·)
    else plain args
  match args.length with
  | 3 => three args
  | 4 =>
    if inBrackets args then plain (args.drop 1).dropLast
    else if args.head?.map textOf = some "!" then (three args.tail).map (!·)
    else plain args
  | _ => plain args

end LanguageClient.Shell
