import LanguageClient.Rehearsal.Shell.Bytes

/-!
# Patterns of the shell

A pattern stands for a set of byte strings: a star for any string, a question mark for any byte,
brackets for one byte out of some, everything else for itself.
-/

namespace LanguageClient.Shell

inductive PatternItem
  | byte (b : UInt8)
  | one
  | many
  | oneOf (negated : Bool) (ranges : List (UInt8 × UInt8))
  deriving DecidableEq, Inhabited, Repr

abbrev Pattern := List PatternItem

namespace PatternItem

/-- Whether the item stands for a byte. -/
def accepts : PatternItem → UInt8 → Bool
  | byte b, c => b = c
  | one, _ => true
  | many, _ => true
  | oneOf negated ranges, c => (ranges.any fun (a, b) => a ≤ c && c ≤ b) != negated

end PatternItem

namespace Pattern

/-- Whether a pattern stands for a whole string. -/
def accepts : Pattern → Bytes → Bool
  | [], text => text.isEmpty
  | .many :: rest, [] => accepts rest []
  | .many :: rest, c :: text => accepts rest (c :: text) || accepts (.many :: rest) text
  | _ :: _, [] => false
  | item :: rest, c :: text => item.accepts c && accepts rest text
termination_by p text => p.length + text.length

/-- What is left of a text without the part that a pattern matches at one of its ends. -/
def strip (atEnd longest : Bool) (p : Pattern) (text : Bytes) : Bytes :=
  let cuts := List.range (text.length + 1)
  -- The part at the end is longest where it begins first.
  let cuts := if atEnd = longest then cuts else cuts.reverse
  let matched (n : Nat) : Bool := accepts p (if atEnd then text.drop n else text.take n)
  match cuts.find? matched with
  | some n => if atEnd then text.take n else text.drop n
  | none => text

def byteOf (c : Char) : UInt8 := c.val.toUInt8

/-- The ranges that stand between two bytes with a dash. -/
def ranges : Bytes → List (UInt8 × UInt8)
  | a :: dash :: b :: rest =>
    if dash = byteOf '-' then (a, b) :: ranges rest else (a, a) :: ranges (dash :: b :: rest)
  | a :: rest => (a, a) :: ranges rest
  | [] => []
termination_by bs => bs.length

/-- The bytes of a named class. -/
def classRanges (name : List Char) : List (UInt8 × UInt8) :=
  let digits := [(0x30, 0x39)]
  let lower := [(0x61, 0x7A)]
  let upper := [(0x41, 0x5A)]
  (([("digit", digits), ("lower", lower), ("upper", upper), ("alpha", lower ++ upper),
    ("alnum", digits ++ lower ++ upper), ("xdigit", digits ++ [(0x61, 0x66), (0x41, 0x46)]),
    ("space", [(0x09, 0x0D), (0x20, 0x20)]), ("blank", [(0x09, 0x09), (0x20, 0x20)]),
    ("punct", [(0x21, 0x2F), (0x3A, 0x40), (0x5B, 0x60), (0x7B, 0x7E)]),
    ("print", [(0x20, 0x7E)]), ("graph", [(0x21, 0x7E)]), ("cntrl", [(0x00, 0x1F), (0x7F, 0x7F)])] :
    List (String × List (UInt8 × UInt8))).lookup (String.ofList name)).getD []

/-- A byte of a text and whether it is quoted. -/
abbrev Marked := UInt8 × Bool

def isOpen (c : Char) (m : Marked) : Bool := m = (byteOf c, false)

/-- The inside of brackets up to the closing one, which does not count in the first place.  The length
of the text is enough fuel. -/
def bracketBody : (fuel : Nat) → (first : Bool) → List Marked →
    Option (List (UInt8 × UInt8) × List Marked)
  | 0, _, _ => none
  | _ + 1, _, [] => none
  | fuel + 1, first, m :: rest =>
    let add (ranges : List (UInt8 × UInt8)) (rest : List Marked) :
        Option (List (UInt8 × UInt8) × List Marked) :=
      (bracketBody fuel false rest).map fun (rs, rest) => (ranges ++ rs, rest)
    if isOpen ']' m && !first then some ([], rest)
    else if isOpen '[' m && (rest.head?.any fun n => n.1 = byteOf ':') then
      let name := (rest.drop 1).takeWhile fun n => n.1 ≠ byteOf ':'
      let after := (rest.drop 1).drop name.length
      if (after.drop 1).head?.any fun n => n.1 = byteOf ']' then
        add (classRanges (name.map fun n => Char.ofNat n.1.toNat)) (after.drop 2)
      else add [(m.1, m.1)] rest
    else
      match rest with
      | dash :: last :: more =>
        if isOpen '-' dash && !isOpen ']' last then add [(m.1, last.1)] more
        else add [(m.1, m.1)] rest
      | _ => add [(m.1, m.1)] rest

/-- The set that brackets stand for, after the opening one. -/
def bracket? (ms : List Marked) : Option (PatternItem × List Marked) :=
  let negated := ms.head?.any (isOpen '!')
  (bracketBody (ms.length + 1) true (if negated then ms.drop 1 else ms)).map fun (rs, rest) =>
    (.oneOf negated rs, rest)

/-- Reads a pattern from bytes, those that are quoted standing for themselves.  The length of the text
is enough fuel. -/
def read : (fuel : Nat) → List Marked → Pattern
  | 0, _ => []
  | _ + 1, [] => []
  | fuel + 1, m :: rest =>
    if isOpen '*' m then .many :: read fuel rest
    else if isOpen '?' m then .one :: read fuel rest
    else
      match if isOpen '[' m then bracket? rest else none with
      | some (item, rest) => item :: read fuel rest
      | none => .byte m.1 :: read fuel rest

def ofMarked (ms : List Marked) : Pattern := read ms.length ms

/-- Whether a text says anything but itself. -/
def isMagic (ms : List Marked) : Bool :=
  ms.any fun m => isOpen '*' m || isOpen '?' m || isOpen '[' m

/-- A pattern that stands for one string only. -/
def literal (bs : Bytes) : Pattern := bs.map .byte

end Pattern

end LanguageClient.Shell
