import LanguageClient.Rehearsal.Shell.Pattern

/-!
# Expressions for parts of lines

An expression stands for the lines of which it fits some part, or a part at one of the ends if it says
so.
-/

namespace LanguageClient.Shell

/-- A byte out of some, perhaps any number of times. -/
structure Repeatable where
  item : PatternItem
  repeats : Bool
  deriving DecidableEq, Inhabited, Repr

/-- An expression for parts of a line: a dot is any byte, brackets one byte out of some, a backslash
quotes, and what a star follows may come any number of times. -/
structure Expression where
  /-- Only what begins the line counts. -/
  atStart : Bool := false
  /-- Only what ends the line counts. -/
  atEnd : Bool := false
  items : List Repeatable
  deriving DecidableEq, Inhabited, Repr

namespace Expression

/-- Reads an expression; the length of the text is enough fuel. -/
def itemsOf : (fuel : Nat) → Bytes → List Repeatable
  | 0, _ => []
  | _ + 1, [] => []
  | fuel + 1, b :: rest =>
    let repeated (item : PatternItem) (rest : Bytes) : List Repeatable :=
      match rest with
      | 0x2A :: rest => ⟨item, true⟩ :: itemsOf fuel rest
      | _ => ⟨item, false⟩ :: itemsOf fuel rest
    match b, rest with
    | 0x2E, _ => repeated .one rest
    | 0x5C, c :: rest => repeated (.byte c) rest
    | 0x5B, _ =>
      let negated := rest.head? = some 0x5E
      let inside := (if negated then rest.drop 1 else rest).map fun c => (c, false)
      match Pattern.bracketBody (inside.length + 1) true inside with
      | some (ranges, rest) => repeated (.oneOf negated ranges) (rest.map (·.1))
      | none => repeated (.byte b) rest
    | _, _ => repeated (.byte b) rest

def read (text : Bytes) : Expression :=
  let atStart := text.head? = some 0x5E
  let text := if atStart then text.drop 1 else text
  let atEnd := text.getLast? = some 0x24
  let text := if atEnd then text.dropLast else text
  { atStart, atEnd, items := itemsOf text.length text }

/-- Whether items stand for the front of a text, or for all of it. -/
def begins (whole : Bool) : List Repeatable → Bytes → Bool
  | [], text => !whole || text.isEmpty
  | ⟨_, true⟩ :: rest, [] => begins whole rest []
  | ⟨item, true⟩ :: rest, c :: text =>
    begins whole rest (c :: text) || (item.accepts c && begins whole (⟨item, true⟩ :: rest) text)
  | ⟨_, false⟩ :: _, [] => false
  | ⟨item, false⟩ :: rest, c :: text => item.accepts c && begins whole rest text
termination_by items text => items.length + text.length

/-- Whether a text has a part that an expression stands for, wherever that begins. -/
def isWithin (e : Expression) : Bytes → Bool
  | [] => begins e.atEnd e.items []
  | c :: text => begins e.atEnd e.items (c :: text) || isWithin e text

/-- Whether a line has a part that an expression stands for. -/
def isIn (e : Expression) (line : Bytes) : Bool :=
  if e.atStart then begins e.atEnd e.items line else e.isWithin line

end Expression

end LanguageClient.Shell
