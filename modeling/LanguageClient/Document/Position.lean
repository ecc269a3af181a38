import LanguageClient.Decode.Record

/-!
# Places in a document

A position is a line and a character on it, both counted from zero; people count them from one, and
the two conversions are here.  A range is two positions, which a server may send in either order.  A
selection is a range with a direction: where it was begun and where the cursor stands.
-/

namespace LanguageClient

/-- A place in a document, counted from zero. -/
structure Position where
  line : UInt32
  character : UInt32
  deriving DecidableEq, Inhabited, Repr

namespace Position

/-- Reading order: by line, then along the line. -/
instance : LE Position where
  le p q := p.line < q.line ∨ (p.line = q.line ∧ p.character ≤ q.character)

instance (p q : Position) : Decidable (p ≤ q) :=
  inferInstanceAs (Decidable (p.line < q.line ∨ (p.line = q.line ∧ p.character ≤ q.character)))

instance : Ord Position where
  compare p q := if p = q then .eq else if p ≤ q then .lt else .gt

/-- One less, and zero for zero. -/
def beforeOne (n : UInt32) : UInt32 := if n = 0 then 0 else n - 1

/-- The position that a person means by a line and a column counted from one. -/
def ofCounted (line column : UInt32) : Position :=
  ⟨beforeOne line, beforeOne column⟩

/-- Line and column counted from one. -/
def counted (p : Position) : Nat × Nat :=
  (p.line.toNat + 1, p.character.toNat + 1)

def fields : Decode.Fields Position :=
  Position.mk <$> Decode.field "line" Decode.uint32 <*> Decode.field "character" Decode.uint32

def decode : Decoder Position := fields.decode "Position"

def toJson (p : Position) : Json :=
  .obj [("line", .ofUInt32 p.line), ("character", .ofUInt32 p.character)]

def render (p : Position) : String :=
  "(" ++ toString p.line.toNat ++ "," ++ toString p.character.toNat ++ ")"

end Position

/-- Two places in a document. -/
structure Range where
  start : Position
  stop : Position
  deriving DecidableEq, Inhabited, Repr

namespace Range

/-- The start does not come after the end. -/
def WellFormed (r : Range) : Prop := r.start ≤ r.stop

instance (r : Range) : Decidable r.WellFormed :=
  inferInstanceAs (Decidable (r.start ≤ r.stop))

def fields : Decode.Fields Range :=
  Range.mk <$> Decode.field "start" Position.decode <*> Decode.field "end" Position.decode

def decode : Decoder Range := fields.decode "Range"

def toJson (r : Range) : Json :=
  .obj [("start", r.start.toJson), ("end", r.stop.toJson)]

def render (r : Range) : String :=
  r.start.render ++ "-" ++ r.stop.render

/-- The ends as people count them. -/
def spanJson (r : Range) : Json :=
  .obj [("start", pair r.start.counted), ("end", pair r.stop.counted)]
where
  pair (p : Nat × Nat) : Json := .arr [.ofNat p.1, .ofNat p.2]

end Range

/-- A range with a direction. -/
structure Selection where
  anchor : Position
  active : Position
  deriving DecidableEq, Inhabited, Repr

namespace Selection

/-- The empty selection at a position. -/
def caret (p : Position) : Selection := ⟨p, p⟩

/-- From the start of a range to its end. -/
def ofRange (r : Range) : Selection := ⟨r.start, r.stop⟩

/-- What is selected, in reading order. -/
def range (s : Selection) : Range :=
  if s.anchor ≤ s.active then ⟨s.anchor, s.active⟩ else ⟨s.active, s.anchor⟩

def toJson (s : Selection) : Json :=
  .obj [("anchor", s.anchor.toJson), ("active", s.active.toJson)]

end Selection

end LanguageClient
