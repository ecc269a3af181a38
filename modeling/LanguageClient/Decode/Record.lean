import LanguageClient.Decode.Scalar

/-!
# Reading records

A record is read from an object, whose keys name the fields, or from a list, whose items are the
fields in the order in which the record declares them.

Which of several faults is reported is fixed by the order of the visit.  An object is visited key by
key as its members stand, so a fault in an earlier key wins, a second key for the same field is a
fault at that key, and a field without a key is a fault after all keys.  A list is visited item by
item.  A field reader therefore reports a fault together with its *rank* in the visit, and where
two fields fail the lower rank wins (`Outcome.both`).  So a record is built field by field with
`<$>` and `<*>`, and reads exactly when each of its fields does.
-/

namespace LanguageClient.Decode

/-- What a record is read from. -/
inductive Source
  | keyed (members : List (String × Json))
  | listed (items : List Json)

/-- A fault and its place in the visit. -/
structure Ranked where
  rank : Nat
  fault : Fault

/-- What reading some of the fields comes to. -/
abbrev Outcome (α : Type) := Except Ranked α

/-- Both results, or of the faults the one met first. -/
def Outcome.both {α β : Type} : Outcome (α → β) → Outcome α → Outcome β
  | .ok f, .ok a => .ok (f a)
  | .error e, .ok _ => .error e
  | .ok _, .error e => .error e
  | .error e, .error e' => .error (if e'.rank < e.rank then e' else e)

/-- What an absent field means. -/
inductive Absent (α : Type)
  /-- It has to be there. -/
  | required
  /-- An object may leave it out, a list may not. -/
  | optional (value : α)
  /-- An object may leave it out, and so may a list at its end. -/
  | default (value : α)

/-- The name of a record and the number of its fields, for messages. -/
structure Title where
  name : String
  size : Nat

def Title.expected (t : Title) : String :=
  "struct " ++ t.name ++ " with " ++ toString t.size ++ (if t.size = 1 then " element" else " elements")

/-- Some fields of a record: how many, and how to read them when the first has a given index. -/
structure Fields (α : Type) where
  size : Nat
  read : Title → Source → Nat → Outcome α

/-- The members that a field may be read from, each with its place. -/
def occurrences (names : List String) (members : List (String × Json)) :
    List (Nat × String × Json) :=
  (members.zipIdx.filter fun ((key, _), _) => names.contains key).map fun ((key, v), i) => (i, key, v)

/-- One field.  Besides its name it may have other names from earlier versions of the format. -/
def fieldNamed {α : Type} (name : String) (others : List String) (decode : Decoder α)
    (absent : Absent α) : Fields α where
  size := 1
  read title source index :=
    match source with
    | .keyed members =>
      match occurrences (name :: others) members with
      | [] =>
        match absent with
        | .required => .error ⟨members.length + index, .of (.missingField name)⟩
        | .optional a | .default a => .ok a
      | (i, key, v) :: again =>
        match decode v with
        | .error f => .error ⟨i, f.under key⟩
        | .ok a =>
          match again with
          | [] => .ok a
          | (j, _, _) :: _ => .error ⟨j, .of (.duplicateField name)⟩
    | .listed items =>
      match items[index]? with
      | some v =>
        match decode v with
        | .error f => .error ⟨index, f⟩
        | .ok a => .ok a
      | none =>
        match absent with
        | .default a => .ok a
        | _ => .error ⟨index, .of (.invalidLength index title.expected)⟩

def field {α : Type} (name : String) (decode : Decoder α) : Fields α :=
  fieldNamed name [] decode .required

/-- A field that null or its absence leaves empty. -/
def field? {α : Type} (name : String) (decode : Decoder α) : Fields (Option α) :=
  fieldNamed name [] (optional decode) (.optional none)

/-- A field with a value of its own when it is absent. -/
def fieldOr {α : Type} (name : String) (decode : Decoder α) (value : α) : Fields α :=
  fieldNamed name [] decode (.default value)

namespace Fields

def map {α β : Type} (f : α → β) (r : Fields α) : Fields β where
  size := r.size
  read title source index := (r.read title source index).map f

/-- The fields of `f`, then those of `r`. -/
def both {α β : Type} (f : Fields (α → β)) (r : Fields α) : Fields β where
  size := f.size + r.size
  read title source index :=
    (f.read title source index).both (r.read title source (index + f.size))

instance : Functor Fields where
  map := map

instance : Seq Fields where
  seq f r := f.both (r ())

/-- The record with these fields. -/
def decode {α : Type} (name : String) (r : Fields α) : Decoder α := fun j =>
  match j with
  | .obj members => (r.read ⟨name, r.size⟩ (.keyed members) 0).mapError (·.fault)
  | .arr items =>
    match r.read ⟨name, r.size⟩ (.listed items) 0 with
    | .error e => .error e.fault
    | .ok a =>
      if items.length ≤ r.size then .ok a
      else refuse (.invalidLength items.length "fewer elements in array")
  | j => refuse (.invalidType j ("struct " ++ name))

end Fields

end LanguageClient.Decode
