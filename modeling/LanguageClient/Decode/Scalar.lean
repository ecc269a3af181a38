import LanguageClient.Decode.Fault

/-!
# Reading scalars, lists and optional values

Each decoder accepts one type of JSON value.  A number type refuses a number outside its range as a
wrong value, and everything that is not an integer as a wrong type; a floating point number is
never an integer, whatever its value.  A date is read as its text.
-/

namespace LanguageClient.Decode

def refuse {α : Type} (cause : FaultCause) : Except Fault α := .error (.of cause)

def value : Decoder Json := .ok

def string : Decoder String
  | .str s => .ok s
  | .date text => .ok text
  | j => refuse (.invalidType j "a string")

def boolean : Decoder Bool
  | .bool b => .ok b
  | j => refuse (.invalidType j "a boolean")

/-- An integer from `low` to `high`; `name` is what the type is called. -/
def integer (low high : Int) (name : String) : Decoder Int
  | .int n => if low ≤ n ∧ n ≤ high then .ok n else refuse (.invalidValue (.int n) name)
  | j => refuse (.invalidType j name)

def uint8 : Decoder UInt8 := fun j =>
  (integer 0 0xFF "u8" j).map fun n => UInt8.ofNat n.toNat

def uint16 : Decoder UInt16 := fun j =>
  (integer 0 0xFFFF "u16" j).map fun n => UInt16.ofNat n.toNat

def uint32 : Decoder UInt32 := fun j =>
  (integer 0 0xFFFFFFFF "u32" j).map fun n => UInt32.ofNat n.toNat

def uint64 : Decoder UInt64 := fun j =>
  (integer 0 0xFFFFFFFFFFFFFFFF "u64" j).map fun n => UInt64.ofNat n.toNat

def int32 : Decoder Int32 := fun j =>
  (integer (-0x80000000) 0x7FFFFFFF "i32" j).map Int32.ofInt

def listOf {α : Type} (item : Decoder α) : Decoder (List α)
  | .arr items => items.mapM item
  | j => refuse (.invalidType j "a sequence")

/-- Null is absent; anything else is read. -/
def optional {α : Type} (inner : Decoder α) : Decoder (Option α)
  | .null => .ok none
  | j => (inner j).map some

end LanguageClient.Decode

namespace LanguageClient.Json

/-! ## Writing the same types -/

def ofUInt8 (n : UInt8) : Json := .int n.toNat
def ofUInt16 (n : UInt16) : Json := .int n.toNat
def ofUInt32 (n : UInt32) : Json := .int n.toNat
def ofUInt64 (n : UInt64) : Json := .int n.toNat
def ofInt32 (n : Int32) : Json := .int n.toInt

end LanguageClient.Json
