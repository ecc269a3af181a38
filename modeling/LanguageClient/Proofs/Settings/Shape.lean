import LanguageClient.Proofs.Decode.Defaults
import LanguageClient.Settings.Basic

/-!
# The shape of a table of settings

Which tables are settings, said without the decoders.

* `IsText`, `IsNamed` — what a value says: a text, which may be a date, and a mode, by its name or as
  the only key of a table with something empty under it.  Flags and numbers are themselves.
* **`IsSettings`** — a table whose settings have values of their kinds, as far as they are there.
* **`decodeTable_accepts`** — these are the tables that are read as settings, among the tables that a
  file can have.
-/

namespace LanguageClient

open Decode (Accepts IsRecord Shape accepts_fieldOr)

variable {v : Json}

/-! ## Values -/

/-- A value that is this text; a date is one too. -/
def IsText (v : Json) (text : String) : Prop := v = .str text ∨ v = .date text

/-- A value that names this mode. -/
def IsNamed (v : Json) (mode : TransportMode) : Prop :=
  v = .str mode.name ∨ v = .obj [(mode.name, .obj [])] ∨ v = .obj [(mode.name, .arr [])]

theorem boolean_eq_ok {b : Bool} : Decode.boolean v = .ok b ↔ v = .bool b := by
  cases v <;> simp [Decode.boolean, Decode.refuse]

theorem string_eq_ok {s : String} : Decode.string v = .ok s ↔ IsText v s := by
  cases v <;> simp [Decode.string, Decode.refuse, IsText]

/-- Without null, an optional text is a text. -/
theorem optional_string_eq_ok (h : v ≠ .null) {p : Option String} :
    Decode.optional Decode.string v = .ok p ↔ ∃ s, p = some s ∧ IsText v s := by
  have hread : Decode.optional Decode.string v = (Decode.string v).map some := by
    cases v with
    | null => exact absurd rfl h
    | _ => rfl
  rw [hread, map_eq_ok]
  exact ⟨fun ⟨s, hs, hp⟩ => ⟨s, hp.symm, string_eq_ok.1 hs⟩,
    fun ⟨s, hp, hs⟩ => ⟨s, string_eq_ok.2 hs, hp.symm⟩⟩

theorem integer_eq_ok {low high n : Int} {name : String} :
    Decode.integer low high name v = .ok n ↔ v = .int n ∧ low ≤ n ∧ n ≤ high := by
  cases v with
  | int m =>
    rw [Decode.integer]
    split
    · next h =>
      constructor
      · intro hm
        cases hm
        exact ⟨rfl, h⟩
      · rintro ⟨hm, -⟩
        cases hm
        rfl
    · next h =>
      refine ⟨nofun, ?_⟩
      rintro ⟨hm, hrange⟩
      cases hm
      exact absurd hrange h
  | _ => simp [Decode.integer, Decode.refuse]

/-- A number that a type holds is read as itself. -/
theorem word_eq_ok {α : Type} {ofNat : Nat → α} {toNat : α → Nat} {high : Int} {name : String}
    (hvalue : ∀ n : Nat, n ≤ high → toNat (ofNat n) = n) (hback : ∀ a, ofNat (toNat a) = a)
    (hhigh : ∀ a, toNat a ≤ high) {a : α} :
    (Decode.integer 0 high name v).map (fun n => ofNat n.toNat) = .ok a ↔ v = .int (toNat a) := by
  rw [map_eq_ok]
  simp only [integer_eq_ok]
  constructor
  · rintro ⟨n, ⟨rfl, hlow, hn⟩, rfl⟩
    rw [hvalue _ (by omega), Int.toNat_of_nonneg hlow]
  · rintro rfl
    exact ⟨toNat a, ⟨rfl, by omega, hhigh a⟩, hback a⟩

theorem uint16_eq_ok {n : UInt16} : Decode.uint16 v = .ok n ↔ v = .int n.toNat :=
  word_eq_ok (fun _ h => UInt16.toNat_ofNat_of_lt' (by rw [UInt16.size]; omega))
    (fun _ => UInt16.ofNat_toNat)
    fun n => by have := n.toNat_lt; omega

theorem uint32_eq_ok {n : UInt32} : Decode.uint32 v = .ok n ↔ v = .int n.toNat :=
  word_eq_ok (fun _ h => UInt32.toNat_ofNat_of_lt' (by rw [UInt32.size]; omega))
    (fun _ => UInt32.ofNat_toNat)
    fun n => by have := n.toNat_lt; omega

theorem uint64_eq_ok {n : UInt64} : Decode.uint64 v = .ok n ↔ v = .int n.toNat :=
  word_eq_ok (fun _ h => UInt64.toNat_ofNat_of_lt' (by rw [UInt64.size]; omega))
    (fun _ => UInt64.ofNat_toNat)
    fun n => by have := n.toNat_lt; omega

namespace TransportMode

theorem ofName?_eq_some {name : String} {mode : TransportMode} :
    ofName? name = some mode ↔ name = mode.name := by
  simp only [ofName?, all, List.find?_cons, List.find?_nil]
  cases mode <;> simp [TransportMode.name] <;> grind

theorem decodeName_eq_ok {name : String} {mode : TransportMode} :
    decodeName name = .ok mode ↔ name = mode.name := by
  rw [decodeName, ← ofName?_eq_some]
  cases ofName? name <;> simp [Decode.refuse]

theorem decodeEntry_eq_ok {mode : TransportMode} : decodeEntry v = .ok mode ↔ IsNamed v mode := by
  unfold decodeEntry
  split
  · simp [decodeName_eq_ok, IsNamed]
  · rw [bind_eq_ok]
    simp only [decodeName_eq_ok]
    split
    · simp [IsNamed]
    · simp [IsNamed]
    · next hobj harr =>
      simp only [IsNamed, Decode.refuse, reduceCtorEq, and_false, exists_false, false_iff]
      rintro (h | h | h) <;> cases h
      · exact hobj rfl
      · exact harr rfl
  · next hone =>
    simp only [IsNamed, Decode.refuse, reduceCtorEq, false_iff]
    rintro (h | h | h) <;> cases h
    · exact hone _ _ rfl
    · exact hone _ _ rfl
  · next hstr hone hobj =>
    simp only [IsNamed, Decode.refuse, reduceCtorEq, false_iff]
    rintro (rfl | rfl | rfl)
    · exact hstr _ rfl
    · exact hobj _ rfl
    · exact hobj _ rfl

end TransportMode

/-! ## Records -/

/-- A number from zero to a limit. -/
def IsNumber (limit : Nat) (v : Json) : Prop := ∃ n : Nat, v = .int n ∧ n ≤ limit

def serverShape : Shape :=
  [("enabled", fun v => ∃ b, v = .bool b), ("mode", fun v => ∃ mode, IsNamed v mode),
    ("host", fun v => ∃ s, IsText v s), ("port", IsNumber 0xFFFF),
    ("path", fun v => ∃ s, IsText v s)]

def javaShape : Shape := [("home", fun v => ∃ s, IsText v s)]

def timeoutShape : Shape :=
  [("connect_secs", IsNumber 0xFFFFFFFFFFFFFFFF), ("accept_secs", IsNumber 0xFFFFFFFFFFFFFFFF),
    ("initialize_secs", IsNumber 0xFFFFFFFFFFFFFFFF), ("shutdown_secs", IsNumber 0xFFFFFFFFFFFFFFFF)]

/-- A table of settings: the values that are there are of the kinds of their settings. -/
def IsSettings : Json → Prop :=
  IsRecord [("lsp", IsRecord serverShape), ("java", IsRecord javaShape),
    ("timeouts", IsRecord timeoutShape)]

theorem isNumber_iff {α : Type} (ofNat : Nat → α) {toNat : α → Nat} {limit : Nat}
    (hvalue : ∀ n ≤ limit, toNat (ofNat n) = n) (hlimit : ∀ a, toNat a ≤ limit) :
    IsNumber limit v ↔ ∃ a, v = .int (toNat a) := by
  constructor
  · rintro ⟨n, rfl, hn⟩
    exact ⟨ofNat n, by rw [hvalue n hn]⟩
  · rintro ⟨a, rfl⟩
    exact ⟨toNat a, rfl, hlimit a⟩

section Fields

variable (name : String)

theorem accepts_flag (value : Bool) :
    Accepts (Decode.fieldOr name Decode.boolean value) [(name, fun v => ∃ b, v = .bool b)] :=
  accepts_fieldOr (fun _ _ => exists_congr fun _ => boolean_eq_ok) name value

theorem accepts_mode (value : TransportMode) :
    Accepts (Decode.fieldOr name TransportMode.decodeEntry value)
      [(name, fun v => ∃ mode, IsNamed v mode)] :=
  accepts_fieldOr (fun _ _ => exists_congr fun _ => TransportMode.decodeEntry_eq_ok) name value

theorem accepts_text (value : String) :
    Accepts (Decode.fieldOr name Decode.string value) [(name, fun v => ∃ s, IsText v s)] :=
  accepts_fieldOr (fun _ _ => exists_congr fun _ => string_eq_ok) name value

theorem accepts_optionalText (value : Option String) :
    Accepts (Decode.fieldOr name (Decode.optional Decode.string) value)
      [(name, fun v => ∃ s, IsText v s)] := by
  refine accepts_fieldOr (fun v hv => ?_) name value
  simp only [optional_string_eq_ok hv.ne_null]
  exact ⟨fun ⟨_, s, _, hs⟩ => ⟨s, hs⟩, fun ⟨s, hs⟩ => ⟨some s, s, rfl, hs⟩⟩

theorem accepts_port (value : UInt16) :
    Accepts (Decode.fieldOr name Decode.uint16 value) [(name, IsNumber 0xFFFF)] := by
  refine accepts_fieldOr (fun v _ => ?_) name value
  simp only [uint16_eq_ok]
  refine (isNumber_iff UInt16.ofNat (fun n hn => ?_) fun n => ?_).symm
  · exact UInt16.toNat_ofNat_of_lt' (by rw [UInt16.size]; omega)
  · exact Nat.le_pred_of_lt n.toNat_lt

theorem accepts_seconds (value : UInt64) :
    Accepts (Decode.fieldOr name Decode.uint64 value) [(name, IsNumber 0xFFFFFFFFFFFFFFFF)] := by
  refine accepts_fieldOr (fun v _ => ?_) name value
  simp only [uint64_eq_ok]
  refine (isNumber_iff UInt64.ofNat (fun n hn => ?_) fun n => ?_).symm
  · exact UInt64.toNat_ofNat_of_lt' (by rw [UInt64.size]; omega)
  · exact Nat.le_pred_of_lt n.toNat_lt

end Fields

theorem ServerSettings.accepts : Accepts (fields TransportMode.decodeEntry) serverShape :=
  (((((accepts_flag "enabled" _).map ServerSettings.mk).seq (accepts_mode "mode" _)).seq
    (accepts_text "host" _)).seq (accepts_port "port" _)).seq (accepts_optionalText "path" _)

theorem JavaSettings.accepts : Accepts fields javaShape :=
  (accepts_optionalText "home" _).map JavaSettings.mk

theorem TimeoutSettings.accepts : Accepts fields timeoutShape :=
  ((((accepts_seconds "connect_secs" _).map TimeoutSettings.mk).seq
    (accepts_seconds "accept_secs" _)).seq (accepts_seconds "initialize_secs" _)).seq
    (accepts_seconds "shutdown_secs" _)

/-- **The tables that are read as settings** are the tables of settings. -/
theorem ClientConfig.decodeTable_accepts {j : Json} (h : Toml.IsValue j) :
    (∃ c, decodeTable j = .ok c) ↔ IsSettings j := by
  have server := accepts_fieldOr (fun _ hv => ServerSettings.accepts.decode "LspSettings" hv) "lsp" {}
  have java := accepts_fieldOr (fun _ hv => JavaSettings.accepts.decode "JavaSettings" hv) "java" {}
  have timeouts :=
    accepts_fieldOr (fun _ hv => TimeoutSettings.accepts.decode "TimeoutSettings" hv) "timeouts" {}
  exact (((server.map ClientConfig.mk).seq java).seq timeouts).decode "ClientConfig" h

end LanguageClient
