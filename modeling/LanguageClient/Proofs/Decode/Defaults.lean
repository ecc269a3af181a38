import LanguageClient.Proofs.Data.Outcome
import LanguageClient.Proofs.Decode.Record
import LanguageClient.Proofs.Toml.Value

/-!
# Records whose fields have defaults

A record of settings is read from an object by the names of its fields or from a list by their
places, and a field that has no value has its default.  The values are those of a configuration file
(`Toml.IsValue`), so that an object has at most one value for a field.

* `Source.at?` — the value that there is for a field, if there is one.
* `Gets` — a field is read from its value, or has its default: `read_fieldOr`, beside `read_field` for a
  field that has to be there, and `read_map`, `read_seq`, `decode_obj` and `decode_arr` for the records
  that are put together from fields.
* `IsRecord` — an object or a list whose values have the shapes that belong to their fields, whatever
  else an object has under other keys.
* **`Accepts.decode`** — a record is read from exactly the values of this shape, if each of its fields
  is read from exactly the values of the field's shape.
-/

namespace LanguageClient.Decode

variable {α β : Type} {name : String} {title : Title} {source : Source} {index : Nat}

/-! ## What there is for a field -/

/-- The value for a field of this name that stands at this place among the fields. -/
def Source.at? (name : String) (index : Nat) : Source → Option Json
  | .keyed members => members.lookup name
  | .listed items => items[index]?

/-- A source that has one value at most for each name. -/
def Source.Distinct : Source → Prop
  | .keyed members => (members.map Prod.fst).Nodup
  | .listed _ => True

/-- A source with values of a configuration file. -/
def Source.IsValue : Source → Prop
  | .keyed members => Toml.IsValue (.obj members)
  | .listed items => Toml.IsValue (.arr items)

theorem Source.IsValue.at? (h : source.IsValue) {v : Json} (hv : source.at? name index = some v) :
    Toml.IsValue v := by
  cases source with
  | keyed members => exact Toml.IsValue.lookup h hv
  | listed items => exact Toml.isValue_arr.1 h v (List.mem_of_getElem? hv)

theorem Source.IsValue.distinct (h : source.IsValue) : source.Distinct := by
  cases source with
  | keyed members => exact Toml.IsValue.nodup h
  | listed items => trivial

/-- A field is what its value says, or has its default. -/
def Gets (tells : Json → α → Prop) (value : α) (v? : Option Json) (a : α) : Prop :=
  match v? with
  | some v => tells v a
  | none => a = value

/-- What a decoder makes of a value. -/
def Means (decode : Decoder α) (v : Json) (a : α) : Prop := decode v = .ok a

theorem exists_gets {tells : Json → α → Prop} {value : α} {v? : Option Json} :
    (∃ a, Gets tells value v? a) ↔ ∀ v, v? = some v → ∃ a, tells v a := by
  cases v? with
  | none => exact ⟨fun _ _ h => (by cases h), fun _ => ⟨value, rfl⟩⟩
  | some v => exact ⟨fun h _ he => (by cases he; exact h), fun h => h v rfl⟩

theorem Gets.imp {tells tells' : Json → α → Prop} {value : α} {v? : Option Json} {a : α}
    (h : Gets tells value v? a) (himp : ∀ v, v? = some v → tells v a → tells' v a) :
    Gets tells' value v? a := by
  cases v? with
  | none => exact h
  | some v => exact himp v rfl h

/-! ## Reading fields -/

theorem read_of_at? (h : source.Distinct) {decode : Decoder α} {absent : Absent α} {v : Json} {a : α}
    (hv : source.at? name index = some v) :
    (fieldNamed name [] decode absent).read title source index = .ok a ↔ decode v = .ok a := by
  cases source with
  | keyed members =>
    obtain ⟨i, hplace⟩ := occurrences_of_some h hv
    simp only [fieldNamed, hplace]
    cases decode v <;> simp
  | listed items =>
    have hitem : items[index]? = some v := hv
    simp only [fieldNamed, hitem]
    cases decode v <;> simp

theorem read_field (h : source.Distinct) {decode : Decoder α} {a : α} :
    (field name decode).read title source index = .ok a ↔
      ∃ v, source.at? name index = some v ∧ decode v = .ok a := by
  cases hv : source.at? name index with
  | some v => simp [field, read_of_at? h hv]
  | none =>
    cases source with
    | keyed members => simp [field, fieldNamed, occurrences_of_none h hv]
    | listed items =>
      have hitem : items[index]? = none := hv
      simp [field, fieldNamed, hitem]

theorem read_fieldOr (h : source.Distinct) {decode : Decoder α} {value a : α} :
    (fieldOr name decode value).read title source index = .ok a ↔
      Gets (Means decode) value (source.at? name index) a := by
  cases hv : source.at? name index with
  | some v => exact read_of_at? h hv
  | none =>
    have habsent : (fieldOr name decode value).read title source index = .ok value := by
      cases source with
      | keyed members => simp only [fieldOr, fieldNamed, occurrences_of_none h hv]
      | listed items =>
        have hitem : items[index]? = none := hv
        simp only [fieldOr, fieldNamed, hitem]
    rw [habsent]
    exact ⟨fun h => (Except.ok.inj h).symm, fun h => congrArg Except.ok (Eq.symm h)⟩

theorem read_map {r : Fields α} {f : α → β} {b : β} :
    (f <$> r).read title source index = .ok b ↔
      ∃ a, r.read title source index = .ok a ∧ f a = b := map_eq_ok

theorem read_seq {f : Fields (α → β)} {r : Fields α} {b : β} :
    (f <*> r).read title source index = .ok b ↔
      ∃ g a, f.read title source index = .ok g ∧ r.read title source (index + f.size) = .ok a ∧
        g a = b := by
  show (f.read title source index).both (r.read title source (index + f.size)) = .ok b ↔ _
  cases f.read title source index <;> cases r.read title source (index + f.size) <;>
    simp [Outcome.both]

theorem decode_obj {r : Fields α} {members : List (String × Json)} {a : α} :
    r.decode name (.obj members) = .ok a ↔ r.read ⟨name, r.size⟩ (.keyed members) 0 = .ok a :=
  mapError_eq_ok

theorem decode_arr {r : Fields α} {items : List Json} {a : α} :
    r.decode name (.arr items) = .ok a ↔
      r.read ⟨name, r.size⟩ (.listed items) 0 = .ok a ∧ items.length ≤ r.size := by
  rw [Fields.decode]
  cases r.read ⟨name, r.size⟩ (.listed items) 0 with
  | error e => simp
  | ok b =>
    dsimp only
    split
    · next hle => simp [hle]
    · next hle => simp [hle, refuse]

/-! ## Shapes -/

/-- The names of the fields of a record and which values each of them may have. -/
abbrev Shape := List (String × (Json → Prop))

/-- A record whose fields, as far as they are there, have values of their shapes. -/
def IsRecord (shape : Shape) : Json → Prop
  | .obj members => ∀ field ∈ shape, ∀ v, members.lookup field.1 = some v → field.2 v
  | .arr items => items.length ≤ shape.length ∧ ∀ p ∈ shape.zip items, p.1.2 p.2
  | _ => False

/-- Fields that are read from exactly the values of their shapes. -/
structure Accepts (r : Fields α) (shape : Shape) : Prop where
  size : r.size = shape.length
  read : ∀ title source index, source.IsValue →
    ((∃ a, r.read title source index = .ok a) ↔
      ∀ p ∈ shape.zipIdx index, ∀ v, source.at? p.1.1 p.2 = some v → p.1.2 v)

theorem accepts_fieldOr {decode : Decoder α} {P : Json → Prop}
    (h : ∀ v, Toml.IsValue v → ((∃ a, decode v = .ok a) ↔ P v)) (name : String) (value : α) :
    Accepts (fieldOr name decode value) [(name, P)] where
  size := rfl
  read title source index hsource := by
    simp only [read_fieldOr hsource.distinct, exists_gets, List.zipIdx_singleton, List.forall_mem_singleton]
    exact forall_congr' fun v => imp_congr_right fun hv => h v (hsource.at? hv)

theorem Accepts.map {r : Fields α} {shape : Shape} (h : Accepts r shape) (f : α → β) :
    Accepts (f <$> r) shape where
  size := h.size
  read title source index hsource := by
    rw [← h.read title source index hsource]
    simp only [read_map]
    exact ⟨fun ⟨_, a, ha, _⟩ => ⟨a, ha⟩, fun ⟨a, ha⟩ => ⟨f a, a, ha, rfl⟩⟩

theorem Accepts.seq {f : Fields (α → β)} {r : Fields α} {shape last : Shape} (h : Accepts f shape)
    (hlast : Accepts r last) : Accepts (f <*> r) (shape ++ last) where
  size := by
    rw [List.length_append, ← h.size, ← hlast.size]
    rfl
  read title source index hsource := by
    rw [List.zipIdx_append, List.forall_mem_append, ← h.read title source index hsource, ← h.size,
      ← hlast.read title source (index + f.size) hsource]
    simp only [read_seq]
    exact ⟨fun ⟨_, g, a, hg, ha, _⟩ => ⟨⟨g, hg⟩, a, ha⟩,
      fun ⟨⟨g, hg⟩, a, ha⟩ => ⟨g a, g, a, hg, ha, rfl⟩⟩

/-- **A record is read from exactly the values of its shape.** -/
theorem Accepts.decode {r : Fields α} {shape : Shape} (h : Accepts r shape) (name : String) {j : Json}
    (hj : Toml.IsValue j) : (∃ a, r.decode name j = .ok a) ↔ IsRecord shape j := by
  cases j with
  | obj members =>
    simp only [decode_obj, h.read _ (.keyed members) 0 hj, Source.at?, IsRecord]
    have hfields := List.zipIdx_map_fst 0 shape
    refine ⟨fun hread => ?_, fun hread p hp => hread p.1 (hfields ▸ List.mem_map_of_mem hp)⟩
    rw [← hfields, List.forall_mem_map]
    exact hread
  | arr items =>
    simp only [decode_arr, exists_and_right, h.read _ (.listed items) 0 hj, Source.at?, h.size]
    rw [and_comm]
    refine and_congr_right fun _ => ⟨fun hread p hp => ?_, fun hread p hp v hv => ?_⟩
    · obtain ⟨i, hi⟩ := List.mem_iff_getElem?.1 hp
      obtain ⟨hfield, hitem⟩ := List.getElem?_zip_eq_some.1 hi
      exact hread (p.1, i) (List.mem_zipIdx_iff_getElem?.2 hfield) p.2 hitem
    · have hfield := List.mem_zipIdx_iff_getElem?.1 hp
      refine hread (p.1, v) (List.mem_iff_getElem?.2 ⟨p.2, ?_⟩)
      exact List.getElem?_zip_eq_some.2 ⟨hfield, hv⟩
  | _ => simp [IsRecord, Fields.decode, refuse]

end LanguageClient.Decode
