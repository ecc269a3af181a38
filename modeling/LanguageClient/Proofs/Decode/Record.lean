import LanguageClient.Decode.Record
import LanguageClient.Proofs.Json.Members

/-!
# Reading records from objects

An object that was read binds each key once.  From such an object a record is read field by field,
and every field from what the object has under its name.

* `occurrences_of_lookup` — a field has the place where its name is bound, if it is
  (`occurrences_of_none`, `occurrences_of_some`).
* `Reads` — some fields are read from the members, whatever record they are part of; `reads_field` and
  `reads_field?` are the cases of one field, `Reads.map` and `Reads.seq` put fields together.
* **`Reads.decode`** — then the record is read from the object, and `Reads.decode_sorted` is the case of
  an object that was written.
-/

namespace LanguageClient.Decode

open Json (lookup_cons_if)

variable {α β : Type} {name : String} {members : List (String × Json)}

/-- Where each key is bound once, a key has the member that is found under it and no other. -/
theorem filter_key (h : (members.map Prod.fst).Nodup) (name : String) :
    members.filter (fun m => [name].contains m.1) = ((members.lookup name).map (name, ·)).toList := by
  induction members with
  | nil => rfl
  | cons m rest ih =>
    obtain ⟨k, v⟩ := m
    obtain ⟨hk, hrest⟩ := List.nodup_cons.1 h
    rw [lookup_cons_if]
    by_cases hname : name = k
    · subst hname
      have hnone : rest.filter (fun m => [name].contains m.1) = [] := by
        refine List.filter_eq_nil_iff.2 fun m hm hc => hk ?_
        simp only [List.contains_cons, List.contains_nil, Bool.or_false, beq_iff_eq] at hc
        exact List.mem_map.2 ⟨m, hm, hc⟩
      rw [List.filter_cons_of_pos (by simp), hnone, if_pos rfl]
      rfl
    · rw [List.filter_cons_of_neg (by simpa using Ne.symm hname), ih hrest, if_neg hname]

theorem occurrences_map (names : List String) (members : List (String × Json)) :
    (occurrences names members).map Prod.snd = members.filter fun m => names.contains m.1 := by
  have walk (start : Nat) :
      (((members.zipIdx start).filter fun m => names.contains m.1.1).map
        fun m => m.1) = members.filter fun m => names.contains m.1 := by
    induction members generalizing start with
    | nil => rfl
    | cons m rest ih =>
      obtain ⟨k, v⟩ := m
      by_cases hk : names.contains k = true
      · simp only [List.zipIdx_cons, List.filter_cons, hk, if_true, List.map_cons, ih]
      · simp only [List.zipIdx_cons, List.filter_cons, hk, if_false, Bool.false_eq_true, ih]
  rw [occurrences, List.map_map]
  exact walk 0

theorem occurrences_of_lookup (name : String) (h : (members.map Prod.fst).Nodup) :
    (occurrences [name] members).map Prod.snd = ((members.lookup name).map (name, ·)).toList := by
  rw [occurrences_map, filter_key h]

theorem occurrences_of_none (h : (members.map Prod.fst).Nodup)
    (hlookup : members.lookup name = none) : occurrences [name] members = [] := by
  have hplace := occurrences_of_lookup name h
  rw [hlookup] at hplace
  exact List.map_eq_nil_iff.1 hplace

theorem occurrences_of_some {v : Json} (h : (members.map Prod.fst).Nodup)
    (hlookup : members.lookup name = some v) : ∃ i, occurrences [name] members = [(i, name, v)] := by
  have hplace := occurrences_of_lookup name h
  rw [hlookup, Option.map_some, Option.toList_some, List.map_eq_singleton_iff] at hplace
  obtain ⟨⟨i, m⟩, hoccurrences, rfl⟩ := hplace
  exact ⟨i, hoccurrences⟩

/-- Fields that are read from these members with this outcome, whatever record they are part of. -/
def Reads (fields : Fields α) (members : List (String × Json)) (a : α) : Prop :=
  ∀ title index, fields.read title (.keyed members) index = .ok a

section Field

variable {decode : Decoder α}

theorem reads_field {v : Json} {a : α} (h : (members.map Prod.fst).Nodup)
    (hlookup : members.lookup name = some v) (hdecode : decode v = .ok a) :
    Reads (field name decode) members a := by
  intro title index
  obtain ⟨i, hplace⟩ := occurrences_of_some h hlookup
  simp only [field, fieldNamed, hplace, hdecode]

/-- A field that may be absent is read as if null stood for its absence. -/
theorem reads_field? {a : Option α} (h : (members.map Prod.fst).Nodup)
    (hdecode : optional decode ((members.lookup name).getD .null) = .ok a) :
    Reads (field? name decode) members a := by
  intro title index
  simp only [field?, fieldNamed]
  cases hlookup : members.lookup name with
  | none =>
    rw [hlookup] at hdecode
    obtain rfl : none = a := Except.ok.inj hdecode
    rw [occurrences_of_none h hlookup]
  | some v =>
    rw [hlookup, Option.getD_some] at hdecode
    obtain ⟨i, hplace⟩ := occurrences_of_some h hlookup
    simp only [hplace, hdecode]

end Field

theorem Reads.map {fields : Fields α} {a : α} (h : Reads fields members a) (f : α → β) :
    Reads (f <$> fields) members (f a) := by
  intro title index
  show (fields.read title (.keyed members) index).map f = _
  rw [h title index]
  rfl

theorem Reads.seq {fields : Fields (α → β)} {f : α → β} {last : Fields α} {a : α}
    (h : Reads fields members f) (hlast : Reads last members a) :
    Reads (fields <*> last) members (f a) := by
  intro title index
  show (fields.read title (.keyed members) index).both (last.read title (.keyed members) _) = _
  rw [h title index, hlast title]
  rfl

/-- **A record is read from an object** if its fields are. -/
theorem Reads.decode {fields : Fields α} {a : α} (h : Reads fields members a) (name : String) :
    fields.decode name (.obj members) = .ok a := by
  rw [Fields.decode, h]
  rfl

/-! ## Objects that were written -/

section Written

open Json (gathered sortedMembers inOrder_gathered lookup_gathered_sorted)

variable {decode : Decoder α}

/-- A field of an object that was written with these members. -/
theorem reads_written {v : Json} {a : α} (hlookup : members.reverse.lookup name = some v)
    (hdecode : decode v.sorted = .ok a) :
    Reads (field name decode) (gathered (sortedMembers members)) a :=
  reads_field (inOrder_gathered _).nodup (by rw [lookup_gathered_sorted, hlookup]; rfl) hdecode

theorem reads_written? {a : Option α}
    (hdecode : optional decode (((members.reverse.lookup name).map Json.sorted).getD .null) = .ok a) :
    Reads (field? name decode) (gathered (sortedMembers members)) a :=
  reads_field? (inOrder_gathered _).nodup (by rwa [lookup_gathered_sorted])

/-- **A record is read from an object that was written** if its fields are. -/
theorem Reads.decode_sorted {fields : Fields α} {a : α}
    (h : Reads fields (gathered (sortedMembers members)) a) (name : String) :
    fields.decode name (Json.sorted (.obj members)) = .ok a := by
  rw [Json.sorted_obj]
  exact h.decode name

end Written

end LanguageClient.Decode
