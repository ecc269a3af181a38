import LanguageClient.Proofs.Decode.Defaults
import LanguageClient.Proofs.Json.Order
import LanguageClient.Proofs.Json.RoundTrip
import LanguageClient.Proofs.Protocol.Codec
import LanguageClient.Proofs.Settings.Shape

/-!
# Records that are written and read

How a record is written says which members its object has; how it is read says where each field may
be.  Whoever reads takes a record in more forms than whoever writes gives it: under an earlier name
of a field, as a list, with fields left out, with keys that no field has.

* `reads_fieldNamed` — a field is read from the one of its names that is a key of the object, and
  `two_names_are_refused` if there are two.
* `reads_writtenOr`, `uint32_written`, `listOf_written` — fields and values as they are written.
* `Source.values` — the values that there are to read from; what a field is comes from one of them or
  is what its absence means (`value_of_read`).
* `IsCodec` — a way to write and a way to read a record that fit together: what was written is read,
  and whatever form a record was read in, it stays as it is when it is written and read again.
* **`isCodec_of`** — this is so if what is read carries values in order and no null that could be left
  out; `isCodec_plain` is the case of a record that carries no values.
-/

namespace LanguageClient.Decode

open Json (gathered sortedMembers inOrder_gathered lookup_gathered_sorted)

variable {α β : Type} {name : String} {others : List String} {decode : Decoder α} {absent : Absent α}
  {members : List (String × Json)} {title : Title} {source : Source} {index : Nat} {a : α}

/-! ## A field of several names -/

/-- Names that are no keys add no places. -/
theorem occurrences_of_unused {names : List String} {key : String} (hkey : key ∈ names)
    (h : ∀ other ∈ names, other ≠ key → members.lookup other = none) :
    occurrences names members = occurrences [key] members := by
  unfold occurrences
  congr 1
  refine List.filter_congr fun m hm => ?_
  obtain ⟨⟨k, v⟩, i⟩ := m
  have hmember : (k, v) ∈ members := List.fst_mem_of_mem_zipIdx hm
  rw [Bool.eq_iff_iff, List.contains_iff_mem, List.contains_iff_mem, List.mem_singleton]
  refine ⟨fun hk => ?_, fun hk => hk ▸ hkey⟩
  by_contra hne
  have hnone := List.lookup_eq_none_iff.1 (h k hk hne) _ hmember
  simp at hnone

/-- **A field is read from the one of its names that is a key of the object.** -/
theorem reads_fieldNamed {key : String} {v : Json} (hnodup : (members.map Prod.fst).Nodup)
    (hkey : key ∈ name :: others) (hlookup : members.lookup key = some v)
    (hunused : ∀ other ∈ name :: others, other ≠ key → members.lookup other = none)
    (hdecode : decode v = .ok a) : Reads (fieldNamed name others decode absent) members a := by
  intro title index
  obtain ⟨i, hplace⟩ := occurrences_of_some hnodup hlookup
  simp only [fieldNamed, occurrences_of_unused hkey hunused, hplace, hdecode]

/-- A field is refused where two of its names are keys. -/
theorem two_names_are_refused {key key' : String} (hne : key ≠ key') (hkey : key ∈ name :: others)
    (hkey' : key' ∈ name :: others) (h : Json.HasKey key (.obj members))
    (h' : Json.HasKey key' (.obj members)) :
    (fieldNamed name others decode absent).read title (.keyed members) index ≠ .ok a := by
  intro hread
  have hplaces := occurrences_map (name :: others) members
  have hplace {k : String} (hk : k ∈ name :: others) (h : Json.HasKey k (.obj members)) :
      ∃ v, (k, v) ∈ (occurrences (name :: others) members).map Prod.snd := by
    obtain ⟨_, v, he, hmem⟩ := h
    cases he
    rw [hplaces]
    exact ⟨v, List.mem_filter.2 ⟨hmem, List.contains_iff_mem.2 hk⟩⟩
  obtain ⟨v, hv⟩ := hplace hkey h
  obtain ⟨v', hv'⟩ := hplace hkey' h'
  simp only [fieldNamed] at hread
  split at hread
  · next hnone =>
    rw [hnone] at hv
    cases hv
  · next i k w again hsome =>
    rw [hsome] at hv hv'
    split at hread
    · cases hread
    · split at hread
      · have hk := congrArg Prod.fst (List.mem_singleton.1 hv)
        have hk' := congrArg Prod.fst (List.mem_singleton.1 hv')
        exact hne (hk.trans hk'.symm)
      · cases hread

/-! ## Fields as they are written -/

/-- A field that has a default is written as any other. -/
theorem reads_writtenOr {value : α} {v : Json} (hlookup : members.reverse.lookup name = some v)
    (hdecode : decode v.sorted = .ok a) :
    Reads (fieldOr name decode value) (gathered (sortedMembers members)) a := by
  refine reads_fieldNamed (inOrder_gathered _).nodup List.mem_cons_self
    (by rw [lookup_gathered_sorted, hlookup]; rfl) (fun other hother hne => ?_) hdecode
  exact absurd (List.mem_singleton.1 hother) hne

theorem string_written (s : String) : string (Json.str s).sorted = .ok s := rfl

theorem uint16_written (n : UInt16) : uint16 (Json.ofUInt16 n).sorted = .ok n := uint16_eq_ok.2 rfl

theorem uint32_written (n : UInt32) : uint32 (Json.ofUInt32 n).sorted = .ok n := uint32_eq_ok.2 rfl

theorem uint64_written (n : UInt64) : uint64 (Json.ofUInt64 n).sorted = .ok n := uint64_eq_ok.2 rfl

theorem listOf_written {toJson : α → Json} (h : ∀ a, decode (toJson a).sorted = .ok a) (as : List α) :
    listOf decode (Json.arr (as.map toJson)).sorted = .ok as := by
  rw [Json.sorted, Json.sortedItems_eq, listOf]
  induction as with
  | nil => rfl
  | cons a rest ih =>
    rw [List.map_cons, List.map_cons, List.mapM_cons, h a, ih]
    rfl

/-- An absent value is written as null, and null is read as absence. -/
theorem optional_written {toJson : α → Json} (h : ∀ a, decode (toJson a).sorted = .ok a)
    (hnull : ∀ a, (toJson a).sorted ≠ .null) (value : Option α) :
    optional decode (((value.map toJson).map Json.sorted).getD .null) = .ok value := by
  cases value with
  | none => rfl
  | some a =>
    have hread : optional decode (toJson a).sorted = (decode (toJson a).sorted).map some := by
      unfold optional
      split
      · next hj => exact absurd hj (hnull a)
      · rfl
    exact hread.trans (by rw [h a]; rfl)

theorem optional_ofOption {toJson : α → Json} (h : ∀ a, decode (toJson a).sorted = .ok a)
    (hnull : ∀ a, (toJson a).sorted ≠ .null) (value : Option α) :
    optional decode (((some (Json.ofOption (value.map toJson))).map Json.sorted).getD .null) =
      .ok value := by
  rw [← optional_written h hnull value]
  cases value <;> rfl

/-! ## Where the value of a field comes from -/

/-- The values that there are to read from. -/
def Source.values : Source → List Json
  | .keyed members => members.map Prod.snd
  | .listed items => items

/-- What the absence of a field means, if it may be absent. -/
def Absent.value? : Absent α → Option α
  | .required => none
  | .optional a | .default a => some a

/-- A field that was read has its value from one of the values there are, or it was absent. -/
theorem value_of_read
    (h : (fieldNamed name others decode absent).read title source index = .ok a) :
    (∃ v ∈ source.values, decode v = .ok a) ∨ absent.value? = some a := by
  cases source with
  | keyed members =>
    simp only [fieldNamed] at h
    split at h
    · split at h
      · cases h
      · cases h
        exact .inr rfl
      · cases h
        exact .inr rfl
    · next i key v again hplace =>
      have hmem : (key, v) ∈ (occurrences (name :: others) members).map Prod.snd := by
        rw [hplace]
        exact List.mem_cons_self
      rw [occurrences_map] at hmem
      refine .inl ⟨v, List.mem_map.2 ⟨_, List.mem_of_mem_filter hmem, rfl⟩, ?_⟩
      split at h
      · cases h
      · next b hdecode =>
        split at h
        · cases h
          exact hdecode
        · cases h
  | listed items =>
    simp only [fieldNamed] at h
    split at h
    · next v hitem =>
      refine .inl ⟨v, List.mem_of_getElem? hitem, ?_⟩
      split at h
      · cases h
      · next b hdecode =>
        cases h
        exact hdecode
    · split at h
      · cases h
        exact .inr rfl
      · cases h

/-- An optional value that was read is one of the values there are, and not null. -/
theorem carried_of_read? {name : String} {carried : Option Json}
    (h : (field? name value).read title source index = .ok carried) :
    (∀ v ∈ carried.toList, v ∈ source.values) ∧ Json.present? carried = carried := by
  rcases value_of_read h with ⟨v, hv, hvalue⟩ | habsent
  · unfold optional at hvalue
    split at hvalue
    · cases hvalue
      exact ⟨nofun, rfl⟩
    · next hnull =>
      cases hvalue
      refine ⟨List.forall_mem_singleton.2 hv, ?_⟩
      unfold Json.present?
      split
      · next he => exact absurd (Option.some.inj he) hnull
      · rfl
  · cases habsent
    exact ⟨nofun, rfl⟩

/-- What a record was read from. -/
theorem source_of_decode {r : Fields α} {j : Json} (h : r.decode name j = .ok a)
    (hj : j.sorted = j) :
    ∃ source, r.read ⟨name, r.size⟩ source 0 = .ok a ∧ ∀ v ∈ source.values, v.sorted = v := by
  cases j with
  | obj members =>
    exact ⟨.keyed members, decode_obj.1 h,
      List.forall_mem_map.2 fun m hm => Json.sorted_member hj hm⟩
  | arr items => exact ⟨.listed items, (decode_arr.1 h).1, fun v hv => Json.sorted_item hj hv⟩
  | _ => cases h

/-! ## Records -/

open Json.Syntax (Fits maxDepth)

/-- A way to write a record and a way to read it that fit together.  `values` are the JSON values that
the record carries as they are, and `withoutNulls` leaves out the optional ones of them that are
null. -/
structure IsCodec (toJson : α → Json) (decode : Decoder α) (values : α → List Json)
    (withoutNulls : α → α) : Prop where
  /-- What was written is read. -/
  written : ∀ a, (∀ v ∈ values a, v.sorted = v) → decode (toJson a).sorted = .ok (withoutNulls a)
  /-- So it is from its text, if the text of what the record carries is read. -/
  text : ∀ a, (∀ v ∈ values a, v.sorted = v ∧ Fits (maxDepth - 1) v) →
    ∃ j, Json.parse? (toJson a).compact = some j ∧ decode j = .ok (withoutNulls a)
  /-- Whatever form a record was read in, what is written for it is read as the same record. -/
  settles : ∀ j a, j.sorted = j → decode j = .ok a → decode (toJson a).sorted = .ok a
  /-- So it is with what was read from a text. -/
  settles_text : ∀ text j a, Json.parse? text = some j → decode j = .ok a →
    decode (toJson a).sorted = .ok a

/-- **A way to write and a way to read fit together** if what was written is read, and what is read
carries values in order and no null that could be left out. -/
theorem isCodec_of {toJson : α → Json} {values : α → List Json} {withoutNulls : α → α}
    (hwritten : ∀ a, (∀ v ∈ values a, v.sorted = v) → decode (toJson a).sorted = .ok (withoutNulls a))
    (hfits : ∀ a, (∀ v ∈ values a, Fits (maxDepth - 1) v) → Fits maxDepth (toJson a))
    (hread : ∀ j a, j.sorted = j → decode j = .ok a →
      (∀ v ∈ values a, v.sorted = v) ∧ withoutNulls a = a) :
    IsCodec toJson decode values withoutNulls := by
  have hsettles (j : Json) (a : α) (hj : j.sorted = j) (h : decode j = .ok a) :
      decode (toJson a).sorted = .ok a := by
    obtain ⟨hvalues, hsame⟩ := hread j a hj h
    rw [hwritten a hvalues, hsame]
  refine ⟨hwritten, fun a h => ?_, hsettles, fun text j a hparse h => ?_⟩
  · exact ⟨_, Json.parse?_compact (hfits a fun v hv => (h v hv).2), hwritten a fun v hv => (h v hv).1⟩
  · exact hsettles j a (Json.parse?_sorted hparse) h

/-- A record that carries no values is read as it was written. -/
theorem isCodec_plain {toJson : α → Json} (hwritten : ∀ a, decode (toJson a).sorted = .ok a)
    (hfits : ∀ a, Fits maxDepth (toJson a)) : IsCodec toJson decode (fun _ => []) id :=
  isCodec_of (fun a _ => hwritten a) (fun a _ => hfits a) fun _ _ _ _ => ⟨nofun, rfl⟩

end LanguageClient.Decode
