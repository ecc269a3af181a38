import LanguageClient.Proofs.Document.Uri

/-!
# Offsets into the bytes of a text

A scan over the bytes of a text names places by their offsets, and cuts the text there.  Such a cut is
safe if the offset `IsBoundary`: it does not lie inside a character or behind the end.

* `getElem?_encode` — a byte of ASCII is found only where its character begins.
* `prefix_of_length_le` — of two beginnings of a text the one with fewer bytes is a beginning of the
  other, and so an offset names one cut (`append_inj_of_length`).
-/

namespace LanguageClient.Utf8

variable {cs before before' after after' : List Char} {c : Char} {i : Nat}

/-- An offset between two characters, or at one of the ends. -/
def IsBoundary (cs : List Char) (i : Nat) : Prop :=
  ∃ before after, cs = before ++ after ∧ (encode before).length = i

theorem length_encode_append (cs ds : List Char) :
    (encode (cs ++ ds)).length = (encode cs).length + (encode ds).length := by
  rw [encode_append, List.length_append]

/-- No character is without bytes. -/
theorem length_encode_eq_zero : (encode cs).length = 0 ↔ cs = [] := by
  cases cs with
  | nil => simp [encode]
  | cons c cs =>
    obtain ⟨b, bs, hc, -⟩ := decodeOne_encode c []
    simp [encode_cons, hc]

/-- **A byte of ASCII is found where its character begins**, and nowhere else. -/
theorem getElem?_encode (hc : c.toNat < 0x80) :
    (encode cs)[i]? = some (UInt8.ofNat c.toNat) ↔
      ∃ before after, cs = before ++ c :: after ∧ (encode before).length = i := by
  constructor
  · intro h
    induction cs generalizing i with
    | nil => simp [encode] at h
    | cons a cs ih =>
      rw [encode_cons] at h
      by_cases hi : i < (String.utf8EncodeChar a).length
      · rw [List.getElem?_append_left hi] at h
        have hcode := eq_of_mem_utf8EncodeChar (List.mem_of_getElem? h) (by rw [toNat_ofNat] <;> omega)
        rw [toNat_ofNat (by omega), Char.toNat_inj] at hcode
        subst hcode
        rw [utf8EncodeChar_of_lt hc, List.length_singleton] at hi
        exact ⟨[], cs, rfl, by simp only [encode, List.flatMap_nil, List.length_nil]; omega⟩
      · rw [List.getElem?_append_right (by omega)] at h
        obtain ⟨before, after, rfl, hlength⟩ := ih h
        refine ⟨a :: before, after, rfl, ?_⟩
        rw [encode_cons, List.length_append]
        omega
  · rintro ⟨before, after, rfl, rfl⟩
    rw [encode_append, List.getElem?_append_right (Nat.le_refl _), Nat.sub_self, encode_cons,
      utf8EncodeChar_of_lt hc]
    rfl

/-- A byte of ASCII in front is the first character. -/
theorem exists_cons_of_encode {bs : List UInt8} (hc : c.toNat < 0x80)
    (h : encode cs = UInt8.ofNat c.toNat :: bs) : ∃ rest, cs = c :: rest ∧ encode rest = bs := by
  obtain ⟨before, rest, rfl, hlength⟩ := (getElem?_encode (i := 0) hc).1 (by rw [h]; rfl)
  obtain rfl := length_encode_eq_zero.1 hlength
  rw [List.nil_append, encode_cons, utf8EncodeChar_of_lt hc] at h
  exact ⟨rest, rfl, List.tail_eq_of_cons_eq h⟩

/-- Of two beginnings of a text, the one with fewer bytes is a beginning of the other. -/
theorem prefix_of_length_le (h : before ++ after = before' ++ after')
    (hle : (encode before).length ≤ (encode before').length) : before <+: before' := by
  obtain ⟨more, rfl, -⟩ | ⟨more, rfl, -⟩ := List.append_eq_append_iff.1 h
  · exact ⟨more, rfl⟩
  · rw [length_encode_append] at hle
    obtain rfl := length_encode_eq_zero.1 (show (encode more).length = 0 by omega)
    exact ⟨[], by simp⟩

/-- An offset names one cut. -/
theorem append_inj_of_length (h : before ++ after = before' ++ after')
    (hlength : (encode before).length = (encode before').length) :
    before = before' ∧ after = after' := by
  obtain ⟨more, rfl⟩ := prefix_of_length_le h (Nat.le_of_eq hlength)
  rw [length_encode_append] at hlength
  obtain rfl : more = [] := length_encode_eq_zero.1 (by omega)
  rw [List.append_nil] at h ⊢
  exact ⟨rfl, List.append_cancel_left h⟩

end LanguageClient.Utf8
