import LanguageClient.Document.Uri
import LanguageClient.Proofs.Text.Utf8

/-!
# Paths and their URIs

A path is escaped character by character and unescaped byte by byte.  The two meet because each step
of escaping is undone by as many steps of unescaping, whatever stands behind it
(`unescape_escapeChar`); so the bytes of a path's text come back (`unescape_escape`), and with them the
text.

* `Uri.IsEscaped` — what may stand behind the scheme.
* `Uri.toPath_ofPath` — the URI of a text is read back as this text.
* **`paths_are_told_by_their_uris`**.
-/

namespace LanguageClient

namespace Utf8

theorem pieces_encode (cs : List Char) : pieces (encode cs) = cs.map some := by
  induction cs with
  | nil => rw [encode, List.flatMap_nil, pieces, List.map_nil]
  | cons c cs ih =>
    obtain ⟨b, bs, hc, hd⟩ := decodeOne_encode c (encode cs)
    rw [encode_cons, hc, List.cons_append, pieces, hd, List.drop_left, ih, List.map_cons]

/-- In the bytes of a text there is nothing to replace. -/
theorem decodeLossy_encode (cs : List Char) : decodeLossy (encode cs) = String.ofList cs := by
  rw [decodeLossy, pieces_encode, List.map_map]
  exact congrArg String.ofList (List.map_id cs)

theorem decodeLossy_ofString (s : String) : decodeLossy (ofString s) = s := by
  rw [ofString, decodeLossy_encode, String.ofList_toList]

theorem encode_append (cs ds : List Char) : encode (cs ++ ds) = encode cs ++ encode ds :=
  List.flatMap_append

/-- A character below `0x80` is one byte. -/
theorem utf8EncodeChar_of_lt {c : Char} (h : c.toNat < 0x80) :
    String.utf8EncodeChar c = [UInt8.ofNat c.toNat] := by
  have same := encode_one (b := UInt8.ofNat c.toNat) (toNat_ofNat (by omega)) h
  rwa [Char.ofNat_toNat] at same

end Utf8

namespace Uri

/-! ## What a URI is made of -/

def IsCapitalDigit (c : Char) : Prop := c.isDigit ∨ ('A' ≤ c ∧ c ≤ 'F')

instance (c : Char) : Decidable (IsCapitalDigit c) := inferInstanceAs (Decidable (_ ∨ _))

/-- Letters and digits of ASCII, a few other characters, and bytes in capital hexadecimal digits. -/
inductive IsEscaped : List Char → Prop
  | done : IsEscaped []
  | plain {c : Char} {cs : List Char} (hc : c.isAlpha ∨ c.isDigit ∨ c ∈ ['/', '.', '-', '_', '~'])
      (rest : IsEscaped cs) : IsEscaped (c :: cs)
  | byte {high low : Char} {cs : List Char} (hhigh : IsCapitalDigit high) (hlow : IsCapitalDigit low)
      (rest : IsEscaped cs) : IsEscaped ('%' :: high :: low :: cs)

theorem IsEscaped.append {cs ds : List Char} (h : IsEscaped cs) (h' : IsEscaped ds) :
    IsEscaped (cs ++ ds) := by
  induction h with
  | done => exact h'
  | plain hc _ ih => exact .plain hc ih
  | byte hhigh hlow _ ih => exact .byte hhigh hlow ih

theorem isCapitalDigit_hexDigit : ∀ n < 16, IsCapitalDigit (Text.hexDigit n) := by decide

/-- The two halves of a byte are digits. -/
theorem halves_lt (b : UInt8) : b.toNat / 16 < 16 ∧ b.toNat % 16 < 16 := by
  have := b.toNat_lt
  omega

theorem isEscaped_escapeByte (b : UInt8) : IsEscaped (escapeByte b) :=
  .byte (isCapitalDigit_hexDigit _ (halves_lt b).1) (isCapitalDigit_hexDigit _ (halves_lt b).2) .done

theorem isPlain_iff {c : Char} :
    isPlain c = true ↔ c.isAlpha ∨ c.isDigit ∨ c ∈ ['/', '.', '-', '_', '~'] := by
  simp [isPlain, Char.isAlphanum, or_assoc]

theorem isAlpha_iff {c : Char} :
    c.isAlpha = true ↔ (65 ≤ c.toNat ∧ c.toNat ≤ 90) ∨ (97 ≤ c.toNat ∧ c.toNat ≤ 122) := by
  show (decide (65 ≤ c.val ∧ c.val ≤ 90) || decide (97 ≤ c.val) && decide (c.val ≤ 122)) = true ↔ _
  simp only [Bool.or_eq_true, Bool.and_eq_true, decide_eq_true_eq, UInt32.le_iff_toNat_le]
  rfl

/-- A character that stands for itself is one byte, and not `%`. -/
theorem toNat_of_isPlain {c : Char} (h : isPlain c = true) : c.toNat < 0x80 ∧ c.toNat ≠ 0x25 := by
  rw [isPlain_iff] at h
  rcases h with h | h | h
  · rw [isAlpha_iff] at h
    omega
  · simp only [Char.isDigit, Bool.and_eq_true, decide_eq_true_eq, ge_iff_le,
      UInt32.le_iff_toNat_le] at h
    change 48 ≤ c.toNat ∧ c.toNat ≤ 57 at h
    omega
  · simp only [List.mem_cons, List.not_mem_nil, or_false] at h
    rcases h with rfl | rfl | rfl | rfl | rfl <;> decide

theorem isEscaped_escapeChar (c : Char) : IsEscaped (escapeChar c) := by
  unfold escapeChar
  split
  next h => exact .plain (isPlain_iff.1 h) .done
  next =>
    induction String.utf8EncodeChar c with
    | nil => exact .done
    | cons b bs ih => exact (isEscaped_escapeByte b).append ih

theorem isEscaped_escape (cs : List Char) : IsEscaped (cs.flatMap escapeChar) := by
  induction cs with
  | nil => exact .done
  | cons c cs ih => exact (isEscaped_escapeChar c).append ih

/-! ## Unescaping -/

/-- A byte that is no `%` stands for itself. -/
theorem unescape_cons {b : UInt8} (h : b ≠ 0x25) (bs : List UInt8) :
    unescape (b :: bs) = b :: unescape bs := by
  rw [unescape]
  · rintro _ _ _ rfl
    exact absurd rfl h
  · rintro _ rfl
    exact absurd rfl h

/-- The digits that are written are read, and each of them is one byte. -/
theorem hexByte?_hexDigit : ∀ n < 16, String.utf8EncodeChar (Text.hexDigit n) =
    [UInt8.ofNat (Text.hexDigit n).toNat] ∧
      hexByte? (UInt8.ofNat (Text.hexDigit n).toNat) = some n := by
  decide

/-- An escape is read as its byte, whatever stands behind it. -/
theorem unescape_escapeByte (b : UInt8) (bs : List UInt8) :
    unescape (Utf8.encode (escapeByte b) ++ bs) = b :: unescape bs := by
  obtain ⟨hhigh, hlow⟩ := halves_lt b
  obtain ⟨onebyte, high⟩ := hexByte?_hexDigit _ hhigh
  obtain ⟨onebyte', low⟩ := hexByte?_hexDigit _ hlow
  have bytes : Utf8.encode (escapeByte b) = [0x25, UInt8.ofNat (Text.hexDigit (b.toNat / 16)).toNat,
      UInt8.ofNat (Text.hexDigit (b.toNat % 16)).toNat] := by
    rw [escapeByte, Utf8.encode_cons, Utf8.encode_cons, Utf8.encode_cons, onebyte, onebyte']
    rfl
  have halves : UInt8.ofNat (b.toNat / 16 * 16 + b.toNat % 16) = b := by
    rw [Nat.div_add_mod', UInt8.ofNat_toNat]
  rw [bytes, List.cons_append, List.cons_append, List.cons_append, unescape, high, low]
  exact congrArg (· :: unescape bs) halves

/-- An escaped character is read as its bytes, whatever stands behind it. -/
theorem unescape_escapeChar (c : Char) (bs : List UInt8) :
    unescape (Utf8.encode (escapeChar c) ++ bs) = String.utf8EncodeChar c ++ unescape bs := by
  unfold escapeChar
  split
  next h =>
    obtain ⟨small, other⟩ := toNat_of_isPlain h
    have hne : UInt8.ofNat c.toNat ≠ 0x25 := by
      intro heq
      have same := congrArg UInt8.toNat heq
      rw [Utf8.toNat_ofNat (by omega)] at same
      exact other same
    rw [Utf8.encode_cons, Utf8.utf8EncodeChar_of_lt small]
    exact unescape_cons hne bs
  next =>
    induction String.utf8EncodeChar c with
    | nil => rfl
    | cons b rest ih =>
      rw [List.flatMap_cons, Utf8.encode_append, List.append_assoc, unescape_escapeByte, ih,
        List.cons_append]

theorem unescape_escape (cs : List Char) :
    unescape (Utf8.encode (cs.flatMap escapeChar)) = Utf8.encode cs := by
  induction cs with
  | nil => rfl
  | cons c cs ih =>
    rw [List.flatMap_cons, Utf8.encode_append, unescape_escapeChar, ih, Utf8.encode_cons]

/-! ## There and back -/

/-- The URI of a text is read back as this text. -/
theorem toPath_ofPath (path : String) : toPath (ofPath path) = path := by
  have rest : scheme.isPrefixOf? (ofPath path).toList = some (path.toList.flatMap escapeChar) := by
    rw [ofPath, String.toList_ofList]
    rfl
  rw [toPath, rest]
  simp only
  rw [unescape_escape, Utf8.decodeLossy_encode, String.ofList_toList]

theorem ofPath_injective : Function.Injective ofPath := Function.LeftInverse.injective toPath_ofPath

/-- **Paths are told by their URIs.**  Take any path from the root, as bytes that need not be text.
Behind the scheme its URI has nothing but plain characters and escapes, and it is read back as the
text of the path, with a replacement character for each piece that is none.  So the URI of a path
that is text is read back as this path, two such paths have one URI only if they are the same, and
what is read back has the same URI again. -/
theorem paths_are_told_by_their_uris (bytes : List UInt8) (s t : String) :
    let path := 0x2F :: bytes
    let uri := ofPathBytes path
    (∃ cs, uri = String.ofList (scheme ++ cs) ∧ IsEscaped cs) ∧
      toPath uri = Utf8.decodeLossy path ∧
      toPath (ofPathBytes (Utf8.ofString ("/" ++ s))) = "/" ++ s ∧
      (ofPathBytes (Utf8.ofString ("/" ++ s)) = ofPathBytes (Utf8.ofString ("/" ++ t)) ↔ s = t) ∧
      ofPath (toPath uri) = uri := by
  intro path uri
  have back : toPath uri = Utf8.decodeLossy path := toPath_ofPath _
  refine ⟨⟨_, rfl, isEscaped_escape _⟩, back, ?_, ?_, congrArg ofPath back⟩
  · rw [ofPathBytes, Utf8.decodeLossy_ofString, toPath_ofPath]
  · rw [ofPathBytes, ofPathBytes, Utf8.decodeLossy_ofString, Utf8.decodeLossy_ofString]
    rw [ofPath_injective.eq_iff, String.append_right_inj]

end Uri

end LanguageClient
