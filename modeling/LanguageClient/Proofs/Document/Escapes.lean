import LanguageClient.Proofs.Document.Uri

/-!
# What the text of a URI denotes

Behind its scheme a URI is read byte by byte, from left to right.  A percent sign and two hexadecimal
digits are an escape and denote one byte; a percent sign without two digits behind it is a stray
one, and denotes itself like every other byte.

A reader that has to look at two bytes before it knows a stray percent sign may lose them.  So
`Denotes lost` says what is denoted for a reader that drops so many bytes behind each stray
percent sign.  `Denotes 0` is the reading that loses nothing, and `unescape` reads as `Denotes 2`
says (`denotes_unescape`).  The two agree on every text whose stray percent signs have nothing behind
them (`Denotes.of_straysAreLast`), and on such a text **`escapes_are_read`** is about the path as it
should be.  Of any other text bytes may be lost: `bytes_behind_a_stray_are_lost`.
-/

namespace LanguageClient.Uri

def percent : UInt8 := 0x25

/-- A hexadecimal digit of either case, and its value. -/
def IsHexDigit (b : UInt8) (n : Nat) : Prop :=
  (n < 10 ∧ b.toNat = '0'.toNat + n) ∨
    (10 ≤ n ∧ n < 16 ∧ (b.toNat = 'A'.toNat + (n - 10) ∨ b.toNat = 'a'.toNat + (n - 10)))

/-- Two hexadecimal digits in front of a rest, and the byte that they denote. -/
inductive Coded : List UInt8 → UInt8 → List UInt8 → Prop
  | digits {high low : UInt8} {h l : Nat} {rest : List UInt8} (hhigh : IsHexDigit high h)
      (hlow : IsHexDigit low l) : Coded (high :: low :: rest) (UInt8.ofNat (h * 16 + l)) rest

/-- Two hexadecimal digits are in front. -/
def IsCoded (bs : List UInt8) : Prop := ∃ b rest, Coded bs b rest

/-- What bytes denote, read from left to right, where each stray percent sign takes so many of the
bytes behind it away. -/
inductive Denotes (lost : Nat) : List UInt8 → List UInt8 → Prop
  | done : Denotes lost [] []
  | byte {b : UInt8} {bs out : List UInt8} (h : b ≠ percent) (more : Denotes lost bs out) :
      Denotes lost (b :: bs) (b :: out)
  | escape {b : UInt8} {bs rest out : List UInt8} (h : Coded bs b rest)
      (more : Denotes lost rest out) : Denotes lost (percent :: bs) (b :: out)
  | stray {bs out : List UInt8} (h : ¬ IsCoded bs)
      (more : Denotes lost (bs.drop lost) out) : Denotes lost (percent :: bs) (percent :: out)

/-- A percent sign without two digits behind it has nothing behind it. -/
def StraysAreLast (bytes : List UInt8) : Prop :=
  ∀ before after, bytes = before ++ percent :: after → after = [] ∨ IsCoded after

/-! ## Digits -/

theorem hexByte?_eq_some {b : UInt8} {n : Nat} : hexByte? b = some n ↔ IsHexDigit b n := by
  have hzero : '0'.toNat = 48 := rfl
  have hnine : '9'.toNat = 57 := rfl
  have ha : 'a'.toNat = 97 := rfl
  have hf : 'f'.toNat = 102 := rfl
  have hA : 'A'.toNat = 65 := rfl
  have hF : 'F'.toNat = 70 := rfl
  unfold IsHexDigit hexByte? Text.hexValue?
  simp only [Char.le_def, UInt32.le_iff_toNat_le, Char.toNat_val, Bool.and_eq_true,
    decide_eq_true_eq, UInt8.lt_iff_toNat_lt]
  have hlimit : (0x80 : UInt8).toNat = 128 := rfl
  split
  next hb =>
    rw [hlimit] at hb
    rw [show (Char.ofNat b.toNat).toNat = b.toNat from Utf8.toNat_ofNat_of_valid (.inl (by omega))]
    split
    next => simp only [Option.some.injEq]; omega
    next =>
      split
      next => simp only [Option.some.injEq]; omega
      next => split <;> simp only [Option.some.injEq, reduceCtorEq, false_iff] <;> omega
  next hb => simp only [reduceCtorEq, false_iff]; omega

theorem coded_iff {bs rest : List UInt8} {b : UInt8} :
    Coded bs b rest ↔ ∃ high low h l, bs = high :: low :: rest ∧ hexByte? high = some h ∧
      hexByte? low = some l ∧ b = UInt8.ofNat (h * 16 + l) := by
  constructor
  · rintro ⟨hhigh, hlow⟩
    exact ⟨_, _, _, _, rfl, hexByte?_eq_some.2 hhigh, hexByte?_eq_some.2 hlow, rfl⟩
  · rintro ⟨high, low, h, l, rfl, hhigh, hlow, rfl⟩
    exact .digits (hexByte?_eq_some.1 hhigh) (hexByte?_eq_some.1 hlow)

instance (b : UInt8) (n : Nat) : Decidable (IsHexDigit b n) := inferInstanceAs (Decidable (_ ∨ _))

instance : (bs : List UInt8) → Decidable (IsCoded bs)
  | [] => isFalse fun ⟨_, _, h⟩ => nomatch h
  | [_] => isFalse fun ⟨_, _, h⟩ => nomatch h
  | high :: low :: rest =>
    decidable_of_iff ((hexByte? high).isSome = true ∧ (hexByte? low).isSome = true) <| by
      simp only [IsCoded, coded_iff, Option.isSome_iff_exists]
      constructor
      · rintro ⟨⟨h, hhigh⟩, l, hlow⟩
        exact ⟨_, rest, high, low, h, l, rfl, hhigh, hlow, rfl⟩
      · rintro ⟨_, _, _, _, h, l, hbs, hhigh, hlow, -⟩
        cases hbs
        exact ⟨⟨h, hhigh⟩, l, hlow⟩

/-- Two digits denote one byte. -/
theorem Coded.unique {bs rest rest' : List UInt8} {b b' : UInt8} (h : Coded bs b rest)
    (h' : Coded bs b' rest') : b = b' ∧ rest = rest' := by
  obtain ⟨high, low, n, m, rfl, hhigh, hlow, rfl⟩ := coded_iff.1 h
  obtain ⟨_, _, n', m', hbs, hhigh', hlow', rfl⟩ := coded_iff.1 h'
  cases hbs
  rw [hhigh] at hhigh'
  rw [hlow] at hlow'
  cases hhigh'
  cases hlow'
  exact ⟨rfl, rfl⟩

/-! ## Reading -/

section

variable {lost : Nat} {bs out out' : List UInt8}

/-- Every text denotes something. -/
theorem exists_denotes (lost : Nat) (bs : List UInt8) : ∃ out, Denotes lost bs out := by
  induction hn : bs.length using Nat.strongRecOn generalizing bs with
  | ind n ih =>
    cases bs with
    | nil => exact ⟨[], .done⟩
    | cons b bs =>
      rw [List.length_cons] at hn
      by_cases hb : b = percent
      · subst hb
        by_cases hcoded : IsCoded bs
        · obtain ⟨b, rest, hcoded⟩ := hcoded
          have hshort : rest.length < n := by
            cases hcoded
            simp only [List.length_cons] at hn
            omega
          obtain ⟨out, hout⟩ := ih _ hshort rest rfl
          exact ⟨_, .escape hcoded hout⟩
        · have hshort : (bs.drop lost).length < n := by
            rw [List.length_drop]
            omega
          obtain ⟨out, hout⟩ := ih _ hshort (bs.drop lost) rfl
          exact ⟨_, .stray hcoded hout⟩
      · obtain ⟨out, hout⟩ := ih _ (by omega) bs rfl
        exact ⟨_, .byte hb hout⟩

/-- No text denotes two things. -/
theorem Denotes.unique (h : Denotes lost bs out) (h' : Denotes lost bs out') : out = out' := by
  induction h generalizing out' with
  | done => cases h'; rfl
  | byte hb _ ih =>
    cases h' with
    | byte _ more => rw [ih more]
    | escape => exact absurd rfl hb
    | stray => exact absurd rfl hb
  | escape hcoded _ ih =>
    cases h' with
    | byte hb => exact absurd rfl hb
    | escape hcoded' more =>
      obtain ⟨rfl, rfl⟩ := hcoded.unique hcoded'
      rw [ih more]
    | stray hnone => exact absurd ⟨_, _, hcoded⟩ hnone
  | stray hnone _ ih =>
    cases h' with
    | byte hb => exact absurd rfl hb
    | escape hcoded => exact absurd ⟨_, _, hcoded⟩ hnone
    | stray _ more => rw [ih more]

/-- **What `unescape` makes of bytes** is what they denote if each stray percent sign takes two of
them with it. -/
theorem denotes_unescape (bs : List UInt8) : Denotes 2 bs (unescape bs) := by
  fun_induction unescape bs with
  | case1 => exact .done
  | case2 high low rest h l hlow hhigh ih =>
    exact .escape (coded_iff.2 ⟨high, low, h, l, rfl, hhigh, hlow, rfl⟩) ih
  | case3 high low rest hnone ih =>
    refine .stray ?_ ih
    rintro ⟨b, rest', hcoded⟩
    obtain ⟨_, _, h, l, hbs, hhigh, hlow, -⟩ := coded_iff.1 hcoded
    cases hbs
    exact hnone h l hhigh hlow
  | case4 b => exact .stray (by rintro ⟨_, _, hcoded⟩; cases hcoded) .done
  | case5 b bs hlong hshort ih =>
    by_cases hb : b = percent
    · -- Longer texts behind a percent sign are taken by the other equations.
      have hnil : bs = [] := by
        cases bs with
        | nil => rfl
        | cons low bs =>
          cases bs with
          | nil => exact (hshort low hb rfl).elim
          | cons high bs => exact (hlong low high bs hb rfl).elim
      subst hb hnil
      exact .stray (by rintro ⟨_, _, hcoded⟩; cases hcoded) .done
    · exact .byte hb ih

theorem straysAreLast_nil : StraysAreLast [] := by
  intro before after h
  simp at h

theorem straysAreLast_cons {b : UInt8} :
    StraysAreLast (b :: bs) ↔ (b = percent → bs = [] ∨ IsCoded bs) ∧ StraysAreLast bs := by
  constructor
  · intro h
    refine ⟨?_, ?_⟩
    · rintro rfl
      exact h [] bs rfl
    · rintro before after rfl
      exact h (b :: before) after rfl
  · rintro ⟨hfirst, hrest⟩ before after heq
    cases before with
    | nil => cases heq; exact hfirst rfl
    | cons _ before => cases heq; exact hrest before after rfl

instance : (bs : List UInt8) → Decidable (StraysAreLast bs)
  | [] => isTrue straysAreLast_nil
  | _ :: bs =>
    have := instDecidableStraysAreLast bs
    decidable_of_iff _ straysAreLast_cons.symm

theorem StraysAreLast.of_coded {rest : List UInt8} {b : UInt8} (h : StraysAreLast bs)
    (hcoded : Coded bs b rest) : StraysAreLast rest := by
  cases hcoded
  exact (straysAreLast_cons.1 (straysAreLast_cons.1 h).2).2

/-- Where nothing stands behind a stray percent sign, nothing can be lost. -/
theorem Denotes.of_straysAreLast (h : Denotes lost bs out) (hlast : StraysAreLast bs) (lost' : Nat) :
    Denotes lost' bs out := by
  induction h with
  | done => exact .done
  | byte hb _ ih => exact .byte hb (ih (straysAreLast_cons.1 hlast).2)
  | escape hcoded _ ih => exact .escape hcoded (ih ((straysAreLast_cons.1 hlast).2.of_coded hcoded))
  | @stray bs out hnone more ih =>
    obtain rfl : bs = [] := ((straysAreLast_cons.1 hlast).1 rfl).resolve_right hnone
    rw [List.drop_nil] at more
    cases more
    exact .stray hnone (by rw [List.drop_nil]; exact .done)

end

/-! ## Paths -/

theorem toPath_scheme (s : String) :
    toPath ("file://" ++ s) = Utf8.decodeLossy (unescape (Utf8.ofString s)) := by
  have rest : scheme.isPrefixOf? ("file://" ++ s).toList = some s.toList := by
    rw [String.toList_append]
    rfl
  rw [toPath, rest]
  rfl

/-- **The escapes of a URI are read, and no other byte is lost where a stray percent sign is last.**
Any text denotes exactly one string of bytes, and the path of the URI with this text behind the scheme
is the text of these bytes if no stray percent sign in it has anything behind it.  Whatever stands
behind a stray percent sign, the path is the text of what is denoted if each of them takes the two
bytes behind it away. -/
theorem escapes_are_read (s : String) :
    ∃ out kept, (∀ bytes, Denotes 0 (Utf8.ofString s) bytes ↔ bytes = out) ∧
      (∀ bytes, Denotes 2 (Utf8.ofString s) bytes ↔ bytes = kept) ∧
      (StraysAreLast (Utf8.ofString s) → toPath ("file://" ++ s) = Utf8.decodeLossy out) ∧
      toPath ("file://" ++ s) = Utf8.decodeLossy kept := by
  obtain ⟨out, hout⟩ := exists_denotes 0 (Utf8.ofString s)
  have hkept := denotes_unescape (Utf8.ofString s)
  refine ⟨out, unescape (Utf8.ofString s), fun bytes => ⟨fun h => h.unique hout, ?_⟩,
    fun bytes => ⟨fun h => h.unique hkept, ?_⟩, fun hlast => ?_, toPath_scheme s⟩
  · rintro rfl
    exact hout
  · rintro rfl
    exact hkept
  · rw [toPath_scheme, hkept.unique (hout.of_straysAreLast hlast 2)]

theorem escapes_before_a_stray_are_read :
    StraysAreLast (Utf8.ofString "/a%20b%c3%9F/é%") ∧
      toPath ("file://" ++ "/a%20b%c3%9F/é%") = "/a bß/é%" := by
  have hlast : StraysAreLast (Utf8.ofString "/a%20b%c3%9F/é%") := by decide
  have read : unescape (Utf8.ofString "/a%20b%c3%9F/é%") = Utf8.ofString "/a bß/é%" := by decide
  obtain ⟨out, _, hout, -, hpath, -⟩ := escapes_are_read "/a%20b%c3%9F/é%"
  have denoted := (hout _).1 ((denotes_unescape _).of_straysAreLast hlast 0)
  refine ⟨hlast, ?_⟩
  rw [hpath hlast, ← denoted, read, Utf8.decodeLossy_ofString]

/-- A stray percent sign takes an escape apart that stands behind it. -/
theorem bytes_behind_a_stray_are_lost :
    ¬ ∀ s out, Denotes 0 (Utf8.ofString s) out → toPath ("file://" ++ s) = Utf8.decodeLossy out := by
  intro h
  have denotes : Denotes 0 (Utf8.ofString "/%%41") (Utf8.ofString "/%A") :=
    .byte (by decide) (.stray (by decide)
      (.escape (.digits (h := 4) (l := 1) (by decide) (by decide)) .done))
  have read : unescape (Utf8.ofString "/%%41") = Utf8.ofString "/%1" := by decide
  have path := h _ _ denotes
  rw [toPath_scheme, read, Utf8.decodeLossy_ofString, Utf8.decodeLossy_ofString] at path
  exact absurd path (by decide)

end LanguageClient.Uri
