import LanguageClient.CommandLine.Location
import LanguageClient.Proofs.Data.Outcome
import LanguageClient.Proofs.Text.Blank
import LanguageClient.Proofs.Text.Decimal
import LanguageClient.Proofs.Text.Offset

/-!
# Locations, written and read

The text of a location is the name of a file and one or two numbers.  Where the name ends is found by
a scan over bytes: at the first colon before a digit or a minus sign, where a letter and a colon in
front are passed over as a drive.  `IsText` is the grammar, in terms of the bytes of the text.

* `splitFile?_eq_some` — the characters are split where the scan over the bytes stops.
* `isNumbers_iff` — the numbers behind the name are read as the grammar has them.
* **`location_is_read_by_grammar`** — a text is read exactly if it is the text of a location, and the
  scan never cuts a character.
* **`location_is_read_back`** — a location comes back from its own text, unless the file has the name
  of a drive: `name_of_one_letter_is_not_read_back`.
-/

namespace LanguageClient.Location

open Text (IsNumeral)

variable {cs file rest : List Char} {line column : UInt32}

/-! ## The grammar -/

/-- Decimal digits with this value. -/
def IsDigits (cs : List Char) (n : Nat) : Prop :=
  cs ≠ [] ∧ (∀ c ∈ cs, c.isDigit = true) ∧ Nat.ofDigitChars 10 cs 0 = n

/-- A line, or a line and a column; both are counted from one, and the column may have a plus sign. -/
inductive IsNumbers : List Char → UInt32 → UInt32 → Prop
  | line {digits : List Char} {line : UInt32} (hline : IsDigits digits line.toNat)
      (counted : 1 ≤ line.toNat) : IsNumbers digits line 1
  | both {digits numeral : List Char} {line column : UInt32} (hline : IsDigits digits line.toNat)
      (counted : 1 ≤ line.toNat) (hcolumn : IsNumeral numeral column.toNat)
      (counted' : 1 ≤ column.toNat) : IsNumbers (digits ++ ':' :: numeral) line column

/-- How many bytes a drive takes: a letter and a colon, if more follows. -/
def driveLength : List UInt8 → Nat
  | letter :: 0x3A :: _ :: _ =>
    if (0x41 ≤ letter ∧ letter ≤ 0x5A) ∨ (0x61 ≤ letter ∧ letter ≤ 0x7A) then 2 else 0
  | _ => 0

/-- A colon before a digit or a minus sign, by the offset of its byte. -/
def IsMark (bytes : List UInt8) (i : Nat) : Prop :=
  bytes[i]? = some 0x3A ∧
    ∃ b, bytes[i + 1]? = some b ∧ ((0x30 ≤ b ∧ b ≤ 0x39) ∨ b = 0x2D)

/-- The first such colon that is no part of a drive. -/
structure IsFirstMark (bytes : List UInt8) (i : Nat) : Prop where
  behind : driveLength bytes ≤ i
  mark : IsMark bytes i
  first : ∀ j, driveLength bytes ≤ j → IsMark bytes j → i ≤ j

/-- The text of a location: the name of the file up to the first mark, and numbers behind it. -/
inductive IsText (cs : List Char) : Location → Prop
  | split {file rest : List Char} {line column : UInt32} (text : cs = file ++ ':' :: rest)
      (first : IsFirstMark (Utf8.encode cs) (Utf8.encode file).length)
      (numbers : IsNumbers rest line column) : IsText cs ⟨String.ofList file, line, column⟩

/-! ## Marks -/

/-- A digit or a minus sign is in front. -/
def Begins (cs : List Char) : Prop := ∃ c rest, cs = c :: rest ∧ beginsNumber c = true

theorem begins_iff : cs.head?.any beginsNumber = true ↔ Begins cs := by
  cases cs <;> simp [Begins]

theorem isDigit_iff {c : Char} : c.isDigit = true ↔ 48 ≤ c.toNat ∧ c.toNat ≤ 57 := by
  simp only [Char.isDigit, Bool.and_eq_true, decide_eq_true_eq, ge_iff_le, UInt32.le_iff_toNat_le]
  rfl

theorem beginsNumber_iff {c : Char} :
    beginsNumber c = true ↔ (48 ≤ c.toNat ∧ c.toNat ≤ 57) ∨ c.toNat = 45 := by
  have hminus : c = '-' ↔ c.toNat = 45 := Char.toNat_inj.symm
  simp only [beginsNumber, Bool.or_eq_true, isDigit_iff, decide_eq_true_eq, hminus]

/-- A mark is a colon in the text, with a digit or a minus sign behind it. -/
theorem isMark_iff {i : Nat} :
    IsMark (Utf8.encode cs) i ↔
      ∃ before after, cs = before ++ ':' :: after ∧ Begins after ∧
        (Utf8.encode before).length = i := by
  constructor
  · rintro ⟨hcolon, b, hnext, hb⟩
    obtain ⟨before, after, rfl, rfl⟩ := (Utf8.getElem?_encode (c := ':') (by decide)).1 hcolon
    have hsmall : b.toNat < 0x80 ∧ ((48 ≤ b.toNat ∧ b.toNat ≤ 57) ∨ b.toNat = 45) := by
      simp only [UInt8.le_iff_toNat_le, ← UInt8.toNat_inj] at hb
      change (48 ≤ b.toNat ∧ b.toNat ≤ 57) ∨ b.toNat = 45 at hb
      omega
    have hvalue : (Char.ofNat b.toNat).toNat = b.toNat := Utf8.toNat_ofNat_of_valid (.inl (by omega))
    have hcode : b = UInt8.ofNat (Char.ofNat b.toNat).toNat := by rw [hvalue, UInt8.ofNat_toNat]
    rw [hcode, Utf8.getElem?_encode (by omega)] at hnext
    obtain ⟨before', after', heq, hlength⟩ := hnext
    have hshift : (before ++ [':']) ++ after = before' ++ Char.ofNat b.toNat :: after' := by
      rw [← heq, List.append_assoc]
      rfl
    obtain ⟨-, rfl⟩ := Utf8.append_inj_of_length hshift (by
      rw [hlength, Utf8.length_encode_append]
      rfl)
    exact ⟨before, _, rfl, ⟨_, _, rfl, beginsNumber_iff.2 (by rw [hvalue]; exact hsmall.2)⟩, rfl⟩
  · rintro ⟨before, after, rfl, ⟨c, rest, rfl, hc⟩, rfl⟩
    have hcode : c.toNat < 0x80 := by
      have := beginsNumber_iff.1 hc
      omega
    refine ⟨(Utf8.getElem?_encode (c := ':') (by decide)).2 ⟨before, _, rfl, rfl⟩,
      UInt8.ofNat c.toNat, ?_, ?_⟩
    · refine (Utf8.getElem?_encode hcode).2 ⟨before ++ [':'], rest, by simp, ?_⟩
      rw [Utf8.length_encode_append]
      rfl
    · simp only [UInt8.le_iff_toNat_le, ← UInt8.toNat_inj, Utf8.toNat_ofNat (show c.toNat < 256 by omega)]
      exact beginsNumber_iff.1 hc

/-! ## The name of the file -/

theorem splitAtNumber?_eq_none (h : splitAtNumber? cs = none) {before after : List Char}
    (heq : cs = before ++ ':' :: after) : ¬ Begins after := by
  induction cs generalizing before with
  | nil => simp at heq
  | cons c cs ih =>
    rw [splitAtNumber?] at h
    split at h
    next => cases h
    next hc =>
      rw [Option.map_eq_none_iff] at h
      cases before with
      | nil =>
        cases heq
        rw [← begins_iff]
        simpa using hc
      | cons _ before =>
        cases heq
        exact ih h rfl

/-- The text is split at a colon before a number, and at the first of them. -/
theorem splitAtNumber?_eq_some (h : splitAtNumber? cs = some (file, rest)) :
    cs = file ++ ':' :: rest ∧ Begins rest ∧
      ∀ before after, cs = before ++ ':' :: after → Begins after → file <+: before := by
  induction cs generalizing file with
  | nil => cases h
  | cons c cs ih =>
    rw [splitAtNumber?] at h
    split at h
    next hc =>
      cases h
      rw [Bool.and_eq_true, decide_eq_true_eq, begins_iff] at hc
      obtain ⟨rfl, hbegins⟩ := hc
      exact ⟨rfl, hbegins, fun before _ _ _ => List.nil_prefix⟩
    next hc =>
      obtain ⟨⟨file', rest'⟩, hsplit, heq⟩ := Option.map_eq_some_iff.1 h
      cases heq
      obtain ⟨htext, hbegins, hfirst⟩ := ih hsplit
      refine ⟨congrArg (c :: ·) htext, hbegins, fun before after heq hafter => ?_⟩
      cases before with
      | nil =>
        cases heq
        rw [Bool.and_eq_true, decide_eq_true_eq, begins_iff] at hc
        exact absurd ⟨rfl, hafter⟩ hc
      | cons _ before =>
        cases heq
        exact List.cons_prefix_cons.2 ⟨rfl, hfirst before after rfl hafter⟩

theorem isDriveLetter_iff {c : Char} :
    isDriveLetter c = true ↔ (65 ≤ c.toNat ∧ c.toNat ≤ 90) ∨ (97 ≤ c.toNat ∧ c.toNat ≤ 122) :=
  Uri.isAlpha_iff

theorem driveLength_of_drive {a c : Char} (h : isDriveLetter a = true) :
    driveLength (Utf8.encode (a :: ':' :: c :: rest)) = 2 := by
  rw [isDriveLetter_iff] at h
  obtain ⟨b, bs, hbytes, -⟩ := Utf8.decodeOne_encode c []
  rw [Utf8.encode_cons, Utf8.encode_cons, Utf8.encode_cons, Utf8.utf8EncodeChar_of_lt (by omega), hbytes]
  show driveLength (UInt8.ofNat a.toNat :: 0x3A :: b :: _) = 2
  rw [driveLength, if_pos]
  simp only [UInt8.le_iff_toNat_le, Utf8.toNat_ofNat (show a.toNat < 256 by omega)]
  exact h

/-- Only a letter and a colon at the front are a drive. -/
theorem driveLength_eq_zero
    (h : ∀ a c rest, cs = a :: ':' :: c :: rest → isDriveLetter a = false) :
    driveLength (Utf8.encode cs) = 0 := by
  generalize hbytes : Utf8.encode cs = bytes
  unfold driveLength
  split
  next letter x more =>
    split
    next hletter =>
      exfalso
      simp only [UInt8.le_iff_toNat_le] at hletter
      change (65 ≤ letter.toNat ∧ letter.toNat ≤ 90) ∨ (97 ≤ letter.toNat ∧ letter.toNat ≤ 122)
        at hletter
      have hvalue : (Char.ofNat letter.toNat).toNat = letter.toNat :=
        Utf8.toNat_ofNat_of_valid (.inl (by omega))
      obtain ⟨rest, rfl, hrest⟩ := Utf8.exists_cons_of_encode (c := Char.ofNat letter.toNat) (by omega)
        (hbytes.trans (by rw [hvalue, UInt8.ofNat_toNat]))
      obtain ⟨rest, rfl, hrest⟩ := Utf8.exists_cons_of_encode (c := ':') (by decide) hrest
      cases rest with
      | nil => cases hrest
      | cons c rest =>
        have hnone := h _ c rest rfl
        rw [isDriveLetter_iff.2 (by rw [hvalue]; exact hletter)] at hnone
        cases hnone
    next => rfl
  next => rfl

/-- The name of the file may begin with a drive, which is not looked into. -/
theorem splitFile?_eq (cs : List Char) :
    ∃ drive scanned, cs = drive ++ scanned ∧
      (Utf8.encode drive).length = driveLength (Utf8.encode cs) ∧
      splitFile? cs = (splitAtNumber? scanned).map fun (file, rest) => (drive ++ file, rest) := by
  by_cases hdrive : ∃ a c rest, cs = a :: ':' :: c :: rest ∧ isDriveLetter a = true
  · obtain ⟨a, c, rest, rfl, ha⟩ := hdrive
    refine ⟨[a, ':'], c :: rest, rfl, ?_, by simp [splitFile?, ha]⟩
    have hcode := isDriveLetter_iff.1 ha
    rw [driveLength_of_drive ha, Utf8.encode_cons, Utf8.utf8EncodeChar_of_lt (by omega)]
    rfl
  · have hnone (a c : Char) (rest : List Char) (heq : cs = a :: ':' :: c :: rest) :
        isDriveLetter a = false :=
      Bool.eq_false_iff.2 fun ha => hdrive ⟨a, c, rest, heq, ha⟩
    have hwhole : splitFile? cs = splitAtNumber? cs := by
      fun_cases splitFile? cs with
      | case1 a b c rest hab =>
        simp only [Bool.and_eq_true, decide_eq_true_eq] at hab
        obtain ⟨ha, rfl⟩ := hab
        exact absurd ⟨a, c, rest, rfl, ha⟩ hdrive
      | case2 => rfl
      | case3 => rfl
    refine ⟨[], cs, rfl, by rw [driveLength_eq_zero hnone]; rfl, ?_⟩
    rw [hwhole]
    exact Option.map_id'.symm

theorem IsFirstMark.unique {bytes : List UInt8} {i j : Nat} (h : IsFirstMark bytes i)
    (h' : IsFirstMark bytes j) : i = j :=
  Nat.le_antisymm (h.first j h'.behind h'.mark) (h'.first i h.behind h.mark)

/-- **The text is split at its first mark.** -/
theorem splitFile?_eq_some : splitFile? cs = some (file, rest) ↔
    cs = file ++ ':' :: rest ∧ IsFirstMark (Utf8.encode cs) (Utf8.encode file).length := by
  obtain ⟨drive, scanned, hcs, hdrive, hsplit⟩ := splitFile?_eq cs
  -- A mark behind the drive is a mark of what is scanned.
  have behind (i : Nat) (hi : driveLength (Utf8.encode cs) ≤ i) (hmark : IsMark (Utf8.encode cs) i) :
      ∃ before after, scanned = before ++ ':' :: after ∧ Begins after ∧
        (Utf8.encode (drive ++ before)).length = i := by
    obtain ⟨before, after, htext, hafter, rfl⟩ := isMark_iff.1 hmark
    obtain ⟨before, rfl⟩ := Utf8.prefix_of_length_le (hcs.symm.trans htext) (by omega)
    rw [hcs, List.append_assoc, List.append_cancel_left_eq] at htext
    exact ⟨before, after, htext, hafter, rfl⟩
  have sound {file rest : List Char} (h : splitFile? cs = some (file, rest)) :
      cs = file ++ ':' :: rest ∧ IsFirstMark (Utf8.encode cs) (Utf8.encode file).length := by
    obtain ⟨⟨file', rest'⟩, hnumber, heq⟩ := Option.map_eq_some_iff.1 (hsplit.symm.trans h)
    cases heq
    obtain ⟨htext, hbegins, hfirst⟩ := splitAtNumber?_eq_some hnumber
    have hwhole : cs = (drive ++ file') ++ ':' :: rest := by rw [hcs, htext, List.append_assoc]
    refine ⟨hwhole, ?_, isMark_iff.2 ⟨_, _, hwhole, hbegins, rfl⟩, fun j hj hmark => ?_⟩
    · rw [← hdrive, Utf8.length_encode_append]
      omega
    · obtain ⟨before, after, hscanned, hafter, rfl⟩ := behind j hj hmark
      obtain ⟨more, rfl⟩ := hfirst before after hscanned hafter
      simp only [Utf8.length_encode_append]
      omega
  refine ⟨sound, fun ⟨htext, hfirst⟩ => ?_⟩
  cases hfound : splitFile? cs with
  | some found =>
    obtain ⟨file', rest'⟩ := found
    obtain ⟨htext', hfirst'⟩ := sound hfound
    obtain ⟨rfl, hrest⟩ := Utf8.append_inj_of_length (htext'.symm.trans htext) (hfirst'.unique hfirst)
    cases hrest
    rfl
  | none =>
    obtain ⟨before, after, hscanned, hafter, -⟩ := behind _ hfirst.behind hfirst.mark
    rw [hsplit, Option.map_eq_none_iff] at hfound
    exact absurd hafter (splitAtNumber?_eq_none hfound hscanned)

/-- A number, or what pretends to be one, is behind the first mark. -/
theorem IsFirstMark.begins (h : IsFirstMark (Utf8.encode (file ++ ':' :: rest)) (Utf8.encode file).length) :
    Begins rest := by
  obtain ⟨before, after, htext, hafter, hlength⟩ := isMark_iff.1 h.mark
  obtain ⟨-, hrest⟩ := Utf8.append_inj_of_length htext hlength.symm
  cases hrest
  exact hafter

/-! ## The numbers -/

theorem isNumeral_iff {n : Nat} :
    IsNumeral cs n ↔ ∃ digits, (cs = digits ∨ cs = '+' :: digits) ∧ IsDigits digits n := Iff.rfl

/-- A numeral that begins with a digit has no sign. -/
theorem isNumeral_cons {c : Char} {n : Nat} (hc : c.isDigit = true) :
    IsNumeral (c :: cs) n ↔ IsDigits (c :: cs) n := by
  rw [isNumeral_iff]
  constructor
  · rintro ⟨digits, rfl | hplus, h⟩
    · exact h
    · cases hplus
      exact absurd hc (by decide)
  · exact fun h => ⟨_, .inl rfl, h⟩

theorem number_eq_ok {part : LocationPart} {n : UInt32} :
    number part cs = .ok n ↔ IsNumeral cs n.toNat ∧ 1 ≤ n.toNat := by
  have fits : n.toNat ≤ maxNumber := Nat.le_sub_one_of_lt n.toNat_lt
  have read : IsNumeral cs n.toNat ↔ Text.readNat maxNumber cs = .ok n.toNat := by
    rw [Text.readNat_eq_ok, and_iff_left fits]
  rw [number, Text.readNat?, read]
  cases hread : Text.readNat maxNumber cs with
  | error e => simp [Except.toOption]
  | ok m =>
    obtain ⟨-, hm⟩ := Text.readNat_eq_ok.1 hread
    have hvalue : (UInt32.ofNat m).toNat = m :=
      UInt32.toNat_ofNat_of_lt' (Nat.lt_of_le_pred (by decide) hm)
    cases m with
    | zero => simp [Except.toOption]; omega
    | succ m =>
      simp only [Except.toOption, Except.ok.injEq, ← UInt32.toNat_inj, hvalue]
      omega

theorem splitColumn_of_not_mem (h : ':' ∉ cs) : splitColumn cs = (cs, none) := by
  induction cs with
  | nil => rfl
  | cons c cs ih =>
    rw [List.mem_cons, not_or] at h
    rw [splitColumn, if_neg (Ne.symm h.1), ih h.2]

theorem splitColumn_append {xs ys : List Char} (h : ':' ∉ xs) :
    splitColumn (xs ++ ':' :: ys) = (xs, some ys) := by
  induction xs with
  | nil => rw [List.nil_append, splitColumn, if_pos rfl]
  | cons c xs ih =>
    rw [List.mem_cons, not_or] at h
    rw [List.cons_append, splitColumn, if_neg (Ne.symm h.1), ih h.2]

theorem IsDigits.not_mem {n : Nat} (h : IsDigits cs n) : ':' ∉ cs :=
  fun hmem => absurd (h.2.1 _ hmem) (by decide)

/-- The numbers are read one by one. -/
theorem isNumbers_iff {c : Char} (hc : c.isDigit = true) :
    IsNumbers (c :: rest) line column ↔
      number .line (splitColumn (c :: rest)).1 = .ok line ∧
        (match (splitColumn (c :: rest)).2 with
          | none => Except.ok 1
          | some cs => number .column cs) = .ok column := by
  constructor
  · generalize htext : c :: rest = cs
    rintro (⟨hline, counted⟩ | ⟨hline, counted, hcolumn, counted'⟩)
    · subst htext
      rw [splitColumn_of_not_mem hline.not_mem]
      exact ⟨number_eq_ok.2 ⟨(isNumeral_cons hc).2 hline, counted⟩, rfl⟩
    · rw [splitColumn_append hline.not_mem]
      exact ⟨number_eq_ok.2 ⟨isNumeral_iff.2 ⟨_, .inl rfl, hline⟩, counted⟩,
        number_eq_ok.2 ⟨hcolumn, counted'⟩⟩
  · rintro ⟨hline, hcolumn⟩
    by_cases hcolon : ':' ∈ c :: rest
    · obtain ⟨digits, numeral, heq, hfirst⟩ := List.eq_append_cons_of_mem hcolon
      rw [heq, splitColumn_append hfirst] at hline hcolumn
      rw [number_eq_ok] at hline hcolumn
      cases digits with
      | nil =>
        cases heq
        exact absurd hc (by decide)
      | cons d digits =>
        cases heq
        exact .both ((isNumeral_cons hc).1 hline.1) hline.2 hcolumn.1 hcolumn.2
    · rw [splitColumn_of_not_mem hcolon] at hline hcolumn
      cases hcolumn
      rw [number_eq_ok, isNumeral_cons hc] at hline
      exact .line hline.1 hline.2

/-- No number begins with a minus sign. -/
theorem not_isNumbers_minus : ¬ IsNumbers ('-' :: rest) line column := by
  have first {cs : List Char} {n : Nat} (h : IsDigits ('-' :: cs) n) : False :=
    absurd (h.2.1 '-' List.mem_cons_self) (by decide)
  generalize htext : '-' :: rest = cs
  rintro (⟨hline, -⟩ | ⟨hline, -, -, -⟩)
  · subst htext
    exact first hline
  · rename_i digits _
    cases digits with
    | nil => exact hline.1 rfl
    | cons d digits => cases htext; exact first hline

/-- **A text is read as a location** exactly if it is the text of this location. -/
theorem parseChars_eq_ok {l : Location} : parseChars cs = .ok l ↔ IsText (Text.trim cs) l := by
  unfold parseChars
  generalize Text.trim cs = cs
  simp only
  split
  next hempty =>
    rw [List.isEmpty_iff] at hempty
    subst hempty
    refine ⟨nofun, ?_⟩
    rintro ⟨htext, -, -⟩
    simp at htext
  next hempty =>
    split
    next hnone =>
      refine ⟨nofun, ?_⟩
      rintro ⟨htext, hfirst, -⟩
      rw [splitFile?_eq_some.2 ⟨htext, hfirst⟩] at hnone
      cases hnone
    next hminus =>
      refine ⟨nofun, ?_⟩
      rintro ⟨htext, hfirst, hnumbers⟩
      rw [splitFile?_eq_some.2 ⟨htext, hfirst⟩] at hminus
      cases hminus
      exact absurd hnumbers not_isNumbers_minus
    next file rest hminus hsplit =>
      obtain ⟨rfl, hfirst⟩ := splitFile?_eq_some.1 hsplit
      obtain ⟨c, rest, rfl, hc⟩ := hfirst.begins
      have hdigit : c.isDigit = true := by
        simp only [beginsNumber, Bool.or_eq_true, decide_eq_true_eq] at hc
        exact hc.resolve_right fun heq => hminus rest (by rw [heq])
      constructor
      · intro h
        obtain ⟨line, hline, h⟩ := bind_eq_ok.1 h
        have hnumbers := (@isNumbers_iff rest line l.column c hdigit).2
        cases hcolumn : (splitColumn (c :: rest)).2 with
        | none =>
          simp only [hcolumn] at h hnumbers
          cases h
          exact .split rfl hfirst (hnumbers ⟨hline, rfl⟩)
        | some cs =>
          simp only [hcolumn] at h hnumbers
          obtain ⟨column, hread, h⟩ := bind_eq_ok.1 h
          cases h
          exact .split rfl hfirst (hnumbers ⟨hline, hread⟩)
      · generalize htext : file ++ ':' :: c :: rest = cs at hfirst
        rintro ⟨htext', hfirst', hnumbers⟩
        subst htext
        obtain ⟨rfl, hrest⟩ := Utf8.append_inj_of_length htext' (hfirst.unique hfirst')
        cases hrest
        obtain ⟨hline, hcolumn⟩ := (isNumbers_iff hdigit).1 hnumbers
        refine bind_eq_ok.2 ⟨_, hline, ?_⟩
        cases hread : (splitColumn (c :: rest)).2 with
        | none =>
          simp only [hread] at hcolumn ⊢
          cases hcolumn
          rfl
        | some cs =>
          simp only [hread] at hcolumn ⊢
          exact bind_eq_ok.2 ⟨_, hcolumn, rfl⟩

/-- **The grammar of locations.**  A text is read as a location exactly if, without the blanks around
it, it is the text of this location, and every other text is refused.  A scan over its bytes that
starts behind the drive and stops at the first mark cuts it between characters only, and there is a
byte behind the mark. -/
theorem location_is_read_by_grammar (s : String) :
    let text := Text.trim s.toList
    let bytes := Utf8.encode text
    (∀ l, parse s = .ok l ↔ IsText text l) ∧
      ((∃ e, parse s = .error e) ↔ ∀ l, ¬ IsText text l) ∧
      Utf8.IsBoundary text (driveLength bytes) ∧
      ∀ i, IsFirstMark bytes i →
        i + 1 < bytes.length ∧ Utf8.IsBoundary text i ∧ Utf8.IsBoundary text (i + 1) := by
  intro text bytes
  have read (l : Location) : parse s = .ok l ↔ IsText text l := parseChars_eq_ok
  refine ⟨read, ?_, ?_, fun i hfirst => ?_⟩
  · rw [exists_error_iff]
    exact forall_congr' fun l => not_congr (read l)
  · obtain ⟨drive, scanned, htext, hdrive, -⟩ := splitFile?_eq text
    exact ⟨drive, scanned, htext, hdrive⟩
  · obtain ⟨file, rest, htext, ⟨c, more, rfl, -⟩, rfl⟩ := isMark_iff.1 hfirst.mark
    obtain ⟨-, b, hnext, -⟩ := hfirst.mark
    refine ⟨(List.getElem?_eq_some_iff.1 hnext).1, ⟨file, _, htext, rfl⟩,
      ⟨file ++ [':'], c :: more, by rw [htext, List.append_assoc]; rfl, ?_⟩⟩
    rw [Utf8.length_encode_append]
    rfl

/-- A character of two bytes stands between a drive and the first mark. -/
theorem location_with_drive_is_read_by_grammar :
    let text := Text.trim " C:é:3:+5\n".toList
    IsFirstMark (Utf8.encode text) 4 ∧ parse " C:é:3:+5\n" = .ok ⟨"C:é", 3, 5⟩ ∧
      IsText text ⟨"C:é", 3, 5⟩ ∧ Utf8.IsBoundary text 4 ∧ Utf8.IsBoundary text 5 := by
  intro text
  obtain ⟨read, -, -, cut⟩ := location_is_read_by_grammar " C:é:3:+5\n"
  have hfirst : IsFirstMark (Utf8.encode text) 4 := by
    have hsplit : splitFile? text = some (['C', ':', 'é'], [ '3', ':', '+', '5']) := by decide
    exact (splitFile?_eq_some.1 hsplit).2
  have hread : parse " C:é:3:+5\n" = .ok ⟨"C:é", 3, 5⟩ := by rfl
  exact ⟨hfirst, hread, (read _).1 hread, (cut 4 hfirst).2⟩

/-! ## There and back -/

/-- A name that is taken for a drive when a colon follows it. -/
def IsDrive (file : String) : Prop := ∃ a, isDriveLetter a = true ∧ file.toList = [a]

theorem isDigits_toDigits (n : Nat) : IsDigits (Nat.toDigits 10 n) n :=
  ⟨Nat.toDigits_ne_nil, fun _ hc => Nat.isDigit_of_mem_toDigits (by omega) (by omega) hc,
    Nat.ofDigitChars_toDigits (by omega) (by omega)⟩

theorem IsDigits.begins {n : Nat} (h : IsDigits cs n) (more : List Char) : Begins (cs ++ more) := by
  obtain ⟨hne, hdigits, -⟩ := h
  cases cs with
  | nil => exact absurd rfl hne
  | cons c cs =>
    exact ⟨c, cs ++ more, rfl, by rw [beginsNumber, hdigits c List.mem_cons_self]; rfl⟩

theorem splitAtNumber?_of_not_mem (h : ':' ∉ cs) : splitAtNumber? cs = none := by
  induction cs with
  | nil => rfl
  | cons c cs ih =>
    rw [List.mem_cons, not_or] at h
    rw [splitAtNumber?, ih h.2, if_neg (by simp [Ne.symm h.1])]
    rfl

theorem splitAtNumber?_append (h : ':' ∉ file) (hbegins : Begins rest) :
    splitAtNumber? (file ++ ':' :: rest) = some (file, rest) := by
  induction file with
  | nil => rw [List.nil_append, splitAtNumber?, if_pos (by simpa [begins_iff] using hbegins)]
  | cons c file ih =>
    rw [List.mem_cons, not_or] at h
    rw [List.cons_append, splitAtNumber?, if_neg (by simp [Ne.symm h.1]), ih h.2]
    rfl

/-- A name without a colon ends at the colon behind it, unless it is taken for a drive. -/
theorem splitFile?_append (hne : file ≠ []) (hcolon : ':' ∉ file)
    (hdrive : ∀ a, file = [a] → isDriveLetter a = false) (hbegins : Begins rest) :
    splitFile? (file ++ ':' :: rest) = some (file, rest) := by
  rw [← splitAtNumber?_append hcolon hbegins]
  generalize htext : file ++ ':' :: rest = cs
  fun_cases splitFile? cs with
  | case1 a b c more hab =>
    simp only [Bool.and_eq_true, decide_eq_true_eq] at hab
    obtain ⟨ha, rfl⟩ := hab
    match file with
    | [] => exact absurd rfl hne
    | [_] => cases htext; rw [hdrive a rfl] at ha; cases ha
    | _ :: b :: _ =>
      simp only [List.cons_append, List.cons.injEq] at htext
      simp [htext.2.1] at hcolon
  | case2 => rfl
  | case3 => rfl

/-- A name that is taken for a drive does not end at the colon behind it. -/
theorem splitFile?_drive {a : Char} (ha : isDriveLetter a = true) (hne : rest ≠ []) :
    splitFile? (a :: ':' :: rest) =
      (splitAtNumber? rest).map fun (file, numbers) => (a :: ':' :: file, numbers) := by
  cases rest with
  | nil => exact absurd rfl hne
  | cons c rest => simp [splitFile?, ha]

/-- A text that begins with no blank and ends with digits has none around it. -/
theorem trim_digits {c : Char} {n : Nat} (hc : Text.isBlank c = false) (before : List Char) :
    Text.trim (c :: (before ++ Nat.toDigits 10 n)) = c :: (before ++ Nat.toDigits 10 n) := by
  obtain ⟨hne, hdigits, -⟩ := isDigits_toDigits n
  have hsplit := List.dropLast_concat_getLast hne
  have hlast := Text.isBlank_of_isDigit (hdigits _ (List.getLast_mem hne))
  have hends : c :: (before ++ Nat.toDigits 10 n) = (c :: (before ++ (Nat.toDigits 10 n).dropLast)) ++
      [(Nat.toDigits 10 n).getLast hne] := by
    rw [List.cons_append, List.append_assoc, hsplit]
  exact Text.trim_of_not_blank hc hlast hends

theorem toList_render (l : Location) :
    (render l).toList = l.file.toList ++ ':' :: (Nat.toDigits 10 l.line.toNat ++
      ':' :: Nat.toDigits 10 l.column.toNat) := by
  simp [render]

theorem toList_short (file : String) (n : Nat) :
    (file ++ ":" ++ toString n).toList = file.toList ++ ':' :: Nat.toDigits 10 n := by
  simp

theorem parse_of_split {s : String} (hsplit : splitFile? (Text.trim s.toList) = some (file, rest))
    (hnumbers : IsNumbers rest line column) : parse s = .ok ⟨String.ofList file, line, column⟩ := by
  obtain ⟨htext, hfirst⟩ := splitFile?_eq_some.1 hsplit
  exact parseChars_eq_ok.2 (.split htext hfirst hnumbers)

theorem parse_eq_noLine {s : String} (hsplit : splitFile? (Text.trim s.toList) = none)
    (hne : Text.trim s.toList ≠ []) : parse s = .error .noLine := by
  rw [parse, parseChars, if_neg (by simpa using hne), hsplit]

/-- **A location is read back from its text**, and without its column from the text of file and line,
if the name of the file has no colon, begins with no blank and is not taken for a drive.  The colon
behind a drive is taken into the name of the file, and then the column is read as the line. -/
theorem location_is_read_back {l : Location} (hne : l.file ≠ "") (hcolon : ':' ∉ l.file.toList)
    (hblank : ∀ c ∈ l.file.toList.head?, Text.isBlank c = false) (hline : 1 ≤ l.line.toNat)
    (hcolumn : 1 ≤ l.column.toNat) :
    let short := l.file ++ ":" ++ toString l.line.toNat
    (¬ IsDrive l.file → parse (render l) = .ok l ∧ parse short = .ok { l with column := 1 }) ∧
      (IsDrive l.file → parse (render l) = .ok ⟨short, l.column, 1⟩ ∧ parse short = .error .noLine) := by
  intro short
  obtain ⟨c, cs, hfile⟩ : ∃ c cs, l.file.toList = c :: cs :=
    List.exists_cons_of_ne_nil fun hnil => hne (String.toList_eq_nil_iff.1 hnil)
  have hc : Text.isBlank c = false := hblank c (by rw [hfile]; rfl)
  have htrim : Text.trim (render l).toList = l.file.toList ++ ':' :: (Nat.toDigits 10 l.line.toNat ++
      ':' :: Nat.toDigits 10 l.column.toNat) := by
    have := trim_digits hc (n := l.column.toNat) (cs ++ ':' :: (Nat.toDigits 10 l.line.toNat ++ [':']))
    rw [toList_render, hfile]
    simpa using this
  have htrim' : Text.trim short.toList = l.file.toList ++ ':' :: Nat.toDigits 10 l.line.toNat := by
    have := trim_digits hc (n := l.line.toNat) (cs ++ [':'])
    rw [toList_short, hfile]
    simpa using this
  have lines := isDigits_toDigits l.line.toNat
  have columns := isDigits_toDigits l.column.toNat
  have numeral : IsNumeral (Nat.toDigits 10 l.column.toNat) l.column.toNat :=
    isNumeral_iff.2 ⟨_, .inl rfl, columns⟩
  constructor
  · intro hdrive
    have split {rest : List Char} (hbegins : Begins rest) :
        splitFile? (l.file.toList ++ ':' :: rest) = some (l.file.toList, rest) := by
      have hne : l.file.toList ≠ [] := by rw [hfile]; exact List.cons_ne_nil _ _
      refine splitFile?_append hne hcolon (fun a ha => ?_) hbegins
      exact Bool.eq_false_iff.2 fun hletter => hdrive ⟨a, hletter, ha⟩
    have hread := parse_of_split (htrim ▸ split (lines.begins _)) (.both lines hline numeral hcolumn)
    have hshort := parse_of_split (htrim' ▸ split (by simpa using lines.begins []))
      (.line lines hline)
    rw [String.ofList_toList] at hread hshort
    exact ⟨hread, hshort⟩
  · rintro ⟨a, ha, hdrive⟩
    rw [hdrive] at htrim htrim'
    have hsplit : splitFile? (Text.trim (render l).toList) =
        some (a :: ':' :: Nat.toDigits 10 l.line.toNat, Nat.toDigits 10 l.column.toNat) := by
      rw [htrim, List.singleton_append, splitFile?_drive ha (by simp),
        splitAtNumber?_append lines.not_mem (by simpa using columns.begins [])]
      rfl
    have hread := parse_of_split hsplit (.line columns hcolumn)
    refine ⟨hread.trans ?_, parse_eq_noLine ?_ (by rw [htrim']; simp)⟩
    · have hname : short = String.ofList (a :: ':' :: Nat.toDigits 10 l.line.toNat) := by
        rw [← String.ofList_toList (s := short), toList_short, hdrive]
        rfl
      rw [hname]
    · rw [htrim', List.singleton_append, splitFile?_drive ha lines.1,
        splitAtNumber?_of_not_mem lines.not_mem]
      rfl

theorem greatest_line_is_read_back :
    parse "é:4294967295:1" = .ok ⟨"é", 4294967295, 1⟩ ∧
      parse "é:4294967295" = .ok ⟨"é", 4294967295, 1⟩ := by
  have hdrive : ¬ IsDrive "é" := by
    rintro ⟨a, ha, hfile⟩
    cases hfile
    exact absurd ha (by decide)
  have hblank : ∀ c ∈ "é".toList.head?, Text.isBlank c = false := by
    intro c hc
    cases hc
    decide
  exact (location_is_read_back (l := ⟨"é", 4294967295, 1⟩) (by decide) (by decide) hblank
    (by decide) (by decide)).1 hdrive

/-- A file whose name is one letter is taken for a drive. -/
theorem name_of_one_letter_is_not_read_back :
    ¬ ∀ l : Location, l.file ≠ "" → ':' ∉ l.file.toList →
      (∀ c ∈ l.file.toList.head?, Text.isBlank c = false) → 1 ≤ l.line.toNat → 1 ≤ l.column.toNat →
      parse (render l) = .ok l ∧
        parse (l.file ++ ":" ++ toString l.line.toNat) = .ok { l with column := 1 } := by
  intro h
  have hblank : ∀ c ∈ "a".toList.head?, Text.isBlank c = false := by
    intro c hc
    cases hc
    decide
  have hsame := (h ⟨"a", 10, 5⟩ (by decide) (by decide) hblank (by decide) (by decide)).1
  have hother : parse (render ⟨"a", 10, 5⟩) = .ok ⟨"a:10", 5, 1⟩ := by rfl
  rw [hother] at hsame
  exact absurd (Except.ok.inj hsame) (by decide)

end LanguageClient.Location
