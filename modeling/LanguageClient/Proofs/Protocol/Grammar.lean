import LanguageClient.Proofs.Protocol.Framing
import Mathlib.Algebra.Group.Nat.Defs
import Mathlib.Data.List.Induction

/-!
# What a reader makes of any bytes

A server may send anything.  The whole stream alone decides what a read comes to and where it stops,
and the pieces in which the stream arrives count for nothing.

* `lines` are the lines of a stream, `Says` is what one of them means to the reader, and `Header` is a
  row of lines up to the first blank one.
* `Reads` says, without a piece or an order of events, what a read of these bytes comes to.
* `headerOf` and `frameOf` compute the same from the whole stream.  `readHeader_whole` and
  `readFrame_whole` say that an attempt on a part of the stream waits or comes to just that, and
  `reads_iff` that it is what `Reads` says.
* **`frame_is_read_by_grammar`** — a read of any stream comes to what `Reads` says of its bytes, and
  a header that gives no length, or one too great, is refused without asking for a piece of the body.
-/

namespace LanguageClient.Frame

open Chunks (lineFeed)

/-! ## Lines -/

/-- The lines of a stream, each with its line feed.  The last one may have none. -/
def lines : List UInt8 → List (List UInt8)
  | [] => []
  | b :: bs =>
    if b = lineFeed then [b] :: lines bs
    else
      match lines bs with
      | [] => [[b]]
      | line :: more => (b :: line) :: more

theorem flatten_lines (bs : List UInt8) : (lines bs).flatten = bs := by
  fun_induction lines bs with
  | case1 => rfl
  | case2 bs ih => simp [ih]
  | case3 b bs _ hnil ih => simpa [hnil] using ih
  | case4 b bs _ line more hcons ih => simpa [hcons] using ih

/-- A line ends at its line feed. -/
theorem lines_line {line : List UInt8} (h : lineFeed ∉ line) (rest : List UInt8) :
    lines (line ++ lineFeed :: rest) = (line ++ [lineFeed]) :: lines rest := by
  induction line with
  | nil => rw [List.nil_append, lines, if_pos rfl]; rfl
  | cons b line ih =>
    rw [List.mem_cons, not_or] at h
    rw [List.cons_append, lines, if_neg (Ne.symm h.1), ih h.2]
    rfl

/-- What has no line feed and is not empty is one line. -/
theorem lines_last {line : List UInt8} (h : lineFeed ∉ line) (hne : line ≠ []) :
    lines line = [line] := by
  induction line with
  | nil => exact absurd rfl hne
  | cons b line ih =>
    rw [List.mem_cons, not_or] at h
    rw [lines, if_neg (Ne.symm h.1)]
    cases line with
    | nil => rfl
    | cons b' line => rw [ih h.2 (by simp)]

/-- Behind its first lines a stream has the lines of what is behind them. -/
theorem lines_behind {bs : List UInt8} {front behind : List (List UInt8)}
    (h : lines bs = front ++ behind) : lines behind.flatten = behind := by
  induction front generalizing bs with
  | nil => rw [List.nil_append] at h; rw [← h, flatten_lines]
  | cons line front ih =>
    by_cases hfeed : lineFeed ∈ bs
    · obtain ⟨first, rest, rfl, hfirst⟩ := List.eq_append_cons_of_mem hfeed
      rw [lines_line hfirst, List.cons_append, List.cons.injEq] at h
      exact ih h.2
    · cases bs with
      | nil => cases h
      | cons b bs =>
        rw [lines_last hfeed (by simp), List.cons_append, List.cons.injEq] at h
        exact @ih [] (by rw [← h.2]; rfl)

/-! ## The grammar -/

/-- What a line of text means to the reader.  A line that means nothing, because it is no text or
gives a length that is none, is in no such relation. -/
inductive Says : List UInt8 → HeaderLine → Prop
  | blank {text : String} (h : Text.trim text.toList = []) : Says (Utf8.ofString text) .blank
  | length {text : String} {value : List Char} {n : Nat}
      (h : Text.trim text.toList = lengthHeader ++ value)
      (numeral : Text.IsNumeral (Text.trim value) n) (fits : n < 2 ^ 64) :
      Says (Utf8.ofString text) (.length n)
  | other {text : String} (h : Text.trim text.toList ≠ [])
      (noLength : ¬ lengthHeader <+: Text.trim text.toList) : Says (Utf8.ofString text) .other

/-- A line behind which the header goes on. -/
def Passes (line : List UInt8) : Prop := Says line .other ∨ ∃ n, Says line (.length n)

/-- A header in front of these bytes: lines up to the first blank one, and what is behind that. -/
structure Header (bytes : List UInt8) (front : List (List UInt8)) (blank rest : List UInt8) :
    Prop where
  lines_eq : lines bytes = front ++ blank :: lines rest
  passed : ∀ line ∈ front, Passes line
  ends : Says blank .blank

/-- The last length that some lines give. -/
def LastLength (front : List (List UInt8)) : Option Nat → Prop
  | none => ∀ line ∈ front, Says line .other
  | some n => ∃ before line after,
      front = before ++ line :: after ∧ Says line (.length n) ∧ ∀ other ∈ after, Says other .other

/-- What a read of a stream with these bytes comes to: the text of a body and the bytes behind it,
or the kind of the failure. -/
inductive Reads (bytes : List UInt8) : Except RaisedKind (String × List UInt8) → Prop
  /-- The first line that is not passed means nothing. -/
  | badLine {front more : List (List UInt8)} {line : List UInt8}
      (h : lines bytes = front ++ line :: more) (passed : ∀ line ∈ front, Passes line)
      (bad : ∀ sense, ¬ Says line sense) : Reads bytes (.error .invalidData)
  /-- The lines run out. -/
  | noBlank (passed : ∀ line ∈ lines bytes, Passes line) : Reads bytes (.error .unexpectedEnd)
  | noLength {front : List (List UInt8)} {blank rest : List UInt8} (h : Header bytes front blank rest)
      (length : LastLength front none) : Reads bytes (.error .invalidData)
  | tooLong {front : List (List UInt8)} {blank rest : List UInt8} {n : Nat}
      (h : Header bytes front blank rest) (length : LastLength front (some n)) (long : maxBytes < n) :
      Reads bytes (.error .invalidData)
  /-- The stream ends within the body. -/
  | short {front : List (List UInt8)} {blank rest : List UInt8} {n : Nat}
      (h : Header bytes front blank rest) (length : LastLength front (some n)) (fits : n ≤ maxBytes)
      (short : rest.length < n) : Reads bytes (.error .unexpectedEnd)
  | noText {front : List (List UInt8)} {blank body rest : List UInt8}
      (h : Header bytes front blank (body ++ rest)) (length : LastLength front (some body.length))
      (fits : body.length ≤ maxBytes) (noText : ∀ text, body ≠ Utf8.ofString text) :
      Reads bytes (.error .invalidData)
  | text {front : List (List UInt8)} {blank rest : List UInt8} {text : String}
      (h : Header bytes front blank (Utf8.ofString text ++ rest))
      (length : LastLength front (some (Utf8.ofString text).length))
      (fits : (Utf8.ofString text).length ≤ maxBytes) : Reads bytes (.ok (text, rest))

/-! ## What one line means -/

theorem isPrefixOf?_eq_some {xs ys zs : List Char} (h : xs.isPrefixOf? ys = some zs) :
    ys = xs ++ zs := by
  by_cases hp : xs <+: ys
  · obtain ⟨rest, rfl⟩ := hp
    rw [isPrefixOf?_append, Option.some.injEq] at h
    rw [h]
  · rw [isPrefixOf?_eq_none hp] at h
    cases h

theorem lengthHeader_append_ne_nil (value : List Char) : lengthHeader ++ value ≠ [] := by
  have hname : lengthHeader ≠ [] := by decide
  simp [hname]

/-- **A line means what the reader takes it for.** -/
theorem says_iff {line : List UInt8} {sense : HeaderLine} :
    Says line sense ↔ headerLine line = .ok sense := by
  constructor
  · rintro (⟨h⟩ | ⟨h, numeral, fits⟩ | ⟨h, noLength⟩)
    · simp only [headerLine, Utf8.decode_ofString, h, List.isEmpty_nil, if_true]
    · have hblank := lengthHeader_append_ne_nil
      have hfits : _ ≤ maxLength := Nat.le_sub_one_of_lt fits
      have hread := Text.readNat_eq_ok.2 ⟨numeral, hfits⟩
      simp only [headerLine, Utf8.decode_ofString, h, List.isEmpty_iff, if_neg (hblank _),
        isPrefixOf?_append, hread]
    · simp only [headerLine, Utf8.decode_ofString, List.isEmpty_iff, if_neg h,
        isPrefixOf?_eq_none noLength]
  · intro h
    rw [headerLine] at h
    split at h
    next => cases h
    next text hdecode =>
      rw [Utf8.decode_eq_ok.1 hdecode]
      simp only [List.isEmpty_iff] at h
      split at h
      next hblank => cases h; exact .blank hblank
      next hblank =>
        split at h
        next hnone =>
          cases h
          refine .other hblank ?_
          rintro ⟨value, hvalue⟩
          rw [← hvalue, isPrefixOf?_append] at hnone
          cases hnone
        next value hsome =>
          split at h
          next => cases h
          next n hread =>
            cases h
            obtain ⟨numeral, fits⟩ := Text.readNat_eq_ok.1 hread
            exact .length (isPrefixOf?_eq_some hsome) numeral (Nat.lt_of_le_pred (by decide) fits)

theorem headerLine_error {line : List UInt8} {e : IoError} (h : headerLine line = .error e) :
    ∃ message, e = .raised .invalidData message := by
  rw [headerLine] at h
  split at h
  next => cases h; exact ⟨_, rfl⟩
  next =>
    simp only at h
    split at h
    next => cases h
    next =>
      split at h
      next => cases h
      next => split at h <;> cases h; exact ⟨_, rfl⟩

/-! ## The whole stream at once -/

/-- The end of a header: the length of the body, if the lines gave one, and what is behind. -/
def endHeader (rest : List UInt8) : Option Nat → Except IoError (Nat × List UInt8)
  | none => .error missingLength
  | some n => .ok (n, rest)

/-- What the header comes to, where `length` is what earlier lines gave. -/
def headerOf (length : Option Nat) : List (List UInt8) → Except IoError (Nat × List UInt8)
  | [] => .error closed
  | line :: more =>
    match headerLine line with
    | .error e => .error e
    | .ok .blank => endHeader more.flatten length
    | .ok (.length n) => headerOf (some n) more
    | .ok .other => headerOf length more

/-- What a read comes to. -/
def frameOf (bytes : List UInt8) : Except IoError (Except Utf8.Flaw String × List UInt8) :=
  match headerOf none (lines bytes) with
  | .error e => .error e
  | .ok (n, rest) =>
    if n > maxBytes then .error (tooLong n)
    else if rest.length < n then .error cutShort
    else .ok (Utf8.decode (rest.take n), rest.drop n)

/-- What an attempt comes to if these bytes are still to come behind what has been received. -/
def whole? {α : Type} (coming : List UInt8) :
    ReadResult α → Option (Except IoError (α × List UInt8))
  | .done value rest => some (.ok (value, rest.flatten ++ coming))
  | .blocked => none
  | .failed e => some (.error e)

theorem lines_of_takeLine? {cs rest : Chunks} {line : List UInt8}
    (h : cs.takeLine? = some (line, rest)) (coming : List UInt8) :
    lines (cs.flatten ++ coming) = line :: lines (rest.flatten ++ coming) := by
  by_cases hfeed : lineFeed ∈ cs.flatten
  · obtain ⟨first, behind, hflat, hfirst⟩ := List.eq_append_cons_of_mem hfeed
    obtain ⟨cs', htake, hrest⟩ := Chunks.takeLine?_eq_some hfirst hflat
    rw [h, Option.some.injEq, Prod.mk.injEq] at htake
    obtain ⟨rfl, rfl⟩ := htake
    rw [hflat, hrest, List.append_assoc, List.cons_append, lines_line hfirst]
  · rw [Chunks.takeLine?_eq_none hfeed] at h
    cases h

theorem not_mem_of_takeLine? {cs : Chunks} (h : cs.takeLine? = none) : lineFeed ∉ cs.flatten := by
  intro hfeed
  obtain ⟨first, behind, hflat, hfirst⟩ := List.eq_append_cons_of_mem hfeed
  obtain ⟨cs', htake, -⟩ := Chunks.takeLine?_eq_some hfirst hflat
  rw [h] at htake
  cases htake

/-- **An attempt to read a header** waits, or it comes to what the whole stream says. -/
theorem readHeader_whole {ended : Bool} {length : Option Nat} {cs : Chunks} {coming : List UInt8}
    (hcoming : ended = true → coming = []) (h : readHeader ended length cs ≠ .blocked) :
    whole? coming (readHeader ended length cs) =
      some (headerOf length (lines (cs.flatten ++ coming))) := by
  fun_induction readHeader ended length cs with
  | case1 length cs line rest htake e hline =>
    rw [lines_of_takeLine? htake, headerOf, hline]
    rfl
  | case2 cs line rest htake hline =>
    rw [lines_of_takeLine? htake, headerOf, hline]
    rfl
  | case3 cs line rest htake hline n =>
    rw [lines_of_takeLine? htake, headerOf, hline, flatten_lines]
    rfl
  | case4 length cs line rest htake n hline ih =>
    rw [lines_of_takeLine? htake, headerOf, hline]
    exact ih h
  | case5 length cs line rest htake hline ih =>
    rw [lines_of_takeLine? htake, headerOf, hline]
    exact ih h
  | case6 length cs htake hended hempty =>
    rw [hcoming hended, List.isEmpty_iff.1 hempty]
    rfl
  | case7 length cs htake hended hempty e hline =>
    rw [hcoming hended, List.append_nil,
      lines_last (not_mem_of_takeLine? htake) (by simpa using hempty), headerOf, hline]
    rfl
  | case8 cs htake hended hempty hline =>
    rw [hcoming hended, List.append_nil,
      lines_last (not_mem_of_takeLine? htake) (by simpa using hempty), headerOf, hline]
    rfl
  | case9 cs htake hended hempty hline n =>
    rw [hcoming hended, List.append_nil,
      lines_last (not_mem_of_takeLine? htake) (by simpa using hempty), headerOf, hline]
    rfl
  | case10 length cs htake hended hempty sense hblank hline =>
    rw [hcoming hended, List.append_nil,
      lines_last (not_mem_of_takeLine? htake) (by simpa using hempty), headerOf, hline]
    cases sense with
    | blank => exact (hblank rfl).elim
    | length n => rfl
    | other => rfl
  | case11 length cs htake hended => exact absurd rfl h

/-- **An attempt to read a frame** waits, or it comes to what the whole stream says. -/
theorem readFrame_whole {ended : Bool} {cs : Chunks} {coming : List UInt8}
    (hcoming : ended = true → coming = []) (h : readFrame ended cs ≠ .blocked) :
    whole? coming (readFrame ended cs) = some (frameOf (cs.flatten ++ coming)) := by
  have hheader : readHeader ended none cs ≠ .blocked := fun hblocked => h (by rw [readFrame, hblocked])
  have hwhole := readHeader_whole hcoming hheader
  rw [readFrame] at h ⊢
  cases hread : readHeader ended none cs with
  | blocked => exact absurd hread hheader
  | failed e =>
    rw [hread] at hwhole
    rw [frameOf, ← Option.some.inj hwhole]
    rfl
  | done n rest =>
    rw [hread] at hwhole h
    rw [frameOf, ← Option.some.inj hwhole]
    simp only at h ⊢
    split
    next => rfl
    next hfits =>
      rw [if_neg hfits] at h
      by_cases hshort : rest.flatten.length < n
      · rw [Chunks.takeExact?_eq_none hshort] at h ⊢
        have hended : ended = true := by
          cases ended with
          | true => rfl
          | false => exact absurd rfl h
        simp only [if_pos hended, hcoming hended, List.append_nil, if_pos hshort]
        rfl
      · have hsplit : rest.flatten = rest.flatten.take n ++ rest.flatten.drop n :=
          (List.take_append_drop n _).symm
        have hlength : (rest.flatten.take n).length = n := List.length_take_of_le (by omega)
        obtain ⟨cs', htake, hrest⟩ := Chunks.takeExact?_eq_some hsplit
        rw [hlength] at htake
        have hlong : ¬ (rest.flatten ++ coming).length < n := by
          rw [List.length_append]
          omega
        rw [htake, if_neg hlong, List.take_append_of_le_length (by omega),
          List.drop_append_of_le_length (by omega), ← hrest]
        rfl

/-! ## The grammar and the whole stream -/

theorem headerOf_passed {front : List (List UInt8)} (h : ∀ line ∈ front, Passes line)
    (length : Option Nat) (behind : List (List UInt8)) :
    ∃ length', headerOf length (front ++ behind) = headerOf length' behind := by
  induction front generalizing length with
  | nil => exact ⟨length, rfl⟩
  | cons line front ih =>
    rw [List.forall_mem_cons] at h
    rw [List.cons_append, headerOf]
    obtain hother | ⟨n, hlength⟩ := h.1
    · rw [says_iff.1 hother]
      exact ih h.2 length
    · rw [says_iff.1 hlength]
      exact ih h.2 (some n)

theorem headerOf_others {length : Option Nat} {front : List (List UInt8)}
    (h : ∀ line ∈ front, Says line .other) (behind : List (List UInt8)) :
    headerOf length (front ++ behind) = headerOf length behind := by
  induction front with
  | nil => rfl
  | cons line front ih =>
    rw [List.forall_mem_cons] at h
    rw [List.cons_append, headerOf, says_iff.1 h.1]
    exact ih h.2

/-- What counts of the lines in front is the last length that they give. -/
theorem headerOf_lastLength {length : Option Nat} {front : List (List UInt8)}
    (h : ∀ line ∈ front, Passes line) (hlast : LastLength front length)
    (behind : List (List UInt8)) : headerOf none (front ++ behind) = headerOf length behind := by
  cases length with
  | none => exact headerOf_others hlast behind
  | some n =>
    obtain ⟨before, line, after, rfl, hline, hafter⟩ := hlast
    have hbefore : ∀ line ∈ before, Passes line := fun l hl => h l (List.mem_append_left _ hl)
    obtain ⟨length', hpassed⟩ := headerOf_passed hbefore none (line :: after ++ behind)
    rw [List.append_assoc, hpassed, List.cons_append, headerOf, says_iff.1 hline]
    exact headerOf_others hafter behind

theorem exists_lastLength {front : List (List UInt8)} (h : ∀ line ∈ front, Passes line) :
    ∃ length, LastLength front length := by
  induction front using List.reverseRecOn with
  | nil => exact ⟨none, by simp [LastLength]⟩
  | append_singleton front line ih =>
    obtain hother | ⟨n, hlength⟩ := h line (by simp)
    · obtain ⟨length, hlast⟩ := ih fun l hl => h l (List.mem_append_left _ hl)
      refine ⟨length, ?_⟩
      cases length with
      | none => exact List.forall_mem_append.2 ⟨hlast, by simpa using hother⟩
      | some n =>
        obtain ⟨before, line', after, rfl, hline, hafter⟩ := hlast
        refine ⟨before, line', after ++ [line], by simp, hline, ?_⟩
        exact List.forall_mem_append.2 ⟨hafter, by simpa using hother⟩
    · exact ⟨some n, front, line, [], rfl, hlength, by simp⟩

namespace Header

variable {bytes blank rest : List UInt8} {front : List (List UInt8)} {length : Option Nat}

theorem headerOf_eq (h : Header bytes front blank rest) (hlast : LastLength front length) :
    headerOf none (lines bytes) = endHeader rest length := by
  rw [h.lines_eq, headerOf_lastLength h.passed hlast, headerOf, says_iff.1 h.ends]
  simp only [flatten_lines]

theorem frameOf_eq {n : Nat} (h : Header bytes front blank rest) (hlast : LastLength front (some n)) :
    frameOf bytes =
      if n > maxBytes then .error (tooLong n)
      else if rest.length < n then .error cutShort
      else .ok (Utf8.decode (rest.take n), rest.drop n) := by
  rw [frameOf, h.headerOf_eq hlast]
  rfl

end Header

/-- Either all lines are passed, or there is a first one that is not. -/
theorem passed_or_first (ls : List (List UInt8)) :
    (∀ line ∈ ls, Passes line) ∨
      ∃ front line behind, ls = front ++ line :: behind ∧ (∀ line ∈ front, Passes line) ∧
        (Says line .blank ∨ ∀ sense, ¬ Says line sense) := by
  induction ls with
  | nil => exact .inl (by simp)
  | cons line ls ih =>
    by_cases hline : Passes line
    · obtain hall | ⟨front, first, behind, rfl, hfront, hfirst⟩ := ih
      · exact .inl (List.forall_mem_cons.2 ⟨hline, hall⟩)
      · exact .inr ⟨line :: front, first, behind, rfl, List.forall_mem_cons.2 ⟨hline, hfront⟩, hfirst⟩
    · refine .inr ⟨[], line, ls, rfl, by simp, ?_⟩
      by_cases hblank : Says line .blank
      · exact .inl hblank
      · refine .inr fun sense hsense => ?_
        cases sense with
        | blank => exact hblank hsense
        | length n => exact hline (.inr ⟨n, hsense⟩)
        | other => exact hline (.inl hsense)

/-- What is reported of a frame: its text and the bytes behind it, or why there is none. -/
def reported : Except IoError (Except Utf8.Flaw String × List UInt8) →
    Except IoError (String × List UInt8)
  | .ok (.ok text, rest) => .ok (text, rest)
  | .ok (.error flaw, _) => .error (noText flaw)
  | .error e => .error e

/-- The same with no more than the kind of a failure that the client raises. -/
def kind? {α : Type} : Except IoError α → Option (Except RaisedKind α)
  | .ok a => some (.ok a)
  | .error (.raised kind _) => some (.error kind)
  | .error (.system _) => none

/-- Every stream is read in some way. -/
theorem exists_reads (bytes : List UInt8) : ∃ outcome, Reads bytes outcome := by
  obtain hall | ⟨front, line, behind, hlines, hfront, hblank | hbad⟩ := passed_or_first (lines bytes)
  · exact ⟨_, .noBlank hall⟩
  · -- There is a header, and what counts is the length that it gives.
    have hheader : Header bytes front line behind.flatten := by
      refine ⟨?_, hfront, hblank⟩
      have hbehind : lines bytes = (front ++ [line]) ++ behind := by simpa using hlines
      rw [lines_behind hbehind]
      exact hlines
    obtain ⟨length, hlast⟩ := exists_lastLength hfront
    cases length with
    | none => exact ⟨_, .noLength hheader hlast⟩
    | some n =>
      by_cases hlong : maxBytes < n
      · exact ⟨_, .tooLong hheader hlast hlong⟩
      by_cases hshort : behind.flatten.length < n
      · exact ⟨_, .short hheader hlast (Nat.not_lt.1 hlong) hshort⟩
      generalize behind.flatten = rest at hheader hshort
      obtain ⟨body, rest, rfl, rfl⟩ : ∃ body rest', rest = body ++ rest' ∧ n = body.length :=
        ⟨rest.take n, rest.drop n, by simp, by rw [List.length_take]; omega⟩
      by_cases htext : ∃ text, body = Utf8.ofString text
      · obtain ⟨text, rfl⟩ := htext
        exact ⟨_, .text hheader hlast (Nat.not_lt.1 hlong)⟩
      · exact ⟨_, .noText hheader hlast (Nat.not_lt.1 hlong) fun text he => htext ⟨text, he⟩⟩
  · exact ⟨_, .badLine hlines hfront hbad⟩

/-- A stream is read in no other way than the whole of it says. -/
theorem kind?_of_reads {bytes : List UInt8} {outcome : Except RaisedKind (String × List UInt8)}
    (h : Reads bytes outcome) : kind? (reported (frameOf bytes)) = some outcome := by
  cases h with
  | @badLine front more line hlines hfront hbad =>
    obtain ⟨length, hpassed⟩ := headerOf_passed hfront none (line :: more)
    cases hline : headerLine line with
    | ok sense => exact absurd (says_iff.2 hline) (hbad sense)
    | error e =>
      obtain ⟨message, rfl⟩ := headerLine_error hline
      rw [frameOf, hlines, hpassed, headerOf, hline]
      rfl
  | noBlank hall =>
    obtain ⟨length, hpassed⟩ := headerOf_passed hall none []
    rw [List.append_nil] at hpassed
    rw [frameOf, hpassed]
    rfl
  | noLength hheader hlast =>
    rw [frameOf, hheader.headerOf_eq hlast]
    rfl
  | tooLong hheader hlast hlong =>
    rw [hheader.frameOf_eq hlast, if_pos hlong]
    rfl
  | short hheader hlast hfits hshort =>
    rw [hheader.frameOf_eq hlast, if_neg (Nat.not_lt.2 hfits), if_pos hshort]
    rfl
  | @noText front blank body rest hheader hlast hfits htext =>
    rw [hheader.frameOf_eq hlast, if_neg (Nat.not_lt.2 hfits), if_neg (by simp), List.take_left]
    cases hdecode : Utf8.decode body with
    | error flaw => rfl
    | ok text => exact absurd (Utf8.decode_eq_ok.1 hdecode) (htext text)
  | text hheader hlast hfits =>
    rw [hheader.frameOf_eq hlast, if_neg (Nat.not_lt.2 hfits), if_neg (by simp), List.take_left,
      List.drop_left, Utf8.decode_ofString]
    rfl

/-- **The grammar says what is computed from the whole stream.** -/
theorem reads_iff {bytes : List UInt8} {outcome : Except RaisedKind (String × List UInt8)} :
    kind? (reported (frameOf bytes)) = some outcome ↔ Reads bytes outcome := by
  refine ⟨fun h => ?_, kind?_of_reads⟩
  obtain ⟨outcome', hreads⟩ := exists_reads bytes
  obtain rfl : outcome' = outcome := Option.some.inj ((kind?_of_reads hreads).symm.trans h)
  exact hreads

/-! ## Streams -/

/-- Reads a frame with what has been received, and with one more piece as long as that is not
enough. -/
def frameFrom (received : Chunks) :
    (coming : Chunks) → ReadResult (Except Utf8.Flaw String) × Chunks
  | [] => (readFrame true received, [])
  | c :: coming =>
    match readFrame false received with
    | .blocked => frameFrom (received ++ [c]) coming
    | result => (result, c :: coming)

theorem readFrame_of_ended (cs : Chunks) : readFrame true cs ≠ .blocked := by
  intro h
  refine readMessage_of_ended cs ?_
  rw [readMessage, h]

theorem frameFrom_whole (received coming : Chunks) :
    whole? (frameFrom received coming).2.flatten (frameFrom received coming).1 =
      some (frameOf (received.flatten ++ coming.flatten)) := by
  induction coming generalizing received with
  | nil => exact readFrame_whole (fun _ => rfl) (readFrame_of_ended received)
  | cons c coming ih =>
    rw [frameFrom]
    split
    next =>
      rw [ih, List.flatten_append, List.flatten_singleton, List.flatten_cons, List.append_assoc]
    next hready => exact readFrame_whole nofun hready

/-- Behind a line that is not blank the same blank line comes. -/
theorem lines_of_not_blank {cs rest : Chunks} {line blank : List UInt8}
    {front behind : List (List UInt8)} (htake : cs.takeLine? = some (line, rest))
    (hline : ¬ Says line .blank) (hlines : lines cs.flatten = front ++ blank :: behind)
    (hblank : Says blank .blank) : ∃ front', lines rest.flatten = front' ++ blank :: behind := by
  have htaken := lines_of_takeLine? htake []
  rw [List.append_nil, List.append_nil, hlines] at htaken
  cases front with
  | nil =>
    rw [List.nil_append, List.cons.injEq] at htaken
    exact absurd (htaken.1 ▸ hblank) hline
  | cons line' front =>
    rw [List.cons_append, List.cons.injEq] at htaken
    exact ⟨front, htaken.2.symm⟩

/-- A header whose blank line is complete is not waited for. -/
theorem readHeader_of_header {ended : Bool} {length : Option Nat} {cs : Chunks}
    {front behind : List (List UInt8)} {blank : List UInt8}
    (hlines : lines cs.flatten = front ++ blank :: behind) (hblank : Says blank .blank)
    (hfeed : lineFeed ∈ blank) : readHeader ended length cs ≠ .blocked := by
  intro h
  fun_induction readHeader ended length cs generalizing front with
  | case4 length cs line rest htake n hline ih =>
    have hother : ¬ Says line .blank := by simp [says_iff, hline]
    obtain ⟨front', hrest⟩ := lines_of_not_blank htake hother hlines hblank
    exact ih hrest h
  | case5 length cs line rest htake hline ih =>
    have hother : ¬ Says line .blank := by simp [says_iff, hline]
    obtain ⟨front', hrest⟩ := lines_of_not_blank htake hother hlines hblank
    exact ih hrest h
  | case11 length cs htake hended =>
    have hflat := congrArg List.flatten hlines
    rw [flatten_lines, List.flatten_append, List.flatten_cons] at hflat
    exact not_mem_of_takeLine? htake (hflat ▸ by simp [hfeed])
  | _ => cases h

/-- **A header that gives no length, or one too great, is refused** as soon as it is there. -/
theorem readFrame_of_refused (ended : Bool) {cs : Chunks} {front : List (List UInt8)}
    {blank rest : List UInt8} (h : Header cs.flatten front blank rest) (hfeed : lineFeed ∈ blank)
    (hlast : LastLength front none ∨ ∃ n, LastLength front (some n) ∧ maxBytes < n) :
    ∃ message, readFrame ended cs = .failed (.raised .invalidData message) := by
  have hready : readHeader ended none cs ≠ .blocked := readHeader_of_header h.lines_eq h.ends hfeed
  have hwhole := readHeader_whole (fun _ => (rfl : ([] : List UInt8) = [])) hready
  rw [List.append_nil] at hwhole
  obtain hnone | ⟨n, hsome, hlong⟩ := hlast
  · rw [h.headerOf_eq hnone] at hwhole
    cases hread : readHeader ended none cs with
    | blocked => exact absurd hread hready
    | failed e =>
      rw [hread] at hwhole
      cases hwhole
      exact ⟨_, by rw [readFrame, hread]; rfl⟩
    | done m rest' => rw [hread] at hwhole; cases hwhole
  · rw [h.headerOf_eq hsome] at hwhole
    cases hread : readHeader ended none cs with
    | blocked => exact absurd hread hready
    | failed e => rw [hread] at hwhole; cases hwhole
    | done m rest' =>
      rw [hread] at hwhole
      cases hwhole
      exact ⟨_, by rw [readFrame, hread]; exact if_pos hlong⟩

namespace Stream

/-- One read of a frame: what it comes to, and the pieces that it has not asked for. -/
def readFrame (s : Stream) : ReadResult (Except Utf8.Flaw String) × Chunks :=
  frameFrom s.received s.coming

/-- What a read of a frame reports, unless it waits for ever: the text of the body with the bytes
that are still to be read behind it, or the failure. -/
def frame? (s : Stream) : Option (Except IoError (String × List UInt8)) :=
  (whole? s.readFrame.2.flatten s.readFrame.1).map reported

/-- The same with the kinds of the failures. -/
def outcome? (s : Stream) : Option (Except RaisedKind (String × List UInt8)) :=
  s.frame?.bind kind?

theorem frame?_eq (s : Stream) : s.frame? = some (reported (frameOf s.bytes)) := by
  rw [frame?, readFrame, frameFrom_whole]
  rfl

theorem outcome?_iff {s : Stream} {outcome : Except RaisedKind (String × List UInt8)} :
    s.outcome? = some outcome ↔ Reads s.bytes outcome := by
  rw [outcome?, frame?_eq, Option.bind_some]
  exact reads_iff

end Stream

/-- **A read of any stream comes to what the grammar says of its bytes.**  It comes to something,
whatever the bytes are; this is a text with the bytes behind its body, or a failure of some kind,
just as `Reads` says; the pieces count for nothing, down to the message of the failure.  And where
the header has come and gives no length, or one too great, the read fails without asking for a piece
more. -/
theorem frame_is_read_by_grammar (s : Stream) :
    (∃ outcome, s.outcome? = some outcome) ∧
    (∀ outcome, s.outcome? = some outcome ↔ Reads s.bytes outcome) ∧
    (∀ s' : Stream, s'.bytes = s.bytes → s'.frame? = s.frame?) ∧
    ∀ front blank rest, Header s.received.flatten front blank rest → lineFeed ∈ blank →
      (LastLength front none ∨ ∃ n, LastLength front (some n) ∧ maxBytes < n) →
      ∃ message, s.readFrame = (.failed (.raised .invalidData message), s.coming) := by
  refine ⟨?_, fun outcome => Stream.outcome?_iff, fun s' hs' => ?_, ?_⟩
  · obtain ⟨outcome, hreads⟩ := exists_reads s.bytes
    exact ⟨outcome, Stream.outcome?_iff.2 hreads⟩
  · rw [Stream.frame?_eq, Stream.frame?_eq, hs']
  · intro front blank rest hheader hfeed hlast
    rw [Stream.readFrame]
    cases s.coming with
    | nil =>
      obtain ⟨message, hread⟩ := readFrame_of_refused true hheader hfeed hlast
      exact ⟨message, by rw [frameFrom, hread]⟩
    | cons c coming =>
      obtain ⟨message, hread⟩ := readFrame_of_refused false hheader hfeed hlast
      exact ⟨message, by rw [frameFrom, hread]⟩

/-- A header that announces one byte more than is accepted, and the first byte of the body to come. -/
def greatStream : Stream where
  received := [Utf8.ofString "Content-Length: 67108865\r\n\r\n"]
  coming := [[0x7B]]

/-- The great body is refused and not asked for. -/
theorem great_body_is_refused :
    ∃ message, greatStream.readFrame = (.failed (.raised .invalidData message), greatStream.coming) := by
  have hlength : Says (Utf8.ofString "Content-Length: 67108865\r\n") (.length 67108865) :=
    @Says.length _ " 67108865".toList _ (by decide)
      ⟨"67108865".toList, .inl (by decide), by decide, List.all_eq_true.1 (by decide), by decide⟩
      (by decide)
  have hblank : Says (Utf8.ofString "\r\n") .blank := .blank (by decide)
  have hheader : Header greatStream.received.flatten
      [Utf8.ofString "Content-Length: 67108865\r\n"] (Utf8.ofString "\r\n") [] :=
    ⟨by decide, by simpa using .inr ⟨_, hlength⟩, hblank⟩
  have hlast : LastLength [Utf8.ofString "Content-Length: 67108865\r\n"] (some 67108865) :=
    ⟨[], _, [], rfl, hlength, by simp⟩
  exact (frame_is_read_by_grammar greatStream).2.2.2 _ _ _ hheader (by decide)
    (.inr ⟨_, hlast, by decide⟩)

end LanguageClient.Frame
