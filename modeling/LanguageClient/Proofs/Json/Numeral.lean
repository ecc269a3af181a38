import LanguageClient.Json.Parser
import LanguageClient.Json.Printer
import LanguageClient.Proofs.Text.Decimal
import Mathlib.Data.List.Basic
import Mathlib.Data.List.TakeDrop
import Mathlib.Data.List.TakeWhile

/-!
# Numbers that are written are read

* `Ends` is what may stand behind a value: nothing, or a character of the array or object around it.
* `IsLocal` — what a reader reads is read in front of such a text as well; `isLocal_number` is the case
  of numbers.
* **`number?_int`** — an integer of 64 bits is read as it was written.

For floating point numbers there is no such theorem, as a numeral is not always read as the value
nearest to it.  `ReadsBack` is the property of those for which it holds.
-/

namespace LanguageClient.Json.Syntax

open Text (Reader)

/-- What may stand behind a value. -/
def Ends (rest : List Char) : Prop := ∀ c ∈ rest.head?, c = ',' ∨ c = ']' ∨ c = '\x7d'

theorem ends_nil : Ends [] := by simp [Ends]

theorem ends_cons {c : Char} (h : c = ',' ∨ c = ']' ∨ c = '\x7d') (rest : List Char) :
    Ends (c :: rest) := by
  simpa [Ends] using h

/-- No character that may stand behind a value can be mistaken for another. -/
theorem Ends.head_ne {c d : Char} {rest : List Char} (h : Ends (c :: rest))
    (hd : d ≠ ',' ∧ d ≠ ']' ∧ d ≠ '\x7d') : c ≠ d := by
  rintro rfl
  rcases h c (by simp) with h | h | h
  · exact hd.1 h
  · exact hd.2.1 h
  · exact hd.2.2 h

theorem Ends.not_isDigit {c : Char} {rest : List Char} (h : Ends (c :: rest)) :
    c.isDigit = false := by
  rcases h c (by simp) with rfl | rfl | rfl <;> decide

/-- What a reader reads does not depend on what stands behind it. -/
def IsLocal {α : Type} (read : Reader α) : Prop :=
  ∀ {cs r rest : List Char} {a : α}, Ends rest → read cs = some (a, r) →
    read (cs ++ rest) = some (a, r ++ rest)

theorem IsLocal.map {α β : Type} {read : Reader α} (h : IsLocal read) (f : α → β) :
    IsLocal fun cs => (read cs).map fun (a, r) => (f a, r) := by
  intro cs r rest b hends hread
  obtain ⟨⟨a, r'⟩, ha, he⟩ := Option.map_eq_some_iff.1 hread
  cases he
  simp only [h hends ha, Option.map_some]

/-! ## The parts of a numeral -/

theorem digits1?_eq_some {cs ds r : List Char} :
    digits1? cs = some (ds, r) ↔
      ds ≠ [] ∧ cs.takeWhile Char.isDigit = ds ∧ cs.dropWhile Char.isDigit = r := by
  rw [digits1?, Reader.run1?, List.span_eq_takeWhile_dropWhile]
  cases cs.takeWhile Char.isDigit with
  | nil => exact ⟨nofun, fun ⟨hne, he, _⟩ => absurd he.symm hne⟩
  | cons d ds' =>
    simp only [Option.some.injEq, Prod.mk.injEq]
    exact ⟨fun ⟨htake, hdrop⟩ => ⟨htake ▸ List.cons_ne_nil d ds', htake, hdrop⟩, And.right⟩

theorem isLocal_digits1 : IsLocal digits1? := by
  intro cs r rest ds hends h
  obtain ⟨hne, htake, hdrop⟩ := digits1?_eq_some.1 h
  have hrest : rest.takeWhile Char.isDigit = [] ∧ rest.dropWhile Char.isDigit = rest := by
    cases rest with
    | nil => exact ⟨rfl, rfl⟩
    | cons c rest => simp [hends.not_isDigit]
  have hcs : cs = ds ++ r := by rw [← htake, ← hdrop, List.takeWhile_append_dropWhile]
  refine digits1?_eq_some.2 ⟨hne, ?_, ?_⟩
  · rw [List.takeWhile_append, htake, hrest.1, List.append_nil]
    split
    next hlength =>
      have hr : r.length = 0 := by rw [hcs, List.length_append] at hlength; omega
      rw [hcs, List.length_eq_zero_iff.1 hr, List.append_nil]
    next => rfl
  · rw [List.dropWhile_append, hdrop, hrest.2]
    split
    next hempty => rw [List.isEmpty_iff.1 hempty, List.nil_append]
    next => rfl

theorem isLocal_whole : IsLocal whole? := by
  intro cs r rest ds hends h
  rw [whole?] at h ⊢
  cases hdigits : digits1? cs with
  | none => rw [hdigits] at h; cases h
  | some found =>
    obtain ⟨ds', r'⟩ := found
    rw [isLocal_digits1 hends hdigits]
    rw [hdigits] at h
    split at h
    next => cases h
    next hzero =>
      cases h
      split
      next he =>
        cases he
        exact absurd rfl (hzero _ _ _)
      next => rfl

theorem fraction?_of_ne {c : Char} (h : c ≠ '.') (cs : List Char) :
    fraction? (c :: cs) = some (none, c :: cs) := by
  simp [fraction?, h]

theorem exponentBody?_of_ne {c : Char} (hplus : c ≠ '+') (hminus : c ≠ '-') (cs : List Char) :
    exponentBody? (c :: cs) = (digits1? (c :: cs)).map fun (ds, r) => ((false, ds), r) := by
  simp [exponentBody?, hplus, hminus]

theorem exponent?_of_ne {c : Char} (hsmall : c ≠ 'e') (hgreat : c ≠ 'E') (cs : List Char) :
    exponent? (c :: cs) = some (none, c :: cs) := by
  simp [exponent?, hsmall, hgreat]

theorem number?_of_ne {c : Char} (h : c ≠ '-') (cs : List Char) :
    number? (c :: cs) = unsigned? false (c :: cs) := by
  simp [number?, h]

theorem isLocal_fraction : IsLocal fraction? := by
  intro cs r rest ds hends h
  cases cs with
  | nil =>
    cases h
    cases rest with
    | nil => rfl
    | cons c rest => exact fraction?_of_ne (hends.head_ne (by decide)) rest
  | cons c cs =>
    by_cases hpoint : c = '.'
    · subst hpoint
      exact isLocal_digits1.map some hends h
    · rw [fraction?_of_ne hpoint] at h
      cases h
      exact fraction?_of_ne hpoint _

theorem isLocal_exponentBody : IsLocal exponentBody? := by
  intro cs r rest ds hends h
  cases cs with
  | nil => cases h
  | cons c cs =>
    by_cases hplus : c = '+'
    · subst hplus
      exact isLocal_digits1.map (false, ·) hends h
    by_cases hminus : c = '-'
    · subst hminus
      exact isLocal_digits1.map (true, ·) hends h
    · rw [exponentBody?_of_ne hplus hminus] at h
      rw [List.cons_append, exponentBody?_of_ne hplus hminus]
      exact isLocal_digits1.map (false, ·) hends h

theorem isLocal_exponent : IsLocal exponent? := by
  intro cs r rest ds hends h
  cases cs with
  | nil =>
    cases h
    cases rest with
    | nil => rfl
    | cons c rest => exact exponent?_of_ne (hends.head_ne (by decide)) (hends.head_ne (by decide)) rest
  | cons c cs =>
    by_cases hsmall : c = 'e'
    · subst hsmall
      exact isLocal_exponentBody.map some hends h
    by_cases hgreat : c = 'E'
    · subst hgreat
      exact isLocal_exponentBody.map some hends h
    · rw [exponent?_of_ne hsmall hgreat] at h
      cases h
      exact exponent?_of_ne hsmall hgreat _

theorem isLocal_unsigned (negative : Bool) : IsLocal (unsigned? negative) := by
  intro cs r rest j hends h
  simp only [unsigned?, Option.bind_eq_bind, Option.bind_eq_some_iff, Option.pure_def,
    Option.some.injEq, Prod.mk.injEq, Prod.exists] at h ⊢
  obtain ⟨whole, r₁, hwhole, fraction, r₂, hfraction, exponent, r₃, hexponent, j, hvalue, rfl, rfl⟩ := h
  exact ⟨whole, r₁ ++ rest, isLocal_whole hends hwhole, fraction, r₂ ++ rest,
    isLocal_fraction hends hfraction, exponent, r₃ ++ rest, isLocal_exponent hends hexponent, j, hvalue,
    rfl, rfl⟩

/-- **A number does not depend on what stands behind it.** -/
theorem isLocal_number : IsLocal number? := by
  intro cs r rest j hends h
  cases cs with
  | nil => cases h
  | cons c cs =>
    by_cases hminus : c = '-'
    · subst hminus
      exact isLocal_unsigned true hends h
    · rw [number?_of_ne hminus] at h
      rw [List.cons_append, number?_of_ne hminus]
      exact isLocal_unsigned false hends h

/-- A number begins with a digit or a minus sign. -/
theorem head_of_number {cs r : List Char} {j : Json} (h : number? cs = some (j, r)) :
    ∃ c cs', cs = c :: cs' ∧ (c = '-' ∨ c.isDigit = true) := by
  cases cs with
  | nil => cases h
  | cons c cs =>
    refine ⟨c, cs, rfl, ?_⟩
    by_cases hminus : c = '-'
    · exact .inl hminus
    · by_contra hdigit
      rw [not_or, Bool.not_eq_true] at hdigit
      have hnone : digits1? (c :: cs) = none := by
        rw [digits1?, Reader.run1?, List.span_eq_takeWhile_dropWhile,
          List.takeWhile_cons_of_neg (by simp [hdigit.2])]
      rw [number?_of_ne hminus, unsigned?, whole?, hnone] at h
      cases h

/-! ## Integers -/

/-- Only zero has a zero in front. -/
theorem toDigits_head {n : Nat} (h : 0 < n) :
    ∃ d ds, Nat.toDigits 10 n = d :: ds ∧ d ≠ '0' := by
  induction n using Nat.strongRecOn with
  | ind n ih =>
    by_cases hn : n < 10
    · refine ⟨_, _, Nat.toDigits_of_lt_base hn, ?_⟩
      have all : ∀ d < 10, 0 < d → Nat.digitChar d ≠ '0' := by decide
      exact all n hn h
    · obtain ⟨d, ds, he, hd⟩ := ih (n / 10) (by omega) (by omega)
      exact ⟨d, ds ++ [Nat.digitChar (n % 10)], by
        rw [Nat.toDigits_of_base_le (by omega) (by omega), he, List.cons_append], hd⟩

theorem digitsValue_toDigits (n : Nat) : digitsValue (Nat.toDigits 10 n) = n := by
  have digits : ∀ c ∈ Nat.toDigits 10 n, (Text.digit? c).getD 0 = c.toNat - '0'.toNat := by
    intro c hc
    have hdigit := Nat.isDigit_of_mem_toDigits (by omega) (by omega) hc
    rw [Text.digit?, if_pos hdigit, Option.getD_some]
  have value := Nat.ofDigitChars_toDigits (b := 10) (n := n) (by omega) (by omega)
  rw [Nat.ofDigitChars] at value
  rw [digitsValue]
  refine Eq.trans (List.foldl_ext _ _ _ fun value c hc => ?_) value
  rw [digits c hc, Nat.mul_comm]

/-- The digits of a number are the integer part of a numeral. -/
theorem whole?_toDigits (n : Nat) : whole? (Nat.toDigits 10 n) = some (Nat.toDigits 10 n, []) := by
  have digits : ∀ c ∈ Nat.toDigits 10 n, c.isDigit = true :=
    fun c hc => Nat.isDigit_of_mem_toDigits (by omega) (by omega) hc
  have hread : digits1? (Nat.toDigits 10 n) = some (Nat.toDigits 10 n, []) :=
    digits1?_eq_some.2 ⟨Nat.toDigits_ne_nil, List.takeWhile_eq_self_iff.2 digits,
      List.dropWhile_eq_nil_iff.2 digits⟩
  rw [whole?, hread]
  split
  next c ds r he =>
    simp only [Option.some.injEq, Prod.mk.injEq] at he
    rcases Nat.eq_zero_or_pos n with rfl | hn
    · cases he.1
    · obtain ⟨d, ds', hd, hzero⟩ := toDigits_head hn
      rw [hd] at he
      cases he.1
      exact absurd rfl hzero
  next => rfl

theorem unsigned?_toDigits (negative : Bool) (n : Nat) :
    unsigned? negative (Nat.toDigits 10 n) =
      (Numeral.value? ⟨negative, Nat.toDigits 10 n, none, none⟩).map (·, []) := by
  simp only [unsigned?, whole?_toDigits, Option.bind_eq_bind, Option.bind_some, fraction?, exponent?,
    Option.pure_def]
  cases Numeral.value? _ <;> rfl

/-- **An integer of 64 bits is read as it was written.** -/
theorem number?_int {n : Int} (h : minInt ≤ n ∧ n ≤ maxInt) :
    number? (toString n).toList = some (.int n, []) := by
  cases n with
  | ofNat m =>
    have htext : (toString (Int.ofNat m)).toList = Nat.toDigits 10 m := by
      show m.repr.toList = _
      rw [Nat.repr_eq_ofList_toDigits, String.toList_ofList]
    have hm : m ≤ maxSignificand := by
      have hmax : (m : Int) ≤ maxInt := h.2
      simp only [maxInt, maxSignificand] at hmax ⊢
      omega
    obtain ⟨d, ds, hd, hminus⟩ : ∃ d ds, Nat.toDigits 10 m = d :: ds ∧ d ≠ '-' := by
      cases hm : Nat.toDigits 10 m with
      | nil => exact absurd hm Nat.toDigits_ne_nil
      | cons d ds =>
        refine ⟨d, ds, rfl, ?_⟩
        rintro rfl
        exact absurd (Nat.isDigit_of_mem_toDigits (n := m) (by omega) (by omega)
          (hm ▸ List.mem_cons_self)) (by decide)
    rw [htext, hd, number?_of_ne hminus, ← hd, unsigned?_toDigits]
    simp only [Numeral.value?, digitsValue_toDigits, Option.isNone_none, Bool.and_self, if_true,
      Bool.false_eq_true, if_false, if_pos hm, Option.map_some]
    rfl
  | negSucc m =>
    have htext : (toString (Int.negSucc m)).toList = '-' :: Nat.toDigits 10 (m + 1) := by
      show ("-" ++ (m + 1).repr).toList = _
      rw [String.toList_append, Nat.repr_eq_ofList_toDigits, String.toList_ofList,
        String.toList_ofList, List.singleton_append]
    have hm : m + 1 ≤ 0x8000000000000000 := by
      have hmin : minInt ≤ Int.negSucc m := h.1
      simp only [minInt] at hmin
      omega
    show number? (toString (Int.negSucc m)).toList = _
    rw [htext]
    show unsigned? true (Nat.toDigits 10 (m + 1)) = _
    rw [unsigned?_toDigits]
    simp only [Numeral.value?, digitsValue_toDigits, Option.isNone_none, Bool.and_self, if_true,
      Nat.zero_lt_succ, decide_true, hm, Option.map_some]
    rfl

/-- A floating point number whose numeral is read as this number. -/
def ReadsBack (x : Binary64) : Prop := number? (renderFloat x) = some (.float x, [])

end LanguageClient.Json.Syntax
