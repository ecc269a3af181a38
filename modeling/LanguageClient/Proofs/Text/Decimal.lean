import LanguageClient.Text.Decimal

/-!
# Numerals that were written by us

* **`readNat_toDigits`** — the decimal digits of a number are read as that number, if it is within
  the limit.
* `readNat_eq_ok` — what is read at all is an `IsNumeral`: digits, behind one plus sign at most.
-/

namespace LanguageClient.Text

theorem appendDigits_append (limit value : Nat) (xs ys : List Char) :
    appendDigits limit value (xs ++ ys) =
      (appendDigits limit value xs).bind fun value => appendDigits limit value ys := by
  induction xs generalizing value with
  | nil => rfl
  | cons x xs ih =>
    rw [List.cons_append, appendDigits, appendDigits]
    split
    next => rfl
    next d _ =>
      split
      next => exact ih _
      next => rfl

theorem digit?_digitChar {d : Nat} (h : d < 10) : digit? (Nat.digitChar d) = some d := by
  have all : ∀ d < 10, digit? (Nat.digitChar d) = some d := by decide
  exact all d h

/-- The digits of a number add up to it. -/
theorem appendDigits_toDigits {limit n : Nat} (h : n ≤ limit) :
    appendDigits limit 0 (Nat.toDigits 10 n) = .ok n := by
  induction n using Nat.strongRecOn with
  | ind n ih =>
    by_cases hn : n < 10
    · rw [Nat.toDigits_of_lt_base hn, appendDigits, digit?_digitChar hn]
      simp [appendDigits, h]
    · have last := digit?_digitChar (d := n % 10) (by omega)
      have value : n / 10 * 10 + n % 10 = n := by omega
      rw [Nat.toDigits_of_base_le (by omega) (by omega), appendDigits_append,
        ih (n / 10) (by omega) (by omega)]
      show appendDigits limit (n / 10) _ = _
      rw [appendDigits, last]
      simp [appendDigits, value, h]

/-- **The digits of a number are read as that number.** -/
theorem readNat_toDigits {limit n : Nat} (h : n ≤ limit) :
    readNat limit (Nat.toDigits 10 n) = .ok n := by
  have digits (c : Char) (hc : c ∈ Nat.toDigits 10 n) : c.isDigit = true :=
    Nat.isDigit_of_mem_toDigits (by omega) (by omega) hc
  have value := appendDigits_toDigits h
  cases hd : Nat.toDigits 10 n with
  | nil => exact absurd hd Nat.toDigits_ne_nil
  | cons c cs =>
    rw [hd] at digits value
    have hplus : c ≠ '+' := by
      rintro rfl
      exact absurd (digits '+' List.mem_cons_self) (by decide)
    unfold readNat
    split
    next he => cases he
    next he => cases he; exact absurd rfl hplus
    next he => cases he; exact absurd rfl hplus
    next => exact value

/-! ## What is read as a numeral -/

/-- At least one decimal digit, and perhaps a plus sign in front, with this value. -/
def IsNumeral (cs : List Char) (n : Nat) : Prop :=
  ∃ digits, (cs = digits ∨ cs = '+' :: digits) ∧ digits ≠ [] ∧ (∀ c ∈ digits, c.isDigit = true) ∧
    Nat.ofDigitChars 10 digits 0 = n

theorem le_ofDigitChars (cs : List Char) (value : Nat) : value ≤ Nat.ofDigitChars 10 cs value := by
  induction cs generalizing value with
  | nil => exact Nat.le_refl _
  | cons c cs ih =>
    rw [Nat.ofDigitChars_cons]
    exact Nat.le_trans (by omega) (ih _)

/-- Digits are appended one after another, and the limit is kept if the whole keeps it. -/
theorem appendDigits_eq_ok {limit value n : Nat} {cs : List Char} (h : value ≤ limit) :
    appendDigits limit value cs = .ok n ↔
      (∀ c ∈ cs, c.isDigit = true) ∧ Nat.ofDigitChars 10 cs value = n ∧ n ≤ limit := by
  induction cs generalizing value with
  | nil =>
    simp only [appendDigits, Except.ok.injEq, List.not_mem_nil, false_implies, implies_true, true_and,
      Nat.ofDigitChars_nil]
    exact ⟨fun e => ⟨e, e ▸ h⟩, And.left⟩
  | cons c cs ih =>
    rw [appendDigits, Nat.ofDigitChars_cons, List.forall_mem_cons, Nat.mul_comm value 10]
    have hle := le_ofDigitChars cs (10 * value + (c.toNat - '0'.toNat))
    by_cases hc : c.isDigit = true
    · have hdigit : digit? c = some (c.toNat - '0'.toNat) := if_pos hc
      simp only [hdigit, hc, true_and]
      split
      next hfits => exact ih hfits
      next hover =>
        refine ⟨nofun, ?_⟩
        rintro ⟨-, rfl, hn⟩
        omega
    · have hdigit : digit? c = none := if_neg hc
      simp only [hdigit]
      exact ⟨nofun, fun hdigits => absurd hdigits.1.1 hc⟩

/-- **What is read is a numeral within the limit**, and every such numeral is read. -/
theorem readNat_eq_ok {limit n : Nat} {cs : List Char} :
    readNat limit cs = .ok n ↔ IsNumeral cs n ∧ n ≤ limit := by
  have plus_isDigit : ¬ '+'.isDigit = true := by decide
  have digits (ds : List Char) (hne : ds ≠ []) :
      appendDigits limit 0 ds = .ok n ↔
        (ds ≠ [] ∧ (∀ c ∈ ds, c.isDigit = true) ∧ Nat.ofDigitChars 10 ds 0 = n) ∧ n ≤ limit := by
    rw [appendDigits_eq_ok (Nat.zero_le _)]
    exact ⟨fun ⟨h, e, hn⟩ => ⟨⟨hne, h, e⟩, hn⟩, fun ⟨⟨_, h, e⟩, hn⟩ => ⟨h, e, hn⟩⟩
  unfold readNat
  split
  next =>
    refine ⟨nofun, ?_⟩
    rintro ⟨⟨ds, rfl | h, hne, -⟩, -⟩
    · exact absurd rfl hne
    · cases h
  next =>
    refine ⟨nofun, ?_⟩
    rintro ⟨⟨ds, rfl | h, hne, hdigits, -⟩, -⟩
    · exact absurd (hdigits '+' (by simp)) plus_isDigit
    · cases h
      exact absurd rfl hne
  next cs hcs =>
    rw [digits cs (by rintro rfl; exact hcs rfl)]
    refine and_congr_left fun _ => ⟨fun h => ⟨cs, .inr rfl, h⟩, ?_⟩
    rintro ⟨ds, rfl | h, hne, hdigits, e⟩
    · exact absurd (hdigits '+' (by simp)) plus_isDigit
    · cases h
      exact ⟨hne, hdigits, e⟩
  next hnil _ hplus =>
    rw [digits _ hnil]
    refine and_congr_left fun _ => ⟨fun h => ⟨cs, .inl rfl, h⟩, ?_⟩
    rintro ⟨ds, rfl | rfl, h⟩
    · exact h
    · exact absurd rfl (hplus ds)

end LanguageClient.Text
