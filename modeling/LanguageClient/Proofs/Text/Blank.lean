import LanguageClient.Text.Classes

/-!
# What trimming leaves

* `trim_concat_blank` — a blank at the end counts for nothing.
* `trim_of_not_blank` — a text that begins and ends with something else is left as it is.
-/

namespace LanguageClient.Text

theorem trimEnd_concat (cs : List Char) (c : Char) :
    trimEnd (cs ++ [c]) = if isBlank c then trimEnd cs else cs ++ [c] := by
  unfold trimEnd
  rw [List.reverse_append, List.reverse_singleton, List.singleton_append, List.dropWhile_cons]
  split
  next => rfl
  next => rw [List.reverse_cons, List.reverse_reverse]

theorem trimStart_cons_blank {c : Char} (h : isBlank c = true) (cs : List Char) :
    trimStart (c :: cs) = trimStart cs := by
  rw [trimStart, List.dropWhile_cons_of_pos h]
  rfl

theorem trimStart_cons {c : Char} (h : isBlank c = false) (cs : List Char) :
    trimStart (c :: cs) = c :: cs := by
  rw [trimStart, List.dropWhile_cons_of_neg (by simp [h])]

/-- A blank at the front counts for nothing. -/
theorem trim_cons_blank {c : Char} (h : isBlank c = true) (cs : List Char) :
    trim (c :: cs) = trim cs := by
  rw [trim, trimStart_cons_blank h]
  rfl

/-- A blank at the end counts for nothing. -/
theorem trim_concat_blank {c : Char} (h : isBlank c = true) (cs : List Char) :
    trim (cs ++ [c]) = trim cs := by
  unfold trim trimStart
  rw [List.dropWhile_append]
  split
  next he =>
    rw [List.isEmpty_iff.1 he, List.dropWhile_cons_of_pos h]
    rfl
  next => rw [trimEnd_concat, if_pos h]

/-- A text that neither begins nor ends with a blank. -/
theorem trim_of_not_blank {c d : Char} {cs ds : List Char} (hc : isBlank c = false)
    (hd : isBlank d = false) (h : c :: cs = ds ++ [d]) : trim (c :: cs) = c :: cs := by
  rw [trim, trimStart_cons hc, h, trimEnd_concat, hd]
  rfl

theorem isBlank_of_isDigit {c : Char} (h : c.isDigit = true) : isBlank c = false := by
  simp only [Char.isDigit, Bool.and_eq_true, decide_eq_true_eq] at h
  obtain ⟨hlow, hhigh⟩ := h
  have hlow : 48 ≤ c.toNat := hlow
  have hhigh : c.toNat ≤ 57 := hhigh
  simp only [isBlank, Bool.or_eq_false_iff, Bool.and_eq_false_iff, decide_eq_false_iff_not,
    beq_eq_false_iff_ne, ne_eq]
  omega

end LanguageClient.Text
