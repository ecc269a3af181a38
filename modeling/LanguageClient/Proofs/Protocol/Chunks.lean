import LanguageClient.Protocol.Chunks

/-!
# Reading across the borders of the pieces

`takeLine?` and `takeExact?` find what they look for whenever it is there, wherever the borders of
the pieces are.

* `takeLine?_eq_some` and `takeLine?_eq_none` — a line is found if there is a line feed.
* `takeExact?_eq_some` and `takeExact?_eq_none` — bytes are found if there are as many.
-/

namespace LanguageClient.Chunks

theorem splitLine?_eq_none {bs : List UInt8} (h : lineFeed ∉ bs) : splitLine? bs = none := by
  induction bs with
  | nil => rfl
  | cons b bs ih =>
    rw [List.mem_cons, not_or] at h
    rw [splitLine?, if_neg (Ne.symm h.1), ih h.2]
    rfl

theorem splitLine?_eq_some {line : List UInt8} (h : lineFeed ∉ line) (rest : List UInt8) :
    splitLine? (line ++ lineFeed :: rest) = some (line ++ [lineFeed], rest) := by
  induction line with
  | nil => rw [List.nil_append, splitLine?, if_pos rfl]; rfl
  | cons b line ih =>
    rw [List.mem_cons, not_or] at h
    rw [List.cons_append, splitLine?, if_neg (Ne.symm h.1), ih h.2]
    rfl

theorem takeLine?_eq_none {cs : Chunks} (h : lineFeed ∉ cs.flatten) : cs.takeLine? = none := by
  induction cs with
  | nil => rfl
  | cons c cs ih =>
    rw [List.flatten_cons, List.mem_append, not_or] at h
    rw [takeLine?, splitLine?_eq_none h.1]
    simp only [ih h.2, Option.map_none]

/-- The first line feed is where it is, however what comes before it and after it is written down. -/
theorem eq_of_first_lineFeed {line line' rest rest' : List UInt8} (h : lineFeed ∉ line)
    (h' : lineFeed ∉ line') (e : line ++ lineFeed :: rest = line' ++ lineFeed :: rest') :
    line = line' ∧ rest = rest' := by
  have hs := splitLine?_eq_some h rest
  rw [e, splitLine?_eq_some h' rest'] at hs
  simp only [Option.some.injEq, Prod.mk.injEq, List.append_cancel_right_eq] at hs
  exact ⟨hs.1.symm, hs.2.symm⟩

/-- A line is taken if there is a line feed, and what is left are the bytes behind it. -/
theorem takeLine?_eq_some {cs : Chunks} {line rest : List UInt8} (h : lineFeed ∉ line)
    (e : cs.flatten = line ++ lineFeed :: rest) :
    ∃ cs', cs.takeLine? = some (line ++ [lineFeed], cs') ∧ cs'.flatten = rest := by
  induction cs generalizing line with
  | nil => simp at e
  | cons c cs ih =>
    rw [List.flatten_cons] at e
    by_cases hc : lineFeed ∈ c
    · obtain ⟨line', rest', rfl, hline'⟩ := List.eq_append_cons_of_mem hc
      rw [List.append_assoc, List.cons_append] at e
      obtain ⟨rfl, rfl⟩ := eq_of_first_lineFeed hline' h e
      refine ⟨rest' :: cs, ?_, by simp⟩
      rw [takeLine?, splitLine?_eq_some hline']
    · -- The whole piece belongs to the line.
      obtain ⟨more, rfl, hrest⟩ : ∃ more, line = c ++ more ∧ cs.flatten = more ++ lineFeed :: rest := by
        rcases List.append_eq_append_iff.1 e with ⟨more, hline, hflat⟩ | ⟨more, hpiece, hflat⟩
        · exact ⟨more, hline, hflat⟩
        · cases more with
          | nil => exact ⟨[], by simpa using hpiece.symm, by simpa using hflat.symm⟩
          | cons b more =>
            rw [List.cons_append, List.cons.injEq] at hflat
            rw [hpiece, ← hflat.1] at hc
            simp at hc
      rw [List.mem_append, not_or] at h
      obtain ⟨cs', htake, hflat⟩ := ih h.2 hrest
      refine ⟨cs', ?_, hflat⟩
      rw [takeLine?, splitLine?_eq_none hc]
      simp only [htake, Option.map_some, List.append_assoc]

theorem takeExact?_eq_none {cs : Chunks} {n : Nat} (h : cs.flatten.length < n) :
    cs.takeExact? n = none := by
  cases ht : cs.takeExact? n with
  | none => rfl
  | some r =>
    obtain ⟨bytes, rest⟩ := r
    obtain ⟨hflat, hlen⟩ := takeExact?_flatten ht
    rw [hflat, List.length_append] at h
    omega

/-- As many bytes are taken as are asked for, if there are as many, and what is left are the others. -/
theorem takeExact?_eq_some {cs : Chunks} {bytes rest : List UInt8} (e : cs.flatten = bytes ++ rest) :
    ∃ cs', cs.takeExact? bytes.length = some (bytes, cs') ∧ cs'.flatten = rest := by
  have found (n : Nat) (h : n ≤ cs.flatten.length) : (cs.takeExact? n).isSome := by
    clear e
    induction cs generalizing n with
    | nil =>
      obtain rfl : n = 0 := by simpa using h
      rw [takeExact?]
      rfl
    | cons c cs ih =>
      cases n with
      | zero => rw [takeExact?]; rfl
      | succ n =>
        rw [takeExact?]
        split
        next => rfl
        next hc =>
          rw [List.flatten_cons, List.length_append] at h
          rw [Option.isSome_map]
          exact ih _ (by omega)
  obtain ⟨⟨taken, cs'⟩, ht⟩ := Option.isSome_iff_exists.1 (found bytes.length (by rw [e]; simp))
  obtain ⟨hflat, hlen⟩ := takeExact?_flatten ht
  obtain ⟨rfl, rfl⟩ := List.append_inj (e.symm.trans hflat) hlen.symm
  exact ⟨cs', ht, rfl⟩

end LanguageClient.Chunks
