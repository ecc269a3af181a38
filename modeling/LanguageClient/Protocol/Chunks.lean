/-!
# A stream in pieces

A stream hands out its bytes in pieces whose borders mean nothing.  `Chunks` is what has been
received and not yet been read; reading a line or a number of bytes takes from the front, across as
many borders as it needs.

What is read never depends on the borders: `takeLine_flatten` and `takeExact_flatten` say that the
bytes taken and the bytes left are, in this order, the bytes that were there.
-/

namespace LanguageClient

/-- Bytes received and not yet read, in the pieces in which they came. -/
abbrev Chunks := List (List UInt8)

namespace Chunks

/-- The byte that ends a line. -/
def lineFeed : UInt8 := 0x0A

/-- Splits a piece behind its first line feed. -/
def splitLine? : List UInt8 → Option (List UInt8 × List UInt8)
  | [] => none
  | b :: bs => if b = lineFeed then some ([b], bs) else (splitLine? bs).map fun (l, r) => (b :: l, r)

/-- Takes everything up to and including the first line feed, if there is one. -/
def takeLine? : Chunks → Option (List UInt8 × Chunks)
  | [] => none
  | c :: cs =>
    match splitLine? c with
    | some (line, rest) => some (line, rest :: cs)
    | none => (takeLine? cs).map fun (l, r) => (c ++ l, r)

/-- Takes exactly `n` bytes, if there are as many. -/
def takeExact? : (n : Nat) → Chunks → Option (List UInt8 × Chunks)
  | 0, cs => some ([], cs)
  | _ + 1, [] => none
  | n + 1, c :: cs =>
    if n + 1 ≤ c.length then some (c.take (n + 1), c.drop (n + 1) :: cs)
    else (takeExact? (n + 1 - c.length) cs).map fun (l, r) => (c ++ l, r)
termination_by _ cs => cs.length

theorem splitLine?_append {c line rest : List UInt8} (h : splitLine? c = some (line, rest)) :
    c = line ++ rest ∧ line ≠ [] := by
  induction c generalizing line rest with
  | nil => simp [splitLine?] at h
  | cons b bs ih =>
    rw [splitLine?] at h
    split at h
    · simp only [Option.some.injEq, Prod.mk.injEq] at h
      obtain ⟨rfl, rfl⟩ := h
      simp
    · obtain ⟨⟨l, r⟩, hl, he⟩ := Option.map_eq_some_iff.1 h
      simp only [Prod.mk.injEq] at he
      obtain ⟨rfl, rfl⟩ := he
      obtain ⟨rfl, _⟩ := ih hl
      simp

/-- A line and what is left are what was there, and a line is not empty. -/
theorem takeLine?_flatten {cs rest : Chunks} {line : List UInt8}
    (h : takeLine? cs = some (line, rest)) : cs.flatten = line ++ rest.flatten ∧ line ≠ [] := by
  induction cs generalizing line rest with
  | nil => simp [takeLine?] at h
  | cons c cs ih =>
    rw [takeLine?] at h
    split at h
    next l r hs =>
      simp only [Option.some.injEq, Prod.mk.injEq] at h
      obtain ⟨rfl, rfl⟩ := h
      obtain ⟨rfl, hne⟩ := splitLine?_append hs
      exact ⟨by simp, hne⟩
    · obtain ⟨⟨l, r⟩, hl, he⟩ := Option.map_eq_some_iff.1 h
      simp only [Prod.mk.injEq] at he
      obtain ⟨rfl, rfl⟩ := he
      obtain ⟨hf, hne⟩ := ih hl
      exact ⟨by simp [hf], by simp [hne]⟩

/-- The bytes taken and what is left are what was there. -/
theorem takeExact?_flatten {n : Nat} {cs rest : Chunks} {bytes : List UInt8}
    (h : takeExact? n cs = some (bytes, rest)) :
    cs.flatten = bytes ++ rest.flatten ∧ bytes.length = n := by
  induction cs generalizing n bytes rest with
  | nil => cases n <;> simp_all [takeExact?]
  | cons c cs ih =>
    cases n with
    | zero => simp_all [takeExact?]
    | succ n =>
      rw [takeExact?] at h
      split at h
      · simp only [Option.some.injEq, Prod.mk.injEq] at h
        obtain ⟨rfl, rfl⟩ := h
        refine ⟨?_, ?_⟩
        · rw [List.flatten_cons, List.flatten_cons, ← List.append_assoc, List.take_append_drop]
        · rw [List.length_take]; omega
      · obtain ⟨⟨l, r⟩, hl, he⟩ := Option.map_eq_some_iff.1 h
        simp only [Prod.mk.injEq] at he
        obtain ⟨rfl, rfl⟩ := he
        obtain ⟨hf, hn⟩ := ih hl
        simp [hf]; omega

end Chunks

end LanguageClient
