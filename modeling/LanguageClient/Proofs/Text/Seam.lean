import LanguageClient.Proofs.Document.Uri
import LanguageClient.Proofs.Text.Utf8
import Mathlib.Tactic.ByContra

/-!
# Bytes that come in parts

Bytes are turned into text piece by piece, and how far a piece goes depends on the bytes behind it.
So when bytes come in parts and each part is turned into text on its own, the place of a cut matters:
between two pieces it does no harm, and inside a piece what is left of the piece is given up byte by
byte.

* `IsSeam` — a place between two pieces, counted in bytes.
* `decodeOne_take` and `decodeOne_take_of_lt` — a piece depends on the bytes that it takes and no
  others; one that is cut short is given up.
* `pieces_of_seam` and `length_pieces_lt` — at a seam the pieces of both parts are those of the whole,
  anywhere else there are more of them.
* **`join_eq_iff`** — parts that are turned into text one by one give the text of the whole exactly if
  every cut is at a seam.
* **`join_eq_iff_ofString`** — so the bytes of a text give the text exactly if no character is cut.
-/

namespace LanguageClient.Utf8

/-- The place with so many bytes before it lies between two pieces, or at the beginning or end. -/
inductive IsSeam : List UInt8 → Nat → Prop
  | start (bs : List UInt8) : IsSeam bs 0
  | after (b : UInt8) (bs : List UInt8) {k : Nat} :
    IsSeam (bs.drop (decodeOne b bs).2) k → IsSeam (b :: bs) ((decodeOne b bs).2 + 1 + k)

variable {b low high : UInt8} {bs rest : List UInt8} {n m k j value : Nat}

/-! ## One piece -/

theorem continuation_snd_le (n : Nat) (low high : UInt8) (value : Nat) (bs : List UInt8) :
    (continuation n low high value bs).2 ≤ bs.length := by
  fun_induction continuation n low high value bs with
  | case1 => exact Nat.zero_le _
  | case2 => exact Nat.le_refl _
  | case3 n low high value b bs hfits v k he ih =>
    rw [he] at ih
    exact Nat.succ_le_succ ih
  | case4 => exact Nat.zero_le _

theorem decodeOne_snd_le (b : UInt8) (bs : List UInt8) : (decodeOne b bs).2 ≤ bs.length := by
  rw [decodeOne]
  split
  · exact Nat.zero_le _
  · split
    · exact Nat.zero_le _
    · exact continuation_snd_le _ _ _ _ _

/-- Bytes that are not taken do not matter. -/
theorem continuation_take (n : Nat) (low high : UInt8) (value : Nat) (bs : List UInt8) {m : Nat}
    (h : (continuation n low high value bs).2 ≤ m) :
    continuation n low high value (bs.take m) = continuation n low high value bs := by
  fun_induction continuation n low high value bs generalizing m with
  | case1 => rfl
  | case2 => rw [List.take_nil]; rfl
  | case3 n low high value b bs hfits v k he ih =>
    rw [he] at ih
    obtain ⟨m, rfl⟩ : ∃ m', m = m' + 1 := ⟨m - 1, by omega⟩
    rw [List.take_succ_cons, continuation, if_pos hfits, ih (Nat.le_of_succ_le_succ h)]
  | case4 n low high value b bs hfits =>
    cases m with
    | zero => rfl
    | succ m => rw [List.take_succ_cons, continuation, if_neg hfits]

/-- What is cut short has no value. -/
theorem continuation_take_of_lt (n : Nat) (low high : UInt8) (value : Nat) (bs : List UInt8) {m : Nat}
    (h : m < (continuation n low high value bs).2) :
    continuation n low high value (bs.take m) = (none, m) := by
  fun_induction continuation n low high value bs generalizing m with
  | case1 => cases h
  | case2 => cases h
  | case3 n low high value b bs hfits v k he ih =>
    rw [he] at ih
    cases m with
    | zero => rfl
    | succ m =>
      rw [List.take_succ_cons, continuation, if_pos hfits, ih (Nat.lt_of_succ_lt_succ h)]
  | case4 => cases h

/-- A byte that only continues a character. -/
def IsTail (b : UInt8) : Prop := 0x80 ≤ b.toNat ∧ b.toNat ≤ 0xBF

theorem isTail_of_continuation (n : Nat) (low high : UInt8) (value : Nat) (bs : List UInt8)
    (hlow : 0x80 ≤ low.toNat) (hhigh : high.toNat ≤ 0xBF) :
    ∀ b ∈ bs.take (continuation n low high value bs).2, IsTail b := by
  fun_induction continuation n low high value bs with
  | case1 => rw [List.take_zero]; exact nofun
  | case2 => exact nofun
  | case3 n low high value b bs hfits v k he ih =>
    rw [he] at ih
    rw [UInt8.le_iff_toNat_le, UInt8.le_iff_toNat_le] at hfits
    rw [List.take_succ_cons]
    exact List.forall_mem_cons.2 ⟨⟨by omega, by omega⟩, ih (by decide) (by decide)⟩
  | case4 => rw [List.take_zero]; exact nofun

/-- **A piece depends on the bytes that it takes.** -/
theorem decodeOne_take (h : (decodeOne b bs).2 ≤ m) : decodeOne b (bs.take m) = decodeOne b bs := by
  unfold decodeOne at h ⊢
  split
  · rfl
  · next hb =>
    rw [if_neg hb] at h
    cases hl : lead? b with
    | none => rfl
    | some l =>
      rw [hl] at h
      simp only [continuation_take _ _ _ _ _ h]

/-- **A piece that is cut short is given up.** -/
theorem decodeOne_take_of_lt (h : m < (decodeOne b bs).2) : decodeOne b (bs.take m) = (none, m) := by
  unfold decodeOne at h ⊢
  split
  · next hb =>
    rw [if_pos hb] at h
    cases h
  · next hb =>
    rw [if_neg hb] at h
    cases hl : lead? b with
    | none =>
      rw [hl] at h
      cases h
    | some l =>
      rw [hl] at h
      simp only [continuation_take_of_lt _ _ _ _ _ h]
      rfl

theorem isTail_of_decodeOne (b : UInt8) (bs : List UInt8) :
    ∀ x ∈ bs.take (decodeOne b bs).2, IsTail x := by
  unfold decodeOne
  split
  · rw [List.take_zero]; exact nofun
  · cases hl : lead? b with
    | none => rw [List.take_zero]; exact nofun
    | some l =>
      have h80 : (0x80 : UInt8).toNat = 0x80 := rfl
      have hBF : (0xBF : UInt8).toNat = 0xBF := rfl
      refine isTail_of_continuation _ _ _ _ _ ?_ ?_ <;>
        rcases lead?_eq_some hl with h | h | h <;> simp_all

/-- Nothing starts with a byte that only continues a character. -/
theorem IsTail.decodeOne (h : IsTail b) (bs : List UInt8) : decodeOne b bs = (none, 0) := by
  have hb : ¬ b < 0x80 := by
    rw [UInt8.lt_iff_toNat_lt]
    exact Nat.not_lt.2 h.1
  have hlead : lead? b = none := by
    rw [lead?_eq, if_pos (by have := h.2; omega)]
  rw [Utf8.decodeOne, if_neg hb, hlead]

/-! ## All pieces -/

/-- Bytes that only continue a character are given up one by one. -/
theorem pieces_of_isTail (tail rest : List UInt8) (h : ∀ b ∈ tail, IsTail b) :
    pieces (tail ++ rest) = tail.map (fun _ => none) ++ pieces rest := by
  induction tail with
  | nil => rfl
  | cons b tail ih =>
    obtain ⟨hb, htail⟩ := List.forall_mem_cons.1 h
    rw [List.cons_append, pieces, hb.decodeOne, List.drop_zero, ih htail]
    rfl

/-- **At a seam the pieces of both parts are those of the whole.** -/
theorem pieces_of_seam (h : IsSeam bs k) : pieces bs = pieces (bs.take k) ++ pieces (bs.drop k) := by
  induction h with
  | start bs => rw [List.take_zero, List.drop_zero, pieces, List.nil_append]
  | @after b bs k _ ih =>
    generalize hd : (decodeOne b bs).2 = d at ih ⊢
    have htake : decodeOne b (bs.take (d + k)) = decodeOne b bs := decodeOne_take (by omega)
    have hsame : d + 1 + k = d + k + 1 := by omega
    rw [hsame, List.take_succ_cons, List.drop_succ_cons, pieces, pieces, htake, hd, ih,
      List.drop_take, Nat.add_sub_cancel_left, List.drop_drop]
    rfl

/-- **Anywhere else there are more of them.** -/
theorem length_pieces_lt (hk : k ≤ bs.length) (h : ¬ IsSeam bs k) :
    (pieces bs).length < (pieces (bs.take k)).length + (pieces (bs.drop k)).length := by
  fun_induction pieces bs generalizing k with
  | case1 =>
    obtain rfl : k = 0 := Nat.le_zero.1 hk
    exact absurd (.start []) h
  | case2 b bs ih =>
    have hall := decodeOne_snd_le b bs
    have htails := isTail_of_decodeOne b bs
    generalize hd : (decodeOne b bs).2 = d at ih hall htails
    obtain ⟨m, rfl⟩ : ∃ m, k = m + 1 := by
      cases k with
      | zero => exact absurd (.start _) h
      | succ m => exact ⟨m, rfl⟩
    rw [List.take_succ_cons, List.drop_succ_cons, List.length_cons]
    rcases Nat.lt_or_ge m d with hm | hm
    · -- The cut is inside the piece: its beginning is given up, and every byte of its end.
      have hfirst : pieces (b :: bs.take m) = [none] := by
        rw [pieces, decodeOne_take_of_lt (by omega), List.drop_of_length_le (List.length_take_le _ _),
          pieces]
      have hlast : bs.drop m = (bs.take d).drop m ++ bs.drop d := by
        rw [← List.drop_append_of_le_length (by rw [List.length_take]; omega), List.take_append_drop]
      rw [hfirst, hlast, pieces_of_isTail _ _ fun x hx => htails x (List.mem_of_mem_drop hx)]
      simp only [List.length_append, List.length_map, List.length_drop, List.length_take,
        List.length_singleton]
      omega
    · -- The cut is behind the piece.
      have hrest : ¬ IsSeam (bs.drop d) (m - d) := by
        intro hseam
        refine h ?_
        have := IsSeam.after b bs (k := m - d) (by rwa [hd])
        rwa [hd, show d + 1 + (m - d) = m + 1 by omega] at this
      have hparts := ih (by rw [List.length_drop]; rw [List.length_cons] at hk; omega) hrest
      have hfirst : pieces (b :: bs.take m) = (decodeOne b bs).1 :: pieces ((bs.drop d).take (m - d)) := by
        rw [pieces, decodeOne_take (by omega), hd, List.drop_take]
      rw [hfirst, List.length_cons]
      rw [List.drop_drop, show d + (m - d) = m by omega] at hparts
      omega

theorem length_pieces_le (hk : k ≤ bs.length) :
    (pieces bs).length ≤ (pieces (bs.take k)).length + (pieces (bs.drop k)).length := by
  by_cases h : IsSeam bs k
  · exact Nat.le_of_eq (by rw [pieces_of_seam h, List.length_append])
  · exact Nat.le_of_lt (length_pieces_lt hk h)

/-! ## Parts -/

/-- What lies behind a seam has the seams of the whole. -/
theorem IsSeam.add (h : IsSeam bs k) : IsSeam bs (k + j) ↔ IsSeam (bs.drop k) j := by
  induction h with
  | start bs => rw [Nat.zero_add, List.drop_zero]
  | @after b bs k _ ih =>
    generalize hd : (Utf8.decodeOne b bs).2 = d at ih ⊢
    have hdrop : (b :: bs).drop (d + 1 + k) = (bs.drop d).drop k := by
      rw [List.drop_drop, show d + 1 + k = d + k + 1 by omega, List.drop_succ_cons]
    rw [hdrop, ← ih]
    constructor
    · intro h
      generalize hn : d + 1 + k + j = n at h
      cases h with
      | start => omega
      | @after _ _ i h =>
        rw [hd] at h hn
        rwa [show k + j = i by omega]
    · intro h
      have := IsSeam.after b bs (by rwa [hd])
      rwa [hd, ← Nat.add_assoc] at this

/-- Every cut between two of these parts is at a seam of the whole. -/
def CutAtSeams (parts : List (List UInt8)) : Prop :=
  ∀ before after, parts = before ++ after → IsSeam parts.flatten before.flatten.length

theorem cutAtSeams_cons {part : List UInt8} {parts : List (List UInt8)} :
    CutAtSeams (part :: parts) ↔
      IsSeam (part ++ parts.flatten) part.length ∧ CutAtSeams parts := by
  have behind : (part ++ parts.flatten).drop part.length = parts.flatten := List.drop_left
  constructor
  · intro h
    have hfirst : IsSeam (part ++ parts.flatten) part.length := by
      have := h [part] parts rfl
      rwa [List.flatten_cons, List.flatten_cons, List.flatten_nil, List.append_nil] at this
    refine ⟨hfirst, fun before after he => ?_⟩
    have := h (part :: before) after (by rw [he]; rfl)
    rwa [List.flatten_cons, List.flatten_cons, List.length_append, hfirst.add, behind] at this
  · rintro ⟨hfirst, hrest⟩ before after he
    cases before with
    | nil => exact .start _
    | cons first before =>
      obtain ⟨rfl, rfl⟩ := List.cons.inj he
      rw [List.flatten_cons, List.flatten_cons, List.length_append, hfirst.add, behind]
      exact hrest before after rfl

theorem length_pieces_append_le (part rest : List UInt8) :
    (pieces (part ++ rest)).length ≤ (pieces part).length + (pieces rest).length := by
  have hpart : part.length ≤ (part ++ rest).length := by simp
  simpa using length_pieces_le hpart

/-- The pieces of the parts, one part after another. -/
def piecesOfParts (parts : List (List UInt8)) : List (Option Char) := parts.flatMap pieces

theorem length_pieces_flatten_le (parts : List (List UInt8)) :
    (pieces parts.flatten).length ≤ (piecesOfParts parts).length := by
  induction parts with
  | nil =>
    rw [List.flatten_nil, pieces]
    exact Nat.le_refl _
  | cons part parts ih =>
    have hcut := length_pieces_append_le part parts.flatten
    rw [piecesOfParts, List.flatMap_cons, List.length_append, List.flatten_cons]
    exact Nat.le_trans hcut (Nat.add_le_add_left ih _)

/-- The parts have the pieces of the whole if every cut is at a seam. -/
theorem pieces_flatten {parts : List (List UInt8)} (h : CutAtSeams parts) :
    pieces parts.flatten = piecesOfParts parts := by
  induction parts with
  | nil =>
    rw [List.flatten_nil, pieces]
    rfl
  | cons part parts ih =>
    obtain ⟨hfirst, hrest⟩ := cutAtSeams_cons.1 h
    rw [List.flatten_cons, pieces_of_seam hfirst, List.take_left, List.drop_left, ih hrest]
    rfl

/-- Otherwise they have more of them. -/
theorem cutAtSeams_of_length {parts : List (List UInt8)}
    (h : (piecesOfParts parts).length = (pieces parts.flatten).length) : CutAtSeams parts := by
  induction parts with
  | nil =>
    intro before after he
    obtain ⟨rfl, rfl⟩ := List.append_eq_nil_iff.1 he.symm
    exact .start _
  | cons part parts ih =>
    rw [piecesOfParts, List.flatMap_cons, List.length_append, List.flatten_cons] at h
    have hrest := length_pieces_flatten_le parts
    rw [piecesOfParts] at hrest
    have hcut := length_pieces_append_le part parts.flatten
    refine cutAtSeams_cons.2 ⟨?_, ih (by rw [piecesOfParts]; omega)⟩
    by_contra hno
    have hmore := length_pieces_lt (by simp) hno
    rw [List.take_left, List.drop_left] at hmore
    omega

theorem toList_join_decodeLossy (parts : List (List UInt8)) :
    (String.join (parts.map decodeLossy)).toList =
      (piecesOfParts parts).map (·.getD replacement) := by
  rw [String.toList_join, piecesOfParts, List.flatMap_map, List.map_flatMap]
  simp only [decodeLossy, String.toList_ofList]

/-- **Parts that are turned into text one by one give the text of the whole** exactly if every cut is at
a seam. -/
theorem join_eq_iff (parts : List (List UInt8)) :
    String.join (parts.map decodeLossy) = decodeLossy parts.flatten ↔ CutAtSeams parts := by
  rw [← String.toList_inj, toList_join_decodeLossy, decodeLossy, String.toList_ofList]
  constructor
  · intro h
    have hlength := congrArg List.length h
    rw [List.length_map, List.length_map] at hlength
    exact cutAtSeams_of_length hlength
  · intro h
    rw [pieces_flatten h]

/-! ## Parts of a text -/

/-- What lies behind the bytes of a text is behind a seam. -/
theorem isSeam_encode (cs : List Char) (rest : List UInt8) :
    IsSeam (encode cs ++ rest) (encode cs).length := by
  induction cs with
  | nil => exact .start _
  | cons c cs ih =>
    obtain ⟨b, bs, hc, hone⟩ := decodeOne_encode c (encode cs ++ rest)
    rw [encode_cons, hc, List.append_assoc, List.cons_append]
    have hseam := IsSeam.after b (bs ++ (encode cs ++ rest)) (k := (encode cs).length)
    rw [hone, List.drop_left] at hseam
    have := hseam ih
    rwa [List.length_append, List.length_cons]

/-- The bytes before a seam of a text are those of a text. -/
theorem exists_encode_of_isSeam {cs : List Char} (h : IsSeam (encode cs) k) :
    ∃ before, (encode cs).take k = encode before := by
  induction cs generalizing k with
  | nil => exact ⟨[], by rw [encode, List.flatMap_nil, List.take_nil]⟩
  | cons c cs ih =>
    obtain ⟨b, bs, hc, hone⟩ := decodeOne_encode c (encode cs)
    rw [encode_cons, hc, List.cons_append] at h ⊢
    cases h with
    | start => exact ⟨[], rfl⟩
    | @after _ _ k h =>
      rw [hone] at h ⊢
      rw [List.drop_left] at h
      obtain ⟨before, he⟩ := ih h
      refine ⟨c :: before, ?_⟩
      rw [encode_cons, hc, ← he, show bs.length + 1 + k = bs.length + k + 1 by omega,
        List.take_succ_cons, List.take_length_add_append]
      rfl

/-- **The bytes of a text that come in parts give the text** exactly if no character is cut: all that
came before a cut is the bytes of a text. -/
theorem join_eq_iff_ofString {s : String} {parts : List (List UInt8)}
    (h : parts.flatten = ofString s) :
    String.join (parts.map decodeLossy) = s ↔
      ∀ before after, parts = before ++ after → ∃ t, before.flatten = ofString t := by
  have htext : String.join (parts.map decodeLossy) = s ↔ CutAtSeams parts := by
    rw [← join_eq_iff, h, decodeLossy_ofString]
  rw [htext]
  refine forall_congr' fun before => forall_congr' fun after => imp_congr_right fun he => ?_
  have hparts : before.flatten ++ after.flatten = ofString s := by
    rw [← h, he, List.flatten_append]
  have hbefore : (ofString s).take before.flatten.length = before.flatten := by
    rw [← hparts, List.take_left]
  rw [h]
  constructor
  · intro hseam
    obtain ⟨cs, hcs⟩ := exists_encode_of_isSeam hseam
    exact ⟨String.ofList cs, by rw [← hbefore, ofString, hcs, ofString, String.toList_ofList]⟩
  · rintro ⟨t, ht⟩
    rw [← hparts, ht]
    exact isSeam_encode t.toList after.flatten

end LanguageClient.Utf8
