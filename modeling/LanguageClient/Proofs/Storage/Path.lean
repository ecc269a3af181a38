import LanguageClient.Storage.Path
import Mathlib.Data.List.Basic

/-!
# The path of a place

`absolute` writes the names that lead to a place one after the other, and `split` takes them apart
again, as long as they are names: not empty, neither one dot nor two, and without a separator
(`split_absolute`).  The segments of a path are its pieces between separators (`segments_eq_splitOn`,
by `eq_splitOn`, which is about any separator), and have none in them (`not_mem_of_segments`).
-/

namespace LanguageClient.Path

/-- A segment that leads to something below. -/
def IsName (name : String) : Prop :=
  isIdle name.toList = false ∧ name.toList ≠ ['.', '.'] ∧ separator ∉ name.toList

/-! ## Pieces between separators -/

/-- Who begins a new piece at every separator and puts every other character in front of the piece
behind it splits at the separators. -/
theorem eq_splitOn {split : List Char → List (List Char)} {sep : Char} (nil : split [] = [[]])
    (cons : ∀ c cs, split (c :: cs) =
      if c = sep then [] :: split cs
      else match split cs with
        | [] => [[c]]
        | s :: rest => (c :: s) :: rest) (cs : List Char) : split cs = cs.splitOn sep := by
  induction cs with
  | nil => exact nil
  | cons c cs ih =>
    rw [cons, List.splitOn_cons_eq_if_modifyHead, ih]
    by_cases hc : c = sep
    · rw [if_pos hc, if_pos (by simpa using hc)]
    · rw [if_neg hc, if_neg (by simpa using hc)]
      obtain ⟨s, rest, hsplit⟩ := List.exists_cons_of_ne_nil (List.splitOn_ne_nil sep cs)
      rw [hsplit]
      rfl

theorem not_mem_of_mem_splitOn {cs s : List Char} {sep : Char} (h : s ∈ cs.splitOn sep) :
    sep ∉ s := by
  induction cs generalizing s with
  | nil =>
    rw [List.splitOn_nil, List.mem_singleton] at h
    exact h ▸ List.not_mem_nil
  | cons c cs ih =>
    rw [List.splitOn_cons_eq_if_modifyHead] at h
    split at h
    next =>
      rcases List.mem_cons.1 h with rfl | h
      · exact List.not_mem_nil
      · exact ih h
    next hc =>
      obtain ⟨first, rest, hsplit⟩ := List.exists_cons_of_ne_nil (List.splitOn_ne_nil sep cs)
      rw [hsplit] at h ih
      rcases List.mem_cons.1 h with rfl | h
      · refine fun hmem => ih List.mem_cons_self ((List.mem_cons.1 hmem).resolve_left ?_)
        rintro rfl
        exact hc (beq_self_eq_true _)
      · exact ih (List.mem_cons_of_mem _ h)

theorem segments_eq_splitOn (path : List Char) : segments path = path.splitOn separator :=
  eq_splitOn rfl (fun _ _ => rfl) path

theorem not_mem_of_segments {path s : List Char} (h : s ∈ segments path) : separator ∉ s :=
  not_mem_of_mem_splitOn (segments_eq_splitOn path ▸ h)

/-! ## Names -/

/-- **A path is taken apart into the names that it was made of.** -/
theorem split_absolute {names : List String} (h : ∀ name ∈ names, IsName name) :
    split (absolute names).toList =
      (.root, if names = [] then [[]] else names.map String.toList) := by
  have hlist : (absolute names).toList =
      separator :: [separator].intercalate (names.map String.toList) := by
    rw [absolute, String.toList_append, String.toList_intercalate]
    rfl
  have hsegments : segments (absolute names).toList =
      [] :: segments ([separator].intercalate (names.map String.toList)) := by
    rw [hlist, segments, if_pos rfl]
  rw [split, hsegments]
  simp only [hlist, List.isEmpty_cons, Bool.not_false, Bool.and_true, decide_true, if_true]
  split
  next hnil => subst hnil; rfl
  next hne =>
    rw [segments_eq_splitOn, List.splitOn_intercalate _ ?_ (by simpa using hne)]
    intro s hs
    obtain ⟨name, hname, rfl⟩ := List.mem_map.1 hs
    exact (h name hname).2.2

end LanguageClient.Path
