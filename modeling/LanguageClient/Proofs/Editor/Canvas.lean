import LanguageClient.Editor.Canvas
import Mathlib.Data.List.Nodup

/-!
# What a canvas shows

A canvas hands out its handles in ascending order, so its live decorations are told apart by their
handles, and a handle that was disposed of never lives again: `IsSound`.  In each editor the
decorations come in two sorts, the markers of computed terms and the highlights; `decorationsIn` lists
one sort in one editor, and all that creating and disposing do to a canvas is said of these lists
(`decorationsIn_create`, `decorationsIn_disposeAll`).  `Grows` compares a canvas with a later one.
-/

namespace LanguageClient

/-- The two sorts of decorations. -/
inductive DecorationSort
  | highlight | marker
  deriving DecidableEq, Repr

namespace DecorationStyle

/-- The style of the marker is the marker's alone; everything else is a highlight. -/
def sort (s : DecorationStyle) : DecorationSort := if s = computed then .marker else .highlight

/-- No kind of symbol is painted like a marker. -/
theorem sort_ofKind {kind : SymbolKind} {s : DecorationStyle} (h : ofKind kind = some s) :
    s.sort = .highlight := by
  cases kind <;> simp only [ofKind, Option.some.injEq, reduceCtorEq] at h <;> subst h <;> decide

end DecorationStyle

namespace RenderedDecoration

def sort (d : RenderedDecoration) : DecorationSort := d.style.sort

/-- How a decoration looks, wherever it is. -/
def look (d : RenderedDecoration) : DecorationStyle × List Range × Option String :=
  (d.style, d.ranges, d.hover)

end RenderedDecoration

namespace Canvas

/-- The live decorations of one sort in one editor. -/
def decorationsIn (c : Canvas) (editor : EditorId) (sort : DecorationSort) :
    List RenderedDecoration :=
  (c.inEditor editor).filter (·.sort = sort)

def handlesIn (c : Canvas) (editor : EditorId) (sort : DecorationSort) : List DecorationHandle :=
  (c.decorationsIn editor sort).map RenderedDecoration.handle

/-- Handles are handed out in ascending order, and each of them is disposed of once at most. -/
structure IsSound (c : Canvas) : Prop where
  ascending : c.live.Pairwise fun d d' => d.handle.number < d'.handle.number
  live_le : ∀ d ∈ c.live, d.handle.number ≤ c.latest
  disposed_le : ∀ x ∈ c.disposed, x.number ≤ c.latest
  disposed_nodup : c.disposed.Nodup
  disposed_not_live : ∀ x ∈ c.disposed, ∀ d ∈ c.live, d.handle ≠ x

/-- Disposes of several decorations, the first one first. -/
def disposeAll (c : Canvas) (handles : List DecorationHandle) : Canvas := handles.foldl dispose c

theorem isSound_empty : ({} : Canvas).IsSound :=
  ⟨.nil, by simp, by simp, .nil, by simp⟩

theorem mem_decorationsIn {c : Canvas} {editor : EditorId} {sort : DecorationSort}
    {d : RenderedDecoration} :
    d ∈ c.decorationsIn editor sort ↔ d ∈ c.live ∧ d.editor = editor ∧ d.sort = sort := by
  simp only [decorationsIn, inEditor, List.mem_filter, decide_eq_true_eq, and_assoc]

theorem mem_handlesIn {c : Canvas} {editor : EditorId} {sort : DecorationSort}
    {x : DecorationHandle} :
    x ∈ c.handlesIn editor sort ↔
      ∃ d ∈ c.live, d.editor = editor ∧ d.sort = sort ∧ d.handle = x := by
  simp only [handlesIn, List.mem_map, mem_decorationsIn, and_assoc]

/-! ## Handles tell decorations apart -/

theorem IsSound.handles_nodup {c : Canvas} (h : c.IsSound) :
    (c.live.map RenderedDecoration.handle).Nodup := by
  refine List.pairwise_map.2 (h.ascending.imp fun hlt heq => ?_)
  rw [heq] at hlt
  exact Nat.lt_irrefl _ hlt

theorem IsSound.eq_of_handle {c : Canvas} (h : c.IsSound) {d d' : RenderedDecoration}
    (hd : d ∈ c.live) (hd' : d' ∈ c.live) (heq : d.handle = d'.handle) : d = d' :=
  List.inj_on_of_nodup_map h.handles_nodup hd hd' heq

theorem IsSound.handlesIn_nodup {c : Canvas} (h : c.IsSound) (editor : EditorId)
    (sort : DecorationSort) : (c.handlesIn editor sort).Nodup := by
  have hsub : (c.decorationsIn editor sort).Sublist c.live :=
    List.filter_sublist.trans List.filter_sublist
  exact h.handles_nodup.sublist (hsub.map _)

/-- A handle is in one editor, and of one sort. -/
theorem IsSound.handlesIn_unique {c : Canvas} (h : c.IsSound) {editor editor' : EditorId}
    {sort sort' : DecorationSort} {x : DecorationHandle} (hx : x ∈ c.handlesIn editor sort)
    (hx' : x ∈ c.handlesIn editor' sort') : editor = editor' ∧ sort = sort' := by
  obtain ⟨d, hd, rfl, rfl, rfl⟩ := mem_handlesIn.1 hx
  obtain ⟨d', hd', rfl, rfl, heq⟩ := mem_handlesIn.1 hx'
  rw [h.eq_of_handle hd' hd heq]
  exact ⟨rfl, rfl⟩

/-! ## Creating -/

theorem decorationsIn_create (c : Canvas) (place editor : EditorId) (style : DecorationStyle)
    (ranges : List Range) (hover : Option String) (sort : DecorationSort) :
    (c.create place style ranges hover).2.decorationsIn editor sort =
      c.decorationsIn editor sort ++
        if place = editor ∧ style.sort = sort then
          [⟨(c.create place style ranges hover).1, place, style, ranges, hover⟩] else [] := by
  simp only [create, decorationsIn, inEditor, List.filter_append, List.append_cancel_left_eq]
  by_cases he : place = editor <;> by_cases hs : style.sort = sort <;>
    simp [RenderedDecoration.sort, he, hs]

theorem IsSound.create {c : Canvas} (h : c.IsSound) (editor : EditorId) (style : DecorationStyle)
    (ranges : List Range) (hover : Option String) :
    (c.create editor style ranges hover).2.IsSound where
  ascending := by
    refine List.pairwise_append.2 ⟨h.ascending, List.pairwise_singleton _ _, fun d hd d' hd' => ?_⟩
    have hle := h.live_le d hd
    rw [List.mem_singleton] at hd'
    subst hd'
    exact Nat.lt_succ_of_le hle
  live_le d hd := by
    rcases List.mem_append.1 hd with hd | hd
    · exact Nat.le_succ_of_le (h.live_le d hd)
    · rw [List.mem_singleton] at hd
      subst hd
      exact Nat.le_refl _
  disposed_le x hx := Nat.le_succ_of_le (h.disposed_le x hx)
  disposed_nodup := h.disposed_nodup
  disposed_not_live x hx d hd := by
    rcases List.mem_append.1 hd with hd | hd
    · exact h.disposed_not_live x hx d hd
    · rw [List.mem_singleton] at hd
      subst hd
      rintro rfl
      exact Nat.not_succ_le_self _ (h.disposed_le _ hx)

/-! ## Disposing -/

theorem live_dispose (c : Canvas) (x : DecorationHandle) :
    (c.dispose x).live = c.live.filter (·.handle ≠ x) := by
  unfold dispose
  split
  next => rfl
  next h =>
    refine (List.filter_eq_self.2 fun d hd => ?_).symm
    simp only [isLive, List.any_eq_true, decide_eq_true_eq, not_exists, not_and] at h
    simpa using h d hd

theorem live_disposeAll (c : Canvas) (handles : List DecorationHandle) :
    (c.disposeAll handles).live = c.live.filter (·.handle ∉ handles) := by
  induction handles generalizing c with
  | nil => simp [disposeAll]
  | cons x handles ih =>
    rw [disposeAll, List.foldl_cons, ← disposeAll, ih, live_dispose, List.filter_filter]
    exact List.filter_congr fun d _ => by simp [Bool.and_comm]

theorem decorationsIn_disposeAll (c : Canvas) (handles : List DecorationHandle) (editor : EditorId)
    (sort : DecorationSort) :
    (c.disposeAll handles).decorationsIn editor sort =
      (c.decorationsIn editor sort).filter (·.handle ∉ handles) := by
  rw [decorationsIn, decorationsIn, inEditor, inEditor, live_disposeAll]
  simp only [List.filter_filter]
  exact List.filter_congr fun d _ => by ac_rfl

theorem IsSound.dispose {c : Canvas} (h : c.IsSound) (x : DecorationHandle) :
    (c.dispose x).IsSound := by
  unfold Canvas.dispose
  split
  next hx =>
    obtain ⟨d, hd, hdx⟩ : ∃ d ∈ c.live, d.handle = x := by simpa [isLive] using hx
    refine ⟨h.ascending.filter _, fun d hd => h.live_le d (List.mem_filter.1 hd).1, ?_, ?_, ?_⟩
    · intro y hy
      rcases List.mem_append.1 hy with hy | hy
      · exact h.disposed_le y hy
      · rw [List.mem_singleton.1 hy, ← hdx]
        exact h.live_le d hd
    · refine List.nodup_append.2 ⟨h.disposed_nodup, List.nodup_singleton x, fun y hy z hz => ?_⟩
      rw [List.mem_singleton.1 hz, ← hdx]
      exact (h.disposed_not_live y hy d hd).symm
    · intro y hy e he
      obtain ⟨he, hex⟩ := List.mem_filter.1 he
      rcases List.mem_append.1 hy with hy | hy
      · exact h.disposed_not_live y hy e he
      · rw [List.mem_singleton.1 hy]
        simpa using hex
  next => exact h

theorem IsSound.disposeAll {c : Canvas} (h : c.IsSound) (handles : List DecorationHandle) :
    (c.disposeAll handles).IsSound := by
  induction handles generalizing c with
  | nil => exact h
  | cons x handles ih => exact ih (h.dispose x)

/-- Handles that live and are named once are all disposed of, in their order. -/
theorem disposed_disposeAll (c : Canvas) {handles : List DecorationHandle} (hn : handles.Nodup)
    (hl : ∀ x ∈ handles, ∃ d ∈ c.live, d.handle = x) :
    (c.disposeAll handles).disposed = c.disposed ++ handles := by
  induction handles generalizing c with
  | nil => simp [disposeAll]
  | cons x handles ih =>
    obtain ⟨hx, hn⟩ := List.nodup_cons.1 hn
    have hlx : c.isLive x = true := by
      obtain ⟨d, hd, rfl⟩ := hl x List.mem_cons_self
      exact List.any_eq_true.2 ⟨d, hd, by simp⟩
    have hdx : (c.dispose x).disposed = c.disposed ++ [x] := by
      rw [dispose, if_pos hlx]
    have hrest : ∀ y ∈ handles, ∃ d ∈ (c.dispose x).live, d.handle = y := by
      intro y hy
      obtain ⟨d, hd, rfl⟩ := hl y (List.mem_cons_of_mem _ hy)
      refine ⟨d, ?_, rfl⟩
      rw [live_dispose, List.mem_filter]
      refine ⟨hd, ?_⟩
      have hne : d.handle ≠ x := fun he => hx (he ▸ hy)
      simpa using hne
    have hall := ih (c.dispose x) hn hrest
    rw [disposeAll, List.foldl_cons, ← disposeAll, hall, hdx, List.append_assoc,
      List.singleton_append]

/-! ## What comes later -/

/-- Decorations may have gone, and one that has come has a handle that was never given out before. -/
structure Grows (c c' : Canvas) : Prop where
  latest : c.latest ≤ c'.latest
  live : ∀ d ∈ c'.live, d ∈ c.live ∨ c.latest < d.handle.number

theorem Grows.refl (c : Canvas) : c.Grows c := ⟨Nat.le_refl _, fun _ hd => .inl hd⟩

theorem Grows.trans {c c' c'' : Canvas} (h : c.Grows c') (h' : c'.Grows c'') : c.Grows c'' where
  latest := Nat.le_trans h.latest h'.latest
  live d hd := by
    rcases h'.live d hd with hd | hlt
    · exact h.live d hd
    · exact .inr (Nat.lt_of_le_of_lt h.latest hlt)

theorem grows_create (c : Canvas) (editor : EditorId) (style : DecorationStyle) (ranges : List Range)
    (hover : Option String) : c.Grows (c.create editor style ranges hover).2 where
  latest := Nat.le_succ _
  live d hd := by
    rcases List.mem_append.1 hd with hd | hd
    · exact .inl hd
    · rw [List.mem_singleton.1 hd]
      exact .inr (Nat.lt_succ_self _)

theorem grows_dispose (c : Canvas) (x : DecorationHandle) : c.Grows (c.dispose x) where
  latest := by
    unfold dispose
    split <;> exact Nat.le_refl _
  live d hd := by
    rw [live_dispose] at hd
    exact .inl (List.mem_filter.1 hd).1

/-- What is gone does not come back. -/
theorem Grows.gone {c c' : Canvas} (h : c.Grows c') {d : RenderedDecoration} (hd : d ∉ c.live)
    (old : d.handle.number ≤ c.latest) : d ∉ c'.live := by
  intro hd'
  rcases h.live d hd' with hlive | hlt
  · exact hd hlive
  · exact Nat.not_le_of_lt hlt old

end Canvas

end LanguageClient
