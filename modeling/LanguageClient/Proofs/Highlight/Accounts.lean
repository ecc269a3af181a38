import LanguageClient.Highlight.Overlay
import LanguageClient.Proofs.Data.Table
import LanguageClient.Proofs.Editor.Audit

/-!
# The accounts of the overlay

The overlay records a handle for every decoration it owns; a canvas holds the decorations.
`Overlay.Accounts` says that the two agree: in every editor, and for both sorts of decorations, the
canvas holds exactly what is recorded; what is recorded as highlights is nothing, or the rendering of
the set that is cached for the document the editor was painted for; and every handle that the overlay
asked to dispose of was alive at that moment.

All operations of the overlay are made of three moves, and each move keeps the accounts:

* `Accounts.retire`: the handles of some editors and sorts are disposed of and struck out;
* `Accounts.render`: an editor without highlights gets the rendering of a cached set;
* `Accounts.mark`: an editor without a marker gets one.

What the operations do to the documents for which editors were painted is said apart, by `seat?`; it
does not depend on the host.
-/

namespace LanguageClient

/-- What is owned of one sort. -/
def Painted.of (p : Painted) : DecorationSort → List DecorationHandle
  | .highlight => p.highlights
  | .marker => p.computed.toList

@[simp] theorem Painted.of_empty (uri : String) (sort : DecorationSort) :
    Painted.of { uri } sort = [] := by cases sort <;> rfl

namespace Overlay

/-- What is recorded of one sort in one editor. -/
def recorded (o : Overlay) (editor : EditorId) (sort : DecorationSort) : List DecorationHandle :=
  (o.paintedIn editor).of sort

/-- Decorations that look like a set, and nothing else. -/
def IsRendering (ds : List RenderedDecoration) (symbols : List Symbol) : Prop :=
  ds.map RenderedDecoration.look = (renderings symbols).map fun (style, ranges) => (style, ranges, none)

/-- Records and canvas agree. -/
structure Accounts (o : Overlay) (a : AuditedEditor) : Prop where
  sound : a.editor.canvas.IsSound
  keys : o.painted.keys.Nodup
  recorded : ∀ editor sort, a.editor.canvas.handlesIn editor sort = o.recorded editor sort
  shown : ∀ editor, a.editor.canvas.decorationsIn editor .highlight = [] ∨
    ∃ symbols, o.cached? (o.paintedIn editor).uri = some symbols ∧
      IsRendering (a.editor.canvas.decorationsIn editor .highlight) symbols
  requests : a.requests = a.editor.canvas.disposed

theorem accounts_empty : Accounts {} {} where
  sound := Canvas.isSound_empty
  keys := .nil
  recorded _ sort := by cases sort <;> rfl
  shown _ := .inl rfl
  requests := rfl

/-- The accounts are about the canvas and the requests; what else there is of an editor does not
matter. -/
theorem Accounts.of_canvas {o : Overlay} {a a' : AuditedEditor} (h : o.Accounts a)
    (hc : a'.editor.canvas = a.editor.canvas) (hr : a'.requests = a.requests) : o.Accounts a' := by
  obtain ⟨sound, keys, recorded, shown, requests⟩ := h
  rw [← hc] at sound recorded shown requests
  exact ⟨sound, keys, recorded, shown, hr.trans requests⟩

@[simp] theorem paintedIn_set (o : Overlay) (cache : Table String (List Symbol))
    (editor e : EditorId) (p : Painted) :
    ({ cache, painted := o.painted.set editor p } : Overlay).paintedIn e =
      if editor = e then p else o.paintedIn e := by
  simp only [paintedIn, Table.get?_set]
  split <;> rfl

theorem paintedIn_of_some {o : Overlay} {editor : EditorId} {p : Painted}
    (h : o.painted.get? editor = some p) : o.paintedIn editor = p := by
  rw [paintedIn, h]
  rfl

theorem paintedIn_of_none {o : Overlay} {editor : EditorId} (h : o.painted.get? editor = none) :
    o.paintedIn editor = {} := by
  rw [paintedIn, h]
  rfl

/-! ## Retiring handles -/

/-- The handles of some editors and sorts, each of them once. -/
structure Gathers (o : Overlay) (picked : EditorId → DecorationSort → Prop)
    (handles : List DecorationHandle) : Prop where
  nodup : handles.Nodup
  mem : ∀ x, x ∈ handles ↔ ∃ editor sort, picked editor sort ∧ x ∈ o.recorded editor sort

section

variable {o : Overlay} {a : AuditedEditor}

theorem Accounts.recorded_nodup (h : o.Accounts a) (editor : EditorId) (sort : DecorationSort) :
    (o.recorded editor sort).Nodup := by
  rw [← h.recorded]
  exact h.sound.handlesIn_nodup editor sort

theorem Accounts.recorded_unique (h : o.Accounts a) {editor editor' : EditorId}
    {sort sort' : DecorationSort} {x : DecorationHandle} (hx : x ∈ o.recorded editor sort)
    (hx' : x ∈ o.recorded editor' sort') : editor = editor' ∧ sort = sort' := by
  rw [← h.recorded] at hx hx'
  exact h.sound.handlesIn_unique hx hx'

theorem Accounts.paintedIn_of_mem (h : o.Accounts a) {editor : EditorId} {p : Painted}
    (hp : (editor, p) ∈ o.painted) : o.paintedIn editor = p :=
  paintedIn_of_some ((Table.get?_eq_some h.keys).2 hp)

/-- What is recorded in one editor, sort by sort. -/
theorem Accounts.gathers_editor (h : o.Accounts a) (editor : EditorId) {sorts : List DecorationSort}
    (hs : sorts.Nodup) :
    o.Gathers (fun e s => e = editor ∧ s ∈ sorts) (sorts.flatMap (o.paintedIn editor).of) where
  nodup := by
    refine List.nodup_flatMap.2 ⟨fun s _ => h.recorded_nodup editor s, hs.imp ?_⟩
    intro s s' hne x hx hx'
    exact hne (h.recorded_unique hx hx').2
  mem x := by
    rw [List.mem_flatMap]
    constructor
    · rintro ⟨s, hs, hx⟩
      exact ⟨editor, s, ⟨rfl, hs⟩, hx⟩
    · rintro ⟨_, s, ⟨rfl, hs⟩, hx⟩
      exact ⟨s, hs, hx⟩

/-- What is recorded in all editors that were painted for one document. -/
theorem Accounts.gathers_uri (h : o.Accounts a) (uri : String) {sorts : List DecorationSort}
    (hs : sorts.Nodup) :
    o.Gathers (fun e s => (o.paintedIn e).uri = uri ∧ s ∈ sorts)
      ((o.painted.filter fun (_, p) => p.uri = uri).flatMap fun (_, p) => sorts.flatMap p.of) where
  nodup := by
    refine List.nodup_flatMap.2 ⟨?_, ?_⟩
    · rintro ⟨e, p⟩ hp
      rw [← h.paintedIn_of_mem (List.mem_filter.1 hp).1]
      exact (h.gathers_editor e hs).nodup
    · have hkeys : o.painted.Pairwise fun b b' => b.1 ≠ b'.1 := List.pairwise_map.1 h.keys
      refine ((List.Pairwise.and_mem.1 hkeys).filter _).imp ?_
      rintro ⟨e, p⟩ ⟨e', p'⟩ ⟨hp, hp', hne⟩ x hx hx'
      rw [← h.paintedIn_of_mem hp] at hx
      rw [← h.paintedIn_of_mem hp'] at hx'
      obtain ⟨s, -, hxs⟩ := List.mem_flatMap.1 hx
      obtain ⟨s', -, hxs'⟩ := List.mem_flatMap.1 hx'
      exact hne (h.recorded_unique hxs hxs').1
  mem x := by
    simp only [List.mem_flatMap, List.mem_filter, decide_eq_true_eq]
    constructor
    · rintro ⟨⟨e, p⟩, ⟨hp, hu⟩, s, hs, hx⟩
      rw [← h.paintedIn_of_mem hp] at hu hx
      exact ⟨e, s, ⟨hu, hs⟩, hx⟩
    · rintro ⟨e, s, ⟨hu, hs⟩, hx⟩
      -- an editor of which nothing is recorded has no handles
      cases hp : o.painted.get? e with
      | none =>
        rw [Overlay.recorded, paintedIn_of_none hp, Painted.of_empty] at hx
        cases hx
      | some p =>
        rw [paintedIn_of_some hp] at hu
        rw [Overlay.recorded, paintedIn_of_some hp] at hx
        exact ⟨(e, p), ⟨Table.mem_of_get? hp, hu⟩, s, hs, hx⟩

/-- Disposing of what is recorded for some editors and sorts empties those, and touches no other. -/
theorem Accounts.decorationsIn_retire (h : o.Accounts a)
    {picked : EditorId → DecorationSort → Prop} [∀ e s, Decidable (picked e s)]
    {handles : List DecorationHandle} (hg : o.Gathers picked handles) (editor : EditorId)
    (sort : DecorationSort) :
    (a.editor.canvas.disposeAll handles).decorationsIn editor sort =
      if picked editor sort then [] else a.editor.canvas.decorationsIn editor sort := by
  rw [Canvas.decorationsIn_disposeAll]
  have hmem : ∀ d ∈ a.editor.canvas.decorationsIn editor sort,
      d.handle ∈ o.recorded editor sort := by
    intro d hd
    rw [← h.recorded]
    exact List.mem_map_of_mem hd
  split
  next hp =>
    refine List.filter_eq_nil_iff.2 fun d hd => ?_
    have hin : d.handle ∈ handles := (hg.mem _).2 ⟨editor, sort, hp, hmem d hd⟩
    simpa using hin
  next hp =>
    refine List.filter_eq_self.2 fun d hd => ?_
    have hout : d.handle ∉ handles := by
      intro hin
      obtain ⟨e, s, hp', hx⟩ := (hg.mem _).1 hin
      obtain ⟨rfl, rfl⟩ := h.recorded_unique (hmem d hd) hx
      exact hp hp'
    simpa using hout

/-- **Retiring.**  Handles of some editors and sorts are disposed of and struck out.  For an editor
that keeps its highlights the cached set has to stay what it was. -/
theorem Accounts.retire (h : o.Accounts a) {o' : Overlay} {picked : EditorId → DecorationSort → Prop}
    [∀ e s, Decidable (picked e s)] {handles : List DecorationHandle} (hg : o.Gathers picked handles)
    (hkeys : o'.painted.keys.Nodup)
    (hrec : ∀ e s, o'.recorded e s = if picked e s then [] else o.recorded e s)
    (hcache : ∀ e, ¬ picked e .highlight → o.recorded e .highlight ≠ [] →
      o'.cached? (o'.paintedIn e).uri = o.cached? (o.paintedIn e).uri) :
    o'.Accounts (EditorHost.disposeAll a handles) := by
  rw [AuditedEditor.disposeAll_eq]
  refine ⟨h.sound.disposeAll handles, hkeys, fun e s => ?_, fun e => ?_, ?_⟩
  · rw [hrec, ← h.recorded, Canvas.handlesIn, h.decorationsIn_retire hg]
    split <;> rfl
  · dsimp only
    rw [h.decorationsIn_retire hg]
    split
    next => exact .inl rfl
    next hp =>
      rcases h.shown e with hnil | hshown
      · exact .inl hnil
      · by_cases hr : o.recorded e .highlight = []
        · rw [← h.recorded] at hr
          exact .inl (List.map_eq_nil_iff.1 hr)
        · rw [hcache e hp hr]
          exact .inr hshown
  · have hlive : ∀ x ∈ handles, ∃ d ∈ a.editor.canvas.live, d.handle = x := by
      intro x hx
      obtain ⟨e, s, -, hx⟩ := (hg.mem x).1 hx
      rw [← h.recorded] at hx
      obtain ⟨d, hd, -, -, hdx⟩ := Canvas.mem_handlesIn.1 hx
      exact ⟨d, hd, hdx⟩
    rw [Canvas.disposed_disposeAll _ hg.nodup hlive, h.requests]

end

/-! ## Painting -/

theorem sort_of_mem_renderings {symbols : List Symbol} {r : DecorationStyle × List Range}
    (h : r ∈ renderings symbols) : r.1.sort = .highlight := by
  obtain ⟨kind, -, hr⟩ := List.mem_filterMap.1 h
  split at hr
  next => cases hr
  next =>
    obtain ⟨style, hs, rfl⟩ := Option.map_eq_some_iff.1 hr
    exact DecorationStyle.sort_ofKind hs

/-- Creating highlights: they come after what is there, each with its own handle, and nothing else of
the editor changes. -/
theorem createAll_eq (a : AuditedEditor) (editor : EditorId) (rs : List (DecorationStyle × List Range))
    (hrs : ∀ r ∈ rs, r.1.sort = .highlight) :
    ∃ (ds : List RenderedDecoration) (canvas : Canvas),
      createAll a editor rs =
        (ds.map RenderedDecoration.handle, { a with editor := { a.editor with canvas } }) ∧
      ds.map RenderedDecoration.look = rs.map (fun (style, ranges) => (style, ranges, none)) ∧
      canvas.disposed = a.editor.canvas.disposed ∧
      (a.editor.canvas.IsSound → canvas.IsSound) ∧
      ∀ e s, canvas.decorationsIn e s =
        a.editor.canvas.decorationsIn e s ++ if editor = e ∧ s = .highlight then ds else [] := by
  induction rs generalizing a with
  | nil => exact ⟨[], a.editor.canvas, rfl, rfl, rfl, id, fun e s => by simp⟩
  | cons r rs ih =>
    obtain ⟨style, ranges⟩ := r
    have hstyle : style.sort = .highlight := hrs _ List.mem_cons_self
    let c := a.editor.canvas.create editor style ranges none
    obtain ⟨ds, canvas, heq, hlook, hdisposed, hsound, hin⟩ :=
      ih { a with editor := { a.editor with canvas := c.2 } }
        fun r hr => hrs r (List.mem_cons_of_mem _ hr)
    refine ⟨⟨c.1, editor, style, ranges, none⟩ :: ds, canvas, ?_, ?_, hdisposed,
      fun h => hsound (h.create editor style ranges none), fun e s => ?_⟩
    · simp only [createAll, EditorHost.createDecoration, HeadlessEditor.createDecoration]
      rw [heq]
      rfl
    · rw [List.map_cons, List.map_cons, hlook]
      rfl
    · rw [hin, Canvas.decorationsIn_create, hstyle, List.append_assoc]
      by_cases he : editor = e <;> cases s <;> simp [he, c]

section

variable {o : Overlay} {a : AuditedEditor}

/-- **Painting.**  An editor in which there are no highlights is painted. -/
theorem Accounts.render (h : o.Accounts a) (editor : EditorRef)
    (hnone : o.recorded editor.id .highlight = []) :
    (o.render a editor).1.Accounts (o.render a editor).2 := by
  unfold Overlay.render
  split
  next => exact h
  next symbols hc =>
    obtain ⟨ds, canvas, heq, hlook, hdisposed, hsound, hin⟩ :=
      createAll_eq a editor.id (renderings symbols) fun r hr => sort_of_mem_renderings hr
    rw [heq]
    have hempty : a.editor.canvas.decorationsIn editor.id .highlight = [] := by
      rw [← h.recorded] at hnone
      exact List.map_eq_nil_iff.1 hnone
    have hhigh : (o.paintedIn editor.id).highlights = [] := hnone
    refine ⟨hsound h.sound, Table.nodup_keys_set h.keys _ _, fun e s => ?_, fun e => ?_, ?_⟩
    · dsimp only
      rw [Canvas.handlesIn, hin, List.map_append, ← Canvas.handlesIn, h.recorded,
        Overlay.recorded, Overlay.recorded, paintedIn_set]
      by_cases he : editor.id = e
      · subst he
        cases s <;> simp [Painted.of, hhigh]
      · simp [he]
    · dsimp only
      rw [hin, paintedIn_set]
      by_cases he : editor.id = e
      · subst he
        refine .inr ⟨symbols, ?_, ?_⟩
        · rw [if_pos rfl]
          exact hc
        · rw [hempty, if_pos ⟨rfl, rfl⟩, List.nil_append]
          exact hlook
      · rw [if_neg fun hp => he hp.1, if_neg he, List.append_nil]
        exact h.shown e
    · exact h.requests.trans hdisposed.symm

theorem recorded_render_of_ne (o : Overlay) (a : AuditedEditor) {editor : EditorRef} {e : EditorId}
    (he : editor.id ≠ e) (sort : DecorationSort) :
    (o.render a editor).1.recorded e sort = o.recorded e sort := by
  unfold Overlay.render
  split
  next => rfl
  next => rw [Overlay.recorded, Overlay.recorded, paintedIn_set, if_neg he]

/-- Several editors, one after the other. -/
theorem Accounts.renderAll (h : o.Accounts a) {editors : List EditorRef}
    (hd : (editors.map EditorRef.id).Nodup)
    (hnone : ∀ e ∈ editors, o.recorded e.id .highlight = []) :
    (editors.foldl (fun (o, h) e => o.render h e) (o, a)).1.Accounts
      (editors.foldl (fun (o, h) e => o.render h e) (o, a)).2 := by
  induction editors generalizing o a with
  | nil => exact h
  | cons e editors ih =>
    obtain ⟨hne, hd⟩ := List.nodup_cons.1 hd
    refine ih (h.render e (hnone e List.mem_cons_self)) hd fun e' he' => ?_
    have hne' : e.id ≠ e'.id := by
      intro heq
      rw [heq] at hne
      exact hne (List.mem_map_of_mem he')
    exact (recorded_render_of_ne o a hne' _).trans (hnone e' (List.mem_cons_of_mem _ he'))

/-- **Marking.**  An editor in which there is no marker gets one. -/
theorem Accounts.mark (h : o.Accounts a) (editor : EditorId) (ranges : List Range)
    (hover : Option String) (hnone : o.recorded editor .marker = []) :
    let made := EditorHost.createDecoration a editor .computed ranges hover
    let p := { o.paintedIn editor with computed := some made.1 }
    Accounts { o with painted := o.painted.set editor p } made.2 := by
  intro made p
  have hin : ∀ e s, made.2.editor.canvas.decorationsIn e s =
      a.editor.canvas.decorationsIn e s ++
        if editor = e ∧ DecorationSort.marker = s then
          [⟨made.1, editor, .computed, ranges, hover⟩] else [] :=
    fun e s => a.editor.canvas.decorationsIn_create editor e .computed ranges hover s
  refine ⟨h.sound.create editor .computed ranges hover, Table.nodup_keys_set h.keys _ _,
    fun e s => ?_, fun e => ?_, h.requests⟩
  · rw [Canvas.handlesIn, hin, List.map_append, ← Canvas.handlesIn, h.recorded, Overlay.recorded,
      Overlay.recorded, paintedIn_set]
    by_cases he : editor = e
    · subst he
      have hcomputed : (o.paintedIn editor).computed = none := Option.toList_eq_nil_iff.1 hnone
      cases s <;> simp [Painted.of, p, hcomputed]
    · simp [he]
  · have hsame : ∀ e, made.2.editor.canvas.decorationsIn e .highlight =
        a.editor.canvas.decorationsIn e .highlight := by
      intro e
      rw [hin, if_neg fun hp => DecorationSort.noConfusion hp.2, List.append_nil]
    have huri : ({ o with painted := o.painted.set editor p } : Overlay).paintedIn e =
        if editor = e then p else o.paintedIn e := paintedIn_set o o.cache editor e p
    rw [hsame, huri]
    by_cases he : editor = e
    · subst he
      rw [if_pos rfl]
      exact h.shown editor
    · rw [if_neg he]
      exact h.shown e

end

end Overlay

end LanguageClient
