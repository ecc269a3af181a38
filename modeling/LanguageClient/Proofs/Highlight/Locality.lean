import LanguageClient.Proofs.Highlight.Replacement

/-!
# What an operation does to one editor

Documents share one table of records and one counter of handles, so an operation about one document
disposes of handles that it reads off records of all of them.  While records and canvas agree, what it
takes from an editor and what it puts there can be told from that editor alone.

* `Accounts.inEditor_disposeAll` — disposing of what is recorded for some editors and sorts takes just
  these sorts from just these editors.
* `Accounts.inEditor_forget`, `Accounts.inEditor_applyHighlights`, `Accounts.inEditor_showComputed` —
  one operation each.

An editor that was painted, was painted for the document that it shows: `Overlay.IsFor`.
-/

namespace LanguageClient.Overlay

open DecoratedHost

/-- What is recorded for an editor is recorded for the document that it shows. -/
def IsFor (o : Overlay) (e : EditorRef) : Prop :=
  (o.paintedIn e.id).uri = e.uri ∨ o.paintedIn e.id = {}

/-- The row of decorations that shows a set. -/
def rowOf (symbols : List Symbol) : List (DecorationStyle × List Range × Option String) :=
  (renderings symbols).map fun (style, ranges) => (style, ranges, none)

/-- Decorations that show a set look like it. -/
theorem IsExact.isRendering {symbols : List Symbol} {editor : EditorId}
    {ds : List RenderedDecoration} (h : IsExact symbols editor ds) : IsRendering ds symbols := by
  let painted := (renderings symbols).map fun (style, ranges) =>
    (⟨⟨0⟩, editor, style, ranges, none⟩ : RenderedDecoration)
  have hlook : IsRendering painted symbols := List.map_map
  have hexact : IsExact symbols editor painted := by
    refine isExact_of_look hlook fun d hd => ?_
    obtain ⟨r, -, rfl⟩ := List.mem_map.1 hd
    rfl
  exact (h.look_eq hexact).trans hlook

/-- A set that is taken is painted in the visible editors of its document, on top of what is left. -/
theorem exists_applyHighlights {σ : Type} [EditorHost σ] [DecoratedHost σ] (o : Overlay) (h : σ)
    (apart : ((EditorHost.visibleEditors h).map EditorRef.id).Nodup) (r : HighlightResult)
    (accepted : EditorHost.isOpen h r.uri = true) :
    ∃ made, live (o.applyHighlights h r).2.2 = live (o.disposeHighlightsOf h r.uri).2 ++ made ∧
      (∀ d ∈ made, ∃ e ∈ EditorHost.visibleEditors h, e.uri = r.uri ∧ d.editor = e.id) ∧
      ∀ e ∈ EditorHost.visibleEditors h, e.uri = r.uri →
        IsExact r.symbols e.id (made.filter (·.editor = e.id)) := by
  let retaken := o.disposeHighlightsOf h r.uri
  let editors := (EditorHost.visibleEditors retaken.2).filter (·.uri = r.uri)
  have hvisible : EditorHost.visibleEditors retaken.2 = EditorHost.visibleEditors h :=
    visible_disposeAll h _
  have hafter : (o.applyHighlights h r).2.2 =
      (editors.foldl (fun p e => p.1.render p.2 e) (o.retake h r, retaken.2)).2 := by
    simp only [Overlay.applyHighlights, accepted, if_true]
    rfl
  have heditors (e : EditorRef) :
      e ∈ editors ↔ e ∈ EditorHost.visibleEditors h ∧ e.uri = r.uri := by
    rw [List.mem_filter, hvisible, decide_eq_true_eq]
  have hapart : (editors.map EditorRef.id).Nodup := by
    rw [← hvisible] at apart
    exact apart.sublist (List.filter_sublist.map _)
  have hcached : ∀ e ∈ editors, (o.retake h r).cached? e.uri = some r.symbols := by
    intro e he
    rw [((heditors e).1 he).2]
    exact o.cached?_retake h r
  obtain ⟨made, hlive, hmade, hshown⟩ := exists_renderAll _ retaken.2 hapart hcached
  refine ⟨made, by rw [hafter]; exact hlive, fun d hd => ?_, fun e he hu =>
    hshown e ((heditors e).2 ⟨he, hu⟩)⟩
  obtain ⟨-, e, he, hde⟩ := hmade d hd
  exact ⟨e, ((heditors e).1 he).1, ((heditors e).1 he).2, hde⟩

/-- A marker comes after what is left once the old one is disposed of, or everything that was painted
for another document. -/
theorem exists_showComputed {σ : Type} [EditorHost σ] [DecoratedHost σ] (o : Overlay) (h : σ)
    {e : EditorRef} {r : ComputeTermResult} (accepted : e.uri = r.uri) :
    ∃ handle, live (o.showComputed h e r).2.2 =
      live (EditorHost.disposeAll h (if (o.paintedIn e.id).uri = e.uri then
        (o.paintedIn e.id).computed.toList else (o.paintedIn e.id).handles)) ++
      [⟨handle, e.id, .computed, [r.range], some r.computed⟩] := by
  dsimp only [Overlay.showComputed]
  rw [if_pos accepted]
  by_cases hu : (o.paintedIn e.id).uri = e.uri
  · simp only [if_pos hu]
    exact ⟨_, (live_setSelection _ _ _).trans (live_create _ _ _ _ _)⟩
  · simp only [if_neg hu]
    exact ⟨_, (live_setSelection _ _ _).trans (live_create _ _ _ _ _)⟩

/-! ## While records and canvas agree -/

section

variable {o : Overlay} {a : AuditedEditor} {e : EditorRef}

theorem Accounts.mem_gathered (h : o.Accounts a) {picked : EditorId → DecorationSort → Prop}
    {handles : List DecorationHandle} (hg : o.Gathers picked handles) {d : RenderedDecoration}
    (hd : d ∈ a.editor.canvas.live) : d.handle ∈ handles ↔ picked d.editor d.sort := by
  have hmem : d.handle ∈ o.recorded d.editor d.sort := by
    rw [← h.recorded]
    exact Canvas.mem_handlesIn.2 ⟨d, hd, rfl, rfl, rfl⟩
  rw [hg.mem]
  constructor
  · rintro ⟨editor, sort, hpicked, hx⟩
    obtain ⟨rfl, rfl⟩ := h.recorded_unique hmem hx
    exact hpicked
  · exact fun hpicked => ⟨d.editor, d.sort, hpicked, hmem⟩

/-- **Disposing** of what is recorded for some editors and sorts takes these sorts from these editors. -/
theorem Accounts.inEditor_disposeAll (h : o.Accounts a)
    {picked : EditorId → DecorationSort → Prop} [∀ e s, Decidable (picked e s)]
    {handles : List DecorationHandle} (hg : o.Gathers picked handles) (editor : EditorId) :
    (EditorHost.disposeAll a.editor handles).canvas.inEditor editor =
      (a.editor.canvas.inEditor editor).filter fun d => ¬ picked editor d.sort := by
  have hlive : (EditorHost.disposeAll a.editor handles).canvas.live =
      a.editor.canvas.live.filter (·.handle ∉ handles) := live_disposeAll a.editor handles
  rw [Canvas.inEditor, Canvas.inEditor, hlive, List.filter_filter, List.filter_filter]
  refine List.filter_congr fun d hd => ?_
  by_cases hin : d.editor = editor
  · simp [hin, ← hin ▸ h.mem_gathered hg hd]
  · simp [hin]

/-- Disposing of what is recorded for a document takes nothing from an editor of another one. -/
theorem Accounts.inEditor_disposeAll_of (h : o.Accounts a) (hfor : o.IsFor e) (uri : String)
    {sorts : List DecorationSort} (hs : sorts.Nodup) :
    (EditorHost.disposeAll a.editor
        ((o.painted.filter fun (_, p) => p.uri = uri).flatMap fun (_, p) => sorts.flatMap p.of)
      ).canvas.inEditor e.id =
      (a.editor.canvas.inEditor e.id).filter fun d => ¬ (e.uri = uri ∧ d.sort ∈ sorts) := by
  rw [h.inEditor_disposeAll (h.gathers_uri uri hs)]
  rcases hfor with hu | hnone
  · simp only [hu]
  · rw [h.inEditor_of_unowned (by rw [hnone]; rfl)]
    rfl

/-- **Forgetting** a document leaves nothing in its editors, and all in the others. -/
theorem Accounts.inEditor_forget (h : o.Accounts a) (hfor : o.IsFor e) (uri : String) :
    (o.forget a.editor uri).2.canvas.inEditor e.id =
      if e.uri = uri then [] else a.editor.canvas.inEditor e.id := by
  have hall := h.inEditor_disposeAll_of hfor uri
    (show [DecorationSort.highlight, .marker].Nodup by decide)
  simp only [← handles_eq] at hall
  refine hall.trans ?_
  split
  next hu =>
    refine List.filter_eq_nil_iff.2 fun d _ => ?_
    cases d.sort <;> simp [hu]
  next hu => exact List.filter_eq_self.2 fun d _ => by simp [hu]

/-- **A new set** takes the highlights from the editors of its document and is painted in those that
are visible; the editors of other documents keep what they have. -/
theorem Accounts.inEditor_applyHighlights (h : o.Accounts a) (hfor : o.IsFor e)
    (hv : a.editor.ViewsApart) (hid : ∀ e' ∈ a.editor.visibleEditors, e'.id = e.id → e' = e)
    (r : HighlightResult) (accepted : a.editor.isOpen r.uri = true) :
    ∃ made, (o.applyHighlights a.editor r).2.2.canvas.inEditor e.id =
        (a.editor.canvas.inEditor e.id).filter
          (fun d => ¬ (e.uri = r.uri ∧ d.sort = .highlight)) ++ made ∧
      made.map RenderedDecoration.look =
        if e ∈ a.editor.visibleEditors ∧ e.uri = r.uri then rowOf r.symbols else [] := by
  obtain ⟨made, hlive, hmade, hshown⟩ := o.exists_applyHighlights a.editor hv.ids r accepted
  have hkept := h.inEditor_disposeAll_of hfor r.uri (List.nodup_singleton DecorationSort.highlight)
  simp only [← highlights_eq, List.mem_singleton] at hkept
  refine ⟨made.filter (·.editor = e.id), ?_, ?_⟩
  · rw [← hkept]
    exact (congrArg (List.filter _) hlive).trans (List.filter_append _ _)
  · split
    next he => exact (hshown e he.1 he.2).isRendering
    next he =>
      have hnone : made.filter (·.editor = e.id) = [] := by
        refine List.filter_eq_nil_iff.2 fun d hd hin => ?_
        obtain ⟨e', he', hu, hd'⟩ := hmade d hd
        obtain rfl := hid e' he' (hd'.symm.trans (of_decide_eq_true hin))
        exact he ⟨he', hu⟩
      rw [hnone]
      rfl

/-- **The marker of a computed term** takes the place of the one that its editor has; the highlights
there stay, and so does all in other editors. -/
theorem Accounts.inEditor_showComputed (h : o.Accounts a) (hfor : o.IsFor e)
    {r : ComputeTermResult} (accepted : e.uri = r.uri) (editor : EditorId) :
    ∃ handle, (o.showComputed a.editor e r).2.2.canvas.inEditor editor =
      (a.editor.canvas.inEditor editor).filter
        (fun d => ¬ (editor = e.id ∧ d.sort = .marker)) ++
      if editor = e.id then
        [⟨handle, editor, .computed, [r.range], some r.computed⟩] else [] := by
  -- where the record is for another document there is nothing in it
  have hold : (if (o.paintedIn e.id).uri = e.uri then (o.paintedIn e.id).computed.toList
      else (o.paintedIn e.id).handles) = [DecorationSort.marker].flatMap (o.paintedIn e.id).of := by
    rcases hfor with hu | hnone
    · simp [hu, Painted.of]
    · simp [hnone, Painted.of, Painted.handles]
  have hkept := h.inEditor_disposeAll (h.gathers_editor e.id (List.nodup_singleton .marker)) editor
  simp only [List.mem_singleton] at hkept
  obtain ⟨handle, hlive⟩ := o.exists_showComputed a.editor accepted
  rw [hold] at hlive
  refine ⟨handle, ?_⟩
  rw [← hkept, Canvas.inEditor, show (o.showComputed a.editor e r).2.2.canvas.live = _ from hlive,
    List.filter_append]
  congr 1
  by_cases hin : editor = e.id
  · simp [hin]
  · simp [hin, Ne.symm hin]

end

end LanguageClient.Overlay
