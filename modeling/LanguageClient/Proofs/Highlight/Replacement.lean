import LanguageClient.Proofs.Highlight.Rendering

/-!
# A new set takes the place of the old one

Callers name editors as they please: the same editor for one document and later for another, visible
or not; and between two calls the host goes its own way (`Reached`).  Whatever they do, every highlight
that is alive is recorded for the editor in which it is (`Owns`), and each call keeps this.

A new set for a document disposes of what was painted *for* the document, and is painted *where* the
document is shown.  So an editor that was painted for the document shows the new set only
(`new_set_replaces_the_old`).  An editor that was painted for another document, and was not painted
since it shows this one, keeps what it had beside the new set (`new_set_joins_the_old`).
-/

namespace LanguageClient

namespace DecoratedHost

variable {σ : Type} [EditorHost σ] [DecoratedHost σ]

/-- The highlights that are alive in an editor. -/
def highlightsIn (h : σ) (editor : EditorId) : List RenderedDecoration :=
  (live h).filter fun d => d.editor = editor ∧ d.sort = .highlight

theorem mem_highlightsIn {h : σ} {editor : EditorId} {d : RenderedDecoration} :
    d ∈ highlightsIn h editor ↔ d ∈ live h ∧ d.editor = editor ∧ d.sort = .highlight := by
  rw [highlightsIn, List.mem_filter, decide_eq_true_eq]

end DecoratedHost

namespace Overlay

open DecoratedHost

/-- What may be asked of an overlay. -/
inductive Operation
  | applies (result : HighlightResult)
  | shows (editor : EditorRef)
  | clears (editor : EditorId)
  | follows (event : EditorEvent)
  | marks (editor : EditorRef) (result : ComputeTermResult)

variable {σ : Type} [EditorHost σ]

def perform (o : Overlay) (h : σ) : Operation → Overlay × σ
  | .applies result => (o.applyHighlights h result).2
  | .shows editor => o.showFor h editor
  | .clears editor => o.clear h editor
  | .follows event => o.handle h event
  | .marks editor result => (o.showComputed h editor result).2

variable [DecoratedHost σ]

/-- An overlay and its host, from nothing painted on.  Between two operations the host may change in
every way, but it paints nothing by itself. -/
inductive Reached : Overlay → σ → Prop
  | start {h : σ} (bare : live h = []) : Reached {} h
  | operation {o : Overlay} {h : σ} (reached : Reached o h) (operation : Operation) :
    Reached (o.perform h operation).1 (o.perform h operation).2
  | turn {o : Overlay} {h h' : σ} (reached : Reached o h) (paints : live h' ⊆ live h) : Reached o h'

/-! ## Live highlights are recorded -/

/-- A highlight that is alive is recorded for the editor in which it is. -/
structure Owns (o : Overlay) (h : σ) : Prop where
  keys : o.painted.keys.Nodup
  recorded : ∀ d ∈ live h, d.sort = .highlight → d.handle ∈ (o.paintedIn d.editor).highlights

variable {o : Overlay} {h : σ}

/-- Handles are disposed of; what is recorded no more is among them. -/
theorem Owns.dispose (owns : o.Owns h) {o' : Overlay} (keys : o'.painted.keys.Nodup)
    {gone : List DecorationHandle}
    (hgone : ∀ id, ∀ x ∈ (o.paintedIn id).highlights, x ∉ gone → x ∈ (o'.paintedIn id).highlights) :
    o'.Owns (EditorHost.disposeAll h gone) where
  keys := keys
  recorded d hd hs := by
    rw [live_disposeAll, List.mem_filter, decide_eq_true_eq] at hd
    exact hgone d.editor d.handle (owns.recorded d hd.1 hs) hd.2

theorem Owns.render (owns : o.Owns h) (editor : EditorRef) :
    (o.render h editor).1.Owns (o.render h editor).2 where
  keys := by
    unfold Overlay.render
    split
    next => exact owns.keys
    next => exact Table.nodup_keys_set owns.keys _ _
  recorded d hd hs := by
    obtain ⟨ds, hexact, hlive, hrecord⟩ := exists_render o h editor
    rw [hlive, List.mem_append] at hd
    by_cases hin : editor.id = d.editor
    · rw [← hin, hrecord]
      refine List.mem_append.2 (hd.imp (fun hd => ?_) List.mem_map_of_mem)
      rw [hin]
      exact owns.recorded d hd hs
    · rw [paintedIn_render_of_ne o h hin]
      refine owns.recorded d (hd.resolve_right fun hd => ?_) hs
      exact hin (hexact.mem hd).1.symm

theorem Owns.renderAll (owns : o.Owns h) (editors : List EditorRef) :
    (editors.foldl (fun (o, h) e => o.render h e) (o, h)).1.Owns
      (editors.foldl (fun (o, h) e => o.render h e) (o, h)).2 := by
  induction editors generalizing o h with
  | nil => exact owns
  | cons e editors ih => exact ih (owns.render e)

/-- The record of one editor changes, and what is lost from it is disposed of. -/
theorem Owns.rewrite (owns : o.Owns h) (editor : EditorId) (p : Painted)
    {gone : List DecorationHandle}
    (hgone : ∀ x ∈ (o.paintedIn editor).highlights, x ∉ gone → x ∈ p.highlights) :
    Owns { o with painted := o.painted.set editor p } (EditorHost.disposeAll h gone) := by
  refine owns.dispose (Table.nodup_keys_set owns.keys _ _) fun id x hx hnot => ?_
  rw [paintedIn_set]
  split
  next he =>
    subst he
    exact hgone x hx hnot
  next => exact hx

/-- The record of one editor is emptied of highlights. -/
theorem Owns.empty (owns : o.Owns h) (editor : EditorId) (p : Painted)
    {gone : List DecorationHandle} (hgone : (o.paintedIn editor).highlights ⊆ gone) :
    Owns { o with painted := o.painted.set editor p } (EditorHost.disposeAll h gone) :=
  owns.rewrite editor p fun _ hx hnot => absurd (hgone hx) hnot

theorem Owns.showFor (owns : o.Owns h) (editor : EditorRef) :
    (o.showFor h editor).1.Owns (o.showFor h editor).2 := by
  dsimp only [Overlay.showFor]
  split
  next => exact (owns.empty editor.id _ (List.Subset.refl _)).render editor
  next => exact (owns.empty editor.id _ (List.subset_append_left _ _)).render editor

theorem Owns.clear (owns : o.Owns h) (editor : EditorId) :
    (o.clear h editor).1.Owns (o.clear h editor).2 := by
  unfold Overlay.clear
  split
  next => exact owns
  next p hp =>
    refine owns.empty editor _ ?_
    rw [paintedIn_of_some hp]
    exact List.subset_append_left _ _

/-- A marker is no highlight. -/
theorem Owns.mark (owns : o.Owns h) (editor : EditorId) (ranges : List Range)
    (hover : Option String) (selection : Selection) :
    o.Owns (EditorHost.setSelection
      (EditorHost.createDecoration h editor .computed ranges hover).2 editor selection) where
  keys := owns.keys
  recorded d hd hs := by
    rw [live_setSelection, live_create, List.mem_append, List.mem_singleton] at hd
    rcases hd with hd | rfl
    · exact owns.recorded d hd hs
    · cases hs

theorem Owns.showComputed (owns : o.Owns h) (editor : EditorRef) (result : ComputeTermResult) :
    (o.showComputed h editor result).2.1.Owns (o.showComputed h editor result).2.2 := by
  dsimp only [Overlay.showComputed]
  split
  next =>
    refine Owns.mark ?_ _ _ _ _
    split
    next => exact owns.rewrite editor.id _ fun _ hx _ => hx
    next => exact owns.empty editor.id _ (List.subset_append_left _ _)
  next => exact owns

/-- What is gathered from the records for one document is gathered from each of them. -/
theorem subset_gathered {id : EditorId} {uri : String} (hu : (o.paintedIn id).uri = uri)
    {f : Painted → List DecorationHandle} (hf : ∀ uri, f { uri } = []) :
    f (o.paintedIn id) ⊆ (o.painted.filter fun (_, p) => p.uri = uri).flatMap fun (_, p) => f p := by
  intro x hx
  cases hp : o.painted.get? id with
  | none =>
    rw [paintedIn_of_none hp, hf] at hx
    cases hx
  | some p =>
    rw [paintedIn_of_some hp] at hu hx
    exact List.mem_flatMap.2
      ⟨(id, p), List.mem_filter.2 ⟨Table.mem_of_get? hp, decide_eq_true hu⟩, hx⟩

theorem Owns.forget (owns : o.Owns h) (uri : String) :
    (o.forget h uri).1.Owns (o.forget h uri).2 := by
  refine owns.dispose (Table.nodup_keys_filter owns.keys _) fun id x hx hnot => ?_
  rw [paintedIn_forget h owns.keys]
  split
  next hu =>
    refine absurd (subset_gathered hu (fun _ => rfl) ?_) hnot
    exact List.mem_append_left _ hx
  next => exact hx

theorem Owns.handle (owns : o.Owns h) (event : EditorEvent) :
    (o.handle h event).1.Owns (o.handle h event).2 := by
  unfold Overlay.handle
  split
  next editor => exact owns.showFor editor
  next => exact owns
  next => exact owns
  next =>
    split
    next active _ =>
      split
      next => exact owns.clear active.id
      next => exact owns
    next => exact owns
  next uri => exact owns.forget uri

/-- The overlay once the old set of a document is gone and the new one is known. -/
def retake (o : Overlay) (h : σ) (result : HighlightResult) : Overlay :=
  { (o.disposeHighlightsOf h result.uri).1 with cache := o.cache.set result.uri result.symbols }

omit [DecoratedHost σ] in
theorem paintedIn_retake (o : Overlay) (h : σ) (result : HighlightResult) (id : EditorId) :
    (o.retake h result).paintedIn id = (o.paintedIn id).strike result.uri :=
  o.paintedIn_strike (o.cache.set result.uri result.symbols) result.uri id

omit [DecoratedHost σ] in
theorem cached?_retake (o : Overlay) (h : σ) (result : HighlightResult) :
    (o.retake h result).cached? result.uri = some result.symbols :=
  (Table.get?_set _ _ _ _).trans (if_pos rfl)

theorem Owns.retake (owns : o.Owns h) (result : HighlightResult) :
    (o.retake h result).Owns (o.disposeHighlightsOf h result.uri).2 := by
  refine owns.dispose ?_ fun id x hx hnot => ?_
  · exact (Table.keys_map o.painted (Painted.strike · result.uri)).symm ▸ owns.keys
  · rw [paintedIn_retake, Painted.strike]
    split
    next hu => exact absurd (subset_gathered hu (fun _ => rfl) hx) hnot
    next => exact hx

theorem Owns.applyHighlights (owns : o.Owns h) (result : HighlightResult) :
    (o.applyHighlights h result).2.1.Owns (o.applyHighlights h result).2.2 := by
  dsimp only [Overlay.applyHighlights]
  split
  next => exact (owns.retake result).renderAll _
  next => exact owns

theorem Owns.perform (owns : o.Owns h) (operation : Operation) :
    (o.perform h operation).1.Owns (o.perform h operation).2 := by
  cases operation with
  | applies result => exact owns.applyHighlights result
  | shows editor => exact owns.showFor editor
  | clears editor => exact owns.clear editor
  | follows event => exact owns.handle event
  | marks editor result => exact owns.showComputed editor result

theorem Reached.owns (reached : Reached o h) : o.Owns h := by
  induction reached with
  | start bare =>
    refine ⟨.nil, fun d hd => ?_⟩
    rw [bare] at hd
    cases hd
  | operation _ operation ih => exact ih.perform operation
  | turn _ paints ih => exact ⟨ih.keys, fun d hd => ih.recorded d (paints hd)⟩

/-! ## The new set -/

/-- Editors that are told apart by their numbers are painted one beside the other. -/
theorem exists_renderAll (o : Overlay) (h : σ) {editors : List EditorRef}
    (apart : (editors.map EditorRef.id).Nodup)
    {symbols : List Symbol} (hc : ∀ e ∈ editors, o.cached? e.uri = some symbols) :
    ∃ made, live (editors.foldl (fun (o, h) e => o.render h e) (o, h)).2 = live h ++ made ∧
      (∀ d ∈ made, d.sort = .highlight ∧ ∃ e ∈ editors, d.editor = e.id) ∧
      ∀ e ∈ editors, IsExact symbols e.id (made.filter (·.editor = e.id)) := by
  induction editors generalizing o h with
  | nil => exact ⟨[], (List.append_nil _).symm, by simp, by simp⟩
  | cons e editors ih =>
    obtain ⟨hnew, apart⟩ := List.nodup_cons.1 apart
    obtain ⟨hce, hc⟩ := List.forall_mem_cons.1 hc
    obtain ⟨row, hexact, hrow, -⟩ := exists_render o h e
    obtain ⟨made, hlive, hmade, hshown⟩ := ih (o.render h e).1 (o.render h e).2 apart
      fun e' he' => (congrArg (Table.get? · e'.uri) (o.cache_render h e)).trans (hc e' he')
    rw [hce, Option.getD_some] at hexact
    have hother : ∀ e' ∈ editors, e'.id ≠ e.id := fun e' he' heq =>
      hnew (heq ▸ List.mem_map_of_mem he')
    refine ⟨row ++ made, ?_, ?_, ?_⟩
    · rw [List.foldl_cons, ← List.append_assoc, ← hrow]
      exact hlive
    · intro d hd
      rcases List.mem_append.1 hd with hd | hd
      · exact ⟨(hexact.mem hd).2, e, List.mem_cons_self, (hexact.mem hd).1⟩
      · obtain ⟨hs, e', he', hin⟩ := hmade d hd
        exact ⟨hs, e', List.mem_cons_of_mem _ he', hin⟩
    · refine List.forall_mem_cons.2 ⟨?_, fun e' he' => ?_⟩
      · rw [List.filter_append, List.filter_eq_self.2 fun d hd => decide_eq_true (hexact.mem hd).1,
          List.filter_eq_nil_iff.2 fun d hd => ?_, List.append_nil]
        · exact hexact
        · obtain ⟨-, e', he', hin⟩ := hmade d hd
          simpa [hin] using hother e' he'
      · rw [List.filter_append, List.filter_eq_nil_iff.2 fun d hd => ?_, List.nil_append]
        · exact hshown e' he'
        · simpa [(hexact.mem hd).1] using (hother e' he').symm

/-- **A new set takes the place of the old one.** -/
theorem new_set_replaces_the_old (reached : Reached o h) (result : HighlightResult)
    (accepted : EditorHost.isOpen h result.uri = true)
    (apart : ((EditorHost.visibleEditors h).map EditorRef.id).Nodup) :
    let after := o.applyHighlights h result
    after.1 = true ∧ ∃ (gone : List DecorationHandle) (made : List RenderedDecoration),
      live after.2.2 = (live h).filter (·.handle ∉ gone) ++ made ∧
      ∀ e ∈ EditorHost.visibleEditors h, e.uri = result.uri →
        IsExact result.symbols e.id (made.filter (·.editor = e.id)) ∧
        ((o.paintedIn e.id).uri = result.uri ∨ highlightsIn h e.id = [] →
          IsExact result.symbols e.id (highlightsIn after.2.2 e.id) ∧
          ∀ d ∈ highlightsIn h e.id, d.handle ∈ gone) := by
  intro after
  let retaken := o.disposeHighlightsOf h result.uri
  let editors := (EditorHost.visibleEditors retaken.2).filter (·.uri = result.uri)
  have hvisible : EditorHost.visibleEditors retaken.2 = EditorHost.visibleEditors h :=
    visible_disposeAll h _
  have hafter : after = (true, editors.foldl (fun (o, h) e => o.render h e)
      (o.retake h result, retaken.2)) := by
    simp only [after, Overlay.applyHighlights, accepted, if_true]
    rfl
  have heditors : ∀ e, e ∈ editors ↔ e ∈ EditorHost.visibleEditors h ∧ e.uri = result.uri := by
    intro e
    rw [List.mem_filter, hvisible, decide_eq_true_eq]
  have hapart : (editors.map EditorRef.id).Nodup := by
    rw [← hvisible] at apart
    exact apart.sublist (List.filter_sublist.map _)
  have hcached : ∀ e ∈ editors, (o.retake h result).cached? e.uri = some result.symbols := by
    intro e he
    rw [((heditors e).1 he).2]
    exact o.cached?_retake h result
  obtain ⟨made, hlive, hmade, hshown⟩ := exists_renderAll _ retaken.2 hapart hcached
  let gone := (o.painted.filter fun (_, p) => p.uri = result.uri).flatMap fun (_, p) => p.highlights
  have hkept : live after.2.2 = (live h).filter (·.handle ∉ gone) ++ made := by
    rw [hafter, ← live_disposeAll]
    exact hlive
  refine ⟨by rw [hafter], gone, made, hkept, fun e he hu => ?_⟩
  have hrow := hshown e ((heditors e).2 ⟨he, hu⟩)
  refine ⟨hrow, fun hseat => ?_⟩
  have hgone : ∀ d ∈ highlightsIn h e.id, d.handle ∈ gone := by
    intro d hd
    rcases hseat with hseat | hnone
    · obtain ⟨hd, hin, hs⟩ := mem_highlightsIn.1 hd
      have howned := reached.owns.recorded d hd hs
      rw [hin] at howned
      exact subset_gathered hseat (fun _ => rfl) howned
    · rw [hnone] at hd
      cases hd
  have hold : ((live h).filter (·.handle ∉ gone)).filter
      (fun d => d.editor = e.id ∧ d.sort = .highlight) = [] := by
    refine List.filter_eq_nil_iff.2 fun d hd hin => ?_
    obtain ⟨hd, hnot⟩ := List.mem_filter.1 hd
    exact of_decide_eq_true hnot (hgone d (mem_highlightsIn.2 ⟨hd, of_decide_eq_true hin⟩))
  have hnew : made.filter (fun d => d.editor = e.id ∧ d.sort = .highlight) =
      made.filter (·.editor = e.id) :=
    List.filter_congr fun d hd => by simp [(hmade d hd).1]
  refine ⟨?_, hgone⟩
  rw [highlightsIn, hkept, List.filter_append, hold, hnew, List.nil_append]
  exact hrow

/-! ## An editor that changes its document -/

/-- One editor for two documents that are open. -/
def oneEditor (uri : String) : StagedEditor := { openUris := ["a", "b"], visible := [⟨⟨1⟩, uri⟩] }

def callsIn (uri : String) : HighlightResult := ⟨uri, [⟨⟨⟨0, 9⟩, ⟨0, 10⟩⟩, .fnCall⟩]⟩

def definitionsIn (uri : String) : HighlightResult := ⟨uri, [⟨⟨⟨0, 4⟩, ⟨0, 5⟩⟩, .fnDef⟩]⟩

/-- The editor shows `b` and is painted; then it shows `a`. -/
def switched : Overlay × StagedEditor :=
  let (o, h) := perform {} (oneEditor "b") (.applies (callsIn "b"))
  (o, { h with visible := (oneEditor "a").visible })

theorem reached_switched : Reached switched.1 switched.2 := by
  have start : Reached {} (oneEditor "b") := .start rfl
  have painted := start.operation (.applies (callsIn "b"))
  exact .turn painted fun _ hd => hd

/-- The overlay is told that the editor shows `a`, and a set for `a` is painted. -/
def followed : Overlay × StagedEditor :=
  let (o, h) := perform switched.1 switched.2 (.follows (.activeChanged (some ⟨⟨1⟩, "a"⟩)))
  perform o h (.applies (callsIn "a"))

theorem reached_followed : Reached followed.1 followed.2 :=
  (reached_switched.operation (.follows (.activeChanged (some ⟨⟨1⟩, "a"⟩)))).operation
    (.applies (callsIn "a"))

/-- Once the change of the editor was followed, one set after the other is shown. -/
theorem new_set_replaces_the_followed_one :
    let after := followed.1.applyHighlights followed.2 (definitionsIn "a")
    Reached followed.1 followed.2 ∧ (highlightsIn followed.2 ⟨1⟩).length = 1 ∧ after.1 = true ∧
      IsExact (definitionsIn "a").symbols ⟨1⟩ (highlightsIn after.2.2 ⟨1⟩) := by
  obtain ⟨accepted, gone, made, -, shown⟩ :=
    new_set_replaces_the_old reached_followed (definitionsIn "a") (by decide) (by decide)
  have exact := (shown ⟨⟨1⟩, "a"⟩ (by decide) rfl).2 (.inl (by decide))
  exact ⟨reached_followed, by decide, accepted, exact.1⟩

/-- **An editor that was painted for another document shows both sets.**  Before the change of the
editor is followed, a set for the document that it shows now joins the set that was painted before. -/
theorem new_set_joins_the_old :
    let after := switched.1.applyHighlights switched.2 (definitionsIn "a")
    Reached switched.1 switched.2 ∧ EditorHost.visibleEditors switched.2 = [⟨⟨1⟩, "a"⟩] ∧
      after.1 = true ∧
      (highlightsIn after.2.2 ⟨1⟩).map RenderedDecoration.ranges =
        [[⟨⟨0, 9⟩, ⟨0, 10⟩⟩], [⟨⟨0, 4⟩, ⟨0, 5⟩⟩]] ∧
      ¬ IsExact (definitionsIn "a").symbols ⟨1⟩ (highlightsIn after.2.2 ⟨1⟩) := by
  intro after
  refine ⟨reached_switched, rfl, by decide, by decide, fun hexact => ?_⟩
  have hlength : (paintedKinds (definitionsIn "a").symbols).length =
      (highlightsIn after.2.2 ⟨1⟩).length := List.Forall₂.length_eq hexact
  revert hlength
  decide


end Overlay

end LanguageClient
