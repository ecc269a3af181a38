import LanguageClient.Editor.Headless
import LanguageClient.Proofs.Editor.Canvas

/-!
# An editor that is listened to

A canvas is silent when it is asked to dispose of a handle that is not alive, so what it holds does
not tell whether that was asked.  `AuditedEditor` is an editor without a screen beside a list of every
such request; `HostMap` says when one host may take the place of another, and dropping the list is
such a map (`AuditedEditor.hostMap_editor`).  So whatever is proved of a client on the audited editor
is proved of the same client on the plain one, and of its requests as well.

Beside this stand the facts about the views: a document has at most one view, views keep their numbers
apart, and what a person does to the documents leaves the canvas alone.  `HeadlessEditor.Unfolds` says
what becomes of the views: some go, and a view that comes has a number that no view ever had.
-/

namespace LanguageClient

/-! ## Hosts that a person plays -/

/-- A host behind which stands an editor without a screen: a person changes that editor, and the
host goes on with the changed one. -/
class PlayedHost (σ : Type) extends EditorHost σ where
  editor : σ → HeadlessEditor
  play : σ → HeadlessEditor → σ

instance : PlayedHost HeadlessEditor where
  editor h := h
  play _ h := h

/-- An editor, and every handle that it was asked to dispose of. -/
structure AuditedEditor where
  editor : HeadlessEditor := {}
  requests : List DecorationHandle := []

instance : PlayedHost AuditedEditor where
  activeEditor a := a.editor.activeEditor
  visibleEditors a := a.editor.visibleEditors
  isOpen a := a.editor.isOpen
  createDecoration a id style ranges hover :=
    let (handle, editor) := a.editor.createDecoration id style ranges hover
    (handle, { a with editor })
  dispose a handle := { editor := a.editor.dispose handle, requests := a.requests ++ [handle] }
  setSelection a id selection := { a with editor := a.editor.setSelection id selection }
  editor := AuditedEditor.editor
  play a editor := { a with editor }

/-- A map between hosts that no client can tell from the identity. -/
structure HostMap {σ τ : Type} [PlayedHost σ] [PlayedHost τ] (f : σ → τ) : Prop where
  activeEditor (h : σ) : EditorHost.activeEditor (f h) = EditorHost.activeEditor h
  visibleEditors (h : σ) : EditorHost.visibleEditors (f h) = EditorHost.visibleEditors h
  isOpen (h : σ) (uri : String) : EditorHost.isOpen (f h) uri = EditorHost.isOpen h uri
  createDecoration (h : σ) (place : EditorId) (style : DecorationStyle) (ranges : List Range)
    (hover : Option String) :
    EditorHost.createDecoration (f h) place style ranges hover =
      (EditorHost.createDecoration h place style ranges hover).map id f
  dispose (h : σ) (handle : DecorationHandle) :
    EditorHost.dispose (f h) handle = f (EditorHost.dispose h handle)
  setSelection (h : σ) (place : EditorId) (selection : Selection) :
    EditorHost.setSelection (f h) place selection = f (EditorHost.setSelection h place selection)
  editor (h : σ) : PlayedHost.editor (f h) = PlayedHost.editor h
  play (h : σ) (e : HeadlessEditor) : PlayedHost.play (f h) e = f (PlayedHost.play h e)

theorem HostMap.disposeAll {σ τ : Type} [PlayedHost σ] [PlayedHost τ] {f : σ → τ} (hf : HostMap f)
    (h : σ) (handles : List DecorationHandle) :
    EditorHost.disposeAll (f h) handles = f (EditorHost.disposeAll h handles) := by
  induction handles generalizing h with
  | nil => rfl
  | cons x handles ih =>
    simp only [EditorHost.disposeAll, List.foldl_cons, hf.dispose] at ih ⊢
    exact ih _

namespace AuditedEditor

theorem hostMap_editor : HostMap editor :=
  ⟨fun _ => rfl, fun _ => rfl, fun _ _ => rfl, fun _ _ _ _ _ => rfl, fun _ _ => rfl,
    fun _ _ _ => rfl, fun _ => rfl, fun _ _ => rfl⟩

theorem disposeAll_eq (a : AuditedEditor) (handles : List DecorationHandle) :
    EditorHost.disposeAll a handles =
      { editor := { a.editor with canvas := a.editor.canvas.disposeAll handles }
        requests := a.requests ++ handles } := by
  induction handles generalizing a with
  | nil => simp [EditorHost.disposeAll, Canvas.disposeAll]
  | cons x handles ih =>
    simp only [EditorHost.disposeAll, List.foldl_cons] at ih ⊢
    rw [ih]
    simp [EditorHost.dispose, HeadlessEditor.dispose, Canvas.disposeAll]

end AuditedEditor

/-! ## Views -/

namespace HeadlessEditor

/-- Views are told apart by their numbers, and by the documents they show. -/
structure ViewsApart (h : HeadlessEditor) : Prop where
  ids : (h.visibleEditors.map EditorRef.id).Nodup
  uris : (h.visibleEditors.map EditorRef.uri).Nodup
  id_le : ∀ e ∈ h.visibleEditors, e.id.number ≤ h.latestEditor

theorem viewsApart_empty : ({} : HeadlessEditor).ViewsApart :=
  ⟨.nil, .nil, by simp [visibleEditors]⟩

theorem ViewsApart.eq_of_id {h : HeadlessEditor} (hv : h.ViewsApart) {e e' : EditorRef}
    (he : e ∈ h.visibleEditors) (he' : e' ∈ h.visibleEditors) (heq : e.id = e'.id) : e = e' :=
  List.inj_on_of_nodup_map hv.ids he he' heq

theorem isOpen_openDocument (h : HeadlessEditor) (uri text uri' : String) :
    (h.openDocument uri text).isOpen uri' = (decide (uri = uri') || h.isOpen uri') := by
  by_cases hu : uri = uri' <;> simp [openDocument, isOpen, Table.contains, Table.get?_set, hu]

theorem isOpen_close (h : HeadlessEditor) (uri uri' : String) :
    (h.close uri).2.isOpen uri' = (decide (uri ≠ uri') && h.isOpen uri') := by
  by_cases hu : uri = uri' <;> simp [close, isOpen, Table.contains, Table.get?_erase, hu]

theorem visibleEditors_close (h : HeadlessEditor) (uri : String) :
    (h.close uri).2.visibleEditors = h.visibleEditors.filter (·.uri ≠ uri) := by
  simp only [close, visibleEditors, List.filter_map]
  rfl

theorem ViewsApart.close {h : HeadlessEditor} (hv : h.ViewsApart) (uri : String) :
    (h.close uri).2.ViewsApart := by
  have hsub : (h.close uri).2.visibleEditors.Sublist h.visibleEditors := by
    rw [visibleEditors_close]
    exact List.filter_sublist
  exact ⟨hv.ids.sublist (hsub.map _), hv.uris.sublist (hsub.map _),
    fun e he => hv.id_le e (hsub.subset he)⟩

/-- All that editing does beside changing a text: it reports the document. -/
theorem edit_ok {h h' : HeadlessEditor} {uri text : String} {event : EditorEvent}
    (he : h.edit uri text = .ok (event, h')) :
    (∃ changed, event = .documentChanged uri changed) ∧ h'.views = h.views ∧
      h'.latestEditor = h.latestEditor ∧ h'.canvas = h.canvas ∧
      ∀ uri', h'.isOpen uri' = h.isOpen uri' := by
  unfold edit at he
  split at he
  next => cases he
  next d hd =>
    split at he
    next => cases he; exact ⟨⟨false, rfl⟩, rfl, rfl, rfl, fun _ => rfl⟩
    next =>
      cases he
      refine ⟨⟨true, rfl⟩, rfl, rfl, rfl, fun uri' => ?_⟩
      simp only [isOpen, Table.contains, Table.get?_set]
      split
      next hu => rw [← hu, hd]; rfl
      next => rfl

/-- All that showing does: the view that it reports is there, the others stay, and a new view has a
new number and a new document. -/
theorem showDocument_ok {h h' : HeadlessEditor} {uri : String} {event : EditorEvent}
    (hs : h.showDocument uri = .ok (event, h')) :
    (∃ e ∈ h'.visibleEditors, event = .activeChanged (some e)) ∧
      (∀ e ∈ h.visibleEditors, e ∈ h'.visibleEditors) ∧ h'.canvas = h.canvas ∧
      (∀ uri', h'.isOpen uri' = h.isOpen uri') ∧ (h.ViewsApart → h'.ViewsApart) := by
  unfold showDocument at hs
  split at hs
  next =>
    split at hs
    next v hv =>
      cases hs
      exact ⟨⟨_, List.mem_map_of_mem (List.mem_of_find?_eq_some hv), rfl⟩, fun e he => he, rfl,
        fun _ => rfl, fun ⟨ids, uris, id_le⟩ => ⟨ids, uris, id_le⟩⟩
    next hv =>
      cases hs
      refine ⟨⟨⟨⟨h.latestEditor + 1⟩, uri⟩, by simp [visibleEditors, View.ref], rfl⟩, fun e he => ?_,
        rfl, fun _ => rfl, fun hd => ?_⟩
      · simp only [visibleEditors, List.map_append, List.mem_append]
        exact .inl he
      · have hnew : ∀ e ∈ h.visibleEditors, e.uri ≠ uri := by
          intro e he
          obtain ⟨v, hv', rfl⟩ := List.mem_map.1 he
          simpa [View.ref] using List.find?_eq_none.1 hv v hv'
        constructor
        · simp only [visibleEditors, List.map_append, List.map_cons, List.map_nil, View.ref]
          refine List.nodup_append.2 ⟨hd.ids, List.nodup_singleton _, fun i hi j hj => ?_⟩
          rw [List.mem_singleton.1 hj]
          obtain ⟨e, he, rfl⟩ := List.mem_map.1 hi
          have hle := hd.id_le e he
          rintro heq
          rw [heq] at hle
          exact Nat.not_succ_le_self _ hle
        · simp only [visibleEditors, List.map_append, List.map_cons, List.map_nil, View.ref]
          refine List.nodup_append.2 ⟨hd.uris, List.nodup_singleton _, fun u hu w hw => ?_⟩
          rw [List.mem_singleton.1 hw]
          obtain ⟨e, he, rfl⟩ := List.mem_map.1 hu
          exact hnew e he
        · intro e he
          simp only [visibleEditors, List.map_append, List.map_cons, List.map_nil,
            List.mem_append, List.mem_singleton] at he
          rcases he with he | rfl
          · exact Nat.le_succ_of_le (hd.id_le e he)
          · exact Nat.le_refl _
  next => cases hs

theorem visibleEditors_setSelection (h : HeadlessEditor) (id : EditorId) (selection : Selection) :
    (h.setSelection id selection).visibleEditors = h.visibleEditors := by
  simp only [visibleEditors, setSelection, List.map_map]
  refine List.map_congr_left fun v _ => ?_
  simp only [Function.comp]
  split <;> rfl

/-- The active editor, if views are told apart by their numbers. -/
theorem ViewsApart.activeEditor_eq_some {h : HeadlessEditor} (hv : h.ViewsApart) {e : EditorRef} :
    h.activeEditor = some e ↔ h.active = some e.id ∧ e ∈ h.visibleEditors := by
  constructor
  · intro he
    obtain ⟨v, hview, rfl⟩ := Option.map_eq_some_iff.1 he
    obtain ⟨id, hactive, hview⟩ := Option.bind_eq_some_iff.1 hview
    have hid : v.id = id := by simpa using List.find?_some hview
    exact ⟨hactive.trans (congrArg some hid.symm),
      List.mem_map_of_mem (List.mem_of_find?_eq_some hview)⟩
  · rintro ⟨hactive, he⟩
    obtain ⟨v, hmem, rfl⟩ := List.mem_map.1 he
    rw [activeEditor, hactive, Option.bind_some]
    cases hview : h.viewById? v.id with
    | none => exact absurd (List.find?_eq_none.1 hview v hmem) (by simp)
    | some w =>
      have hid : w.id = v.id := by simpa using List.find?_some hview
      have hw : w.ref ∈ h.visibleEditors := List.mem_map_of_mem (List.mem_of_find?_eq_some hview)
      have heq : w.ref = v.ref := hv.eq_of_id hw he hid
      simp only [View.ref, hview, Option.map_some]
      exact congrArg some heq

theorem ViewsApart.activeEditor_close {h : HeadlessEditor} (hv : h.ViewsApart) (uri : String)
    {e : EditorRef} :
    (h.close uri).2.activeEditor = some e ↔ h.activeEditor = some e ∧ e.uri ≠ uri := by
  have hactive : (h.close uri).2.active = some e.id ↔
      h.active = some e.id ∧ ∃ v ∈ h.views, v.uri ≠ uri ∧ v.id = e.id := by
    show Option.filter (fun id => (h.views.filter (·.uri ≠ uri)).any (·.id = id)) h.active = _ ↔ _
    simp [Option.filter_eq_some_iff]
  rw [(hv.close uri).activeEditor_eq_some, hv.activeEditor_eq_some, visibleEditors_close, hactive,
    List.mem_filter, decide_eq_true_eq]
  constructor
  · rintro ⟨⟨hactive, -⟩, he, hne⟩
    exact ⟨⟨hactive, he⟩, hne⟩
  · rintro ⟨⟨hactive, he⟩, hne⟩
    obtain ⟨v, hmem, rfl⟩ := List.mem_map.1 he
    exact ⟨⟨hactive, v, hmem, hne, rfl⟩, he, hne⟩

theorem selection?_close {h : HeadlessEditor} {e : EditorRef}
    (hid : ∀ e' ∈ h.visibleEditors, e'.id = e.id → e' = e) (uri : String) :
    (h.close uri).2.selection? e.id = if e.uri = uri then none else h.selection? e.id := by
  have huri : ∀ v ∈ h.views, v.id = e.id → v.uri = e.uri := fun v hmem hv =>
    congrArg EditorRef.uri (hid v.ref (List.mem_map_of_mem hmem) hv)
  simp only [selection?, viewById?, close, List.find?_filter]
  split
  next hu =>
    rw [List.find?_eq_none.2]
    · rfl
    · intro v hmem hv
      simp only [decide_eq_true_eq] at hv
      exact hv.1 ((huri v hmem hv.2).trans hu)
  next hu =>
    rw [← List.head?_filter, ← List.head?_filter]
    refine congrArg (fun vs : List View => vs.head?.map View.selection)
      (List.filter_congr fun v hmem => ?_)
    by_cases hv : v.id = e.id
    · simp [hv, huri v hmem hv, hu]
    · simp [hv]

theorem selection?_setSelection (h : HeadlessEditor) (id : EditorId) (selection : Selection)
    (other : EditorId) :
    (h.setSelection id selection).selection? other =
      if id = other then (h.selection? other).map fun _ => selection else h.selection? other := by
  have hid : ((fun v : View => decide (v.id = other)) ∘ fun v : View =>
      if v.id = id then { v with selection } else v) = fun v => decide (v.id = other) := by
    funext v
    simp only [Function.comp]
    split <;> rfl
  simp only [selection?, viewById?, setSelection, List.find?_map, hid, Option.map_map]
  split
  next heq =>
    refine Option.map_congr fun v hv => ?_
    have hv : v.id = other := by simpa using List.find?_some hv
    simp [hv, heq]
  next hne =>
    refine Option.map_congr fun v hv => ?_
    have hv : v.id = other := by simpa using List.find?_some hv
    simp [hv, Ne.symm hne]

/-! ## What becomes of the views -/

/-- Some views may have gone, and a view that has come is a new one. -/
structure Unfolds (h h' : HeadlessEditor) : Prop where
  apart : h.ViewsApart → h'.ViewsApart
  visible : ∀ e ∈ h'.visibleEditors, e ∈ h.visibleEditors ∨ h.latestEditor < e.id.number
  latest : h.latestEditor ≤ h'.latestEditor

theorem Unfolds.of_same {h h' : HeadlessEditor} (visible : h'.visibleEditors = h.visibleEditors)
    (latest : h'.latestEditor = h.latestEditor) : h.Unfolds h' where
  apart := fun ⟨ids, uris, id_le⟩ => ⟨visible ▸ ids, visible ▸ uris, visible ▸ latest ▸ id_le⟩
  visible _ he := .inl (visible ▸ he)
  latest := Nat.le_of_eq latest.symm

theorem Unfolds.refl (h : HeadlessEditor) : h.Unfolds h := .of_same rfl rfl

theorem unfolds_setSelection (h : HeadlessEditor) (id : EditorId) (selection : Selection) :
    h.Unfolds (h.setSelection id selection) :=
  .of_same (h.visibleEditors_setSelection id selection) rfl

theorem unfolds_close (h : HeadlessEditor) (uri : String) : h.Unfolds (h.close uri).2 where
  apart hv := hv.close uri
  visible e he := by
    rw [visibleEditors_close] at he
    exact .inl (List.mem_filter.1 he).1
  latest := Nat.le_refl _

theorem unfolds_edit {h h' : HeadlessEditor} {uri text : String} {event : EditorEvent}
    (he : h.edit uri text = .ok (event, h')) : h.Unfolds h' := by
  obtain ⟨-, hviews, hlatest, -, -⟩ := edit_ok he
  exact .of_same (congrArg (List.map View.ref) hviews) hlatest

theorem unfolds_showDocument {h h' : HeadlessEditor} {uri : String} {event : EditorEvent}
    (hs : h.showDocument uri = .ok (event, h')) : h.Unfolds h' where
  apart := (showDocument_ok hs).2.2.2.2
  visible e he := by
    unfold showDocument at hs
    split at hs
    next =>
      split at hs
      next => cases hs; exact .inl he
      next =>
        cases hs
        simp only [visibleEditors, List.map_append, List.mem_append, List.map_cons, List.map_nil,
          List.mem_singleton] at he
        rcases he with he | rfl
        · exact .inl he
        · exact .inr (Nat.lt_succ_self _)
    next => cases hs
  latest := by
    unfold showDocument at hs
    split at hs
    next =>
      split at hs
      next => cases hs; exact Nat.le_refl _
      next => cases hs; exact Nat.le_succ _
    next => cases hs

end HeadlessEditor

end LanguageClient
