import LanguageClient.Proofs.Client.Painting
import LanguageClient.Proofs.Highlight.Locality

/-!
# Affairs of one document

A new set for a document, an edit or a close that the overlay follows at once, and the marker of a
computed term are *affairs* of one document each.  They all go through the same records, the same
counter of handles and the one active editor.

What an affair does to an editor is a *stroke*: it takes away some sorts of decorations and adds some.
The stroke depends on how the editor and its document stand and on nothing else
(`Client.IsAccounted.gives`), and an affair of another document leaves them as they stand
(`Client.IsAccounted.standing_undergo`).  What becomes of the selection and of the cached set is told
from these alone (`selection?_undergo`, `cached?_undergo`).
-/

namespace LanguageClient

/-- Something that is done about one document. -/
inductive Affair
  /-- A new set comes for it. -/
  | sets (r : HighlightResult)
  | edits (uri text : String)
  | closes (uri : String)
  /-- A computed term is marked in one of its editors. -/
  | marks (e : EditorRef) (r : ComputeTermResult)

namespace Affair

/-- The document that it is about. -/
def uri : Affair → String
  | sets r => r.uri
  | edits uri _ => uri
  | closes uri => uri
  | marks e _ => e.uri

/-- If it speaks of an editor, of a known one. -/
def Names (known : EditorRef → Prop) : Affair → Prop
  | marks e _ => known e
  | _ => True

end Affair

namespace Client

/-- The overlay follows what the editor reports; where the editor refuses, nothing happens. -/
def follow (c : Client) : Except HostError (EditorEvent × HeadlessEditor) → Client
  | .ok (event, editor) => { c with editor }.perform (.event event)
  | .error _ => c

/-- The client after an affair. -/
def undergo (c : Client) : Affair → Client
  | .sets r => c.perform (.highlights r)
  | .edits uri text => c.follow (c.editor.edit uri text)
  | .closes uri => c.follow (.ok (c.editor.close uri))
  | .marks e r => c.route e (.computed r)

end Client

/-! ## The editor beside its decorations -/

/-- Decorations come and go without anything else. -/
theorem HeadlessEditor.canvas_kept (h : HeadlessEditor) :
    KeptByDecorating fun h' : HeadlessEditor => ∃ canvas, h' = { h with canvas } where
  create := by
    rintro _ ⟨canvas, rfl⟩ editor style ranges hover
    exact ⟨_, rfl⟩
  dispose := by
    rintro _ ⟨canvas, rfl⟩ handle
    exact ⟨_, rfl⟩

namespace Affair

variable {h : HeadlessEditor} {a : Affair} {e : EditorRef}

/-- What it does to the editor without the overlay, if no decorations are counted. -/
def onEditor (h : HeadlessEditor) : Affair → HeadlessEditor
  | sets _ => h
  | edits uri text =>
    match h.edit uri text with
    | .ok (_, h) => h
    | .error _ => h
  | closes uri => (h.close uri).2
  | marks e r => if e.uri = r.uri then h.setSelection e.id (.ofRange r.range) else h

/-- An edit changes one text at most. -/
theorem exists_onEditor_edits (h : HeadlessEditor) (uri text : String) :
    ∃ documents, (edits uri text).onEditor h = { h with documents } ∧
      ∀ other, other ≠ uri → documents.get? other = h.documents.get? other := by
  dsimp only [onEditor, HeadlessEditor.edit]
  split
  next hedit =>
    split at hedit
    next => cases hedit
    next =>
      split at hedit
      next => cases hedit; exact ⟨h.documents, rfl, fun _ _ => rfl⟩
      next =>
        cases hedit
        refine ⟨_, rfl, fun other hne => ?_⟩
        rw [Table.get?_set, if_neg hne.symm]
  next => exact ⟨h.documents, rfl, fun _ _ => rfl⟩

theorem documents_onEditor {uri : String} (hne : uri ≠ a.uri) :
    (a.onEditor h).documents.get? uri = h.documents.get? uri := by
  cases a with
  | sets r => rfl
  | edits edited text =>
    obtain ⟨documents, heq, hsame⟩ := exists_onEditor_edits h edited text
    rw [heq]
    exact hsame uri hne
  | closes closed =>
    show (h.documents.erase closed).get? uri = _
    exact (Table.get?_erase h.documents closed uri).trans (if_neg (Ne.symm hne))
  | marks e r =>
    dsimp only [onEditor]
    split <;> rfl

/-- The editors of other documents stay visible. -/
theorem mem_visibleEditors_onEditor (hne : e.uri ≠ a.uri) :
    e ∈ (a.onEditor h).visibleEditors ↔ e ∈ h.visibleEditors := by
  cases a with
  | sets r => exact .rfl
  | edits uri text =>
    obtain ⟨documents, heq, -⟩ := exists_onEditor_edits h uri text
    rw [heq]
    exact .rfl
  | closes uri =>
    rw [onEditor, HeadlessEditor.visibleEditors_close, List.mem_filter]
    exact and_iff_left (decide_eq_true hne)
  | marks marked r =>
    dsimp only [onEditor]
    split
    next => rw [HeadlessEditor.visibleEditors_setSelection]
    next => rfl

/-- They stay active, and none of them becomes active. -/
theorem activeEditor_onEditor (hv : h.ViewsApart) (hne : e.uri ≠ a.uri) :
    (a.onEditor h).activeEditor = some e ↔ h.activeEditor = some e := by
  cases a with
  | sets r => exact .rfl
  | edits uri text =>
    obtain ⟨documents, heq, -⟩ := exists_onEditor_edits h uri text
    rw [heq]
    exact .rfl
  | closes uri =>
    rw [onEditor, hv.activeEditor_close]
    exact and_iff_left hne
  | marks marked r =>
    dsimp only [onEditor]
    split
    next =>
      have hv' := (h.unfolds_setSelection marked.id (.ofRange r.range)).apart hv
      rw [hv'.activeEditor_eq_some, hv.activeEditor_eq_some, HeadlessEditor.visibleEditors_setSelection]
      exact .rfl
    next => exact .rfl

/-- What becomes of the selection of an editor. -/
def selects (e : EditorRef) (s : Option Selection) : Affair → Option Selection
  | closes uri => if e.uri = uri then none else s
  | marks marked r =>
    if marked.uri = r.uri ∧ marked.id = e.id then s.map fun _ => .ofRange r.range else s
  | _ => s

theorem selection?_onEditor (hid : ∀ e' ∈ h.visibleEditors, e'.id = e.id → e' = e) :
    (a.onEditor h).selection? e.id = a.selects e (h.selection? e.id) := by
  cases a with
  | sets r => rfl
  | edits uri text =>
    obtain ⟨documents, heq, -⟩ := exists_onEditor_edits h uri text
    rw [heq]
    rfl
  | closes uri => exact HeadlessEditor.selection?_close hid uri
  | marks marked r =>
    dsimp only [onEditor, selects]
    by_cases accepted : marked.uri = r.uri
    · rw [if_pos accepted, HeadlessEditor.selection?_setSelection]
      simp only [accepted, true_and]
    · rw [if_neg accepted, if_neg fun hand => accepted hand.1]

end Affair

/-! ## What an affair depends on -/

/-- How an editor and its document stand. -/
structure Standing where
  document : Option Document
  visible : Bool
  active : Bool

/-- What is taken away from an editor, and what is added. -/
structure Stroke where
  takes : DecorationSort → Bool := fun _ => false
  adds : List (DecorationStyle × List Range × Option String) := []

/-- The decorations after a stroke. -/
def Stroke.Gives (s : Stroke) (ds ds' : List RenderedDecoration) : Prop :=
  ∃ made, ds' = ds.filter (fun d => ¬ s.takes d.sort) ++ made ∧
    made.map RenderedDecoration.look = s.adds

/-- What an affair does to an editor. -/
def Affair.stroke (e : EditorRef) (s : Standing) : Affair → Stroke
  | sets r =>
    if e.uri = r.uri ∧ s.document.isSome then
      { takes := (· = .highlight), adds := if s.visible then Overlay.rowOf r.symbols else [] }
    else {}
  | edits uri text =>
    if e.uri = uri ∧ s.active ∧ s.document.any (·.text ≠ text) then { takes := fun _ => true } else {}
  | closes uri => if e.uri = uri then { takes := fun _ => true } else {}
  | marks marked r =>
    if marked.uri = r.uri ∧ marked.id = e.id then
      { takes := (· = .marker), adds := [(.computed, [r.range], some r.computed)] }
    else {}

/-- What becomes of the set that is cached for the document. -/
def Affair.caches (isOpen : Bool) (cached : Option (List Symbol)) : Affair → Option (List Symbol)
  | sets r => if isOpen then some r.symbols else cached
  | closes _ => none
  | _ => cached

theorem Affair.stroke_of_ne {a : Affair} {e : EditorRef} (hne : e.uri ≠ a.uri)
    (hid : ∀ marked r, a = marks marked r → marked.id ≠ e.id) {s : Standing} : a.stroke e s = {} := by
  cases a with
  | sets r => exact if_neg fun hand => hne hand.1
  | edits uri text => exact if_neg fun hand => hne hand.1
  | closes uri => exact if_neg hne
  | marks marked r => exact if_neg fun hand => hid marked r rfl hand.2

theorem Affair.selects_of_ne {a : Affair} {e : EditorRef} (hne : e.uri ≠ a.uri)
    (hid : ∀ marked r, a = marks marked r → marked.id ≠ e.id) {s : Option Selection} :
    a.selects e s = s := by
  cases a with
  | sets r => rfl
  | edits uri text => rfl
  | closes uri => exact if_neg hne
  | marks marked r => exact if_neg fun hand => hid marked r rfl hand.2

namespace Stroke

variable {s : Stroke} {ds ds' es es' : List RenderedDecoration}

theorem gives_nothing : ({} : Stroke).Gives ds ds' ↔ ds' = ds := by
  simp [Gives]

theorem gives_all (hs : ∀ sort, s.takes sort = true) (hadds : s.adds = []) :
    s.Gives ds ds' ↔ ds' = [] := by
  simp [Gives, hs, hadds]

/-- What looks the same looks the same after the same stroke. -/
theorem Gives.look_eq (h : s.Gives ds ds') (h' : s.Gives es es')
    (hlook : ds.map RenderedDecoration.look = es.map RenderedDecoration.look) :
    ds'.map RenderedDecoration.look = es'.map RenderedDecoration.look := by
  have hkept (ds : List RenderedDecoration) :
      (ds.filter fun d => ¬ s.takes d.sort).map RenderedDecoration.look =
        (ds.map RenderedDecoration.look).filter fun l => ¬ s.takes l.1.sort := by
    rw [List.filter_map]
    rfl
  obtain ⟨made, rfl, hmade⟩ := h
  obtain ⟨made', rfl, hmade'⟩ := h'
  rw [List.map_append, List.map_append, hkept, hkept, hlook, hmade, hmade']

end Stroke

namespace Client

variable {known : EditorRef → Prop} {c c' : Client} {a : Affair} {e : EditorRef}

/-! ## What stays in order -/

/-- Where no editor has become visible, none has become known. -/
theorem IsAccounted.unlearn (h : c'.IsAccounted (c'.Learns known))
    (visible : ∀ e ∈ c'.editor.visibleEditors, known e) : c'.IsAccounted known := by
  have learns : c'.Learns known = known := by
    funext e
    exact propext ⟨fun he => he.elim id (visible e), .inl⟩
  rwa [learns] at h

/-- People do something by hand that makes no editor visible. -/
theorem IsAccounted.turn (h : c.IsAccounted known) {editor : HeadlessEditor}
    (unfolds : c.editor.Unfolds editor) (canvas : editor.canvas = c.editor.canvas)
    (fewer : ∀ e ∈ editor.visibleEditors, e ∈ c.editor.visibleEditors) :
    IsAccounted known { c with editor } := by
  have paints : c.Paints known none { c with editor } := .nothing unfolds canvas rfl
  exact (paints.isAccounted h).unlearn fun e he => h.visible e (fewer e he)

/-- The overlay follows an event, or takes a set. -/
theorem IsAccounted.perform (h : c.IsAccounted known) {d : Dispatch}
    (hknown : ∀ e, d = .event (.activeChanged (some e)) → known e) :
    (c.perform d).IsAccounted known := by
  have kept := c.editor.sameViews_kept.toKeptByDecorating
  cases d with
  | event event =>
    have paints : c.Paints known none (c.perform (.event event)) :=
      .follows event (fun e he => hknown e (congrArg _ he)) rfl rfl
    have same := c.overlay.kept_handle kept (.refl _) event
    exact (paints.isAccounted h).unlearn fun e he => h.visible e (same.1 ▸ he)
  | highlights r =>
    have paints : c.Paints known none (c.perform (.highlights r)) := .takes r rfl rfl
    have same := c.overlay.kept_applyHighlights kept (.refl _) r
    exact (paints.isAccounted h).unlearn fun e he => h.visible e (same.1 ▸ he)
  | barrier task =>
    have paints : c.Paints known none (c.perform (.barrier task)) := .nothing (.refl _) rfl rfl
    exact (paints.isAccounted h).unlearn h.visible

theorem IsAccounted.route (h : c.IsAccounted known) (he : known e) (r : ComputeTermResult) :
    (c.route e (.computed r)).IsAccounted known := by
  have paints : c.Paints known (some (e, r)) (c.route e (.computed r)) := .marks e r rfl he rfl rfl
  have same := c.overlay.kept_showComputed c.editor.sameViews_kept (.refl _) e r
  exact (paints.isAccounted h).unlearn fun e he => h.visible e (same.1 ▸ he)

theorem IsAccounted.clear (h : c.IsAccounted known) (id : EditorId) :
    IsAccounted known { c with
      overlay := (c.overlay.clear c.editor id).1, editor := (c.overlay.clear c.editor id).2 } := by
  obtain ⟨x, hx, accounts⟩ := h.accounts
  have same := c.overlay.kept_clear c.editor.sameViews_kept.toKeptByDecorating (.refl _) id
  have hmap := Overlay.clear_map AuditedEditor.hostMap_editor c.overlay x id
  rw [hx] at hmap
  have cleared := accounts.clear id
  refine (h.of_unfolds same.unfolds ⟨(c.overlay.clear x id).2, ?_, ?_⟩ fun e uri hs => ?_).unlearn
    fun e he => h.visible e (same.1 ▸ he)
  · rw [hmap]
    rfl
  · rw [hmap]
    exact cleared
  · exact h.seats e uri (c.overlay.seat?_clear c.editor id ▸ hs)

/-- Another document in the place of one. -/
def revise (c : Client) (uri : String) (d : Document) : Client :=
  { c with editor := { c.editor with documents := c.editor.documents.set uri d } }

theorem IsAccounted.revise (h : c.IsAccounted known) (uri : String) (d : Document) :
    (c.revise uri d).IsAccounted known :=
  h.turn (.of_same rfl rfl) rfl fun _ he => he

/-- An edit that changes the text is followed, and every other one comes to nothing. -/
theorem undergo_edits (c : Client) (uri text : String) :
    c.undergo (.edits uri text) = c ∧
      (c.editor.documents.get? uri).any (·.text ≠ text) = false ∨
    ∃ d, c.editor.documents.get? uri = some d ∧ d.text ≠ text ∧
      c.undergo (.edits uri text) =
        (c.revise uri { d with text, dirty := true }).perform
          (.event (.documentChanged uri true)) := by
  cases hd : c.editor.documents.get? uri with
  | none => exact .inl ⟨by simp only [undergo, HeadlessEditor.edit, hd, follow], rfl⟩
  | some d =>
    by_cases htext : d.text = text
    · refine .inl ⟨?_, by simp [htext]⟩
      simp only [undergo, HeadlessEditor.edit, hd, htext, if_true, follow]
      rfl
    · refine .inr ⟨d, rfl, htext, ?_⟩
      simp only [undergo, HeadlessEditor.edit, hd, htext, if_false, follow, revise]

theorem IsAccounted.undergo (h : c.IsAccounted known) (names : a.Names known) :
    (c.undergo a).IsAccounted known := by
  cases a with
  | sets r => exact h.perform (d := .highlights r) nofun
  | edits uri text =>
    obtain ⟨heq, -⟩ | ⟨d, -, -, heq⟩ := c.undergo_edits uri text
    · rwa [heq]
    · rw [heq]
      exact (h.revise uri _).perform nofun
  | closes uri =>
    have turned : IsAccounted known { c with editor := (c.editor.close uri).2 } := by
      refine h.turn (c.editor.unfolds_close uri) rfl fun e he => ?_
      rw [HeadlessEditor.visibleEditors_close] at he
      exact (List.mem_filter.1 he).1
    exact turned.perform (d := .event (.documentClosed uri)) nofun
  | marks marked r => exact h.route names r

/-! ## What an affair does -/

/-- What the overlay adds to an affair is decorations. -/
theorem exists_undergo (c : Client) (a : Affair) :
    ∃ canvas, (c.undergo a).editor = { a.onEditor c.editor with canvas } := by
  cases a with
  | sets r => exact c.overlay.kept_applyHighlights c.editor.canvas_kept ⟨_, rfl⟩ r
  | edits uri text =>
    dsimp only [undergo, Affair.onEditor]
    cases c.editor.edit uri text with
    | error e => exact ⟨_, rfl⟩
    | ok result => exact c.overlay.kept_handle result.2.canvas_kept ⟨_, rfl⟩ result.1
  | closes uri =>
    exact c.overlay.kept_handle (c.editor.close uri).2.canvas_kept ⟨c.editor.canvas, rfl⟩
      (.documentClosed uri)
  | marks e r =>
    show ∃ canvas, (c.overlay.showComputed c.editor e r).2.2 = _
    dsimp only [Overlay.showComputed, Affair.onEditor]
    by_cases accepted : e.uri = r.uri
    · rw [if_pos accepted, if_pos accepted]
      obtain ⟨canvas, heq⟩ := c.editor.canvas_kept.create
        (Overlay.kept_disposeAll c.editor.canvas_kept ⟨_, rfl⟩ _) e.id .computed [r.range]
        (some r.computed)
      exact ⟨canvas, congrArg (HeadlessEditor.setSelection · e.id (.ofRange r.range)) heq⟩
    · rw [if_neg accepted, if_neg accepted]
      exact ⟨_, rfl⟩

def standing (c : Client) (e : EditorRef) : Standing where
  document := c.editor.documents.get? e.uri
  visible := e ∈ c.editor.visibleEditors
  active := c.editor.activeEditor = some e

/-- **An affair of another document** leaves an editor as it stands. -/
theorem IsAccounted.standing_undergo (h : c.IsAccounted known) (hne : e.uri ≠ a.uri) :
    (c.undergo a).standing e = c.standing e := by
  obtain ⟨canvas, heq⟩ := c.exists_undergo a
  simp only [standing, heq, Standing.mk.injEq]
  refine ⟨Affair.documents_onEditor hne, ?_, ?_⟩
  · exact decide_eq_decide.2 (Affair.mem_visibleEditors_onEditor hne)
  · exact decide_eq_decide.2 (Affair.activeEditor_onEditor h.apart hne)

theorem IsAccounted.selection?_undergo (h : c.IsAccounted known) (he : known e) :
    (c.undergo a).editor.selection? e.id = a.selects e (c.editor.selection? e.id) := by
  obtain ⟨canvas, heq⟩ := c.exists_undergo a
  rw [heq]
  exact Affair.selection?_onEditor fun e' he' hid => h.unique e' e (h.visible e' he') he hid

theorem IsAccounted.gives_sets (h : c.IsAccounted known) (he : known e) (r : HighlightResult) :
    (Affair.stroke e (c.standing e) (.sets r)).Gives (c.decorations e.id)
      ((c.undergo (.sets r)).decorations e.id) := by
  obtain ⟨x, hx, accounts⟩ := h.accounts
  have hdecorations : (c.undergo (.sets r)).decorations e.id =
      (c.overlay.applyHighlights c.editor r).2.2.canvas.inEditor e.id := rfl
  have hopen : (c.standing e).document.isSome = c.editor.isOpen e.uri := rfl
  by_cases accepted : c.editor.isOpen r.uri = true
  · obtain ⟨made, hds, hlook⟩ := accounts.inEditor_applyHighlights (h.seated he) (hx ▸ h.apart)
      (fun e' he' hid => h.unique e' e (h.visible e' (hx ▸ he')) he hid) r (hx ▸ accepted)
    rw [hx] at hds hlook
    rw [hdecorations, hds]
    by_cases hu : e.uri = r.uri
    · rw [Affair.stroke, if_pos ⟨hu, by rw [hopen, hu, accepted]⟩]
      refine ⟨made, ?_, ?_⟩
      · simp [hu, decorations]
      · simp [hlook, hu, standing]
    · simp only [hu, and_false, if_false, List.map_eq_nil_iff] at hlook
      rw [Affair.stroke, if_neg fun hand => hu hand.1, Stroke.gives_nothing]
      simp [hu, hlook, decorations]
  · have hrefused : c.overlay.applyHighlights c.editor r = (false, c.overlay, c.editor) :=
      if_neg accepted
    have hclosed : ¬ (e.uri = r.uri ∧ (c.standing e).document.isSome = true) := by
      rintro ⟨hu, hsome⟩
      rw [hopen, hu] at hsome
      exact accepted hsome
    rw [hdecorations, hrefused, Affair.stroke, if_neg hclosed, Stroke.gives_nothing]
    rfl

theorem IsAccounted.gives_edits (h : c.IsAccounted known) (he : known e) (uri text : String) :
    (Affair.stroke e (c.standing e) (.edits uri text)).Gives (c.decorations e.id)
      ((c.undergo (.edits uri text)).decorations e.id) := by
  obtain ⟨heq, hsame⟩ | ⟨d, hd, htext, heq⟩ := c.undergo_edits uri text
  · have hnot : ¬ (e.uri = uri ∧ (c.standing e).active ∧
        (c.standing e).document.any (·.text ≠ text) = true) := by
      rintro ⟨rfl, -, hother⟩
      exact absurd (hother.symm.trans hsame) nofun
    rw [heq, Affair.stroke, if_neg hnot, Stroke.gives_nothing]
  · have hcleared : (c.undergo (.edits uri text)).decorations e.id =
        if c.editor.activeEditor = some e ∧ e.uri = uri then [] else c.decorations e.id := by
      rw [heq]
      exact (h.revise uri _).decorations_change he uri
    rw [hcleared, Affair.stroke]
    by_cases hreached : c.editor.activeEditor = some e ∧ e.uri = uri
    · have hother : (c.standing e).document.any (·.text ≠ text) = true := by
        simp [standing, hreached.2, hd, htext]
      rw [if_pos hreached, if_pos ⟨hreached.2, decide_eq_true hreached.1, hother⟩,
        Stroke.gives_all (fun _ => rfl) rfl]
    · rw [if_neg hreached, if_neg fun hand => hreached ⟨of_decide_eq_true hand.2.1, hand.1⟩,
        Stroke.gives_nothing]

theorem IsAccounted.gives_closes (h : c.IsAccounted known) (he : known e) (uri : String) :
    (Affair.stroke e (c.standing e) (.closes uri)).Gives (c.decorations e.id)
      ((c.undergo (.closes uri)).decorations e.id) := by
  obtain ⟨x, hx, accounts⟩ := h.accounts
  have closed : c.overlay.Accounts { x with editor := (c.editor.close uri).2 } :=
    accounts.of_canvas (congrArg HeadlessEditor.canvas hx).symm rfl
  have hforgets : (c.undergo (.closes uri)).decorations e.id =
      if e.uri = uri then [] else c.decorations e.id := closed.inEditor_forget (h.seated he) uri
  rw [hforgets, Affair.stroke]
  split
  next => exact (Stroke.gives_all (fun _ => rfl) rfl).2 rfl
  next => exact Stroke.gives_nothing.2 rfl

theorem IsAccounted.gives_marks (h : c.IsAccounted known) {marked : EditorRef} (hmarked : known marked)
    (e : EditorRef) (r : ComputeTermResult) :
    (Affair.stroke e (c.standing e) (.marks marked r)).Gives (c.decorations e.id)
      ((c.undergo (.marks marked r)).decorations e.id) := by
  obtain ⟨x, hx, accounts⟩ := h.accounts
  have hdecorations : (c.undergo (.marks marked r)).decorations e.id =
      (c.overlay.showComputed c.editor marked r).2.2.canvas.inEditor e.id := rfl
  by_cases accepted : marked.uri = r.uri
  · obtain ⟨handle, hds⟩ := accounts.inEditor_showComputed (h.seated hmarked) accepted e.id
    rw [hx] at hds
    rw [hdecorations, hds]
    by_cases hid : marked.id = e.id
    · rw [Affair.stroke, if_pos ⟨accepted, hid⟩]
      refine ⟨[⟨handle, e.id, .computed, [r.range], some r.computed⟩], ?_, rfl⟩
      simp [hid, decorations]
    · rw [Affair.stroke, if_neg fun hand => hid hand.2, Stroke.gives_nothing]
      simp [Ne.symm hid, decorations]
  · have hrefused : c.overlay.showComputed c.editor marked r = (false, c.overlay, c.editor) :=
      if_neg accepted
    rw [hdecorations, hrefused, Affair.stroke, if_neg fun hand => accepted hand.1,
      Stroke.gives_nothing]
    rfl

/-- **What an affair does to an editor** is told from the editor alone. -/
theorem IsAccounted.gives (h : c.IsAccounted known) (names : a.Names known) (he : known e) :
    (a.stroke e (c.standing e)).Gives (c.decorations e.id) ((c.undergo a).decorations e.id) := by
  cases a with
  | sets r => exact h.gives_sets he r
  | edits uri text => exact h.gives_edits he uri text
  | closes uri => exact h.gives_closes he uri
  | marks marked r => exact h.gives_marks names e r

theorem isOpen_undergo (c : Client) {uri : String} (hne : uri ≠ a.uri) :
    (c.undergo a).editor.isOpen uri = c.editor.isOpen uri := by
  obtain ⟨canvas, heq⟩ := c.exists_undergo a
  rw [heq]
  exact congrArg Option.isSome (Affair.documents_onEditor hne)

theorem cached?_undergo (c : Client) (a : Affair) (uri : String) :
    (c.undergo a).overlay.cached? uri =
      if a.uri = uri then a.caches (c.editor.isOpen uri) (c.overlay.cached? uri)
      else c.overlay.cached? uri := by
  cases a with
  | sets r =>
    refine (c.overlay.cached?_applyHighlights c.editor r uri).trans ?_
    by_cases hu : r.uri = uri
    · subst hu
      simp only [and_true, Affair.uri, Affair.caches, if_true]
      rfl
    · rw [if_neg fun hand => hu hand.2]
      exact (if_neg hu).symm
  | edits edited text =>
    have hcache : (c.undergo (.edits edited text)).overlay.cache = c.overlay.cache := by
      obtain ⟨heq, -⟩ | ⟨d, -, -, heq⟩ := c.undergo_edits edited text
      · rw [heq]
      · rw [heq]
        simp only [perform, Overlay.handle]
        split
        next =>
          split
          next => exact Overlay.cache_clear _ _ _
          next => rfl
        next => rfl
    rw [Overlay.cached?, hcache]
    exact (ite_self _).symm
  | closes closed => exact c.overlay.cached?_forget (c.editor.close closed).2 closed uri
  | marks marked r =>
    refine (congrArg (Table.get? · uri) (c.overlay.cache_showComputed c.editor marked r)).trans ?_
    exact (ite_self _).symm

end Client

end LanguageClient
