import LanguageClient.Proofs.Highlight.Upkeep

/-!
# An overlay on an editor

A `Scene` is an overlay and the host that it paints on.  A person opens, shows, edits and closes
documents, and the overlay follows every event of the editor at once; in between, new sets arrive,
editors are cleared, and visible editors are painted or get the marker of a computed term
(`Deed`).

`overlay_owns_what_is_painted` holds of every scene that comes of such deeds: the overlay knows every
decoration of the host, each one once; no editor shows two sets at once, or the set of another
document, or two markers; and nothing is left of what was closed.  The proof is for an audited editor,
where a step keeps `Scene.IsKept`; dropping the list of requests gives the plain editor (`act?_map`).
-/

namespace LanguageClient

structure Scene (σ : Type) where
  host : σ
  overlay : Overlay := {}

/-- What may happen to a scene. -/
inductive Deed
  | opens (uri text : String)
  | shows (uri : String)
  | edits (uri text : String)
  | closes (uri : String)
  | applies (result : HighlightResult)
  | clears (editor : EditorId)
  | paints (editor : EditorRef)
  | computes (editor : EditorRef) (result : ComputeTermResult)

namespace Scene

/-- The same scene on another host. -/
def map {σ τ : Type} (f : σ → τ) (s : Scene σ) : Scene τ := { host := f s.host, overlay := s.overlay }

section

variable {σ : Type} [PlayedHost σ]

/-- The overlay follows what the editor reports; where the editor refuses, nothing happens. -/
def follow (s : Scene σ) : Except HostError (EditorEvent × HeadlessEditor) → Scene σ
  | .ok (event, editor) =>
    let (overlay, host) := s.overlay.handle (PlayedHost.play s.host editor) event
    { host, overlay }
  | .error _ => s

/-- One deed.  Only an editor that is visible is painted or marked. -/
def act? (s : Scene σ) : Deed → Option (Scene σ)
  | .opens uri text =>
    some { s with host := PlayedHost.play s.host ((PlayedHost.editor s.host).openDocument uri text) }
  | .shows uri => some (s.follow ((PlayedHost.editor s.host).showDocument uri))
  | .edits uri text => some (s.follow ((PlayedHost.editor s.host).edit uri text))
  | .closes uri => some (s.follow (.ok ((PlayedHost.editor s.host).close uri)))
  | .applies result =>
    let (_, overlay, host) := s.overlay.applyHighlights s.host result
    some { host, overlay }
  | .clears editor =>
    let (overlay, host) := s.overlay.clear s.host editor
    some { host, overlay }
  | .paints editor =>
    if editor ∈ EditorHost.visibleEditors s.host then
      let (overlay, host) := s.overlay.showFor s.host editor
      some { host, overlay }
    else none
  | .computes editor result =>
    if editor ∈ EditorHost.visibleEditors s.host then
      let (_, overlay, host) := s.overlay.showComputed s.host editor result
      some { host, overlay }
    else none

/-- A whole history of deeds. -/
def after? (s : Scene σ) (deeds : List Deed) : Option (Scene σ) := deeds.foldlM act? s

end

/-! ## A step on an audited editor -/

/-- What every deed keeps. -/
structure IsKept (s : Scene AuditedEditor) : Prop where
  accounts : s.overlay.Accounts s.host
  fits : s.overlay.Fits s.host.editor
  views : s.host.editor.ViewsApart

/-- The same documents, and the same views of them. -/
structure SameDocuments (e : HeadlessEditor) (a : AuditedEditor) : Prop where
  visible : a.editor.visibleEditors = e.visibleEditors
  latest : a.editor.latestEditor = e.latestEditor
  isOpen : ∀ uri, a.editor.isOpen uri = e.isOpen uri

theorem sameDocuments_kept (e : HeadlessEditor) : KeptByPainting (SameDocuments e) where
  create := fun ⟨visible, latest, isOpen⟩ _ _ _ _ => ⟨visible, latest, isOpen⟩
  dispose := fun ⟨visible, latest, isOpen⟩ _ => ⟨visible, latest, isOpen⟩
  setSelection := fun {h} ⟨visible, latest, isOpen⟩ editor selection =>
    ⟨(h.editor.visibleEditors_setSelection editor selection).trans visible, latest, isOpen⟩

/-- What is left to say of a deed of the overlay once its accounts are in order: where it painted,
and of which documents it now has a set. -/
theorem IsKept.of_same {o : Overlay} {a : AuditedEditor} {e : HeadlessEditor}
    (hsame : SameDocuments e a) (hv : e.ViewsApart) (haccounts : o.Accounts a)
    (hseats : ∀ id uri, o.seat? id = some uri → ⟨id, uri⟩ ∈ e.visibleEditors)
    (hopened : ∀ uri, (o.cached? uri).isSome → e.isOpen uri) : IsKept ⟨a, o⟩ where
  accounts := haccounts
  fits := ⟨fun id uri hs => hsame.visible ▸ hseats id uri hs,
    fun uri hc => (hsame.isOpen uri).trans (hopened uri hc)⟩
  views := by
    obtain ⟨ids, uris, id_le⟩ := hv
    rw [← hsame.visible] at ids uris id_le
    rw [← hsame.latest] at id_le
    exact ⟨ids, uris, id_le⟩

theorem sameDocuments_self (a : AuditedEditor) : SameDocuments a.editor a := ⟨rfl, rfl, fun _ => rfl⟩

section

variable {o : Overlay} {a : AuditedEditor}

theorem IsKept.showFor (h : IsKept ⟨a, o⟩) {editor : EditorRef}
    (he : editor ∈ a.editor.visibleEditors) :
    IsKept ⟨(o.showFor a editor).2, (o.showFor a editor).1⟩ := by
  have hsame := o.kept_showFor (sameDocuments_kept a.editor).toKeptByDecorating (sameDocuments_self a)
    editor
  refine .of_same hsame h.views (h.accounts.showFor editor) (fun id uri hs => ?_) fun uri hc => ?_
  · rcases o.seat?_showFor a editor hs with hs | hs
    · exact h.fits.seats id uri hs
    · exact hs ▸ he
  · rw [Overlay.cached?, o.cache_showFor a editor] at hc
    exact h.fits.opened uri hc

theorem IsKept.clear (h : IsKept ⟨a, o⟩) (editor : EditorId) :
    IsKept ⟨(o.clear a editor).2, (o.clear a editor).1⟩ := by
  have hsame := o.kept_clear (sameDocuments_kept a.editor).toKeptByDecorating (sameDocuments_self a)
    editor
  refine .of_same hsame h.views (h.accounts.clear editor) (fun id uri hs => ?_) fun uri hc => ?_
  · rw [o.seat?_clear a editor] at hs
    exact h.fits.seats id uri hs
  · rw [Overlay.cached?, o.cache_clear a editor] at hc
    exact h.fits.opened uri hc

theorem IsKept.showComputed (h : IsKept ⟨a, o⟩) {editor : EditorRef}
    (he : editor ∈ a.editor.visibleEditors) (result : ComputeTermResult) :
    IsKept ⟨(o.showComputed a editor result).2.2, (o.showComputed a editor result).2.1⟩ := by
  refine .of_same (o.kept_showComputed (sameDocuments_kept a.editor) (sameDocuments_self a) editor
    result) h.views (h.accounts.showComputed editor result) (fun id uri hs => ?_) fun uri hc => ?_
  · rcases o.seat?_showComputed a editor result hs with hs | hs
    · exact h.fits.seats id uri hs
    · exact hs ▸ he
  · rw [Overlay.cached?, o.cache_showComputed a editor result] at hc
    exact h.fits.opened uri hc

theorem IsKept.applyHighlights (h : IsKept ⟨a, o⟩) (result : HighlightResult) :
    IsKept ⟨(o.applyHighlights a result).2.2, (o.applyHighlights a result).2.1⟩ := by
  have hsame := o.kept_applyHighlights (sameDocuments_kept a.editor).toKeptByDecorating
    (sameDocuments_self a) result
  refine .of_same hsame h.views
    (h.accounts.applyHighlights h.views (fun _ he => h.fits.paintedIn h.views he) result) (fun id uri hs => ?_) fun uri hc => ?_
  · rcases o.seat?_applyHighlights a result hs with hs | hs
    · exact h.fits.seats id uri hs
    · rw [Overlay.disposeHighlightsOf, AuditedEditor.disposeAll_eq] at hs
      exact hs
  · rw [o.cached?_applyHighlights a result uri] at hc
    split at hc
    next hr => exact hr.2 ▸ hr.1
    next => exact h.fits.opened uri hc

/-- Closing: the editor is without the document when the overlay forgets it. -/
theorem IsKept.close (h : IsKept ⟨a, o⟩) (uri : String) :
    IsKept (follow ⟨a, o⟩ (.ok (a.editor.close uri))) := by
  let closed : AuditedEditor := { a with editor := (a.editor.close uri).2 }
  have hclosed : o.Accounts closed := h.accounts.of_canvas rfl rfl
  have hsame := o.kept_handle (sameDocuments_kept closed.editor).toKeptByDecorating
    (sameDocuments_self closed) (.documentClosed uri)
  change IsKept ⟨(o.forget closed uri).2, (o.forget closed uri).1⟩
  refine .of_same hsame (h.views.close uri) (hclosed.forget uri) (fun id uri' hs => ?_)
    fun uri' hc => ?_
  · obtain ⟨hs, hne⟩ := o.seat?_forget closed h.accounts.keys uri hs
    rw [HeadlessEditor.visibleEditors_close, List.mem_filter]
    exact ⟨h.fits.seats id uri' hs, by simpa using hne⟩
  · rw [o.cached?_forget] at hc
    split at hc
    next => cases hc
    next hne =>
      rw [HeadlessEditor.isOpen_close]
      simpa [hne] using h.fits.opened uri' hc

/-- A person's deed that keeps the documents open, with what was visible still visible. -/
theorem IsKept.play (h : IsKept ⟨a, o⟩) {e : HeadlessEditor}
    (hvisible : ∀ r ∈ a.editor.visibleEditors, r ∈ e.visibleEditors)
    (hcanvas : e.canvas = a.editor.canvas) (hopen : ∀ uri, a.editor.isOpen uri → e.isOpen uri)
    (hv : e.ViewsApart) : IsKept ⟨{ a with editor := e }, o⟩ where
  accounts := h.accounts.of_canvas hcanvas rfl
  fits := ⟨fun id uri hs => hvisible _ (h.fits.seats id uri hs),
    fun uri hc => hopen uri (h.fits.opened uri hc)⟩
  views := hv

theorem IsKept.opens (h : IsKept ⟨a, o⟩) (uri text : String) :
    IsKept ⟨{ a with editor := a.editor.openDocument uri text }, o⟩ := by
  refine h.play (fun r hr => hr) rfl (fun uri' ho => ?_) ⟨h.views.ids, h.views.uris, h.views.id_le⟩
  rw [HeadlessEditor.isOpen_openDocument, ho, Bool.or_true]

theorem IsKept.shows (h : IsKept ⟨a, o⟩) (uri : String) :
    IsKept (follow ⟨a, o⟩ (a.editor.showDocument uri)) := by
  cases hshow : a.editor.showDocument uri with
  | error e => exact h
  | ok r =>
    obtain ⟨event, e⟩ := r
    obtain ⟨⟨ref, href, rfl⟩, hvisible, hcanvas, hopen, hv⟩ := HeadlessEditor.showDocument_ok hshow
    have hplayed := h.play hvisible hcanvas (fun uri' ho => (hopen uri').trans ho) (hv h.views)
    exact hplayed.showFor href

theorem IsKept.edits (h : IsKept ⟨a, o⟩) (uri text : String) :
    IsKept (follow ⟨a, o⟩ (a.editor.edit uri text)) := by
  cases hedit : a.editor.edit uri text with
  | error e => exact h
  | ok r =>
    obtain ⟨event, e⟩ := r
    obtain ⟨⟨changed, rfl⟩, hviews, hlatest, hcanvas, hopen⟩ := HeadlessEditor.edit_ok hedit
    have hvisible : e.visibleEditors = a.editor.visibleEditors := by
      rw [HeadlessEditor.visibleEditors, hviews]
      rfl
    have hv : e.ViewsApart := by
      obtain ⟨ids, uris, id_le⟩ := h.views
      rw [← hvisible] at ids uris id_le
      rw [← hlatest] at id_le
      exact ⟨ids, uris, id_le⟩
    have hplayed : IsKept ⟨{ a with editor := e }, o⟩ :=
      h.play (fun r hr => hvisible ▸ hr) hcanvas (fun uri' ho => (hopen uri').trans ho) hv
    -- the overlay only looks at an edit that changed the text of the active document
    cases changed with
    | false => exact hplayed
    | true =>
      simp only [follow, Overlay.handle]
      split
      next active _ =>
        split
        next => exact hplayed.clear active.id
        next => exact hplayed
      next => exact hplayed

/-- **One deed keeps everything in order.** -/
theorem IsKept.act? {s s' : Scene AuditedEditor} (h : s.IsKept) {d : Deed}
    (hs : s.act? d = some s') : s'.IsKept := by
  obtain ⟨a, o⟩ := s
  cases d with
  | opens uri text => cases hs; exact h.opens uri text
  | shows uri => cases hs; exact h.shows uri
  | edits uri text => cases hs; exact h.edits uri text
  | closes uri => cases hs; exact h.close uri
  | applies result => cases hs; exact h.applyHighlights result
  | clears editor => cases hs; exact h.clear editor
  | paints editor =>
    obtain ⟨he, hs⟩ := Option.ite_none_right_eq_some.1 hs
    cases hs
    exact h.showFor he
  | computes editor result =>
    obtain ⟨he, hs⟩ := Option.ite_none_right_eq_some.1 hs
    cases hs
    exact h.showComputed he result

theorem isKept_empty : IsKept ⟨{}, {}⟩ :=
  ⟨Overlay.accounts_empty, Overlay.fits_empty, HeadlessEditor.viewsApart_empty⟩

theorem IsKept.after? {s s' : Scene AuditedEditor} (h : s.IsKept) {deeds : List Deed}
    (hs : s.after? deeds = some s') : s'.IsKept := by
  induction deeds generalizing s with
  | nil => cases hs; exact h
  | cons d deeds ih =>
    obtain ⟨s₁, hd, hs⟩ := Option.bind_eq_some_iff.1 hs
    exact ih (h.act? hd) hs

end

/-! ## The same on another host -/

section

variable {σ τ : Type} [PlayedHost σ] [PlayedHost τ] {f : σ → τ}

theorem follow_map (hf : HostMap f) (s : Scene σ)
    (r : Except HostError (EditorEvent × HeadlessEditor)) :
    (s.map f).follow r = (s.follow r).map f := by
  cases r with
  | error e => rfl
  | ok r =>
    simp only [follow, map, hf.play, Overlay.handle_map hf, Prod.map]
    rfl

theorem act?_map (hf : HostMap f) (s : Scene σ) (d : Deed) :
    (s.map f).act? d = (s.act? d).map (map f) := by
  cases d with
  | opens uri text => simp only [act?, map, hf.editor, hf.play, Option.map_some]
  | shows uri =>
    simp only [act?, ← follow_map hf, Option.map_some]
    rw [map, hf.editor]
  | edits uri text =>
    simp only [act?, ← follow_map hf, Option.map_some]
    rw [map, hf.editor]
  | closes uri =>
    simp only [act?, ← follow_map hf, Option.map_some]
    rw [map, hf.editor]
  | applies result => simp only [act?, map, Overlay.applyHighlights_map hf, Prod.map]; rfl
  | clears editor => simp only [act?, map, Overlay.clear_map hf, Prod.map]; rfl
  | paints editor =>
    simp only [act?, map, hf.visibleEditors, Overlay.showFor_map hf, Prod.map]
    split <;> rfl
  | computes editor result =>
    simp only [act?, map, hf.visibleEditors, Overlay.showComputed_map hf, Prod.map]
    split <;> rfl

theorem after?_map (hf : HostMap f) (s : Scene σ) (deeds : List Deed) :
    (s.map f).after? deeds = (s.after? deeds).map (map f) := by
  induction deeds generalizing s with
  | nil => rfl
  | cons d deeds ih =>
    simp only [after?, List.foldlM_cons, act?_map hf] at ih ⊢
    cases s.act? d with
    | none => rfl
    | some s₁ => exact ih s₁

end

end Scene

/-! ## What is seen -/

/-- Every recorded handle, with the editor under which it is recorded. -/
def Overlay.owned (o : Overlay) : List (EditorId × DecorationHandle) :=
  o.painted.flatMap fun (editor, p) => p.handles.map (editor, ·)

section

variable {o : Overlay} {a : AuditedEditor}

/-- What is recorded under an editor is what lives there. -/
theorem Overlay.Accounts.mem_owned (h : o.Accounts a) {editor : EditorId} {x : DecorationHandle} :
    (editor, x) ∈ o.owned ↔ ∃ d ∈ a.editor.canvas.live, d.editor = editor ∧ d.handle = x := by
  have hhandles : (editor, x) ∈ o.owned ↔ ∃ sort, x ∈ o.recorded editor sort := by
    simp only [owned, List.mem_flatMap, List.mem_map, Prod.mk.injEq]
    constructor
    · rintro ⟨⟨e, p⟩, hp, _, hx, rfl, rfl⟩
      obtain ⟨sort, hx⟩ := Painted.mem_handles.1 hx
      exact ⟨sort, by rwa [Overlay.recorded, h.paintedIn_of_mem hp]⟩
    · rintro ⟨sort, hx⟩
      cases hp : o.painted.get? editor with
      | none =>
        rw [Overlay.recorded, paintedIn_of_none hp, Painted.of_empty] at hx
        cases hx
      | some p =>
        rw [Overlay.recorded, paintedIn_of_some hp] at hx
        exact ⟨(editor, p), Table.mem_of_get? hp, x, Painted.mem_handles.2 ⟨sort, hx⟩, rfl, rfl⟩
  rw [hhandles]
  simp only [← h.recorded, Canvas.mem_handlesIn]
  constructor
  · rintro ⟨_, d, hd, he, -, hx⟩
    exact ⟨d, hd, he, hx⟩
  · rintro ⟨d, hd, he, hx⟩
    exact ⟨d.sort, d, hd, he, rfl, hx⟩

theorem Overlay.Accounts.owned_nodup (h : o.Accounts a) : o.owned.Nodup := by
  have hhandles : ∀ b ∈ o.painted, b.2.handles.Nodup := by
    intro b hb
    rw [← h.paintedIn_of_mem hb, handles_eq]
    exact (h.gathers_editor b.1 (by decide)).nodup
  refine List.nodup_flatMap.2 ⟨fun b hb => ?_, ?_⟩
  · exact (hhandles b hb).map fun x y hxy => (Prod.mk.inj hxy).2
  · refine (List.pairwise_map.1 h.keys).imp fun hne x hx hx' => ?_
    obtain ⟨_, -, rfl⟩ := List.mem_map.1 hx
    obtain ⟨_, -, heq⟩ := List.mem_map.1 hx'
    exact hne (Prod.mk.inj heq).1.symm

/-- **The live decorations are those recorded, each once and under its editor.** -/
theorem Overlay.Accounts.owned_perm (h : o.Accounts a) :
    o.owned.Perm (a.editor.canvas.live.map fun d => (d.editor, d.handle)) := by
  have hlive : (a.editor.canvas.live.map fun d => (d.editor, d.handle)).Nodup := by
    have hnodup := h.sound.handles_nodup
    refine List.Nodup.of_map Prod.snd ?_
    rw [List.map_map]
    exact hnodup
  refine (List.perm_ext_iff_of_nodup h.owned_nodup hlive).2 fun ⟨editor, x⟩ => ?_
  rw [h.mem_owned]
  simp [List.mem_map]

end

namespace Scene

/-- What a person can rely on. -/
structure IsTidy (s : Scene HeadlessEditor) : Prop where
  /-- The live decorations are those recorded, each under the editor in which it is. -/
  owned : s.overlay.owned.Perm (s.host.canvas.live.map fun d => (d.editor, d.handle))
  /-- Each handle is recorded once. -/
  once : (s.overlay.owned.map Prod.snd).Nodup
  /-- What is recorded as a highlight is painted as one, and what is recorded as a marker too. -/
  sorted : ∀ editor sort, s.host.canvas.handlesIn editor sort = s.overlay.recorded editor sort
  /-- A live decoration is in a visible editor. -/
  visible : ∀ d ∈ s.host.canvas.live, ∃ e ∈ s.host.visibleEditors, e.id = d.editor
  /-- The highlights of a visible editor are none, or the cached set of the document it shows. -/
  shown : ∀ e ∈ s.host.visibleEditors, s.host.canvas.decorationsIn e.id .highlight = [] ∨
    ∃ symbols, s.overlay.cached? e.uri = some symbols ∧
      Overlay.IsRendering (s.host.canvas.decorationsIn e.id .highlight) symbols
  /-- An editor has one marker at most. -/
  marked : ∀ editor, (s.host.canvas.decorationsIn editor .marker).length ≤ 1
  /-- A document with a cached set is open. -/
  opened : ∀ uri, (s.overlay.cached? uri).isSome → s.host.isOpen uri

theorem IsKept.isTidy {s : Scene AuditedEditor} (h : s.IsKept) :
    (s.map AuditedEditor.editor).IsTidy where
  owned := h.accounts.owned_perm
  once := by
    have hperm := h.accounts.owned_perm.map Prod.snd
    rw [List.map_map] at hperm
    exact hperm.nodup_iff.2 h.accounts.sound.handles_nodup
  sorted := h.accounts.recorded
  visible d hd := by
    have hin : (d.editor, d.handle) ∈ s.overlay.owned :=
      h.accounts.mem_owned.2 ⟨d, hd, rfl, rfl⟩
    obtain ⟨⟨editor, p⟩, hp, hx⟩ := List.mem_flatMap.1 hin
    obtain ⟨_, -, heq⟩ := List.mem_map.1 hx
    obtain rfl := (Prod.mk.inj heq).1
    have hseat : s.overlay.seat? d.editor = some p.uri := by
      rw [Overlay.seat?, (Table.get?_eq_some h.accounts.keys).2 hp]
      rfl
    exact ⟨_, h.fits.seats _ _ hseat, rfl⟩
  shown e he := by
    rcases h.accounts.shown e.id with hnone | ⟨symbols, hc, hr⟩
    · exact .inl hnone
    · rcases h.fits.paintedIn h.views he with hseat | hempty
      · rw [hseat] at hc
        exact .inr ⟨symbols, hc, hr⟩
      · have hrec := h.accounts.recorded e.id .highlight
        rw [Overlay.recorded, hempty, Painted.of_empty] at hrec
        exact .inl (List.map_eq_nil_iff.1 hrec)
  marked editor := by
    have hlen := congrArg List.length (h.accounts.recorded editor .marker)
    rw [Canvas.handlesIn, List.length_map] at hlen
    change (s.host.editor.canvas.decorationsIn editor .marker).length ≤ 1
    rw [hlen, Overlay.recorded, Painted.of]
    cases (s.overlay.paintedIn editor).computed <;> simp
  opened := h.fits.opened

/-- **The overlay owns what is painted.**  From an empty editor and an empty overlay, after any deeds:
the scene is tidy, and of the handles that the overlay asked to dispose of, each was alive at that
moment, so none was disposed of twice. -/
theorem overlay_owns_what_is_painted (deeds : List Deed) {s : Scene HeadlessEditor}
    (h : after? ⟨{}, {}⟩ deeds = some s) :
    s.IsTidy ∧ ∃ a : Scene AuditedEditor, after? ⟨{}, {}⟩ deeds = some a ∧
      a.map AuditedEditor.editor = s ∧ a.host.requests = s.host.canvas.disposed ∧
      a.host.requests.Nodup := by
  have hmap := after?_map AuditedEditor.hostMap_editor ⟨{}, {}⟩ deeds
  rw [show map AuditedEditor.editor ⟨{}, {}⟩ = ⟨{}, {}⟩ from rfl, h] at hmap
  obtain ⟨a, ha, rfl⟩ := Option.map_eq_some_iff.1 hmap.symm
  have hkept : a.IsKept := isKept_empty.after? ha
  refine ⟨hkept.isTidy, a, ha, rfl, hkept.accounts.requests, ?_⟩
  rw [hkept.accounts.requests]
  exact hkept.accounts.sound.disposed_nodup

/-- Two documents in two editors.  Sets arrive for the visible and for the hidden one, a marker is set
and set again, an edit makes a set stale, a set arrives for a document that is not open, and in the end
one of the documents is closed. -/
def sampleDeeds : List Deed :=
  let a := "file:///a.aya"
  let b := "file:///b.aya"
  let symbol (column : UInt32) (kind : SymbolKind) : Symbol := ⟨⟨⟨0, column⟩, ⟨0, column + 1⟩⟩, kind⟩
  let second : EditorRef := ⟨⟨2⟩, b⟩
  let result (text : String) : ComputeTermResult := ⟨b, text, ⟨⟨0, 0⟩, ⟨0, 3⟩⟩⟩
  [.opens a "def f => g", .opens b "def h => f", .shows a, .shows b,
    .applies ⟨a, [symbol 4 .fnDef, symbol 9 .fnCall]⟩, .applies ⟨b, [symbol 4 .fnDef, symbol 9 .unknown]⟩,
    .computes second (result "Nat"), .computes second (result "Type"),
    .edits b "def h => f f", .paints second, .shows a, .applies ⟨b, [symbol 4 .dataDef]⟩,
    .applies ⟨"file:///c.aya", [symbol 0 .conDef]⟩, .computes second (result "Set"), .closes a]

/-- After them the second editor shows the second set of its document and the last marker. -/
theorem overlay_owns_what_was_painted_in_turn :
    ∃ s, after? ⟨{}, {}⟩ sampleDeeds = some s ∧ s.IsTidy ∧
      s.host.canvas.live.map (fun d => (d.editor.number, d.style.tokenType, d.hover)) =
        [(2, "enum", none), (2, "computed", some "Set")] := by
  have hruns : (after? ⟨{}, {}⟩ sampleDeeds).any (fun s : Scene HeadlessEditor =>
      s.host.canvas.live.map (fun d => (d.editor.number, d.style.tokenType, d.hover)) =
        [(2, "enum", none), (2, "computed", some "Set")]) = true := by decide +kernel
  obtain ⟨s, hs, hlive⟩ := (Option.any_eq_true _ _).1 hruns
  exact ⟨s, hs, (overlay_owns_what_is_painted sampleDeeds hs).1, of_decide_eq_true hlive⟩

end Scene

end LanguageClient
