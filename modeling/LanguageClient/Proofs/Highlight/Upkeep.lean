import LanguageClient.Proofs.Highlight.Accounts

/-!
# What the operations of the overlay keep

Four things are followed through every operation.

* The accounts (`Accounts.showFor` and its companions): records and canvas agree before and after.
* The seats: an editor is painted for the document that the operation names, or for the one that it
  was painted for before.
* The cache: only a new set and the closing of a document change it.
* The host: an operation reaches it through the three operations that every host has, so it keeps what
  those keep (`KeptByPainting`), and hosts that agree on the three agree on the operation (`HostMap`).
  Only marking a computed term sets a selection: the others keep whatever is kept while decorations
  come and go (`KeptByDecorating`).
-/

namespace LanguageClient

/-- A property of hosts that is kept while decorations come and go. -/
structure KeptByDecorating {σ : Type} [EditorHost σ] (P : σ → Prop) : Prop where
  create : ∀ {h}, P h → ∀ editor style ranges hover,
    P (EditorHost.createDecoration h editor style ranges hover).2
  dispose : ∀ {h}, P h → ∀ handle, P (EditorHost.dispose h handle)

/-- A property of hosts that painting leaves alone. -/
structure KeptByPainting {σ : Type} [EditorHost σ] (P : σ → Prop) : Prop
    extends KeptByDecorating P where
  setSelection : ∀ {h}, P h → ∀ editor selection, P (EditorHost.setSelection h editor selection)

/-- A record without the highlights that were painted for a document. -/
def Painted.strike (p : Painted) (uri : String) : Painted :=
  if p.uri = uri then { p with highlights := [] } else p

theorem Painted.mem_handles {p : Painted} {x : DecorationHandle} :
    x ∈ p.handles ↔ ∃ sort, x ∈ p.of sort := by
  rw [Painted.handles, List.mem_append]
  constructor
  · rintro (hx | hx)
    · exact ⟨.highlight, hx⟩
    · exact ⟨.marker, hx⟩
  · rintro ⟨_ | _, hx⟩
    · exact .inl hx
    · exact .inr hx

namespace Overlay

/-! ## Seats -/

/-- The document for which an editor was painted. -/
def seat? (o : Overlay) (editor : EditorId) : Option String :=
  (o.painted.get? editor).map Painted.uri

/-- Only visible editors are painted, each for the document that it shows, and only of open documents
a set is cached. -/
structure Fits (o : Overlay) (h : HeadlessEditor) : Prop where
  seats : ∀ id uri, o.seat? id = some uri → ⟨id, uri⟩ ∈ h.visibleEditors
  opened : ∀ uri, (o.cached? uri).isSome → h.isOpen uri

theorem fits_empty : Fits {} {} where
  seats _ _ h := by cases h
  opened _ h := by cases h

/-- An editor that was painted for another document than it shows was never painted. -/
theorem Fits.paintedIn {o : Overlay} {h : HeadlessEditor} (hf : o.Fits h) (hv : h.ViewsApart)
    {e : EditorRef} (he : e ∈ h.visibleEditors) :
    (o.paintedIn e.id).uri = e.uri ∨ o.paintedIn e.id = {} := by
  cases hp : o.painted.get? e.id with
  | none => exact .inr (paintedIn_of_none hp)
  | some p =>
    have hseat : ⟨e.id, p.uri⟩ ∈ h.visibleEditors := hf.seats e.id p.uri (by rw [seat?, hp]; rfl)
    have heq := hv.eq_of_id hseat he rfl
    rw [paintedIn_of_some hp, ← heq]
    exact .inl rfl

/-! ## The accounts -/

theorem handles_eq (p : Painted) : p.handles = [DecorationSort.highlight, .marker].flatMap p.of := by
  simp [Painted.handles, Painted.of]

theorem highlights_eq (p : Painted) : p.highlights = [DecorationSort.highlight].flatMap p.of := by
  simp [Painted.of]

section

variable {o : Overlay} {a : AuditedEditor}

/-- Some sorts are struck out of one editor.  It may count as painted for another document then, if
the highlights are among them. -/
theorem Accounts.retireEditor (h : o.Accounts a) (editor : EditorId) {sorts : List DecorationSort}
    (hs : sorts.Nodup) {p : Painted}
    (hp : ∀ s, p.of s = if s ∈ sorts then [] else (o.paintedIn editor).of s)
    (huri : .highlight ∈ sorts ∨ p.uri = (o.paintedIn editor).uri) :
    Accounts { o with painted := o.painted.set editor p }
      (EditorHost.disposeAll a (sorts.flatMap (o.paintedIn editor).of)) := by
  refine h.retire (h.gathers_editor editor hs) (Table.nodup_keys_set h.keys _ _) (fun e s => ?_)
    fun e hpicked _ => ?_
  · rw [Overlay.recorded, Overlay.recorded, paintedIn_set]
    by_cases he : editor = e
    · subst he
      simp [hp]
    · simp [he, Ne.symm he]
  · rw [paintedIn_set]
    by_cases he : editor = e
    · subst he
      have hout : DecorationSort.highlight ∉ sorts := fun hin => hpicked ⟨rfl, hin⟩
      rw [if_pos rfl, huri.resolve_left hout]
      rfl
    · rw [if_neg he]
      rfl

/-- Whatever is painted is owned. -/
theorem Accounts.handle_mem (h : o.Accounts a) {d : RenderedDecoration}
    (hd : d ∈ a.editor.canvas.live) : d.handle ∈ (o.paintedIn d.editor).handles := by
  have hin : d.handle ∈ a.editor.canvas.handlesIn d.editor d.sort :=
    Canvas.mem_handlesIn.2 ⟨d, hd, rfl, rfl, rfl⟩
  rw [h.recorded] at hin
  exact Painted.mem_handles.2 ⟨d.sort, hin⟩

theorem Accounts.owner_unique (h : o.Accounts a) {editor editor' : EditorId} {x : DecorationHandle}
    (hx : x ∈ (o.paintedIn editor).handles) (hx' : x ∈ (o.paintedIn editor').handles) :
    editor = editor' := by
  obtain ⟨s, hx⟩ := Painted.mem_handles.1 hx
  obtain ⟨s', hx'⟩ := Painted.mem_handles.1 hx'
  exact (h.recorded_unique hx hx').1

/-- Where nothing is owned, nothing is painted. -/
theorem Accounts.inEditor_of_unowned (h : o.Accounts a) {editor : EditorId}
    (hnone : (o.paintedIn editor).handles = []) : a.editor.canvas.inEditor editor = [] := by
  refine List.filter_eq_nil_iff.2 fun d hd hde => ?_
  have hmem := h.handle_mem hd
  rw [of_decide_eq_true hde, hnone] at hmem
  cases hmem

theorem Accounts.showFor (h : o.Accounts a) (editor : EditorRef) :
    (o.showFor a editor).1.Accounts (o.showFor a editor).2 := by
  dsimp only [Overlay.showFor]
  split
  next hu =>
    rw [highlights_eq]
    have hretired := h.retireEditor editor.id (List.nodup_singleton DecorationSort.highlight)
      (p := { o.paintedIn editor.id with highlights := [] })
      (fun s => by cases s <;> simp [Painted.of]) (.inr rfl)
    refine hretired.render editor ?_
    rw [Overlay.recorded, paintedIn_set, if_pos rfl]
    rfl
  next =>
    rw [handles_eq]
    refine (h.retireEditor editor.id (by decide) (fun s => ?_) (.inl (by decide))).render editor ?_
    · cases s <;> simp
    · rw [Overlay.recorded, paintedIn_set, if_pos rfl, Painted.of_empty]

theorem Accounts.clear (h : o.Accounts a) (editor : EditorId) :
    (o.clear a editor).1.Accounts (o.clear a editor).2 := by
  unfold Overlay.clear
  split
  next => exact h
  next p hp =>
    rw [← paintedIn_of_some hp, handles_eq]
    refine h.retireEditor editor (by decide) (fun s => ?_) (.inl (by decide))
    cases s <;> simp

/-- Nothing is left in an editor that is cleared, and every other editor stays as it is. -/
theorem Accounts.inEditor_clear (h : o.Accounts a) (editor other : EditorId) :
    (o.clear a editor).2.editor.canvas.inEditor other =
      if editor = other then [] else a.editor.canvas.inEditor other := by
  have hcanvas : (o.clear a editor).2.editor.canvas =
      a.editor.canvas.disposeAll (o.paintedIn editor).handles := by
    unfold Overlay.clear
    split
    next hp => rw [paintedIn_of_none hp]; rfl
    next p hp => rw [paintedIn_of_some hp, AuditedEditor.disposeAll_eq]
  rw [hcanvas, Canvas.inEditor, Canvas.inEditor, Canvas.live_disposeAll, List.filter_filter]
  split
  next heq =>
    refine List.filter_eq_nil_iff.2 fun d hd hp => ?_
    simp only [Bool.and_eq_true, decide_eq_true_eq] at hp
    have hmem := h.handle_mem hd
    rw [hp.1, ← heq] at hmem
    exact hp.2 hmem
  next hne =>
    refine List.filter_congr fun d hd => ?_
    by_cases hde : d.editor = other
    · have hkept : d.handle ∉ (o.paintedIn editor).handles := fun hin =>
        hne ((h.owner_unique hin (h.handle_mem hd)).trans hde)
      simp [hde, hkept]
    · simp [hde]

theorem Accounts.showComputed (h : o.Accounts a) (editor : EditorRef) (result : ComputeTermResult) :
    (o.showComputed a editor result).2.1.Accounts (o.showComputed a editor result).2.2 := by
  -- whatever was struck out before, the editor is left without a marker and gets the new one
  have hmark : ∀ {p : Painted} {old : List DecorationHandle}, p.computed = none →
      Accounts { o with painted := o.painted.set editor.id p } (EditorHost.disposeAll a old) →
      let made := EditorHost.createDecoration (EditorHost.disposeAll a old) editor.id .computed
        [result.range] (some result.computed)
      Accounts { o with painted := o.painted.set editor.id { p with computed := some made.1 } }
        (EditorHost.setSelection made.2 editor.id (.ofRange result.range)) := by
    intro p old hp hretired
    have hnone : ({ o with painted := o.painted.set editor.id p } : Overlay).recorded editor.id
        .marker = [] := by
      rw [Overlay.recorded, paintedIn_set, if_pos rfl, Painted.of, hp]
      rfl
    have hmarked := hretired.mark editor.id [result.range] (some result.computed) hnone
    rw [paintedIn_set, if_pos rfl] at hmarked
    dsimp only at hmarked
    rw [Table.set_set] at hmarked
    exact hmarked.of_canvas rfl rfl
  dsimp only [Overlay.showComputed]
  split
  next =>
    by_cases hu : (o.paintedIn editor.id).uri = editor.uri
    · rw [if_pos hu]
      refine hmark (p := { o.paintedIn editor.id with computed := none }) rfl ?_
      have hold : (o.paintedIn editor.id).computed.toList =
          [DecorationSort.marker].flatMap (o.paintedIn editor.id).of := by simp [Painted.of]
      rw [hold]
      exact h.retireEditor editor.id (List.nodup_singleton _)
        (fun s => by cases s <;> simp [Painted.of]) (.inr rfl)
    · rw [if_neg hu]
      refine hmark (p := { uri := editor.uri }) rfl ?_
      rw [handles_eq]
      exact h.retireEditor editor.id (by decide) (fun s => by cases s <;> simp) (.inl (by decide))
  next => exact h

/-- What was painted for the document is struck out of all records. -/
theorem paintedIn_strike (o : Overlay) (cache : Table String (List Symbol)) (uri : String)
    (e : EditorId) :
    ({ cache, painted := o.painted.map fun (id, p) => (id, p.strike uri) } : Overlay).paintedIn e =
      (o.paintedIn e).strike uri := by
  rw [Overlay.paintedIn, Overlay.paintedIn, Table.get?_map o.painted (Painted.strike · uri)]
  cases o.painted.get? e with
  | none => simp [Painted.strike]
  | some p => rfl

/-- A new set: what was painted for the document goes, and every editor that shows it is painted.  No
visible editor may have been painted for another document than it shows. -/
theorem Accounts.applyHighlights (h : o.Accounts a) (hv : a.editor.ViewsApart)
    (hseated : ∀ e ∈ a.editor.visibleEditors,
      (o.paintedIn e.id).uri = e.uri ∨ o.paintedIn e.id = {}) (result : HighlightResult) :
    (o.applyHighlights a result).2.1.Accounts (o.applyHighlights a result).2.2 := by
  dsimp only [Overlay.applyHighlights]
  split
  next =>
    let o' : Overlay :=
      { cache := o.cache.set result.uri result.symbols
        painted := o.painted.map fun (id, p) => (id, p.strike result.uri) }
    have hstrike : ∀ e s, o'.recorded e s = ((o.paintedIn e).strike result.uri).of s := by
      intro e s
      rw [Overlay.recorded, paintedIn_strike]
    have hg := h.gathers_uri result.uri (List.nodup_singleton DecorationSort.highlight)
    simp only [← highlights_eq] at hg
    have hretired : o'.Accounts (o.disposeHighlightsOf a result.uri).2 := by
      refine h.retire hg ?_ (fun e s => ?_) fun e hp _ => ?_
      · rw [Table.keys_map o.painted (Painted.strike · result.uri)]
        exact h.keys
      · rw [hstrike, Overlay.recorded, Painted.strike]
        by_cases hu : (o.paintedIn e).uri = result.uri <;> cases s <;> simp [hu, Painted.of]
      · have hu : (o.paintedIn e).uri ≠ result.uri := fun hu => hp ⟨hu, List.mem_singleton_self _⟩
        rw [paintedIn_strike, Painted.strike, if_neg hu, cached?, cached?, Table.get?_set,
          if_neg hu.symm]
    have hvisible : EditorHost.visibleEditors (o.disposeHighlightsOf a result.uri).2 =
        a.editor.visibleEditors := by
      rw [disposeHighlightsOf, AuditedEditor.disposeAll_eq]
      rfl
    rw [hvisible]
    refine hretired.renderAll (hv.ids.sublist (List.filter_sublist.map _)) fun e he => ?_
    obtain ⟨he, hu⟩ := List.mem_filter.1 he
    rw [hstrike, Painted.strike]
    rcases hseated e he with hseat | hnone
    · rw [hseat, if_pos (by simpa using hu)]
      rfl
    · rw [hnone]
      split <;> rfl
  next => exact h

/-- What was painted for the document is recorded no more. -/
theorem paintedIn_forget {σ : Type} [EditorHost σ] (h : σ) (hk : o.painted.keys.Nodup) (uri : String)
    (e : EditorId) :
    (o.forget h uri).1.paintedIn e = if (o.paintedIn e).uri = uri then {} else o.paintedIn e := by
  have hget : (o.forget h uri).1.painted.get? e =
      (o.painted.get? e).filter fun p => decide (p.uri ≠ uri) :=
    Table.get?_filter hk (fun p => decide (p.uri ≠ uri)) e
  rw [Overlay.paintedIn, hget]
  cases hp : o.painted.get? e with
  | none => rw [paintedIn_of_none hp, Option.filter_none, Option.getD_none, ite_self]
  | some p =>
    rw [paintedIn_of_some hp]
    by_cases hu : p.uri = uri <;> simp [Option.filter_some, hu]

/-- A document is forgotten. -/
theorem Accounts.forget (h : o.Accounts a) (uri : String) :
    (o.forget a uri).1.Accounts (o.forget a uri).2 := by
  have hg := h.gathers_uri uri (show [DecorationSort.highlight, .marker].Nodup by decide)
  simp only [← handles_eq] at hg
  have hpainted := paintedIn_forget a h.keys uri
  refine h.retire hg (Table.nodup_keys_filter h.keys _) (fun e s => ?_) fun e hp _ => ?_
  · rw [Overlay.recorded, hpainted, Overlay.recorded]
    by_cases hu : (o.paintedIn e).uri = uri <;> cases s <;> simp [hu, Painted.of]
  · have hu : (o.paintedIn e).uri ≠ uri := fun hu => hp ⟨hu, List.mem_cons_self⟩
    rw [hpainted, if_neg hu, cached?, cached?, Overlay.forget, Table.get?_erase, if_neg hu.symm]

/-- Whatever the editor reports. -/
theorem Accounts.handle (h : o.Accounts a) (event : EditorEvent) :
    (o.handle a event).1.Accounts (o.handle a event).2 := by
  unfold Overlay.handle
  split
  next editor => exact h.showFor editor
  next => exact h
  next => exact h
  next =>
    split
    next active _ =>
      split
      next => exact h.clear active.id
      next => exact h
    next => exact h
  next uri => exact h.forget uri

end

/-! ## Seats and cache, operation by operation -/

section

variable {σ : Type} [EditorHost σ] (o : Overlay) (h : σ)

theorem seat?_set (cache : Table String (List Symbol)) (editor : EditorId) (p : Painted)
    (id : EditorId) :
    ({ cache, painted := o.painted.set editor p } : Overlay).seat? id =
      if editor = id then some p.uri else o.seat? id := by
  simp only [seat?, Table.get?_set]
  split <;> rfl

/-- Where an editor is painted, it is painted for the document that was named. -/
theorem seat?_render (editor : EditorRef) {id : EditorId} {uri : String}
    (hs : (o.render h editor).1.seat? id = some uri) :
    o.seat? id = some uri ∨ (⟨id, uri⟩ : EditorRef) = editor := by
  unfold render at hs
  split at hs
  next => exact .inl hs
  next =>
    rw [seat?_set] at hs
    split at hs
    next he => cases hs; subst he; exact .inr rfl
    next => exact .inl hs

theorem cache_render (editor : EditorRef) : (o.render h editor).1.cache = o.cache := by
  unfold render
  split <;> rfl

theorem seat?_renderAll (editors : List EditorRef) {id : EditorId} {uri : String}
    (hs : (editors.foldl (fun (o, h) e => o.render h e) (o, h)).1.seat? id = some uri) :
    o.seat? id = some uri ∨ ⟨id, uri⟩ ∈ editors := by
  induction editors generalizing o h with
  | nil => exact .inl hs
  | cons e editors ih =>
    rcases ih _ _ hs with hs | hs
    · rcases o.seat?_render h e hs with hs | hs
      · exact .inl hs
      · exact .inr (hs ▸ List.mem_cons_self)
    · exact .inr (List.mem_cons_of_mem _ hs)

theorem cache_renderAll (editors : List EditorRef) :
    (editors.foldl (fun (o, h) e => o.render h e) (o, h)).1.cache = o.cache := by
  induction editors generalizing o h with
  | nil => rfl
  | cons e editors ih => exact (ih _ _).trans (o.cache_render h e)

theorem seat?_applyHighlights (result : HighlightResult) {id : EditorId} {uri : String}
    (hs : (o.applyHighlights h result).2.1.seat? id = some uri) :
    o.seat? id = some uri ∨
      ⟨id, uri⟩ ∈ EditorHost.visibleEditors (o.disposeHighlightsOf h result.uri).2 := by
  dsimp only [applyHighlights] at hs
  split at hs
  next =>
    rcases seat?_renderAll _ _ _ hs with hs | hs
    · refine .inl ?_
      have hget : Table.get? (o.painted.map fun (id, p) => (id, p.strike result.uri)) id =
          (o.painted.get? id).map (Painted.strike · result.uri) :=
        Table.get?_map o.painted (Painted.strike · result.uri) id
      have huri : ∀ p : Painted, (p.strike result.uri).uri = p.uri := by
        intro p
        unfold Painted.strike
        split <;> rfl
      have hmap : o.seat? id = ((o.painted.get? id).map (Painted.strike · result.uri)).map Painted.uri := by
        simp only [seat?, Option.map_map, Function.comp_def, huri]
      rw [hmap, ← hget]
      exact hs
    · exact .inr (List.mem_filter.1 hs).1
  next => exact .inl hs

/-- A set is taken for an open document only, and no other set changes. -/
theorem cached?_applyHighlights (result : HighlightResult) (uri : String) :
    (o.applyHighlights h result).2.1.cached? uri =
      if EditorHost.isOpen h result.uri ∧ result.uri = uri then some result.symbols
      else o.cached? uri := by
  dsimp only [applyHighlights]
  by_cases ho : EditorHost.isOpen h result.uri
  · rw [if_pos ho]
    dsimp only
    rw [cached?, cache_renderAll, Table.get?_set]
    simp only [ho, true_and]
    rfl
  · rw [if_neg ho, if_neg fun hp => ho hp.1]

theorem seat?_showFor (editor : EditorRef) {id : EditorId} {uri : String}
    (hs : (o.showFor h editor).1.seat? id = some uri) :
    o.seat? id = some uri ∨ (⟨id, uri⟩ : EditorRef) = editor := by
  dsimp only [showFor] at hs
  split at hs
  all_goals
    rcases seat?_render _ _ _ hs with hs | hs
    · rw [seat?_set] at hs
      split at hs
      next he => cases hs; subst he; exact .inr (by simp [*])
      next => exact .inl hs
    · exact .inr hs

theorem cache_showFor (editor : EditorRef) : (o.showFor h editor).1.cache = o.cache := by
  dsimp only [showFor]
  split <;> exact cache_render _ _ _

theorem seat?_clear (editor : EditorId) {id : EditorId} :
    (o.clear h editor).1.seat? id = o.seat? id := by
  unfold clear
  split
  next => rfl
  next p hp =>
    rw [seat?_set]
    split
    next he => subst he; rw [seat?, hp]; rfl
    next => rfl

theorem cache_clear (editor : EditorId) : (o.clear h editor).1.cache = o.cache := by
  unfold clear
  split <;> rfl

theorem seat?_showComputed (editor : EditorRef) (result : ComputeTermResult) {id : EditorId}
    {uri : String} (hs : (o.showComputed h editor result).2.1.seat? id = some uri) :
    o.seat? id = some uri ∨ (⟨id, uri⟩ : EditorRef) = editor := by
  dsimp only [showComputed] at hs
  split at hs
  next =>
    rw [seat?_set] at hs
    split at hs
    next he =>
      subst he
      cases hs
      refine .inr ?_
      split
      next hu => simp [hu]
      next => rfl
    next => exact .inl hs
  next => exact .inl hs

theorem cache_showComputed (editor : EditorRef) (result : ComputeTermResult) :
    (o.showComputed h editor result).2.1.cache = o.cache := by
  dsimp only [showComputed]
  split <;> rfl

theorem seat?_forget (hk : o.painted.keys.Nodup) (forgotten : String) {id : EditorId} {uri : String}
    (hs : (o.forget h forgotten).1.seat? id = some uri) : o.seat? id = some uri ∧ uri ≠ forgotten := by
  have hget : (o.forget h forgotten).1.painted.get? id =
      (o.painted.get? id).filter fun p => decide (p.uri ≠ forgotten) :=
    Table.get?_filter hk (fun p => decide (p.uri ≠ forgotten)) id
  rw [seat?, hget] at hs
  obtain ⟨p, hp, rfl⟩ := Option.map_eq_some_iff.1 hs
  obtain ⟨hp, hu⟩ := Option.filter_eq_some_iff.1 hp
  exact ⟨by rw [seat?, hp]; rfl, by simpa using hu⟩

theorem cached?_forget (forgotten uri : String) :
    (o.forget h forgotten).1.cached? uri = if forgotten = uri then none else o.cached? uri :=
  Table.get?_erase o.cache forgotten uri

end

/-! ## The host -/

section

variable {σ : Type} [EditorHost σ] {P : σ → Prop}

theorem kept_disposeAll (hP : KeptByDecorating P) {h : σ} (hh : P h)
    (handles : List DecorationHandle) : P (EditorHost.disposeAll h handles) := by
  induction handles generalizing h with
  | nil => exact hh
  | cons x handles ih => exact ih (hP.dispose hh x)

theorem kept_createAll (hP : KeptByDecorating P) {h : σ} (hh : P h) (editor : EditorId)
    (rs : List (DecorationStyle × List Range)) : P (createAll h editor rs).2 := by
  induction rs generalizing h with
  | nil => exact hh
  | cons r rs ih => exact ih (hP.create hh editor r.1 r.2 none)

variable (o : Overlay)

theorem kept_render (hP : KeptByDecorating P) {h : σ} (hh : P h) (editor : EditorRef) :
    P (o.render h editor).2 := by
  unfold render
  split
  next => exact hh
  next => exact kept_createAll hP hh _ _

theorem kept_renderAll (hP : KeptByDecorating P) {h : σ} (hh : P h) (editors : List EditorRef) :
    P (editors.foldl (fun (o, h) e => o.render h e) (o, h)).2 := by
  induction editors generalizing o h with
  | nil => exact hh
  | cons e editors ih => exact ih _ (o.kept_render hP hh e)

theorem kept_applyHighlights (hP : KeptByDecorating P) {h : σ} (hh : P h) (result : HighlightResult) :
    P (o.applyHighlights h result).2.2 := by
  dsimp only [applyHighlights]
  split
  next => exact kept_renderAll _ hP (kept_disposeAll hP hh _) _
  next => exact hh

theorem kept_showFor (hP : KeptByDecorating P) {h : σ} (hh : P h) (editor : EditorRef) :
    P (o.showFor h editor).2 := by
  dsimp only [showFor]
  split <;> exact kept_render _ hP (kept_disposeAll hP hh _) editor

theorem kept_clear (hP : KeptByDecorating P) {h : σ} (hh : P h) (editor : EditorId) :
    P (o.clear h editor).2 := by
  unfold clear
  split
  next => exact hh
  next => exact kept_disposeAll hP hh _

theorem kept_showComputed (hP : KeptByPainting P) {h : σ} (hh : P h) (editor : EditorRef)
    (result : ComputeTermResult) : P (o.showComputed h editor result).2.2 := by
  dsimp only [showComputed]
  split
  next => exact hP.setSelection (hP.create (kept_disposeAll hP.toKeptByDecorating hh _) _ _ _ _) _ _
  next => exact hh

theorem kept_handle (hP : KeptByDecorating P) {h : σ} (hh : P h) (event : EditorEvent) :
    P (o.handle h event).2 := by
  unfold handle
  split
  next editor => exact o.kept_showFor hP hh editor
  next => exact hh
  next => exact hh
  next =>
    split
    next active _ =>
      split
      next => exact o.kept_clear hP hh active.id
      next => exact hh
    next => exact hh
  next => exact kept_disposeAll hP hh _

end

section

variable {σ τ : Type} [PlayedHost σ] [PlayedHost τ] {f : σ → τ} (hf : HostMap f) (o : Overlay) (h : σ)

include hf

theorem createAll_map (editor : EditorId) (rs : List (DecorationStyle × List Range)) :
    createAll (f h) editor rs = (createAll h editor rs).map id f := by
  induction rs generalizing h with
  | nil => rfl
  | cons r rs ih =>
    simp only [createAll, hf.createDecoration, Prod.map, ih]
    rfl

theorem render_map (editor : EditorRef) : o.render (f h) editor = (o.render h editor).map id f := by
  unfold render
  split
  next => rfl
  next => rw [createAll_map hf]; rfl

theorem renderAll_map (editors : List EditorRef) :
    editors.foldl (fun (o, h) e => o.render h e) (o, f h) =
      (editors.foldl (fun (o, h) e => o.render h e) (o, h)).map id f := by
  induction editors generalizing o h with
  | nil => rfl
  | cons e editors ih =>
    simp only [List.foldl_cons, render_map hf, Prod.map]
    exact ih _ _

theorem applyHighlights_map (result : HighlightResult) :
    o.applyHighlights (f h) result = (o.applyHighlights h result).map id (Prod.map id f) := by
  dsimp only [applyHighlights, disposeHighlightsOf]
  rw [hf.isOpen, hf.disposeAll, hf.visibleEditors, renderAll_map hf]
  split <;> rfl

theorem showFor_map (editor : EditorRef) :
    o.showFor (f h) editor = (o.showFor h editor).map id f := by
  dsimp only [showFor]
  rw [hf.disposeAll, hf.disposeAll, render_map hf, render_map hf]
  split <;> rfl

theorem clear_map (editor : EditorId) : o.clear (f h) editor = (o.clear h editor).map id f := by
  unfold clear
  split
  next => rfl
  next => rw [hf.disposeAll]; rfl

theorem showComputed_map (editor : EditorRef) (result : ComputeTermResult) :
    o.showComputed (f h) editor result =
      (o.showComputed h editor result).map id (Prod.map id f) := by
  dsimp only [showComputed]
  rw [hf.disposeAll, hf.createDecoration, Prod.map, hf.setSelection]
  split <;> rfl

theorem handle_map (event : EditorEvent) :
    o.handle (f h) event = (o.handle h event).map id f := by
  unfold handle
  rw [hf.activeEditor]
  split
  next => exact showFor_map hf o h _
  next => rfl
  next => rfl
  next =>
    split
    next =>
      split
      next => exact clear_map hf o h _
      next => rfl
    next => rfl
  next => simp only [forget, hf.disposeAll]; rfl

end

end Overlay

end LanguageClient
