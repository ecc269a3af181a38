import LanguageClient.Proofs.Editor.Decorated
import LanguageClient.Proofs.Highlight.Upkeep
import Mathlib.Data.List.Forall2
import Mathlib.Data.List.Perm.Basic

/-!
# What an editor shows once it is painted

A set of symbols is seen as a row of decorations: one for each kind that is painted, in the order of
the kinds, with the style of the kind and the ranges of the kind as the set lists them (`IsExact`).
Such a row shows each symbol that can be painted once, in the style of its kind, and nothing else
(`IsExact.whole`).

`editor_is_painted_exactly` is about painting an editor anew, on any host and whatever the overlay has
recorded: the highlights that were owned in the editor are disposed of, the new row comes after what
is left, and the marker of a computed term stays if and only if the editor was painted for the same
document before (`Repainted`).  To paint once more replaces the row by one that looks the same.
-/

namespace LanguageClient

/-- A symbol of which something is seen: its kind is known and its range is well-formed. -/
def Symbol.Paintable (s : Symbol) : Prop := s.kind ∈ SymbolKind.known ∧ s.range.WellFormed

instance (s : Symbol) : Decidable s.Paintable := inferInstanceAs (Decidable (_ ∧ _))

/-- A known kind has a style. -/
theorem DecorationStyle.exists_ofKind {kind : SymbolKind} (h : kind ∈ SymbolKind.known) :
    ∃ style, ofKind kind = some style := by
  cases kind
  case unknown => exact absurd h (by decide)
  all_goals exact ⟨_, rfl⟩

/-- Items gathered under different keys are the items that have one of the keys. -/
theorem gathered_perm {α κ : Type} [DecidableEq κ] (key : α → κ) (p : α → Prop)
    [DecidablePred p] (items : List α) (keys : List κ) (hk : keys.Nodup) :
    (keys.flatMap fun k => items.filter fun a => key a = k ∧ p a).Perm
      (items.filter fun a => key a ∈ keys ∧ p a) := by
  induction keys with
  | nil => simp
  | cons k keys ih =>
    obtain ⟨hnot, hk⟩ := List.nodup_cons.1 hk
    have hsplit := List.filter_append_perm (fun a => decide (key a = k))
      (items.filter fun a => key a ∈ k :: keys ∧ p a)
    rw [List.flatMap_cons]
    refine (List.Perm.append (.of_eq ?_) ((ih hk).trans (.of_eq ?_))).trans hsplit
    · rw [List.filter_filter]
      refine List.filter_congr fun a _ => ?_
      by_cases ha : key a = k <;> simp [ha]
    · rw [List.filter_filter]
      refine List.filter_congr fun a _ => ?_
      by_cases ha : key a = k <;> simp [ha, hnot]

namespace Overlay

/-! ## Rows of decorations -/

/-- The known kinds of which a set has something to paint, in their order. -/
def paintedKinds (symbols : List Symbol) : List SymbolKind :=
  SymbolKind.known.filter fun kind => ∃ s ∈ symbols, s.kind = kind ∧ s.range.WellFormed

/-- A decoration shows one kind of a set in an editor. -/
structure ShowsKind (symbols : List Symbol) (editor : EditorId) (kind : SymbolKind)
    (d : RenderedDecoration) : Prop where
  style : DecorationStyle.ofKind kind = some d.style
  ranges : d.ranges = rangesOf symbols kind
  hover : d.hover = none
  editor : d.editor = editor

/-- Decorations show a set in an editor: one for each painted kind, in the order of the kinds, and
no more. -/
def IsExact (symbols : List Symbol) (editor : EditorId) (ds : List RenderedDecoration) : Prop :=
  List.Forall₂ (ShowsKind symbols editor) (paintedKinds symbols) ds

theorem rangesOf_eq_nil {symbols : List Symbol} {kind : SymbolKind} :
    rangesOf symbols kind = [] ↔ ¬∃ s ∈ symbols, s.kind = kind ∧ s.range.WellFormed := by
  simp [rangesOf, List.filter_eq_nil_iff]

/-- The ranges of a kind that is not painted do not exist, so the kinds may as well all be walked. -/
theorem flatMap_paintedKinds {α : Type} (symbols : List Symbol) (f : SymbolKind → Range → α) :
    ((paintedKinds symbols).flatMap fun kind => (rangesOf symbols kind).map (f kind)) =
      SymbolKind.known.flatMap fun kind => (rangesOf symbols kind).map (f kind) := by
  rw [paintedKinds]
  induction SymbolKind.known with
  | nil => rfl
  | cons kind kinds ih =>
    rw [List.filter_cons, List.flatMap_cons, ← ih]
    split
    next => rfl
    next h =>
      rw [rangesOf_eq_nil.2 (by simpa using h)]
      rfl

/-- Each symbol that can be painted is shown once and in its own style, and nothing else is shown. -/
theorem IsExact.whole {symbols : List Symbol} {editor : EditorId} {ds : List RenderedDecoration}
    (h : IsExact symbols editor ds) :
    (ds.flatMap fun d => d.ranges.map (some d.style, ·)).Perm
      ((symbols.filter Symbol.Paintable).map fun s => (DecorationStyle.ofKind s.kind, s.range)) := by
  have hrows : (ds.flatMap fun d => d.ranges.map (some d.style, ·)) =
      (paintedKinds symbols).flatMap fun kind =>
        (rangesOf symbols kind).map (DecorationStyle.ofKind kind, ·) := by
    rw [IsExact] at h
    generalize paintedKinds symbols = kinds at h ⊢
    induction h with
    | nil => rfl
    | cons hd _ ih => rw [List.flatMap_cons, List.flatMap_cons, ih, hd.style, hd.ranges]
  have hgroups := gathered_perm Symbol.kind (fun s => s.range.WellFormed) symbols
    SymbolKind.known (by decide)
  rw [hrows, flatMap_paintedKinds]
  refine List.Perm.trans (.of_eq ?_) (hgroups.map fun s => (DecorationStyle.ofKind s.kind, s.range))
  rw [List.map_flatMap]
  refine List.flatMap_congr fun kind _ => ?_
  rw [rangesOf, List.map_map]
  refine List.map_congr_left fun s hs => ?_
  have hkind : s.kind = kind := (of_decide_eq_true (List.mem_filter.1 hs).2).1
  simp [hkind]

/-- What looks like the renderings of a set, and is in one editor, shows the set there. -/
theorem isExact_of_look {symbols : List Symbol} {editor : EditorId} {ds : List RenderedDecoration}
    (hlook : IsRendering ds symbols) (hin : ∀ d ∈ ds, d.editor = editor) :
    IsExact symbols editor ds := by
  have hstyles : ∀ kind ∈ SymbolKind.known, ∃ style, DecorationStyle.ofKind kind = some style :=
    fun _ => DecorationStyle.exists_ofKind
  rw [IsRendering, renderings] at hlook
  rw [IsExact, paintedKinds]
  generalize SymbolKind.known = kinds at hlook hstyles ⊢
  -- along the kinds that are left, with the decorations that are left
  induction kinds generalizing ds with
  | nil =>
    rw [List.map_eq_nil_iff.1 hlook]
    exact .nil
  | cons kind kinds ih =>
    obtain ⟨⟨style, hstyle⟩, hstyles⟩ := List.forall_mem_cons.1 hstyles
    rw [List.filterMap_cons] at hlook
    rw [List.filter_cons]
    cases hr : rangesOf symbols kind with
    | nil =>
      have hnot := rangesOf_eq_nil.1 hr
      simp only [hr] at hlook
      rw [if_neg (by simpa using hnot)]
      exact ih hin hlook hstyles
    | cons range ranges =>
      have hsome : ∃ s ∈ symbols, s.kind = kind ∧ s.range.WellFormed := by
        by_contra hnot
        rw [rangesOf_eq_nil.2 hnot] at hr
        cases hr
      simp only [hr, hstyle, Option.map_some, List.map_cons] at hlook
      obtain ⟨d, ds, rfl, hd, hlook⟩ := List.map_eq_cons_iff.1 hlook
      obtain ⟨hdin, hin⟩ := List.forall_mem_cons.1 hin
      rw [if_pos (by simpa using hsome)]
      simp only [RenderedDecoration.look, Prod.mk.injEq] at hd
      exact .cons ⟨hstyle.trans (congrArg some hd.1.symm), hd.2.1.trans hr.symm, hd.2.2, hdin⟩
        (ih hin hlook hstyles)

theorem IsExact.mem {symbols : List Symbol} {editor : EditorId} {ds : List RenderedDecoration}
    (h : IsExact symbols editor ds) {d : RenderedDecoration} (hd : d ∈ ds) :
    d.editor = editor ∧ d.sort = .highlight := by
  have hpaired : List.Forall₂ (fun d kind => (d.editor = editor ∧ d.sort = .highlight) ∧
      ShowsKind symbols editor kind d) ds (paintedKinds symbols) :=
    .flip (h.imp fun kind d hk => ⟨⟨hk.editor, DecorationStyle.sort_ofKind hk.style⟩, hk⟩)
  exact ((List.forall₂_and_left _ _).1 hpaired).1 d hd

/-- A set looks the same wherever it is shown exactly. -/
theorem IsExact.look_eq {symbols : List Symbol} {editor editor' : EditorId}
    {ds ds' : List RenderedDecoration} (h : IsExact symbols editor ds)
    (h' : IsExact symbols editor' ds') :
    ds.map RenderedDecoration.look = ds'.map RenderedDecoration.look := by
  rw [IsExact] at h h'
  generalize paintedKinds symbols = kinds at h h'
  induction h generalizing ds' with
  | nil =>
    cases h'
    rfl
  | @cons kind d kinds ds hd _ ih =>
    obtain ⟨d', ds', hd', hrest, rfl⟩ := List.forall₂_cons_left_iff.1 h'
    have hstyle : d.style = d'.style := Option.some.inj (hd.style.symm.trans hd'.style)
    rw [List.map_cons, List.map_cons, ih hrest, RenderedDecoration.look, RenderedDecoration.look, hstyle,
      hd.ranges, hd'.ranges, hd.hover, hd'.hover]

/-! ## Painting -/

section

variable {σ : Type} [EditorHost σ] [DecoratedHost σ]

open DecoratedHost

/-- The new decorations come after what is there, in their order, and their handles are handed on. -/
theorem exists_createAll (h : σ) (editor : EditorId) (rs : List (DecorationStyle × List Range)) :
    ∃ ds : List RenderedDecoration,
      (createAll h editor rs).1 = ds.map RenderedDecoration.handle ∧
      live (createAll h editor rs).2 = live h ++ ds ∧
      ds.map RenderedDecoration.look = rs.map (fun (style, ranges) => (style, ranges, none)) ∧
      ∀ d ∈ ds, d.editor = editor := by
  induction rs generalizing h with
  | nil => exact ⟨[], rfl, (List.append_nil _).symm, rfl, by simp⟩
  | cons r rs ih =>
    obtain ⟨style, ranges⟩ := r
    obtain ⟨ds, hhandles, hlive, hlook, hin⟩ :=
      ih (EditorHost.createDecoration h editor style ranges none).2
    refine ⟨⟨(EditorHost.createDecoration h editor style ranges none).1, editor, style, ranges,
      none⟩ :: ds, ?_, ?_, ?_, ?_⟩
    · exact congrArg (_ :: ·) hhandles
    · refine hlive.trans ?_
      rw [live_create, List.append_assoc, List.singleton_append]
    · exact congrArg (_ :: ·) hlook
    · exact List.forall_mem_cons.2 ⟨rfl, hin⟩

/-- Painting puts an exact row on top of what is there. -/
theorem exists_render (o : Overlay) (h : σ) (editor : EditorRef) :
    ∃ ds, IsExact ((o.cached? editor.uri).getD []) editor.id ds ∧
      live (o.render h editor).2 = live h ++ ds ∧
      (o.render h editor).1.paintedIn editor.id =
        { o.paintedIn editor.id with
          uri := if (o.cached? editor.uri).isSome then editor.uri else (o.paintedIn editor.id).uri
          highlights := (o.paintedIn editor.id).highlights ++ ds.map RenderedDecoration.handle } := by
  unfold render
  split
  next hc =>
    refine ⟨[], ?_, (List.append_nil _).symm, ?_⟩
    · rw [hc]
      exact .nil
    · rw [hc, List.map_nil, List.append_nil]
      rfl
  next symbols hc =>
    obtain ⟨ds, hhandles, hlive, hlook, hin⟩ := exists_createAll h editor.id (renderings symbols)
    refine ⟨ds, ?_, hlive, ?_⟩
    · rw [hc]
      exact isExact_of_look hlook hin
    · dsimp only
      rw [paintedIn_set, if_pos rfl, hhandles, hc]
      rfl

omit [DecoratedHost σ] in
theorem paintedIn_render_of_ne (o : Overlay) (h : σ) {editor : EditorRef} {id : EditorId}
    (hne : editor.id ≠ id) : (o.render h editor).1.paintedIn id = o.paintedIn id := by
  unfold render
  split
  next => rfl
  next => rw [paintedIn_set, if_neg hne]

/-- The decorations `ds` are what an editor is painted with, from `o` and `h` to `o'` and `h'`. -/
structure Repainted (editor : EditorRef) (o : Overlay) (h : σ) (o' : Overlay) (h' : σ)
    (ds : List RenderedDecoration) : Prop where
  /-- They show the set that is cached for the document, or nothing if none is. -/
  exact : IsExact ((o.cached? editor.uri).getD []) editor.id ds
  /-- They are the highlights that are owned in the editor, and the marker stays if the editor was
  painted for the same document. -/
  record : o'.paintedIn editor.id =
    { uri := editor.uri
      highlights := ds.map RenderedDecoration.handle
      computed :=
        if (o.paintedIn editor.id).uri = editor.uri then (o.paintedIn editor.id).computed else none }
  /-- On the host they come after what is left: nothing of the highlights that were owned in the
  editor, and of the marker only if it stays. -/
  live : live h' =
    (live h).filter (fun d => d.handle ∉ (o.paintedIn editor.id).highlights ∧
      ((o.paintedIn editor.id).uri = editor.uri ∨
        (o.paintedIn editor.id).computed ≠ some d.handle)) ++ ds
  others : ∀ id, id ≠ editor.id → o'.paintedIn id = o.paintedIn id
  cache : o'.cache = o.cache

/-- An editor in which some handles were disposed of is painted on top of what is left. -/
theorem exists_repainted_over (o : Overlay) (h : σ) (editor : EditorRef)
    {gone : List DecorationHandle} {marker : Option DecorationHandle}
    (hgone : ∀ x, x ∉ gone ↔ x ∉ (o.paintedIn editor.id).highlights ∧
      ((o.paintedIn editor.id).uri = editor.uri ∨ (o.paintedIn editor.id).computed ≠ some x))
    (hmarker : marker = if (o.paintedIn editor.id).uri = editor.uri then
      (o.paintedIn editor.id).computed else none) :
    let struck : Overlay :=
      { o with painted := o.painted.set editor.id { uri := editor.uri, computed := marker } }
    let after := struck.render (EditorHost.disposeAll h gone) editor
    ∃ ds, Repainted editor o h after.1 after.2 ds := by
  intro struck after
  have hrow : struck.paintedIn editor.id = { uri := editor.uri, computed := marker } := by
    rw [paintedIn_set, if_pos rfl]
  obtain ⟨ds, hexact, hlive, hrecord⟩ := exists_render struck (EditorHost.disposeAll h gone) editor
  rw [hrow] at hrecord
  refine ⟨ds, hexact, ?_, ?_, fun id hne => ?_, cache_render _ _ _⟩
  · rw [hrecord, ← hmarker]
    simp
  · rw [hlive, live_disposeAll]
    congr 1
    exact List.filter_congr fun d _ => decide_eq_decide.2 (hgone d.handle)
  · rw [paintedIn_render_of_ne _ _ hne.symm, paintedIn_set, if_neg hne.symm]

theorem exists_repainted (o : Overlay) (h : σ) (editor : EditorRef) :
    ∃ ds, Repainted editor o h (o.showFor h editor).1 (o.showFor h editor).2 ds := by
  dsimp only [showFor]
  split
  next hu =>
    rw [hu]
    exact o.exists_repainted_over h editor (fun x => by simp [hu]) (if_pos hu).symm
  next hu =>
    exact o.exists_repainted_over h editor (fun x => by simp [hu, Painted.handles]) (if_neg hu).symm

/-- **Painting is exact and idempotent.**  Whatever an overlay has recorded and whatever a host shows,
an editor that is painted shows its cached set exactly, each symbol that can be painted once and in
its own style, and to paint it once more puts decorations that look the same in the place of those. -/
theorem editor_is_painted_exactly (o : Overlay) (h : σ) (editor : EditorRef) :
    let symbols := (o.cached? editor.uri).getD []
    let first := o.showFor h editor
    let second := first.1.showFor first.2 editor
    ∃ ds ds', Repainted editor o h first.1 first.2 ds ∧
      (ds.flatMap fun d => d.ranges.map (some d.style, ·)).Perm
        ((symbols.filter Symbol.Paintable).map fun s => (DecorationStyle.ofKind s.kind, s.range)) ∧
      Repainted editor first.1 first.2 second.1 second.2 ds' ∧
      ds'.map RenderedDecoration.look = ds.map RenderedDecoration.look ∧
      live second.2 = (live first.2).filter (·.handle ∉ ds.map RenderedDecoration.handle) ++ ds' := by
  intro symbols first second
  obtain ⟨ds, hfirst⟩ := o.exists_repainted h editor
  obtain ⟨ds', hsecond⟩ := first.1.exists_repainted first.2 editor
  have hrecord : first.1.paintedIn editor.id = _ := hfirst.record
  refine ⟨ds, ds', hfirst, hfirst.exact.whole, hsecond, ?_, ?_⟩
  · have hcached : first.1.cached? editor.uri = o.cached? editor.uri :=
      congrArg (Table.get? · editor.uri) hfirst.cache
    have hexact := hsecond.exact
    rw [hcached] at hexact
    exact hexact.look_eq hfirst.exact
  · rw [hsecond.live, hrecord]
    simp

/-- Two calls of a function around its definition, a symbol of an unknown kind and an inverted range
are two decorations: the definition and, in their order, the calls. -/
example :
    let range (line start stop : UInt32) : Range := ⟨⟨line, start⟩, ⟨line, stop⟩⟩
    let symbols : List Symbol := [⟨range 2 0 1, .fnCall⟩, ⟨range 0 0 1, .fnDef⟩,
      ⟨range 1 0 1, .unknown⟩, ⟨range 3 5 1, .fnCall⟩, ⟨range 1 0 1, .fnCall⟩]
    let o : Overlay := { cache := [("a", symbols)] }
    (live (o.showFor ({} : StagedEditor) ⟨⟨1⟩, "a"⟩).2).map (fun d => (d.style.weight, d.ranges)) =
      [(.bold, [range 0 0 1]), (.normal, [range 2 0 1, range 1 0 1])] := by decide

end

end Overlay

end LanguageClient
