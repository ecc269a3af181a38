import LanguageClient.Proofs.Client.Gesture
import LanguageClient.Proofs.Client.Traffic
import LanguageClient.Proofs.Highlight.Absence

/-!
# What is painted, and where

Whatever goes on, a step of the client paints nothing, or it is one operation of the overlay: an event
is followed, a new set is taken, or a computed term is marked.  `Client.Paints` lists these cases, and
three things are read off it.

* `Client.IsAccounted` — records and canvas agree, and whatever is painted is in an editor that is or
  was visible, for the document that it shows (`Paints.isAccounted`).
* `Canvas.Grows` — a decoration that is gone does not come back (`Paints.grows`).
* `Overlay.IsRidOf` — a document that is forgotten and not open stays so, unless a computed term is
  marked in an editor that showed it (`Paints.isRidOf`).

The editors that are or were visible are a parameter, `known`; it grows with each step.
-/

namespace LanguageClient

/-! ## Operations of the overlay on a client -/

/-- What a step may do to what is seen.  `marking` is the computed term that it has to show, if any, with
the editor that it was asked from. -/
inductive Client.Paints (known : EditorRef → Prop) (marking : Option (EditorRef × ComputeTermResult))
    (c c' : Client) : Prop
  | nothing (unfolds : c.editor.Unfolds c'.editor) (canvas : c'.editor.canvas = c.editor.canvas)
      (overlay : c'.overlay = c.overlay)
  | follows (event : EditorEvent) (hknown : ∀ e, event = .activeChanged (some e) → known e)
      (overlay : c'.overlay = (c.overlay.handle c.editor event).1)
      (editor : c'.editor = (c.overlay.handle c.editor event).2)
  | takes (r : HighlightResult) (overlay : c'.overlay = (c.overlay.applyHighlights c.editor r).2.1)
      (editor : c'.editor = (c.overlay.applyHighlights c.editor r).2.2)
  | marks (e : EditorRef) (r : ComputeTermResult) (hmarking : marking = some (e, r)) (hknown : known e)
      (overlay : c'.overlay = (c.overlay.showComputed c.editor e r).2.1)
      (editor : c'.editor = (c.overlay.showComputed c.editor e r).2.2)

/-- The editors that are waiting to be painted are known. -/
def Client.Reports (known : EditorRef → Prop) (c : Client) : Prop :=
  ∀ e, .event (.activeChanged (some e)) ∈ c.queue → known e

/-- Records and canvas agree, and only known editors are painted, each for the document it shows. -/
structure Client.IsAccounted (known : EditorRef → Prop) (c : Client) : Prop where
  accounts : ∃ a : AuditedEditor, a.editor = c.editor ∧ c.overlay.Accounts a
  apart : c.editor.ViewsApart
  visible : ∀ e ∈ c.editor.visibleEditors, known e
  latest : ∀ e, known e → e.id.number ≤ c.editor.latestEditor
  unique : ∀ e e', known e → known e' → e.id = e'.id → e = e'
  seats : ∀ id uri, c.overlay.seat? id = some uri → known ⟨id, uri⟩

/-- The known editors once those that are visible now are known too. -/
def Client.Learns (known : EditorRef → Prop) (c : Client) (e : EditorRef) : Prop :=
  known e ∨ e ∈ c.editor.visibleEditors

namespace HeadlessEditor

/-- The same editors are visible, and the next one will have the same number. -/
def SameViews (h h' : HeadlessEditor) : Prop :=
  h'.visibleEditors = h.visibleEditors ∧ h'.latestEditor = h.latestEditor

/-- Painting makes no view and takes none away. -/
theorem sameViews_kept (h : HeadlessEditor) : KeptByPainting h.SameViews where
  create same _ _ _ _ := same
  dispose same _ := same
  setSelection {h'} same editor selection :=
    ⟨(h'.visibleEditors_setSelection editor selection).trans same.1, same.2⟩

/-- Painting takes decorations away and makes new ones. -/
theorem grows_kept (h : HeadlessEditor) :
    KeptByPainting fun h' : HeadlessEditor => h.canvas.Grows h'.canvas where
  create {h'} grows editor style ranges hover :=
    grows.trans (h'.canvas.grows_create editor style ranges hover)
  dispose {h'} grows x := grows.trans (h'.canvas.grows_dispose x)
  setSelection grows _ _ := grows

theorem SameViews.refl (h : HeadlessEditor) : h.SameViews h := ⟨rfl, rfl⟩

theorem activeEditor_visible {h : HeadlessEditor} {e : EditorRef} (he : h.activeEditor = some e) :
    e ∈ h.visibleEditors := by
  obtain ⟨v, hv, rfl⟩ := Option.map_eq_some_iff.1 he
  obtain ⟨id, -, hv⟩ := Option.bind_eq_some_iff.1 hv
  exact List.mem_map_of_mem (List.mem_of_find?_eq_some hv)

theorem SameViews.unfolds {h h' : HeadlessEditor} (same : h.SameViews h') : h.Unfolds h' :=
  .of_same same.1 same.2

end HeadlessEditor

namespace Client

variable {known : EditorRef → Prop} {marking : Option (EditorRef × ComputeTermResult)}
  {c c' : Client} {uri : String}

/-- A step after which the views are what they were, or new. -/
theorem IsAccounted.of_unfolds (h : c.IsAccounted known) (unfolds : c.editor.Unfolds c'.editor)
    (accounts : ∃ a : AuditedEditor, a.editor = c'.editor ∧ c'.overlay.Accounts a)
    (seats : ∀ id uri, c'.overlay.seat? id = some uri → known ⟨id, uri⟩) :
    c'.IsAccounted (c'.Learns known) where
  accounts := accounts
  apart := unfolds.apart h.apart
  visible _ he := .inr he
  latest e he := by
    rcases he with he | he
    · exact Nat.le_trans (h.latest e he) unfolds.latest
    · exact (unfolds.apart h.apart).id_le e he
  unique e e' he he' heq := by
    -- an editor that has just come has a number that no known editor has
    have known_of {e e' : EditorRef} (he : known e) (heq : e.id = e'.id)
        (he' : e' ∈ c'.editor.visibleEditors) : known e' := by
      rcases unfolds.visible e' he' with he' | hlt
      · exact h.visible e' he'
      · rw [← heq] at hlt
        exact absurd (h.latest e he) (Nat.not_le_of_lt hlt)
    rcases he with he | he
    · rcases he' with he' | he'
      · exact h.unique e e' he he' heq
      · exact h.unique e e' he (known_of he heq he') heq
    · rcases he' with he' | he'
      · exact h.unique e e' (known_of he' heq.symm he) he' heq
      · exact (unfolds.apart h.apart).eq_of_id he he' heq
  seats id uri hs := .inl (seats id uri hs)

/-- In a known editor there is nothing but what was painted for the document that it shows. -/
theorem IsAccounted.seated (h : c.IsAccounted known) {e : EditorRef} (he : known e) :
    (c.overlay.paintedIn e.id).uri = e.uri ∨ c.overlay.paintedIn e.id = {} := by
  cases hp : c.overlay.painted.get? e.id with
  | none => exact .inr (Overlay.paintedIn_of_none hp)
  | some p =>
    have hseat : known ⟨e.id, p.uri⟩ := h.seats e.id p.uri (by rw [Overlay.seat?, hp]; rfl)
    rw [Overlay.paintedIn_of_some hp]
    exact .inl (congrArg EditorRef.uri (h.unique _ e hseat he rfl))

/-- **Whatever is painted, the accounts stay in order.** -/
theorem Paints.isAccounted (paints : c.Paints known marking c') (h : c.IsAccounted known) :
    c'.IsAccounted (c'.Learns known) := by
  obtain ⟨a, ha, accounts⟩ := h.accounts
  cases paints with
  | nothing unfolds canvas overlay =>
    refine h.of_unfolds unfolds ⟨{ a with editor := c'.editor }, rfl, ?_⟩ fun id uri hs =>
      h.seats id uri (overlay ▸ hs)
    rw [overlay]
    exact accounts.of_canvas (canvas.trans (congrArg HeadlessEditor.canvas ha.symm)) rfl
  | follows event hknown overlay editor =>
    have same := c.overlay.kept_handle c.editor.sameViews_kept.toKeptByDecorating (.refl _) event
    have hmap := Overlay.handle_map AuditedEditor.hostMap_editor c.overlay a event
    rw [ha] at hmap
    refine h.of_unfolds (editor ▸ same.unfolds) ⟨(c.overlay.handle a event).2, ?_, ?_⟩
      fun id uri hs => ?_
    · rw [editor, hmap]
      rfl
    · rw [overlay, hmap]
      exact accounts.handle event
    · rw [overlay] at hs
      unfold Overlay.handle at hs
      split at hs
      next shown =>
        rcases c.overlay.seat?_showFor c.editor shown hs with hs | hs
        · exact h.seats id uri hs
        · exact hs ▸ hknown shown rfl
      next => exact h.seats id uri hs
      next => exact h.seats id uri hs
      next =>
        split at hs
        next active _ =>
          split at hs
          next => exact h.seats id uri (c.overlay.seat?_clear c.editor active.id ▸ hs)
          next => exact h.seats id uri hs
        next => exact h.seats id uri hs
      next closed => exact h.seats id uri (c.overlay.seat?_forget c.editor accounts.keys closed hs).1
  | takes r overlay editor =>
    have same := c.overlay.kept_applyHighlights c.editor.sameViews_kept.toKeptByDecorating (.refl _) r
    have hmap := Overlay.applyHighlights_map AuditedEditor.hostMap_editor c.overlay a r
    rw [ha] at hmap
    refine h.of_unfolds (editor ▸ same.unfolds) ⟨(c.overlay.applyHighlights a r).2.2, ?_, ?_⟩
      fun id uri hs => ?_
    · rw [editor, hmap]
      rfl
    · rw [overlay, hmap]
      exact accounts.applyHighlights (ha ▸ h.apart) (fun e he => h.seated (h.visible e (ha ▸ he))) r
    · rw [overlay] at hs
      rcases c.overlay.seat?_applyHighlights c.editor r hs with hs | hs
      · exact h.seats id uri hs
      · have disposed : c.editor.SameViews (c.overlay.disposeHighlightsOf c.editor r.uri).2 :=
          Overlay.kept_disposeAll c.editor.sameViews_kept.toKeptByDecorating (.refl _) _
        exact h.visible _ (disposed.1 ▸ hs)
  | marks e r hmarking hknown overlay editor =>
    have same := c.overlay.kept_showComputed c.editor.sameViews_kept (.refl _) e r
    have hmap := Overlay.showComputed_map AuditedEditor.hostMap_editor c.overlay a e r
    rw [ha] at hmap
    refine h.of_unfolds (editor ▸ same.unfolds) ⟨(c.overlay.showComputed a e r).2.2, ?_, ?_⟩
      fun id uri hs => ?_
    · rw [editor, hmap]
      rfl
    · rw [overlay, hmap]
      exact accounts.showComputed e r
    · rw [overlay] at hs
      rcases c.overlay.seat?_showComputed c.editor e r hs with hs | hs
      · exact h.seats id uri hs
      · exact hs ▸ hknown

/-- What is gone does not come back, whatever is painted. -/
theorem Paints.grows (paints : c.Paints known marking c') :
    c.editor.canvas.Grows c'.editor.canvas := by
  have kept := c.editor.grows_kept
  have start : c.editor.canvas.Grows c.editor.canvas := .refl _
  cases paints with
  | nothing _ canvas _ => rw [canvas]; exact start
  | follows event _ _ editor =>
    rw [editor]
    exact c.overlay.kept_handle kept.toKeptByDecorating start event
  | takes r _ editor =>
    rw [editor]
    exact c.overlay.kept_applyHighlights kept.toKeptByDecorating start r
  | marks e r _ _ _ editor =>
    rw [editor]
    exact c.overlay.kept_showComputed kept start e r

/-- **A change of text** takes everything away from the active editor if that shows the document, and
nothing from any other editor. -/
theorem IsAccounted.decorations_change (h : c.IsAccounted known) {e : EditorRef} (he : known e)
    (uri : String) :
    (c.perform (.event (.documentChanged uri true))).decorations e.id =
      if c.editor.activeEditor = some e ∧ e.uri = uri then [] else c.decorations e.id := by
  obtain ⟨a, ha, accounts⟩ := h.accounts
  have hclear (active : EditorId) : (c.overlay.clear c.editor active).2.canvas.inEditor e.id =
      if active = e.id then [] else c.editor.canvas.inEditor e.id := by
    rw [← ha, Overlay.clear_map AuditedEditor.hostMap_editor c.overlay a active]
    exact accounts.inEditor_clear active e.id
  show (c.overlay.handle c.editor (.documentChanged uri true)).2.canvas.inEditor e.id = _
  dsimp only [Overlay.handle]
  split
  next active hactive =>
    replace hactive : c.editor.activeEditor = some active := hactive
    simp only [hactive, Option.some.injEq]
    by_cases hu : active.uri = uri
    · have hknown := h.visible active (HeadlessEditor.activeEditor_visible hactive)
      have hid : active.id = e.id ↔ active = e ∧ e.uri = uri :=
        ⟨fun hid => by
          obtain rfl := h.unique active e hknown he hid
          exact ⟨rfl, hu⟩, fun heq => congrArg EditorRef.id heq.1⟩
      rw [if_pos hu, hclear]
      simp only [hid]
      rfl
    · have hother : ¬ (active = e ∧ e.uri = uri) := fun ⟨heq, hue⟩ => hu (heq ▸ hue)
      rw [if_neg hu, if_neg hother]
      rfl
  next hnone =>
    replace hnone : c.editor.activeEditor = none := hnone
    rw [hnone, if_neg nofun]
    rfl

/-- **A document that is forgotten and not open stays forgotten**, unless a computed term is marked in
an editor that showed it. -/
theorem Paints.isRidOf (paints : c.Paints known marking c') (h : c.IsAccounted known)
    (rid : c.overlay.IsRidOf uri) (closed : c.editor.isOpen uri = false)
    (intime : ∀ e r, marking = some (e, r) → c.editor.isOpen e.uri = true) :
    c'.overlay.IsRidOf uri := by
  obtain ⟨a, -, accounts⟩ := h.accounts
  cases paints with
  | nothing _ _ overlay => exact overlay ▸ rid
  | follows event _ overlay => exact overlay ▸ rid.handle accounts.keys c.editor event
  | takes r overlay => exact overlay ▸ rid.applyHighlights closed r
  | marks e r hmarking _ overlay =>
    rw [overlay]
    refine rid.showComputed c.editor fun _ he => ?_
    have hopen := intime e r hmarking
    rw [he, closed] at hopen
    cases hopen

/-- **Nothing is left of a document that is forgotten**: in no editor that ever showed it there is a
decoration, and none is recorded. -/
theorem IsAccounted.clean (h : c.IsAccounted known) (rid : c.overlay.IsRidOf uri) {e : EditorRef}
    (he : known e) (hu : e.uri = uri) :
    c.decorations e.id = [] ∧ c.overlay.liveHandles e.id = 0 := by
  obtain ⟨a, ha, accounts⟩ := h.accounts
  have hnone : (c.overlay.paintedIn e.id).handles = [] := by
    rcases h.seated he with hseat | hbare
    · exact rid.unowned e.id (hseat.trans hu)
    · rw [hbare]
      rfl
  refine ⟨?_, ?_⟩
  · have hempty := accounts.inEditor_of_unowned hnone
    rwa [ha] at hempty
  · rw [Overlay.liveHandles, hnone]
    rfl

end Client

end LanguageClient
