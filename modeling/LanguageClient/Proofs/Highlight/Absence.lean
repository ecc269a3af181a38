import LanguageClient.Proofs.Highlight.Upkeep

/-!
# An overlay that knows nothing of a document

Once a document is forgotten, no set is cached for it and nothing is owned in an editor that was
painted for it: `Overlay.IsRidOf`.  This is so on every host, and it stays so: a new set for the
document is refused while it is not open, an editor is painted from the cache only, and the other
operations take decorations away.  Only the marker of a computed term has to be kept out from
outside, because an answer is not asked whether its document is open (`IsRidOf.showComputed`).
-/

namespace LanguageClient.Overlay

/-- Nothing is known of a document, and nothing is owned in an editor that was painted for it. -/
structure IsRidOf (uri : String) (o : Overlay) : Prop where
  uncached : o.cached? uri = none
  unowned : ∀ id, (o.paintedIn id).uri = uri → (o.paintedIn id).handles = []

variable {σ : Type} [EditorHost σ] {o : Overlay} {uri : String}

/-- A record that is for another document, or of nothing, is no matter. -/
theorem IsRidOf.set (h : o.IsRidOf uri) (id : EditorId) {p : Painted}
    (hp : p.uri = uri → p.handles = []) : IsRidOf uri { o with painted := o.painted.set id p } where
  uncached := h.uncached
  unowned e := by
    rw [paintedIn_set]
    split
    next => exact hp
    next => exact h.unowned e

theorem IsRidOf.render (h : o.IsRidOf uri) (host : σ) (editor : EditorRef) :
    (o.render host editor).1.IsRidOf uri := by
  unfold Overlay.render
  split
  next => exact h
  next symbols hc =>
    refine h.set editor.id fun hu => ?_
    have heq : editor.uri = uri := hu
    rw [heq, h.uncached] at hc
    cases hc

theorem IsRidOf.renderAll (h : o.IsRidOf uri) (host : σ) (editors : List EditorRef) :
    (editors.foldl (fun (o, host) e => o.render host e) (o, host)).1.IsRidOf uri := by
  induction editors generalizing o host with
  | nil => exact h
  | cons e editors ih => exact ih (h.render host e) _

theorem IsRidOf.showFor (h : o.IsRidOf uri) (host : σ) (editor : EditorRef) :
    (o.showFor host editor).1.IsRidOf uri := by
  dsimp only [Overlay.showFor]
  split
  next =>
    refine (h.set editor.id fun hu => ?_).render _ editor
    exact (List.append_eq_nil_iff.1 (h.unowned editor.id hu)).2
  next => exact (h.set editor.id fun _ => rfl).render _ editor

theorem IsRidOf.clear (h : o.IsRidOf uri) (host : σ) (editor : EditorId) :
    (o.clear host editor).1.IsRidOf uri := by
  unfold Overlay.clear
  split
  next => exact h
  next => exact h.set editor fun _ => rfl

/-- A new set for a document that is not open is refused. -/
theorem IsRidOf.applyHighlights (h : o.IsRidOf uri) {host : σ} (hopen : EditorHost.isOpen host uri = false)
    (result : HighlightResult) : (o.applyHighlights host result).2.1.IsRidOf uri := by
  dsimp only [Overlay.applyHighlights]
  split
  next ho =>
    have hne : result.uri ≠ uri := by
      rintro rfl
      rw [hopen] at ho
      cases ho
    refine IsRidOf.renderAll ?_ _ _
    refine ⟨(Table.get?_set o.cache result.uri uri _).trans ((if_neg hne).trans h.uncached),
      fun id => ?_⟩
    have hstrike := paintedIn_strike o (o.cache.set result.uri result.symbols) result.uri id
    simp only [Painted.strike] at hstrike
    show (Overlay.paintedIn _ id).uri = uri → (Overlay.paintedIn _ id).handles = []
    rw [disposeHighlightsOf, hstrike]
    split
    next hu => exact fun he => absurd (hu.symm.trans he) hne
    next => exact h.unowned id
  next => exact h

/-- **Forgetting** a document is what gets rid of it. -/
theorem isRidOf_forget (hk : o.painted.keys.Nodup) (host : σ) (uri : String) :
    (o.forget host uri).1.IsRidOf uri where
  uncached := (o.cached?_forget host uri uri).trans (if_pos rfl)
  unowned id := by
    rw [paintedIn_forget host hk]
    split
    next => exact fun _ => rfl
    next hu => exact fun he => absurd he hu

theorem IsRidOf.forget (h : o.IsRidOf uri) (hk : o.painted.keys.Nodup) (host : σ)
    (forgotten : String) : (o.forget host forgotten).1.IsRidOf uri where
  uncached := by
    rw [o.cached?_forget host forgotten uri, h.uncached, ite_self]
  unowned id := by
    rw [paintedIn_forget host hk]
    split
    next => exact fun _ => rfl
    next => exact h.unowned id

theorem IsRidOf.handle (h : o.IsRidOf uri) (hk : o.painted.keys.Nodup) (host : σ)
    (event : EditorEvent) : (o.handle host event).1.IsRidOf uri := by
  unfold Overlay.handle
  split
  next editor => exact h.showFor host editor
  next => exact h
  next => exact h
  next =>
    split
    next active _ =>
      split
      next => exact h.clear host active.id
      next => exact h
    next => exact h
  next forgotten => exact h.forget hk host forgotten

/-- The marker goes where the answer was asked for, whether the document is open or not. -/
theorem IsRidOf.showComputed (h : o.IsRidOf uri) (host : σ) {editor : EditorRef}
    {result : ComputeTermResult} (hne : editor.uri = result.uri → editor.uri ≠ uri) :
    (o.showComputed host editor result).2.1.IsRidOf uri := by
  dsimp only [Overlay.showComputed]
  split
  next hu =>
    split
    next hp => exact h.set editor.id fun he => absurd (hp.symm.trans he) (hne hu)
    next => exact h.set editor.id fun he => absurd he (hne hu)
  next => exact h

end LanguageClient.Overlay
