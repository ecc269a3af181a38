import LanguageClient.Editor.Headless
import LanguageClient.Editor.Staged
import LanguageClient.Proofs.Editor.Canvas

/-!
# Hosts whose decorations can be seen

What the client paints is seen on the host only.  A `DecoratedHost` is any host that can be asked for
the decorations that are alive, and that does with them what creating and disposing say; whether it
hands out its handles in order, or hands one out twice, is its own affair.  The editor without a
screen and the staged one are such hosts, in every state.
-/

namespace LanguageClient

/-- A host that lists its live decorations, the oldest first.  While decorations come and go the same
editors are visible. -/
class DecoratedHost (σ : Type) [EditorHost σ] where
  live : σ → List RenderedDecoration
  live_create : ∀ (h : σ) (editor : EditorId) (style : DecorationStyle) (ranges : List Range)
    (hover : Option String),
    live (EditorHost.createDecoration h editor style ranges hover).2 =
      live h ++ [⟨(EditorHost.createDecoration h editor style ranges hover).1, editor, style, ranges,
        hover⟩]
  live_dispose : ∀ (h : σ) (x : DecorationHandle),
    live (EditorHost.dispose h x) = (live h).filter (·.handle ≠ x)
  live_setSelection : ∀ (h : σ) (editor : EditorId) (selection : Selection),
    live (EditorHost.setSelection h editor selection) = live h
  visible_create : ∀ (h : σ) (editor : EditorId) (style : DecorationStyle) (ranges : List Range)
    (hover : Option String),
    EditorHost.visibleEditors (EditorHost.createDecoration h editor style ranges hover).2 =
      EditorHost.visibleEditors h
  visible_dispose : ∀ (h : σ) (x : DecorationHandle),
    EditorHost.visibleEditors (EditorHost.dispose h x) = EditorHost.visibleEditors h

namespace DecoratedHost

instance : DecoratedHost HeadlessEditor where
  live h := h.canvas.live
  live_create _ _ _ _ _ := rfl
  live_dispose h x := h.canvas.live_dispose x
  live_setSelection _ _ _ := rfl
  visible_create _ _ _ _ _ := rfl
  visible_dispose _ _ := rfl

instance : DecoratedHost StagedEditor where
  live h := h.canvas.live
  live_create _ _ _ _ _ := rfl
  live_dispose h x := h.canvas.live_dispose x
  live_setSelection _ _ _ := rfl
  visible_create _ _ _ _ _ := rfl
  visible_dispose _ _ := rfl

variable {σ : Type} [EditorHost σ] [DecoratedHost σ]

theorem live_disposeAll (h : σ) (handles : List DecorationHandle) :
    live (EditorHost.disposeAll h handles) = (live h).filter (·.handle ∉ handles) := by
  induction handles generalizing h with
  | nil => simp [EditorHost.disposeAll]
  | cons x handles ih =>
    rw [EditorHost.disposeAll, List.foldl_cons, ← EditorHost.disposeAll, ih, live_dispose,
      List.filter_filter]
    exact List.filter_congr fun d _ => by simp [Bool.and_comm]

theorem visible_disposeAll (h : σ) (handles : List DecorationHandle) :
    EditorHost.visibleEditors (EditorHost.disposeAll h handles) = EditorHost.visibleEditors h := by
  induction handles generalizing h with
  | nil => rfl
  | cons x handles ih => exact (ih (EditorHost.dispose h x)).trans (visible_dispose h x)

end DecoratedHost

end LanguageClient
