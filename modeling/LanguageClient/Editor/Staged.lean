import LanguageClient.Editor.Canvas

/-!
# An editor whose views are set from outside

An editor that does nothing of its own: which documents are open, which editors are visible and which
is active is whatever it was told last.  It keeps every request to dispose of a handle, also of one
that was not alive, and every selection that was set.
-/

namespace LanguageClient

structure StagedEditor where
  openUris : List String := []
  visible : List EditorRef := []
  active : Option EditorRef := none
  canvas : Canvas := {}
  disposeRequests : List DecorationHandle := []
  selected : List (EditorId × Selection) := []
  deriving Inhabited, Repr

instance : EditorHost StagedEditor where
  activeEditor := StagedEditor.active
  visibleEditors := StagedEditor.visible
  isOpen h uri := h.openUris.contains uri
  createDecoration h editor style ranges hover :=
    let (handle, canvas) := h.canvas.create editor style ranges hover
    (handle, { h with canvas })
  dispose h handle :=
    { h with canvas := h.canvas.dispose handle, disposeRequests := h.disposeRequests ++ [handle] }
  setSelection h editor selection := { h with selected := h.selected ++ [(editor, selection)] }

end LanguageClient
