import LanguageClient.Client.Basic
import LanguageClient.Proofs.Editor.Audit

/-!
# What a person does with the editor

People open, show, edit, save and close documents, and move the selection.  A `Gesture` is one of
these, and `Client.gesture` is what it does; what the editor reports of it is passed on to the queue
by whoever likes, whenever they like.

What becomes of the views is said by `HeadlessEditor.Unfolds`: some go, and a view that comes has a
number that no view ever had (`Client.unfolds_gesture`).
-/

namespace LanguageClient

/-- What a person may do with an editor. -/
inductive Gesture
  | opens (uri text : String)
  | opensFile (path : String)
  | shows (uri : String)
  | edits (uri text : String)
  | selects (editor : EditorId) (selection : Selection)
  | saves (uri : String)
  | closes (uri : String)

/-- The client after a gesture.  What the editor refuses leaves it as it is. -/
def Client.gesture (c : Client) : Gesture → Client
  | .opens uri text => { c with editor := c.editor.openDocument uri text }
  | .opensFile path =>
    match c.editor.openFile c.files c.here.cwd path with
    | .ok (_, editor) => { c with editor }
    | .error _ => c
  | .shows uri =>
    match c.editor.showDocument uri with
    | .ok (_, editor) => { c with editor }
    | .error _ => c
  | .edits uri text =>
    match c.editor.edit uri text with
    | .ok (_, editor) => { c with editor }
    | .error _ => c
  | .selects id selection => { c with editor := c.editor.setSelection id selection }
  | .saves uri =>
    match c.editor.save c.files uri with
    | .ok (editor, files) => { c with editor, files }
    | .error _ => c
  | .closes uri => { c with editor := (c.editor.close uri).2 }

/-- A gesture is about the editor and the files. -/
theorem Client.gesture_eq (c : Client) (g : Gesture) :
    ∃ editor files, c.gesture g = { c with editor, files } := by
  cases g <;> simp only [gesture] <;> first | exact ⟨_, _, rfl⟩ | (split <;> exact ⟨_, _, rfl⟩)

namespace HeadlessEditor

theorem unfolds_openFile {h h' : HeadlessEditor} {files : FileTree} {cwd : Place} {path uri : String}
    (ho : h.openFile files cwd path = .ok (uri, h')) : h.Unfolds h' ∧ h'.canvas = h.canvas := by
  simp only [openFile, bind, Except.bind] at ho
  split at ho
  next => cases ho
  next =>
    split at ho
    next => cases ho
    next => cases ho; exact ⟨.of_same rfl rfl, rfl⟩

theorem unfolds_save {h h' : HeadlessEditor} {files files' : FileTree} {uri : String}
    (hs : h.save files uri = .ok (h', files')) : h.Unfolds h' ∧ h'.canvas = h.canvas := by
  simp only [save, bind, Except.bind] at hs
  split at hs
  next => cases hs
  next =>
    split at hs
    next => cases hs; exact ⟨.of_same rfl rfl, rfl⟩
    next =>
      split at hs
      next => cases hs
      next => cases hs; exact ⟨.of_same rfl rfl, rfl⟩

end HeadlessEditor

/-- **What a gesture does to the views**, and that it paints nothing. -/
theorem Client.unfolds_gesture (c : Client) (g : Gesture) :
    c.editor.Unfolds (c.gesture g).editor ∧ (c.gesture g).editor.canvas = c.editor.canvas := by
  cases g with
  | opens uri text => exact ⟨.of_same rfl rfl, rfl⟩
  | opensFile path =>
    simp only [gesture]
    split
    next h => exact HeadlessEditor.unfolds_openFile h
    next => exact ⟨.refl _, rfl⟩
  | shows uri =>
    simp only [gesture]
    split
    next h => exact ⟨HeadlessEditor.unfolds_showDocument h, (HeadlessEditor.showDocument_ok h).2.2.1⟩
    next => exact ⟨.refl _, rfl⟩
  | edits uri text =>
    simp only [gesture]
    split
    next h => exact ⟨HeadlessEditor.unfolds_edit h, (HeadlessEditor.edit_ok h).2.2.2.1⟩
    next => exact ⟨.refl _, rfl⟩
  | selects id selection => exact ⟨c.editor.unfolds_setSelection id selection, rfl⟩
  | saves uri =>
    simp only [gesture]
    split
    next h => exact HeadlessEditor.unfolds_save h
    next => exact ⟨.refl _, rfl⟩
  | closes uri => exact ⟨c.editor.unfolds_close uri, rfl⟩

end LanguageClient
