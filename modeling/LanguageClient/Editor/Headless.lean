import LanguageClient.Data.Table
import LanguageClient.Document.Uri
import LanguageClient.Editor.Canvas
import LanguageClient.Storage.FileTree

/-!
# An editor without a screen

Documents, the editors that show them and their decorations as data.  The command line uses it in
place of an editor, and everything that an editor does to the client can be played through it.

A document has at most one editor, which is made when it is first shown and goes when the document
is closed.  A document that was opened from a file remembers where, and is *dirty* from an edit
until the next save.

Saving takes three steps, because writing a file takes time: `beginSave` decides what has to be
written, the file is written, and `endSave` notes that the document is saved.  Anything may happen
to the document between the first and the last step.
-/

namespace LanguageClient

structure Document where
  text : String
  path : Option String
  dirty : Bool
  deriving DecidableEq, Inhabited, Repr

/-- An editor that is visible. -/
structure View where
  id : EditorId
  uri : String
  selection : Selection
  deriving DecidableEq, Inhabited, Repr

def View.ref (v : View) : EditorRef := ⟨v.id, v.uri⟩

structure HeadlessEditor where
  documents : Table String Document := []
  views : List View := []
  active : Option EditorId := none
  canvas : Canvas := {}
  /-- The number of the latest editor. -/
  latestEditor : Nat := 0
  messages : List (MessageLevel × String) := []
  saves : List String := []
  deriving Inhabited, Repr

namespace HeadlessEditor

/-- The selection of an editor that was just made. -/
def startSelection : Selection := .caret ⟨0, 0⟩

def viewById? (h : HeadlessEditor) (id : EditorId) : Option View :=
  h.views.find? (·.id = id)

def viewOf? (h : HeadlessEditor) (uri : String) : Option View :=
  h.views.find? (·.uri = uri)

def activeEditor (h : HeadlessEditor) : Option EditorRef :=
  (h.active.bind h.viewById?).map View.ref

def visibleEditors (h : HeadlessEditor) : List EditorRef := h.views.map View.ref

def isOpen (h : HeadlessEditor) (uri : String) : Bool := h.documents.contains uri

def text? (h : HeadlessEditor) (uri : String) : Option String :=
  (h.documents.get? uri).map Document.text

def selection? (h : HeadlessEditor) (id : EditorId) : Option Selection :=
  (h.viewById? id).map View.selection

/-! ## What a person does -/

/-- Opens a document that is in no file. -/
def openDocument (h : HeadlessEditor) (uri text : String) : HeadlessEditor :=
  { h with documents := h.documents.set uri ⟨text, none, false⟩ }

/-- Opens a file.  Answers its URI. -/
def openFile (h : HeadlessEditor) (files : FileTree) (cwd : Place) (path : String) :
    Except IoError (String × HeadlessEditor) := do
  let path ← files.canonical cwd path
  let text ← files.readText [] path
  let uri := Uri.ofPath path
  return (uri, { h with documents := h.documents.set uri ⟨text, some path, false⟩ })

/-- Shows a document that is open, in its editor or in a new one, which becomes the active one. -/
def showDocument (h : HeadlessEditor) (uri : String) : Except HostError (EditorEvent × HeadlessEditor) :=
  if h.isOpen uri then
    match h.viewOf? uri with
    | some v => .ok (.activeChanged (some v.ref), { h with active := some v.id })
    | none =>
      let v : View := ⟨⟨h.latestEditor + 1⟩, uri, startSelection⟩
      .ok (.activeChanged (some v.ref),
        { h with views := h.views ++ [v], active := some v.id, latestEditor := h.latestEditor + 1 })
  else .error (.unknownDocument uri)

/-- Replaces the text of a document.  The same text again is no change. -/
def edit (h : HeadlessEditor) (uri text : String) : Except HostError (EditorEvent × HeadlessEditor) :=
  match h.documents.get? uri with
  | none => .error (.unknownDocument uri)
  | some d =>
    if d.text = text then .ok (.documentChanged uri false, h)
    else
      .ok (.documentChanged uri true,
        { h with documents := h.documents.set uri { d with text, dirty := true } })

/-- Closes a document and the editor that shows it. -/
def close (h : HeadlessEditor) (uri : String) : EditorEvent × HeadlessEditor :=
  let views := h.views.filter (·.uri ≠ uri)
  let active := h.active.filter fun id => views.any (·.id = id)
  (.documentClosed uri, { h with documents := h.documents.erase uri, views, active })

def setSelection (h : HeadlessEditor) (id : EditorId) (selection : Selection) : HeadlessEditor :=
  { h with views := h.views.map fun v => if v.id = id then { v with selection } else v }

/-! ## What the client does -/

def createDecoration (h : HeadlessEditor) (editor : EditorId) (style : DecorationStyle)
    (ranges : List Range) (hover : Option String) : DecorationHandle × HeadlessEditor :=
  let (handle, canvas) := h.canvas.create editor style ranges hover
  (handle, { h with canvas })

def dispose (h : HeadlessEditor) (handle : DecorationHandle) : HeadlessEditor :=
  { h with canvas := h.canvas.dispose handle }

def showMessage (h : HeadlessEditor) (level : MessageLevel) (text : String) : HeadlessEditor :=
  { h with messages := h.messages ++ [(level, text)] }

instance : EditorHost HeadlessEditor where
  activeEditor := activeEditor
  visibleEditors := visibleEditors
  isOpen := isOpen
  createDecoration := createDecoration
  dispose := dispose
  setSelection := setSelection

/-! ## Saving -/

/-- What has to be written: the file and the text of a document from a file that is dirty. -/
def beginSave (h : HeadlessEditor) (uri : String) : Except HostError (Option (String × String)) :=
  match h.documents.get? uri with
  | none => .error (.unknownDocument uri)
  | some d =>
    match d.path, d.dirty with
    | some path, true => .ok (some (path, d.text))
    | _, _ => .ok none

/-- Writes a file that `beginSave` asked for. -/
def writeSaved (files : FileTree) (uri : String) (path text : String) : Except HostError FileTree :=
  (files.write [] path (Utf8.ofString text)).mapError fun e => .saveFailed uri e.message

/-- Notes that a document is saved. -/
def endSave (h : HeadlessEditor) (uri : String) : HeadlessEditor :=
  { h with
    documents := h.documents.modify uri fun d => { d with dirty := false }
    saves := h.saves ++ [uri] }

/-- The three steps with nothing in between. -/
def save (h : HeadlessEditor) (files : FileTree) (uri : String) :
    Except HostError (HeadlessEditor × FileTree) := do
  match ← h.beginSave uri with
  | none => return (h.endSave uri, files)
  | some (path, text) =>
    let files ← writeSaved files uri path text
    return (h.endSave uri, files)

end HeadlessEditor

end LanguageClient
