import LanguageClient.Document.Position
import LanguageClient.Highlight.Style

/-!
# What the client needs of an editor

An editor holds documents and shows some of them; in each editor that is visible the client can
paint decorations, read the selection and set it.  `EditorHost` is that narrow surface: everything
the client does to what a person sees goes through it.  What the editor reports back is an
`EditorEvent`.

A decoration is known by a handle that its creation hands out, and lives until the handle is
disposed of.
-/

namespace LanguageClient

/-- One editor of the host. -/
structure EditorId where
  number : Nat
  deriving DecidableEq, Inhabited, Repr

/-- A visible editor and the document that it shows. -/
structure EditorRef where
  id : EditorId
  uri : String
  deriving DecidableEq, Inhabited, Repr

/-- One decoration of the host. -/
structure DecorationHandle where
  number : Nat
  deriving DecidableEq, Inhabited, Repr

inductive MessageLevel
  | info | warning
  deriving DecidableEq, Inhabited, Repr

def MessageLevel.name : MessageLevel → String
  | info => "info"
  | warning => "warning"

/-- What an editor reports. -/
inductive EditorEvent
  | activeChanged (editor : Option EditorRef)
  | documentChanged (uri : String) (contentChanged : Bool)
  | documentClosed (uri : String)
  deriving DecidableEq, Inhabited, Repr

/-- Why an editor refuses. -/
inductive HostError
  | unknownDocument (uri : String)
  | saveFailed (uri reason : String)
  deriving DecidableEq, Inhabited, Repr

def HostError.message : HostError → String
  | unknownDocument uri => "Document is not open: " ++ uri
  | saveFailed uri reason => "Failed to save " ++ uri ++ ": " ++ reason

/-- A decoration as it is seen. -/
structure RenderedDecoration where
  handle : DecorationHandle
  editor : EditorId
  style : DecorationStyle
  ranges : List Range
  hover : Option String
  deriving DecidableEq, Inhabited, Repr

def RenderedDecoration.toJson (d : RenderedDecoration) : Json :=
  .obj ([("handle", .ofNat d.handle.number), ("editor", .ofNat d.editor.number),
      ("style", d.style.toJson), ("ranges", .arr (d.ranges.map Range.toJson))]
    ++ Json.member? "hover" (d.hover.map .str))

/-- An editor, as far as painting goes. -/
class EditorHost (σ : Type) where
  activeEditor : σ → Option EditorRef
  visibleEditors : σ → List EditorRef
  isOpen : σ → String → Bool
  createDecoration : σ → EditorId → DecorationStyle → List Range → Option String →
    DecorationHandle × σ
  dispose : σ → DecorationHandle → σ
  setSelection : σ → EditorId → Selection → σ

namespace EditorHost

variable {σ : Type} [EditorHost σ]

/-- Disposes of several decorations, the first one first. -/
def disposeAll (h : σ) (handles : List DecorationHandle) : σ :=
  handles.foldl dispose h

end EditorHost

end LanguageClient
