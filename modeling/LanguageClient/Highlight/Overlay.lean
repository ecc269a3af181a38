import LanguageClient.Compute
import LanguageClient.Data.Table
import LanguageClient.Editor.Basic
import LanguageClient.Highlight.Payload

/-!
# The highlight overlay

The overlay keeps the latest highlight set of each document and paints it into the editors that show
the document, and it marks computed terms.  For each editor it records the URI that it painted for
and every handle that it owns there, and it disposes of a handle before it paints anew; so an editor
does not show two sets at once.

`renderings` is what a set looks like: one decoration for each kind that has a well-formed range, in
the order of the kinds.  The operations only decide where and when it is painted.
-/

namespace LanguageClient

/-- What the overlay owns in one editor. -/
structure Painted where
  uri : String := ""
  highlights : List DecorationHandle := []
  computed : Option DecorationHandle := none
  deriving DecidableEq, Inhabited, Repr

namespace Painted

def handles (p : Painted) : List DecorationHandle := p.highlights ++ p.computed.toList

end Painted

structure Overlay where
  /-- The latest set of each document. -/
  cache : Table String (List Symbol) := []
  /-- What is owned in each editor. -/
  painted : Table EditorId Painted := []
  deriving Inhabited, Repr

namespace Overlay

/-- The ranges of one kind that can be painted, in the order of the set. -/
def rangesOf (symbols : List Symbol) (kind : SymbolKind) : List Range :=
  (symbols.filter fun s => s.kind = kind ∧ s.range.WellFormed).map Symbol.range

/-- How a set is painted. -/
def renderings (symbols : List Symbol) : List (DecorationStyle × List Range) :=
  SymbolKind.known.filterMap fun kind =>
    match rangesOf symbols kind with
    | [] => none
    | ranges => (DecorationStyle.ofKind kind).map (·, ranges)

def cached? (o : Overlay) (uri : String) : Option (List Symbol) := o.cache.get? uri

/-- What is owned in an editor; nothing if nothing was ever painted there. -/
def paintedIn (o : Overlay) (editor : EditorId) : Painted := (o.painted.get? editor).getD {}

/-- How many decorations are owned in an editor. -/
def liveHandles (o : Overlay) (editor : EditorId) : Nat := (o.paintedIn editor).handles.length

variable {σ : Type} [EditorHost σ]

/-- Creates decorations, and lists their handles in order. -/
def createAll (h : σ) (editor : EditorId) :
    List (DecorationStyle × List Range) → List DecorationHandle × σ
  | [] => ([], h)
  | (style, ranges) :: rest =>
    let (handle, h) := EditorHost.createDecoration h editor style ranges none
    let (handles, h) := createAll h editor rest
    (handle :: handles, h)

/-- Paints the cached set of the document that an editor shows, on top of what is there. -/
def render (o : Overlay) (h : σ) (editor : EditorRef) : Overlay × σ :=
  match o.cached? editor.uri with
  | none => (o, h)
  | some symbols =>
    let (handles, h) := createAll h editor.id (renderings symbols)
    let p := o.paintedIn editor.id
    ({ o with painted :=
        o.painted.set editor.id { p with uri := editor.uri, highlights := p.highlights ++ handles } },
      h)

/-- Disposes of the highlights in every editor that was painted for a document. -/
def disposeHighlightsOf (o : Overlay) (h : σ) (uri : String) : Overlay × σ :=
  let handles := (o.painted.filter fun (_, p) => p.uri = uri).flatMap fun (_, p) => p.highlights
  ({ o with painted :=
      o.painted.map fun (id, p) => (id, if p.uri = uri then { p with highlights := [] } else p) },
    EditorHost.disposeAll h handles)

/-- Takes a new set for a document and paints it wherever the document is visible.  A set for a
document that is not open is refused. -/
def applyHighlights (o : Overlay) (h : σ) (result : HighlightResult) : Bool × Overlay × σ :=
  if EditorHost.isOpen h result.uri then
    let (o, h) := o.disposeHighlightsOf h result.uri
    let o := { o with cache := o.cache.set result.uri result.symbols }
    let editors := (EditorHost.visibleEditors h).filter (·.uri = result.uri)
    let (o, h) := editors.foldl (fun (o, h) editor => o.render h editor) (o, h)
    (true, o, h)
  else (false, o, h)

/-- Paints an editor anew.  If it shows another document than it was painted for, the marker of a
computed term goes as well. -/
def showFor (o : Overlay) (h : σ) (editor : EditorRef) : Overlay × σ :=
  let p := o.paintedIn editor.id
  if p.uri = editor.uri then
    let h := EditorHost.disposeAll h p.highlights
    render { o with painted := o.painted.set editor.id { p with highlights := [] } } h editor
  else
    let h := EditorHost.disposeAll h p.handles
    render { o with painted := o.painted.set editor.id { uri := editor.uri } } h editor

/-- Takes everything away from an editor.  What is known of its document stays known. -/
def clear (o : Overlay) (h : σ) (editor : EditorId) : Overlay × σ :=
  match o.painted.get? editor with
  | none => (o, h)
  | some p =>
    ({ o with painted := o.painted.set editor { uri := p.uri } },
      EditorHost.disposeAll h p.handles)

/-- Forgets a document and everything that was painted for it. -/
def forget (o : Overlay) (h : σ) (uri : String) : Overlay × σ :=
  let handles := (o.painted.filter fun (_, p) => p.uri = uri).flatMap fun (_, p) => p.handles
  ({ cache := o.cache.erase uri, painted := o.painted.filter fun (_, p) => p.uri ≠ uri },
    EditorHost.disposeAll h handles)

/-- Follows an event of the editor.  A change of text makes the set of its document stale, so what is
painted in the active editor goes if that editor shows the document. -/
def handle (o : Overlay) (h : σ) : EditorEvent → Overlay × σ
  | .activeChanged (some editor) => o.showFor h editor
  | .activeChanged none => (o, h)
  | .documentChanged _ false => (o, h)
  | .documentChanged uri true =>
    match EditorHost.activeEditor h with
    | some active => if active.uri = uri then o.clear h active.id else (o, h)
    | none => (o, h)
  | .documentClosed uri => o.forget h uri

/-- Marks a computed term in an editor and selects its range.  An answer for another document than
the editor shows is refused. -/
def showComputed (o : Overlay) (h : σ) (editor : EditorRef) (result : ComputeTermResult) :
    Bool × Overlay × σ :=
  if editor.uri = result.uri then
    let p := o.paintedIn editor.id
    let (p, old) : Painted × List DecorationHandle :=
      if p.uri = editor.uri then (p, p.computed.toList) else ({ uri := editor.uri }, p.handles)
    let h := EditorHost.disposeAll h old
    let (handle, h) :=
      EditorHost.createDecoration h editor.id .computed [result.range] (some result.computed)
    let h := EditorHost.setSelection h editor.id (.ofRange result.range)
    (true, { o with painted := o.painted.set editor.id { p with computed := some handle } }, h)
  else (false, o, h)

end Overlay

end LanguageClient
