import LanguageClient.Editor.Basic

/-!
# The decorations of a host

Where decorations live.  Handles count from one and are never given out again; the decorations that
are alive are listed in the order of their handles, and the handles that were disposed of in the
order in which that happened.  Disposing of a handle that is not alive does nothing.
-/

namespace LanguageClient

structure Canvas where
  live : List RenderedDecoration := []
  disposed : List DecorationHandle := []
  /-- The latest handle. -/
  latest : Nat := 0
  deriving Inhabited, Repr

namespace Canvas

def isLive (c : Canvas) (handle : DecorationHandle) : Bool :=
  c.live.any (·.handle = handle)

def create (c : Canvas) (editor : EditorId) (style : DecorationStyle) (ranges : List Range)
    (hover : Option String) : DecorationHandle × Canvas :=
  let handle : DecorationHandle := ⟨c.latest + 1⟩
  (handle, { c with latest := c.latest + 1, live := c.live ++ [⟨handle, editor, style, ranges, hover⟩] })

def dispose (c : Canvas) (handle : DecorationHandle) : Canvas :=
  if c.isLive handle then
    { c with live := c.live.filter (·.handle ≠ handle), disposed := c.disposed ++ [handle] }
  else c

/-- The decorations in one editor. -/
def inEditor (c : Canvas) (editor : EditorId) : List RenderedDecoration :=
  c.live.filter (·.editor = editor)

end Canvas

end LanguageClient
