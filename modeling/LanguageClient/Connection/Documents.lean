import LanguageClient.Connection.Basic
import LanguageClient.Task.Progress

/-!
# Telling the server about documents

Before the server is asked about a document it is sent the text.  The first time the document is
opened there, with version one; after that it is changed, with the next version, whenever the text
differs from the one sent last; the same text again sends nothing.

The table of documents is held from the look into it until the message is written.  Closing a
document only holds it to take the document out, and writes afterwards.
-/

namespace LanguageClient

namespace DocumentMessage

def languageId : String := "aya"

def notification (method : String) (params : Json) : Message :=
  .notification { method, params := some params }

def opened (uri text : String) : Message :=
  notification "textDocument/didOpen"
    (.obj [("textDocument", .obj [("uri", .str uri), ("languageId", .str languageId),
      ("version", .ofNat 1), ("text", .str text)])])

def changed (uri : String) (version : UInt32) (text : String) : Message :=
  notification "textDocument/didChange"
    (.obj [("textDocument", .obj [("uri", .str uri), ("version", .ofUInt32 version)]),
      ("contentChanges", .arr [.obj [("text", .str text)]])])

def closed (uri : String) : Message :=
  notification "textDocument/didClose" (.obj [("textDocument", .obj [("uri", .str uri)])])

end DocumentMessage

/-- How far it has come to send a text. -/
inductive SyncPoint
  | beginning
  /-- Waits for the table, and looks the document up. -/
  | looking
  /-- The table says already that this version was sent. -/
  | changing (version : UInt32)
  | opening
  | recording
  | leaving (result : Except Failure Unit)
  deriving Inhabited

namespace SyncPoint

/-- The next step in telling the server the text of a document. -/
def step (task : TaskId) (uri text : String) (c : Connection) :
    SyncPoint → Progress Connection SyncPoint (Except Failure Unit)
  | beginning => .goesOn (c.joinDocuments task) looking
  | looking =>
    if c.documentLock.heldBy task then
      match c.documents.get? uri with
      | none => .goesOn c opening
      | some d =>
        if d.text = text then .goesOn c (leaving (.ok ()))
        else
          let version := d.version + 1
          .goesOn (c.rememberDocument uri ⟨version, text⟩) (changing version)
    else .waits
  | changing version =>
    let (c, result) := c.tryWrite (DocumentMessage.changed uri version text)
    .goesOn c (leaving result)
  | opening =>
    match c.write (DocumentMessage.opened uri text) with
    | .ok c => .goesOn c recording
    | .error e => .goesOn c (leaving (.error e))
  | recording => .goesOn (c.rememberDocument uri ⟨1, text⟩) (leaving (.ok ()))
  | leaving result => .ends c.leaveDocuments result

end SyncPoint

/-- How far it has come to close a document. -/
inductive ForgetPoint
  | beginning
  | removing
  | writing
  deriving Inhabited, Repr

namespace ForgetPoint

/-- The next step in telling the server that a document is closed. -/
def step (task : TaskId) (uri : String) (c : Connection) :
    ForgetPoint → Progress Connection ForgetPoint (Except Failure Unit)
  | beginning => .goesOn (c.joinDocuments task) removing
  | removing =>
    if c.documentLock.heldBy task then
      if c.documents.contains uri then .goesOn (c.forgetDocument uri).leaveDocuments writing
      else .ends c.leaveDocuments (.ok ())
    else .waits
  | writing =>
    let (c, result) := c.tryWrite (DocumentMessage.closed uri)
    .ends c result

end ForgetPoint

end LanguageClient
