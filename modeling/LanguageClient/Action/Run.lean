import LanguageClient.Client.Basic
import LanguageClient.Connection.Documents
import LanguageClient.Connection.Request
import LanguageClient.Session.Basic

/-!
# Running an action

An action works on the editor that is active when it begins.  It saves the document, sends its text
to the server, makes one request, and shows the result: highlights replace those of their document,
a computed term is marked in the editor.  Only this last step touches the overlay, so an action that
fails on the way leaves everything that is painted as it was.

To load a document a server may answer with null and send the highlights on its own account; that is
a success without an outcome, and so is an action without an active editor.
-/

namespace LanguageClient

/-- How far an action has come. -/
inductive ActionPoint
  | picking
  | saving (editor : EditorRef)
  | writing (editor : EditorRef) (path text : String)
  | saved (editor : EditorRef)
  | reading (editor : EditorRef)
  | syncing (editor : EditorRef) (text : String) (p : Via SyncPoint)
  | querying (editor : EditorRef)
  | asking (editor : EditorRef) (q : Query) (p : Via RequestPoint)
  | routing (editor : EditorRef) (outcome : ActionOutcome)
  deriving Inhabited

namespace ActionKind

/-- The parameters of the request: the document, and where the cursor is if it matters. -/
def params (kind : ActionKind) (c : Client) (editor : EditorRef) : Json :=
  match kind with
  | .load => .str editor.uri
  | _ =>
    let position := ((c.editor.selection? editor.id).map Selection.active).getD ⟨0, 0⟩
    (ComputeTermParams.mk editor.uri position).toJson

def query (kind : ActionKind) (c : Client) (editor : EditorRef) : Query :=
  .of c.session.limits kind.method (some (kind.params c editor))

/-- Reads the answer. -/
def readOutcome (kind : ActionKind) (r : Except Failure Json) :
    Except Failure (Option ActionOutcome) :=
  match kind with
  | .load =>
    (readResult (Decode.optional HighlightResult.decode) r).map (·.map .highlights)
  | _ => (readResult ComputeTermResult.decode r).map fun r => some (.computed r)

end ActionKind

/-- Shows an outcome. -/
def Client.route (c : Client) (editor : EditorRef) : ActionOutcome → Client
  | .highlights r => c.perform (.highlights r)
  | .computed r =>
    let (_, overlay, h) := c.overlay.showComputed c.editor editor r
    { c with overlay, editor := h }

namespace ActionPoint

/-- The next step of an action. -/
def step (task : TaskId) (kind : ActionKind) (c : Client) :
    ActionPoint → Progress Client ActionPoint (Except ClientError (Option ActionOutcome))
  | picking =>
    match c.editor.activeEditor with
    | none => .ends c (.ok none)
    | some editor => .goesOn c (saving editor)
  | saving editor =>
    match c.editor.beginSave editor.uri with
    | .error e => .ends c (.error (.host e))
    | .ok none => .goesOn c (saved editor)
    | .ok (some (path, text)) => .goesOn c (writing editor path text)
  | writing editor path text =>
    match HeadlessEditor.writeSaved c.files editor.uri path text with
    | .error e => .ends c (.error (.host e))
    | .ok files => .goesOn { c with files } (saved editor)
  | saved editor => .goesOn { c with editor := c.editor.endSave editor.uri } (reading editor)
  | reading editor => .goesOn c (syncing editor ((c.editor.text? editor.uri).getD "") .looking)
  | syncing editor text p =>
    match c.onSession (p.step .beginning (fun p c => p.step task editor.uri text c) c.session) with
    | .waits => .waits
    | .goesOn c p => .goesOn c (syncing editor text p)
    | .ends c (.ok ()) => .goesOn c (querying editor)
    | .ends c (.error e) => .ends c (.error (.session e))
  | querying editor => .goesOn c (asking editor (kind.query c editor) .looking)
  | asking editor q p =>
    match c.onSession (p.step .beginning (fun p x => p.step q c.now x) c.session) with
    | .waits => .waits
    | .goesOn c p => .goesOn c (asking editor q p)
    | .ends c r =>
      match kind.readOutcome r with
      | .error e => .ends c (.error (.session e))
      | .ok none => .ends c (.ok none)
      | .ok (some outcome) => .goesOn c (routing editor outcome)
  | routing editor outcome => .ends (c.route editor outcome) (.ok (some outcome))

def deadline? : ActionPoint → Option Nat
  | asking _ _ p => p.deadline? RequestPoint.deadline?
  | _ => none

end ActionPoint

/-- How far a run of an action has come, with the queue emptied before and after it. -/
inductive RunPoint
  | flushing
  | waiting
  | acting (p : ActionPoint)
  | flushingAfter (result : Except ClientError (Option ActionOutcome))
  | waitingAfter (result : Except ClientError (Option ActionOutcome))
  deriving Inhabited

namespace RunPoint

/-- What is left of a failure when nobody asked for it: a line in the log. -/
def swallow (kind : ActionKind) (c : Client) (r : Except ClientError (Option ActionOutcome)) :
    Client × Except ClientError (Option ActionOutcome) :=
  match r with
  | .ok outcome => (c, .ok outcome)
  | .error e => (c.write .warn (kind.method ++ " failed: " ++ e.message), .ok none)

/-- The next step of a run, which reports its failure or only logs it. -/
def step (task : TaskId) (kind : ActionKind) (reporting : Bool) (c : Client) :
    RunPoint → Progress Client RunPoint (Except ClientError (Option ActionOutcome))
  | flushing => .goesOn (c.send (.barrier task)) waiting
  | waiting =>
    if c.reached.contains task then
      .goesOn { c with reached := c.reached.erase task } (acting .picking)
    else .waits
  | acting p =>
    match p.step task kind c with
    | .waits => .waits
    | .goesOn c p => .goesOn c (acting p)
    | .ends c r =>
      let (c, r) := if reporting then (c, r) else swallow kind c r
      .goesOn c (flushingAfter r)
  | flushingAfter r => .goesOn (c.send (.barrier task)) (waitingAfter r)
  | waitingAfter r =>
    if c.reached.contains task then .ends { c with reached := c.reached.erase task } r
    else .waits

def deadline? : RunPoint → Option Nat
  | acting p => p.deadline?
  | _ => none

end RunPoint

end LanguageClient
