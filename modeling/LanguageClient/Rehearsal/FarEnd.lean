import LanguageClient.Rehearsal.Stage

/-!
# Rehearsals

In a rehearsal nobody is at the far end of a connection.  What a server would send is played to the
client, and what the client sends is looked up on the connection.

The far end of each line knows how much of what was sent has been looked at, and which requests have
been answered.  It can answer by itself: a *cue* says what is played when a request of its method
comes.  The cues of a method are used in turn, and the last of them again and again.

Whoever plays does one thing after another without giving way, but not for ever: after `maxTurns` of
them the others go on until they wait, while no time goes by (`giveWay`).  Files are slow, so nobody has
read or written one by then.
-/

namespace LanguageClient

/-- What the far end of a line has seen and done. -/
structure FarEnd where
  /-- How many messages have been looked at. -/
  seen : Nat := 0
  /-- The requests that need no more answer. -/
  answered : List RequestId := []
  /-- It has closed the stream itself when so many messages had been sent. -/
  hungUpAt : Option Nat := none
  /-- It has been noticed that the client let go of the stream. -/
  leftAlone : Bool := false
  deriving Inhabited

/-- Something that the far end of a line finds out. -/
inductive Heard
  | message (line : Nat) (m : Message)
  /-- The client has let go of the stream. -/
  | closed (line : Nat)
  deriving Inhabited

/-- How a request is answered. -/
inductive CueAnswer
  | result (j : Json)
  | error (j : Json)
  | silence
  | hangUp
  deriving Inhabited

/-- What is played when a request comes. -/
structure Cue where
  before : List Json := []
  answer : CueAnswer
  after : List Json := []
  deriving Inhabited

structure Rehearsal where
  bench : Workbench := {}
  farEnds : Table Nat FarEnd := []
  /-- How requests are answered without being told to; nobody answers if there is no such table. -/
  cues : Option (Table String (List Cue)) := none
  /-- How much has been done to the client in a row, and at what time. -/
  turns : Nat := 0
  turnsAt : Nat := 0
  deriving Inhabited

namespace Rehearsal

def lines (r : Rehearsal) : List Line := r.bench.client.session.lines

def farEnd (r : Rehearsal) (line : Nat) : FarEnd := (r.farEnds.get? line).getD {}

def setFarEnd (r : Rehearsal) (line : Nat) (e : FarEnd) : Rehearsal :=
  { r with farEnds := r.farEnds.set line e }

/-! ## Giving way -/

/-- How much is done to the client in a row before the others go on. -/
def maxTurns : Nat := 128

/-- Lets the others go on if too much has been done in a row. -/
def giveWay (r : Rehearsal) : Rehearsal :=
  let now := r.bench.client.now
  if r.turnsAt ≠ now then { r with turns := 0, turnsAt := now }
  else if r.turns < maxTurns then r
  else { r with bench := { r.bench.settleWithoutFiles with ready := [] }, turns := 0 }

/-- Does something to the workbench, which may have work to do then. -/
def modifyBench (r : Rehearsal) (f : Workbench → Workbench) : Rehearsal :=
  let r := r.giveWay
  { r with bench := (f r.bench).wake, turns := r.turns + 1 }

/-- The line that was opened last. -/
def newest? (r : Rehearsal) : Option Nat :=
  if r.lines.isEmpty then none else some (r.lines.length - 1)

/-! ## Listening -/

/-- What a far end has found out since it was last asked. -/
def hearLine (line : Nat) (l : Line) (e : FarEnd) : List Heard × FarEnd :=
  let sent := l.connection.link.sent
  let sent := sent.take (e.hungUpAt.getD sent.length)
  let gone := l.connection.isReleased && e.hungUpAt.isNone && !e.leftAlone
  ((sent.drop e.seen).map (.message line) ++ if gone then [.closed line] else [],
    { e with seen := sent.length, leftAlone := e.leftAlone || gone })

/-- What the far ends have found out since they were last asked, line by line. -/
def hear (r : Rehearsal) : List Heard × Rehearsal :=
  (r.lines.zipIdx).foldl (fun (heard, r) (l, n) =>
    let (more, e) := hearLine n l (r.farEnd n)
    (heard ++ more, r.setFarEnd n e)) ([], r)

/-! ## Playing -/

/-- Bytes come from the far end of a line. -/
def play (r : Rehearsal) (line : Nat) (bytes : List UInt8) : Rehearsal :=
  r.modifyBench fun w => w.modifyConnection line (·.receive bytes)

/-- A message comes. -/
def tell (r : Rehearsal) (line : Nat) (message : Json) : Rehearsal :=
  r.play line (Utf8.ofString (Frame.ofJson message))

/-- The far end closes the stream, in a way that shows at once or only when it comes to that; it
hears no more in either case. -/
def hangUp (r : Rehearsal) (line : Nat) (way : Connection → Connection := Connection.hangUp) :
    Rehearsal :=
  (r.modifyBench fun w => w.modifyConnection line way).setFarEnd line
    { r.farEnd line with hungUpAt := (r.lines[line]?).map (·.connection.link.sent.length) }

/-- The next connection cannot be opened. -/
def refuseNext (r : Rehearsal) (refusal : Endpoint → Failure) : Rehearsal :=
  r.modifyBench fun w =>
    { w with opener := w.opener.map fun o => { o with refusals := o.refusals ++ [refusal] } }

/-! ## Answering -/

/-- The requests on a line that need an answer, the oldest one first. -/
def unanswered (r : Rehearsal) (line : Nat) : List Request :=
  let answered := (r.farEnd line).answered
  (((r.lines[line]?).map (·.connection.link.sent)).getD []).filterMap fun
    | .request q => if answered.contains q.id then none else some q
    | _ => none

def markAnswered (r : Rehearsal) (line : Nat) (id : RequestId) : Rehearsal :=
  let e := r.farEnd line
  r.setFarEnd line { e with answered := e.answered ++ [id] }

/-- An answer on the wire. -/
def answerJson (id : RequestId) (name : String) (j : Json) : Json :=
  .obj [("jsonrpc", .str "2.0"), ("id", id.toJson), (name, j)]

/-- Answers a request. -/
def answer (r : Rehearsal) (line : Nat) (id : RequestId) (a : CueAnswer) : Rehearsal :=
  let r := r.markAnswered line id
  match a with
  | .result j => r.tell line (answerJson id "result" j)
  | .error j => r.tell line (answerJson id "error" j)
  | .silence => r
  | .hangUp => r.hangUp line

/-- Answers the oldest request of a method that needs an answer, if there is one. -/
def reply (r : Rehearsal) (line : Nat) (method : String) (a : CueAnswer) : Rehearsal :=
  match (r.unanswered line).find? (·.method == method) with
  | none => r
  | some q => r.answer line q.id a

/-! ## Answering by itself -/

def unknownMethod : Json :=
  .obj [("code", .ofInt32 ResponseError.methodNotFound), ("message", .str "no such method")]

/-- What is played for a method without cues. -/
def defaultCue (method : String) : Cue where
  answer :=
    if method = "initialize" then .result (.obj [("capabilities", .empty)])
    else if method = "shutdown" then .result .null
    else .error unknownMethod

/-- The cue for a request, and the cues that are left. -/
def takeCue (cues : Table String (List Cue)) (method : String) : Cue × Table String (List Cue) :=
  match cues.get? method with
  | none | some [] => (defaultCue method, cues)
  | some [cue] => (cue, cues)
  | some (cue :: rest) => (cue, cues.set method rest)

/-- Plays a cue for a request. -/
def perform (r : Rehearsal) (line : Nat) (id : RequestId) (cue : Cue) : Rehearsal :=
  let r := cue.before.foldl (fun r m => r.tell line m) r
  let r := r.answer line id cue.answer
  cue.after.foldl (fun r m => r.tell line m) r

/-- Answers one request according to the cues. -/
def react? (r : Rehearsal) : Option Rehearsal :=
  match r.cues with
  | none => none
  | some cues =>
    (List.range r.lines.length).findSome? fun line =>
      match r.unanswered line with
      | [] => none
      | q :: _ =>
        let (cue, cues) := takeCue cues q.method
        some ({ r with cues := some cues }.perform line q.id cue)

instance : Stage Rehearsal where
  bench := bench
  setBench r bench := { r with bench }
  react? := react?
  wake? _ := none

end Rehearsal

end LanguageClient
