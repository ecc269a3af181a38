import LanguageClient.Action.Run
import LanguageClient.Session.Lifecycle

/-!
# The calls of a client

Everything that can be asked of a client, each with how far it has come.  Calls of the session go to
whatever connection is active; the calls that name a line go to that connection and no other.
-/

namespace LanguageClient

/-- What a call results in. -/
inductive Reply
  | nothing
  | flag (b : Bool)
  | value (j : Json)
  | handshake (r : InitializeResult)
  | outcome (o : Option ActionOutcome)
  | uri (uri : String)
  deriving Inhabited

abbrev CallResult := Except ClientError Reply

/-- How far it has come to start the session that the configuration asks for. -/
inductive StartPoint
  | finding
  | starting (endpoint : Endpoint) (p : LifecyclePoint)
  deriving Inhabited

/-- How far it has come to open a file and show it. -/
inductive OpenPoint
  | opening
  | showing (uri : String)
  deriving Inhabited

inductive Call
  | lifecycle (call : LifecycleCall) (p : LifecyclePoint)
  | request (q : Query) (p : Via RequestPoint)
  | notify (m : Message) (p : Via Unit)
  | sync (uri text : String) (p : Via SyncPoint)
  | closeDocument (uri : String) (p : Via ForgetPoint)
  | handshake (line : Nat) (q : Query) (p : InitializePoint)
  | shutdown (line : Nat) (q : Query) (p : ShutdownPoint)
  | close (line : Nat) (reason : String) (p : ClosePoint)
  /-- Runs an action; without a report a failure is only logged. -/
  | run (kind : ActionKind) (reporting : Bool) (p : RunPoint)
  /-- Starts the session that the configuration asks for, if there is a server. -/
  | startUp (p : StartPoint)
  /-- Restarts the session; a failure is only logged. -/
  | restart (p : LifecyclePoint)
  /-- Opens a file and shows it. -/
  | openFile (path : String) (p : OpenPoint)
  deriving Inhabited

namespace Call

/-! ## Calls at their beginning -/

def start (endpoint : Endpoint) : Call := lifecycle (.start endpoint) .queueing
def replace : Call := lifecycle .restart .queueing
def stop : Call := lifecycle .stop .queueing
def ask (q : Query) : Call := request q .looking
def tell (m : Message) : Call := notify m .looking
def showText (uri text : String) : Call := sync uri text .looking
def forget (uri : String) : Call := closeDocument uri .looking
def runAction (kind : ActionKind) (reporting : Bool) : Call := run kind reporting .flushing
def begin_ : Call := startUp .finding
def restartQuietly : Call := restart .queueing
def open_ (path : String) : Call := openFile path .opening

/-! ## Steps -/

/-- A session's result as that of a call. -/
def ofSession {α : Type} (reply : α → Reply) (r : Except Failure α) : CallResult :=
  (r.map reply).mapError .session

def done : Unit → Reply := fun _ => .nothing

/-- The next step of a call. -/
def step (task : TaskId) (c : Client) : Call → Progress Client Call CallResult
  | lifecycle call p =>
    (c.onSession (p.step task call c.now c.session)).last (lifecycle call) (ofSession done)
  | request q p =>
    (c.onSession (p.step .beginning (fun p x => p.step q c.now x) c.session)).last
      (request q) (ofSession .value)
  | notify m p =>
    let run (_ : Unit) (x : Connection) : Progress Connection Unit (Except Failure Unit) :=
      let (x, result) := x.tryWrite m
      .ends x result
    (c.onSession (p.step () run c.session)).last (notify m) (ofSession done)
  | sync uri text p =>
    (c.onSession (p.step .beginning (fun p x => p.step task uri text x) c.session)).last
      (sync uri text) (ofSession done)
  | closeDocument uri p =>
    (c.onSession (p.step .beginning (fun p x => p.step task uri x) c.session)).last
      (closeDocument uri) (ofSession done)
  | handshake n q p =>
    (c.onSession (c.session.onLine n fun x => p.step q c.now x)).last
      (handshake n q) (ofSession .handshake)
  | shutdown n q p =>
    (c.onSession (c.session.onLine n fun x => p.step q c.now x)).last
      (shutdown n q) fun _ => .ok .nothing
  | close n reason p =>
    (c.onSession (c.session.onLine n fun x => p.step reason x)).last
      (close n reason) fun _ => .ok .nothing
  | run kind reporting p => (p.step task kind reporting c).last (run kind reporting) (·.map .outcome)
  | startUp .finding =>
    match c.endpoint with
    | .error e => .ends (c.announce e) (.ok (.flag false))
    | .ok endpoint => .goesOn c (startUp (.starting endpoint .queueing))
  | startUp (.starting endpoint p) =>
    (c.onSession (p.step task (.start endpoint) c.now c.session)).last
      (fun p => startUp (.starting endpoint p)) (ofSession fun _ => .flag true)
  | restart p =>
    match c.onSession (p.step task .restart c.now c.session) with
    | .waits => .waits
    | .goesOn c p => .goesOn c (restart p)
    | .ends c (.ok ()) => .ends c (.ok (.flag true))
    | .ends c (.error e) => .ends (c.write .warn ("Restart failed: " ++ e.message)) (.ok (.flag false))
  | openFile path .opening =>
    match c.editor.openFile c.files c.here.cwd path with
    | .error e => .ends c (.error (.io e))
    | .ok (uri, editor) => .goesOn { c with editor } (openFile path (.showing uri))
  | openFile _ (.showing uri) =>
    match c.editor.showDocument uri with
    | .error e => .ends c (.error (.host e))
    | .ok (event, editor) => .ends ({ c with editor }.send (.event event)) (.ok (.uri uri))

/-- When a call that waits wants to be looked at although nothing has happened. -/
def deadline? : Call → Option Nat
  | lifecycle _ p | restart p | startUp (.starting _ p) => p.deadline?
  | request _ p => p.deadline? RequestPoint.deadline?
  | handshake _ _ p => p.deadline?
  | shutdown _ _ p => p.deadline?
  | run _ _ p => p.deadline?
  | _ => none

end Call

end LanguageClient
