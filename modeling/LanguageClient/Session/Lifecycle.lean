import LanguageClient.Connection.Handshake
import LanguageClient.Session.Basic

/-!
# Starting, stopping and restarting

Each of the three holds the lock of the session from beginning to end, so they never overlap.

* `start` does nothing if the session is ready, is refused in a state that will change by itself,
  and otherwise replaces whatever connection is left.
* `restart` needs a session that has been ready, and replaces its connection by one to the same
  endpoint.
* `stop` ends the connection and always succeeds.

A connection is torn down in good order if the session was ready, and otherwise simply closed; the
process behind it is killed either way, in good order only after it had time to exit.  A new
connection is ready when the handshake succeeded; a failure on the way leaves no connection and a
failed session.
-/

namespace LanguageClient

inductive LifecycleCall
  | start (endpoint : Endpoint)
  | restart
  | stop
  deriving DecidableEq, Inhabited, Repr

/-- How far it has come to tear down the active connection. -/
inductive TeardownPoint
  | taking
  | unwatching (line : Nat)
  | shutting (line : Nat) (p : ShutdownPoint)
  | closing (line : Nat) (p : ClosePoint)
  /-- Waits for the process until a time in milliseconds. -/
  | waitingExit (line : Nat) (deadline : Nat)
  | killing (line : Nat)
  deriving Inhabited

/-- The query that ends a connection. -/
def Session.shutdownQuery (s : Session) : Query := .of s.limits "shutdown"

/-- The query that begins a connection. -/
def Session.initializeQuery (s : Session) : Query :=
  Handshake.query s.limits s.processId s.rootUri

namespace TeardownPoint

/-- Where it goes on when the stream has been dealt with. -/
def afterStream (s : Session) (now : Nat) (graceful : Bool) (line : Nat) : TeardownPoint :=
  if graceful then waitingExit line (now + s.limits.shutdownSecs.toNat * 1000) else killing line

/-- The next step in tearing down what is active, in good order or for a reason. -/
def step (graceful : Bool) (reason : String) (now : Nat) (s : Session) :
    TeardownPoint → Progress Session TeardownPoint Unit
  | taking =>
    match s.active with
    | none => .ends s ()
    | some n => .goesOn { s with active := none } (unwatching n)
  | unwatching n =>
    .goesOn { s with watches := s.watches.modify n fun w => { w with aborted := true } }
      (if graceful then shutting n (.asking .beginning) else closing n .flagging)
  | shutting n p =>
    (s.onLine n fun c => p.step s.shutdownQuery now c).within (shutting n) fun _ =>
      afterStream s now graceful n
  | closing n p => (s.onLine n (p.step reason)).within (closing n) fun _ => killing n
  | waitingExit n deadline =>
    if (s.line? n).all Line.hasExited || decide (deadline ≤ now) then .goesOn s (killing n)
    else .waits
  | killing n => .ends (s.modifyLine n Line.kill) ()

def deadline? : TeardownPoint → Option Nat
  | shutting _ p => p.deadline?
  | waitingExit _ deadline => some deadline
  | _ => none

end TeardownPoint

/-- How far a new connection has come. -/
inductive ConnectPoint
  | beginning
  | asking
  | opening
  | initializing (line : Nat) (p : InitializePoint)
  /-- The handshake failed. -/
  | abandoning (line : Nat) (e : Failure) (p : ClosePoint)
  | killing (line : Nat) (e : Failure)
  | failing (e : Failure)
  | numbering (line : Nat)
  | announcing (line : Nat) (generation : Nat)
  | handingOver (line : Nat) (generation : Nat)
  deriving Inhabited

namespace ConnectPoint

def abandonReason : String := "initialize failed"

/-- The next step in connecting to an endpoint. -/
def step (endpoint : Endpoint) (now : Nat) (s : Session) :
    ConnectPoint → Progress Session ConnectPoint (Except Failure Unit)
  | beginning => .goesOn (s.setState .connecting) asking
  | asking => .goesOn { s with wanted := some endpoint, opens := s.opens + 1 } opening
  | opening =>
    match s.offer with
    | none => .waits
    | some (.error e) => .goesOn { s with offer := none } (failing e)
    | some (.ok line) =>
      .goesOn { s with offer := none, lines := s.lines ++ [line] }
        (initializing s.lines.length (.asking .beginning))
  | initializing n p =>
    (s.onLine n fun c => p.step s.initializeQuery now c).within (initializing n) fun
      | .ok _ => numbering n
      | .error e => abandoning n e .flagging
  | abandoning n e p => (s.onLine n (p.step abandonReason)).within (abandoning n e) fun _ => killing n e
  | killing n e => .goesOn (s.modifyLine n Line.kill) (failing e)
  | failing e => .ends (s.setState .failed) (.error e)
  | numbering n => .goesOn { s with generation := s.generation + 1 } (announcing n (s.generation + 1))
  | announcing n generation =>
    .goesOn { s with state := .ready, activeHeld := true } (handingOver n generation)
  | handingOver n generation =>
    .ends { s with
      active := some n
      activeHeld := false
      watches := s.watches.set n { generation } } (.ok ())

def deadline? : ConnectPoint → Option Nat
  | initializing _ p => p.deadline?
  | _ => none

end ConnectPoint

/-- How far a start, restart or stop has come. -/
inductive LifecyclePoint
  | queueing
  | entering
  /-- A restart is announced; the flag says whether the session was ready. -/
  | switching (graceful : Bool) (endpoint : Endpoint)
  /-- The old connection goes; a stop has no endpoint to go on to. -/
  | tearing (graceful : Bool) (next : Option Endpoint) (p : TeardownPoint)
  | remembering (endpoint : Endpoint)
  | bannering (endpoint : Endpoint)
  | connecting (endpoint : Endpoint) (p : ConnectPoint)
  | stopping
  | leaving (result : Except Failure Unit)
  deriving Inhabited

namespace LifecyclePoint

/-- The line that a restart leaves in the log of the server. -/
def banner : String := " === Language Server Restart === "

/-- Why waiting requests are given up when a connection is not ended in good order. -/
def reason : LifecycleCall → String
  | .start _ => "Replacing lost connection"
  | .restart => "Language server restarting"
  | .stop => "Session stopped"

/-- What a call does first, once it is its turn. -/
def enter (call : LifecycleCall) (s : Session) : LifecyclePoint :=
  match call with
  | .start endpoint =>
    if s.state = .ready then leaving (.ok ())
    else if s.state.canStart then tearing false (some endpoint) .taking
    else leaving (.error (.invalidState .start s.state))
  | .restart =>
    match s.state.canRestart, s.remembered with
    | true, some endpoint => switching (s.state = .ready) endpoint
    | _, _ => leaving (.error (.invalidState .restart s.state))
  | .stop =>
    match s.state with
    | .idle | .stopped => stopping
    | state => tearing (state = .ready) none .taking

/-- What follows when the old connection is gone. -/
def afterTeardown : LifecycleCall → Option Endpoint → LifecyclePoint
  | .restart, some endpoint => bannering endpoint
  | _, some endpoint => remembering endpoint
  | _, none => stopping

/-- The next step of a start, restart or stop. -/
def step (task : TaskId) (call : LifecycleCall) (now : Nat) (s : Session) :
    LifecyclePoint → Progress Session LifecyclePoint (Except Failure Unit)
  | queueing => .goesOn { s with lock := s.lock.join task } entering
  | entering => if s.lock.heldBy task then .goesOn s (enter call s) else .waits
  | switching graceful endpoint =>
    .goesOn (s.setState .restarting) (tearing graceful (some endpoint) .taking)
  | tearing graceful next p =>
    (p.step graceful (reason call) now s).within (tearing graceful next) fun _ =>
      afterTeardown call next
  | remembering endpoint =>
    .goesOn { s with remembered := some endpoint } (connecting endpoint .beginning)
  | bannering endpoint =>
    .goesOn (((s.print "").print banner).print "") (connecting endpoint .beginning)
  | connecting endpoint p => (p.step endpoint now s).within (connecting endpoint) leaving
  | stopping => .goesOn (s.setState .stopped) (leaving (.ok ()))
  | leaving result => .ends { s with lock := s.lock.release } result

def deadline? : LifecyclePoint → Option Nat
  | tearing _ _ p => p.deadline?
  | connecting _ p => p.deadline?
  | _ => none

end LifecyclePoint

end LanguageClient
