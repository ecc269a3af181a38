import LanguageClient.Connection.Reader
import LanguageClient.Connection.Request
import LanguageClient.Endpoint
import LanguageClient.Supervision.ExitEvent

/-!
# Sessions

A session holds at most one connection at a time.  It keeps what it needs to replace it: the
endpoint that it was started with, and the handlers, which outlive every connection.

Every connection that was ever opened is a *line* of the session, known by its index; the active one
is the line that calls go to.  A line may have a process behind it that the client started.  While a
line is active a watch looks out for its loss and lets the state fall from ready to failed; it bears
the number of the connection that it was set for (the *generation*), so that a late watch does not
speak for a newer connection.

What is told to stop does not always stop at once: a watch that has noticed a loss speaks up all the
same, and a reader may go on with what it is in the middle of (`readOn?`).

Starting, stopping and restarting take turns by the lock of the session (`Session.Lifecycle`).
-/

namespace LanguageClient

/-- A process that the client started. -/
structure ServerProcess where
  exit : Option ExitEvent := none
  deriving DecidableEq, Inhabited, Repr

/-- A connection and what came with it. -/
structure Line where
  connection : Connection := {}
  peer : String
  process : Option ServerProcess := none
  deriving Inhabited

namespace Line

/-- The server end is gone: the stream was lost, or the process has exited. -/
def isGone (l : Line) : Bool :=
  l.connection.lost || l.process.any (·.exit.isSome)

/-- The process, if there is one, has exited. -/
def hasExited (l : Line) : Bool := l.process.all (·.exit.isSome)

/-- Kills the process, if there is one that runs. -/
def kill (l : Line) : Line :=
  { l with process := l.process.map fun p => { p with exit := p.exit.or (some .killed) } }

end Line

/-- Looks out for the loss of a line. -/
structure Watch where
  generation : Nat
  /-- The watch has been told to stop. -/
  aborted : Bool := false
  /-- The watch has seen the loss, and has not spoken yet. -/
  noticed : Bool := false
  deriving DecidableEq, Inhabited, Repr

structure Session where
  state : SessionState := .idle
  /-- The line that calls go to. -/
  active : Option Nat := none
  /-- The active line is about to be set, so whoever asks for it has to wait. -/
  activeHeld : Bool := false
  /-- The endpoint of the latest start that was not a no-op. -/
  remembered : Option Endpoint := none
  lock : Lock := {}
  generation : Nat := 0
  /-- Every connection ever opened, the first one first. -/
  lines : List Line := []
  /-- The watch over each line. -/
  watches : Table Nat Watch := []
  /-- An endpoint to which a connection is wanted. -/
  wanted : Option Endpoint := none
  /-- What came of it. -/
  offer : Option (Except Failure Line) := none
  /-- How often a connection has been asked for. -/
  opens : Nat := 0
  handlers : Handlers := []
  /-- What the log of the server holds. -/
  serverLog : String := ""
  /-- The directory of the project, for the server. -/
  rootUri : Option String := none
  limits : TimeoutSettings := {}
  processId : UInt32 := 1
  deriving Inhabited

namespace Session

def line? (s : Session) (n : Nat) : Option Line := s.lines[n]?

def modifyLine (s : Session) (n : Nat) (f : Line → Line) : Session :=
  { s with lines := s.lines.modify n f }

def setConnection (s : Session) (n : Nat) (c : Connection) : Session :=
  s.modifyLine n fun l => { l with connection := c }

/-- An activity on the connection of a line. -/
def onLine {π α : Type} (s : Session) (n : Nat) (step : Connection → Progress Connection π α) :
    Progress Session π α :=
  match s.line? n with
  | none => .waits
  | some l => (step l.connection).onState (s.setConnection n)

def setState (s : Session) (state : SessionState) : Session := { s with state }

/-- Writes a line into the log of the server. -/
def print (s : Session) (text : String) : Session :=
  { s with serverLog := s.serverLog ++ text ++ "\n" }

/-- Whom the active connection leads to. -/
def peer? (s : Session) : Option String := (s.active.bind s.line?).map Line.peer

/-- The connection for a call that met the state `seen`: only a ready session has one, and it loses
it at the beginning of its end. -/
def readyLine (s : Session) (seen : SessionState) : Except Failure Nat :=
  match s.active with
  | some n => if seen = .ready then .ok n else .error (.notReady seen)
  | none => .error (.notReady seen)

/-- What the server said about itself, as long as the session is ready. -/
def handshake? (s : Session) : Option InitializeResult :=
  match s.readyLine s.state with
  | .error _ => none
  | .ok n => (s.line? n).bind (·.connection.handshake)

/-! ## What goes on by itself -/

/-- The next step of the reader of a line.  One that was told to stop does so wherever it is. -/
def read? (s : Session) (n : Nat) : Option (Session × List Signal) := do
  let l ← s.line? n
  match Reader.stop? l.connection with
  | some c => return (s.setConnection n c, [])
  | none =>
    let (c, signals) ← Reader.step? s.handlers l.connection
    return (s.setConnection n c, signals)

/-- A step that the reader of a line takes although it was told to stop. -/
def readOn? (s : Session) (n : Nat) : Option (Session × List Signal) := do
  let l ← s.line? n
  if l.connection.readerAborted then
    let (c, signals) ← Reader.step? s.handlers l.connection
    return (s.setConnection n c, signals)
  else none

/-- Writes an answer that is owed on a line. -/
def pay? (s : Session) (n : Nat) : Option Session := do
  let l ← s.line? n
  let c ← Reader.pay? l.connection
  return s.setConnection n c

/-- The session when the connection of a generation is lost. -/
def lose (s : Session) (generation : Nat) : Session :=
  if s.state = .ready ∧ s.generation = generation then s.setState .failed else s

def endWatch (s : Session) (n : Nat) : Session := { s with watches := s.watches.erase n }

/-- The next step of the watch over a line. -/
def watch? (s : Session) (n : Nat) : Option Session := do
  let w ← s.watches.get? n
  if w.noticed then some ((s.endWatch n).lose w.generation)
  else if w.aborted then some (s.endWatch n)
  else if (s.line? n).any Line.isGone then
    some { s with watches := s.watches.set n { w with noticed := true } }
  else none

end Session

/-! ## Calls to the active connection

A call first looks at the state of the session, then asks for the connection, and then goes on there.
The session may change between the two looks, and the connection it was given may be closed while
the call is on it; it is never moved to another one. -/

/-- How far a call has come to its connection, and on it. -/
inductive Via (π : Type)
  | looking
  | picking (seen : SessionState)
  | on (line : Nat) (p : π)
  deriving Inhabited

namespace Via

variable {π α : Type}

/-- The next step of a call that begins at `first` on its connection and goes on by `run`. -/
def step (first : π) (run : π → Connection → Progress Connection π (Except Failure α)) (s : Session) :
    Via π → Progress Session (Via π) (Except Failure α)
  | looking =>
    if s.state = .ready then .goesOn s (picking s.state) else .ends s (.error (.notReady s.state))
  | picking seen =>
    if s.activeHeld then .waits
    else
      match s.readyLine seen with
      | .error e => .ends s (.error e)
      | .ok n => .goesOn s (on n first)
  | on n p => (s.onLine n (run p)).last (on n) id

def deadline? (deadline? : π → Option Nat) : Via π → Option Nat
  | on _ p => deadline? p
  | _ => none

end Via

end LanguageClient
