import LanguageClient.Rehearsal.Program
import LanguageClient.Session.Failure
import LanguageClient.Settings.Basic
import LanguageClient.Supervision.Process

/-!
# Hosted processes

A hosted process is a running program with its supervision: what has been sent to it, how much of
what it has written has been passed on, and the supervised process into whose streams that goes.

`open_` says what an attempt to reach an endpoint comes to on a machine that can start programs but
has no network.
-/

namespace LanguageClient

/-- What the standard input and output of a process are for. -/
inductive Routing
  /-- They carry the messages; only the error stream is drained. -/
  | transport
  /-- Both streams are drained, and there is no input. -/
  | log
  deriving DecidableEq, Inhabited, Repr

structure Hosted where
  program : Program
  routing : Routing
  /-- When it was started, in milliseconds. -/
  started : Nat
  sent : List UInt8 := []
  sentAll : Bool := false
  /-- How many bytes of its output have been passed on. -/
  passedOut : Nat := 0
  passedErr : Nat := 0
  /-- What it has written for a reader of messages, who has not taken it yet. -/
  messages : List UInt8 := []
  sleepsUntil : Option Nat := none
  /-- When one of its jobs goes on, which holds the streams open. -/
  jobWakes : Option Nat := none
  process : SupervisedProcess

namespace Hosted

def start (program : Program) (routing : Routing) (now : Nat) : Hosted where
  program
  routing
  started := now
  sentAll := routing = .log
  process :=
    { drains := match routing with
        | .transport => [{}]
        | .log => [{}, {}] }

/-! ## What goes on by itself -/

/-- Steps of the drains and the reaper, but not more than `fuel`. -/
def supervise (now : Nat) : (fuel : Nat) → SupervisedProcess → SupervisedProcess
  | 0, p => p
  | fuel + 1, p =>
    let next := ((p.drain? 0 SupervisedProcess.maxRead).or (p.drain? 1 SupervisedProcess.maxRead)).or
      (p.reap? now)
    match next with
    | none => p
    | some p => supervise now fuel p

def writeTo (p : SupervisedProcess) (n : Nat) (bytes : List UInt8) : SupervisedProcess :=
  { p with drains := p.drains.modify n fun d => { d with waiting := d.waiting ++ bytes } }

/-- More steps than supervision takes that comes to rest. -/
def stepLimit : Nat := 100000

/-- Lets the program go on as far as it can. -/
def runProgram (h : Hosted) (now : Nat) : Hosted :=
  if h.process.status.isSome && h.jobWakes.isNone then h
  else
    let b := h.program h.sent h.sentAll (now - h.started)
    let out := b.stdout.drop h.passedOut
    let p := writeTo h.process 0 (b.stderr.drop h.passedErr)
    let h := { h with
      passedOut := b.stdout.length
      passedErr := b.stderr.length
      jobWakes := b.jobWakes.map (h.started + ·) }
    let h : Hosted := match h.routing with
      | .transport => { h with messages := h.messages ++ out, process := p }
      | .log => { h with process := writeTo p 1 out }
    match b.doing with
    | .listening => { h with sleepsUntil := none }
    | .sleeping t => { h with sleepsUntil := some (h.started + t) }
    | .exited e => { h with sleepsUntil := none, process := { h.process with status := some e } }

/-- Nobody can write to the streams any more. -/
def streamsClosed (h : Hosted) : Bool := h.process.status.isSome && h.jobWakes.isNone

/-- The drains find out that nobody can write any more. -/
def closeStreams (h : Hosted) : SupervisedProcess :=
  if h.streamsClosed then
    { h.process with drains := h.process.drains.map fun d => { d with closed := true } }
  else h.process

/-- Everything goes on as far as it can at a time. -/
def tick (h : Hosted) (now : Nat) : Hosted :=
  let h := if h.process.killWanted then h else h.runProgram now
  let once (h : Hosted) : Hosted := { h with process := supervise now stepLimit h.closeStreams }
  -- A process that is killed has ended only after the first round.
  once (once h)

/-- When something happens by itself. -/
def wake? (h : Hosted) : Option Nat :=
  (h.sleepsUntil.toList ++ h.jobWakes.toList ++ h.process.deadline?.toList).min?

/-! ## What others do to it -/

def send (h : Hosted) (bytes : List UInt8) : Hosted := { h with sent := h.sent ++ bytes }

def endInput (h : Hosted) : Hosted := { h with sentAll := true }

def kill (h : Hosted) : Hosted :=
  { h with sleepsUntil := none, process := { h.process with killWanted := true } }

/-- Time passes, at most up to a limit, until everybody can see that the process has ended. -/
def awaitExit (limit : Option Nat) : (fuel : Nat) → (now : Nat) → Hosted → Nat × Hosted
  | 0, now, h => (now, h)
  | fuel + 1, now, h =>
    let h := h.tick now
    if h.process.exit.isSome then (now, h)
    else
      match h.wake? with
      | none => (limit.getD now, h)
      | some t =>
        if limit.any (· < t) then (limit.getD now, h) else awaitExit limit fuel t h

/-- Everything that is left until the end. -/
def finish (h : Hosted) (now : Nat) : Hosted := (awaitExit none stepLimit now h).2

end Hosted

/-! ## Reaching an endpoint -/

/-- What an attempt to reach an endpoint comes to. -/
inductive Opening
  | failed (e : Failure)
  | connected (peer : String) (h : Hosted)
  /-- The process has to dial an address before a time. -/
  | listening (h : Hosted) (address : String) (deadline : Nat)

/-- Where a program is started: the files, a directory and variables. -/
structure Machine where
  files : FileTree := {}
  cwd : Place := []
  env : Environment := []
  deriving Inhabited

namespace Machine

/-- Starts a program. -/
def spawn (m : Machine) (launch : Launch) (routing : Routing) (now : Nat) : Except Failure Hosted :=
  match Program.find m.files m.cwd m.env launch with
  | .error e => .error (.spawn launch.program e.message)
  | .ok program => .ok (Hosted.start program routing now)

/-- The line in the log about a program that is going to be started. -/
def banner (launch : Launch) : String := "Aya Language Server: " ++ launch.program ++ "\n"

/-- The port that is bound if any will do. -/
def anyPort : Nat := 40000

/-- What an attempt to reach an endpoint comes to, and what it leaves in the log at once. -/
def open_ (m : Machine) (limits : TimeoutSettings) (now : Nat) : Endpoint → String × Opening
  | .tcpClient host port =>
    ("", .failed (.connect (address host port.toNat) OsError.networkUnreachable.message))
  | .stdio launch =>
    (banner launch,
      match m.spawn (launch.withArgs (Endpoint.modeArgs .stdio none)) .transport now with
      | .error e => .failed e
      | .ok h => .connected ("stdio:" ++ launch.program) h)
  | .tcpServer host port launch =>
    let bound := if port = 0 then anyPort else port.toNat
    (banner launch,
      match m.spawn (launch.withArgs (Endpoint.modeArgs .tcpServer (some (host, bound)))) .log now with
      | .error e => .failed e
      | .ok h => .listening h (address host bound) (now + limits.acceptSecs.toNat * 1000))

/-- A program that ends before it has dialled. -/
def exitedEarly : IoError := .raised .other "language server exited before connecting"

/-- Nobody has dialled in time. -/
def nobodyDialled (milliseconds : Nat) : IoError :=
  .raised .timedOut ("no connection within " ++ toString (milliseconds / 1000) ++ "s")

/-- Accepts one connection within some milliseconds, if anybody dials. -/
def accept (milliseconds : Nat) (dialled : Bool) : Except IoError Unit :=
  if dialled then .ok () else .error (nobodyDialled milliseconds)

/-- Waits for a program to dial, which cannot succeed: it ends first, or is killed. -/
def awaitDial (limits : TimeoutSettings) (now : Nat) (h : Hosted) (address : String) (deadline : Nat) :
    Failure × Nat × Hosted :=
  let (t, h) := Hosted.awaitExit (some deadline) Hosted.stepLimit now h
  if h.process.exit.isSome then (.connect address exitedEarly.message, t, h)
  else
    (.connect address (nobodyDialled (limits.acceptSecs.toNat * 1000)).message, deadline,
      h.kill.finish deadline)

end Machine

end LanguageClient
