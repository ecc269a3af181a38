import LanguageClient.Supervision.ExitEvent
import LanguageClient.Task.Progress
import LanguageClient.Text.Utf8

/-!
# Supervised processes

A process that the client starts is supervised until nothing more can come from it.  What it writes
is drained into the log of the server, each stream by an activity of its own; the reaper waits for
the end of the process, gives the drains a short time to finish, stops them if they do not, writes
the line that says how the process ended, and only then lets everybody know that it has.

Who kills a process waits for all of that.  So the line about the exit is the last that the log gets
from a process, and it is there before the exit can be seen.

Each read is turned into text on its own, and what is no text in it into replacement characters.
-/

namespace LanguageClient

/-- A stream of a process, and who drains it. -/
structure Drain where
  /-- What was written and has not been read. -/
  waiting : List UInt8 := []
  /-- Nobody can write any more. -/
  closed : Bool := false
  /-- The drain has not come to its end. -/
  running : Bool := true
  deriving Inhabited, Repr

/-- A piece of the log. -/
inductive LogPiece
  /-- What one read brought from a stream. -/
  | output (stream : Nat) (bytes : List UInt8)
  | exitLine (e : ExitEvent)
  deriving DecidableEq, Inhabited, Repr

def LogPiece.text : LogPiece → String
  | output _ bytes => Utf8.decodeLossy bytes
  | exitLine e => e.message ++ "\n"

/-- How far the reaper has come. -/
inductive ReaperPoint
  | waiting
  /-- The drains have time until a time in milliseconds. -/
  | draining (e : ExitEvent) (deadline : Nat)
  | stopping (e : ExitEvent)
  | writing (e : ExitEvent)
  | telling (e : ExitEvent)
  | gone
  deriving DecidableEq, Inhabited, Repr

structure SupervisedProcess where
  drains : List Drain
  /-- How the process ended. -/
  status : Option ExitEvent := none
  killWanted : Bool := false
  reaper : ReaperPoint := .waiting
  /-- How the process ended, as everybody can see. -/
  exit : Option ExitEvent := none
  log : List LogPiece := []
  deriving Inhabited, Repr

namespace SupervisedProcess

/-- For how long the streams may go on when the process has ended, in milliseconds. -/
def grace : Nat := 500

/-- The most that one read brings. -/
def maxRead : Nat := 8192

def stopDrains (p : SupervisedProcess) : SupervisedProcess :=
  { p with drains := p.drains.map fun d => { d with running := false } }

def drained (p : SupervisedProcess) : Bool := p.drains.all (!·.running)

def logText (p : SupervisedProcess) : String := String.join (p.log.map LogPiece.text)

/-! ## Steps -/

/-- A read of at most `size` bytes by one of the drains. -/
def drain? (p : SupervisedProcess) (n size : Nat) : Option SupervisedProcess :=
  match p.drains[n]? with
  | none => none
  | some d =>
    if !d.running then none
    else if d.waiting.isEmpty then
      if d.closed then some { p with drains := p.drains.set n { d with running := false } } else none
    else
      some { p with
        drains := p.drains.set n { d with waiting := d.waiting.drop size }
        log := p.log ++ [.output n (d.waiting.take size)] }

/-- The next step of the reaper at a time in milliseconds. -/
def reap? (p : SupervisedProcess) (now : Nat) : Option SupervisedProcess :=
  match p.reaper with
  | .waiting =>
    match p.status, p.killWanted with
    | some e, _ => some { p with reaper := .draining e (now + grace) }
    | none, true => some { p with status := some .killed }
    | none, false => none
  | .draining e deadline =>
    if p.drained then some { p with reaper := .writing e }
    else if deadline ≤ now then some { p with reaper := .stopping e }
    else none
  | .stopping e => some { p.stopDrains with reaper := .writing e }
  | .writing e => some { p with log := p.log ++ [.exitLine e], reaper := .telling e }
  | .telling e => some { p with exit := some e, reaper := .gone }
  | .gone => none

/-- When the reaper wants to be looked at although nothing has happened. -/
def deadline? (p : SupervisedProcess) : Option Nat :=
  match p.reaper with
  | .draining _ deadline => some deadline
  | _ => none

end SupervisedProcess

/-- How far it has come to kill a process and see it gone. -/
inductive KillPoint
  | asking
  | waiting
  | stopping (e : ExitEvent)
  deriving DecidableEq, Inhabited, Repr

/-- The next step in killing a process, which ends in how the process ended. -/
def KillPoint.step (p : SupervisedProcess) :
    KillPoint → Progress SupervisedProcess KillPoint ExitEvent
  | asking => .goesOn { p with killWanted := true } waiting
  | waiting =>
    match p.exit with
    | none => .waits
    | some e => .goesOn p (stopping e)
  | stopping e => .ends p.stopDrains e

end LanguageClient
