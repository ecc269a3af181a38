import LanguageClient.Client.Errand
import LanguageClient.Client.Workbench

/-!
# Stages

A workbench does nothing about what is outside of it: it writes to connections, asks for new ones and
waits.  A *stage* is a workbench together with what is out there, which can react to what the
workbench has done, and can do something by itself when its time has come.

`settle` lets both sides go on until neither has anything to do, `pass` and `rest` let time go by, and
`await` does so until a call has returned.
-/

namespace LanguageClient

class Stage (σ : Type) where
  bench : σ → Workbench
  setBench : σ → Workbench → σ
  /-- What is out there does one thing, if there is something to be done. -/
  react? : σ → Option σ
  /-- When something out there happens by itself, in milliseconds. -/
  wake? : σ → Option Nat

namespace Stage

variable {σ : Type} [Stage σ]

def modify (s : σ) (f : Workbench → Workbench) : σ := setBench s (f (bench s))

def now (s : σ) : Nat := (bench s).client.now

/-- Both sides go on, taking at most `fuel` turns, until they rest. -/
def settleFrom : (fuel : Nat) → σ → σ
  | 0, s => s
  | fuel + 1, s =>
    let s := modify s fun w => { w.settle with ready := [] }
    match react? s with
    | none => s
    | some s => settleFrom fuel s

/-- Both sides go on until they rest. -/
def settle (s : σ) : σ := settleFrom Workbench.stepLimit s

/-! ## Time -/

/-- When something wants to be looked at, after now and up to a time. -/
def nextTime? (s : σ) (limit : Option Nat) : Option Nat :=
  let times := ((bench s).deadlines ++ (wake? s).toList).filter fun t =>
    now s < t && limit.all (t ≤ ·)
  times.min?

def setTime (s : σ) (t : Nat) : σ := modify s fun w => w.setTime t

/-- Lets time pass up to a time, with at most `fuel` things happening on the way. -/
def passTo (t : Nat) : (fuel : Nat) → σ → σ
  | 0, s => settle (setTime s t)
  | fuel + 1, s =>
    match nextTime? s (some t) with
    | none => settle (setTime s t)
    | some next => passTo t fuel (settle (setTime s next))

/-- Lets some milliseconds pass. -/
def pass (s : σ) (ms : Nat) : σ := passTo (now s + ms) Workbench.stepLimit (settle s)

/-- Lets everything go on until it rests, and then a millisecond pass.  Who has waited for just this
time is ready then, but does not go on yet. -/
def rest (s : σ) : σ :=
  let s := settle s
  setTime s (now s + 1)

/-- Lets time pass until a call has returned; there is no answer if it never does. -/
def awaitFrom (task : TaskId) : (fuel : Nat) → σ → Option CallResult × σ
  | 0, s => (none, s)
  | fuel + 1, s =>
    let s := settle s
    match (bench s).result? task with
    | some r => (some r, s)
    | none =>
      match nextTime? s none with
      | none => (none, s)
      | some t => awaitFrom task fuel (setTime s t)

def await (s : σ) (task : TaskId) : Option CallResult × σ := awaitFrom task Workbench.stepLimit s

/-- Makes a call and waits until it has returned. -/
def call (s : σ) (c : Call) : Option CallResult × σ :=
  let (task, w) := (bench s).add c
  await (setBench s w) task

/-- Carries out an errand; there is no answer if one of its calls never returns. -/
def carryOut {α : Type} (s : σ) : Errand α → Option α × σ
  | .done a => (some a, s)
  | .calls c next =>
    match call s c with
    | (none, s) => (none, s)
    | (some r, s) => carryOut s (next r)
  | .looks next => carryOut s (next (bench s).client)
  | .changes f next => carryOut (modify s fun w => { w with client := f w.client }) next
  | .rests ms next => carryOut (pass s ms) next

end Stage

end LanguageClient
