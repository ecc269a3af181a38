import LanguageClient.Connection.Basic
import LanguageClient.Settings.Basic
import LanguageClient.Task.Progress

/-!
# Requests

A request takes a number, registers it, is written, and waits for its answer.  Whoever gives the
connection up takes the writing half before everything that is pending is answered; so a request
that registers too late to be answered fails when it is written, and withdraws its own number.

Only the requests at either end of a connection's life wait for a limited time.
-/

namespace LanguageClient

/-- What is asked. -/
structure Query where
  method : String
  params : Option Json := none
  /-- For how many seconds an answer is waited for. -/
  limit : Option UInt64 := none
  deriving Inhabited

namespace Query

/-- A query with the time limit of its method. -/
def of (limits : TimeoutSettings) (method : String) (params : Option Json := none) : Query :=
  ⟨method, params, limits.limit? method⟩

def toRequest (q : Query) (id : UInt64) : Request :=
  { id := .number id, method := q.method, params := q.params }

def timeout (q : Query) : Failure :=
  .timeout ("'" ++ q.method ++ "' timed out after " ++ toString (q.limit.getD 0).toNat ++ "s")

/-- Its answer cannot come any more. -/
def abandoned (q : Query) : Failure := .cancelled (q.method ++ " was abandoned")

end Query

/-- How far a request has come. -/
inductive RequestPoint
  | beginning
  | numbering
  | registering (id : UInt64)
  | writing (id : UInt64) (slot : Nat)
  /-- The deadline is a time in milliseconds. -/
  | waiting (id : UInt64) (slot : Nat) (deadline : Option Nat)
  | withdrawing (id : UInt64) (failure : Failure)
  deriving Inhabited

namespace RequestPoint

/-- The next step of a request at a time in milliseconds. -/
def step (q : Query) (now : Nat) (c : Connection) :
    RequestPoint → Progress Connection RequestPoint (Except Failure Json)
  | beginning => if c.terminated then .ends c (.error .terminated) else .goesOn c numbering
  | numbering => .goesOn { c with nextId := c.nextId + 1 } (registering c.nextId)
  | registering id => .goesOn (c.register id) (writing id c.slots)
  | writing id slot =>
    match c.write (.request (q.toRequest id)) with
    | .ok c => .goesOn c (waiting id slot (q.limit.map fun s => now + s.toNat * 1000))
    | .error e => .goesOn c (withdrawing id e)
  | waiting id slot deadline =>
    match c.answers.get? slot with
    | some r => .ends (c.pickUp slot) (r.outcome.mapError Failure.ofResponseError)
    | none =>
      if !c.awaits slot then .ends c (.error q.abandoned)
      else if deadline.any (· ≤ now) then .goesOn c (withdrawing id q.timeout)
      else .waits
  | withdrawing id e => .ends (c.withdraw id) (.error e)

/-- When the request wants to be looked at again although nothing has happened. -/
def deadline? : RequestPoint → Option Nat
  | waiting _ _ deadline => deadline
  | _ => none

end RequestPoint

/-- Reads the result of a request as what was asked for. -/
def readResult {α : Type} (decode : Decoder α) (r : Except Failure Json) : Except Failure α :=
  r.bind fun j => (decode j).mapError fun fault => .protocol fault.message

end LanguageClient
