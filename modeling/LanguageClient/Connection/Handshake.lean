import LanguageClient.Connection.Request

/-!
# The beginning and the end of a connection

A connection begins with a handshake: the client says who it is and what it can do, keeps what the
server answers, and confirms.  It ends in good order when the server has been asked to shut down
and, if it agreed, told to exit.  Either way it is closed: first the reader is stopped, then the
writing half is given up, and then every request that still waits is told that it was given up.
-/

namespace LanguageClient

namespace Handshake

/-- What the client can do: it sends whole texts, and registers for nothing. -/
def clientCapabilities : Json :=
  .obj [
    ("textDocument", .obj [("synchronization",
      .obj [("dynamicRegistration", .bool false), ("didSave", .bool false)])]),
    ("window", .obj [("workDoneProgress", .bool true), ("showMessage", .empty)]),
    ("workspace", .obj [("configuration", .bool true)])]

def clientInfo : ProgramInfo := ⟨"aya-client", some "0.3.0"⟩

/-- What the client says first. -/
def params (processId : UInt32) (rootUri : Option String) : InitializeParams where
  processId := some processId
  rootUri
  capabilities := clientCapabilities
  clientInfo := some clientInfo
  options := none

/-- The query that begins a connection. -/
def query (limits : TimeoutSettings) (processId : UInt32) (rootUri : Option String) : Query :=
  .of limits "initialize" (some (params processId rootUri).toJson)

def confirmation : Message := .notification { method := "initialized", params := some .empty }

end Handshake

/-- How far a handshake has come. -/
inductive InitializePoint
  | asking (p : RequestPoint)
  | remembering (r : InitializeResult)
  | confirming (r : InitializeResult)
  deriving Inhabited

namespace InitializePoint

/-- The answer of the server decides how it goes on. -/
def step (q : Query) (now : Nat) (c : Connection) :
    InitializePoint → Progress Connection InitializePoint (Except Failure InitializeResult)
  | asking p =>
    match p.step q now c with
    | .waits => .waits
    | .goesOn c p => .goesOn c (asking p)
    | .ends c r =>
      match readResult InitializeResult.decode r with
      | .error e => .ends c (.error e)
      | .ok r => .goesOn c (remembering r)
  | remembering r => .goesOn { c with handshake := some r } (confirming r)
  | confirming r =>
    let (c, written) := c.tryWrite Handshake.confirmation
    .ends c (written.map fun _ => r)

def deadline? : InitializePoint → Option Nat
  | asking p => p.deadline?
  | _ => none

end InitializePoint

/-- How far it has come to close a connection. -/
inductive ClosePoint
  | flagging
  | stoppingReader
  | takingWriter
  | draining
  deriving DecidableEq, Inhabited, Repr

namespace ClosePoint

def step (reason : String) (c : Connection) : ClosePoint → Progress Connection ClosePoint Unit
  | flagging => .goesOn { c with closing := true } stoppingReader
  | stoppingReader => .goesOn { c with readerAborted := true } takingWriter
  | takingWriter => .goesOn c.takeWriter draining
  | draining => .ends (c.drain ResponseError.requestCancelled reason) ()

end ClosePoint

/-- How far an orderly end has come. -/
inductive ShutdownPoint
  | asking (p : RequestPoint)
  | exiting
  | closing (p : ClosePoint)
  deriving Inhabited

namespace ShutdownPoint

def reason : String := "Server shutdown"

def exitMessage : Message := .notification { method := "exit" }

/-- Nothing that goes wrong on the way keeps the connection from being closed. -/
def step (q : Query) (now : Nat) (c : Connection) :
    ShutdownPoint → Progress Connection ShutdownPoint Unit
  | asking p => (p.step q now c).within asking fun
    | .ok _ => exiting
    | .error _ => closing .flagging
  | exiting => .goesOn (c.tryWrite exitMessage).1 (closing .flagging)
  | closing p => (p.step reason c).last closing id

def deadline? : ShutdownPoint → Option Nat
  | asking p => p.deadline?
  | _ => none

end ShutdownPoint

end LanguageClient
