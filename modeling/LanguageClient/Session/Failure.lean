import LanguageClient.Protocol.Message
import LanguageClient.Session.State
import LanguageClient.Storage.IoError

/-!
# How a call to the server can fail

A call fails because there is no connection, because the connection was lost, because the call was
given up, or because the server refused it.  Each cause has a code as on the wire, and two questions
are asked of it: whether it ended the attempt to connect rather than one request, and whether a
restart may help.
-/

namespace LanguageClient

/-- What is not possible in every state. -/
inductive LifecycleAction
  | start | restart
  deriving DecidableEq, Inhabited, Repr

def LifecycleAction.name : LifecycleAction → String
  | start => "start"
  | restart => "restart"

inductive Failure
  | spawn (program reason : String)
  | connect (endpoint reason : String)
  | notReady (state : SessionState)
  | invalidState (action : LifecycleAction) (state : SessionState)
  | backend (code : Int32) (message : String)
  | cancelled (reason : String)
  | terminated
  | timeout (text : String)
  | protocol (text : String)
  | io (error : IoError)
  deriving DecidableEq, Inhabited

namespace Failure

def message : Failure → String
  | spawn program reason => "Failed to spawn language server '" ++ program ++ "': " ++ reason
  | connect endpoint reason =>
    "Failed to connect to language server at " ++ endpoint ++ ": " ++ reason
  | notReady state => "Language server session is not ready (state: " ++ state.name ++ ")"
  | invalidState action state => "Cannot " ++ action.name ++ " while the session is " ++ state.name
  | backend code m => "Server error [" ++ toString code.toInt ++ "]: " ++ m
  | cancelled reason => "Request cancelled: " ++ reason
  | terminated => "Language server terminated unexpectedly"
  | timeout text => text
  | protocol text => "Protocol error: " ++ text
  | io e => e.message

/-- The cause in one word. -/
def kind : Failure → String
  | spawn _ _ => "Spawn"
  | connect _ _ => "Connect"
  | notReady _ => "NotReady"
  | invalidState _ _ => "InvalidState"
  | backend _ _ => "Backend"
  | cancelled _ => "Cancelled"
  | terminated => "Terminated"
  | timeout _ => "Timeout"
  | protocol _ => "Protocol"
  | io _ => "Io"

/-- The code for a request that took too long. -/
def timeoutCode : Int32 := -32001

/-- The code for everything without one of its own. -/
def otherCode : Int32 := -32000

def code : Failure → Int32
  | backend code _ => code
  | terminated => ResponseError.serverTerminated
  | cancelled _ => ResponseError.requestCancelled
  | notReady _ => ResponseError.notInitialized
  | timeout _ => timeoutCode
  | _ => otherCode

/-- The connection itself failed, not one request. -/
def isTransportFailure : Failure → Bool
  | spawn _ _ | connect _ _ | terminated | io _ => true
  | _ => false

/-- A restart may help. -/
def needsRestart (e : Failure) : Bool :=
  e.isTransportFailure || match e with
    | notReady _ => true
    | _ => false

/-- The failure that an error response means.  Two codes stand for the end of the connection and for
a request given up; every other error is the server's. -/
def ofResponseError (e : ResponseError) : Failure :=
  if e.code = ResponseError.serverTerminated then terminated
  else if e.code = ResponseError.requestCancelled then cancelled e.message
  else backend e.code e.message

end Failure

end LanguageClient
