import LanguageClient.Json.Basic

/-!
# States of a session

A session has at most one connection to a server.  Its state says what can be done next: from rest
it can be started, and once it has been ready it can be restarted.
-/

namespace LanguageClient

inductive SessionState
  | idle | connecting | ready | restarting | failed | stopped
  deriving DecidableEq, Inhabited, Repr

namespace SessionState

def all : List SessionState := [idle, connecting, ready, restarting, failed, stopped]

def name : SessionState → String
  | idle => "idle"
  | connecting => "connecting"
  | ready => "ready"
  | restarting => "restarting"
  | failed => "failed"
  | stopped => "stopped"

def ofName? (name : String) : Option SessionState := all.find? (·.name == name)

/-- A new connection may be opened. -/
def canStart : SessionState → Bool
  | idle | failed | stopped => true
  | _ => false

/-- The connection may be replaced. -/
def canRestart : SessionState → Bool
  | ready | failed => true
  | _ => false

/-- Another state will follow without anything being done. -/
def isTransitional : SessionState → Bool
  | connecting | restarting => true
  | _ => false

end SessionState

end LanguageClient
