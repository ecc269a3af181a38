import LanguageClient.Settings.Mode

/-!
# Endpoints

Where a server is and how it is reached: a program to be started that talks over its standard input
and output, an address to dial, or an address to listen on together with a program to be started
that will dial it.
-/

namespace LanguageClient

/-- A program to be started. -/
structure Launch where
  program : String
  args : List String := []
  env : List (String × String) := []
  deriving DecidableEq, Inhabited, Repr

namespace Launch

def withArgs (l : Launch) (args : List String) : Launch := { l with args := l.args ++ args }

def withEnv (l : Launch) (name value : String) : Launch := { l with env := l.env ++ [(name, value)] }

def toJson (l : Launch) : Json :=
  .obj [("program", .str l.program), ("args", .arr (l.args.map .str)),
    ("env", .arr (l.env.map fun (k, v) => .arr [.str k, .str v]))]

end Launch

inductive Endpoint
  | stdio (launch : Launch)
  | tcpClient (host : String) (port : UInt16)
  | tcpServer (host : String) (port : UInt16) (launch : Launch)
  deriving DecidableEq, Inhabited, Repr

/-- A host and a port. -/
def address (host : String) (port : Nat) : String := host ++ ":" ++ toString port

namespace Endpoint

def mode : Endpoint → TransportMode
  | stdio _ => .stdio
  | tcpClient _ _ => .tcpClient
  | tcpServer _ _ _ => .tcpServer

/-- The program that the client starts for it. -/
def launch? : Endpoint → Option Launch
  | stdio launch => some launch
  | tcpClient _ _ => none
  | tcpServer _ _ launch => some launch

def render : Endpoint → String
  | stdio launch => "stdio:" ++ launch.program
  | tcpClient host port => address host port.toNat
  | tcpServer host port _ => "listen:" ++ address host port.toNat

/-- The mode as the server calls it, whose point of view is the other one. -/
def serverModeName : TransportMode → String
  | .stdio => "debug"
  | .tcpServer => "client"
  | .tcpClient => "server"

/-- The arguments that tell a server how to talk, and where to dial if it has to. -/
def modeArgs (mode : TransportMode) (dialBack : Option (String × Nat)) : List String :=
  ["--mode", serverModeName mode]
    ++ match dialBack with
      | none => []
      | some (host, port) => ["--host", host, "--port", toString port]

end Endpoint

end LanguageClient
