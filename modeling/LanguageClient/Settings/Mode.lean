import LanguageClient.Decode.Record
import LanguageClient.Text.Classes
import LanguageClient.Text.LowerCase

/-!
# Transport modes

How client and server find each other.  The names take the client's point of view: as a `client` it
dials a server that is running, as a `server` it listens and lets the server that it starts dial
back, and in `debug` mode it talks to the server that it starts over standard input and output.
-/

namespace LanguageClient

inductive TransportMode
  | stdio
  | tcpClient
  | tcpServer
  deriving DecidableEq, Inhabited, Repr

/-- A name that is no mode's; it is kept as it was compared. -/
structure UnknownMode where
  name : String
  deriving DecidableEq, Inhabited, Repr

def UnknownMode.message (e : UnknownMode) : String :=
  "unknown transport mode '" ++ e.name ++ "' (expected: server, client, debug)"

namespace TransportMode

def name : TransportMode → String
  | stdio => "debug"
  | tcpClient => "client"
  | tcpServer => "server"

/-- Whether the client starts the server and so has to end it. -/
def ownsProcess : TransportMode → Bool
  | tcpClient => false
  | _ => true

/-- All modes, in the order in which messages list them. -/
def all : List TransportMode := [stdio, tcpClient, tcpServer]

def ofName? (name : String) : Option TransportMode := all.find? (·.name == name)

/-- Reads a mode that a person wrote: blanks around it and its case do not matter, and `stdio` is
another name for `debug`. -/
def parse (text : String) : Except UnknownMode TransportMode :=
  let name := String.ofList (Text.lower (Text.trim text.toList))
  if name == "stdio" then .ok stdio
  else
    match ofName? name with
    | some m => .ok m
    | none => .error ⟨name⟩

/-- Reads a mode by its exact name. -/
def decodeName (name : String) : Except Fault TransportMode :=
  match ofName? name with
  | some m => .ok m
  | none => Decode.refuse (.unknownName name (all.map TransportMode.name))

/-- Reads a mode from a message: its name, or an object with the name as its only key and null under
it. -/
def decode : Decoder TransportMode
  | .str s => decodeName s
  | .obj [(key, value)] => do
    let m ← decodeName key
    if value.isNull then .ok m else Decode.refuse (.invalidType value "unit")
  | .obj _ => Decode.refuse .notOneKey
  | j => Decode.refuse (.invalidType j "string or map")

/-- Reads a mode from a configuration file: its name, or a table with the name as its only key and
something empty under it. -/
def decodeEntry : Decoder TransportMode
  | .str s => decodeName s
  | .obj [(key, value)] => do
    let m ← decodeName key
    match value with
    | .obj [] => .ok m
    | .arr [] => .ok m
    | v => Decode.refuse (.notEmpty v)
  | .obj members => Decode.refuse (.notOneEntry members.isEmpty)
  | _ => Decode.refuse .notAName

def toJson (m : TransportMode) : Json := .str m.name

end TransportMode

end LanguageClient
