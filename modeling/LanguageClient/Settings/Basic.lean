import LanguageClient.Settings.Mode

/-!
# Settings

What can be set: how the server is reached, which Java it runs on, and how long the client waits for
the parts of a session that are bounded.  Every setting has a default, so an empty table is a
complete configuration.
-/

namespace LanguageClient

/-- How the server is reached. -/
structure ServerSettings where
  enabled : Bool := true
  mode : TransportMode := .tcpClient
  host : String := "localhost"
  port : UInt16 := 11451
  /-- The launcher of the server, in place of a search for it. -/
  path : Option String := none
  deriving DecidableEq, Inhabited, Repr

namespace ServerSettings

def fields (mode : Decoder TransportMode) : Decode.Fields ServerSettings :=
  let d : ServerSettings := {}
  ServerSettings.mk <$> Decode.fieldOr "enabled" Decode.boolean d.enabled
    <*> Decode.fieldOr "mode" mode d.mode
    <*> Decode.fieldOr "host" Decode.string d.host
    <*> Decode.fieldOr "port" Decode.uint16 d.port
    <*> Decode.fieldOr "path" (Decode.optional Decode.string) d.path

def decode (mode : Decoder TransportMode) : Decoder ServerSettings :=
  (fields mode).decode "LspSettings"

def toJson (s : ServerSettings) : Json :=
  .obj [("enabled", .bool s.enabled), ("mode", s.mode.toJson), ("host", .str s.host),
    ("port", .ofUInt16 s.port), ("path", .ofOption (s.path.map .str))]

end ServerSettings

/-- Which Java the server runs on. -/
structure JavaSettings where
  home : Option String := none
  deriving DecidableEq, Inhabited, Repr

namespace JavaSettings

def fields : Decode.Fields JavaSettings :=
  JavaSettings.mk <$> Decode.fieldOr "home" (Decode.optional Decode.string) none

def decode : Decoder JavaSettings := fields.decode "JavaSettings"

def toJson (s : JavaSettings) : Json := .obj [("home", .ofOption (s.home.map .str))]

end JavaSettings

/-- How long the client waits, in seconds. -/
structure TimeoutSettings where
  connectSecs : UInt64 := 10
  acceptSecs : UInt64 := 30
  initializeSecs : UInt64 := 60
  shutdownSecs : UInt64 := 2
  deriving DecidableEq, Inhabited, Repr

namespace TimeoutSettings

def fields : Decode.Fields TimeoutSettings :=
  let d : TimeoutSettings := {}
  TimeoutSettings.mk <$> Decode.fieldOr "connect_secs" Decode.uint64 d.connectSecs
    <*> Decode.fieldOr "accept_secs" Decode.uint64 d.acceptSecs
    <*> Decode.fieldOr "initialize_secs" Decode.uint64 d.initializeSecs
    <*> Decode.fieldOr "shutdown_secs" Decode.uint64 d.shutdownSecs

def decode : Decoder TimeoutSettings := fields.decode "TimeoutSettings"

def toJson (s : TimeoutSettings) : Json :=
  .obj [("connect_secs", .ofUInt64 s.connectSecs), ("accept_secs", .ofUInt64 s.acceptSecs),
    ("initialize_secs", .ofUInt64 s.initializeSecs), ("shutdown_secs", .ofUInt64 s.shutdownSecs)]

end TimeoutSettings

structure ClientConfig where
  lsp : ServerSettings := {}
  java : JavaSettings := {}
  timeouts : TimeoutSettings := {}
  deriving DecidableEq, Inhabited, Repr

namespace ClientConfig

def fields (mode : Decoder TransportMode) : Decode.Fields ClientConfig :=
  ClientConfig.mk <$> Decode.fieldOr "lsp" (ServerSettings.decode mode) {}
    <*> Decode.fieldOr "java" JavaSettings.decode {}
    <*> Decode.fieldOr "timeouts" TimeoutSettings.decode {}

/-- Reads settings from JSON. -/
def decode : Decoder ClientConfig := (fields TransportMode.decode).decode "ClientConfig"

/-- Reads settings from the table of a configuration file. -/
def decodeTable : Decoder ClientConfig := (fields TransportMode.decodeEntry).decode "ClientConfig"

def toJson (c : ClientConfig) : Json :=
  .obj [("lsp", c.lsp.toJson), ("java", c.java.toJson), ("timeouts", c.timeouts.toJson)]

/-! ## The file that holds the defaults -/

/-- A line of a configuration file. -/
def assignment (key value : String) : String := key ++ " = " ++ value ++ "\n"

/-- A string without characters that would have to be escaped, in quotes. -/
def plainString (s : String) : String := "\"" ++ s ++ "\""

/-- A configuration file with these settings, as far as they are set. -/
def render (c : ClientConfig) : String :=
  "[lsp]\n"
    ++ assignment "enabled" (toString c.lsp.enabled)
    ++ assignment "mode" (plainString c.lsp.mode.name)
    ++ assignment "host" (plainString c.lsp.host)
    ++ assignment "port" (toString c.lsp.port.toNat)
    ++ (c.lsp.path.map fun p => assignment "path" (plainString p)).getD ""
    ++ "\n[java]\n"
    ++ (c.java.home.map fun h => assignment "home" (plainString h)).getD ""
    ++ "\n[timeouts]\n"
    ++ assignment "connect_secs" (toString c.timeouts.connectSecs.toNat)
    ++ assignment "accept_secs" (toString c.timeouts.acceptSecs.toNat)
    ++ assignment "initialize_secs" (toString c.timeouts.initializeSecs.toNat)
    ++ assignment "shutdown_secs" (toString c.timeouts.shutdownSecs.toNat)

end ClientConfig

/-! ## Bounded waits -/

/-- What a request is for, as far as its time limit goes. -/
inductive OperationType
  | request | initialization | shutdown
  deriving DecidableEq, Inhabited, Repr

namespace OperationType

def ofMethod (method : String) : OperationType :=
  if method = "initialize" then initialization
  else if method = "shutdown" then shutdown
  else request

def name : OperationType → String
  | request => "Request"
  | initialization => "Initialization"
  | shutdown => "Shutdown"

end OperationType

/-- How many seconds a request may take.  Ordinary requests may take any time: a server may need
long to check a program, and there is no way to call a request back. -/
def TimeoutSettings.limit? (t : TimeoutSettings) (method : String) : Option UInt64 :=
  match OperationType.ofMethod method with
  | .initialization => some t.initializeSecs
  | .shutdown => some t.shutdownSecs
  | .request => none

end LanguageClient
