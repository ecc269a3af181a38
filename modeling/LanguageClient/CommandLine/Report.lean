import LanguageClient.Action.Kind
import LanguageClient.Discovery
import LanguageClient.Editor.Basic
import LanguageClient.Protocol.Lifecycle

/-!
# What commands print

Every command prints one JSON object with a `success` flag, so that a script can read it.  Places are
counted from one, the way they are typed on the command line.
-/

namespace LanguageClient.Report

/-- A report of success. -/
def success (members : List (String × Json)) : Json :=
  Json.ofMembers (members ++ [("success", .bool true)])

/-- A report of failure. -/
def failure (message : String) : Json :=
  .obj [("error", .str message), ("success", .bool false)]

/-- A decoration; what is as usual is left out. -/
def decoration (d : RenderedDecoration) : Json :=
  .obj ([("token_type", Json.str d.style.tokenType)]
    ++ (if d.style.modifiers.isEmpty then []
        else [("modifiers", Json.arr (d.style.modifiers.map .str))])
    ++ Json.member? "color" (d.style.color.map .str)
    ++ (if d.style.weight = .bold then [("bold", Json.bool true)] else [])
    ++ (if d.style.italic then [("italic", Json.bool true)] else [])
    ++ Json.member? "hover" (d.hover.map .str)
    ++ [("ranges", Json.arr (d.ranges.map Range.spanJson))])

/-- What loading a file brought; `delivery` says whether the server answered with the highlights or
sent them on its own account. -/
def load (file delivery : String) (symbols : Nat) (decorations : List RenderedDecoration) :
    List (String × Json) :=
  [("file", .str file), ("mode", .str delivery), ("symbols", .ofNat symbols),
    ("decorations", .arr (decorations.map decoration))]

/-- A computed term. -/
def computed (file label : String) (r : ComputeTermResult) : List (String × Json) :=
  [("file", .str file), ("kind", .str label), ("computed", .str r.computed),
    ("range", r.range.spanJson)]

def java (j : JavaLocation) : Json :=
  .obj [("executable", .str j.executable), ("home", .ofOption (j.home.map .str))]

/-! ## Examination -/

/-- A handshake that came to nothing. -/
def handshakeFailed (message : String) : Json :=
  .obj [("connected", .bool false), ("error", .str message)]

/-- The name of a server, with its version if it gave one. -/
def serverTitle (info : ProgramInfo) : String :=
  match info.version with
  | some version => info.name ++ " " ++ version
  | none => info.name

/-- A handshake with a server that may have said who it is. -/
def handshake (server : Option ProgramInfo) (peer : Option String) : Json :=
  .obj ([("connected", .bool true)]
    ++ Json.member? "server" (server.map fun info => .str (serverTitle info))
    ++ Json.member? "peer" (peer.map .str))

def server : Except DiscoveryError String → Json
  | .ok path => .obj [("found", .bool true), ("path", .str path)]
  | .error e => .obj [("found", .bool false), ("error", .str e.message)]

/-- What would be started, and what came of trying it. -/
def examination (config : ClientConfig) (found : Except DiscoveryError String) (javaFound : JavaLocation)
    (endpoint : Option Endpoint) (handshake : Option Json) : List (String × Json) :=
  [("enabled", .bool config.lsp.enabled), ("mode", .str config.lsp.mode.name)]
    ++ Json.member? "endpoint" (endpoint.map fun e => .str e.render)
    ++ [("server", server found), ("java", java javaFound)]
    ++ Json.member? "handshake" handshake

end LanguageClient.Report
