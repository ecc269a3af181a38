import LanguageClient.Protocol.Message

/-!
# The records of a connection's life

What client and server tell each other when a connection begins, what a server has to say to the
person in front of the editor, and the record that names a document.
-/

namespace LanguageClient

/-- The name and version of a program. -/
structure ProgramInfo where
  name : String
  version : Option String
  deriving DecidableEq, Inhabited, Repr

namespace ProgramInfo

def fields : Decode.Fields ProgramInfo :=
  ProgramInfo.mk <$> Decode.field "name" Decode.string <*> Decode.field? "version" Decode.string

def toJson (p : ProgramInfo) : Json :=
  .obj ([("name", .str p.name)] ++ Json.member? "version" (p.version.map .str))

end ProgramInfo

/-- What the client says first. -/
structure InitializeParams where
  processId : Option UInt32
  rootUri : Option String
  capabilities : Json
  clientInfo : Option ProgramInfo
  options : Option Json
  deriving Inhabited

namespace InitializeParams

def fields : Decode.Fields InitializeParams :=
  InitializeParams.mk <$> Decode.field? "processId" Decode.uint32
    <*> Decode.field? "rootUri" Decode.string
    <*> Decode.field "capabilities" Decode.value
    <*> Decode.field? "clientInfo" (ProgramInfo.fields.decode "ClientInfo")
    <*> Decode.field? "initializationOptions" Decode.value

def decode : Decoder InitializeParams := fields.decode "InitializeParams"

def toJson (p : InitializeParams) : Json :=
  .obj ([("processId", .ofOption (p.processId.map .ofUInt32)),
      ("rootUri", .ofOption (p.rootUri.map .str)), ("capabilities", p.capabilities)]
    ++ Json.member? "clientInfo" (p.clientInfo.map ProgramInfo.toJson)
    ++ Json.member? "initializationOptions" p.options)

end InitializeParams

/-- What the server answers. -/
structure InitializeResult where
  capabilities : Json
  serverInfo : Option ProgramInfo
  deriving Inhabited

namespace InitializeResult

def fields : Decode.Fields InitializeResult :=
  InitializeResult.mk <$> Decode.fieldOr "capabilities" Decode.value .null
    <*> Decode.field? "serverInfo" (ProgramInfo.fields.decode "ServerInfo")

def decode : Decoder InitializeResult := fields.decode "InitializeResult"

def toJson (r : InitializeResult) : Json :=
  .obj ([("capabilities", r.capabilities)]
    ++ Json.member? "serverInfo" (r.serverInfo.map ProgramInfo.toJson))

end InitializeResult

/-- How serious a message of the server is. -/
inductive MessageType
  | error | warning | info | log
  deriving DecidableEq, Inhabited, Repr

namespace MessageType

def number : MessageType → Nat
  | error => 1
  | warning => 2
  | info => 3
  | log => 4

def ofNumber? : Nat → Option MessageType
  | 1 => some error
  | 2 => some warning
  | 3 => some info
  | 4 => some log
  | _ => none

def decode : Decoder MessageType := fun j => do
  let n ← Decode.uint8 j
  match ofNumber? n.toNat with
  | some t => .ok t
  | none => Decode.refuse (.notListed n.toNat [1, 2, 3, 4])

def toJson (t : MessageType) : Json := .ofNat t.number

end MessageType

/-- A message of the server for its log or for the person in front of the editor. -/
structure LogMessageParams where
  type : MessageType
  message : String
  deriving DecidableEq, Inhabited, Repr

namespace LogMessageParams

def fields : Decode.Fields LogMessageParams :=
  LogMessageParams.mk <$> Decode.field "type" MessageType.decode
    <*> Decode.field "message" Decode.string

def decode : Decoder LogMessageParams := fields.decode "LogMessageParams"

def toJson (p : LogMessageParams) : Json :=
  .obj [("type", p.type.toJson), ("message", .str p.message)]

end LogMessageParams

/-- The record that names a document. -/
structure DocumentIdentifier where
  uri : String
  deriving DecidableEq, Inhabited, Repr

namespace DocumentIdentifier

def fields : Decode.Fields DocumentIdentifier :=
  DocumentIdentifier.mk <$> Decode.field "uri" Decode.string

def decode : Decoder DocumentIdentifier := fields.decode "TextDocumentIdentifier"

def toJson (d : DocumentIdentifier) : Json := .obj [("uri", .str d.uri)]

end DocumentIdentifier

end LanguageClient
