import LanguageClient.Decode.Record
import LanguageClient.Json.Parser
import LanguageClient.Json.Printer

/-!
# Messages

The two sides of a connection exchange three kinds of messages: a request carries an id and wants
an answer, a response answers the request with its id, and a notification wants nothing.

* `Message.ofJson` tells the three apart by the presence of the keys `id` and `method` alone, and
  then reads the record of that kind.
* `Message.toJson` writes them: absent parameters, results and errors are left out, while a response
  without an id says so with null.

Absent parameters and null parameters are written differently and read alike: as absent.
-/

namespace LanguageClient

/-- What a request is known by: a number, or a text of the other side's choice. -/
inductive RequestId
  | number (n : UInt64)
  | text (s : String)
  deriving DecidableEq, Inhabited, Repr

namespace RequestId

def decode : Decoder RequestId
  | .int n =>
    if 0 ≤ n ∧ n ≤ 0xFFFFFFFFFFFFFFFF then .ok (.number (UInt64.ofNat n.toNat))
    else Decode.refuse (.noAlternative "RequestId")
  | .str s => .ok (.text s)
  | _ => Decode.refuse (.noAlternative "RequestId")

def toJson : RequestId → Json
  | .number n => .ofUInt64 n
  | .text s => .str s

end RequestId

/-- The protocol version every message names. -/
def protocolVersion : String := "2.0"

/-- The error that answers a request. -/
structure ResponseError where
  code : Int32
  message : String
  data : Option Json := none
  deriving Inhabited

namespace ResponseError

/-- The request's method is not one the receiver has. -/
def methodNotFound : Int32 := -32601
/-- The session is not ready for requests. -/
def notInitialized : Int32 := -32002
/-- The server is gone. -/
def serverTerminated : Int32 := -32099
/-- The request was given up. -/
def requestCancelled : Int32 := -32800

def fields : Decode.Fields ResponseError :=
  ResponseError.mk <$> Decode.field "code" Decode.int32 <*> Decode.field "message" Decode.string
    <*> Decode.field? "data" Decode.value

def decode : Decoder ResponseError := fields.decode "ResponseError"

def toJson (e : ResponseError) : Json :=
  .obj ([("code", .ofInt32 e.code), ("message", .str e.message)] ++ Json.member? "data" e.data)

def render (e : ResponseError) : String :=
  "[" ++ toString e.code.toInt ++ "] " ++ e.message

end ResponseError

structure Request where
  version : String := protocolVersion
  id : RequestId
  method : String
  params : Option Json := none
  deriving Inhabited

namespace Request

def fields : Decode.Fields Request :=
  Request.mk <$> Decode.field "jsonrpc" Decode.string <*> Decode.field "id" RequestId.decode
    <*> Decode.field "method" Decode.string <*> Decode.field? "params" Decode.value

def decode : Decoder Request := fields.decode "Request"

def toJson (r : Request) : Json :=
  .obj ([("jsonrpc", .str r.version), ("id", r.id.toJson), ("method", .str r.method)]
    ++ Json.member? "params" r.params)

end Request

structure Response where
  version : String := protocolVersion
  id : Option RequestId
  result : Option Json := none
  error : Option ResponseError := none
  deriving Inhabited

namespace Response

def fields : Decode.Fields Response :=
  Response.mk <$> Decode.field "jsonrpc" Decode.string <*> Decode.field? "id" RequestId.decode
    <*> Decode.field? "result" Decode.value <*> Decode.field? "error" ResponseError.decode

def decode : Decoder Response := fields.decode "Response"

def toJson (r : Response) : Json :=
  .obj ([("jsonrpc", .str r.version), ("id", .ofOption (r.id.map RequestId.toJson))]
    ++ Json.member? "result" r.result ++ Json.member? "error" (r.error.map ResponseError.toJson))

def success (id : RequestId) (result : Json) : Response :=
  { id := some id, result := some result }

def failure (id : RequestId) (error : ResponseError) : Response :=
  { id := some id, error := some error }

def isSuccess (r : Response) : Bool := r.error.isNone

/-- What the response says: its error, or its result, which is null when it is left out. -/
def outcome (r : Response) : Except ResponseError Json :=
  match r.error with
  | some e => .error e
  | none => .ok (.ofOption r.result)

end Response

structure Notification where
  version : String := protocolVersion
  method : String
  params : Option Json := none
  deriving Inhabited

namespace Notification

def fields : Decode.Fields Notification :=
  Notification.mk <$> Decode.field "jsonrpc" Decode.string <*> Decode.field "method" Decode.string
    <*> Decode.field? "params" Decode.value

def decode : Decoder Notification := fields.decode "Notification"

def toJson (n : Notification) : Json :=
  .obj ([("jsonrpc", .str n.version), ("method", .str n.method)] ++ Json.member? "params" n.params)

end Notification

inductive Message
  | request (r : Request)
  | response (r : Response)
  | notification (n : Notification)
  deriving Inhabited

/-- Why a text is no message. -/
inductive MessageError
  /-- It is not JSON. -/
  | notJson
  /-- It has neither an id nor a method. -/
  | neitherIdNorMethod
  | wrongShape (fault : Fault)
  deriving Inhabited

def MessageError.message : MessageError → String
  | .notJson => "invalid JSON"
  | .neitherIdNorMethod => "Invalid LSP message"
  | .wrongShape f => f.message

namespace Message

/-- The message that a value is. -/
def ofJson (j : Json) : Except MessageError Message :=
  match (j.get? "id").isSome, (j.get? "method").isSome with
  | true, true => ((Request.decode j).map .request).mapError .wrongShape
  | true, false => ((Response.decode j).map .response).mapError .wrongShape
  | false, true => ((Notification.decode j).map .notification).mapError .wrongShape
  | false, false => .error .neitherIdNorMethod

def toJson : Message → Json
  | .request r => r.toJson
  | .response r => r.toJson
  | .notification n => n.toJson

/-- The message that a text is. -/
def parse (text : String) : Except MessageError Message :=
  match Json.parse? text with
  | none => .error .notJson
  | some j => ofJson j

/-- The text of a message. -/
def print (m : Message) : String := m.toJson.compact

end Message

end LanguageClient
