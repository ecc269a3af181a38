import LanguageClient.Connection.Basic
import LanguageClient.Supervision.LogLines

/-!
# The reader of a connection

One activity of a connection reads what the server sends, message by message.  A response goes to
the request that waits for it; a request of the server is answered by an activity of its own, so
that writing never holds up reading; a notification goes to the log if it is meant for it, and to
the handler of its method if there is one.

When the stream ends, when what comes is no message, or when a handler fails, the connection is
lost: it is marked, the writing half is given up, every waiting request is answered, and those who
watch the connection are told.  In a connection that the client is closing itself none of this
happens.
-/

namespace LanguageClient

/-- What is done with the notifications of one method. -/
inductive Handler
  /-- They are highlights for the overlay. -/
  | overlay
  /-- Somebody else wants to see them, and may fail over it. -/
  | observer (name : String) (fails : Bool)
  deriving DecidableEq, Inhabited, Repr

def Handler.fails : Handler → Bool
  | overlay => false
  | observer _ fails => fails

/-- The handler of each method. -/
abbrev Handlers := Table String Handler

/-- What others learn from a step of the reader. -/
inductive Signal
  | logged (level : LogLevel) (text : String)
  | notified (handler : Handler) (params : Json)
  deriving Inhabited

namespace Reader

/-! ## Requests of the server -/

/-- One empty table of settings for each item asked about. -/
def emptySettings (params : Option Json) : Json :=
  let items := (params.bind (Json.get? "items")).bind Json.items?
  .arr (List.replicate (items.getD []).length .empty)

def unknownMethod (method : String) : ResponseError where
  code := ResponseError.methodNotFound
  message := "Method not found: " ++ method

/-- Methods that only have to be acknowledged. -/
def acknowledged : List String :=
  ["client/registerCapability", "client/unregisterCapability", "window/workDoneProgress/create"]

/-- The answer to a request of the server. -/
def answer (r : Request) : Response :=
  if r.method = "workspace/configuration" then .success r.id (emptySettings r.params)
  else if acknowledged.contains r.method then .success r.id .null
  else .failure r.id (unknownMethod r.method)

/-! ## Notifications -/

def messageLevel : MessageType → LogLevel
  | .error => .error
  | .warning => .warn
  | .info => .info
  | .log => .debug

/-- Methods whose messages are for the log. -/
def logMethods : List String := ["window/logMessage", "window/showMessage"]

/-- What the log gets of a notification. -/
def logged (method : String) (params : Json) : List Signal :=
  if logMethods.contains method then
    match LogMessageParams.decode params with
    | .ok p =>
      [.logged (messageLevel p.type) ("LSP: " ++ String.ofList (Text.trimEnd p.message.toList))]
    | .error _ => []
  else []

/-! ## Steps -/

/-- Where the reader goes when it cannot go on. -/
def afterFailure (c : Connection) : ReaderPoint := if c.closing then .stopped else .marking

/-- The text with which waiting requests are answered when the connection is lost. -/
def lossReason : String := "Aya language server terminated unexpectedly"

/-- What is done with a message. -/
def hear (handlers : Handlers) (c : Connection) : Message → Connection × List Signal
  | .response r => ({ c.settle r with reader := .reading }, [])
  | .request r => ({ c with owed := c.owed ++ [answer r], reader := .reading }, [])
  | .notification n =>
    let params := n.params.getD .null
    let told := logged n.method params
    match handlers.get? n.method with
    | none => ({ c with reader := .reading }, told)
    | some h =>
      ({ c with reader := if h.fails then afterFailure c else .reading },
        told ++ [.notified h params])

/-- The next step of the reader, if there is one. -/
def step? (handlers : Handlers) (c : Connection) : Option (Connection × List Signal) :=
  match c.reader with
  | .reading =>
    match Frame.readMessage c.link.ended c.link.received with
    | .blocked => none
    | .failed _ => some ({ c with reader := afterFailure c }, [])
    | .done (.error _) rest =>
      some ({ c with
        link := { c.link with received := rest }
        reader := afterFailure c }, [])
    | .done (.ok m) rest =>
      some ({ c with
        link := { c.link with received := rest }
        reader := .heard m }, [])
  | .heard m => some (hear handlers c m)
  | .marking => some ({ c with terminated := true, reader := .takingWriter }, [])
  | .takingWriter => some ({ c.takeWriter with reader := .draining }, [])
  | .draining =>
    some ({ c.drain ResponseError.serverTerminated lossReason with reader := .announcing }, [])
  | .announcing => some ({ c with lost := true, reader := .stopped }, [])
  | .stopped => none

/-- A reader that was told to stop does so wherever it is. -/
def stop? (c : Connection) : Option Connection :=
  match c.readerAborted, c.reader with
  | true, .stopped => none
  | true, _ => some { c with reader := .stopped }
  | false, _ => none

/-- Writes one of the answers that are owed to the server; whether it can be written is nobody's
concern. -/
def pay? (c : Connection) : Option Connection :=
  match c.owed with
  | [] => none
  | r :: rest => some ({ c with owed := rest }.tryWrite (.response r)).1

end Reader

end LanguageClient
