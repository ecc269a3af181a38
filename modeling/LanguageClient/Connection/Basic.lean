import LanguageClient.Data.Table
import LanguageClient.Protocol.Frame
import LanguageClient.Protocol.Lifecycle
import LanguageClient.Session.Failure
import LanguageClient.Task.Lock

/-!
# Connections

A connection carries messages both ways over one stream.  Its state is what its activities share: the
stream itself, the requests that wait for an answer, the table of the documents that the server has
been told about, and the few flags by which the reader and those who close the connection find out
about each other.

Each function here is one indivisible access to that state; the activities are put together from
them in the other modules of this folder.

* Ids count up from one, and an id is *pending* from the moment it is registered until its answer
  comes, it is withdrawn, or everything that is pending is given up (`drain`).
* Every registration gets a *slot* of its own, and an answer is kept in the slot until the request
  picks it up, so that it does not matter who comes first.  A slot without an answer under which
  nothing is pending any more will never have one: its request was abandoned, which takes another
  request with the same id, long after the numbers have run out and begun again.
* `settle` gives a response to the request that it answers, and leaves everything as it is if there
  is none.
-/

namespace LanguageClient

/-- The stream below a connection, as both ends see it. -/
structure Link where
  /-- What has come from the server and has not been read. -/
  received : Chunks := []
  /-- The server has let go of the stream, which shows on this side only a little later. -/
  leaving : Bool := false
  /-- Nothing more will come. -/
  ended : Bool := false
  /-- Why nothing can be written any more. -/
  refusal : Option IoError := none
  /-- What has been written, the first message first. -/
  sent : List Message := []
  deriving Inhabited

/-- A document as the server was last told. -/
structure SentDocument where
  version : UInt32
  text : String
  deriving DecidableEq, Inhabited, Repr

/-- Where the reader of a connection is. -/
inductive ReaderPoint
  | reading
  | heard (m : Message)
  /-- The stream failed, or a handler did: the four steps of giving the connection up. -/
  | marking
  | takingWriter
  | draining
  | announcing
  | stopped
  deriving Inhabited

structure Connection where
  link : Link := {}
  /-- The writing half is still held. -/
  writable : Bool := true
  nextId : UInt64 := 1
  /-- The slot of every id that waits. -/
  pending : Table UInt64 Nat := []
  /-- How many slots have been given out. -/
  slots : Nat := 0
  /-- What is in the slots. -/
  answers : Table Nat Response := []
  documents : Table String SentDocument := []
  /-- Who may use the table of documents. -/
  documentLock : Lock := {}
  handshake : Option InitializeResult := none
  reader : ReaderPoint := .reading
  /-- The reader has been told to stop. -/
  readerAborted : Bool := false
  /-- The client is closing the connection, so the end of the stream is no surprise. -/
  closing : Bool := false
  /-- The connection was lost. -/
  terminated : Bool := false
  /-- Those who watch the connection have been told that it was lost. -/
  lost : Bool := false
  /-- Answers to requests of the server that have not been written yet. -/
  owed : List Response := []
  deriving Inhabited

namespace Connection

/-! ## Writing -/

/-- Writes one message. -/
def write (c : Connection) (m : Message) : Except Failure Connection :=
  if c.writable then
    match c.link.refusal with
    | some e => .error (.io e)
    | none => .ok { c with link := { c.link with sent := c.link.sent ++ [m] } }
  else .error .terminated

/-- The connection after an attempt to write, and what came of it. -/
def tryWrite (c : Connection) (m : Message) : Connection × Except Failure Unit :=
  match c.write m with
  | .ok c => (c, .ok ())
  | .error e => (c, .error e)

/-- Gives up the writing half. -/
def takeWriter (c : Connection) : Connection := { c with writable := false }

/-! ## Requests that wait -/

/-- Lets an id wait, with the next slot for its answer. -/
def register (c : Connection) (id : UInt64) : Connection :=
  { c with pending := c.pending.set id c.slots, slots := c.slots + 1 }

def withdraw (c : Connection) (id : UInt64) : Connection := { c with pending := c.pending.erase id }

/-- Puts an answer into a slot. -/
def deliver (c : Connection) (slot : Nat) (r : Response) : Connection :=
  { c with answers := c.answers.set slot r }

/-- Empties a slot. -/
def pickUp (c : Connection) (slot : Nat) : Connection := { c with answers := c.answers.erase slot }

/-- An answer may still come into a slot. -/
def awaits (c : Connection) (slot : Nat) : Bool := c.pending.values.contains slot

/-- The greatest id. -/
def maxId : Nat := 0xFFFFFFFFFFFFFFFF

/-- The number that an id stands for.  Some servers send a number back as a text. -/
def number? : RequestId → Option UInt64
  | .number n => some n
  | .text s => (Text.readNat? maxId s.toList).map UInt64.ofNat

/-- The waiting request that an id stands for, with its slot. -/
def claimant? (c : Connection) (id : RequestId) : Option (UInt64 × Nat) :=
  (number? id).bind fun n => (c.pending.get? n).map fun slot => (n, slot)

/-- Gives a response to the request that it answers, if there is one. -/
def settle (c : Connection) (r : Response) : Connection :=
  match r.id.bind c.claimant? with
  | none => c
  | some (id, slot) => (c.withdraw id).deliver slot r

/-- Answers every waiting request with one error. -/
def drain (c : Connection) (code : Int32) (reason : String) : Connection :=
  { c with
    pending := []
    answers := c.pending.foldl (fun answers (id, slot) =>
      answers.set slot (.failure (.number id) { code, message := reason })) c.answers }

/-! ## Documents -/

def rememberDocument (c : Connection) (uri : String) (d : SentDocument) : Connection :=
  { c with documents := c.documents.set uri d }

def forgetDocument (c : Connection) (uri : String) : Connection :=
  { c with documents := c.documents.erase uri }

def joinDocuments (c : Connection) (task : TaskId) : Connection :=
  { c with documentLock := c.documentLock.join task }

def leaveDocuments (c : Connection) : Connection :=
  { c with documentLock := c.documentLock.release }

/-! ## As the server sees it -/

/-- Neither half of the stream is held any more. -/
def isReleased (c : Connection) : Bool :=
  !c.writable && match c.reader with
    | .stopped => true
    | _ => false

/-- More bytes come from the server. -/
def receive (c : Connection) (bytes : List UInt8) : Connection :=
  if c.link.ended || c.link.leaving then c
  else { c with link := { c.link with received := c.link.received ++ [bytes] } }

/-- The server closes the stream, both ways. -/
def hangUp (c : Connection) : Connection :=
  { c with link := { c.link with
    ended := true
    refusal := some (.raised .brokenPipe "broken pipe") } }

/-- The server is going to close the stream. -/
def startLeaving (c : Connection) : Connection := { c with link := { c.link with leaving := true } }

/-- The server closes the stream that it has let go of. -/
def leave? (c : Connection) : Option Connection :=
  if c.link.leaving && !c.link.ended then some c.hangUp else none

end Connection

end LanguageClient
