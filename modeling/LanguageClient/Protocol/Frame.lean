import LanguageClient.Protocol.Chunks
import LanguageClient.Protocol.Message
import LanguageClient.Storage.IoError
import LanguageClient.Text.Classes
import LanguageClient.Text.Utf8

/-!
# Frames

A message travels in a frame: header lines, a blank line, and a body whose length in bytes the
header `Content-Length` gives.  `encode` writes a frame with that one header.

`readFrame` is more generous.  Lines end at a line feed or where the stream ends; white space around
a line and around the length counts for nothing; other headers are passed over, and of several
lengths the last one counts.  A body that is no text costs only its own frame, so that outcome is a
result with the rest of the stream behind it; every other failure leaves the stream in an unknown
place and is final.

A stream that is still open may have to be waited for.  Then the answer is `blocked`, nothing has
been taken, and the frame is read again from its start when more bytes have come.
-/

namespace LanguageClient

/-- What an attempt to read comes to. -/
inductive ReadResult (α : Type)
  | done (value : α) (rest : Chunks)
  /-- More bytes are needed, and may still come. -/
  | blocked
  | failed (error : IoError)

namespace Frame

/-- The greatest body that is accepted. -/
def maxBytes : Nat := 64 * 1024 * 1024

/-- The greatest length that a header can name. -/
def maxLength : Nat := 0xFFFFFFFFFFFFFFFF

def lengthHeader : List Char := "Content-Length:".toList

/-! ## Writing -/

/-- The frame of a body. -/
def header (body : String) : String :=
  "Content-Length: " ++ toString body.utf8ByteSize ++ "\r\n\r\n"

/-- A body with its header in front. -/
def encode (body : String) : String := header body ++ body

/-- A value in its frame. -/
def ofJson (j : Json) : String := encode j.compact

/-! ## Reading -/

def closed : IoError := .raised .unexpectedEnd "Server closed connection"
def cutShort : IoError := .raised .unexpectedEnd "early eof"
def missingLength : IoError := .raised .invalidData "Missing Content-Length"
def badLength (e : Text.NumeralError) : IoError := .raised .invalidData e.message
def noText (flaw : Utf8.Flaw) : IoError := .raised .invalidData flaw.message
def tooLong (n : Nat) : IoError :=
  .raised .invalidData
    ("Frame of " ++ toString n ++ " bytes exceeds " ++ toString maxBytes)

/-- What a line of the header means. -/
inductive HeaderLine
  /-- The end of the header. -/
  | blank
  | length (n : Nat)
  | other

/-- Reads a line, with or without the line feed at its end. -/
def headerLine (bytes : List UInt8) : Except IoError HeaderLine :=
  match Utf8.decode bytes with
  | .error flaw => .error (noText flaw)
  | .ok line =>
    let line := Text.trim line.toList
    if line.isEmpty then .ok .blank
    else
      match lengthHeader.isPrefixOf? line with
      | none => .ok .other
      | some value =>
        match Text.readNat maxLength (Text.trim value) with
        | .error e => .error (badLength e)
        | .ok n => .ok (.length n)

/-- The length that a header gives, where `length` is what earlier lines said. -/
def readHeader (ended : Bool) (length : Option Nat) (cs : Chunks) : ReadResult Nat :=
  match _h : cs.takeLine? with
  | some (line, rest) =>
    match headerLine line with
    | .error e => .failed e
    | .ok .blank =>
      match length with
      | none => .failed missingLength
      | some n => .done n rest
    | .ok (.length n) => readHeader ended (some n) rest
    | .ok .other => readHeader ended length rest
  | none =>
    if ended then
      -- The last line has no line feed; behind it the stream ends.
      if cs.flatten.isEmpty then .failed closed
      else
        match headerLine cs.flatten with
        | .error e => .failed e
        | .ok .blank =>
          match length with
          | none => .failed missingLength
          | some n => .done n []
        | .ok _ => .failed closed
    else .blocked
termination_by cs.flatten.length
decreasing_by
  all_goals
    obtain ⟨hf, hne⟩ := Chunks.takeLine?_flatten _h
    have := List.length_pos_iff.2 hne
    simp only [hf, List.length_append]
    omega

/-- One frame: its body, or why the body is no text. -/
def readFrame (ended : Bool) (cs : Chunks) : ReadResult (Except Utf8.Flaw String) :=
  match readHeader ended none cs with
  | .blocked => .blocked
  | .failed e => .failed e
  | .done n rest =>
    if n > maxBytes then .failed (tooLong n)
    else
      match rest.takeExact? n with
      | some (body, rest) => .done (Utf8.decode body) rest
      | none => if ended then .failed cutShort else .blocked

/-- Why a frame's body is no message. -/
inductive BodyError
  | notText (flaw : Utf8.Flaw)
  | notMessage (error : MessageError)
  deriving Inhabited

/-- The failure that a read reports for such a body. -/
def BodyError.toIoError : BodyError → IoError
  | .notText flaw => noText flaw
  | .notMessage error => .raised .invalidData error.message

/-- The message in a body. -/
def messageOf : Except Utf8.Flaw String → Except BodyError Message
  | .error flaw => .error (.notText flaw)
  | .ok text => (Message.parse text).mapError .notMessage

/-- One message. -/
def readMessage (ended : Bool) (cs : Chunks) : ReadResult (Except BodyError Message) :=
  match readFrame ended cs with
  | .blocked => .blocked
  | .failed e => .failed e
  | .done body rest => .done (messageOf body) rest

end Frame

end LanguageClient
