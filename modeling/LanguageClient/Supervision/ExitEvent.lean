import LanguageClient.Decode.Scalar

/-!
# How a process ended

A process ends with a code of its own or by a signal, never both; a process that was merely stopped
has neither.  The system reports this in one number, the wait status.
-/

namespace LanguageClient

structure ExitEvent where
  code : Option Int32
  signal : Option Int32
  deriving DecidableEq, Inhabited, Repr

namespace ExitEvent

/-- What a wait status means: the low seven bits are the signal, zero if there was none, and the
byte above is the code. -/
def ofWaitStatus (status : UInt32) : ExitEvent :=
  let signal := status.toNat % 128
  if signal = 0 then ⟨some (.ofNat (status.toNat / 256 % 256)), none⟩
  else if signal = 127 then ⟨none, none⟩
  else ⟨none, some (.ofNat signal)⟩

/-- The end of a process that was killed. -/
def killed : ExitEvent := ⟨none, some 9⟩

/-- Everything but the code zero. -/
def isAbnormal (e : ExitEvent) : Bool := e.code != some 0 || e.signal.isSome

def part (n : Option Int32) : String :=
  match n with
  | some n => toString n
  | none => "null"

def message (e : ExitEvent) : String :=
  "The language server exited with " ++ part e.code ++ " (" ++ part e.signal ++ ")"

def toJson (e : ExitEvent) : Json :=
  .obj [("code", .ofOption (e.code.map .ofInt32)), ("signal", .ofOption (e.signal.map .ofInt32))]

end ExitEvent

end LanguageClient
