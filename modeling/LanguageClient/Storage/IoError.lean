/-!
# Failures of input and output

A failure either comes from the operating system, which has a number and a text for it, or is
raised by the client before or after it asks the system: a name that no system call can carry, a
stream that ends too early, bytes that are no text, a wait that took too long.
-/

namespace LanguageClient

/-- The failures of the operating system that the client meets. -/
inductive OsError
  | notFound | permissionDenied | alreadyExists | notADirectory | isADirectory
  | brokenPipe | networkUnreachable | connectionRefused | nameTooLong | symlinkLoop
  | directoryNotEmpty | invalidArgument | execFormat
  deriving DecidableEq, Inhabited, Repr

namespace OsError

def code : OsError → Nat
  | notFound => 2
  | execFormat => 8
  | permissionDenied => 13
  | alreadyExists => 17
  | notADirectory => 20
  | isADirectory => 21
  | invalidArgument => 22
  | brokenPipe => 32
  | nameTooLong => 36
  | directoryNotEmpty => 39
  | symlinkLoop => 40
  | networkUnreachable => 101
  | connectionRefused => 111

def reason : OsError → String
  | notFound => "No such file or directory"
  | execFormat => "Exec format error"
  | permissionDenied => "Permission denied"
  | alreadyExists => "File exists"
  | notADirectory => "Not a directory"
  | isADirectory => "Is a directory"
  | invalidArgument => "Invalid argument"
  | brokenPipe => "Broken pipe"
  | nameTooLong => "File name too long"
  | directoryNotEmpty => "Directory not empty"
  | symlinkLoop => "Too many levels of symbolic links"
  | networkUnreachable => "Network is unreachable"
  | connectionRefused => "Connection refused"

/-- What the system says. -/
def message (e : OsError) : String :=
  e.reason ++ " (os error " ++ toString e.code ++ ")"

/-- The class of the failure. -/
def kind : OsError → String
  | notFound => "NotFound"
  | execFormat => "Uncategorized"
  | permissionDenied => "PermissionDenied"
  | alreadyExists => "AlreadyExists"
  | notADirectory => "NotADirectory"
  | isADirectory => "IsADirectory"
  | invalidArgument => "InvalidInput"
  | brokenPipe => "BrokenPipe"
  | nameTooLong => "InvalidFilename"
  | directoryNotEmpty => "DirectoryNotEmpty"
  | symlinkLoop => "FilesystemLoop"
  | networkUnreachable => "NetworkUnreachable"
  | connectionRefused => "ConnectionRefused"

end OsError

/-- The classes of failures that the client raises. -/
inductive RaisedKind
  | unexpectedEnd | invalidData | invalidInput | timedOut | brokenPipe | other
  deriving DecidableEq, Inhabited, Repr

def RaisedKind.name : RaisedKind → String
  | unexpectedEnd => "UnexpectedEof"
  | invalidData => "InvalidData"
  | invalidInput => "InvalidInput"
  | timedOut => "TimedOut"
  | brokenPipe => "BrokenPipe"
  | other => "Other"

inductive IoError
  | system (e : OsError)
  | raised (kind : RaisedKind) (message : String)
  deriving DecidableEq, Inhabited, Repr

namespace IoError

def kindName : IoError → String
  | system e => e.kind
  | raised k _ => k.name

def message : IoError → String
  | system e => e.message
  | raised _ m => m

/-- The text if the client raised the failure. -/
def ownMessage? : IoError → Option String
  | system _ => none
  | raised _ m => some m

/-- Bytes in a text stream that are no text. -/
def notText : IoError := raised .invalidData "stream did not contain valid UTF-8"

/-- The system takes a zero character for the end of a path. -/
def zeroInPath : IoError := raised .invalidInput "file name contained an unexpected NUL byte"

/-- The same of a program's name, its arguments and its variables. -/
def zeroInCommand : IoError := raised .invalidInput "nul byte found in provided data"

end IoError

end LanguageClient
