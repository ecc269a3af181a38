import LanguageClient.Action.Kind
import LanguageClient.CommandLine.Grammar

/-!
# The commands of the client

What the command line of the client can ask for, and its grammar.
-/

namespace LanguageClient

inductive Command
  /-- Shows what a file looks like; waits some milliseconds for highlights that come late. -/
  | load (file : String) (waitMs : UInt64)
  /-- Shows what is computed at a location. -/
  | compute (kind : ActionKind) (location : String)
  /-- Reports what would be started, and tries it if asked to. -/
  | doctor (connect : Bool)
  | configInit (global force : Bool)
  | configShow (global : Bool)
  | configPath (global : Bool)
  deriving DecidableEq, Inhabited, Repr

/-- A command with what goes for every command. -/
structure Invocation where
  command : Command
  verbose : Bool
  deriving DecidableEq, Inhabited, Repr

namespace Command

/-- Whether the command has to talk to a server. -/
def needsSession : Command → Bool
  | load _ _ | compute _ _ => true
  | _ => false

def programName : String := "aya-client"

def version : String := "0.3.0"

/-- The answer to a question for the version; subcommands have names that begin with the program's. -/
def versionText (path : List String) : String :=
  "-".intercalate (programName :: path) ++ " " ++ version ++ "\n"

/-- For how long to wait for highlights if nothing is said about it, in milliseconds. -/
def defaultWait : UInt64 := 3000

def verboseOption : OptionSpec := { long := "verbose", short := some 'v' }

def globalOption : OptionSpec := { long := "global" }

/-- A command without subcommands; every command may be verbose. -/
def leaf (options : List OptionSpec) (operand : Option OperandKind := none) : Grammar :=
  { options := options ++ [verboseOption], operand }

def configGrammar : Grammar where
  options := [verboseOption]
  subcommands := [
    ("init", leaf [globalOption, { long := "force", short := some 'f' }]),
    ("show", leaf [globalOption]),
    ("path", leaf [globalOption])]

def grammar : Grammar where
  options := [verboseOption]
  subcommands := [
    ("load", leaf [{ long := "wait-ms", kind := .number }] (some .path)),
    ("compute-type", leaf [] (some .text)),
    ("compute-nf", leaf [] (some .text)),
    ("doctor", leaf [{ long := "connect" }]),
    ("config", configGrammar)]

/-! ## From arguments -/

def flag (p : Parsed) (name : String) : Bool := p.values.contains name

def operand (p : Parsed) : String :=
  match p.values.get? "" with
  | some (.text s) => s
  | _ => ""

def waitMs (p : Parsed) : UInt64 :=
  match p.values.get? "wait-ms" with
  | some (.number n) => n
  | _ => defaultWait

/-- The command at the end of a path of subcommands. -/
def ofParsed? (p : Parsed) : Option Command :=
  match p.path with
  | ["load"] => some (load (operand p) (waitMs p))
  | ["compute-type"] => some (compute .computeType (operand p))
  | ["compute-nf"] => some (compute .computeNormalForm (operand p))
  | ["doctor"] => some (doctor (flag p "connect"))
  | ["config", "init"] => some (configInit (flag p "global") (flag p "force"))
  | ["config", "show"] => some (configShow (flag p "global"))
  | ["config", "path"] => some (configPath (flag p "global"))
  | _ => none

end Command

/-- Reads a command line. -/
def Invocation.parse (args : List String) : Except UsageError Invocation := do
  let p ← Command.grammar.parse args
  match Command.ofParsed? p with
  | some command => return ⟨command, Command.flag p "verbose"⟩
  | none => throw .missingSubcommand

end LanguageClient
