import LanguageClient.Data.Table
import LanguageClient.Text.Decimal

/-!
# The grammar of a command line

A grammar says what may stand behind the name of a command: options, and either one operand or the
name of a subcommand with a grammar of its own.  Options begin with two hyphens, or with one if they
have a letter; a value follows as the next argument or behind an equals sign; behind a lone `--`
nothing is an option.  Every grammar knows `--help` and `--version`, and one that has subcommands
knows `help` as well.

The value of an option or operand is only read when the next thing is recognised, or at the end.  So
of two faults the earlier one is named, unless the later one is an argument that nobody knows.
-/

namespace LanguageClient

/-- Why a command line is not carried out. -/
inductive UsageError
  | missingRequiredArgument
  | missingSubcommand
  | unknownArgument
  | invalidSubcommand
  /-- A value is missing or empty. -/
  | invalidValue
  /-- A value cannot be read. -/
  | valueValidation
  /-- An option is given twice. -/
  | argumentConflict
  /-- A switch was given a value. -/
  | tooManyValues
  | displayHelp
  /-- Nothing was said at all. -/
  | displayHelpOnMissingArgumentOrSubcommand
  /-- Asks for the version, below some subcommands. -/
  | displayVersion (path : List String)
  deriving DecidableEq, Inhabited, Repr

namespace UsageError

def kind : UsageError → String
  | missingRequiredArgument => "MissingRequiredArgument"
  | missingSubcommand => "MissingSubcommand"
  | unknownArgument => "UnknownArgument"
  | invalidSubcommand => "InvalidSubcommand"
  | invalidValue => "InvalidValue"
  | valueValidation => "ValueValidation"
  | argumentConflict => "ArgumentConflict"
  | tooManyValues => "TooManyValues"
  | displayHelp => "DisplayHelp"
  | displayHelpOnMissingArgumentOrSubcommand => "DisplayHelpOnMissingArgumentOrSubcommand"
  | displayVersion _ => "DisplayVersion"

/-- Who asked for help or the version got it, and all is well. -/
def exitCode : UsageError → UInt8
  | displayHelp | displayVersion _ => 0
  | _ => 2

end UsageError

/-- What an option is. -/
inductive OptionKind
  | switch
  /-- A natural number follows. -/
  | number
  | help
  | version
  deriving DecidableEq, Inhabited, Repr

structure OptionSpec where
  long : String
  short : Option Char := none
  kind : OptionKind := .switch
  deriving DecidableEq, Inhabited, Repr

/-- What an operand is; a path may not be empty. -/
inductive OperandKind
  | path
  | text
  deriving DecidableEq, Inhabited, Repr

structure Grammar where
  options : List OptionSpec := []
  operand : Option OperandKind := none
  subcommands : List (String × Grammar) := []
  deriving Inhabited

/-- The value of an option or operand. -/
inductive ArgValue
  | given
  | number (n : UInt64)
  | text (s : String)
  deriving DecidableEq, Inhabited, Repr

/-- What a command line says: the subcommand, and every value under the name of its option; the
operand has the empty name. -/
structure Parsed where
  path : List String := []
  values : Table String ArgValue := []
  deriving Inhabited, Repr

namespace Grammar

def helpOption : OptionSpec := { long := "help", short := some 'h', kind := .help }

def versionOption : OptionSpec := { long := "version", short := some 'V', kind := .version }

def allOptions (g : Grammar) : List OptionSpec := g.options ++ [helpOption, versionOption]

def subcommand? (g : Grammar) (name : String) : Option Grammar := g.subcommands.lookup name

/-- The subcommand that explains the others. -/
def isHelp (g : Grammar) (name : String) : Bool := !g.subcommands.isEmpty && name = "help"

/-- What is found when help is asked for about a subcommand. -/
def explain (g : Grammar) : List String → UsageError
  | [] => .displayHelp
  | name :: rest =>
    match g.subcommand? name with
    | some g => g.explain rest
    | none => if g.isHelp name && rest.isEmpty then .displayHelp else .invalidSubcommand

end Grammar

/-- Something whose value has not been read yet. -/
inductive PendingValue
  | option (o : OptionSpec) (value : Option String)
  | operand (k : OperandKind) (value : String)
  deriving Inhabited

/-- How far the arguments of one command have been understood. -/
structure ArgReader where
  grammar : Grammar
  /-- The subcommands on the way to this command. -/
  path : List String := []
  /-- What was said on the way. -/
  outer : Table String ArgValue := []
  values : Table String ArgValue := []
  pending : Option PendingValue := none
  /-- The next argument may be the value that is pending. -/
  awaiting : Bool := false
  operandTaken : Bool := false
  /-- No more options come. -/
  onlyOperands : Bool := false
  deriving Inhabited

namespace ArgReader

/-- The greatest number that an option takes. -/
def maxNumber : Nat := 0xFFFFFFFFFFFFFFFF

/-- Notes a value; nothing may be said twice. -/
def note (r : ArgReader) (name : String) (value : Except UsageError ArgValue) :
    Except UsageError ArgReader :=
  if r.values.contains name then .error .argumentConflict
  else value.map fun v => { r with values := r.values.set name v }

def readNumber (text : String) : Except UsageError ArgValue :=
  match Text.readNat? maxNumber text.toList with
  | some n => .ok (.number (UInt64.ofNat n))
  | none => .error .valueValidation

def readOperand (k : OperandKind) (text : String) : Except UsageError ArgValue :=
  if k = .path && text.isEmpty then .error .invalidValue else .ok (.text text)

/-- Reads the value that is pending, if there is one. -/
def resolve (r : ArgReader) : Except UsageError ArgReader :=
  let done : ArgReader := { r with pending := none, awaiting := false }
  match r.pending with
  | none => .ok done
  | some (.option _ none) => .error .invalidValue
  | some (.option o (some v)) => done.note o.long (readNumber v)
  | some (.operand k v) => done.note "" (readOperand k v)

/-- Takes an option with the value that is attached to it, if there is one. -/
def takeOption (r : ArgReader) (o : OptionSpec) (attached : Option String) :
    Except UsageError ArgReader :=
  match o.kind, attached with
  | .number, none => do return { ← r.resolve with pending := some (.option o none), awaiting := true }
  | .number, some v => do (← r.resolve).note o.long (readNumber v)
  | _, some _ => .error .tooManyValues
  | .switch, none => do (← r.resolve).note o.long (.ok .given)
  | .help, none => do let _ ← r.resolve; .error .displayHelp
  | .version, none => do let _ ← r.resolve; .error (.displayVersion r.path)

/-- Takes an option with its full name. -/
def takeLong (r : ArgReader) (body : List Char) : Except UsageError ArgReader :=
  let name := String.ofList (body.takeWhile (· ≠ '='))
  let attached := match body.dropWhile (· ≠ '=') with
    | [] => none
    | _ :: value => some (String.ofList value)
  match r.grammar.allOptions.find? (·.long == name) with
  | some o => r.takeOption o attached
  | none => .error .unknownArgument

/-- What is attached to the letter of an option. -/
def attachedTo : List Char → Option String
  | [] => none
  | '=' :: value => some (String.ofList value)
  | value => some (String.ofList value)

/-- Takes options by their letters. -/
def takeShort (r : ArgReader) : List Char → Except UsageError ArgReader
  | [] => .ok r
  | c :: rest =>
    match r.grammar.allOptions.find? (·.short = some c) with
    | none => .error .unknownArgument
    | some o =>
      if o.kind = .number then r.takeOption o (attachedTo rest)
      else do (← r.takeOption o none).takeShort rest

/-- An argument for which there is no place. -/
def surplus (r : ArgReader) (arg : String) : UsageError :=
  let named := (r.grammar.subcommand? arg).isSome || r.grammar.isHelp arg
  if r.grammar.subcommands.isEmpty || (r.onlyOperands && named) then .unknownArgument
  else .invalidSubcommand

/-- Takes an argument that is no option. -/
def takeOperand (r : ArgReader) (arg : String) : Except UsageError ArgReader :=
  match r.grammar.operand, r.operandTaken with
  | some k, false => do
    return { ← r.resolve with pending := some (.operand k arg), operandTaken := true }
  | _, _ => .error (r.surplus arg)

/-- Takes an argument that is not the name of a subcommand. -/
def take (r : ArgReader) (arg : String) : Except UsageError ArgReader :=
  if r.onlyOperands then r.takeOperand arg
  else
    match arg.toList with
    | ['-', '-'] => .ok { r with onlyOperands := true, awaiting := false }
    | '-' :: '-' :: body => r.takeLong body
    | '-' :: c :: rest => r.takeShort (c :: rest)
    | _ =>
      match r.awaiting, r.pending with
      | true, some (.option o _) =>
        .ok { r with pending := some (.option o (some arg)), awaiting := false }
      | _, _ => r.takeOperand arg

/-- The reader for a subcommand. -/
def descend (r : ArgReader) (name : String) (g : Grammar) : ArgReader where
  grammar := g
  path := r.path ++ [name]
  outer := r.values.foldl (fun t (k, v) => t.set k v) r.outer

/-- There are no more arguments. -/
def finish (r : ArgReader) : Except UsageError Parsed := do
  let r ← r.resolve
  if !r.grammar.subcommands.isEmpty then
    if r.values.isEmpty then .error .displayHelpOnMissingArgumentOrSubcommand
    else .error .missingSubcommand
  else if r.grammar.operand.isSome && !r.operandTaken then .error .missingRequiredArgument
  else .ok ⟨r.path, r.values.foldl (fun t (k, v) => t.set k v) r.outer⟩

/-- Reads the arguments that are left. -/
def run (r : ArgReader) : List String → Except UsageError Parsed
  | [] => r.finish
  | arg :: rest =>
    if r.onlyOperands || r.awaiting then do (← r.take arg).run rest
    else if r.grammar.isHelp arg then .error (r.grammar.explain rest)
    else
      match r.grammar.subcommand? arg with
      | some g => (r.descend arg g).run rest
      | none => do (← r.take arg).run rest

end ArgReader

/-- Reads the arguments of a program. -/
def Grammar.parse (g : Grammar) (args : List String) : Except UsageError Parsed :=
  ArgReader.run { grammar := g } args

end LanguageClient
