import LanguageClient.Data.Table
import LanguageClient.Rehearsal.Shell.Field
import LanguageClient.Rehearsal.Shell.Reader

/-!
# The state of a shell

A script runs on what it has been sent so far and on the time it has had, and stops where it needs
more of either.  It is not kept waiting there: when more has come it is run again from its start, and
as nothing in it depends on chance it comes by the same way to the same place, and goes on.

What is written is noted with its time, so that what jobs write aside can be put between what the
script itself writes.

Commands read and write through numbered descriptors, each of which leads to a `Port`.  Pipes,
documents and captured output are buffers in the state itself.
-/

namespace LanguageClient.Shell

/-- Why commands do not go on one after another. -/
inductive Halt
  | needsInput
  | sleeps (until_ : Nat)
  | exits (code : Nat)
  | killed (signal : Nat)
  /-- So many loops end. -/
  | breaks (loops : Nat)
  /-- So many loops but the last of them end. -/
  | continues (loops : Nat)
  | returns
  deriving DecidableEq, Inhabited, Repr

/-- A time that does not come. -/
def never : Nat := 1000000000000

/-- A store of bytes between one command and another. -/
structure Buffer where
  bytes : Bytes := []
  /-- Bytes that come again and again, after the others. -/
  again : Bytes := []
  /-- What keeps its writer from writing more, unless it has ended. -/
  blocked : Option Halt := none
  /-- When its writer has ended. -/
  endsAt : Nat := 0
  deriving Inhabited, Repr

/-- Where a descriptor leads. -/
inductive Port
  | stdin | stdout | stderr
  | nowhere
  /-- A store of bytes in the state. -/
  | buffer (n : Nat)
  | file (place : Place)
  deriving DecidableEq, Inhabited, Repr

/-- The standard input, output and error stream of a process. -/
def standardPorts : Table Nat Port := [(0, .stdin), (1, .stdout), (2, .stderr)]

/-- What is around a command. -/
structure Surroundings where
  /-- How many loops it is inside of. -/
  loops : Nat := 0
  inFunction : Bool := false
  /-- Somebody looks at whether it succeeds. -/
  watched : Bool := false
  /-- It takes the place of the process that begins it. -/
  replaces : Bool := false
  deriving Inhabited, Repr

/-- What a script can change about how it is run. -/
structure Switches where
  /-- A command that fails ends everything. -/
  strict : Bool := false
  /-- A parameter without a value ends everything. -/
  demanding : Bool := false
  /-- Patterns stand for themselves. -/
  literal : Bool := false
  /-- Commands are shown before they run. -/
  tracing : Bool := false
  deriving DecidableEq, Inhabited, Repr

/-- The letters of the switches that are on. -/
def Switches.letters (s : Switches) : String :=
  String.join ([("u", s.demanding), ("x", s.tracing), ("e", s.strict), ("f", s.literal)].filterMap
    fun (c, on) => if on then some c else none)

/-- Something that was written to one of the two streams of the process. -/
structure Written where
  time : Nat
  toError : Bool
  bytes : Bytes
  deriving DecidableEq, Inhabited, Repr

/-- A script that goes on beside the one that began it. -/
structure Job where
  id : Nat
  /-- What it has written, the latest first. -/
  written : List Written
  /-- Until when it sleeps, unless it has ended. -/
  sleepsUntil : Option Nat
  /-- How far it has come, in milliseconds. -/
  clock : Nat
  status : Nat
  /-- The signal that has ended it, as long as that has not been said. -/
  killedBy : Option Nat := none
  deriving Inhabited, Repr

/-- What a shell remembers, what it has been given, and what has come of it. -/
structure State where
  vars : Table String Bytes := []
  /-- The variables that other programs are given. -/
  exported : List String := []
  /-- The variables that cannot be changed any more. -/
  fixed : List String := []
  /-- What the variables held that the functions being run have taken for themselves, for each of
  these functions, the innermost first. -/
  hidden : List (List (String × Option Bytes)) := []
  functions : Table String Script := []
  /-- What is to be done about signals; number zero stands for the end. -/
  traps : Table Nat Bytes := []
  name : Bytes := []
  params : List Bytes := []
  status : Nat := 0
  /-- The status before what is being done about a signal or about the end. -/
  leaving : Option Nat := none
  /-- The status of the last script whose output was taken. -/
  substituted : Nat := 0
  /-- The number of the process. -/
  id : Nat := 1000
  switches : Switches := {}
  /-- The line of the command that is being run. -/
  line : Nat := 1
  /-- The command that has a script of its own, for complaints. -/
  speaker : Option String := none
  ports : Table Nat Port := standardPorts
  buffers : Table Nat Buffer := []
  /-- What has been sent and not been read. -/
  input : Bytes := []
  inputEnded : Bool := false
  /-- For how long it has been waiting, in milliseconds. -/
  clock : Nat := 0
  /-- The time it has had. -/
  limit : Nat := 0
  /-- What it has written, the latest first. -/
  written : List Written := []
  jobs : List Job := []
  files : FileTree := {}
  cwd : Place := []
  deriving Inhabited

/-- All that was written by a shell and its jobs to one of the streams. -/
def State.output (s : State) (toError : Bool) : Bytes :=
  let all := s.written.reverse ++ s.jobs.flatMap (·.written.reverse)
  ((all.filter (·.toError = toError)).mergeSort fun a b => a.time ≤ b.time).flatMap (·.bytes)

abbrev Sh := ExceptT Halt (StateM State)

namespace Sh

/-! ## Output -/

/-- Sends bytes to a descriptor; whether it leads to where something can be written. -/
def emit (descriptor : Nat) (bytes : Bytes) : Sh Bool := do
  let s ← get
  match s.ports.get? descriptor with
  | some .stdout => do set { s with written := ⟨s.clock, false, bytes⟩ :: s.written }; return true
  | some .stderr => do set { s with written := ⟨s.clock, true, bytes⟩ :: s.written }; return true
  | some .nowhere => return true
  | some (.buffer n) => do
    set { s with buffers := s.buffers.modify n fun b => { b with bytes := b.bytes ++ bytes } }
    return true
  | some (.file p) => do
    match s.files.node? p with
    | some (.file content x) => set { s with files := s.files.set p (.file (content ++ bytes) x) }
    | _ => pure ()
    return true
  | some .stdin | none => return false

/-- Writes a line to the error stream. -/
def say (text : String) : Sh Unit := do
  let _ ← emit 2 (bytesOf (text ++ "\n"))

/-- Says what is wrong, with the name of the script and the line in front. -/
def complain (text : String) : Sh Unit := do
  let s ← get
  let speaker := (s.speaker.map (· ++ ": ")).getD ""
  say (textOf s.name ++ ": " ++ toString s.line ++ ": " ++ speaker ++ text)

def setStatus (n : Nat) : Sh Unit := modify fun s => { s with status := n }

/-- Says what is wrong and goes on with a status. -/
def fail (text : String) (status : Nat) : Sh Unit := do
  complain text
  setStatus status

/-- Says what is wrong and ends everything. -/
def giveUp {α : Type} (text : String) : Sh α := do
  complain text
  throw (.exits 2)

/-! ## Variables -/

/-- Gives a variable a value; one that is fixed ends everything. -/
def setVar (name : String) (value : Bytes) : Sh Unit := do
  let s ← get
  if s.fixed.contains name then giveUp (name ++ ": is read only")
  else set { s with vars := s.vars.set name value }

/-- The separators of fields. -/
def separators (s : State) : Bytes := (s.vars.get? "IFS").getD blanks

/-- What is put between parameters that become one text. -/
def joint (s : State) : Bytes := (separators s).take 1

/-- The value of a parameter, if it has one. -/
def param? (s : State) (name : String) : Option Bytes :=
  match name with
  | "@" | "*" => some (joinWith (joint s) s.params)
  | "#" => some (bytesOf (toString s.params.length))
  | "?" => some (bytesOf (toString s.status))
  | "$" => some (bytesOf (toString s.id))
  | "-" => some (bytesOf s.switches.letters)
  | "!" => s.jobs.getLast?.map fun j => bytesOf (toString j.id)
  | _ =>
    match name.toNat? with
    | some 0 => some s.name
    | some n => s.params[n - 1]?
    | none => s.vars.get? name

/-! ## Ends -/

/-- Runs something and then something else, however the first has ended. -/
def thenAlways {α : Type} (x : Sh α) (y : Sh Unit) : Sh α :=
  tryCatch (do let a ← x; y; return a) fun h => do y; throw h

/-- Carries out something whose end is not the end of everything, unless a signal ends it. -/
def enclosed (x : Sh Unit) : Sh Unit :=
  tryCatch x fun
    | .exits n => setStatus n
    | .breaks _ | .continues _ | .returns => pure ()
    | h => throw h

/-- Ends everything if a command has failed and nobody looks. -/
def insist (io : Surroundings) : Sh Unit := do
  let s ← get
  if s.switches.strict && !io.watched && s.status ≠ 0 then throw (.exits s.status)

/-- Waits until a time. -/
def waitUntil (t : Nat) : Sh Unit := do
  modify fun s => { s with clock := max s.clock t }
  let s ← get
  if s.limit < s.clock then throw (.sleeps s.clock)

/-- A process of its own has ended: what it changed in itself is gone. -/
def restore (s : State) : Sh Unit :=
  modify fun t =>
    { s with
      status := t.status, input := t.input, clock := t.clock, written := t.written
      buffers := t.buffers, jobs := t.jobs, files := t.files, substituted := t.substituted }

/-- Waits for what does not come. -/
def neverEnds {α : Type} : Sh α := throw (.sleeps never)

/-! ## Input -/

/-- A new buffer. -/
def newBuffer (b : Buffer) : Sh Nat := do
  let s ← get
  let n := s.buffers.foldl (fun m (k, _) => max m (k + 1)) 0
  set { s with buffers := s.buffers.set n b }
  return n

/-- Nobody uses a buffer any more. -/
def dropBuffer (n : Nat) : Sh Unit := modify fun s => { s with buffers := s.buffers.erase n }

/-- Where the input of a command comes from. -/
def inputPort : Sh Port := return ((← get).ports.get? 0).getD .nowhere

/-- The buffer that a port is; any other port is like one that is empty. -/
def bufferOf (s : State) : Port → Buffer
  | .buffer n => (s.buffers.get? n).getD {}
  | _ => {}

/-- What is there to be read. -/
def ahead (port : Port) : Sh Bytes := do
  let s ← get
  return match port with
    | .stdin => s.input
    | port => (bufferOf s port).bytes

/-- The first bytes of some that come again and again. -/
def cycle (bytes : Bytes) (n : Nat) : Bytes :=
  if bytes.isEmpty then [] else ((List.replicate (n / bytes.length + 1) bytes).flatten).take n

def changeBuffer (port : Port) (f : Buffer → Buffer) : Sh Unit :=
  modify fun s => match port with
    | .buffer n => { s with buffers := s.buffers.modify n f }
    | _ => s

/-- Takes so many bytes from what comes again and again. -/
def refill (port : Port) (n : Nat) : Sh Unit :=
  changeBuffer port fun b => { b with bytes := b.bytes ++ cycle b.again n }

/-- Takes all of it once. -/
def refillOnce (port : Port) : Sh Unit :=
  changeBuffer port fun b => { b with bytes := b.bytes ++ b.again }

def skip (port : Port) (n : Nat) : Sh Unit :=
  match port with
  | .stdin => modify fun s => { s with input := s.input.drop n }
  | port => changeBuffer port fun b => { b with bytes := b.bytes.drop n }

/-- More than what is there is wanted: the end has come, or nothing goes on. -/
def reachEnd (port : Port) : Sh Unit := do
  let s ← get
  match port with
  | .stdin => unless s.inputEnded do throw .needsInput
  | port =>
    let b := bufferOf s port
    match b.blocked with
    | some h => throw h
    | none => set { s with clock := max s.clock b.endsAt }

/-- Reads a line without its end, and whether it had one. -/
def readLine (port : Port) : Sh (Bytes × Bool) := do
  unless (← ahead port).contains newline do refillOnce port
  let bytes ← ahead port
  let line := bytes.takeWhile (· ≠ newline)
  if line.length < bytes.length then
    skip port (line.length + 1)
    return (line, true)
  else
    reachEnd port
    skip port bytes.length
    return (line, false)

/-- Reads a number of bytes, or what there is before the end. -/
def readExactly (port : Port) (n : Nat) : Sh Bytes := do
  refill port (n - (← ahead port).length)
  let bytes ← ahead port
  if bytes.length < n then reachEnd port
  skip port n
  return bytes.take n

/-- Sends bytes to a descriptor again and again. -/
def emitAgain (descriptor : Nat) (bytes : Bytes) : Sh Unit := do
  match (← get).ports.get? descriptor with
  | some (.buffer n) =>
    changeBuffer (.buffer n) fun b => { b with again := bytes, blocked := some (.sleeps never) }
  | _ => neverEnds

/-- Sends what is read to a descriptor, until the input ends; whether that can be written to. -/
def copy (port : Port) (descriptor : Nat) : Sh Bool := do
  let bytes ← ahead port
  skip port bytes.length
  let written ← if bytes.isEmpty then pure true else emit descriptor bytes
  let again := (bufferOf (← get) port).again
  if again.isEmpty then reachEnd port else emitAgain descriptor again
  return written

/-- Reads until the input ends. -/
def readAll (port : Port) : Sh Bytes := do
  let bytes ← ahead port
  reachEnd port
  skip port bytes.length
  return bytes

/-- The line in front of some bytes, how many bytes it takes, and whether it has an end.  Unless it is
`raw` a backslash quotes the byte behind it and takes a line end away. -/
def lineIn (raw : Bool) : Bytes → List Pattern.Marked × Nat × Bool
  | [] => ([], 0, false)
  | b :: rest =>
    if b = newline then ([], 1, true)
    else if b = 0 then
      let (line, n, ended) := lineIn raw rest
      (line, n + 1, ended)
    else if b = 0x5C && !raw then
      match rest with
      | [] => ([], 1, false)
      | c :: rest =>
        let (line, n, ended) := lineIn raw rest
        (if c = newline then line else (c, true) :: line, n + 2, ended)
    else
      let (line, n, ended) := lineIn raw rest
      ((b, false) :: line, n + 1, ended)

/-- Reads a line as `read` does. -/
def readMarked (port : Port) (raw : Bool) : Sh (List Pattern.Marked × Bool) := do
  unless (lineIn raw (← ahead port)).2.2 do refillOnce port
  let (line, n, ended) := lineIn raw (← ahead port)
  unless ended do reachEnd port
  skip port n
  return (line, ended)

/-- Reads a line and gives its parts to variables; whether the line had an end. -/
def readInto (port : Port) (raw : Bool) (names : List String) : Sh Bool := do
  let (line, ended) ← readMarked port raw
  let parts := Field.parts (separators (← get)) names.length line
  for (name, part) in names.zip parts do setVar name part
  return ended

end Sh

end LanguageClient.Shell
