import LanguageClient.Endpoint
import LanguageClient.Rehearsal.Shell.Run
import LanguageClient.Supervision.ExitEvent

/-!
# Programs that can be started

What a program does depends on what it has been sent and on how long it has been running, and on
nothing else.  So a program is a function from these to what it has written by then and to what it is
doing.

A program is a script in the file tree, begun by the line that names an interpreter, or one of the
tools of the system.
-/

namespace LanguageClient

inductive Doing
  /-- It waits to be sent something. -/
  | listening
  /-- It sleeps until it has been running for some milliseconds. -/
  | sleeping (until_ : Nat)
  | exited (e : ExitEvent)
  deriving DecidableEq, Inhabited, Repr

structure Behaviour where
  stdout : List UInt8
  stderr : List UInt8
  doing : Doing
  /-- When one of its jobs goes on, which holds the streams open until it has ended. -/
  jobWakes : Option Nat := none
  deriving Inhabited, Repr

/-- What has been written and is done when some bytes have been sent, perhaps to the end, and some
milliseconds have passed. -/
abbrev Program := (sent : List UInt8) → (ended : Bool) → (elapsed : Nat) → Behaviour

namespace Program

open Shell in
/-- The program that a run of the shell is. -/
def ofRun (start : Shell.State) (run : Sh Unit) : Program := fun sent ended elapsed =>
  let (result, s) := run.run { start with input := sent, inputEnded := ended, limit := elapsed }
  let doing : Doing := match result with
    | .error .needsInput => .listening
    | .error (.sleeps t) => .sleeping t
    | .error (.exits code) => .exited ⟨some (.ofNat code), none⟩
    | .error (.killed signal) => .exited ⟨none, some (.ofNat signal)⟩
    | _ => .exited ⟨some (.ofNat s.status), none⟩
  ⟨s.output false, s.output true, doing, (s.jobs.filterMap (·.sleepsUntil)).min?⟩

/-- How many interpreters may be scripts themselves. -/
def maxInterpreters : Nat := 5

/-- The tool that a command comes to, and its arguments: a script is given to its interpreter, which
may be a script as well. -/
def command? (files : FileTree) (cwd : Place) :
    (fuel : Nat) → (path : String) → (args : List String) → Except IoError (String × List String)
  | fuel, path, args =>
    if Shell.Sh.isSystemTool path then .ok (path, args)
    else do
      match ← files.find cwd path with
      | (_, .file content true) =>
        match fuel, Shell.interpreter? content with
        | _, none => .error (.system .execFormat)
        | _, some ("/usr/bin/env", some name) => .ok (name, path :: args)
        | 0, some _ => .error (.system .symlinkLoop)
        | fuel + 1, some (tool, argument) =>
          command? files cwd fuel tool (argument.toList ++ path :: args)
      | _ => .error (.system .permissionDenied)

/-- The path of a program: a bare name is looked for among the tools of the system, or in the
directories that the launch itself lists. -/
def pathOf (files : FileTree) (cwd : Place) (launch : Launch) : String :=
  if launch.program.contains '/' then launch.program
  else
    match Environment.get? launch.env "PATH" with
    | none => "/usr/bin/" ++ launch.program
    | some list =>
      let candidates := (list.splitOn ":").map fun dir =>
        Path.join (if dir.isEmpty then "." else dir) launch.program
      (candidates.find? fun p => Shell.Sh.isSystemTool p || files.isFile cwd p).getD launch.program

/-- The program that is to be started, for someone in a directory with some variables. -/
def find (files : FileTree) (cwd : Place) (env : Environment) (launch : Launch) :
    Except IoError Program := do
  let words := launch.program :: launch.args ++ launch.env.flatMap fun (k, v) => [k, v]
  if words.any (·.contains '\x00') then .error .zeroInCommand
  else
    let vars : Table String Shell.Bytes :=
      (env ++ launch.env).foldl (fun t (k, v) => Table.set t k (Shell.bytesOf v)) []
    let start : Shell.State :=
      { vars
        exported := Table.keys vars
        name := Shell.bytesOf launch.program
        files
        cwd }
    let (tool, args) ← command? files cwd maxInterpreters (pathOf files cwd launch) launch.args
    return ofRun { start with vars := Shell.Sh.firstVars start }
      (Shell.Sh.program { replaces := true } Shell.Sh.stepLimit (Shell.bytesOf tool)
        (args.map Shell.bytesOf))

end Program

end LanguageClient
