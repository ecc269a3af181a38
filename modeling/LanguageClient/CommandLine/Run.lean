import LanguageClient.CommandLine.Work

/-!
# A run of the program

From the arguments to what is printed and the exit code.  A command line that is not understood exits
with 2 and prints nothing here, unless it only asked for the version or for help; a command that
fails exits with 2 and prints why.
-/

namespace LanguageClient

inductive Printed
  | text (s : String)
  | report (j : Json)
  deriving Inhabited

/-- What a run leaves. -/
structure RunResult where
  exit : UInt8
  printed : Printed
  deriving Inhabited

namespace RunResult

/-- The result of a command line that is not understood. -/
def ofUsage (e : UsageError) : RunResult where
  exit := e.exitCode
  printed := match e with
    | .displayVersion path => .text (Command.versionText path)
    | _ => .text ""

/-- The exit code of a command that failed. -/
def failureCode : UInt8 := 2

/-- The result of a command. -/
def ofReport : Except String Json → RunResult
  | .ok j => ⟨0, .report j⟩
  | .error e => ⟨failureCode, .report (Report.failure e)⟩

/-- Runs the program in a state, with someone who carries out errands there; an errand that never
ends is a failure. -/
def ofArgs {σ : Type} (args : List String) (s : σ)
    (carryOut : σ → Errand (Except String Json) → Option (Except String Json) × σ) : RunResult × σ :=
  match Invocation.parse args with
  | .error e => (ofUsage e, s)
  | .ok i =>
    let (report, s) := carryOut s i.command.errand
    (ofReport (report.getD (.error Failure.terminated.message)), s)

/-- What stands on the standard output. -/
def stdout (r : RunResult) : String :=
  match r.printed with
  | .text s => s
  | .report j => j.sorted.pretty ++ "\n"

end RunResult

/-- The client of the program in a directory; settings that cannot be read are the defaults. -/
def Client.ofDirectory (root : String) (here : Surroundings) (files : FileTree) : Client :=
  let config := (Settings.load files here root false).toOption.getD {}
  .ofProject root config here files config.timeouts

end LanguageClient
