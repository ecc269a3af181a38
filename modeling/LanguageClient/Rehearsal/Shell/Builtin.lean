import LanguageClient.Rehearsal.Shell.Utility

/-!
# Commands of the shell

The commands that are part of the shell, but for those that run scripts or programs.  `builtin?` says
what one of them does.

Some of them are *special*: what goes wrong in one of these ends the shell, and the assignments in
front of it last.
-/

namespace LanguageClient.Shell

/-! ## Signals

Their numbers, their names, and what is said of a process that one of them has ended. -/

/-- The names of signals. -/
def signalNames : List (String × Nat) :=
  [("EXIT", 0), ("HUP", 1), ("INT", 2), ("QUIT", 3), ("ILL", 4), ("TRAP", 5), ("ABRT", 6), ("BUS", 7),
    ("FPE", 8), ("KILL", 9), ("USR1", 10), ("SEGV", 11), ("USR2", 12), ("PIPE", 13), ("ALRM", 14),
    ("TERM", 15), ("STKFLT", 16), ("CHLD", 17), ("CONT", 18), ("STOP", 19), ("TSTP", 20), ("TTIN", 21),
    ("TTOU", 22), ("URG", 23), ("XCPU", 24), ("XFSZ", 25), ("VTALRM", 26), ("PROF", 27), ("WINCH", 28),
    ("IO", 29), ("PWR", 30), ("SYS", 31)]

/-- The signal of a name or number. -/
def signal? (name : String) : Option Nat :=
  match name.toNat? with
  | some n => if n < 65 then some n else none
  | none => signalNames.lookup name.toUpper

/-- The name of a signal. -/
def signalName (n : Nat) : String :=
  ((signalNames.find? (·.2 = n)).map (·.1)).getD (toString n)

/-- Signals that change nothing if nobody has arranged for them. -/
def isHarmless (signal : Nat) : Bool := [0, 17, 18, 23, 28].contains signal

/-- What a shell says about a process that a signal has ended. -/
def signalText (n : Nat) : String :=
  (([(1, "Hangup"), (3, "Quit"), (4, "Illegal instruction"), (5, "Trace/breakpoint trap"),
    (6, "Aborted"), (7, "Bus error"), (8, "Floating point exception"), (9, "Killed"),
    (10, "User defined signal 1"), (11, "Segmentation fault"), (12, "User defined signal 2"),
    (14, "Alarm clock"), (15, "Terminated")] : List (Nat × String)).lookup n).getD ""

/-! ## What is a command of the shell -/

def specialBuiltins : List String :=
  [":", ".", "break", "continue", "eval", "exec", "exit", "export", "readonly", "return", "set",
    "shift", "times", "trap", "unset", "local"]

def ordinaryBuiltins : List String :=
  ["[", "alias", "bg", "cd", "chdir", "command", "echo", "false", "fg", "getopts", "hash", "jobs",
    "kill", "printf", "pwd", "read", "test", "true", "type", "ulimit", "umask", "unalias",
    "wait"]

def isBuiltin (name : String) : Bool :=
  specialBuiltins.contains name || ordinaryBuiltins.contains name

/-- Commands whose arguments may be assignments. -/
def declaring : List String := ["export", "readonly", "local"]

namespace Switches

/-- Turns a switch on or off; some of them mean nothing to a script. -/
def turn? (s : Switches) (letter : Char) (on : Bool) : Option Switches :=
  match letter with
  | 'e' => some { s with strict := on }
  | 'u' => some { s with demanding := on }
  | 'f' => some { s with literal := on }
  | 'x' => some { s with tracing := on }
  | 'n' | 'v' | 'a' | 'b' | 'C' | 'I' | 'i' | 'm' | 's' | 'V' | 'E' | 'l' | 'p' => some s
  | _ => none

/-- The letter of a switch that has a name. -/
def letterOf? (name : String) : Option Char :=
  ([("errexit", 'e'), ("nounset", 'u'), ("noglob", 'f'), ("xtrace", 'x'), ("verbose", 'v'),
    ("allexport", 'a'), ("notify", 'b'), ("noclobber", 'C'), ("ignoreeof", 'I'), ("interactive", 'i'),
    ("monitor", 'm'), ("noexec", 'n'), ("stdin", 's'), ("vi", 'V'), ("emacs", 'E')] :
    List (String × Char)).lookup name

end Switches

/-- What the options of a shell say. -/
structure Options where
  switches : Switches
  /-- The next word is a script. -/
  isCommand : Bool := false
  /-- What follows the options, if anything does or if their end is marked. -/
  words : Option (List String) := none
  deriving Inhabited

/-- Turns the switches of some letters. -/
def Options.turn? (o : Options) (on mayCommand : Bool) : List Char → Except String Options
  | [] => .ok o
  | c :: rest =>
    if c = 'c' && mayCommand then { o with isCommand := true }.turn? on mayCommand rest
    else
      match o.switches.turn? c on with
      | some switches => { o with switches }.turn? on mayCommand rest
      | none => .error ("Illegal option " ++ String.ofList [if on then '-' else '+', c])

/-- Reads options; with `mayCommand` they are those of a shell that is started. -/
def Options.read (o : Options) (mayCommand : Bool) : List String → Except String Options
  | [] => .ok o
  | "--" :: rest => .ok { o with words := some rest }
  | "-" :: rest => .ok { o with words := if rest.isEmpty then none else some rest }
  | "-o" :: name :: rest => named o true mayCommand name rest
  | "+o" :: name :: rest => named o false mayCommand name rest
  | a :: rest =>
    match a.toList with
    | '-' :: letters => do (← o.turn? true mayCommand letters).read mayCommand rest
    | '+' :: letters => do (← o.turn? false mayCommand letters).read mayCommand rest
    | _ => .ok { o with words := some (a :: rest) }
where
  named (o : Options) (on mayCommand : Bool) (name : String) (rest : List String) :
      Except String Options :=
    match Switches.letterOf? name with
    | some c => do (← o.turn? on false [c]).read mayCommand rest
    | none => .error ("Illegal option " ++ (if on then "-o " else "+o ") ++ name)

namespace Sh

/-! ## Words -/

/-- A count, which has only digits. -/
def count? (text : String) : Option Nat :=
  if !text.isEmpty && text.all Char.isDigit && text.length < 10 then text.toNat? else none

/-- The number that an argument has to be. -/
def number (text : String) : Sh Nat :=
  match count? text with
  | some n => return n
  | none => giveUp ("Illegal number: " ++ text)

/-- A value in single quotes. -/
def singleQuoted (b : Bytes) : String := "'" ++ "'\"'\"'".intercalate ((textOf b).splitOn "'") ++ "'"

/-- The variables as they would be assigned. -/
def listVars (front : String) (names : List String) (vars : Table String Bytes) : String :=
  String.join ((names.mergeSort (· ≤ ·)).map fun name =>
    match vars.get? name with
    | some v => front ++ name ++ "=" ++ singleQuoted v ++ "\n"
    | none => front ++ name ++ "\n")

/-- Writes what a command has to say. -/
def output (tool : String) (bytes : Bytes) : Sh Unit := do
  unless bytes.isEmpty do
    unless ← emit 1 bytes do fail (tool ++ ": I/O error") 1

def outputText (text : String) : Sh Unit := output "write" (bytesOf text)

/-! ## Variables -/

/-- The name and the value of an assignment, or a name alone. -/
def assigned (text : String) : String × Option Bytes :=
  match text.splitOn "=" with
  | [name] => (name, none)
  | name :: more => (name, some (bytesOf ("=".intercalate more)))
  | [] => ("", none)

/-- Assigns and says something of each of some variables. -/
def declare (args : List String) (f : String → State → State) : Sh Unit := do
  for a in args do
    let (name, value) := assigned a
    unless isName name.toList do giveUp (name ++ ": bad variable name")
    if let some v := value then setVar name v
    modify (f name)
  setStatus 0

/-- Makes a variable one of a function: what it holds comes back at the end. -/
def hide (name : String) : Sh Unit :=
  modify fun s =>
    match s.hidden with
    | frame :: outer =>
      if frame.any (·.1 = name) then s
      else { s with hidden := (frame ++ [(name, s.vars.get? name)]) :: outer }
    | [] => s

/-- Gives a variable the value that it had, if it had one. -/
def giveBack (vars : Table String Bytes) (name : String) (value : Option Bytes) : Table String Bytes :=
  match value with
  | some v => vars.set name v
  | none => vars.erase name

/-- A function has ended. -/
def leaveFunction (params : List Bytes) : Sh Unit :=
  modify fun s =>
    match s.hidden with
    | frame :: outer =>
      { s with
        params
        hidden := outer
        vars := frame.foldl (fun t (name, value) => giveBack t name value) s.vars }
    | [] => { s with params }

/-! ## Jobs and signals -/

/-- Waits for jobs: for some, whose last one gives the status, or for all. -/
def waitForJobs (ids : List Nat) : Sh Unit := do
  let s ← get
  let wanted := s.jobs.filter fun j => ids.isEmpty || ids.contains j.id
  match (wanted.filterMap (·.sleepsUntil)).min? with
  | some t => throw (.sleeps t)
  | none =>
    waitUntil (wanted.foldl (fun t j => max t j.clock) s.clock)
    -- What they have written comes before all that is written from now on.
    let isWanted (j : Job) : Bool := wanted.any (·.id = j.id)
    modify fun s => { s with
      written := (wanted.flatMap (·.written)) ++ s.written
      jobs := s.jobs.map fun j => if isWanted j then { j with written := [], killedBy := none } else j }
    for j in wanted do
      if let some n := j.killedBy then
        unless (signalText n).isEmpty do say (signalText n)
    setStatus (match ids.getLast? with
      | none => 0
      | some id => ((wanted.find? (·.id = id)).map (·.status)).getD 127)

/-- Ends a job now. -/
def killJob (id signal : Nat) : Sh Unit :=
  modify fun s => { s with
    jobs := s.jobs.map fun j =>
      if j.id = id && j.sleepsUntil.isSome then
        { j with
          written := j.written.filter (·.time ≤ s.clock)
          sleepsUntil := none
          clock := s.clock
          status := 128 + signal
          killedBy := some signal }
      else j }

/-- Whether there is a job that goes on. -/
def isRunning (s : State) (id : Nat) : Bool :=
  s.jobs.any fun j => j.id = id && (j.sleepsUntil.isSome || s.clock < j.clock)

/-- The signal that `kill` is to send, and to whom; without a signal it only lists them. -/
inductive KillRequest
  | send (signal : Nat) (targets : List String)
  | names (of? : List String)
  | wrong (text : String)

def KillRequest.read : List String → KillRequest
  | "-l" :: rest => .names rest
  | "--" :: rest => .send 15 rest
  | "-s" :: name :: rest => named name rest
  | a :: rest =>
    match a.toList with
    | '-' :: name =>
      match signal? (String.ofList name) with
      | some n => .send n rest
      | none => .wrong ("Illegal option -" ++ String.ofList (name.take 1))
    | _ => .send 15 (a :: rest)
  | [] => .wrong
    "Usage: kill [-s sigspec | -signum | -sigspec] [pid | job]... or\nkill -l [exitstatus]"
where
  named (name : String) (rest : List String) : KillRequest :=
    match signal? name with
    | some n => .send n rest
    | none => .wrong ("invalid signal number or name: " ++ name)

/-- Arranges for signals; without a text nothing is arranged any more. -/
def arrange (text : Option Bytes) : List String → Sh Unit
  | [] => setStatus 0
  | name :: rest =>
    match signal? name with
    | none => do
      say ("trap: " ++ name ++ ": bad trap")
      setStatus 1
    | some n => do
      modify fun s => { s with
        traps := match text with
          | some t => s.traps.set n t
          | none => s.traps.erase n }
      arrange text rest

/-- What is arranged for signals, as commands that would arrange it. -/
def listTraps (traps : Table Nat Bytes) : String :=
  String.join ((traps.mergeSort (·.1 ≤ ·.1)).map fun (n, text) =>
    "trap -- " ++ singleQuoted text ++ " " ++ signalName n ++ "\n")

/-! ## Where commands are -/

/-- The path of the program that a name stands for. -/
def programPath? (s : State) (name : String) : Option String :=
  let isProgram (path : String) : Bool :=
    isSystemTool path ||
      match s.files.find s.cwd path with
      | .ok (_, .file _ executable) => executable
      | _ => false
  if name.contains '/' then if isProgram name then some name else none
  else
    let dirs := match s.vars.get? "PATH" with
      | some b => (textOf b).splitOn ":"
      | none => []
    (dirs.map fun dir => (if dir.isEmpty then "" else dir ++ "/") ++ name).find? isProgram

/-- What a name stands for; with `brief` only as one would call it. -/
def describe (s : State) (brief : Bool) (name : String) : String × Bool :=
  let known (text : String) : String × Bool := (if brief then name else name ++ " is " ++ text, true)
  if reserved.contains name then known "a shell keyword"
  else if (s.functions.get? name).isSome then known "a shell function"
  else if specialBuiltins.contains name then known "a special shell builtin"
  else if isBuiltin name then known "a shell builtin"
  else
    match programPath? s name with
    | some path => (if brief then path else name ++ " is " ++ path, true)
    | none => (if brief then "" else name ++ ": not found", false)

/-- Says what names stand for. -/
def describeAll (brief : Bool) (names : List String) : Sh Unit := do
  setStatus 0
  for name in names do
    let (text, found) := describe (← get) brief name
    unless text.isEmpty do outputText (text ++ "\n")
    unless found do setStatus 127

/-! ## Commands -/

/-- Goes to a directory. -/
def changeDirectory (path : String) (shown : Bool) : Sh Unit := do
  let s ← get
  match s.files.find s.cwd path with
  | .ok (p, .directory) =>
    set { s with cwd := p }
    setVar "OLDPWD" (bytesOf (Path.absolute s.cwd))
    setVar "PWD" (bytesOf (Path.absolute p))
    if shown then outputText (Path.absolute p ++ "\n")
    setStatus 0
  | _ => giveUp ("can't cd to " ++ path)

/-- The options of `read` and the variables that it is to set. -/
def readOptions : List String → Bool × List String
  | "-r" :: rest => (true, (readOptions rest).2)
  | "-p" :: _ :: rest => readOptions rest
  | "--" :: rest => (false, rest)
  | names => (false, names)

/-- Runs a command of the shell; there is no answer if there is none of the name, or if it runs
scripts. -/
def builtin? (io : Surroundings) (name : String) (args : List Bytes) : Option (Sh Unit) :=
  let texts := args.map textOf
  let check (b : Bool) : Sh Unit := setStatus (if b then 0 else 1)
  let tests (args : List Bytes) : Sh Unit := do
    let s ← get
    match test s.files s.cwd args with
    | .ok b => check b
    | .error text => giveUp text
  match name with
  | ":" | "true" | "times" | "alias" | "unalias" | "hash" | "bg" | "fg" | "jobs" => some (setStatus 0)
  | "false" => some (setStatus 1)
  | "echo" => some do setStatus 0; output name (echo args)
  | "printf" => some do
      match args with
      | [] => giveUp "usage: printf format [arg ...]"
      | fmt :: args =>
        let f := format fmt args
        setStatus (if f.wrong.isEmpty then 0 else 1)
        for text in f.wrong do complain text
        output name f.text
        if let some c := f.invalid then giveUp (textOf c ++ ": invalid directive")
  | "test" => some (tests args)
  | "[" => some do
      if texts.getLast? = some "]" then tests args.dropLast else giveUp "missing ]"
  | "pwd" => some do
      let s ← get
      setStatus 0
      outputText (Path.absolute s.cwd ++ "\n")
  | "cd" | "chdir" => some do
      let s ← get
      match texts.filter fun a => a ≠ "-P" && a ≠ "-L" && a ≠ "--" with
      | [] =>
        match s.vars.get? "HOME" with
        | some home => changeDirectory (textOf home) false
        | none => giveUp "HOME not set"
      | "-" :: _ => changeDirectory (textOf ((s.vars.get? "OLDPWD").getD [])) true
      | "" :: _ => setStatus 0
      | path :: _ => changeDirectory path false
  | "read" => some do
      let (raw, names) := readOptions texts
      if names.isEmpty then giveUp "arg count"
      for name in names do
        unless isName name.toList do giveUp (name ++ ": bad variable name")
      check (← readInto (← inputPort) raw names)
  | "umask" => some do setStatus 0; if args.isEmpty then outputText "0022\n"
  | "ulimit" => some do setStatus 0; if args.isEmpty then outputText "unlimited\n"
  | "type" => some (describeAll false texts)
  | "export" => some do
      let s ← get
      match texts.filter (· ≠ "-p") with
      | [] => do setStatus 0; outputText (listVars "export " s.exported s.vars)
      | args => declare args fun name s =>
          if s.exported.contains name then s else { s with exported := s.exported ++ [name] }
  | "readonly" => some do
      let s ← get
      match texts.filter (· ≠ "-p") with
      | [] => do setStatus 0; outputText (listVars "readonly " s.fixed s.vars)
      | args => declare args fun name s => { s with fixed := name :: s.fixed }
  | "local" => some do
      unless io.inFunction do giveUp "not in a function"
      for a in texts do hide (assigned a).1
      declare texts fun _ s => s
  | "unset" => some do
      let functions := texts.contains "-f"
      for a in texts.filter (!isOption ·) do
        let s ← get
        if functions then set { s with functions := s.functions.erase a }
        else if s.fixed.contains a then giveUp (a ++ ": is read only")
        else set { s with vars := s.vars.erase a, exported := s.exported.filter (· ≠ a) }
      setStatus 0
  | "set" => some do
      let s ← get
      if args.isEmpty then outputText (listVars "" s.vars.keys s.vars)
      else
        match Options.read { switches := s.switches } false texts with
        | .error text => giveUp text
        | .ok o =>
          set { s with
            switches := o.switches
            params := match o.words with
              | some words => words.map bytesOf
              | none => s.params }
      setStatus 0
  | "shift" => some do
      let n ← if let a :: _ := texts then number a else pure 1
      let s ← get
      if s.params.length < n then giveUp "can't shift that many"
      set { s with params := s.params.drop n, status := 0 }
  | "trap" => some do
      let s ← get
      match args with
      | [] => do setStatus 0; outputText (listTraps s.traps)
      | [only] => arrange none [textOf only]
      | text :: signals =>
        if (count? (textOf text)).isSome then arrange none texts
        else arrange (if textOf text = "-" then none else some text) (signals.map textOf)
  | "wait" => some do waitForJobs (← texts.mapM number)
  | "break" => some do
      let n ← if let a :: _ := texts then number a else pure 1
      if n = 0 then giveUp "Illegal number: 0"
      setStatus 0
      unless io.loops = 0 do throw (.breaks (min n io.loops))
  | "continue" => some do
      let n ← if let a :: _ := texts then number a else pure 1
      if n = 0 then giveUp "Illegal number: 0"
      setStatus 0
      unless io.loops = 0 do throw (.continues (min n io.loops))
  | "return" => some do
      if let a :: _ := texts then setStatus (← number a)
      throw .returns
  | "exit" => some do
      let s ← get
      let n ← if let a :: _ := texts then number a else pure (s.leaving.getD s.status)
      throw (.exits (n % 256))
  | _ => none

end Sh

end LanguageClient.Shell
