import LanguageClient.Rehearsal.Shell.Builtin

/-!
# Running shell scripts

Each construct of a script is carried out in its surroundings.  What runs as a process of its own, as
one side of a pipe or a script whose output is taken, leaves the shell as it was but for what it has
read, written and waited.

Both sides of a pipe begin at the same time.  The side that reads is carried out after the other one,
on what that has written so far; where it needs more than that, it waits for what the other one waits
for.
-/

namespace LanguageClient.Shell

/-- What the first line of a script names: an interpreter, and perhaps an argument for it.  Only
blanks and tabs separate the two; a carriage return belongs to what it follows. -/
def interpreter? (content : Bytes) : Option (String × Option String) :=
  let isSeparator (c : Char) : Bool := c = ' ' || c = '\t'
  match content with
  | 0x23 :: 0x21 :: rest =>
    let line := (textOf (rest.takeWhile (· ≠ newline))).toList.dropWhile isSeparator
    let line := (line.reverse.dropWhile isSeparator).reverse
    let name := line.takeWhile (!isSeparator ·)
    let argument := (line.dropWhile (!isSeparator ·)).dropWhile isSeparator
    if name.isEmpty then none
    else
      some (String.ofList name, if argument.isEmpty then none else some (String.ofList argument))
  | _ => none

namespace Sh

/-! ## Redirections -/

/-- Why a file cannot be opened or made. -/
def openTrouble (kind : RedirectKind) (path : String) (e : IoError) : String :=
  let missing := e = .system .notFound || e = .system .notADirectory
  match kind with
  | .read => "cannot open " ++ path ++ ": " ++ (if missing then "No such file" else reason e)
  | _ => "cannot create " ++ path ++ ": " ++ (if missing then "Directory nonexistent" else reason e)

/-- Where a redirection leads, or what is wrong with it. -/
def openPort (kind : RedirectKind) (target : Bytes) : Sh (Except String (Option Port)) := do
  let s ← get
  let path := textOf target
  match kind with
  | .document => return .ok (some (.buffer (← newBuffer { bytes := target })))
  | .duplicate =>
    if path = "-" then return .ok none
    else
      match path.toList with
      | [c] =>
        if c.isDigit then
          match s.ports.get? (c.toNat - '0'.toNat) with
          | some port => return .ok (some port)
          | none => return .error (path ++ ": Bad file descriptor")
        else giveUp "Syntax error: Bad fd number"
      | _ => giveUp "Syntax error: Bad fd number"
  | .read =>
    match device? path with
    | some port => return .ok (some (← port))
    | none =>
      match s.files.find s.cwd path with
      | .ok (_, .file bytes _) => return .ok (some (.buffer (← newBuffer { bytes })))
      | .ok _ => return .ok (some .nowhere)
      | .error e => return .error (openTrouble kind path e)
  | _ =>
    match device? path with
    | some port => return .ok (some (← port))
    | none =>
      let content := if kind = .append then (s.files.read s.cwd path).toOption.getD [] else []
      match do return (← s.files.resolve s.cwd path, ← s.files.write s.cwd path content) with
      | .ok (p, files) =>
        set { s with files }
        return .ok (some (.file p))
      | .error e => return .error (openTrouble kind path e)

/-- Leads a descriptor somewhere. -/
def setPort (descriptor : Nat) (port : Option Port) : Sh Unit :=
  modify fun s => { s with
    ports := match port with
      | some p => s.ports.set descriptor p
      | none => s.ports.erase descriptor }

/-! ## Processes -/

/-- What is arranged for signals in a process that has been begun: nothing, but that some of them are
ignored. -/
def inheritedTraps (traps : Table Nat Bytes) : Table Nat Bytes :=
  traps.filter fun (n, text) => n ≠ 0 && text.isEmpty

/-- Of two reasons why nothing goes on, the one that passes first. -/
def soonest : Halt → Halt → Halt
  | .sleeps a, .sleeps b => .sleeps (min a b)
  | .sleeps a, _ => .sleeps a
  | _, h => h

/-- Carries something out as far as it goes; what keeps it from going on, if anything does. -/
def asFarAs (x : Sh Unit) : Sh (Option Halt) :=
  tryCatch (do x; return none) fun
    | .needsInput => return some .needsInput
    | .sleeps t => return some (.sleeps t)
    | h => throw h

/-- The job that a run has become. -/
def Job.ofRun (id : Nat) (result : Except Halt Unit) (t : State) : Job where
  id
  written := t.written ++ t.jobs.flatMap (·.written)
  sleepsUntil := match result with
    | .error (.sleeps time) => some time
    | .error .needsInput => some never
    | _ => none
  clock := t.clock
  status := match result with
    | .error (.killed n) => 128 + n
    | _ => t.status
  killedBy := match result with
    | .error (.killed n) => some n
    | _ => none

/-- A variable and what it was before a command got another value for it. -/
structure Former where
  name : String
  value : Option Bytes
  exported : Bool

def former (s : State) (name : String) : Former where
  name
  value := s.vars.get? name
  exported := s.exported.contains name

def export_ (name : String) : Sh Unit :=
  modify fun s =>
    if s.exported.contains name then s else { s with exported := s.exported ++ [name] }

/-- The variables are as they were. -/
def giveBackAll (before : List Former) : Sh Unit :=
  modify fun s => before.foldr (fun f s =>
    { s with
      vars := giveBack s.vars f.name f.value
      exported := if f.exported then s.exported else s.exported.filter (· ≠ f.name) }) s

/-- The rest of a script, whose lines have numbers. -/
structure Source where
  /-- The number of the last line, less one. -/
  total : Nat
  left : List Char

/-- A script whose first line has a number. -/
def Source.ofText (first : Nat) (text : Bytes) : Source :=
  let left := (textOf text).toList
  ⟨lineEnds left + first - 1, left⟩

/-- Where programs are looked for unless somebody has said otherwise. -/
def defaultPath : String := "/usr/local/sbin:/usr/local/bin:/usr/sbin:/usr/bin:/sbin:/bin"

/-- The variables that a shell begins with. -/
def firstVars (s : State) : Table String Bytes :=
  let given : Table String Bytes := s.vars.filter fun (name, _) => s.exported.contains name && name ≠ "IFS"
  let given := if Table.contains given "PATH" then given else Table.set given "PATH" (bytesOf defaultPath)
  Table.set given "PWD" (bytesOf (Path.absolute s.cwd))

/-- A word in front of which a tilde stands for the directory of the user. -/
def withTilde (s : State) : Word → Word
  | ⟨.literal ('~' :: text), false⟩ :: rest =>
    let alone := match text with
      | [] => rest.isEmpty
      | c :: _ => c = '/'
    match s.vars.get? "HOME" with
    | some home =>
      if alone then
        ⟨.literal (textOf home).toList, true⟩ ::
          (if text.isEmpty then rest else ⟨.literal text, false⟩ :: rest)
      else ⟨.literal ('~' :: text), false⟩ :: rest
    | none => ⟨.literal ('~' :: text), false⟩ :: rest
  | w => w

/-- What `env` changes before it runs a program. -/
structure EnvRequest where
  /-- Without any of the variables that there are. -/
  clears : Bool := false
  values : List (String × Option Bytes) := []
  words : List Bytes := []

def EnvRequest.read : List Bytes → EnvRequest
  | [] => {}
  | [a] => ofWord a [] {}
  | a :: b :: rest =>
    if textOf a = "-u" then
      let r := read rest
      { r with values := (textOf b, none) :: r.values }
    else ofWord a (b :: rest) (read (b :: rest))
where
  /-- A word, what comes after it, and what that says if the word is no command. -/
  ofWord (a : Bytes) (rest : List Bytes) (after : EnvRequest) : EnvRequest :=
    if textOf a = "-i" || textOf a = "-" then { after with clears := true }
    else
      match assigned (textOf a) with
      | (name, some v) => { after with values := (name, some v) :: after.values }
      | _ => { words := a :: rest }

/-- The value of a parameter, which has to have one if the script says so. -/
def demanded (name : String) : Sh (Option Bytes) := do
  let s ← get
  match param? s name with
  | some v => return some v
  | none => if s.switches.demanding then giveUp (name ++ ": parameter not set") else return none

mutual

/-- Carries out a script. -/
def exec (io : Surroundings) : (fuel : Nat) → Script → Sh Unit
  | 0, _ => neverEnds
  | fuel + 1, script =>
    match script with
    | .nothing => return
    | .simple line assigns words rs => do
      modify fun s => { s with line, substituted := 0 }
      let args ← argsOf io fuel words
      command io fuel assigns args rs
      insist io
    | .next a b => do exec io fuel a; exec io fuel b
    | .andThen a b => do
      exec { io with watched := true } fuel a
      if (← get).status = 0 then exec io fuel b
    | .orElse a b => do
      exec { io with watched := true } fuel a
      if (← get).status ≠ 0 then exec io fuel b
    | .not a => do
      exec { io with watched := true } fuel a
      modify fun s => { s with status := if s.status = 0 then 1 else 0 }
    | .pipe a b => do
      let s ← get
      let n ← newBuffer {}
      setPort 1 (some (.buffer n))
      let blocked ← asFarAs (apart fuel (exec io fuel a))
      let first := (← get).clock
      restore { s with clock := s.clock }
      changeBuffer (.buffer n) fun b => { b with blocked := b.blocked.or blocked, endsAt := first }
      modify fun t => { t with clock := s.clock }
      setPort 0 (some (.buffer n))
      match ← asFarAs (apart fuel (exec io fuel b)), blocked with
      | some h, some h' => throw (soonest h h')
      | some h, none => throw h
      | none, some h => throw h
      | none, none => pure ()
      restore s
      dropBuffer n
      modify fun t => { t with clock := max t.clock first }
      insist io
    | .aside a => do
      let s ← get
      let (result, t) := (apart fuel (exec io fuel a)).run
        { s with written := [], jobs := [], ports := s.ports.set 0 .nowhere }
      let job := Job.ofRun (s.id + 1 + s.jobs.length) result t
      set { s with files := t.files, buffers := t.buffers, jobs := s.jobs ++ [job], status := 0 }
    | .grouped line a rs => do
      let ports := (← get).ports
      modify fun s => { s with line }
      thenAlways (do if ← lead io fuel rs then exec io fuel a)
        (modify fun s => { s with ports })
    | .subshell line a rs => do
      let s ← get
      modify fun s => { s with line }
      apart fuel (do if ← lead io fuel rs then exec io fuel a)
      restore s
      insist io
    | .choose condition yes no => do
      exec { io with watched := true } fuel condition
      if (← get).status = 0 then exec io fuel yes
      else
        match no with
        | .nothing => setStatus 0
        | no => exec io fuel no
    | .loop wanted condition body => turns { io with loops := io.loops + 1 } fuel wanted condition body none
    | .forEach name words body => do
      let values ← match words with
        | some ws => fieldsOf io fuel ws
        | none => pure (← get).params
      setStatus 0
      each { io with loops := io.loops + 1 } fuel name body values
    | .cases w as => do
      let text ← joined io fuel w
      choose io fuel text as
    | .define name body => do
      modify fun s => { s with functions := s.functions.set name body }
      setStatus 0

/-- Carries out one turn of a loop; whether another one may follow. -/
def turn (io : Surroundings) : (fuel : Nat) → Script → Sh Bool
  | 0, _ => neverEnds
  | fuel + 1, body =>
    tryCatch (do exec io fuel body; return true) fun
      | .breaks n => if n ≤ 1 then return false else throw (.breaks (n - 1))
      | .continues n => if n ≤ 1 then return true else throw (.continues (n - 1))
      | h => throw h

/-- Repeats while the condition is as wanted; the last turn, if there was one, leaves its status. -/
def turns (io : Surroundings) : (fuel : Nat) → (wanted : Bool) → (condition body : Script) →
    (last : Option Nat) → Sh Unit
  | 0, _, _, _, _ => neverEnds
  | fuel + 1, wanted, condition, body, last => do
    if ← turn { io with watched := true } fuel condition then
      if ((← get).status = 0) = wanted then
        if ← turn io fuel body then turns io fuel wanted condition body (← get).status
      else setStatus (last.getD 0)

/-- Carries out the body of a loop for each value. -/
def each (io : Surroundings) : (fuel : Nat) → String → Script → List Bytes → Sh Unit
  | 0, _, _, _ => neverEnds
  | _ + 1, _, _, [] => return
  | fuel + 1, name, body, v :: rest => do
    setVar name v
    if ← turn io fuel body then each io fuel name body rest

/-- Carries out the first arm that a text fits. -/
def choose (io : Surroundings) : (fuel : Nat) → Bytes → List (List Word × Script) → Sh Unit
  | 0, _, _ => neverEnds
  | _ + 1, _, [] => setStatus 0
  | fuel + 1, text, (patterns, body) :: rest => do
    if ← fits io fuel text patterns then
      match body with
      | .nothing => setStatus 0
      | body => exec io fuel body
    else choose io fuel text rest

/-- Whether a text fits one of some patterns. -/
def fits (io : Surroundings) : (fuel : Nat) → Bytes → List Word → Sh Bool
  | 0, _, _ => neverEnds
  | _ + 1, _, [] => return false
  | fuel + 1, text, w :: rest => do
    if (← patternOf io fuel w).accepts text then return true
    fits io fuel text rest

/-- Does what has been arranged for a signal or for the end; it leaves the status as it was. -/
def perform : (fuel : Nat) → Bytes → Sh Unit
  | 0, _ => neverEnds
  | fuel + 1, text => do
    let s ← get
    set { s with leaving := some s.status, speaker := none }
    script {} fuel (.ofText 1 text)
    modify fun t => { t with leaving := s.leaving, speaker := s.speaker, status := s.status }

/-- Does what has been arranged for the end. -/
def finish : (fuel : Nat) → Sh Unit
  | 0 => neverEnds
  | fuel + 1 => do
    let s ← get
    match s.traps.get? 0 with
    | none => return
    | some text =>
      set { s with traps := s.traps.erase 0 }
      enclosed (perform fuel text)

/-- Carries something out as a process of its own. -/
def apart : (fuel : Nat) → Sh Unit → Sh Unit
  | 0, _ => neverEnds
  | fuel + 1, x => do
    modify fun s => { s with traps := inheritedTraps s.traps }
    enclosed x
    finish fuel

/-- What a script writes, without the line ends at its end. -/
def capture (io : Surroundings) : (fuel : Nat) → (anew : Bool) → List Char → Sh Bytes
  | 0, _, _ => neverEnds
  | fuel + 1, anew, text => do
    let s ← get
    let n ← newBuffer {}
    setPort 1 (some (.buffer n))
    apart fuel (script { io with watched := false } fuel 
      (.ofText (if anew then 1 else s.line) (bytesOf (String.ofList text))))
    let t ← get
    restore s
    dropBuffer n
    modify fun u => { u with status := s.status, substituted := t.status }
    return trimLines (bufferOf t (.buffer n)).bytes

/-- Carries out the lines of a script. -/
def lines (io : Surroundings) : (fuel : Nat) → Source → Sh Unit
  | 0, _ => neverEnds
  | fuel + 1, ⟨total, cs⟩ =>
    match nextLine total cs with
    | .error ⟨cause, left⟩ => do
      modify fun s => { s with line := total - lineEnds left + 1 }
      giveUp ("Syntax error: " ++ cause.message)
    | .ok (none, _) => return
    | .ok (some s, left) => do
      exec io fuel s
      lines io fuel ⟨total, left⟩

/-- Runs a script. -/
def script (io : Surroundings) : (fuel : Nat) → Source → Sh Unit
  | 0, _ => neverEnds
  | fuel + 1, source => do
    if (pastLines source.left).isEmpty then setStatus 0
    lines io fuel source

/-- Runs a script as a shell of its own. -/
def nested (io : Surroundings) : (fuel : Nat) → Switches → Bytes → Bytes → List Bytes → Sh Unit
  | 0, _, _, _, _ => neverEnds
  | fuel + 1, switches, text, name, params => do
    let s ← get
    set { s with
      name, params, switches
      traps := inheritedTraps s.traps, functions := [], hidden := [], fixed := []
      vars := firstVars s, status := 0, leaving := none, line := 1, speaker := none
      id := if io.replaces then s.id else s.id + 100 }
    tryCatch (do enclosed (script {} fuel (.ofText 1 text)); finish fuel) fun
      | .killed n => do
        if io.replaces then throw (.killed n)
        unless (signalText n).isEmpty do say (signalText n)
        setStatus (128 + n)
      | h => throw h
    restore s

/-- Runs a script from a file that need not be executable. -/
def scriptFile (io : Surroundings) : (fuel : Nat) → Switches → Bytes → Bytes → List Bytes → Sh Unit
  | 0, _, _, _, _ => neverEnds
  | fuel + 1, switches, shell, path, args => do
    let s ← get
    match s.files.read s.cwd (textOf path) with
    | .ok content => nested io fuel switches content path args
    | .error e => do
      say (textOf shell ++ ": 0: " ++ openTrouble .read (textOf path) e)
      setStatus 2

/-- Starts a shell. -/
def shell (io : Surroundings) : (fuel : Nat) → Bytes → List Bytes → Sh Unit
  | 0, _, _ => neverEnds
  | fuel + 1, name, args =>
    match Options.read { switches := {} } true (args.map textOf) with
    | .error text => do
      say (textOf name ++ ": 0: " ++ text)
      setStatus 2
    | .ok o =>
      match o.isCommand, (o.words.getD []).map bytesOf with
      | true, text :: more => nested io fuel o.switches text (more.headD name) (more.drop 1)
      | true, [] => do
        say (textOf name ++ ": 0: -c requires an argument")
        setStatus 2
      | false, path :: more => scriptFile io fuel o.switches name path more
      | false, [] => do nested io fuel o.switches (← readAll (← inputPort)) name []

/-- Carries out a command: its redirections, its assignments, and what its words say. -/
def command (io : Surroundings) : (fuel : Nat) → List (String × Word) → List Bytes → List Redirect →
    Sh Unit
  | 0, _, _, _ => neverEnds
  | fuel + 1, assigns, args, rs => do
    let s ← get
    let name := textOf (args.headD [])
    let isFunction := s.functions.contains name
    let lasts := args.isEmpty || (specialBuiltins.contains name && !isFunction)
    let before := if lasts then [] else assigns.map fun (n, _) => former s n
    let keepsPorts := name = "exec" && args.length = 1
    thenAlways (do
        if ← lead io fuel rs then
          let shown ← assignAll io fuel (!lasts || (name = "exec" && args.length > 1)) assigns
          if s.switches.tracing then
            let ports := (← get).ports
            modify fun t => { t with ports := s.ports }
            say ("+ " ++ " ".intercalate (shown ++ args.map textOf))
            modify fun t => { t with ports }
          match args with
          | [] => modify fun t => { t with status := t.substituted }
          | name :: args => invoke io fuel name args
        else if lasts && !args.isEmpty then throw (.exits 2))
      (do
        giveBackAll before
        unless keepsPorts do modify fun t => { t with ports := s.ports })

/-- Makes assignments one after another; how they are shown. -/
def assignAll (io : Surroundings) : (fuel : Nat) → (exports : Bool) → List (String × Word) →
    Sh (List String)
  | 0, _, _ => neverEnds
  | _ + 1, _, [] => return []
  | fuel + 1, exports, (name, w) :: rest => do
    let v ← joined io fuel w
    setVar name v
    if exports then export_ name
    return (name ++ "=" ++ textOf v) :: (← assignAll io fuel exports rest)

/-- Carries out redirections; whether all of them could be. -/
def lead (io : Surroundings) : (fuel : Nat) → List Redirect → Sh Bool
  | 0, _ => neverEnds
  | _ + 1, [] => return true
  | fuel + 1, r :: rs => do
    let target ← joined io fuel r.target
    match ← openPort r.kind target with
    | .ok port => do
      setPort r.descriptor port
      lead io fuel rs
    | .error text => do
      fail text 2
      return false

/-- Runs a function, a command of the shell or a program. -/
def invoke (io : Surroundings) : (fuel : Nat) → Bytes → List Bytes → Sh Unit
  | 0, _, _ => neverEnds
  | fuel + 1, name, args => do
    let s ← get
    match s.functions.get? (textOf name) with
    | some body =>
      set { s with params := args, hidden := [] :: s.hidden }
      thenAlways (tryCatch (exec { io with inFunction := true, loops := 0 } fuel body) fun
          | .returns => pure ()
          | h => throw h)
        (leaveFunction s.params)
    | none => ordinary io fuel name args

/-- Runs a command of the shell or a program, but no function. -/
def ordinary (io : Surroundings) : (fuel : Nat) → Bytes → List Bytes → Sh Unit
  | 0, _, _ => neverEnds
  | fuel + 1, name, args => do
    let text := textOf name
    if !isBuiltin text then program io fuel name args
    else
      let before := (← get).speaker
      modify fun s => { s with speaker := some text }
      thenAlways (match builtin? io text args with
          | some run => if specialBuiltins.contains text then run else
              tryCatch run fun
                | .exits n => setStatus n
                | h => throw h
          | none => scripted io fuel text args)
        (modify fun s => { s with speaker := before })

/-- Runs a command of the shell that runs scripts or programs. -/
def scripted (io : Surroundings) : (fuel : Nat) → String → List Bytes → Sh Unit
  | 0, _, _ => neverEnds
  | fuel + 1, name, args => do
    let s ← get
    match name, args with
    | "exec", [] => setStatus 0
    | "exec", word :: args => do
      if (programPath? s (textOf word)).isSome then modify fun s => { s with traps := inheritedTraps s.traps }
      program { io with replaces := true } fuel word args
      throw (.exits (← get).status)
    | "eval", args => script io fuel (.ofText 1 (joinWith [0x20] args))
    | ".", [] => setStatus 0
    | ".", path :: _ => do
      let place := if path.contains 0x2F then some (textOf path) else programPath? s (textOf path)
      match place with
      | none => giveUp (textOf path ++ ": not found")
      | some place =>
        match s.files.read s.cwd place with
        | .error e => giveUp (openTrouble .read place e)
        | .ok content => do
          modify fun s => { s with speaker := some place }
          tryCatch (script { io with watched := false } fuel (.ofText 1 content)) fun
            | .returns => pure ()
            | h => throw h
    | "command", args =>
      match args.map textOf with
      | "-v" :: names => describeAll true names
      | "-V" :: names => describeAll false names
      | "-p" :: _ => ordinary io fuel ((args.drop 1).headD []) (args.drop 2)
      | [] => setStatus 0
      | _ => ordinary io fuel (args.headD []) (args.drop 1)
    | "kill", args =>
      match KillRequest.read (args.map textOf) with
      | .wrong text => fail text 2
      | .names [] => outputText (String.join (signalNames.drop 1 |>.map fun (n, _) => n ++ "\n"))
      | .names numbers => do
        setStatus 0
        for text in numbers do outputText (signalName ((count? text).getD 0 % 128) ++ "\n")
      | .send n targets => do
        setStatus 0
        sendSignals fuel (targets.map fun target => (n, target))
    | _, _ => setStatus 0

/-- Sends signals to processes. -/
def sendSignals : (fuel : Nat) → List (Nat × String) → Sh Unit
  | 0, _ => neverEnds
  | _ + 1, [] => return
  | fuel + 1, (n, target) :: rest => do
    let s ← get
    let id := (count? target).getD 0
    if (count? target).isNone then fail ("Illegal number: " ++ target) 2
    else if id = s.id then
      match if n = 9 then none else s.traps.get? n with
      | some text => unless n = 0 do perform fuel text
      | none => unless isHarmless n do throw (.killed n)
    else if isRunning s id then
      unless isHarmless n do killJob id n
    else fail "No such process\n" 1
    sendSignals fuel rest

/-- Runs a program. -/
def program (io : Surroundings) : (fuel : Nat) → Bytes → List Bytes → Sh Unit
  | 0, _, _ => neverEnds
  | fuel + 1, name, args => do
    let s ← get
    let text := textOf name
    match programPath? s text with
    | some path =>
      match systemName? path with
      | some tool => utility io fuel tool name args
      | none =>
        match s.files.read s.cwd path with
        | .error e => fail (text ++ ": " ++ reason e) 126
        | .ok content =>
          match interpreter? content with
          | none => nested io fuel {} content name args
          | some (tool, argument) =>
            program io fuel (bytesOf tool) ((argument.toList.map bytesOf) ++ bytesOf path :: args)
    | none =>
      if text.contains '/' && s.files.exists? s.cwd text then fail (text ++ ": Permission denied") 126
      else fail (text ++ ": not found") 127

/-- Runs a program of the system. -/
def utility (io : Surroundings) : (fuel : Nat) → (tool : String) → (name : Bytes) → List Bytes → Sh Unit
  | 0, _, _, _ => neverEnds
  | fuel + 1, tool, name, args =>
    if shells.contains tool then shell io fuel name args
    else
      match tool with
      | "env" => do
        let request := EnvRequest.read args
        let s ← get
        if request.clears then modify fun s => { s with exported := [] }
        for (n, v) in request.values do
          modify fun s => { s with vars := giveBack s.vars n v }
          export_ n
        match request.words with
        | [] =>
          let t ← get
          setStatus 0
          put tool (t.exported.flatMap fun n => match t.vars.get? n with
            | some v => bytesOf (n ++ "=") ++ v ++ [newline]
            | none => [])
        | word :: args => program io fuel word args
        modify fun t => { t with vars := s.vars, exported := s.exported }
      | "[" =>
        if (args.getLast?.map textOf) = some "]" then utility io fuel "test" name args.dropLast
        else blame tool "missing ']'" 2
      | "kill" => ordinary io fuel (bytesOf tool) args
      | _ =>
        match utility? tool args with
        | some run => run
        | none => fail (textOf name ++ ": not found") 127

/-- What comes of a parameter. -/
def ofParam (io : Surroundings) (quoted : Bool) : (fuel : Nat) → String → ParamUse → Sh (List Mark)
  | 0, _, _ => neverEnds
  | fuel + 1, name, use => do
    let s ← get
    let one (v : Bytes) : List Mark := if quoted then Mark.quoted v else Mark.cuttable v
    let itself (v : Bytes) : List Mark :=
      if name = "@" || (name = "*" && !quoted) then
        Mark.each (if quoted then Mark.quoted else Mark.cuttable) s.params
      else one v
    let absent (orEmpty : Bool) : Bool := match param? s name with
      | some v => orEmpty && v.isEmpty
      | none => true
    let value := (param? s name).getD []
    let other (text : List Char) : Sh (List Mark) := do
      let marks ← marksOf io true fuel (wordOf quoted text)
      return if quoted then .present :: marks else marks
    match use with
    | .value => return itself ((← demanded name).getD [])
    | .length => return one (bytesOf (toString ((← demanded name).getD []).length))
    | .strip atEnd longest text =>
      let v := (← demanded name).getD []
      return one ((← patternOf io fuel (wordOf false text)).strip atEnd longest v)
    | .fallback orEmpty text => if absent orEmpty then other text else return itself value
    | .instead orEmpty text =>
      if absent orEmpty then return if quoted then [.present] else [] else other text
    | .assign orEmpty text =>
      if absent orEmpty then
        unless isName name.toList do giveUp (name ++ ": bad variable name")
        let v ← joined io fuel (wordOf quoted text)
        setVar name v
        return one v
      else return itself value
    | .demand orEmpty text =>
      if absent orEmpty then
        let v ← joined io fuel (wordOf quoted text)
        giveUp (name ++ ": " ++
          (if text.isEmpty then "parameter not set" ++ (if orEmpty then " or null" else "") else textOf v))
      else return itself value

/-- What comes of a word; with `loose` also its plain text may be cut. -/
def marksOf (io : Surroundings) (loose : Bool) : (fuel : Nat) → Word → Sh (List Mark)
  | 0, _ => neverEnds
  | _ + 1, [] => return []
  | fuel + 1, ⟨part, quoted⟩ :: rest => do
    let one (v : Bytes) : List Mark := if quoted then Mark.quoted v else Mark.cuttable v
    let here ← match part with
      | .literal text => do
        let v := bytesOf (String.ofList text)
        pure (if quoted || loose then one v else Mark.plain v)
      | .output text anew => do pure (one (← capture io fuel anew text))
      | .nonsense => giveUp "Bad substitution"
      | .param name use => ofParam io quoted fuel name use
      | .computed text => do
        let expression := textOf (← joined io fuel (expressionOf text))
        let s ← get
        let text (name : String) : List Char := (textOf ((s.vars.get? name).getD [])).toList
        match Arithmetic.evaluate text expression.toList with
        | .error m => giveUp (m.message expression)
        | .ok (n, given) => do
          for (name, v) in given do setVar name (bytesOf (toString v))
          pure (one (bytesOf (toString n)))
    return here ++ (← marksOf io loose fuel rest)

/-- A word as one text. -/
def joined (io : Surroundings) : (fuel : Nat) → Word → Sh Bytes
  | 0, _ => neverEnds
  | fuel + 1, w => do
    let marks ← marksOf io false fuel (withTilde (← get) w)
    return Mark.joined (joint (← get)) marks

/-- A word as a pattern. -/
def patternOf (io : Surroundings) : (fuel : Nat) → Word → Sh Pattern
  | 0, _ => neverEnds
  | fuel + 1, w => return Pattern.ofMarked (Mark.marked (← marksOf io false fuel w))

/-- A word as a command gets it. -/
def fieldsOfWord (io : Surroundings) : (fuel : Nat) → Word → Sh (List Bytes)
  | 0, _ => neverEnds
  | fuel + 1, w => do
    let marks ← marksOf io false fuel (withTilde (← get) w)
    let s ← get
    let fields := Field.split (separators s) marks
    return if s.switches.literal then fields.map fun f => f.map (·.1)
      else fields.flatMap (Field.toArgs s.files s.cwd)

/-- Words as a command gets them. -/
def fieldsOf (io : Surroundings) : (fuel : Nat) → List Word → Sh (List Bytes)
  | 0, _ => neverEnds
  | _ + 1, [] => return []
  | fuel + 1, w :: rest => do
    let fields ← fieldsOfWord io fuel w
    return fields ++ (← fieldsOf io fuel rest)

/-- The name of a command and its arguments. -/
def argsOf (io : Surroundings) : (fuel : Nat) → List Word → Sh (List Bytes)
  | 0, _ => neverEnds
  | _ + 1, [] => return []
  | fuel + 1, w :: rest => do
    match ← fieldsOfWord io fuel w with
    | [] => argsOf io fuel rest
    | name :: more =>
      let args ← if declaring.contains (textOf name) then declarations io fuel rest
        else fieldsOf io fuel rest
      return name :: more ++ args

/-- Arguments of which those that are assignments are not cut. -/
def declarations (io : Surroundings) : (fuel : Nat) → List Word → Sh (List Bytes)
  | 0, _ => neverEnds
  | _ + 1, [] => return []
  | fuel + 1, w :: rest => do
    let here ← match assignment? w with
      | some (name, value) => do pure [bytesOf (name ++ "=") ++ (← joined io fuel value)]
      | none => fieldsOfWord io fuel w
    return here ++ (← declarations io fuel rest)

end

/-- More steps than any script takes that comes to rest. -/
def stepLimit : Nat := 100000

end Sh

end LanguageClient.Shell
