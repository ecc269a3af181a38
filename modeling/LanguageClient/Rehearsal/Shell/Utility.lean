import LanguageClient.Rehearsal.Shell.Condition
import LanguageClient.Rehearsal.Shell.Expression
import LanguageClient.Rehearsal.Shell.Format
import LanguageClient.Rehearsal.Shell.State

/-!
# Programs of the system

The small programs that scripts use and that are no part of the shell.  `utility?` says what one of
them does with its arguments, on the descriptors that it is given.  A program that writes only when it
is done shows nothing before its input has ended.
-/

namespace LanguageClient.Shell

/-! ## Exchange of bytes

A set of bytes is written with ranges and classes, in an order that tells which byte of another set is
put in the place of each. -/

/-- The bytes of a set, with its ranges and classes written out. -/
def byteSet (b : Bytes) : Bytes :=
  let bytesIn (ranges : List (UInt8 × UInt8)) : Bytes := ranges.flatMap fun (a, z) =>
    (List.range (z.toNat + 1 - a.toNat)).map fun i => UInt8.ofNat (a.toNat + i)
  let text := (textOf b).toList
  match text with
  | '[' :: ':' :: rest =>
    let name := rest.takeWhile (· ≠ ':')
    if rest.drop name.length = [':', ']'] then bytesIn ((Pattern.classRanges name).mergeSort (·.1 ≤ ·.1))
    else bytesIn (Pattern.ranges b)
  | _ => bytesIn (Pattern.ranges (unescape false b).1)

/-- Replaces each byte of one set by the byte at its place in another, whose last byte goes on. -/
def exchange (source target text : Bytes) : Bytes :=
  let target := byteSet target
  let table := (byteSet source).zipIdx
  text.map fun b =>
    match table.find? (·.1 = b) with
    | some (_, i) => (target[i]?.or target.getLast?).getD b
    | none => b

/-- Leaves out bytes of a set that repeat the one before. -/
def squeeze (set : Bytes) : Bytes → Bytes
  | a :: b :: rest =>
    if a = b && set.contains a then squeeze set (b :: rest) else a :: squeeze set (b :: rest)
  | text => text

namespace Sh

/-! ## What programs do -/

/-- Why a file cannot be used, in the words of the programs. -/
def reason : IoError → String
  | .system e => e.reason
  | .raised _ message => message

/-- Says in the name of a program what is wrong. -/
def blame (tool text : String) (status : Nat := 1) : Sh Unit := do
  say (tool ++ ": " ++ text)
  setStatus status

/-- Writes what a program has to say. -/
def put (tool : String) (bytes : Bytes) : Sh Unit := do
  unless bytes.isEmpty do
    unless ← emit 1 bytes do blame tool "write error: Bad file descriptor"

def putLine (tool text : String) : Sh Unit := put tool (bytesOf (text ++ "\n"))

/-! ## Files -/

/-- A path that leads to something other than a file. -/
def device? (path : String) : Option (Sh Port) :=
  let descriptor (n : Nat) : Option (Sh Port) :=
    some do return ((← get).ports.get? n).getD .nowhere
  match path with
  | "/dev/null" => some (return .nowhere)
  | "/dev/zero" => some do return .buffer (← newBuffer { again := [0], blocked := some (.sleeps never) })
  | "/dev/stdin" | "/dev/fd/0" | "-" => descriptor 0
  | "/dev/stdout" | "/dev/fd/1" => descriptor 1
  | "/dev/stderr" | "/dev/fd/2" => descriptor 2
  | _ => none

/-- Does something with the files that are named, or else with the input. -/
def inputs (tool : String) (paths : List String) (k : Port → Sh Unit) : Sh Unit := do
  setStatus 0
  if paths.isEmpty then k (← inputPort)
  for path in paths do
    match device? path with
    | some port => k (← port)
    | none =>
      let s ← get
      match s.files.read s.cwd path with
      | .ok bytes =>
        let n ← newBuffer { bytes }
        k (.buffer n)
        dropBuffer n
      | .error e => blame tool (path ++ ": " ++ reason e)

/-- Changes the files for each of some paths; one that cannot be changed is complained about. -/
def eachFile (tool : String) (paths : List String) (trouble : String → String)
    (f : FileTree → Place → String → Except IoError FileTree) : Sh Unit := do
  setStatus 0
  for path in paths do
    let s ← get
    match f s.files s.cwd path with
    | .ok files => set { s with files }
    | .error e => blame tool (trouble path ++ ": " ++ reason e)

/-! ## Options -/

def isOption (a : String) : Bool := a.startsWith "-" && a ≠ "-"

/-- Whether one of the options has a letter. -/
def hasOption (args : List String) (c : Char) : Bool := args.any fun a => isOption a && a.contains c

/-- A part of some input: so many lines or bytes. -/
structure Extent where
  inBytes : Bool := false
  count : Nat := 10
  /-- From there on, rather than so many. -/
  onward : Bool := false

/-- Reads a count. -/
def Extent.counted (e : Extent) (text : String) : Extent :=
  { e with
    count := ((text.toList.filter Char.isDigit).foldl (fun n d => n * 10 + (d.toNat - '0'.toNat)) 0)
    onward := text.contains '+' }

/-- What of the input is wanted, and from which files. -/
def extent : Extent → List String → Extent × List String
  | e, [] => (e, [])
  | e, "-n" :: count :: rest => extent ({ e with inBytes := false }.counted count) rest
  | e, "-c" :: count :: rest => extent ({ e with inBytes := true }.counted count) rest
  | e, a :: rest =>
    if isOption a then extent ({ e with inBytes := a.startsWith "-c" }.counted a) rest
    else
      let (e, paths) := extent e rest
      (e, a :: paths)

/-- The first lines that are read. -/
def firstLines (port : Port) : (n : Nat) → Sh Bytes
  | 0 => return []
  | n + 1 => do
    let (line, ended) ← readLine port
    if ended then return line ++ newline :: (← firstLines port n) else return line

/-- The lines of some files or else of the input, without their ends, unless one cannot be read. -/
def linesFrom (tool : String) (paths : List String) : Sh (Option (List Bytes)) := do
  let s ← get
  match paths.mapM fun path => (s.files.read s.cwd path).mapError fun e => (path, e) with
  | .ok [] => return some ((linesOf (← readAll (← inputPort))).map trimLines)
  | .ok contents => return some ((contents.flatMap linesOf).map trimLines)
  | .error (path, e) =>
    blame tool (path ++ ": " ++ reason e) 2
    return none

/-- The milliseconds in a time with decimals and perhaps a unit. -/
def milliseconds (text : String) : Nat :=
  if text = "infinity" || text = "inf" then never
  else
    let cs := text.toList
    let whole := (String.ofList (cs.takeWhile Char.isDigit)).toNat?.getD 0
    let rest := cs.dropWhile Char.isDigit
    let decimals := match rest with
      | '.' :: ds => ds.takeWhile Char.isDigit
      | _ => []
    let fraction := (decimals ++ ['0', '0', '0']).take 3
    let unit := match cs.getLast? with
      | some 'm' => 60
      | some 'h' => 3600
      | some 'd' => 86400
      | _ => 1
    (whole * 1000 + (String.ofList fraction).toNat?.getD 0) * unit

/-- One of the settings of `dd`. -/
def setting? (args : List String) (name : String) : Option String :=
  args.findSome? fun a => (name.toList.isPrefixOf? a.toList).map String.ofList

def numberSetting (args : List String) (name : String) (default : Nat) : Nat :=
  ((setting? args name).bind (·.toNat?)).getD default

/-- The names in a directory, sorted, each on a line. -/
def listing (all : Bool) (names : List String) : Bytes :=
  let names := if all then "." :: ".." :: names else names.filter (!·.startsWith ".")
  bytesOf (String.join ((names.mergeSort (· ≤ ·)).map (· ++ "\n")))

/-- The value of an option that takes one, and the other arguments. -/
def optionValue (c : Char) : List String → Option String × List String
  | [] => (none, [])
  | a :: rest =>
    let (found, others) := optionValue c rest
    match a.toList with
    | '-' :: letter :: value =>
      if letter ≠ c then (found, a :: others)
      else
        match value, rest with
        | [], value :: rest => (some value, (optionValue c rest).2)
        | _, _ => (some (String.ofList value), others)
    | _ => (found, a :: others)

/-- Whether a list of numbers and ranges as `1,3-5` has a number in it. -/
def selects (list : String) (n : Nat) : Bool :=
  (list.splitOn ",").any fun item =>
    match item.splitOn "-" with
    | [a] => a.toNat? = some n
    | [a, b] => a.toNat?.getD 1 ≤ n && (b.isEmpty || n ≤ b.toNat?.getD 0)
    | _ => false

/-- The parts of a line that a list selects, joined by what separates them. -/
def cutLine (delimiter list line : String) : String :=
  match line.splitOn delimiter with
  | [_] => line
  | parts => delimiter.intercalate ((parts.zipIdx.filter fun (_, i) => selects list (i + 1)).map (·.1))

/-- Leaves out lines that are equal to the one before. -/
def withoutRepeats : List Bytes → List Bytes
  | a :: b :: rest => if a = b then withoutRepeats (b :: rest) else a :: withoutRepeats (b :: rest)
  | lines => lines

/-- The last name of a path, without an ending. -/
def baseName (path ending : String) : String :=
  let cs := (path.toList.reverse.dropWhile (· = '/')).reverse
  let name := (cs.reverse.takeWhile (· ≠ '/')).reverse
  if cs.isEmpty then "/"
  else
    let cut := name.take (name.length - ending.length)
    String.ofList (if !cut.isEmpty && cut ++ ending.toList = name then cut else name)

/-- The path before the last name. -/
def dirName (path : String) : String :=
  let trim (cs : List Char) : List Char := cs.dropWhile (· = '/')
  let rest := (trim path.toList.reverse).dropWhile (· ≠ '/')
  match rest, trim rest with
  | [], _ => "."
  | _, [] => "/"
  | _, cs => String.ofList cs.reverse

/-- Where a file is put that goes to a path: into it if it is a directory. -/
def destination (files : FileTree) (cwd : Place) (source target : String) : String :=
  match files.find cwd target with
  | .ok (_, .directory) => target ++ "/" ++ baseName source ""
  | _ => target

/-- Runs a program of the system; there is no answer if there is none of the name. -/
def utility? (tool : String) (args : List Bytes) : Option (Sh Unit) :=
  let texts := args.map textOf
  let has (c : Char) : Bool := hasOption texts c
  let operands := texts.filter (!isOption ·)
  let check (b : Bool) : Sh Unit := setStatus (if b then 0 else 1)
  let out (b : Bytes) : Sh Unit := do setStatus 0; put tool b
  let missing : Sh Unit := blame tool "missing operand"
  match tool with
  | "true" | "sync" => some (setStatus 0)
  | "false" => some (setStatus 1)
  | "echo" => some (out (systemEcho args))
  | "printf" => some do
      let f := format (args.headD []) args.tail
      out f.text
      for text in f.wrong do blame tool text
  | "cat" => some (inputs tool operands fun port => do
      unless ← copy port 1 do blame tool "write error: Bad file descriptor")
  | "yes" => some (emitAgain 1 ((if args.isEmpty then [0x79] else joinWith [0x20] args) ++ [newline]))
  | "tr" => some do
      let bytes ← readAll (← inputPort)
      match args.filter fun a => !isOption (textOf a) with
      | [a, b] =>
        if has 'd' then out (squeeze (byteSet b) (bytes.filter fun c => !(byteSet a).contains c))
        else
          let exchanged := exchange a b bytes
          out (if has 's' then squeeze (byteSet b) exchanged else exchanged)
      | [a] =>
        let wanted (c : UInt8) : Bool := (byteSet a).contains c != (has 'c' || has 'C')
        if has 's' then out (squeeze (byteSet a) bytes) else out (bytes.filter (!wanted ·))
      | _ => missing
  | "test" => some do
      let s ← get
      match test s.files s.cwd args with
      | .ok b => check b
      | .error text => blame tool text 2
  | "dd" => some do
      let n := numberSetting texts "bs=" 512 * numberSetting texts "count=" 1
      inputs tool (setting? texts "if=").toList fun port => do
        let bytes ← readExactly port n
        put tool bytes
        say (toString bytes.length ++ " bytes copied")
  | "head" => some do
      let (e, paths) := extent {} texts
      inputs tool paths fun port => do
        put tool (← if e.inBytes then readExactly port e.count else firstLines port e.count)
  | "tail" => some do
      let (e, paths) := extent {} texts
      inputs tool paths fun port => do
        let bytes ← readAll port
        let lines := linesOf bytes
        let from_ (n : Nat) : Nat := if e.onward then e.count - 1 else n - e.count
        put tool (if e.inBytes then bytes.drop (from_ bytes.length)
          else (lines.drop (from_ lines.length)).flatten)
  | "sort" => some do
      if let some lines ← linesFrom tool operands then
        let value (l : Bytes) : Int := (numericArg l).1
        let sorted := lines.mergeSort fun a b =>
          if has 'n' && value a ≠ value b then value a < value b else textOf a ≤ textOf b
        let sorted := if has 'r' then sorted.reverse else sorted
        let sorted := if has 'u' then withoutRepeats sorted else sorted
        out (sorted.flatMap (· ++ [newline]))
  | "uniq" => some (inputs tool operands fun port => do
      let lines := (linesOf (← readAll port)).map trimLines
      put tool ((withoutRepeats lines).flatMap (· ++ [newline])))
  | "cut" => some do
      let (delimiter, rest) := optionValue 'd' texts
      let (fields, rest) := optionValue 'f' rest
      let (places, paths) := optionValue 'c' rest
      inputs tool paths fun port => do
        let lines := (linesOf (← readAll port)).map trimLines
        put tool (lines.flatMap fun line =>
          (match places with
            | some list => (line.zipIdx.filter fun (_, i) => selects list (i + 1)).map (·.1)
            | none => bytesOf (cutLine (delimiter.getD "\t") (fields.getD "") (textOf line))) ++ [newline])
  | "grep" => some do
      let pattern := (args.filter fun a => !isOption (textOf a)).headD []
      let fold (b : Bytes) : Bytes := if has 'i' then bytesOf (textOf b).toLower else b
      if let some lines ← linesFrom tool (operands.drop 1) then
        let expression : Expression :=
          if has 'F' then { items := (fold pattern).map fun b => ⟨.byte b, false⟩ }
          else .read (fold pattern)
        let fits (l : Bytes) : Bool := expression.isIn (fold l)
        let found := lines.filter fun l => fits l != has 'v'
        check (!found.isEmpty)
        if has 'c' then putLine tool (toString found.length)
        else unless has 'q' do put tool (found.flatMap (· ++ [newline]))
  | "tee" => some do
      let (append, paths) := (has 'a', operands)
      unless append do eachFile tool paths id fun t cwd path => t.write cwd path []
      let bytes ← ahead (← inputPort)
      let _ ← copy (← inputPort) 1
      eachFile tool paths id fun t cwd path => do
        t.write cwd path ((t.read cwd path).toOption.getD [] ++ bytes)
  | "wc" => some (inputs tool operands fun port => do
      let bytes ← readAll port
      let counts := [('l', bytes.count newline), ('w', (wordsOf bytes).length), ('c', bytes.length)]
      let wanted := counts.filter fun (c, _) => has c
      let numbers := (if wanted.isEmpty then counts else wanted).map fun (_, n) => toString n
      let width := if numbers.length = 1 then 0 else 7
      let padded := numbers.map fun n => String.ofList (List.replicate (width - n.length) ' ') ++ n
      putLine tool (" ".intercalate (padded ++ operands.head?.toList)))
  | "seq" => some (match args.map fun a => (int? a).getD 0 with
      | [last] => out (countUp 1 1 last)
      | [first, last] => out (countUp first 1 last)
      | [first, step, last] => out (countUp first step last)
      | _ => missing)
  | "printenv" => some do
      let s ← get
      match texts.filter (s.exported.contains ·) |>.filterMap s.vars.get? with
      | [] => check false
      | values => out (values.flatMap (· ++ [newline]))
  | "sleep" => some do
      waitUntil ((← get).clock + (operands.map milliseconds).foldl (· + ·) 0)
      setStatus 0
  | "pwd" => some do out (bytesOf (Path.absolute (← get).cwd ++ "\n"))
  | "basename" => some (match operands with
      | [] => missing
      | path :: rest => putLine tool (baseName path (rest.headD "")) *> setStatus 0)
  | "dirname" => some (match operands with
      | [] => missing
      | paths => do setStatus 0; for path in paths do putLine tool (dirName path))
  | "ls" => some do
      setStatus 0
      for path in if operands.isEmpty then ["."] else operands do
        let s ← get
        match s.files.find s.cwd path with
        | .ok (p, .directory) =>
          if has 'd' then putLine tool path
          else put tool (listing (has 'a') (s.files.names p))
        | .ok _ => putLine tool path
        | .error e => blame tool ("cannot access '" ++ path ++ "': " ++ reason e) 2
  | "mkdir" => some (eachFile tool operands (fun path => "cannot create directory '" ++ path ++ "'")
      fun t cwd path => do
        if has 'p' then t.makePath cwd path
        else
          let p ← t.resolve cwd path
          if (t.node? p).isSome then .error (.system .alreadyExists)
          else .ok (t.set p .directory))
  | "rmdir" => some (eachFile tool operands (fun path => "failed to remove '" ++ path ++ "'")
      fun t cwd path => do
        match ← t.find cwd path with
        | (_, .file _ _) => .error (.system .notADirectory)
        | (p, .directory) =>
          if (t.names p).isEmpty then .ok (t.removeTree p) else .error (.system .directoryNotEmpty))
  | "touch" => some (eachFile tool operands (fun path => "cannot touch '" ++ path ++ "'")
      fun t cwd path => if t.exists? cwd path then .ok t else t.write cwd path [])
  | "rm" => some (eachFile tool operands (fun path => "cannot remove '" ++ path ++ "'")
      fun t cwd path =>
        match t.find cwd path with
        | .ok (p, .directory) =>
          if has 'r' || has 'R' then .ok (t.removeTree p) else .error (.system .isADirectory)
        | .ok (p, _) => .ok (t.removeTree p)
        | .error e => if has 'f' then .ok t else .error e)
  | "cp" | "mv" => some (match operands.getLast?, operands.dropLast with
      | some target, path :: paths =>
        eachFile tool (path :: paths) (fun path => "cannot stat '" ++ path ++ "'") fun t cwd path => do
          let (p, node) ← t.find cwd path
          let q ← t.resolve cwd (destination t cwd path target)
          let t := if tool = "mv" then t.removeTree p else t
          return t.set q node
      | _, _ => missing)
  | "chmod" => some (eachFile tool (operands.drop 1) (fun path => "cannot access '" ++ path ++ "'")
      fun t cwd path => do
        match ← t.find cwd path with
        | (p, .file content executable) =>
          let mode := texts.headD ""
          let executable := if mode.contains 'x' then mode.contains '+'
            else if mode.all Char.isDigit then mode.any fun c => ['1', '3', '5', '7'].contains c
            else executable
          return t.set p (.file content executable)
        | _ => return t)
  | _ => none

/-- The directories of the programs of the system. -/
def systemDirectories : List String := ["/bin/", "/usr/bin/"]

/-- The name of a program of the system that has a path. -/
def systemName? (path : String) : Option String :=
  systemDirectories.findSome? fun dir => (dir.toList.isPrefixOf? path.toList).map String.ofList

def shells : List String := ["sh", "dash", "bash"]

/-- Whether a path is that of a program of the system. -/
def isSystemTool (path : String) : Bool :=
  (systemName? path).any fun name =>
    shells.contains name || name = "env" || name = "[" || name = "kill" || (utility? name []).isSome

end Sh

end LanguageClient.Shell
