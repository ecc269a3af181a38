import LanguageClient.Rehearsal.Shell.Lexis

/-!
# Reading shell scripts

A script is read command by command: blanks separate words, a line end or a semicolon ends a command,
and a few words in the place of a command begin or end a compound one.  `nextLine` reads the commands
of one line, so that a script runs up to the line that cannot be read.

The documents that a line asks for stand below it.  Each is taken out of the text when the request for
it has been read, so that the rest of the line is followed by the line after the document.
-/

namespace LanguageClient.Shell

/-! ## Blanks and tokens -/

/-- Passes over blanks, comments and continued lines. -/
def skipBlanks : List Char → List Char
  | ' ' :: rest => skipBlanks rest
  | '\t' :: rest => skipBlanks rest
  | '\\' :: '\n' :: rest => skipBlanks rest
  | '#' :: rest => rest.dropWhile (· ≠ '\n')
  | cs => cs

/-- Passes over blanks and line ends. -/
def skipLines : (fuel : Nat) → List Char → List Char
  | 0, cs => cs
  | fuel + 1, cs =>
    match skipBlanks cs with
    | '\n' :: rest => skipLines fuel rest
    | cs => cs

def pastLines (cs : List Char) : List Char := skipLines (cs.length + 1) cs

/-- Words with a meaning of their own in the place of a command. -/
def reserved : List String :=
  ["!", "\x7b", "\x7d", "case", "do", "done", "elif", "else", "esac", "fi", "for", "if", "in", "then",
    "until", "while"]

/-- Words that end what stands before them. -/
def closers : List String := ["then", "do", "done", "fi", "else", "elif", "esac", "\x7d"]

/-- The plain word in front. -/
def leadingWord (cs : List Char) : Option (String × List Char) :=
  match word false (cs.length + 1) cs with
  | .ok (w, rest) => w.plain?.map fun name => (name, rest)
  | .error _ => none

/-- How the token in front is called. -/
def tokenText (cs : List Char) (inCommand : Bool := true) : String :=
  match skipBlanks cs with
  | [] => "end of file"
  | '\n' :: _ => "newline"
  | ';' :: ';' :: _ => "\";;\""
  | ';' :: _ => "\";\""
  | '&' :: '&' :: _ => "\"&&\""
  | '&' :: _ => "\"&\""
  | '|' :: '|' :: _ => "\"||\""
  | '|' :: _ => "\"|\""
  | '(' :: _ => "\"(\""
  | ')' :: _ => "\")\""
  | '<' :: _ => "redirection"
  | '>' :: _ => "redirection"
  | cs =>
    match leadingWord cs with
    | some (w, _) => if reserved.contains w && inCommand then Misreading.quote w else "word"
    | none => "word"

def unexpected {α : Type} (cs : List Char) (expecting : Option String := none) : Except Misread α :=
  .error ⟨.unexpected (tokenText cs) expecting, skipBlanks cs⟩

/-- Whether a list of commands ends here. -/
def atEnd (cs : List Char) : Bool :=
  match cs with
  | [] => true
  | ')' :: _ => true
  | ';' :: ';' :: _ => true
  | _ => (leadingWord cs).any fun (w, _) => closers.contains w

/-- Passes over a word that has to come. -/
def expect (name : String) (cs : List Char) : Except Misread (List Char) :=
  let cs := pastLines cs
  match leadingWord cs with
  | some (w, rest) => if w = name then .ok rest else unexpected cs name
  | none => unexpected cs name

/-- The next word, which has to be there. -/
def neededWord (cs : List Char) (expecting : Option String := none) : Except Misread (Word × List Char) :=
  match skipBlanks cs with
  | [] => unexpected cs expecting
  | c :: rest =>
    if isMeta c then unexpected cs expecting else word false (rest.length + 2) (c :: rest)

/-! ## Documents -/

/-- The rest of a line with its end, and what is below it.  A line end in quotes does not end the
line. -/
def lineAndBelow : (fuel : Nat) → List Char → List Char × List Char
  | 0, cs => ([], cs)
  | _ + 1, [] => ([], [])
  | _ + 1, '\n' :: rest => (['\n'], rest)
  | fuel + 1, '\\' :: c :: rest =>
    let (line, below) := lineAndBelow fuel rest
    ('\\' :: c :: line, below)
  | fuel + 1, c :: rest =>
    let inside := if c = '\'' || c = '"' then rest.takeWhile (· ≠ c) else []
    let after := rest.drop inside.length
    let (line, below) := lineAndBelow fuel after
    (c :: inside ++ line, below)

/-- The lines up to one that is the delimiter, and what is below it. -/
def takeDocument (strip : Bool) (delimiter : List Char) :
    (fuel : Nat) → List Char → List Char × List Char
  | 0, cs => ([], cs)
  | _ + 1, [] => ([], [])
  | fuel + 1, c :: cs =>
    let text := if strip then (c :: cs).dropWhile (· = '\t') else c :: cs
    let line := text.takeWhile (· ≠ '\n')
    let below := (text.dropWhile (· ≠ '\n')).drop 1
    if line = delimiter then ([], below)
    else
      let (more, below) := takeDocument strip delimiter fuel below
      (text.take (line.length + 1) ++ more, below)

/-- The characters of a word without its quotes. -/
def plainText (w : Word) : List Char :=
  w.flatMap fun p => match p.part with
    | .literal text => text
    | .param name _ => '$' :: name.toList
    | _ => []

/-- A request for a document: its delimiter stands in front. -/
def document (descriptor : Nat) (strip : Bool) (cs : List Char) : Except Misread (Redirect × List Char) := do
  let (w, rest) ← neededWord cs
  let (line, below) := lineAndBelow (rest.length + 1) rest
  let (text, below) := takeDocument strip (plainText w) (below.length + 1) below
  let body ←
    if w.any (·.quoted) then .ok (Word.ofText text)
    else (quotedPieces .document (text.length + 1) text).map (·.1)
  return (⟨descriptor, .document, body⟩, line ++ below)

/-! ## Redirections -/

/-- A redirection, if one stands in front. -/
def redirect? (cs : List Char) : Option (Except Misread (Redirect × List Char)) :=
  let digits := cs.takeWhile Char.isDigit
  let number (default : Nat) : Nat := match digits with
    | d :: _ => d.toNat - '0'.toNat
    | [] => default
  let target (descriptor : Nat) (kind : RedirectKind) (rest : List Char) : Except Misread (Redirect × List Char) :=
    (neededWord rest).map fun (w, rest) => (⟨descriptor, kind, w⟩, rest)
  match if digits.length ≤ 1 then cs.drop digits.length else [] with
  | '>' :: '>' :: rest => some (target (number 1) .append rest)
  | '>' :: '&' :: rest => some (target (number 1) .duplicate rest)
  | '>' :: '|' :: rest => some (target (number 1) .write rest)
  | '>' :: rest => some (target (number 1) .write rest)
  | '<' :: '<' :: '-' :: rest => some (document (number 0) true rest)
  | '<' :: '<' :: rest => some (document (number 0) false rest)
  | '<' :: '&' :: rest => some (target (number 0) .duplicate rest)
  | '<' :: '>' :: rest => some (target (number 0) .read rest)
  | '<' :: rest => some (target (number 0) .read rest)
  | _ => none

/-- The redirections in front. -/
def redirects : (fuel : Nat) → List Char → Except Misread (List Redirect × List Char)
  | 0, cs => .ok ([], cs)
  | fuel + 1, cs =>
    match redirect? (skipBlanks cs) with
    | some reading => do
      let (r, rest) ← reading
      let (more, rest) ← redirects fuel rest
      return (r :: more, rest)
    | none => .ok ([], cs)

/-! ## Commands -/

/-- What a word assigns, if it is an assignment. -/
def assignment? : Word → Option (String × Word)
  | ⟨.literal text, false⟩ :: rest =>
    let name := text.takeWhile isNameChar
    match text.dropWhile isNameChar with
    | '=' :: value =>
      if isName name then
        some (String.ofList name,
          if value.isEmpty then rest else ⟨.literal value, false⟩ :: rest)
      else none
    | _ => none
  | _ => none

/-- A command without structure: assignments, words and redirections. -/
def simpleCommand (line : Nat) (assigns : List (String × Word)) (words : List Word)
    (rs : List Redirect) : (fuel : Nat) → List Char → Except Misread (Script × List Char)
  | 0, cs => unexpected cs
  | fuel + 1, cs =>
    let cs := skipBlanks cs
    let ends : Except Misread (Script × List Char) :=
      if assigns.isEmpty && words.isEmpty && rs.isEmpty then unexpected cs
      else .ok (.simple line assigns words rs, cs)
    match redirect? cs with
    | some reading => do
      let (r, rest) ← reading
      simpleCommand line assigns words (rs ++ [r]) fuel rest
    | none =>
      match cs with
      | [] => ends
      | c :: _ =>
        if c = '(' then unexpected cs
        else if isMeta c then ends
        else do
          let (w, rest) ← word false (cs.length + 1) cs
          match words.isEmpty, assignment? w with
          | true, some a => simpleCommand line (assigns ++ [a]) words rs fuel rest
          | _, _ => simpleCommand line assigns (words ++ [w]) rs fuel rest

/-- Words up to the end of the line. -/
def wordsToEnd : (fuel : Nat) → List Char → Except Misread (List Word × List Char)
  | 0, cs => unexpected cs
  | fuel + 1, cs =>
    match skipBlanks cs with
    | [] => .ok ([], [])
    | '\n' :: rest => .ok ([], '\n' :: rest)
    | ';' :: rest => .ok ([], rest)
    | cs => do
      let (w, rest) ← neededWord cs
      let (ws, rest) ← wordsToEnd fuel rest
      return (w :: ws, rest)

/-- The patterns of an arm, up to the parenthesis. -/
def armPatterns : (fuel : Nat) → List Char → Except Misread (List Word × List Char)
  | 0, cs => unexpected cs
  | fuel + 1, cs => do
    let (w, rest) ← neededWord cs (some ")")
    match skipBlanks rest with
    | '|' :: rest =>
      let (ws, rest) ← armPatterns fuel rest
      return (w :: ws, rest)
    | ')' :: rest => return ([w], rest)
    | rest => unexpected rest ")"

/-- How many line ends a text has. -/
def lineEnds (cs : List Char) : Nat := cs.count '\n'

section

-- The number of line ends of the whole script, from which the lines of commands are counted.
variable (total : Nat)

mutual

/-- One command, with what belongs to it. -/
def command : (fuel : Nat) → List Char → Except Misread (Script × List Char)
  | 0, cs => unexpected cs
  | fuel + 1, cs =>
    let cs := skipBlanks cs
    let redirected (make : List Redirect → Script) (rest : List Char) : Except Misread (Script × List Char) :=
      (redirects (rest.length + 1) rest).map fun (rs, rest) => (make rs, rest)
    let here := total - lineEnds cs + 1
    let simple : Except Misread (Script × List Char) :=
      simpleCommand here [] [] [] (cs.length + 1) cs
    match cs with
    | '(' :: rest => do
      let (body, rest) ← list false fuel rest
      match pastLines rest with
      | ')' :: rest => redirected (.subshell here body) rest
      | rest => unexpected rest ")"
    | _ =>
      match leadingWord cs with
      | some ("\x7b", rest) => do
        let (body, rest) ← list false fuel rest
        redirected (.grouped here body) (← expect "\x7d" rest)
      | some ("if", rest) => do
        let (s, rest) ← branches fuel rest
        redirected (.grouped here s) rest
      | some ("while", rest) => do
        let (s, rest) ← repeated true fuel rest
        redirected (.grouped here s) rest
      | some ("until", rest) => do
        let (s, rest) ← repeated false fuel rest
        redirected (.grouped here s) rest
      | some ("for", rest) => do
        let (w, rest) ← neededWord rest
        let name ← match w.plain? with
          | some name => if isName name.toList then .ok name else .error ⟨.badLoopVariable, rest⟩
          | none => .error ⟨.badLoopVariable, rest⟩
        let (ws, rest) ← match leadingWord (pastLines rest) with
          | some ("in", rest) => (wordsToEnd (rest.length + 1) rest).map fun (ws, r) => (some ws, r)
          | _ => .ok (none, match skipBlanks rest with
            | ';' :: rest => rest
            | rest => rest)
        let (body, rest) ← list false fuel (← expect "do" rest)
        redirected (.grouped here (.forEach name ws body)) (← expect "done" rest)
      | some ("case", rest) => do
        let (w, rest) ← neededWord rest
        let (as, rest) ← arms fuel (← expect "in" rest)
        redirected (.grouped here (.cases w as)) rest
      | some (name, rest) =>
        if reserved.contains name then unexpected cs
        else
          match skipBlanks rest with
          | '(' :: inside =>
            if (assignment? [⟨.literal name.toList, false⟩]).isSome then unexpected rest
            else
              match skipBlanks inside with
              | ')' :: rest =>
                if isName name.toList then
                  (command fuel (pastLines rest)).map fun (s, rest) => (.define name s, rest)
                else .error ⟨.badFunctionName, rest⟩
              | rest =>
                .error ⟨.unexpected (tokenText rest false) (some ")"), rest⟩
          | _ => simple
      | none => simple

/-- What follows `if`. -/
def branches : (fuel : Nat) → List Char → Except Misread (Script × List Char)
  | 0, cs => unexpected cs
  | fuel + 1, cs => do
    let (condition, rest) ← list false fuel cs
    let (yes, rest) ← list false fuel (← expect "then" rest)
    let rest := pastLines rest
    match leadingWord rest with
    | some ("elif", rest) =>
      let (no, rest) ← branches fuel rest
      return (.choose condition yes no, rest)
    | some ("else", rest) =>
      let (no, rest) ← list false fuel rest
      return (.choose condition yes no, ← expect "fi" rest)
    | _ => return (.choose condition yes .nothing, ← expect "fi" rest)

/-- What follows `while`. -/
def repeated (wanted : Bool) : (fuel : Nat) → List Char → Except Misread (Script × List Char)
  | 0, cs => unexpected cs
  | fuel + 1, cs => do
    let (condition, rest) ← list false fuel cs
    let (body, rest) ← list false fuel (← expect "do" rest)
    return (.loop wanted condition body, ← expect "done" rest)

/-- The arms of a case, up to its end. -/
def arms : (fuel : Nat) → List Char → Except Misread (List (List Word × Script) × List Char)
  | 0, cs => unexpected cs
  | fuel + 1, cs =>
    let cs := pastLines cs
    match leadingWord cs with
    | some ("esac", rest) => .ok ([], rest)
    | _ => do
      let (ps, rest) ← armPatterns fuel (match cs with
        | '(' :: rest => rest
        | cs => cs)
      let (body, rest) ← list true fuel rest
      match pastLines rest with
      | ';' :: ';' :: rest =>
        let (as, rest) ← arms fuel rest
        return ((ps, body) :: as, rest)
      | rest =>
        match leadingWord rest with
        | some ("esac", rest) => return ([(ps, body)], rest)
        | _ => unexpected rest ";;"

/-- Commands with pipes between them. -/
def pipeline : (fuel : Nat) → List Char → Except Misread (Script × List Char)
  | 0, cs => unexpected cs
  | fuel + 1, cs =>
    match leadingWord (skipBlanks cs) with
    | some ("!", rest) => (pipeline fuel rest).map fun (s, rest) => (.not s, rest)
    | _ => do
      let (a, rest) ← command fuel cs
      match skipBlanks rest with
      | '|' :: '|' :: rest => return (a, '|' :: '|' :: rest)
      | '|' :: rest =>
        let (b, rest) ← pipeline fuel (pastLines rest)
        return (.pipe a b, rest)
      | rest => return (a, rest)

/-- Pipelines joined by conditions, after what stands before them. -/
def chain : (fuel : Nat) → Script → List Char → Except Misread (Script × List Char)
  | 0, _, cs => unexpected cs
  | fuel + 1, before, cs =>
    match skipBlanks cs with
    | '&' :: '&' :: rest => do
      let (b, rest) ← pipeline fuel (pastLines rest)
      chain fuel (.andThen before b) rest
    | '|' :: '|' :: rest => do
      let (b, rest) ← pipeline fuel (pastLines rest)
      chain fuel (.orElse before b) rest
    | rest => .ok (before, rest)

/-- Commands one after another, up to something that ends them; there may have to be one. -/
def list (mayBeEmpty : Bool) : (fuel : Nat) → List Char → Except Misread (Script × List Char)
  | 0, cs => unexpected cs
  | fuel + 1, cs => do
    let cs := pastLines cs
    if (mayBeEmpty || cs.isEmpty) && atEnd cs then return (.nothing, cs)
    let (a, rest) ← pipeline fuel cs
    let (a, rest) ← chain fuel a rest
    match skipBlanks rest with
    | ';' :: ';' :: rest => return (a, ';' :: ';' :: rest)
    | ';' :: rest => (list true fuel rest).map fun (b, rest) => (.next a b, rest)
    | '\n' :: rest => (list true fuel rest).map fun (b, rest) => (.next a b, rest)
    | '&' :: rest => (list true fuel rest).map fun (b, rest) => (.next (.aside a) b, rest)
    | rest => return (a, rest)

end

/-- The commands of one line, up to its end. -/
def line : (fuel : Nat) → List Char → Except Misread (Script × List Char)
  | 0, cs => unexpected cs
  | fuel + 1, cs => do
    let (a, rest) ← pipeline total fuel cs
    let (a, rest) ← chain total fuel a rest
    let goOn (a : Script) (rest : List Char) : Except Misread (Script × List Char) :=
      match skipBlanks rest with
      | [] => .ok (a, [])
      | '\n' :: rest => .ok (a, rest)
      | rest => (line fuel rest).map fun (b, rest) => (.next a b, rest)
    match skipBlanks rest with
    | [] => return (a, [])
    | '\n' :: rest => return (a, rest)
    | ';' :: ';' :: _ => unexpected rest
    | ';' :: rest => goOn a rest
    | '&' :: rest => goOn (.aside a) rest
    | _ => unexpected rest

/-- The commands of the next line that has some, if there is one. -/
def nextLine (cs : List Char) : Except Misread (Option Script × List Char) :=
  match pastLines cs with
  | [] => .ok (none, [])
  | cs => (line total (4 * cs.length + 16) cs).map fun (s, rest) => (some s, rest)

end

end LanguageClient.Shell
