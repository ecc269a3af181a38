import LanguageClient.Rehearsal.Shell.Tree

/-!
# Words of shell scripts

A word goes on until a character that cannot be part of it, but quotes, backslashes, dollar signs and
backquotes begin pieces that have their own ends.  A piece that has no end makes the script
unreadable; `Misreading` says how.
-/

namespace LanguageClient.Shell

/-- Why a text is no script. -/
inductive Misreading
  | unterminatedString
  | endInBackquotes
  /-- An expression in braces or double parentheses has no end. -/
  | missing (closing : String)
  | unexpected (token : String) (expecting : Option String)
  | badFunctionName
  | badLoopVariable
  deriving DecidableEq, Inhabited, Repr

namespace Misreading

def quote (s : String) : String := "\"" ++ s ++ "\""

def message : Misreading → String
  | unterminatedString => "Unterminated quoted string"
  | endInBackquotes => "EOF in backquote substitution"
  | missing closing => "Missing '" ++ closing ++ "'"
  | unexpected token none => token ++ " unexpected"
  | unexpected token (some name) => token ++ " unexpected (expecting " ++ quote name ++ ")"
  | badFunctionName => "Bad function name"
  | badLoopVariable => "Bad for loop variable"

end Misreading

/-- A misreading and what was left of the text there. -/
structure Misread where
  cause : Misreading
  left : List Char

/-! ## Characters -/

def isNameStart (c : Char) : Bool := c.isAlpha || c = '_'

def isNameChar (c : Char) : Bool := c.isAlphanum || c = '_'

def isName (cs : List Char) : Bool := cs.head?.any isNameStart && cs.all isNameChar

/-- Characters that end a word. -/
def isMeta (c : Char) : Bool := [' ', '\t', '\n', ';', '&', '|', '<', '>', '(', ')'].contains c

/-- Parameters whose name is one character. -/
def isSpecial (c : Char) : Bool := c.isDigit || ['@', '*', '#', '?', '$', '!', '-'].contains c

/-! ## Pieces -/

/-- The text up to a closing character that is not quoted, with nested pairs inside it. -/
def balanced (opening closing : Char) : (depth : Nat) → List Char → Option (List Char × List Char)
  | _, [] => none
  | depth, '\\' :: c :: rest =>
    (balanced opening closing depth rest).map fun (a, b) => ('\\' :: c :: a, b)
  | depth, '\'' :: rest =>
    -- A quoted part is looked through as a whole.
    match rest.span (· ≠ '\'') with
    | (_, []) => none
    | (q, _ :: after) =>
      if _h : after.length < rest.length + 1 then
        (balanced opening closing depth after).map fun (a, b) => ('\'' :: q ++ '\'' :: a, b)
      else none
  | depth, c :: rest =>
    if c = closing then
      match depth with
      | 0 => some ([], rest)
      | depth + 1 => (balanced opening closing depth rest).map fun (a, b) => (c :: a, b)
    else
      (balanced opening closing (if c = opening then depth + 1 else depth) rest).map
        fun (a, b) => (c :: a, b)
termination_by _ cs => cs.length

/-- The script up to a backquote; some characters lose the backslash before them. -/
def backquoted (inQuotes : Bool) : List Char → Option (List Char × List Char)
  | [] => none
  | '\x60' :: rest => some ([], rest)
  | '\\' :: c :: rest =>
    (backquoted inQuotes rest).map fun (a, b) =>
      (if ['$', '\x60', '\\'].contains c || (inQuotes && c = '"') then c :: a else '\\' :: c :: a, b)
  | c :: rest => (backquoted inQuotes rest).map fun (a, b) => (c :: a, b)

/-- What an expression in braces takes of which parameter. -/
def paramOf (body : List Char) : WordPart :=
  match body with
  | ['#'] => .param "#" .value
  | '#' :: name =>
    if isName name || name.all Char.isDigit || name.length = 1 then
      .param (String.ofList name) .length
    else .nonsense
  | _ =>
    let (name, rest) := match body with
      | c :: rest =>
        if isNameStart c then (body.takeWhile isNameChar, body.dropWhile isNameChar)
        else if c.isDigit then (body.takeWhile Char.isDigit, body.dropWhile Char.isDigit)
        else if isSpecial c then ([c], rest)
        else ([], rest)
      | [] => ([], [])
    let use : Option ParamUse := match rest with
      | [] => some .value
      | '%' :: '%' :: p => some (.strip true true p)
      | '%' :: p => some (.strip true false p)
      | '#' :: '#' :: p => some (.strip false true p)
      | '#' :: p => some (.strip false false p)
      | ':' :: '-' :: w => some (.fallback true w)
      | '-' :: w => some (.fallback false w)
      | ':' :: '=' :: w => some (.assign true w)
      | '=' :: w => some (.assign false w)
      | ':' :: '+' :: w => some (.instead true w)
      | '+' :: w => some (.instead false w)
      | ':' :: '?' :: w => some (.demand true w)
      | '?' :: w => some (.demand false w)
      | _ => none
    match name, use with
    | _ :: _, some use => .param (String.ofList name) use
    | _, _ => .nonsense

/-- The piece after a dollar sign. -/
def dollar (cs : List Char) : Except Misread (WordPart × List Char) :=
  match cs with
  | '(' :: '(' :: rest =>
    match balanced '(' ')' 0 rest with
    | some (expression, ')' :: rest) => .ok (.computed expression, rest)
    | some _ | none => .error ⟨.missing "))", []⟩
  | '(' :: rest =>
    match balanced '(' ')' 0 rest with
    | some (s, rest) => .ok (.output s false, rest)
    | none => .error ⟨.unexpected "end of file" (some ")"), []⟩
  | '\x7b' :: rest =>
    match balanced '\x7b' '\x7d' 0 rest with
    | some (body, rest) => .ok (paramOf body, rest)
    | none => .error ⟨.missing "\x7d", []⟩
  | c :: rest =>
    if isNameStart c then
      .ok (.param (String.ofList (cs.takeWhile isNameChar)) .value, cs.dropWhile isNameChar)
    else if isSpecial c then .ok (.param (String.ofList [c]) .value, rest)
    else .ok (.literal ['$'], cs)
  | [] => .ok (.literal ['$'], [])

/-- The piece after a backquote. -/
def backquote (inQuotes : Bool) (cs : List Char) : Except Misread (WordPart × List Char) :=
  match backquoted inQuotes cs with
  | some (s, rest) => .ok (.output s true, rest)
  | none => .error ⟨.endInBackquotes, []⟩

/-! ## Words -/

/-- Puts a piece in front of others, joined with the first one if both are plain text alike. -/
def consPiece (part : WordPart) (quoted : Bool) (w : Word) : Word :=
  match part, w with
  | .literal a, ⟨.literal b, q⟩ :: rest =>
    if q = quoted then ⟨.literal (a ++ b), q⟩ :: rest else ⟨part, quoted⟩ :: w
  | _, _ => ⟨part, quoted⟩ :: w

/-- In what a text stands whose characters are quoted but for dollar signs and the like. -/
inductive QuotedIn
  /-- In double quotes, up to the closing one. -/
  | string
  /-- In a document, up to its end. -/
  | document
  /-- In braces in double quotes, up to its end. -/
  | braces
  deriving DecidableEq, Repr

/-- The rest of a quoted text. -/
def quotedPieces (within : QuotedIn) : (fuel : Nat) → List Char → Except Misread (Word × List Char)
  | 0, cs => .error ⟨.unterminatedString, cs⟩
  | fuel + 1, cs =>
    let put (part : WordPart) (rest : List Char) : Except Misread (Word × List Char) :=
      (quotedPieces within fuel rest).map fun (w, rest) => (consPiece part true w, rest)
    match cs with
    | [] => if within = .string then .error ⟨.unterminatedString, []⟩ else .ok ([], [])
    | '\\' :: '\n' :: rest => quotedPieces within fuel rest
    | '\\' :: c :: rest =>
      if ['$', '\x60', '\\'].contains c || (c = '"' && within ≠ .document) then put (.literal [c]) rest
      else put (.literal ['\\', c]) rest
    | '$' :: rest => (dollar rest).bind fun (part, rest) => put part rest
    | '\x60' :: rest =>
      (backquote (within ≠ .document) rest).bind fun (part, rest) => put part rest
    | c :: rest =>
      if c = '"' && within = .string then .ok ([], rest)
      else if c = '"' && within = .braces then quotedPieces within fuel rest
      else put (.literal [c]) rest

/-- A word, up to a character that ends it; with `inBraces` nothing ends it but the end. -/
def word (inBraces : Bool) : (fuel : Nat) → List Char → Except Misread (Word × List Char)
  | 0, cs => .error ⟨.unterminatedString, cs⟩
  | fuel + 1, cs =>
    let put (part : WordPart) (quoted : Bool) (rest : List Char) : Except Misread (Word × List Char) :=
      (word inBraces fuel rest).map fun (w, rest) => (consPiece part quoted w, rest)
    match cs with
    | [] => .ok ([], [])
    | '\\' :: '\n' :: rest => word inBraces fuel rest
    | '\\' :: c :: rest => put (.literal [c]) true rest
    | '\'' :: rest =>
      match rest.span (· ≠ '\'') with
      | (_, []) => .error ⟨.unterminatedString, []⟩
      | (q, _ :: rest) => put (.literal q) true rest
    | '"' :: rest => do
      let (q, rest) ← quotedPieces .string fuel rest
      let (w, rest) ← word inBraces fuel rest
      -- A quoted nothing is a word all the same.
      return ((if q.isEmpty then Word.ofText [] else q) ++ w, rest)
    | '$' :: rest => (dollar rest).bind fun (part, rest) => put part false rest
    | '\x60' :: rest => (backquote false rest).bind fun (part, rest) => put part false rest
    | c :: rest =>
      if isMeta c && !inBraces then .ok ([], cs) else put (.literal [c]) false rest

/-- The word that a whole text is, which stands in braces that may be quoted. -/
def wordOf (quoted : Bool) (cs : List Char) : Word :=
  let reading := if quoted then quotedPieces .braces (cs.length + 1) cs
    else word true (cs.length + 1) cs
  match reading with
  | .ok (w, _) => w
  | .error _ => []

/-- The text of an expression as a word. -/
def expressionOf (cs : List Char) : Word := wordOf true cs

end LanguageClient.Shell
