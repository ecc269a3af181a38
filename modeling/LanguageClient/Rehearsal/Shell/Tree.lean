/-!
# Shell scripts

The scripts that stand in for a server in a rehearsal are written in the language of the shell.  This
file holds what a script is once it has been read: commands made of words, and words made of pieces,
some of which are only known when the script runs.

A piece that is a script of its own, or a word inside of braces, is kept as its text and read when it
is needed.
-/

namespace LanguageClient.Shell

/-- What is taken of the value of a parameter. -/
inductive ParamUse
  | value
  | length
  /-- Without what a pattern matches at the front or at the end, the longest match or the shortest. -/
  | strip (atEnd longest : Bool) (pattern : List Char)
  /-- The value, or a word if there is none; with `orEmpty` also if it is empty. -/
  | fallback (orEmpty : Bool) (word : List Char)
  /-- The same, and the parameter keeps the word. -/
  | assign (orEmpty : Bool) (word : List Char)
  /-- The word if there is a value. -/
  | instead (orEmpty : Bool) (word : List Char)
  /-- The value; if there is none, the word is a complaint and everything ends. -/
  | demand (orEmpty : Bool) (word : List Char)
  deriving DecidableEq, Inhabited, Repr

inductive WordPart
  | literal (text : List Char)
  | param (name : String) (use : ParamUse)
  /-- The output of a script; its lines go on from those around it or are counted anew. -/
  | output (script : List Char) (anew : Bool)
  /-- The value of an arithmetic expression. -/
  | computed (expression : List Char)
  /-- An expression in braces that means nothing. -/
  | nonsense
  deriving DecidableEq, Inhabited, Repr

/-- A piece of a word; what is quoted is never split and means only itself in a pattern. -/
structure WordPiece where
  part : WordPart
  quoted : Bool
  deriving DecidableEq, Inhabited, Repr

abbrev Word := List WordPiece

namespace Word

/-- The text of a word that is nothing but plain characters. -/
def plain? : Word → Option String
  | [⟨.literal text, false⟩] => some (String.ofList text)
  | _ => none

/-- A word that stands for a text. -/
def ofText (text : List Char) : Word := [⟨.literal text, true⟩]

end Word

inductive RedirectKind
  | write | append | read
  /-- To where another descriptor leads. -/
  | duplicate
  /-- From a text of the script itself. -/
  | document
  deriving DecidableEq, Inhabited, Repr

/-- Where a descriptor of a command leads. -/
structure Redirect where
  descriptor : Nat
  kind : RedirectKind
  target : Word
  deriving DecidableEq, Inhabited, Repr

inductive Script
  | nothing
  | simple (line : Nat) (assigns : List (String × Word)) (words : List Word)
      (redirects : List Redirect)
  | next (a b : Script)
  | andThen (a b : Script)
  | orElse (a b : Script)
  | not (a : Script)
  | pipe (a b : Script)
  /-- Goes on while something else goes on. -/
  | aside (a : Script)
  | grouped (line : Nat) (a : Script) (redirects : List Redirect)
  | subshell (line : Nat) (a : Script) (redirects : List Redirect)
  | choose (condition yes no : Script)
  /-- Repeats while the condition is as wanted. -/
  | loop (wanted : Bool) (condition body : Script)
  | forEach (name : String) (words : Option (List Word)) (body : Script)
  | cases (word : Word) (arms : List (List Word × Script))
  | define (name : String) (body : Script)
  deriving Inhabited

end LanguageClient.Shell
