import LanguageClient.Text.Classes

/-!
# Log lines

What a server prints reaches the client in pieces of text.  The log of the client takes them line by
line: each piece is cut at its line ends, and the lines that hold anything but blanks are logged.
-/

namespace LanguageClient

/-- How serious a line in the log of the client is. -/
inductive LogLevel
  | error | warn | info | debug
  deriving DecidableEq, Inhabited, Repr

def LogLevel.name : LogLevel → String
  | error => "error"
  | warn => "warn"
  | info => "info"
  | debug => "debug"

namespace LogLines

/-- Under which name the lines of a server are logged. -/
def target : String := "aya_client::server"

/-- The lines of a text without their ends: a line feed, and a carriage return right before it.  A
text that ends a line has no further line. -/
def lines : List Char → List (List Char)
  | [] => []
  | c :: rest =>
    if c = '\n' then [] :: lines rest
    else if c = '\r' && rest.head? = some '\n' then lines rest
    else match lines rest with
      | [] => [[c]]
      | l :: more => (c :: l) :: more

/-- What is logged of a piece of text. -/
def logged (text : String) : List String :=
  ((lines text.toList).filter fun l => !(Text.trim l).isEmpty).map String.ofList

end LogLines

end LanguageClient
