import LanguageClient.Text.Utf8

/-!
# Bytes

What a script works with is bytes: they are text where somebody reads them as such, and lines where
somebody takes them so.
-/

namespace LanguageClient.Shell

abbrev Bytes := List UInt8

def bytesOf (s : String) : Bytes := Utf8.ofString s

def textOf (b : Bytes) : String := Utf8.decodeLossy b

def newline : UInt8 := 0x0A

def joinWith (separator : Bytes) : List Bytes → Bytes
  | [] => []
  | [b] => b
  | b :: rest => b ++ separator ++ joinWith separator rest

/-- The number that a text is, with a sign. -/
def int? (b : Bytes) : Option Int := (textOf b).toInt?

/-- The lines of a text, each with its end. -/
def linesOf (b : Bytes) : List Bytes :=
  go [] b
where
  go (line : Bytes) : Bytes → List Bytes
    | [] => if line.isEmpty then [] else [line.reverse]
    | c :: rest => if c = newline then (c :: line).reverse :: go [] rest else go (c :: line) rest

/-- Without the line ends at the end. -/
def trimLines (b : Bytes) : Bytes := (b.reverse.dropWhile (· = newline)).reverse

/-- The words of a text. -/
def wordsOf (b : Bytes) : List String :=
  ((textOf b).split fun c => c = ' ' || c = '\n' || c = '\t').toList.map toString |>.filter (· ≠ "")

/-- The lines from one number to another. -/
def countUp (first step last : Int) : Bytes :=
  if step = 0 then []
  else
    let n := ((last - first) / step + 1).toNat
    (List.range n).flatMap fun (i : Nat) => bytesOf (toString (first + step * i) ++ "\n")

end LanguageClient.Shell
