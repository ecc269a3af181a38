import LanguageClient.Text.Decimal
import LanguageClient.Text.Printable

/-!
# Quoted text

An error message that shows a text a user wrote puts it between double quotes, so that blanks at
its ends and characters without a shape of their own can be seen.  Inside the quotes a double quote
and a backslash stand after a backslash, a few control characters have a letter, and every other
character that is not shown as it is appears as its code point in hexadecimal.
-/

namespace LanguageClient.Text

/-- One character inside the quotes. -/
def quotedChar (c : Char) : List Char :=
  if c = '\x00' then ['\\', '0']
  else if c = '\t' then ['\\', 't']
  else if c = '\r' then ['\\', 'r']
  else if c = '\n' then ['\\', 'n']
  else if c = '"' then ['\\', '"']
  else if c = '\\' then ['\\', '\\']
  else if isShown c then [c]
  else ['\\', 'u', '\x7b'] ++ hexText c.toNat ++ ['\x7d']

/-- The text between double quotes. -/
def quoted (s : String) : String :=
  String.ofList ('"' :: s.toList.flatMap quotedChar ++ ['"'])

end LanguageClient.Text
