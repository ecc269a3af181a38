import LanguageClient.Text.Decimal
import LanguageClient.Text.Utf8

/-!
# File URIs

Every table of the client is keyed by the URI of a document, and a document on disk has the URI of
its path.  `ofPath` writes each byte of the path's text either as itself, if it is a letter, a digit
or one of `/ . - _ ~`, or as `%` and two capital hexadecimal digits.

`toPath` reads a URI back.  A `%` takes up the two bytes after it: together they are one byte if both
are hexadecimal digits, and otherwise the `%` alone remains.  What comes out is read as UTF-8, with
replacement characters where it is none.  A URI of another scheme is taken for a path as it stands.
-/

namespace LanguageClient.Uri

/-- What stands in front of a path. -/
def scheme : List Char := ['f', 'i', 'l', 'e', ':', '/', '/']

/-- The characters that stand for themselves. -/
def isPlain (c : Char) : Bool :=
  c.isAlphanum || c = '/' || c = '.' || c = '-' || c = '_' || c = '~'

/-- A byte as an escape. -/
def escapeByte (b : UInt8) : List Char :=
  ['%', Text.hexDigit (b.toNat / 16), Text.hexDigit (b.toNat % 16)]

/-- A character of the path in the URI. -/
def escapeChar (c : Char) : List Char :=
  if isPlain c then [c] else (String.utf8EncodeChar c).flatMap escapeByte

/-- The URI of a path that is given as text. -/
def ofPath (path : String) : String :=
  String.ofList (scheme ++ path.toList.flatMap escapeChar)

/-- The URI of a path as the system gives it, bytes that need not be text. -/
def ofPathBytes (path : List UInt8) : String :=
  ofPath (Utf8.decodeLossy path)

/-- The value of a byte that is a hexadecimal digit. -/
def hexByte? (b : UInt8) : Option Nat :=
  if b < 0x80 then Text.hexValue? (Char.ofNat b.toNat) else none

/-- The bytes that the text of a URI stands for. -/
def unescape : List UInt8 → List UInt8
  | [] => []
  | 0x25 :: high :: low :: rest =>
    match hexByte? high, hexByte? low with
    | some h, some l => UInt8.ofNat (h * 16 + l) :: unescape rest
    | _, _ => 0x25 :: unescape rest
  | [0x25, _] => [0x25]
  | b :: rest => b :: unescape rest

/-- The path of a file URI. -/
def toPath (uri : String) : String :=
  match scheme.isPrefixOf? uri.toList with
  | some rest => Utf8.decodeLossy (unescape (Utf8.encode rest))
  | none => uri

end LanguageClient.Uri
