import LanguageClient.Document.Position
import LanguageClient.Highlight.Kind

/-!
# Highlight sets

What a server knows about the occurrences of names in one document.  It sends a set either on its
own account or as the answer to a request to load the document; both have the same form, and a new
set replaces the one before it.
-/

namespace LanguageClient

/-- One occurrence. -/
structure Symbol where
  range : Range
  kind : SymbolKind
  deriving DecidableEq, Inhabited, Repr

namespace Symbol

def fields : Decode.Fields Symbol :=
  Symbol.mk <$> Decode.field "range" Range.decode <*> Decode.field "kind" SymbolKind.decode

def decode : Decoder Symbol := fields.decode "Symbol"

def toJson (s : Symbol) : Json :=
  .obj [("range", s.range.toJson), ("kind", s.kind.toJson)]

end Symbol

/-- The occurrences in the document at `uri`. -/
structure HighlightResult where
  uri : String
  symbols : List Symbol
  deriving DecidableEq, Inhabited, Repr

namespace HighlightResult

def fields : Decode.Fields HighlightResult :=
  HighlightResult.mk <$> Decode.field "uri" Decode.string
    <*> Decode.fieldOr "symbols" (Decode.listOf Symbol.decode) []

def decode : Decoder HighlightResult := fields.decode "HighlightResult"

def toJson (h : HighlightResult) : Json :=
  .obj [("uri", .str h.uri), ("symbols", .arr (h.symbols.map Symbol.toJson))]

end HighlightResult

end LanguageClient
