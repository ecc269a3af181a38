import LanguageClient.Document.Position

/-!
# Computed terms

A person may ask for the type or the normal form of the term at the cursor.  The question names a
document and a position in it; the answer names the document, the range of the term and the text
that was computed.
-/

namespace LanguageClient

/-- The question. -/
structure ComputeTermParams where
  uri : String
  position : Position
  deriving DecidableEq, Inhabited, Repr

namespace ComputeTermParams

def fields : Decode.Fields ComputeTermParams :=
  ComputeTermParams.mk <$> Decode.field "uri" Decode.string
    <*> Decode.field "position" Position.decode

def decode : Decoder ComputeTermParams := fields.decode "ComputeTermParams"

def toJson (p : ComputeTermParams) : Json :=
  .obj [("uri", .str p.uri), ("position", p.position.toJson)]

end ComputeTermParams

/-- The answer. -/
structure ComputeTermResult where
  uri : String
  computed : String
  range : Range
  deriving DecidableEq, Inhabited, Repr

namespace ComputeTermResult

/-- Earlier servers call the text `computedType`. -/
def fields : Decode.Fields ComputeTermResult :=
  ComputeTermResult.mk <$> Decode.field "uri" Decode.string
    <*> Decode.fieldNamed "computed" ["computedType"] Decode.string .required
    <*> Decode.field "range" Range.decode

def decode : Decoder ComputeTermResult := fields.decode "ComputeTermResult"

def toJson (r : ComputeTermResult) : Json :=
  .obj [("uri", .str r.uri), ("computed", .str r.computed), ("range", r.range.toJson)]

end ComputeTermResult

end LanguageClient
