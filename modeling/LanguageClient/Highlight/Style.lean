import LanguageClient.Highlight.Kind

/-!
# How symbols are painted

Token types and modifiers are those of the semantic token legend; functions, data types and
constructors have a colour each, and definitions are bold.  A kind that is not known is not painted.
The marker of a computed term is a thin line below it.
-/

namespace LanguageClient

inductive FontWeight
  | normal | bold
  deriving DecidableEq, Inhabited, Repr

def FontWeight.name : FontWeight → String
  | normal => "normal"
  | bold => "bold"

/-- How one group of ranges is painted. -/
structure DecorationStyle where
  tokenType : String
  modifiers : List String := []
  color : Option String := none
  weight : FontWeight := .normal
  italic : Bool := false
  underline : Option String := none
  deriving DecidableEq, Inhabited, Repr

namespace DecorationStyle

def functionColor : String := "#005DAC"
def dataColor : String := "#218C21"
def constructorColor : String := "#A021EF"
def markerColor : String := "#66f"

/-- The style of the marker at a computed term. -/
def computed : DecorationStyle :=
  { tokenType := "computed", underline := some markerColor }

/-- A definition: bold, and marked as such. -/
def definition (tokenType : String) (color : Option String) : DecorationStyle :=
  { tokenType, modifiers := ["definition"], color, weight := .bold }

/-- A reference. -/
def reference (tokenType : String) (color : String) : DecorationStyle :=
  { tokenType, color := some color }

/-- The style of a kind, if it is painted. -/
def ofKind : SymbolKind → Option DecorationStyle
  | .moduleDef => some (definition "namespace" none)
  | .fnDef => some (definition "function" functionColor)
  | .primDef =>
    some { definition "function" functionColor with modifiers := ["definition", "defaultLibrary"] }
  | .dataDef => some (definition "enum" dataColor)
  | .structDef => some (definition "struct" dataColor)
  | .conDef => some (definition "enumMember" constructorColor)
  | .fieldDef => some (definition "property" constructorColor)
  | .generalize => some { tokenType := "typeParameter", italic := true }
  | .fnCall => some (reference "function" functionColor)
  | .primCall => some { reference "function" functionColor with modifiers := ["defaultLibrary"] }
  | .dataCall => some (reference "enum" dataColor)
  | .structCall => some (reference "struct" dataColor)
  | .conCall => some (reference "enumMember" constructorColor)
  | .fieldCall => some (reference "property" constructorColor)
  | .unknown => none

def toJson (s : DecorationStyle) : Json :=
  .obj ([("token_type", Json.str s.tokenType), ("modifiers", .arr (s.modifiers.map .str))]
    ++ Json.member? "color" (s.color.map .str)
    ++ [("weight", Json.str s.weight.name), ("italic", .bool s.italic)]
    ++ Json.member? "underline" (s.underline.map .str))

end DecorationStyle

end LanguageClient
