import LanguageClient.Decode.Scalar

/-!
# Kinds of symbols

What an occurrence of a name in a document is: a definition or a reference, and of what.  A server
sends a kind as its name or as its number; a kind that is neither, whatever JSON value it is, reads
as `unknown` and is never painted, so that a server newer than the client costs nothing but the
colours of the symbols it invented.
-/

namespace LanguageClient

inductive SymbolKind
  | moduleDef | fnDef | dataDef | structDef | conDef | fieldDef | primDef
  | generalize | fnCall | dataCall | structCall | conCall | fieldCall | primCall
  | unknown
  deriving DecidableEq, Inhabited, Repr

namespace SymbolKind

/-- The known kinds in the order of their numbers. -/
def known : List SymbolKind :=
  [moduleDef, fnDef, dataDef, structDef, conDef, fieldDef, primDef,
    generalize, fnCall, dataCall, structCall, conCall, fieldCall, primCall]

def name : SymbolKind → String
  | moduleDef => "ModuleDef"
  | fnDef => "FnDef"
  | dataDef => "DataDef"
  | structDef => "StructDef"
  | conDef => "ConDef"
  | fieldDef => "FieldDef"
  | primDef => "PrimDef"
  | generalize => "Generalize"
  | fnCall => "FnCall"
  | dataCall => "DataCall"
  | structCall => "StructCall"
  | conCall => "ConCall"
  | fieldCall => "FieldCall"
  | primCall => "PrimCall"
  | unknown => "Unknown"

/-- The known kind with a number. -/
def ofOrdinal (n : Nat) : SymbolKind :=
  known[n]?.getD unknown

/-- The known kind with a name. -/
def ofName (name : String) : SymbolKind :=
  (known.find? (·.name == name)).getD unknown

def isDefinition : SymbolKind → Bool
  | moduleDef | fnDef | dataDef | structDef | conDef | fieldDef | primDef => true
  | _ => false

/-- Never fails. -/
def ofJson : Json → SymbolKind
  | .int n => if 0 ≤ n then ofOrdinal n.toNat else unknown
  | .str s => ofName s
  | _ => unknown

def decode : Decoder SymbolKind := fun j => .ok (ofJson j)

def toJson (k : SymbolKind) : Json := .str k.name

end SymbolKind

end LanguageClient
