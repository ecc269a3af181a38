import LanguageClient.Compute
import LanguageClient.Highlight.Payload

/-!
# Actions

What a person can ask about the document in the active editor: to load it, which brings its
highlights, or to compute the type or the normal form of the term at the cursor.  Each has a request
of its own, and an outcome of the matching kind.
-/

namespace LanguageClient

inductive ActionKind
  | load | computeType | computeNormalForm
  deriving DecidableEq, Inhabited, Repr

namespace ActionKind

def all : List ActionKind := [load, computeType, computeNormalForm]

def name : ActionKind → String
  | load => "load"
  | computeType => "compute-type"
  | computeNormalForm => "compute-nf"

def ofName? (name : String) : Option ActionKind := all.find? (·.name == name)

/-- The request that the action makes. -/
def method : ActionKind → String
  | load => "aya/load"
  | computeType => "aya/computeType"
  | computeNormalForm => "aya/computeNF"

/-- What a computed text is called. -/
def label : ActionKind → String
  | computeNormalForm => "normal-form"
  | _ => "type"

end ActionKind

/-- The notification with which a server sends highlights on its own account. -/
def publishHighlightMethod : String := "aya/publishSyntaxHighlight"

inductive ActionOutcome
  | highlights (result : HighlightResult)
  | computed (result : ComputeTermResult)
  deriving DecidableEq, Inhabited, Repr

namespace ActionOutcome

/-- The fields of the result, after one that tells the two kinds apart. -/
def toJson : ActionOutcome → Json
  | highlights r => tagged "highlights" r.toJson
  | computed r => tagged "computed" r.toJson
where
  tagged (kind : String) : Json → Json
    | .obj members => .obj (("kind", .str kind) :: members)
    | j => j

end ActionOutcome

end LanguageClient
