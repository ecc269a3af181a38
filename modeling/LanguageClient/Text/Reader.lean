/-!
# Readers

A reader takes something from the front of a text: it answers what it took and the rest, or that
the text does not begin with it.  JSON and configuration files are read by readers that are put
together from smaller ones.
-/

namespace LanguageClient.Text

/-- A reader of some text: a value and the rest. -/
abbrev Reader (α : Type) := List Char → Option (α × List Char)

namespace Reader

/-- The longest run of characters of a class, which may be empty. -/
def run (p : Char → Bool) (cs : List Char) : List Char × List Char := cs.span p

/-- The longest run of characters of a class, at least one. -/
def run1? (p : Char → Bool) : Reader (List Char) := fun cs =>
  match cs.span p with
  | ([], _) => none
  | found => some found

/-- A given text. -/
def word? (w : List Char) : Reader Unit := fun cs => (w.isPrefixOf? cs).map ((), ·)

/-- The first of two readers that takes anything. -/
def orElse {α : Type} (r s : Reader α) : Reader α := fun cs => (r cs).or (s cs)

end Reader

end LanguageClient.Text
