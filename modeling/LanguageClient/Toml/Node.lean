import LanguageClient.Toml.Date

/-!
# What a configuration file says and what it means

A `Node` is a value as the file gives it, the keys of each table in the order in which the file makes
them known.  What it means is a `Json` value with sorted keys.  The two differ in one more point: a
table whose first key is reserved for dates does not mean a table, but the date that it spells, so
that a date can also be given where only tables and strings can.  Such a table that spells no date
makes the file meaningless.
-/

namespace LanguageClient.Toml

inductive Node
  | scalar (value : Json)
  | list (items : List Node)
  | table (members : List (String × Node))
  deriving Inhabited

/-- The key that is reserved for dates. -/
def dateKey : String := "$__toml_private_datetime"

/-- The date that a node spells, if it is the text of one. -/
def Node.date? : Node → Option Json
  | .scalar (.str text) => (DateTime.ofText? text).map fun d => .date d.render
  | _ => none

mutual

/-- What a node means, if it means anything. -/
def Node.value? : Node → Option Json
  | .scalar v => some v
  | .list items => (valuesOf? items).map .arr
  | .table [] => some (.obj [])
  | .table ((key, node) :: rest) =>
    if key = dateKey then node.date?
    else do
      let v ← node.value?
      let vs ← membersOf? rest
      return .ofMembers ((key, v) :: vs)

def valuesOf? : List Node → Option (List Json)
  | [] => some []
  | node :: rest => do return (← node.value?) :: (← valuesOf? rest)

def membersOf? : List (String × Node) → Option (List (String × Json))
  | [] => some []
  | (key, node) :: rest => do return (key, ← node.value?) :: (← membersOf? rest)

end

end LanguageClient.Toml
