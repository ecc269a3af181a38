import LanguageClient.Toml.Node

/-!
# Tables under construction

A configuration file fills its tables from several places: a header opens a table, dotted keys make
tables on the way, and a doubled header adds a table to a list.  Which of these may meet at one key
is a matter of how the table there came about, so a table under construction keeps its `Origin`.
Keys stand in the order in which they became known, except that a header puts its table last even
where the table was known before.

`assign?` gives a key a value, `open?` opens the table of a header and `append?` that of a doubled
header; each answers nothing when the file would define something twice.
-/

namespace LanguageClient.Toml

/-- How a table came about. -/
inductive Origin
  /-- Its own header, or braces. -/
  | header
  /-- It lies on the way to the table of a header. -/
  | passing
  /-- It lies on the way of a dotted key. -/
  | dotted
  deriving DecidableEq, Inhabited, Repr

/-- What a key is bound to while the file is read. -/
inductive Entry
  /-- A value that nothing can be added to. -/
  | closed (value : Node)
  | table (origin : Origin) (entries : List (String × Entry))
  /-- The tables of a doubled header, the latest first. -/
  | tables (latest : List (String × Entry)) (earlier : List (List (String × Entry)))
  deriving Inhabited

abbrev Entries := List (String × Entry)

namespace Entries

/-- Binds a key, in its place if it is there and otherwise last. -/
def put (key : String) (e : Entry) : Entries → Entries
  | [] => [(key, e)]
  | (k, v) :: rest => if key = k then (key, e) :: rest else (k, v) :: put key e rest

/-- Binds a key, last in any case. -/
def putLast (key : String) (e : Entry) (es : Entries) : Entries :=
  es.filter (·.1 ≠ key) ++ [(key, e)]

/-- Gives a dotted key a value.  Tables on the way are made, or were made by dotted keys; a table of
another origin may be passed through but not added to. -/
def assign? : (path : List String) → Node → Entries → Option Entries
  | [], _, _ => none
  | [key], value, es =>
    match es.lookup key with
    | none => some (put key (.closed value) es)
    | some _ => none
  | key :: next :: path, value, es =>
    match es.lookup key with
    | none => (assign? (next :: path) value []).map fun sub => put key (.table .dotted sub) es
    | some (.table .dotted sub) =>
      (assign? (next :: path) value sub).map fun sub => put key (.table .dotted sub) es
    | some (.table .passing sub) =>
      if path.isEmpty then none
      else (assign? (next :: path) value sub).map fun sub => put key (.table .passing sub) es
    | some (.tables latest earlier) =>
      if path.isEmpty then none
      else (assign? (next :: path) value latest).map fun sub => put key (.tables sub earlier) es
    | some (.table .header _) => none
    | some (.closed _) => none

/-- Changes the table around what a header's path leads to; `f` is given the last key.  Tables on
the way are made or passed through. -/
def alter? (f : String → Entries → Option Entries) : (path : List String) → Entries → Option Entries
  | [], _ => none
  | [key], es => f key es
  | key :: next :: path, es =>
    match es.lookup key with
    | none => (alter? f (next :: path) []).map fun sub => put key (.table .passing sub) es
    | some (.table origin sub) =>
      (alter? f (next :: path) sub).map fun sub => put key (.table origin sub) es
    | some (.tables latest earlier) =>
      (alter? f (next :: path) latest).map fun sub => put key (.tables sub earlier) es
    | some (.closed _) => none

/-- Gives several dotted keys their values. -/
def assignAll? (lines : List (List String × Node)) (es : Entries) : Option Entries :=
  lines.foldlM (fun es (path, value) => assign? path value es) es

/-- Opens the table of a header, which may so far only have been passed through, and fills it. -/
def open? (path : List String) (lines : List (List String × Node)) : Entries → Option Entries :=
  alter? (fun key es => do
    let sub ← match es.lookup key with
      | none => assignAll? lines []
      | some (.table .passing sub) => assignAll? lines sub
      | some _ => none
    return putLast key (.table .header sub) es) path

/-- Adds a table to the list of a doubled header and fills it. -/
def append? (path : List String) (lines : List (List String × Node)) : Entries → Option Entries :=
  alter? (fun key es => do
    let latest ← assignAll? lines []
    let earlier ← match es.lookup key with
      | none => some []
      | some (.tables latest earlier) => some (latest :: earlier)
      | some _ => none
    return put key (.tables latest earlier) es) path

end Entries

mutual

/-- The node that is left when the file ends. -/
def Entry.node : Entry → Node
  | .closed node => node
  | .table _ es => .table (nodesOf es)
  | .tables latest earlier => .list ((rowsOf earlier).reverse ++ [.table (nodesOf latest)])

def nodesOf : Entries → List (String × Node)
  | [] => []
  | (k, e) :: rest => (k, e.node) :: nodesOf rest

def rowsOf : List Entries → List Node
  | [] => []
  | es :: rest => .table (nodesOf es) :: rowsOf rest

end

end LanguageClient.Toml
