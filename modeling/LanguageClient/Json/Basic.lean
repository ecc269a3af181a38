import LanguageClient.Text.Binary64

/-!
# JSON values

The one dynamic value of the library: what a server sends, what a request carries, what a command
prints, and what a configuration file holds.  An integer within 64 bits is an integer; every other
number is floating point.

An object is a list of members.  Records that the client writes list their members in the order of
their fields; an object that was read has its members sorted by key and each key once, because
reading goes through `put`, where a later member replaces an earlier one of the same key.
-/

namespace LanguageClient

inductive Json where
  | null
  | bool (b : Bool)
  | int (n : Int)
  | float (x : Binary64)
  | str (s : String)
  | arr (items : List Json)
  | obj (members : List (String × Json))
  /-- A date by its text.  Only configuration files have dates; anywhere else one is a string. -/
  | date (text : String)
  deriving Inhabited, Repr

namespace Json

/-- The integers that a number without fraction and exponent may be. -/
def minInt : Int := -0x8000000000000000

/-- See `minInt`. -/
def maxInt : Int := 0xFFFFFFFFFFFFFFFF

/-- Binds a key in a sorted list of members, in place of an earlier binding. -/
def put (key : String) (value : Json) : List (String × Json) → List (String × Json)
  | [] => [(key, value)]
  | (k, v) :: rest =>
    if key < k then (key, value) :: (k, v) :: rest
    else if key = k then (key, value) :: rest
    else (k, v) :: put key value rest

/-- The object with these members: sorted, and of one key the last. -/
def ofMembers (members : List (String × Json)) : Json :=
  .obj (members.foldl (fun sorted (k, v) => put k v sorted) [])

mutual

/-- The value with the members of every object in it sorted. -/
def sorted : Json → Json
  | .arr items => .arr (sortedItems items)
  | .obj members => ofMembers (sortedMembers members)
  | j => j

def sortedItems : List Json → List Json
  | [] => []
  | j :: rest => sorted j :: sortedItems rest

def sortedMembers : List (String × Json) → List (String × Json)
  | [] => []
  | (k, j) :: rest => (k, sorted j) :: sortedMembers rest

end

/-- The member of an object; nothing else has members. -/
def get? (key : String) : Json → Option Json
  | .obj members => members.lookup key
  | _ => none

/-- The items of an array. -/
def items? : Json → Option (List Json)
  | .arr items => some items
  | _ => none

/-- The text of a string. -/
def str? : Json → Option String
  | .str s => some s
  | _ => none

def isNull : Json → Bool
  | .null => true
  | _ => false

/-- An optional member: absent if the value is. -/
def member? (key : String) (value : Option Json) : List (String × Json) :=
  (value.map ((key, ·))).toList

/-- An absent value is written as null. -/
def ofOption (value : Option Json) : Json :=
  value.getD .null

def ofNat (n : Nat) : Json := .int n

/-- The empty object. -/
def empty : Json := .obj []

end Json

end LanguageClient
