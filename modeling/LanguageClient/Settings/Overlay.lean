import LanguageClient.Json.Basic

/-!
# Laying one table over another

Two configuration files hold for a project, a person's own and the project's.  The project's is laid
over the other: a key that only one of them has keeps its value, and a key of both has the value
above, unless both values are tables, which are laid over each other in turn.
-/

namespace LanguageClient.Settings

mutual

/-- Lays the entries of a table over another table, one after another. -/
def overlayMembers (base : List (String × Json)) : List (String × Json) → List (String × Json)
  | [] => base
  | (key, value) :: rest =>
    overlayMembers (Json.put key (overlayValue (base.lookup key) value) base) rest

/-- Lays a value over what may be below it. -/
def overlayValue (below : Option Json) : Json → Json
  | .obj above =>
    match below with
    | some (.obj base) => .obj (overlayMembers base above)
    | _ => .obj above
  | value => value

end

end LanguageClient.Settings
