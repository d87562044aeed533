import TypedJson.Json.Basic

/-!
# Shapes of JSON values

Readers of JSON documents ask for members of objects by name. A repeated name that is asked for is
a fault, a null stands for an absent optional member, and a choice among names may be written as an
object with the name and nothing in it.
-/

namespace TypedJson.Json

/-- A text. -/
def text? : Json → Option String
  | .text s => some s
  | _ => none

/-- A truth value. -/
def bool? : Json → Option Bool
  | .bool b => some b
  | _ => none

/-- A list whose items are all read. -/
def listOf? {α : Type} (read : Json → Option α) : Json → Option (List α)
  | .list items => items.mapM read
  | _ => none

/-- A member that has to be there, once. -/
def required? {α : Type} (name : String) (read : Json → Option α)
    (members : List (String × Json)) : Option α :=
  match uniqueMember? name members with
  | some (some value) => read value
  | _ => none

/-- A value that may be null. -/
def nullable? {α : Type} (read : Json → Option α) : Json → Option (Option α)
  | .null => some none
  | value => (read value).map some

/-- A member that may be absent or null, and is there at most once. -/
def optional? {α : Type} (name : String) (read : Json → Option α)
    (members : List (String × Json)) : Option (Option α) :=
  match uniqueMember? name members with
  | some none => some none
  | some (some value) => nullable? read value
  | none => none

/-- A member with a value for its absence, which is there at most once. -/
def defaulted? {α : Type} (name : String) (absent : α) (read : Json → Option α)
    (members : List (String × Json)) : Option α :=
  match uniqueMember? name members with
  | some none => some absent
  | some (some value) => read value
  | none => none

/-- A name, written as a text or as an object with a null under it. -/
def name? : Json → Option String
  | .text s => some s
  | .object [(s, .null)] => some s
  | _ => none

/-- A name, written as a text or as an object with a null or an empty object under it. -/
def emptyName? : Json → Option String
  | .text s => some s
  | .object [(s, .null)] => some s
  | .object [(s, .object [])] => some s
  | _ => none

/-- One of several names in order, or its position among them. -/
def tag? (names : List String) : Json → Option String
  | .text s => if names.contains s then some s else none
  | .int i => if 0 ≤ i then names[i.toNat]? else none
  | _ => none

end TypedJson.Json
