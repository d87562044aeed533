import TypedJson.Number.Binary64

/-!
# JSON values

The values of JSON text. Objects keep their members in order, repeated names included, because
what a repetition means depends on who reads the value. `unreadable` stands for text that follows
the JSON grammar but has no value: a number beyond binary64, or a text with half a surrogate pair.
Such text may stand where a reader skips it, and nowhere else; `soundWithin` says so.
-/

namespace TypedJson

/-- A JSON value. Integers that fit a 64-bit word are kept apart from all other numbers. -/
inductive Json where
  | null
  | bool (b : Bool)
  | int (i : Int)
  | float (x : Binary64)
  | text (s : String)
  | list (items : List Json)
  | object (members : List (String × Json))
  | unreadable
  deriving Repr

namespace Json

mutual
/-- The value has no unreadable part and nests at most the given number of lists and objects. -/
def soundWithin : Nat → Json → Bool
  | _, .unreadable => false
  | 0, .list _ => false
  | 0, .object _ => false
  | levels + 1, .list items => allSound levels items
  | levels + 1, .object members => allMembersSound levels members
  | _, _ => true

/-- Each item of a list is `soundWithin` the given number of levels. -/
def allSound : Nat → List Json → Bool
  | _, [] => true
  | levels, item :: rest => soundWithin levels item && allSound levels rest

/-- Each member of an object is `soundWithin` the given number of levels. -/
def allMembersSound : Nat → List (String × Json) → Bool
  | _, [] => true
  | levels, (_, value) :: rest => soundWithin levels value && allMembersSound levels rest
end

/-- The only value of a name, if any; none at all if the name is repeated. -/
def uniqueMember? (name : String) (members : List (String × Json)) : Option (Option Json) :=
  match members.filter fun m => m.1 == name with
  | [] => some none
  | [(_, value)] => some (some value)
  | _ => none

end Json

end TypedJson
