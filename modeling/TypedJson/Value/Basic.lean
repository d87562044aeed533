import TypedJson.Json.Basic
import TypedJson.Number.Decimal
import TypedJson.Ordered
import TypedJson.Text.Quoted
import TypedJson.Value.Timestamp

/-!
# Values of generated programs

The values that generated code works on: those that JSON text is read into, and those that only
decoding makes, which are timestamps, members of enumerations and objects. Dicts and the fields of
objects are tables in key order.
-/

namespace TypedJson

/-- A value of a generated program. -/
inductive Value where
  | none
  | bool (b : Bool)
  | int (i : Int)
  | float (x : Binary64)
  | str (s : String)
  | list (items : List Value)
  | dict (entries : List (String × Value))
  | dateTime (t : Timestamp)
  /-- A case of the enumeration of a label. -/
  | enumCase (enumeration case : String)
  /-- An object of the record of a label, with its fields by property names. -/
  | object (record : String) (fields : List (String × Value))
  deriving Repr

namespace Value

/-- The name of the type of a value in messages. -/
def typeName : Value → String
  | .none => "NoneType"
  | .bool _ => "bool"
  | .int _ => "int"
  | .float _ => "float"
  | .str _ => "str"
  | .list _ => "list"
  | .dict _ => "dict"
  | .dateTime _ => "datetime"
  | .enumCase enumeration _ => enumeration
  | .object record _ => record

/-- The value is the missing one. -/
def isNone : Value → Bool
  | .none => true
  | _ => false

mutual
/-- How deep lists, dicts and objects nest in a value. -/
def depth : Value → Nat
  | .list items => depthOfItems items + 1
  | .dict entries => depthOfEntries entries + 1
  | .object _ fields => depthOfEntries fields + 1
  | _ => 0

/-- The depth of the deepest item. -/
def depthOfItems : List Value → Nat
  | [] => 0
  | item :: rest => max (depth item) (depthOfItems rest)

/-- The depth of the deepest value of a table. -/
def depthOfEntries : List (String × Value) → Nat
  | [] => 0
  | (_, value) :: rest => max (depth value) (depthOfEntries rest)
end

mutual
/-- Of how many values a value is made, itself included. -/
def count : Value → Nat
  | .list items => countItems items + 1
  | .dict entries => countEntries entries + 1
  | .object _ fields => countEntries fields + 1
  | _ => 1

/-- Of how many values the items of a list are made. -/
def countItems : List Value → Nat
  | [] => 0
  | item :: rest => count item + countItems rest

/-- Of how many values the values of a table are made. -/
def countEntries : List (String × Value) → Nat
  | [] => 0
  | (_, value) :: rest => count value + countEntries rest
end

/-! ## Messages -/

mutual
/-- The value as messages show it. -/
def display : Value → String
  | .none => "None"
  | .bool true => "True"
  | .bool false => "False"
  | .int i => toString i
  | .float x => x.text
  | .str s => Text.quote s
  | .list items => "[" ++ ", ".intercalate (displayItems items) ++ "]"
  | .dict entries => "\x7b" ++ ", ".intercalate (displayEntries entries) ++ "\x7d"
  | .dateTime t => "datetime(" ++ t.text ++ ")"
  | .enumCase enumeration case => enumeration ++ "(" ++ Text.quote case ++ ")"
  | .object record _ => "<" ++ record ++ " object>"

/-- The items of a list as messages show them. -/
def displayItems : List Value → List String
  | [] => []
  | item :: rest => display item :: displayItems rest

/-- The entries of a dict as messages show them. -/
def displayEntries : List (String × Value) → List String
  | [] => []
  | (key, value) :: rest => (Text.quote key ++ ": " ++ display value) :: displayEntries rest
end

/-! ## JSON -/

mutual
/-- The value that JSON is read into. Integers beyond 64 bits become floats, and of a repeated key
the last value counts. -/
def ofJson : Json → Value
  | .null => .none
  | .bool b => .bool b
  | .int i =>
    if -0x8000000000000000 ≤ i ∧ i < 0x8000000000000000 then .int i
    else .float (Binary64.ofInt i)
  | .float x => .float x
  | .text s => .str s
  | .list items => .list (ofJsonItems items)
  | .object members => .dict (Ordered.ofEntries (ofJsonMembers members))
  | .unreadable => .none

/-- The values of the items of a list. -/
def ofJsonItems : List Json → List Value
  | [] => []
  | item :: rest => ofJson item :: ofJsonItems rest

/-- The values of the members of an object. -/
def ofJsonMembers : List (String × Json) → List (String × Value)
  | [] => []
  | (name, value) :: rest => (name, ofJson value) :: ofJsonMembers rest
end

mutual
/-- The JSON of a value, or what in it has no JSON. -/
def toJson : Value → Except String Json
  | .none => .ok .null
  | .bool b => .ok (.bool b)
  | .int i => .ok (.int i)
  | .float x => if x.isNaN || x.isInfinite then .error ("float " ++ x.text) else .ok (.float x)
  | .str s => .ok (.text s)
  | .list items => (toJsonItems items).map .list
  | .dict entries => (toJsonEntries entries).map .object
  | .dateTime t => .error (Value.dateTime t).typeName
  | .enumCase enumeration _ => .error enumeration
  | .object record _ => .error record

/-- The JSON of the items of a list. -/
def toJsonItems : List Value → Except String (List Json)
  | [] => .ok []
  | item :: rest => do
    let first ← toJson item
    let others ← toJsonItems rest
    return first :: others

/-- The JSON of the entries of a dict. -/
def toJsonEntries : List (String × Value) → Except String (List (String × Json))
  | [] => .ok []
  | (key, value) :: rest => do
    let first ← toJson value
    let others ← toJsonEntries rest
    return (key, first) :: others
end

end Value

end TypedJson
