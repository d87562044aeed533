import TypedJson.Code.Conversion

/-!
# Annotations

The annotation of a type in signatures and fields. A record whose class is not yet defined is quoted
where the annotation is evaluated before the module is complete. What the annotation names is
recorded as an import.
-/

namespace TypedJson.Code.Context

/-- Where an annotation stands: the records whose classes are defined in front of it, and whether
all others have to be quoted. -/
structure Place where
  declared : List TypeRef
  quoteOthers : Bool

/-- Name something of the typing module. -/
def typing (name : String) : Gen Unit :=
  Gen.require (·.addName "typing" name)

/-- The annotation of a type, by way of at most `depth` types that lie within one another. A
transformed type is annotated as what it is transformed to. -/
def annotateWithin (ctx : Context) (place : Place) : Nat → TypeRef → Gen String
  | 0, t => throw (.endless t)
  | depth + 1, t => do
    let transformed := match ctx.graph.transformation? t with
      | some x => if x.target = t then none else some x.target
      | none => none
    match transformed with
    | some target => ctx.annotateWithin place depth target
    | none =>
      match ← ctx.kind t with
      | .any => do
        typing "Any"
        return "Any"
      | .null => return "None"
      | .bool => return "bool"
      | .integer => return "int"
      | .double => return "float"
      | .text => return "str"
      | .array items => do
        typing "List"
        return "List[" ++ (← ctx.annotateWithin place depth items) ++ "]"
      | .map values => do
        typing "Dict"
        return "Dict[str, " ++ (← ctx.annotateWithin place depth values) ++ "]"
      | .record _ => do
        let name ← ctx.typeName t
        return if place.quoteOthers && !place.declared.contains t then "'" ++ name ++ "'" else name
      | .enumeration _ => ctx.typeName t
      | .union _ =>
        match ctx.graph.nonNullMembers t with
        | [] => return "None"
        | members => do
          let inner ← match members with
            | [only] => ctx.annotateWithin place depth only
            | _ => do
              typing "Union"
              let annotations ← members.mapM (ctx.annotateWithin place depth)
              pure ("Union[" ++ ", ".intercalate annotations ++ "]")
          if ctx.graph.isNullable t then do
            typing "Optional"
            return "Optional[" ++ inner ++ "]"
          else return inner
      | .formatted .dateTime => do
        Gen.require (·.addName "datetime" "datetime")
        return "datetime"
      | .formatted .integerText => return "int"

/-- The annotation of a type. Types that lie within one another all differ. -/
def annotate (ctx : Context) (place : Place) (t : TypeRef) : Gen String :=
  ctx.annotateWithin place ctx.graph.size t

end TypedJson.Code.Context
