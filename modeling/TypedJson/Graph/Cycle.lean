import TypedJson.Graph.Error

/-!
# Cycles that no record breaks

Converting a value of an array, a map or a union leads to values of the element and member types,
and converting a type by its transformation leads to the types that this refers to. Only a record
delays this until its own converter is called. `checkCycles` searches depth first for a type that
leads back to itself through such steps alone.
-/

namespace TypedJson.TypeGraph

/-- The elements of an array or map and the members of a union. -/
def structuralRefs : Kind → List TypeRef
  | .array items => [items]
  | .map values => [values]
  | .union members => members
  | _ => []

/-- The types that converting `t` leads to at once. A transformation may name its own type, which
leads to its elements and members only, and a record leads nowhere. -/
def unguardedRefs (g : TypeGraph) (t : TypeRef) : List TypeRef :=
  match g.node? t with
  | none => []
  | some node =>
    let referred := match node.transformation with
      | some x => x.refs.filter (· ≠ t)
      | none => []
    (structuralRefs node.kind ++ referred).filter fun r => !g.kindHolds Kind.isRecord r

/-- How far the search has come with a type. -/
inductive Mark where
  /-- The type has not been met. -/
  | fresh
  /-- The search is among the types that this one leads to. -/
  | active
  /-- No cycle can be reached from the type. -/
  | done
  deriving DecidableEq, Repr

/-- Search from a fresh type. Every deeper call makes another type active, so there are at most as
many nested calls as types. -/
def visit (g : TypeGraph) : Nat → Array Mark → TypeRef → Except GraphError (Array Mark)
  | 0, marks, _ => .ok marks
  | depth + 1, marks, t => do
    let marks ← (g.unguardedRefs t).foldlM
      (fun (marks : Array Mark) (child : TypeRef) =>
        match marks[child.index]? with
        | some .active => .error (.unguardedCycle child)
        | some .fresh => visit g depth marks child
        | _ => .ok marks)
      (marks.setIfInBounds t.index .active)
    return marks.setIfInBounds t.index .done

/-- Search from every type in turn, apart from records and types that are done. -/
def checkCycles (g : TypeGraph) : Except GraphError Unit := do
  let _ ← g.refs.foldlM
    (fun (marks : Array Mark) (root : TypeRef) =>
      if marks[root.index]? = some .fresh ∧ ¬ g.kindHolds Kind.isRecord root then
        g.visit g.size marks root
      else .ok marks)
    (Array.replicate g.size Mark.fresh)
  return ()

end TypedJson.TypeGraph
