import TypedJson.Graph.Cycle

/-!
# Accepting a type graph

`TypeGraph.make` accepts types and top-levels if every reference denotes a type, unions have
members and do not nest, and no type contains itself without a record between. It then puts the
members of unions into canonical order: by the rank of their kinds, members of one rank in their
given order.
-/

namespace TypedJson.TypeGraph

/-- The reference denotes a type. -/
def checkRef (g : TypeGraph) (t : TypeRef) (holder : Referrer) : Except GraphError Unit :=
  if t.index < g.size then .ok () else .error (.danglingRef t holder)

/-- The top-levels behind those with the given names have new names and denote types. -/
def checkTopLevels (g : TypeGraph) (seen : List String) : List TopLevel → Except GraphError Unit
  | [] => .ok ()
  | top :: rest => do
    if seen.contains top.name then .error (.duplicateTopLevel top.name)
    g.checkRef top.type (.topLevel top.name)
    g.checkTopLevels (top.name :: seen) rest

/-- The references of a kind denote types, and those of a union types other than unions. -/
def checkKind (g : TypeGraph) (owner : TypeRef) : Kind → Except GraphError Unit
  | .array items => g.checkRef items (.array owner)
  | .map values => g.checkRef values (.map owner)
  | .record r => r.properties.forM fun p => g.checkRef p.type (.property p.name r.name)
  | .union [] => .error (.emptyUnion owner)
  | .union members => members.forM fun m => do
    g.checkRef m (.union owner)
    if g.kindHolds Kind.isUnion m then .error (.nestedUnion owner m)
  | _ => .ok ()

/-- The references of a transformation denote types. -/
def checkTransformation (g : TypeGraph) (owner : TypeRef) (x : Transformation) :
    Except GraphError Unit := do
  g.checkRef x.target (.transformation owner)
  x.transformer.refs.forM fun t => g.checkRef t (.transformer owner)
  x.reverse.refs.forM fun t => g.checkRef t (.transformer owner)

/-- The references of one type are in order. -/
def checkNode (g : TypeGraph) (owner : TypeRef) (node : Node) : Except GraphError Unit := do
  g.checkKind owner node.kind
  match node.transformation with
  | some x => g.checkTransformation owner x
  | none => return ()

/-- The graph has no fault. Of several faults the first one counts: top-levels come before types,
and cycles are looked for at the end. -/
def check (g : TypeGraph) : Except GraphError Unit := do
  if g.topLevels.isEmpty then .error .noTopLevels
  g.checkTopLevels [] g.topLevels
  g.types.toList.zipIdx.forM fun entry => g.checkNode ⟨entry.2⟩ entry.1
  g.checkCycles

/-- The rank of the kind that a reference denotes. -/
def rank (g : TypeGraph) (t : TypeRef) : Nat :=
  match g.kind? t with
  | some k => k.rank
  | none => 0

/-- Put a member in front of the first one that does not rank below it. -/
def insertMember (g : TypeGraph) (t : TypeRef) : List TypeRef → List TypeRef
  | [] => [t]
  | m :: rest => if g.rank t ≤ g.rank m then t :: m :: rest else m :: g.insertMember t rest

/-- The members in canonical order. -/
def sortMembers (g : TypeGraph) (members : List TypeRef) : List TypeRef :=
  members.foldr g.insertMember []

/-- The kind with the members of a union in canonical order. -/
def canonicalKind (g : TypeGraph) : Kind → Kind
  | .union members => .union (g.sortMembers members)
  | kind => kind

/-- The graph with the members of all unions in canonical order. -/
def canonical (g : TypeGraph) : TypeGraph :=
  { g with types := g.types.map fun node => { node with kind := g.canonicalKind node.kind } }

/-- The accepted graph of the given types and top-levels. -/
def make (types : Array Node) (topLevels : List TopLevel) : Except GraphError TypeGraph := do
  let g : TypeGraph := ⟨types, topLevels⟩
  g.check
  return g.canonical

end TypedJson.TypeGraph
