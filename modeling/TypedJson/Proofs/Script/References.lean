import TypedJson.Proofs.Script.Machine

/-!
# What code refers to

An expression refers to names that it holds by themselves, at any depth: not to those of attributes,
nor to parameters of lambdas and items of displays inside these. A function refers to the names that
its body holds, its parameters and what it assigns apart (`Definition.RefersTo`).
-/

namespace TypedJson.Script

mutual
/-- The names that an expression refers to. -/
def Expr.names : Expr → List String
  | .name word => [word]
  | .text _ => []
  | .tuple items => itemNames items
  | .list items => itemNames items
  | .emptyDict => []
  | .member object _ => object.names
  | .call callee arguments => callee.names ++ itemNames arguments
  | .lambda parameter body => body.names.filter (· ≠ parameter)
  | .isNone operand _ => operand.names
  | .not operand => operand.names
  | .and left right => left.names ++ right.names
  | .listOf element item source => source.names ++ element.names.filter (· ≠ item)
  | .dictOf key value element source =>
    source.names ++ element.names.filter fun word => word ≠ key ∧ word ≠ value

/-- The names that items refer to. -/
def itemNames : List Expr → List String
  | [] => []
  | item :: rest => item.names ++ itemNames rest
end

mutual
/-- The names that the expressions of a statement refer to. -/
def Statement.names : Statement → List String
  | .pass => []
  | .assert condition => condition.names
  | .return result => result.names
  | .assign _ value => value.names
  | .assignItem name key value => name :: (key.names ++ value.names)
  | .ifThen condition body => condition.names ++ namesIn body
  | .forEach _ source body => source.names ++ namesIn body
  | .tryReturn result handler => result.names ++ namesIn handler

/-- The names that the expressions of statements refer to. -/
def namesIn : List Statement → List String
  | [] => []
  | s :: rest => s.names ++ namesIn rest
end

/-- The function refers to a name outside of itself. -/
def Definition.RefersTo (d : Definition) (word : String) : Prop :=
  word ∈ namesIn d.body ∧ word ∉ d.parameters ∧ word ∉ assignedIn d.body

variable {word : String}

/-- The names of items are those of each of them. -/
theorem mem_itemNames {items : List Expr} : word ∈ itemNames items ↔ ∃ e ∈ items, word ∈ e.names := by
  induction items with
  | nil => simp [itemNames]
  | cons e items ih => simp [itemNames, ih]

/-- The names of statements are those of each of them. -/
theorem mem_namesIn {ss : List Statement} : word ∈ namesIn ss ↔ ∃ s ∈ ss, word ∈ s.names := by
  induction ss with
  | nil => simp [namesIn]
  | cons s ss ih => simp [namesIn, ih]

end TypedJson.Script
