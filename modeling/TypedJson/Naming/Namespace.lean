import TypedJson.Naming.Style
import TypedJson.Ordered

/-!
# Namespaces

A namespace hands out identifiers that differ from one another and from the words it forbids.
Names are bound in the order of asking: an earlier one keeps the spelling that its label suggests,
and a later one gives way. `assign` escapes a forbidden word with an underscore and otherwise
restyles the label with the least number behind it that yields a free name.
-/

namespace TypedJson.Naming

/-- A scope of identifiers: the words that it forbids and the names bound so far, ascending. -/
structure Namespace where
  name : String
  forbidden : List String
  bound : List String
  deriving DecidableEq, Repr

namespace Namespace

/-- A scope with nothing bound yet. -/
def ofForbidden (name : String) (forbidden : List String) : Namespace :=
  ⟨name, forbidden, []⟩

/-- The scope forbids the word. -/
def isForbidden (ns : Namespace) (word : String) : Bool :=
  ns.forbidden.contains word

/-- The word is forbidden or bound. -/
def isTaken (ns : Namespace) (word : String) : Bool :=
  ns.forbidden.contains word || ns.bound.contains word

/-- The first candidate from number `n` on that is not taken, after at most the given number of
failures. -/
def firstFree (ns : Namespace) (candidate : Nat → String) : Nat → Nat → String
  | 0, n => candidate n
  | failures + 1, n =>
    if ns.isTaken (candidate n) then firstFree ns candidate failures (n + 1) else candidate n

/-- The label with a number behind it. -/
def numbered (label : String) (n : Nat) : String :=
  label ++ "_" ++ toString n

/-- The name that the scope chooses for a label. There are fewer taken names than candidates to
try, so the search for a number ends with a free one. -/
def choose (ns : Namespace) (g : Grammar) (label : String) (role : Role) : String :=
  let preferred := style g role label
  if !ns.isTaken preferred then preferred
  else
    let escaped := preferred ++ "_"
    if ns.isForbidden preferred && !ns.isTaken escaped then escaped
    else ns.firstFree (fun n => style g role (numbered label n))
      (ns.forbidden.length + ns.bound.length) 2

/-- Bind a name for a label, and return it with the grown scope. -/
def assign (ns : Namespace) (g : Grammar) (label : String) (role : Role) : String × Namespace :=
  let chosen := ns.choose g label role
  (chosen, { ns with bound := Ordered.insert chosen ns.bound })

/-- Bind names for several labels, in order. -/
def assignAll (ns : Namespace) (g : Grammar) (role : Role) : List String → List String × Namespace
  | [] => ([], ns)
  | label :: rest =>
    let (name, grown) := ns.assign g label role
    let (names, final) := grown.assignAll g role rest
    (name :: names, final)

end Namespace

end TypedJson.Naming
