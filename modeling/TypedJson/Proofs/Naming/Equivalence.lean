import TypedJson.Proofs.Naming.Uniqueness

/-!
# Labels of one composed form

A scope cannot tell labels apart that compose to one text. The rule alone does not say so: a retry
styles the label as it was given, with a number behind it, and not its composed form. Composing
leaves such an end alone (`SameForm.numbered`), so labels of one form give rise to the same
candidates (`Request.Alike.names_eq`), and `run_eq_of_alike` follows them through any history of a
scope.
-/

namespace TypedJson.Naming

open Text

/-- The labels compose to one text. -/
def SameForm (label label' : String) : Prop :=
  compose label.toList = compose label'.toList

instance (label label' : String) : Decidable (SameForm label label') :=
  inferInstanceAs (Decidable (compose label.toList = compose label'.toList))

namespace SameForm

variable {label label' : String}

/-- A style reads no more of a label than its composed form. -/
theorem style_eq (h : SameForm label label') (g : Grammar) (role : Role) :
    style g role label = style g role label' := by
  have hcompose : compose label.toList = compose label'.toList := h
  simp only [style, styleChars, hcompose]

/-- With a number behind them, labels of one form are of one form. -/
theorem numbered (h : SameForm label label') (n : Nat) :
    SameForm (Namespace.numbered label n) (Namespace.numbered label' n) := by
  have hplain := isPlain_number (Word.isNumber_toDigits n)
  rw [SameForm, toList_numbered, toList_numbered, compose_append_plain _ hplain,
    compose_append_plain _ hplain, h]

end SameForm

/-- The requests are for names of one kind, and their labels are of one form. -/
structure Request.Alike (r r' : Request) : Prop where
  label : SameForm r.label r'.label
  role : r.role = r'.role
  grammar : r.grammar = r'.grammar

namespace Request.Alike

variable {r r' : Request}

/-- Requests that are alike prefer one identifier and have the same candidates behind it. -/
theorem names_eq (h : r.Alike r') : r.preferred = r'.preferred ∧ r.candidate = r'.candidate := by
  obtain ⟨hlabel, hrole, hgrammar⟩ := h
  refine ⟨?_, funext fun n => ?_⟩
  · rw [Request.preferred, Request.preferred, hrole, hgrammar, hlabel.style_eq]
  · rw [Request.candidate, Request.candidate, hrole, hgrammar, (hlabel.numbered n).style_eq]

/-- A scope gives both of them one name, and is left in one state. -/
theorem answer_eq (h : r.Alike r') (ns : Namespace) : ns.answer r = ns.answer r' := by
  obtain ⟨hpreferred, hcandidate⟩ := h.names_eq
  have hname : (ns.answer r).1 = (ns.answer r').1 := by
    rw [Namespace.answer_name, Namespace.answer_name, hpreferred, hcandidate]
  have hgrown (r : Request) :
      (ns.answer r).2 = { ns with bound := Ordered.insert (ns.answer r).1 ns.bound } := rfl
  exact Prod.ext hname (by rw [hgrown, hgrown, hname])

end Request.Alike

namespace Namespace

/-- Whatever a scope has bound, labels of one form get one name in it and leave it in one state. So
two runs over requests that are alike give the same names and end in the same scope. -/
theorem run_eq_of_alike :
    (∀ (ns : Namespace) (g : Grammar) (role : Role) (label label' : String),
      SameForm label label' → ns.assign g label role = ns.assign g label' role) ∧
    ∀ (ns : Namespace) (requests requests' : List Request),
      List.Forall₂ Request.Alike requests requests' → ns.run requests = ns.run requests' := by
  constructor
  · intro ns g role label label' h
    have halike : Request.Alike ⟨label, role, g⟩ ⟨label', role, g⟩ := ⟨h, rfl, rfl⟩
    exact halike.answer_eq ns
  · intro ns requests requests' h
    induction h generalizing ns with
    | nil => rfl
    | cons hr _ ih => rw [run, run, hr.answer_eq, ih]

/-- Requests for properties with the given labels. -/
def propertyRequests (labels : List String) : List Request :=
  labels.map fun label => ⟨label, .property true, .unicode⟩

/-- A letter with an accent is one character or two. Where the word is forbidden, the first of three
is escaped and the others are numbered, in whichever way each is written. -/
theorem run_eq_of_alike_accent :
    let scope := ofForbidden "properties" ["\u00e9"]
    let requests := propertyRequests ["\u00e9", "e\u0301", "\u00e9"]
    let requests' := propertyRequests ["e\u0301", "\u00e9", "e\u0301"]
    SameForm "\u00e9" "e\u0301" ∧ List.Forall₂ Request.Alike requests requests' ∧
      scope.assign .unicode "\u00e9" .function = scope.assign .unicode "e\u0301" .function ∧
      scope.run requests = scope.run requests' ∧
      (scope.run requests).1 = ["\u00e9_", "\u00e9_2", "\u00e9_3"] := by
  intro scope requests requests'
  have hform : SameForm "\u00e9" "e\u0301" := by decide +kernel
  have halike : List.Forall₂ Request.Alike requests requests' :=
    .cons ⟨hform, rfl, rfl⟩ (.cons ⟨hform.symm, rfl, rfl⟩ (.cons ⟨hform, rfl, rfl⟩ .nil))
  exact ⟨hform, halike, run_eq_of_alike.1 scope .unicode .function _ _ hform,
    run_eq_of_alike.2 scope _ _ halike, by decide +kernel⟩

end Namespace

end TypedJson.Naming
