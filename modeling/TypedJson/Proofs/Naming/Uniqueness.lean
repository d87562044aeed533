import TypedJson.Proofs.Naming.Numbering

/-!
# Uniqueness of assigned names

A scope that answers requests one after the other never gives a name twice, nor one that it forbids.
`answer_spec` says what one answer does; `run_names_apart` follows the scope through any sequence of
requests. The search for a number ends because numbered labels never share an identifier
(`style_numbered_injective`), so that the taken names cannot cover all candidates.
-/

namespace TypedJson.Naming

/-- A request for a name: what the name is for, and the identifiers it is to be chosen from. -/
structure Request where
  label : String
  role : Role
  grammar : Grammar
  deriving DecidableEq, Repr

/-- The identifier that the request asks for. -/
def Request.preferred (r : Request) : String :=
  style r.grammar r.role r.label

/-- The identifier of the label with a number behind it. -/
def Request.candidate (r : Request) (n : Nat) : String :=
  style r.grammar r.role (Namespace.numbered r.label n)

namespace Namespace

/-! ## Ascending lists -/

/-- Adding a name to an ascending list adds nothing else. -/
theorem mem_insert_iff {name w : String} {names : List String} :
    w ∈ Ordered.insert name names ↔ w ∈ names ∨ w = name := by
  induction names with
  | nil => simp [Ordered.insert]
  | cons other rest ih =>
      simp only [Ordered.insert]
      split
      · simp only [List.mem_cons]
        tauto
      · split
        · next heq =>
          subst heq
          simp only [List.mem_cons]
          tauto
        · simp only [List.mem_cons, ih]
          tauto

/-! ## Taken names -/

/-- The names that the scope forbids and those that are bound in it. -/
def takenNames (ns : Namespace) : Finset String :=
  (ns.forbidden ++ ns.bound).toFinset

variable {ns : Namespace} {w : String}

/-- A name is taken if it is forbidden or bound. -/
theorem isTaken_iff : ns.isTaken w = true ↔ w ∈ ns.takenNames := by
  simp [isTaken, takenNames]

/-- A scope forbids and binds no more names than its lists hold. -/
theorem card_takenNames_le (ns : Namespace) :
    ns.takenNames.card ≤ ns.forbidden.length + ns.bound.length := by
  rw [← List.length_append]
  exact List.toFinset_card_le _

/-- Candidates from number 2 on that are all taken are no more than the taken names. -/
theorem le_card_of_taken {candidate : Nat → String} (hinj : Function.Injective candidate) {n : Nat}
    (h : ∀ k, 2 ≤ k → k < n → ns.isTaken (candidate k)) : n ≤ ns.takenNames.card + 2 := by
  have hsubset : (Finset.Ico 2 n).image candidate ⊆ ns.takenNames := by
    intro w hw
    obtain ⟨k, hk, rfl⟩ := Finset.mem_image.1 hw
    obtain ⟨hfirst, hlast⟩ := Finset.mem_Ico.1 hk
    exact isTaken_iff.1 (h k hfirst hlast)
  have hcard := Finset.card_le_card hsubset
  rw [Finset.card_image_of_injective _ hinj, Nat.card_Ico] at hcard
  omega

/-- The search ends with the first candidate that is not taken, if it goes far enough. -/
theorem firstFree_least (ns : Namespace) (candidate : Nat → String) (failures n : Nat)
    (h : ∃ m, n ≤ m ∧ m ≤ n + failures ∧ ns.isTaken (candidate m) = false) :
    ∃ m, n ≤ m ∧ ns.firstFree candidate failures n = candidate m ∧
      ns.isTaken (candidate m) = false ∧ ∀ k, n ≤ k → k < m → ns.isTaken (candidate k) := by
  induction failures generalizing n with
  | zero =>
      obtain ⟨m, hfirst, hlast, hfree⟩ := h
      obtain rfl : m = n := by omega
      exact ⟨m, Nat.le_refl m, rfl, hfree, fun k hk hlt => by omega⟩
  | succ failures ih =>
      rw [firstFree]
      by_cases htaken : ns.isTaken (candidate n) = true
      · obtain ⟨m, hfirst, hlast, hfree⟩ := h
        have hne : m ≠ n := by
          rintro rfl
          simp [htaken] at hfree
        obtain ⟨m, hm, hresult, hfree, hleast⟩ := ih (n + 1) ⟨m, by omega, by omega, hfree⟩
        refine ⟨m, by omega, by rw [if_pos htaken, hresult], hfree, fun k hk hlt => ?_⟩
        by_cases heq : k = n
        · exact heq ▸ htaken
        · exact hleast k (by omega) hlt
      · exact ⟨n, Nat.le_refl n, if_neg htaken, by simpa using htaken, fun k hk hlt => by omega⟩

/-! ## One answer -/

/-- Answer a request: the name, and the grown scope. -/
def answer (ns : Namespace) (r : Request) : String × Namespace :=
  ns.assign r.grammar r.label r.role

/-- The rule by which a scope names a request: the preferred identifier if it is free, an escaped
one in place of a forbidden word, else the identifier with the least number from 2 on that is
free. -/
inductive Chooses (ns : Namespace) (r : Request) : String → Prop
  | preferred (hfree : ns.isTaken r.preferred = false) : Chooses ns r r.preferred
  | escaped (hforbidden : ns.isForbidden r.preferred)
      (hfree : ns.isTaken (r.preferred ++ "_") = false) : Chooses ns r (r.preferred ++ "_")
  | numbered (n : Nat) (hfirst : 2 ≤ n) (hbound : n ≤ ns.takenNames.card + 2)
      (hfree : ns.isTaken (r.candidate n) = false)
      (hleast : ∀ k, 2 ≤ k → k < n → ns.isTaken (r.candidate k)) : Chooses ns r (r.candidate n)

/-- The name that answers a request, by the identifiers that the request gives rise to. -/
theorem answer_name (ns : Namespace) (r : Request) : (ns.answer r).1 =
    if !ns.isTaken r.preferred then r.preferred
    else if ns.isForbidden r.preferred && !ns.isTaken (r.preferred ++ "_") then r.preferred ++ "_"
    else ns.firstFree r.candidate (ns.forbidden.length + ns.bound.length) 2 :=
  rfl

/-- Some candidate within reach of the search is free. -/
theorem exists_free_candidate (ns : Namespace) {candidate : Nat → String}
    (hinj : Function.Injective candidate) :
    ∃ m, 2 ≤ m ∧ m ≤ 2 + (ns.forbidden.length + ns.bound.length) ∧
      ns.isTaken (candidate m) = false := by
  by_contra hall
  push Not at hall
  have hle := le_card_of_taken (n := 2 + (ns.forbidden.length + ns.bound.length) + 1) hinj
    fun k hk hlt => by simpa using hall k hk (by omega)
  have hcard := ns.card_takenNames_le
  omega

/-- Every request is answered by the rule. -/
theorem answer_chooses (ns : Namespace) (r : Request) : Chooses ns r (ns.answer r).1 := by
  rw [answer_name]
  split
  · next hfree => exact .preferred (by simpa using hfree)
  · split
    · next hescape =>
      simp only [Bool.and_eq_true, Bool.not_eq_true'] at hescape
      exact .escaped hescape.1 hescape.2
    · have hinj : Function.Injective r.candidate :=
        style_numbered_injective r.grammar r.role r.label
      obtain ⟨m, hfirst, hresult, hfree, hleast⟩ :=
        firstFree_least ns r.candidate _ 2 (ns.exists_free_candidate hinj)
      rw [hresult]
      exact .numbered m hfirst (le_card_of_taken hinj hleast) hfree hleast

/-- A name that the rule allows is free. -/
theorem Chooses.free {r : Request} (h : Chooses ns r w) : ns.isTaken w = false := by
  cases h with
  | preferred hfree => exact hfree
  | escaped _ hfree => exact hfree
  | numbered n _ _ hfree _ => exact hfree

/-- One answer gives a free name by the rule and binds that name alone. -/
theorem answer_spec (ns : Namespace) (r : Request) :
    Chooses ns r (ns.answer r).1 ∧ (ns.answer r).1 ∉ ns.forbidden ∧ (ns.answer r).1 ∉ ns.bound ∧
      (ns.answer r).2.forbidden = ns.forbidden ∧
      ∀ w, w ∈ (ns.answer r).2.bound ↔ w ∈ ns.bound ∨ w = (ns.answer r).1 := by
  have hfree : (ns.answer r).1 ∉ ns.takenNames := by
    rw [← isTaken_iff, (ns.answer_chooses r).free]
    decide
  simp only [takenNames, List.mem_toFinset, List.mem_append, not_or] at hfree
  exact ⟨ns.answer_chooses r, hfree.1, hfree.2, rfl, fun w => mem_insert_iff⟩

/-! ## Runs -/

/-- Answer requests one after the other: the names, and the scope that is left. -/
def run (ns : Namespace) : List Request → List String × Namespace
  | [] => ([], ns)
  | r :: rest => ((ns.answer r).1 :: ((ns.answer r).2.run rest).1, ((ns.answer r).2.run rest).2)

/-- Answering a sequence of requests is answering its first part and then the rest. -/
theorem run_append (ns : Namespace) (before after : List Request) :
    ns.run (before ++ after)
      = ((ns.run before).1 ++ ((ns.run before).2.run after).1, ((ns.run before).2.run after).2) := by
  induction before generalizing ns with
  | nil => rfl
  | cons r rest ih => simp [run, ih]

/-- Every request is answered. -/
theorem length_run (ns : Namespace) (requests : List Request) :
    (ns.run requests).1.length = requests.length := by
  induction requests generalizing ns with
  | nil => rfl
  | cons r rest ih => simp [run, ih]

/-- No answer changes what the scope forbids. -/
theorem run_forbidden (ns : Namespace) (requests : List Request) :
    (ns.run requests).2.forbidden = ns.forbidden := by
  induction requests generalizing ns with
  | nil => rfl
  | cons r rest ih => exact (ih _).trans (ns.answer_spec r).2.2.2.1

/-- The scope ends with the names bound at the start and those it has given. -/
theorem mem_run_bound (ns : Namespace) (requests : List Request) :
    w ∈ (ns.run requests).2.bound ↔ w ∈ ns.bound ∨ w ∈ (ns.run requests).1 := by
  induction requests generalizing ns with
  | nil => simp [run]
  | cons r rest ih =>
      obtain ⟨-, -, -, -, hbound⟩ := ns.answer_spec r
      simp only [run, ih, hbound, List.mem_cons]
      tauto

/-- The names that a run gives are not taken when it starts. -/
theorem run_disjoint (ns : Namespace) (requests : List Request) :
    (ns.run requests).1.Disjoint (ns.forbidden ++ ns.bound) := by
  induction requests generalizing ns with
  | nil => exact List.disjoint_nil_left _
  | cons r rest ih =>
      obtain ⟨-, hforbidden, hunbound, hsame, hbound⟩ := ns.answer_spec r
      refine List.disjoint_cons_left.2 ⟨?_, fun w hw htaken => ih (ns.answer r).2 hw ?_⟩
      · simp [hforbidden, hunbound]
      · simp only [hsame, List.mem_append, hbound] at htaken ⊢
        tauto

/-- A run gives no name twice. -/
theorem run_nodup (ns : Namespace) (requests : List Request) : (ns.run requests).1.Nodup := by
  induction requests generalizing ns with
  | nil => exact List.nodup_nil
  | cons r rest ih =>
      obtain ⟨-, -, -, -, hbound⟩ := ns.answer_spec r
      refine List.nodup_cons.2 ⟨fun hagain => ?_, ih _⟩
      refine run_disjoint (ns.answer r).2 rest hagain ?_
      simp [hbound]

/-- Whatever is asked of a new scope, all names are different and none is forbidden. Each request
is answered by the rule, with a name that no earlier one was given, and adds that name alone to
the bound ones. -/
theorem run_names_apart (name : String) (forbidden : List String) (before after : List Request)
    (r : Request) :
    let start := ofForbidden name forbidden
    let final := start.run (before ++ r :: after)
    let earlier := start.run before
    let chosen := earlier.2.answer r
    (final.1.length = (before ++ r :: after).length ∧ final.1.Nodup ∧ final.1.Disjoint forbidden) ∧
      final.1 = earlier.1 ++ chosen.1 :: (chosen.2.run after).1 ∧
      Chooses earlier.2 r chosen.1 ∧
      earlier.2.forbidden = forbidden ∧
      (∀ w, w ∈ earlier.2.bound ↔ w ∈ earlier.1) ∧
      chosen.1 ∉ forbidden ∧ chosen.1 ∉ earlier.1 ∧
      ∀ w, w ∈ chosen.2.bound ↔ w ∈ earlier.2.bound ∨ w = chosen.1 := by
  intro start final earlier chosen
  have hempty : start.forbidden ++ start.bound = forbidden := List.append_nil forbidden
  have hforbidden : earlier.2.forbidden = forbidden := start.run_forbidden before
  have hbound : ∀ w, w ∈ earlier.2.bound ↔ w ∈ earlier.1 := by
    intro w
    exact (start.mem_run_bound before).trans (or_iff_right List.not_mem_nil)
  obtain ⟨hchooses, hallowed, hunbound, -, hgrown⟩ := earlier.2.answer_spec r
  refine ⟨⟨start.length_run _, start.run_nodup _, hempty ▸ start.run_disjoint _⟩, ?_, hchooses,
    hforbidden, hbound, ?_, ?_, hgrown⟩
  · simp only [final, run_append, run]
    rfl
  · exact hforbidden ▸ hallowed
  · exact fun hmem => hunbound ((hbound _).2 hmem)

end Namespace

end TypedJson.Naming
