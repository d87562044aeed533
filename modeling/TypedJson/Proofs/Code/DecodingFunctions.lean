import TypedJson.Proofs.Code.Steps
import TypedJson.Proofs.Value.Fields

/-!
# Decoding functions of classes

The class of a record decodes dicts by a function that checks its argument, assigns the converted
entries one by one and calls the class with them. The lines of it are read as such a definition
(`find?_fromDict`), and a call of the definition constructs an object if every entry is converted,
and raises otherwise (`calls_fromDictDefinition`).
-/

namespace TypedJson.Code

open Naming Script

/-! ## Reading -/

/-- The expression `isinstance(obj, dict)`. -/
def testOfObj : Expr :=
  .call (.name "isinstance") [.name "obj", .name "dict"]

/-- The expression that calls a class with what was assigned. -/
def constructorCall (name : String) (names : List String) : Expr :=
  .call (.name name) (names.map .name)

/-- The expression that looks up a key in the argument of a decoding function. -/
def lookupInObj (key : String) : Expr :=
  .call (.member (.name "obj") "get") [.text key]

/-- It can be written and read. -/
theorem printable_lookupInObj (key : String) : (lookupInObj key).Printable :=
  .call (.member (.name (isName_of_chars rfl rfl rfl rfl)) rfl (isName_of_chars rfl rfl rfl rfl)) rfl
    (List.forall_mem_singleton.2 (.text key))

/-- It is written as the generator writes it. -/
theorem chars_lookupInObj (marked : Bool) (key : String) :
    (lookupInObj key).chars marked = ("obj.get(" ++ literal marked key ++ ")").toList := by
  have hliteral : (literal marked key).toList = literalChars marked key.toList :=
    String.toList_ofList
  rw [String.toList_append, String.toList_append, hliteral]
  rfl

/-- Assignments, and behind them the call of a class with what some names stand for. -/
def assignAndConstruct (name : String) (names : List String) (assignments : List (String × Expr)) :
    List Statement :=
  (assignments.map fun a => .assign a.1 a.2) ++ [.return (constructorCall name names)]

/-- The function that decodes dicts, given the class and what is assigned. -/
def fromDictDefinition (name : String) (assignments : List (String × Expr)) : Definition :=
  ⟨"from_dict", ["obj"],
    .assert testOfObj :: assignAndConstruct name (assignments.map Prod.fst) assignments⟩

/-- A field is assigned what an expression, written as the given text, stands for. -/
structure WritesField (marked : Bool) (v : Field × String) (a : String × Expr) : Prop where
  name : v.1.name = a.1
  isName : IsName a.1
  printable : a.2.Printable
  chars : a.2.chars marked = v.2.toList

variable {marked : Bool} {name : String} {values : List (Field × String)}
  {assignments : List (String × Expr)}

/-- The first line of the function names it and its parameter. -/
theorem signature?_fromDict (returned : Option String) :
    signature? (match returned with
      | some hint => "def from_dict(obj: Any) -> " ++ hint ++ ":"
      | none => "def from_dict(obj):").toList = some ("from_dict", ["obj"]) := by
  cases returned with
  | none => exact (congrArg signature? String.toList_ofList).trans rfl
  | some hint =>
      show signature? ("def from_dict(obj: Any) -> " ++ hint ++ ":").toList = _
      rw [String.toList_append, String.toList_append, List.append_assoc]
      rfl

/-- The first line of the function is not indented. -/
theorem startsDark_fromDict (returned : Option String) :
    StartsDark (match returned with
      | some hint => "def from_dict(obj: Any) -> " ++ hint ++ ":"
      | none => "def from_dict(obj):") := by
  cases returned with
  | none => exact startsDark_ofList (by decide)
  | some hint => exact ((startsDark_ofList (by decide)).append hint).append ":"

/-- The texts of names, with commas between them. -/
theorem chars_constructorCall (names : List String) :
    (constructorCall name names).chars marked =
      (name ++ "(" ++ ", ".intercalate names ++ ")").toList := by
  show name.toList ++ '(' :: separated [',', ' '] (itemChars marked (names.map .name)) ++ [')'] = _
  rw [itemChars_eq, List.map_map, separated_eq_intercalate]
  simp only [String.toList_append, String.toList_intercalate, List.append_assoc]
  rfl

/-- The lines of the body of the function. -/
def fromDictTexts (name : String) (values : List (Field × String)) : List String :=
  "assert isinstance(obj, dict)" :: (values.map fun v => v.1.name ++ " = " ++ v.2) ++
    ["return " ++ name ++ "(" ++ ", ".intercalate (values.map fun v => v.1.name) ++ ")"]

/-- They are read as its statements. -/
theorem readsLine_fromDict (hname : IsName name)
    (h : List.Forall₂ (WritesField marked) values assignments) :
    List.Forall₂ ReadsLine (fromDictTexts name values)
      (fromDictDefinition name assignments).body := by
  have htest : testOfObj.Printable := by
    refine .call (.name (isName_of_chars rfl rfl rfl rfl)) rfl ?_
    rintro _ (_ | ⟨_, _ | ⟨_, ⟨⟩⟩⟩)
    · exact .name (isName_of_chars rfl rfl rfl rfl)
    · exact .name (isName_of_chars rfl rfl rfl rfl)
  have hcall : (constructorCall name (assignments.map Prod.fst)).Printable := by
    refine .call (.name hname) rfl fun e he => ?_
    obtain ⟨word, hword, rfl⟩ := List.mem_map.1 he
    obtain ⟨a, ha, rfl⟩ := List.mem_map.1 hword
    obtain ⟨v, -, hva⟩ := exists_of_forall₂ h ha
    exact .name hva.isName
  have hnames : values.map (fun v => v.1.name) = assignments.map Prod.fst := by
    rw [← List.forall₂_eq_eq_eq, List.forall₂_map_left_iff, List.forall₂_map_right_iff]
    exact h.imp fun v a hva => hva.name
  have hlines : List.Forall₂ ReadsLine (values.map fun v => v.1.name ++ " = " ++ v.2)
      (assignments.map fun a => .assign a.1 a.2) := by
    rw [List.forall₂_map_left_iff, List.forall₂_map_right_iff]
    refine h.imp fun v a hva => readsLine_assign marked hva.isName hva.printable ?_
    rw [hva.name, hva.chars, String.toList_append, String.toList_append, List.append_assoc]
    rfl
  refine .cons (readsLine_check marked htest rfl) (List.rel_append hlines
    (.cons (readsLine_result marked hcall ?_) .nil))
  rw [hnames, chars_constructorCall]
  simp only [String.toList_append, List.append_assoc]
  rfl

/-- They are indented alike, and none of them starts a definition. -/
theorem starts_fromDict (h : List.Forall₂ (WritesField marked) values assignments) :
    ∀ text ∈ fromDictTexts name values, StartsDark text ∧ signature? text.toList = none := by
  intro text htext
  rcases List.mem_append.1 htext with htext | htext
  · obtain rfl | htext := List.mem_cons.1 htext
    · exact ⟨startsDark_ofList (by decide), (congrArg signature? String.toList_ofList).trans rfl⟩
    · obtain ⟨v, hv, rfl⟩ := List.mem_map.1 htext
      obtain ⟨a, -, hva⟩ := exists_of_forall₂ h.flip hv
      rw [hva.name]
      refine ⟨(hva.isName.startsDark.append _).append _, ?_⟩
      rw [String.toList_append, String.toList_append, List.append_assoc]
      exact signature?_of_name hva.isName rfl _
  · obtain rfl := List.mem_singleton.1 htext
    have hreturn : StartsDark "return " := startsDark_ofList (by decide)
    refine ⟨(((hreturn.append name).append "(").append _).append ")", ?_⟩
    simp only [String.toList_append, List.append_assoc]
    rfl

/-- The lines that are written for the function, in front of others. -/
theorem linesAt_fromDict (h : List.Forall₂ (WritesField marked) values assignments)
    (returned : Option String) (rest : List Step) :
    linesAt 0 (fromDictSteps name returned values ++ rest) =
      ⟨0, "@staticmethod".toList⟩ :: ⟨0, (match returned with
        | some hint => "def from_dict(obj: Any) -> " ++ hint ++ ":"
        | none => "def from_dict(obj):").toList⟩ ::
      (((fromDictTexts name values).map fun text => ⟨4, text.toList⟩) ++ linesAt 0 rest) := by
  have hsteps : fromDictSteps name returned values ++ rest =
      .line "@staticmethod" :: .line (match returned with
        | some hint => "def from_dict(obj: Any) -> " ++ hint ++ ":"
        | none => "def from_dict(obj):") ::
      (indented ((fromDictTexts name values).map .line) ++ rest) := by
    unfold fromDictSteps fromDictTexts
    simp only [List.map_cons, List.map_append, List.map_map, Function.comp_def]
    rfl
  rw [hsteps, linesAt_line (startsDark_ofList (by decide)), linesAt_line (startsDark_fromDict returned),
    linesAt_indented fun text htext => (starts_fromDict h text htext).1]

/-- The function is read from the lines of the class, whatever stands behind it. -/
theorem find?_fromDict (hname : IsName name)
    (h : List.Forall₂ (WritesField marked) values assignments) (returned : Option String)
    {rest : List Step} (hrest : inside 0 (linesAt 0 rest) = []) :
    Definition.find? "from_dict" (linesOf (fromDictSteps name returned values ++ rest)) =
      some (fromDictDefinition name assignments) := by
  show Definition.find? "from_dict" (linesAt 0 _) = _
  rw [linesAt_fromDict h, find?_cons ((congrArg signature? String.toList_ofList).trans rfl)]
  exact find?_lines (signature?_fromDict returned) (readsLine_fromDict hname h) hrest

/-- A definition of another name is looked for behind the function. -/
theorem find?_behind_fromDict {other : String} (hother : other ≠ "from_dict")
    (h : List.Forall₂ (WritesField marked) values assignments) (returned : Option String)
    (rest : List Step) :
    Definition.find? other (linesOf (fromDictSteps name returned values ++ rest)) =
      Definition.find? other (linesAt 0 rest) := by
  show Definition.find? other (linesAt 0 _) = _
  rw [linesAt_fromDict h, find?_cons ((congrArg signature? String.toList_ofList).trans rfl),
    Definition.find?, signature?_fromDict]
  show (if "from_dict" = other then _ else _) = _
  rw [if_neg hother.symm]
  refine find?_append fun line hline => ?_
  obtain ⟨text, htext, rfl⟩ := List.mem_map.1 hline
  exact (starts_fromDict h text htext).2

/-! ## Running -/

variable {P : Program} {c : RecordClass} {v : Value} {ρ : Frame}

/-- The function hides no name of the module, and `obj` stands for its argument. -/
structure Inside (P : Program) (v : Value) (ρ : Frame) : Prop where
  clear : ρ.Clear P
  argument : ρ.locals.lookup "obj" = some (.data v)

/-- It stands for the entry of the key. -/
theorem evals_lookupInObj {entries : List (String × Value)}
    (h : ρ.locals.lookup "obj" = some (.data (.dict entries))) (key : String) :
    Evals P ρ (lookupInObj key) (.ok (.data (valueOf key entries))) := by
  have hobj : Evals P ρ (.name "obj") (.ok (.data (.dict entries))) := by
    have hevals := evals_name (P := P) (ρ := ρ) "obj"
    rwa [Program.lookup, h] at hevals
  have hkey : Evals P ρ (.text key) (.ok (.data (.str key))) := settles_const _
  refine (hobj.member "get").call (r := fun _ => .ok (.data (valueOf key entries)))
    (EvalsItems.cons hkey evalsItems_nil) fun xs hxs => ?_
  cases hxs
  exact Calls.of_step (settles_const _)

/-- Names that are bound to values stand for them one by one. -/
theorem evalsItems_names {bound : List (String × Value)}
    (h : ∀ b ∈ bound, ρ.locals.lookup b.1 = some (.data b.2)) :
    EvalsItems P ρ ((bound.map Prod.fst).map .name) (.ok ((bound.map Prod.snd).map .data)) := by
  induction bound with
  | nil => exact evalsItems_nil
  | cons b rest ih =>
      rw [List.forall_mem_cons] at h
      have hname : Evals P ρ (.name b.1) (.ok (.data b.2)) := by
        have hevals := evals_name (P := P) (ρ := ρ) b.1
        rwa [Program.lookup, h.1] at hevals
      exact EvalsItems.cons hname (ih h.2)

/-- Statements behind an assignment are run with what it binds. -/
theorem execAll_assign (call : Entity → List Entity → Run Entity) (name : String) (e : Expr)
    (rest : List Statement) : execAll P call (.assign name e :: rest) ρ =
      eval P call e ρ >>= fun x => execAll P call rest (ρ.bind name x) := by
  show ((eval P call e ρ >>= fun x => pure (ρ.bind name x, none)) >>= _) = _
  cases eval P call e ρ <;> rfl

/-- Statements behind a check are run if it passes. -/
theorem execAll_assert {call : Entity → List Entity → Run Entity} {e : Expr} {passed : Bool}
    (h : eval P call e ρ = .ok (.data (.bool passed))) (rest : List Statement) :
    execAll P call (.assert e :: rest) ρ =
      if passed then execAll P call rest ρ else .error .raised := by
  show ((eval P call e ρ >>= fun x => x.truth >>= fun b =>
    if b then pure (ρ, none) else .error .raised) >>= _) = _
  rw [h]
  cases passed <;> rfl

/-- Assignments are run one by one, and then the class is called with what they assigned, and with
what was bound before. -/
theorem settles_assignAndConstruct (hclass : P.global? name = some (.recordClass c))
    {names : List String} (hnodup : names.Nodup) {rest : List (String × Expr)}
    {results : List (Run Value)}
    (h : List.Forall₂ (fun a r => ∀ ρ, Inside P v ρ → Evals P ρ a.2 (r.map .data)) rest results)
    (hfree : ∀ a ∈ rest, P.global? a.1 = none ∧ a.1 ≠ "obj") {bound : List (String × Value)} (hρ : Inside P v ρ)
    (hbound : ∀ b ∈ bound, ρ.locals.lookup b.1 = some (.data b.2))
    (hnames : names = bound.map Prod.fst ++ rest.map Prod.fst) :
    Settles (fun n => execAll P (P.callWithin n) (assignAndConstruct name names rest) ρ >>=
        fun behind => pure (behind.2.getD (.data .none)))
      (results.mapM id >>= fun ws => c.construct ((bound.map Prod.snd ++ ws).map .data)) := by
  induction h generalizing bound ρ with
  | nil =>
      rw [List.map_nil, List.append_nil] at hnames
      have hname : Evals P ρ (.name name) (.ok (.recordClass c)) := by
        have hevals := evals_name (P := P) (ρ := ρ) name
        rwa [hρ.clear.lookup hclass] at hevals
      have hcall : Evals P ρ (constructorCall name names)
          (c.construct ((bound.map Prod.snd).map .data)) := by
        rw [hnames]
        exact hname.call (r := fun xs => c.construct xs) (evalsItems_names hbound) fun xs _ =>
          Calls.of_step (settles_const _)
      refine hcall.imp fun n hn => ?_
      show (((eval P (P.callWithin n) _ ρ >>= fun e => pure (ρ, some e)) >>= _) >>= _) = _
      rw [hn]
      show _ = c.construct ((bound.map Prod.snd ++ []).map .data)
      rw [List.append_nil]
      cases c.construct ((bound.map Prod.snd).map .data) <;> rfl
  | @cons a r rest results hevals _ ih =>
      rw [List.forall_mem_cons] at hfree
      obtain ⟨⟨hglobal, hobj⟩, hfree⟩ := hfree
      have hrun (n : Nat) : execAll P (P.callWithin n) (assignAndConstruct name names (a :: rest)) ρ =
          eval P (P.callWithin n) a.2 ρ >>= fun x =>
            execAll P (P.callWithin n) (assignAndConstruct name names rest) (ρ.bind a.1 x) :=
        execAll_assign _ _ _ _
      simp only [hrun, List.mapM_cons]
      cases r with
      | error stop =>
          refine (hevals ρ hρ).imp fun n hn => ?_
          rw [hn]
          rfl
      | ok w =>
          have hne {other : String} (h : other ≠ a.1) : (other == a.1) = false := by
            rwa [beq_eq_false_iff_ne]
          have hnext : Inside P v (ρ.bind a.1 (.data w)) :=
            ⟨hρ.clear.bind hglobal _, (lookup_bind (hne hobj.symm) _).trans hρ.argument⟩
          -- Names differ, so that a new binding hides none of those in front of it.
          have hfresh : a.1 ∉ bound.map Prod.fst := fun hmem =>
            List.disjoint_of_nodup_append (hnames ▸ hnodup) hmem List.mem_cons_self
          have hmore : ∀ b ∈ bound ++ [(a.1, w)],
              (ρ.bind a.1 (.data w)).locals.lookup b.1 = some (.data b.2) := by
            intro b hb
            rcases List.mem_append.1 hb with hb | hb
            · have hother : b.1 ≠ a.1 := fun h => hfresh (h ▸ List.mem_map_of_mem hb)
              exact (lookup_bind (hne hother) _).trans (hbound b hb)
            · obtain rfl := List.mem_singleton.1 hb
              exact List.lookup_cons_self
          have hrest := ih hfree hnext hmore (by rw [hnames, List.map_append, List.append_assoc]; rfl)
          refine (hevals ρ hρ).imp₂ hrest fun n hn hn' => ?_
          rw [hn]
          refine Eq.trans hn' ?_
          show _ = (results.mapM id >>= fun ws => pure (w :: ws)) >>= _
          simp only [List.map_append, List.append_assoc]
          cases results.mapM id <;> rfl

/-- The names that the function assigns. -/
theorem assignedIn_assignAndConstruct (names : List String) :
    assignedIn (assignAndConstruct name names assignments) = assignments.map Prod.fst := by
  induction assignments with
  | nil => rfl
  | cons a rest ih => exact congrArg (a.1 :: ·) ih

/-- A call of the function with a dict constructs an object of what the entries are converted to,
and a call with anything else raises. -/
theorem calls_fromDictDefinition {f : Features} (hP : P.Supports f)
    (hclass : P.global? name = some (.recordClass c)) (hobj : P.global? "obj" = none)
    (hnodup : (assignments.map Prod.fst).Nodup)
    (hfree : ∀ a ∈ assignments, P.global? a.1 = none ∧ a.1 ≠ "obj") {results : List (Run Value)}
    {passed : Bool} (hpassed : Builtin.tests? .dict v = some passed)
    (h : passed → List.Forall₂ (fun a r => ∀ ρ, Inside P v ρ → Evals P ρ a.2 (r.map .data))
      assignments results) :
    Calls P (.function (fromDictDefinition name assignments)) [.data v]
      (if passed then results.mapM id >>= fun ws => c.construct (ws.map .data)
        else .error .raised) := by
  let ρ : Frame := ⟨[("obj", .data v)], assignments.map Prod.fst⟩
  have hρ : Inside P v ρ := by
    refine ⟨clear_of_names ?_ fun word hword => ?_, rfl⟩
    · rintro _ (_ | ⟨_, ⟨⟩⟩)
      exact hobj
    · obtain ⟨a, ha, rfl⟩ := List.mem_map.1 hword
      exact (hfree a ha).1
  -- The test at the start reads only names of the language and the argument.
  have htest (n : Nat) : eval P (P.callWithin (n + 1)) testOfObj ρ = .ok (.data (.bool passed)) := by
    show (P.lookup ρ "isinstance" >>= fun g => (P.lookup ρ "obj" >>= fun x =>
      (P.lookup ρ "dict" >>= fun t => pure [t]) >>= fun es => pure (x :: es)) >>=
        P.callWithin (n + 1) g) = _
    have hisinstance : P.lookup ρ "isinstance" = .ok (.builtin .isinstance) :=
      hρ.clear.lookup (hP.builtin rfl)
    have hdict : P.lookup ρ "dict" = .ok (.builtin .dict) := hρ.clear.lookup (hP.builtin rfl)
    rw [hisinstance, hdict]
    exact Program.callBuiltin_isinstance (P := P) hpassed
  have hrun (n : Nat) : (fromDictDefinition name assignments).run P (P.callWithin (n + 1)) [.data v] =
      if passed then execAll P (P.callWithin (n + 1))
          (assignAndConstruct name (assignments.map Prod.fst) assignments) ρ >>= fun behind =>
            pure (behind.2.getD (.data .none))
      else .error .raised := by
    have hframe : (⟨(fromDictDefinition name assignments).parameters.zip [.data v],
        assignedIn (fromDictDefinition name assignments).body⟩ : Frame) = ρ :=
      congrArg (Frame.mk _) (assignedIn_assignAndConstruct _)
    rw [Definition.run, if_neg (by simp [fromDictDefinition])]
    dsimp only
    rw [hframe]
    show (execAll P (P.callWithin (n + 1)) (.assert testOfObj :: _) ρ >>= _) = _
    rw [execAll_assert (htest n)]
    cases passed <;> rfl
  cases passed with
  | false =>
      refine Calls.of_step ⟨1, fun n hn => ?_⟩
      obtain ⟨n, rfl⟩ : ∃ k, n = k + 1 := ⟨n - 1, by omega⟩
      exact hrun n
  | true =>
      obtain ⟨least, hleast⟩ := settles_assignAndConstruct hclass hnodup (h rfl) hfree hρ
        (List.forall_mem_nil _) rfl
      refine Calls.of_step ⟨least + 1, fun n hn => ?_⟩
      obtain ⟨n, rfl⟩ : ∃ k, n = k + 1 := ⟨n - 1, by omega⟩
      exact (hrun n).trans (hleast (n + 1) (by omega))

end TypedJson.Code
