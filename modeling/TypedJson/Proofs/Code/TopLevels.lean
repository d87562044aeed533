import TypedJson.Proofs.Code.Annotations
import TypedJson.Proofs.Code.Classes

/-!
# Functions of top-levels

A top-level has a function that decodes its type and one that encodes it, under names of their own.
Both are read from the lines that are written for the top-level, with and without annotations
(`Context.exists_functions`).
-/

namespace TypedJson.Code

open Naming Script

/-! ## Names of functions -/

/-- The names of the functions of a top-level are names, not spoken for, and differ. -/
def NameTable.FunctionsApart (names : NameTable) : Prop :=
  ∀ (i : Nat) (pair : TopLevelNames), names.topLevels[i]? = some pair →
    (∀ name ∈ [pair.fromDict, pair.toDict], IsName name ∧ name ∉ globalForbidden) ∧
      pair.fromDict ≠ pair.toDict

/-- The names of a module are identifiers. -/
theorem isIdentifier_moduleNames {graph : TypeGraph} {o : Options} {name : String}
    (h : name ∈ (NameTable.assign graph o).moduleNames) :
    o.features.grammar.IsIdentifier name.toList := by
  rw [NameTable.moduleNames_assign] at h
  refine Namespace.forall_run (p := fun name => o.features.grammar.IsIdentifier name.toList) ?_ _
    name h
  intro request hrequest ns w hw
  rcases List.mem_append.1 hrequest with hrequest | hrequest
  · obtain ⟨entry, -, rfl⟩ := List.mem_map.1 hrequest
    exact hw.isIdentifier
  · obtain ⟨top, -, hrequest⟩ := List.mem_flatMap.1 hrequest
    rcases List.mem_cons.1 hrequest with rfl | hrequest
    · exact hw.isIdentifier
    · obtain rfl := List.mem_singleton.1 hrequest
      exact hw.isIdentifier

/-- The functions of top-levels are named apart. -/
theorem NameTable.functionsApart_assign (graph : TypeGraph) (o : Options) :
    (assign graph o).FunctionsApart := by
  intro i pair hpair
  have hmem := List.mem_of_getElem? hpair
  have hnodup : (TopLevelNames.flatten (assign graph o).topLevels).Nodup :=
    (List.nodup_append.1 (scoped_assign graph o).moduleNodup).2.1
  refine ⟨fun name hname => ?_, ?_⟩
  · have hmodule : name ∈ (assign graph o).moduleNames :=
      List.mem_append_right _ (List.mem_flatMap.2 ⟨pair, hmem, hname⟩)
    have hfree := not_mem_globalForbidden_of_module hmodule
    have hkeyword := (not_mem_globalForbidden.1 hfree).1
    exact ⟨isName_of_isIdentifier (isIdentifier_moduleNames hmodule) hkeyword, hfree⟩
  · have hpair := (List.nodup_flatMap.1 hnodup).1 pair hmem
    exact fun heq => (List.nodup_cons.1 hpair).1 (List.mem_singleton.2 heq)

/-! ## Reading -/

/-- The function that gives back what an expression stands for. -/
def returning (name parameter : String) (result : Expr) : Definition :=
  ⟨name, [parameter], [.return result]⟩

/-- The first lines of the functions of a top-level. -/
def topLevelSignatures (names : TopLevelNames) : Option String → String × String
  | some hint =>
    ("def " ++ names.fromDict ++ "(s: Any) -> " ++ hint ++ ":",
      "def " ++ names.toDict ++ "(x: " ++ hint ++ ") -> Any:")
  | none => ("def " ++ names.fromDict ++ "(s):", "def " ++ names.toDict ++ "(x):")

variable {names : TopLevelNames} {hint : Option String} {decode encode : String}

/-- They name the functions and their parameters. -/
theorem signature?_topLevel (hnames : ∀ name ∈ [names.fromDict, names.toDict], IsName name)
    (hhint : ∀ text ∈ hint, PassedOver text.toList) :
    signature? (topLevelSignatures names hint).1.toList = some (names.fromDict, ["s"]) ∧
      signature? (topLevelSignatures names hint).2.toList = some (names.toDict, ["x"]) := by
  have hread {name text : String} (rest : List Char) {parameters : List String}
      (hname : name ∈ [names.fromDict, names.toDict])
      (htext : text.toList = "def ".toList ++ name.toList ++ '(' :: rest)
      (hparameters : parameters? [] none rest = some parameters) :
      signature? text.toList = some (name, parameters) := by
    rw [htext, signature?_def (hnames name hname).chars, hparameters]
    rfl
  have hfirst : names.fromDict ∈ [names.fromDict, names.toDict] := List.mem_cons_self
  have hsecond : names.toDict ∈ [names.fromDict, names.toDict] :=
    List.mem_cons_of_mem _ List.mem_cons_self
  cases hint with
  | none =>
      constructor
      · refine hread "s):".toList hfirst ?_ rfl
        simp only [topLevelSignatures, String.toList_append]
        rfl
      · refine hread "x):".toList hsecond ?_ rfl
        simp only [topLevelSignatures, String.toList_append]
        rfl
  | some hint =>
      constructor
      · refine hread ("s: Any) -> ".toList ++ (hint.toList ++ ":".toList)) hfirst ?_ rfl
        simp only [topLevelSignatures, String.toList_append, List.append_assoc]
        rfl
      · refine hread ("x: ".toList ++ (hint.toList ++ ") -> Any:".toList)) hsecond ?_ ?_
        · simp only [topLevelSignatures, String.toList_append, List.append_assoc]
          rfl
        · exact hhint hint rfl ['x'] 0 _

/-- The lines of such a function. -/
def returningLines (signature result : String) : List Line :=
  [⟨0, signature.toList⟩, ⟨4, ("return " ++ result).toList⟩]

/-- The function is read from its lines. -/
theorem find?_returning {marked : Bool} {signature name parameter result : String} {e : Expr}
    (hsignature : signature? signature.toList = some (name, [parameter])) (he : e.Printable)
    (hchars : e.chars marked = result.toList) (rest : List Line) (hrest : inside 0 rest = []) :
    Definition.find? name (returningLines signature result ++ rest) =
      some (returning name parameter e) := by
  have hline : ReadsLine ("return " ++ result) (.return e) := by
    refine readsLine_result marked he ?_
    rw [hchars, String.toList_append]
    rfl
  exact find?_lines hsignature (.cons hline .nil) hrest

/-- A function of another name is looked for behind it. -/
theorem find?_behind_returning {signature name other parameter : String}
    (hsignature : signature? signature.toList = some (name, [parameter])) (hother : other ≠ name)
    (result : String) (rest : List Line) :
    Definition.find? other (returningLines signature result ++ rest) =
      Definition.find? other rest := by
  have hreturn : signature? ("return " ++ result).toList = none := by
    rw [String.toList_append]
    rfl
  rw [returningLines, List.cons_append, Definition.find?, hsignature]
  show (if name = other then _ else _) = _
  rw [if_neg hother.symm, List.cons_append, find?_cons hreturn, List.nil_append]

/-- The lines of a top-level, in front of others. -/
theorem linesAt_topLevel (names : TopLevelNames) (hint : Option String) (decode encode : String)
    (rest : List Step) :
    linesAt 0 (topLevelSteps names hint decode encode ++ rest) =
      returningLines (topLevelSignatures names hint).1 decode ++
        (returningLines (topLevelSignatures names hint).2 encode ++ linesAt 0 rest) := by
  have hreturn (text : String) : StartsDark ("return " ++ text) :=
    StartsDark.append (startsDark_ofList (by decide)) text
  have hdef : StartsDark "def " := startsDark_ofList (by decide)
  have hsignatures : StartsDark (topLevelSignatures names hint).1 ∧
      StartsDark (topLevelSignatures names hint).2 := by
    cases hint with
    | none => exact ⟨(hdef.append _).append _, (hdef.append _).append _⟩
    | some text =>
        exact ⟨(((hdef.append _).append _).append _).append _,
          (((hdef.append _).append _).append _).append _⟩
  have hsteps : topLevelSteps names hint decode encode =
      .enter .topLevels :: .line (topLevelSignatures names hint).1 ::
        (indented [.line ("return " ++ decode)] ++ .blank 2 ::
          .line (topLevelSignatures names hint).2 ::
            (indented [.line ("return " ++ encode)] ++ [.blank 2])) := by
    cases hint <;> rfl
  rw [hsteps, List.cons_append, linesAt_enter, List.cons_append, linesAt_line hsignatures.1,
    List.append_assoc]
  show _ :: linesAt 1 (.line _ :: .dedent :: .blank 2 :: .line _ :: _) = _
  rw [linesAt_line (hreturn decode)]
  show _ :: _ :: linesAt 0 (.line _ :: _) = _
  rw [linesAt_line hsignatures.2]
  show _ :: _ :: _ :: linesAt 1 (.line _ :: .dedent :: .blank 2 :: rest) = _
  rw [linesAt_line (hreturn encode)]
  rfl

/-- The functions of a top-level are read from its lines, and nothing else is. -/
theorem find?_topLevel {marked : Bool} {e e' : Expr}
    (hnames : ∀ name ∈ [names.fromDict, names.toDict], IsName name)
    (hne : names.fromDict ≠ names.toDict) (hhint : ∀ text ∈ hint, PassedOver text.toList)
    (he : e.Printable) (hchars : e.chars marked = decode.toList) (he' : e'.Printable)
    (hchars' : e'.chars marked = encode.toList) {d : Definition} :
    (∃ name, Definition.find? name (linesOf (topLevelSteps names hint decode encode)) = some d) ↔
      d = returning names.fromDict "s" e ∨ d = returning names.toDict "x" e' := by
  obtain ⟨hfirst, hsecond⟩ := signature?_topLevel hnames hhint
  have hlines : linesOf (topLevelSteps names hint decode encode) = _ :=
    (congrArg (linesAt 0) (List.append_nil _).symm).trans (linesAt_topLevel names hint _ _ [])
  have hdecode := find?_returning hfirst he hchars
    (returningLines (topLevelSignatures names hint).2 encode ++ linesAt 0 []) rfl
  have hencode := (find?_behind_returning hfirst hne.symm decode _).trans
    (find?_returning hsecond he' hchars' (linesAt 0 []) rfl)
  rw [hlines]
  constructor
  · rintro ⟨name, hd⟩
    by_cases hname : name = names.fromDict
    · subst hname
      exact .inl (Option.some.inj (hd.symm.trans hdecode))
    · by_cases hname' : name = names.toDict
      · subst hname'
        exact .inr (Option.some.inj (hd.symm.trans hencode))
      · rw [find?_behind_returning hfirst hname, find?_behind_returning hsecond hname'] at hd
        cases hd
  · rintro (rfl | rfl)
    · exact ⟨_, hdecode⟩
    · exact ⟨_, hencode⟩

namespace Context

variable {ctx : Context}

/-- What is written for a top-level are its functions. -/
theorem topLevel_of_yields (hnames : ctx.names.Apart) {declared : List TypeRef} {top : TopLevel}
    {i : Nat} {part : List Step} (h : (ctx.topLevel declared top i).Yields part) :
    ∃ names hint decode encode, ctx.names.topLevels[i]? = some names ∧
      (∀ text ∈ hint, PassedOver text.toList) ∧
      (ctx.convertValue .decode "s" top.type).Yields decode ∧
      (ctx.convertValue .encode "x" top.type).Yields encode ∧
      part = topLevelSteps names hint decode encode := by
  obtain ⟨names, hfunctions, h⟩ := h.bind
  obtain ⟨decode, hdecode, h⟩ := h.bind
  obtain ⟨encode, hencode, h⟩ := h.bind
  have hlookup : ctx.names.topLevels[i]? = some names := by
    have hfunctions := hfunctions.lift
    unfold NameTable.functionNames at hfunctions
    split at hfunctions
    next pair hpair => rw [hpair, Except.ok.inj hfunctions]
    next => cases hfunctions
  refine ⟨names, ?_⟩
  dsimp only at h
  split at h
  · obtain ⟨text, ⟨s, s', htext⟩, h⟩ := h.require.bind
    obtain ⟨hint, hhint, h⟩ := h.bind
    obtain rfl := hhint.pure
    refine ⟨some text, decode, encode, hlookup, ?_, hdecode, hencode, Gen.Yields.pure h⟩
    rintro _ ⟨⟩
    exact (annotateWithin_of_runs hnames htext).1
  · obtain ⟨hint, hhint, h⟩ := h.bind
    obtain rfl := hhint.pure
    exact ⟨none, decode, encode, hlookup, nofun, hdecode, hencode, Gen.Yields.pure h⟩

end Context

end TypedJson.Code
