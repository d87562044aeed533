import TypedJson.Proofs.Code.Exactness
import TypedJson.Proofs.Code.Wording

/-!
# The lines of a written module

A module is laid out from the lines of its own definitions, of support functions and of a header.
Under the names that are assigned to a graph, all of these are written with the vocabulary of the
module or with a description, and what is imported is of ASCII (`exists_laidOut`).
-/

namespace TypedJson.Code

open Naming Script

/-! ## Identifiers -/

namespace NameTable

/-- Whatever is assigned is an identifier. -/
theorem isIdentifier_words {graph : TypeGraph} {o : Options} {name : String}
    (h : name ∈ (assign graph o).words) : o.features.grammar.IsIdentifier name.toList := by
  rcases List.mem_append.1 h with h | h
  · rcases List.mem_append.1 h with h | h
    · exact isIdentifier_moduleNames h
    · obtain ⟨entry, hentry, hname⟩ := List.mem_flatMap.1 h
      rw [properties_assign] at hentry
      obtain ⟨t, -, ht⟩ := List.mem_filterMap.1 hentry
      obtain ⟨r, -, rfl⟩ := Option.map_eq_some_iff.1 ht
      exact isIdentifier_nameProperties hname
  · obtain ⟨entry, hentry, hname⟩ := List.mem_flatMap.1 h
    obtain ⟨t, -, ht⟩ := List.mem_filterMap.1 hentry
    obtain ⟨e, -, rfl⟩ := Option.map_eq_some_iff.1 ht
    rw [nameCases_eq] at hname
    refine Namespace.forall_run (p := fun name => o.features.grammar.IsIdentifier name.toList) ?_ _
      name hname
    intro request hrequest ns w hw
    obtain ⟨label, -, rfl⟩ := List.mem_map.1 hrequest
    exact hw.isIdentifier

/-- So it is a word. -/
theorem spelt_assign (graph : TypeGraph) (o : Options) : (assign graph o).Spelt :=
  fun _ hname c hc => isWordChar_of_isPart ((isIdentifier_words hname).admits c hc)

end NameTable

variable {names : NameTable} {descriptions : List String}

/-! ## Support functions and header -/

/-- The signatures of support functions are of the vocabulary. -/
theorem spelled_signature (hints : Bool) (cv : Converter) :
    Spelled names.vocabulary (cv.signature hints) := by
  have hall : ∀ text ∈ Converter.all.map (Converter.signature hints),
      Spelled names.vocabulary text := by
    cases hints <;>
      exact forall_texts (fun _ => spelled_fixed) (by repeat' constructor) (by decide +kernel)
  exact hall _ (List.mem_map_of_mem (by cases cv <;> decide))

/-- So are the lines of their bodies. -/
theorem spelled_body (f : Features) (cv : Converter) :
    ∀ text ∈ cv.body f, Spelled names.vocabulary text := by
  cases cv with
  | fromInt | fromFloat | fromStr | toClass =>
      dsimp only [Converter.body]
      split <;>
        exact forall_texts (fun _ => spelled_fixed) (by repeat' constructor) (by decide +kernel)
  | fromNone | fromBool | toFloat | fromDatetime | fromList | fromDict | fromUnion | isType
  | toEnum =>
      exact forall_texts (fun _ => spelled_fixed) (by repeat' constructor) (by decide +kernel)

/-- The type variables are. -/
theorem allLines_typeVariables (required : Requirements) :
    AllLines (IsWritten names descriptions) required.typeVariables := by
  refine .append (.step (.ite (fun _ => .line ?_ .nil) fun _ => .nil))
    (.ite (fun _ => .line ?_ .nil) fun _ => .nil)
  all_goals exact isWritten_fixed (by decide +kernel)

/-- The definitions of support functions are written with the vocabulary. -/
theorem allLines_definitions (f : Features) (required : Requirements) :
    AllLines (IsWritten names descriptions) (required.definitions f) := by
  refine .append (.ite (fun _ => allLines_typeVariables required) fun _ => .nil)
    (.step (.flatMap fun cv _ => ?_))
  have hbody : AllLines (IsWritten names descriptions) ((cv.body f).map .line) :=
    .map fun text htext => isWritten_of_spelled (spelled_body f cv text htext)
  exact .append (.line (isWritten_of_spelled (spelled_signature _ cv)) hbody.indented) (.step .nil)

/-- The header consists of comments. -/
theorem allLines_headerSteps (parsesDates : Bool) {functions : List TopLevelNames}
    (hfunctions : ∀ pair ∈ functions, pair.fromDict ∈ names.words) :
    AllLines (IsWritten names descriptions) (headerSteps parsesDates functions) := by
  have hcomment (text : List Char)
      (h : text.head? == some '#' && text.all (·.toNat < 0x80)) :
      Worded names (String.ofList text) := by
    simp only [Bool.and_eq_true, beq_iff_eq] at h
    obtain ⟨rest, hrest⟩ := List.head?_eq_some_iff.1 h.1
    exact worded_comment (String.toList_ofList.trans hrest) fun c hc => .inl (isAscii_fixed h.2 c hc)
  have hfunction : ∀ pair ∈ functions,
      Worded names ("#     result = " ++ pair.fromDict ++ "(json.loads(json_string))") := by
    intro pair hpair
    have hascii {text : String} (h : Code.IsAscii text) : ∀ c ∈ text.toList, IsOf names.vocabulary c :=
      fun c hc => .inl (h c hc)
    refine worded_comment (by simp only [String.toList_append]; rfl) ?_
    rw [String.toList_append, String.toList_append]
    exact List.forall_mem_append.2 ⟨List.forall_mem_append.2 ⟨hascii (isAscii_fixed rfl),
      isOf_word (List.mem_append_right _ (hfunctions pair hpair))⟩, hascii (isAscii_fixed rfl)⟩
  refine .step (.map fun text htext => .inl ?_)
  rcases List.mem_append.1 htext with htext | htext
  · rcases List.mem_append.1 htext with htext | htext
    · split at htext
      · exact forall_texts hcomment (by repeat' constructor) (by decide +kernel) text htext
      · cases htext
    · exact forall_texts hcomment (by repeat' constructor) (by decide +kernel) text htext
  · obtain ⟨pair, hpair, rfl⟩ := List.mem_map.1 htext
    exact hfunction pair hpair

/-! ## Imports -/

/-- Nothing is imported. -/
theorem isAscii_empty : Imports.empty.IsAscii where
  names := fun _ h => nomatch h
  modules := fun _ h => nomatch h

/-- Names of ASCII may be imported one after the other. -/
theorem Imports.IsAscii.foldl {imports : Imports} (h : imports.IsAscii) {module : String}
    (hmodule : Code.IsAscii module) {added : List String}
    (hadded : ∀ name ∈ added, Code.IsAscii name) :
    (added.foldl (fun i name => i.addName module name) imports).IsAscii := by
  induction added generalizing imports with
  | nil => exact h
  | cons name added ih =>
      obtain ⟨hname, hadded⟩ := List.forall_mem_cons.1 hadded
      exact ih (h.addName hmodule hname) hadded

/-- So may names on a condition. -/
theorem Imports.IsAscii.ite {c : Prop} [Decidable c] {imports others : Imports}
    (h : imports.IsAscii) (h' : others.IsAscii) : (if c then imports else others).IsAscii := by
  split
  · exact h
  · exact h'

/-- A support function imports names of ASCII. -/
theorem Imports.IsAscii.addImports {imports : Imports} (h : imports.IsAscii) (hints : Bool)
    (cv : Converter) : (cv.addImports hints imports).IsAscii := by
  have htyping : ∀ name ∈ cv.typingNames, Code.IsAscii name := by
    cases cv <;>
      exact forall_texts (fun _ => isAscii_fixed) (by repeat' constructor) (by decide +kernel)
  have hparserName : Code.IsAscii "dateutil.parser" := isAscii_fixed rfl
  have hdatetimeName : Code.IsAscii "datetime" := isAscii_fixed rfl
  have htypingName : Code.IsAscii "typing" := isAscii_fixed rfl
  have hparser := ite (c := cv = .fromDatetime) (h.addModule hparserName) h
  have hdatetime := ite (c := cv = .fromDatetime)
    (hparser.addName hdatetimeName hdatetimeName) hparser
  have hnamed := hdatetime.foldl htypingName htyping
  exact ite (ite (hnamed.addName (isAscii_fixed rfl) (isAscii_fixed rfl)) hnamed) hparser

/-- So do all that are used. -/
theorem Imports.IsAscii.closeImports {required : Requirements} (h : required.imports.IsAscii)
    (f : Features) : (required.closeImports f).imports.IsAscii := by
  have hfold (used : List Converter) {imports : Imports} (h : imports.IsAscii) :
      (used.foldl (Converter.addImports f.typeHints) imports).IsAscii := by
    induction used generalizing imports with
    | nil => exact h
    | cons cv used ih => exact ih (h.addImports _ cv)
  exact hfold _ h

/-! ## Layout -/

/-- The steps that a module is laid out from are written with the vocabulary. -/
theorem allLines_writtenSteps (o : Options) {functions : List TopLevelNames} {steps : List Step}
    (h : AllLines (IsWritten names descriptions) steps) (required : Requirements)
    (hfunctions : ∀ pair ∈ functions, pair.fromDict ∈ names.words) :
    AllLines (IsWritten names descriptions) (writtenSteps o functions steps required) :=
  (h.append (allLines_definitions _ required)).append (allLines_headerSteps _ hfunctions)

/-- Whether a text is of ASCII is seen from its characters. -/
theorem any_beyond_ascii {text : String} :
    text.toList.any (fun c => 0x80 ≤ c.toNat) ↔ ¬ IsAscii text := by
  simp only [List.any_eq_true, decide_eq_true_eq, IsAscii, not_forall, exists_prop, Nat.not_lt]

example : "# café".toList.any fun c => 0x80 ≤ c.toNat := by decide +kernel

/-- A rendered module is laid out from lines of its vocabulary and of descriptions, and from
imports of ASCII. Its coding is told where it is not of ASCII and the language asks for that. -/
theorem exists_laidOut {g : TypeGraph} {o : Options} {module : String}
    (h : renderModule g o = .ok module) :
    ∃ steps imports, AllLines (IsWritten (NameTable.assign g o) g.descriptions) steps ∧
      imports.IsAscii ∧
      module = if o.features.markedText ∧ ¬ IsAscii (layout steps imports) then
        "# -*- coding: utf-8 -*-\n" ++ layout steps imports else layout steps imports := by
  have hcoded (text : String) :
      (if o.features.markedText && text.toList.any (fun c => 0x80 ≤ c.toNat) then
        "# -*- coding: utf-8 -*-\n" ++ text else text) =
      if o.features.markedText ∧ ¬ IsAscii text then "# -*- coding: utf-8 -*-\n" ++ text
      else text :=
    if_congr (by rw [Bool.and_eq_true, any_beyond_ascii]) rfl rfl
  have hwritten : ((contextOf g o).moduleSteps o).Ensures (contextOf g o).HasLines :=
    Context.ensures_moduleSteps (NameTable.spelt_assign g o)
  unfold renderModule renderNamed at h
  dsimp only at h
  split at h
  next steps required hrun =>
    obtain ⟨hlines, hascii⟩ := hwritten .empty steps required hrun isAscii_empty
    have hfunctions : ∀ pair ∈ (NameTable.assign g o).topLevels,
        pair.fromDict ∈ (NameTable.assign g o).words := by
      intro pair hpair
      obtain ⟨i, hi⟩ := List.getElem?_of_mem hpair
      exact (NameTable.mem_words_function hi).1
    cases h
    by_cases hjust : o.justTypes
    · refine ⟨steps, required.imports, hlines, hascii, ?_⟩
      rw [← hcoded, moduleText, if_pos hjust]
    · refine ⟨_, _, allLines_writtenSteps o hlines required hfunctions,
        hascii.closeImports o.features, ?_⟩
      rw [← hcoded, moduleText, if_neg hjust]
      rfl
  next => cases h

end TypedJson.Code
