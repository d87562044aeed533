import TypedJson.Proofs.Code.Definitions
import TypedJson.Proofs.Code.Spelling

/-!
# The lines of a module

Every line of a module is written with the vocabulary of the module (`Worded`), or is one of the
lines that a description of the graph is written with (`IsNote`). Lines are followed through the
steps that a module is put together from, and layout leaves them as they are.
-/

namespace TypedJson

/-- The descriptions of a kind and its parts. -/
def Kind.descriptions : Kind → List String
  | .record r => r.description.toList ++ r.properties.filterMap Property.description
  | .enumeration e => e.description.toList
  | _ => []

/-- The descriptions of the types and properties of a graph. -/
def TypeGraph.descriptions (g : TypeGraph) : List String :=
  g.types.toList.flatMap fun node => node.kind.descriptions

/-- The descriptions of the kind of a type are descriptions of the graph. -/
theorem TypeGraph.mem_descriptions {g : TypeGraph} {t : TypeRef} {k : Kind} {text : String}
    (hk : g.kind? t = some k) (htext : text ∈ k.descriptions) : text ∈ g.descriptions := by
  obtain ⟨node, hnode, rfl⟩ := Option.map_eq_some_iff.1 hk
  exact List.mem_flatMap.2
    ⟨node, Array.mem_toList_iff.2 (Array.mem_of_getElem? hnode), htext⟩

namespace Code

open Script

/-! ## Lines -/

/-- The bare words of the line are of the vocabulary, and so are its characters. -/
structure Worded (names : NameTable) (text : String) : Prop where
  words : ∀ w ∈ bareWords text.toList, w ∈ names.vocabulary
  chars : ∀ c ∈ text.toList, IsOf names.vocabulary c

/-- The line is one of those that one of the descriptions is written with. -/
def IsNote (descriptions : List String) (text : String) : Prop :=
  ∃ description ∈ descriptions,
    .line text ∈ docSteps (some description) ∨ .line text ∈ commentSteps (some description)

/-- The line is code or a comment, with the words of the module or of a description. -/
def IsWritten (names : NameTable) (descriptions : List String) (text : String) : Prop :=
  Worded names text ∨ IsNote descriptions text

variable {names : NameTable} {descriptions : List String} {text name : String}

/-- A text of the vocabulary is a line of it. -/
theorem worded_of_spelled (h : Spelled names.vocabulary text) : Worded names text :=
  ⟨h.bareWords, h.chars⟩

/-- So is a comment with characters of the vocabulary. -/
theorem worded_comment {rest : List Char} (htext : text.toList = '#' :: rest)
    (h : ∀ c ∈ text.toList, IsOf names.vocabulary c) : Worded names text := by
  refine ⟨?_, h⟩
  rw [htext, bareWords_comment]
  exact List.forall_mem_nil _

/-- A text of the vocabulary may be written, whatever the descriptions. -/
theorem isWritten_of_spelled (h : Spelled names.vocabulary text) :
    IsWritten names descriptions text :=
  .inl (worded_of_spelled h)

/-- So may a fixed text of known words. -/
theorem isWritten_fixed {text : List Char} (h : closes fixedWords text) :
    IsWritten names descriptions (String.ofList text) :=
  isWritten_of_spelled (spelled_fixed h)

/-! ## The lines of steps -/

/-- All lines of the steps are as the predicate says. -/
def AllLines (P : String → Prop) (steps : List Step) : Prop :=
  ∀ text, .line text ∈ steps → P text

namespace AllLines

variable {P : String → Prop} {steps others : List Step}

/-- No steps have no lines. -/
theorem nil : AllLines P [] :=
  fun _ h => nomatch h

/-- A line in front of steps. -/
theorem line (htext : P text) (h : AllLines P steps) : AllLines P (.line text :: steps) := by
  intro other hother
  rcases List.mem_cons.1 hother with heq | hother
  · rwa [Step.line.inj heq]
  · exact h other hother

/-- A step that is no line in front of steps. -/
theorem step {first : Step} (h : AllLines P steps)
    (hfirst : ∀ text, first ≠ .line text := by simp) :
    AllLines P (first :: steps) := by
  intro other hother
  rcases List.mem_cons.1 hother with heq | hother
  · exact absurd heq.symm (hfirst other)
  · exact h other hother

/-- Steps behind steps. -/
theorem append (h : AllLines P steps) (h' : AllLines P others) : AllLines P (steps ++ others) :=
  fun text htext => (List.mem_append.1 htext).elim (h text) (h' text)

/-- Indented steps have the lines of the steps. -/
theorem indented (h : AllLines P steps) : AllLines P (indented steps) :=
  h.step.append nil.step

/-- The lines of a list. -/
theorem map {α : Type} {f : α → String} {items : List α} (h : ∀ a ∈ items, P (f a)) :
    AllLines P (items.map fun a => .line (f a)) := by
  intro text htext
  obtain ⟨a, ha, heq⟩ := List.mem_map.1 htext
  rw [← Step.line.inj heq]
  exact h a ha

/-- The lines of the steps for the items of a list. -/
theorem flatMap {α : Type} {f : α → List Step} {items : List α}
    (h : ∀ a ∈ items, AllLines P (f a)) : AllLines P (items.flatMap f) := by
  intro text htext
  obtain ⟨a, ha, htext⟩ := List.mem_flatMap.1 htext
  exact h a ha text htext

/-- Steps on a condition. -/
theorem ite {c : Prop} [Decidable c] (h : c → AllLines P steps) (h' : ¬ c → AllLines P others) :
    AllLines P (if c then steps else others) := by
  split
  next hc => exact h hc
  next hc => exact h' hc

/-- Joined parts have the lines of the parts. -/
theorem joinParts {parts : List (List Step)} (h : ∀ part ∈ parts, AllLines P part) :
    AllLines P (joinParts parts) := by
  induction parts with
  | nil => exact nil
  | cons part parts ih =>
      obtain ⟨hpart, hparts⟩ := List.forall_mem_cons.1 h
      have hothers := ih hparts
      cases part with
      | nil => exact hothers
      | cons first part =>
          unfold Code.joinParts
          split
          next => exact hpart
          next heq => exact hpart.append hothers.step

end AllLines

/-- The docstring of a description of the graph consists of notes. -/
theorem allLines_docSteps {description : Option String}
    (h : ∀ text ∈ description, text ∈ descriptions) :
    AllLines (IsWritten names descriptions) (docSteps description) := by
  cases description with
  | none => exact .nil
  | some text => exact fun line hline => .inr ⟨text, h text rfl, .inl hline⟩

/-- So do its comments. -/
theorem allLines_commentSteps {description : Option String}
    (h : ∀ text ∈ description, text ∈ descriptions) :
    AllLines (IsWritten names descriptions) (commentSteps description) := by
  cases description with
  | none => exact .nil
  | some text => exact fun line hline => .inr ⟨text, h text rfl, .inr hline⟩

/-! ## Identifiers in lines -/

/-- An attribute of `self` is of the vocabulary. -/
theorem spelled_self (hspelt : names.Spelt) (hname : name ∈ names.words) :
    Spelled names.vocabulary ("self." ++ name) := by
  have hself : Spelled names.vocabulary "self" := spelled_fixed (by decide +kernel)
  rw [show "self." = "self" ++ "." by decide, String.append_assoc]
  exact hself.member (List.mem_append_right _ hname) (hspelt name hname)

/-- A text that is set to another one is of the vocabulary, if both are. -/
theorem spelled_assign {target value : String} (htarget : Spelled names.vocabulary target)
    (hvalue : Spelled names.vocabulary value) :
    Spelled names.vocabulary (target ++ " = " ++ value) :=
  spelled_joined htarget (by decide) hvalue

/-- A fixed text with an identifier behind it is of the vocabulary. -/
theorem spelled_behind {front : List Char} (hspelt : names.Spelt) (hname : name ∈ names.words)
    (hfront : opens fixedWords front) : Spelled names.vocabulary (String.ofList front ++ name) :=
  (leads_fixed hfront).append (spelled_name hspelt hname)

/-! ## Enumerations and top-levels -/

/-- The class of an enumeration is written with the vocabulary, if its cases are. -/
theorem allLines_enumerationSteps (hspelt : names.Spelt) (hname : name ∈ names.words)
    {description : Option String} (hdescription : ∀ text ∈ description, text ∈ descriptions)
    {cases : List String} (hcases : ∀ text ∈ cases, Spelled names.vocabulary text) :
    AllLines (IsWritten names descriptions) (enumerationSteps name description cases) := by
  have hclass : Spelled names.vocabulary ("class " ++ name) :=
    spelled_behind hspelt hname (by decide +kernel)
  have hbody : AllLines (IsWritten names descriptions) (docSteps description ++ cases.map .line
      ++ if cases.isEmpty && description.isNone then [.line "pass"] else []) :=
    ((allLines_docSteps hdescription).append (.map fun text htext =>
      isWritten_of_spelled (hcases text htext))).append
      (.ite (fun _ => .line (isWritten_fixed (by decide +kernel)) .nil) fun _ => .nil)
  exact ((AllLines.step (.line (isWritten_of_spelled (spelled_closed hclass (by decide +kernel)))
    .nil)).append hbody.indented).append (.step .nil)

/-- So are the functions of a top-level, if their conversions and annotations are. -/
theorem allLines_topLevelSteps (hspelt : names.Spelt) {pair : TopLevelNames}
    (hfromDict : pair.fromDict ∈ names.words) (htoDict : pair.toDict ∈ names.words)
    {hint : Option String} (hhint : ∀ text ∈ hint, Spelled names.vocabulary text)
    {decode encode : String} (hdecode : Spelled names.vocabulary decode)
    (hencode : Spelled names.vocabulary encode) :
    AllLines (IsWritten names descriptions) (topLevelSteps pair hint decode encode) := by
  have hdefine {name : String} (hname : name ∈ names.words) :
      Spelled names.vocabulary ("def " ++ name) :=
    spelled_behind hspelt hname (by decide +kernel)
  have hreturn {text : String} (htext : Spelled names.vocabulary text) :
      AllLines (IsWritten names descriptions) (indented [.line ("return " ++ text)]) :=
    .indented (.line (isWritten_of_spelled ((leads_fixed (by decide +kernel)).append htext)) .nil)
  have hwritten {first second : String} (hfirst : Spelled names.vocabulary first)
      (hsecond : Spelled names.vocabulary second) : AllLines (IsWritten names descriptions)
      ([.enter .topLevels, .line first] ++ indented [.line ("return " ++ decode)]
        ++ [.blank 2, .line second] ++ indented [.line ("return " ++ encode)]
        ++ [.blank 2]) :=
    ((((AllLines.step (.line (isWritten_of_spelled hfirst) .nil)).append (hreturn hdecode)).append
      (.step (.line (isWritten_of_spelled hsecond) .nil))).append (hreturn hencode)).append
      (.step .nil)
  cases hint with
  | none =>
      exact hwritten (spelled_closed (hdefine hfromDict) (by decide +kernel))
        (spelled_closed (hdefine htoDict) (by decide +kernel))
  | some text =>
      have hannotation := hhint text rfl
      refine hwritten ?_ ?_
      · exact spelled_closed (spelled_joined (hdefine hfromDict) (by decide +kernel) hannotation)
          (by decide)
      · exact spelled_closed (spelled_joined (hdefine htoDict) (by decide +kernel) hannotation)
          (by decide +kernel)

/-! ## Classes -/

/-- The field has an identifier that was assigned, an annotation of the vocabulary, and a
description of the graph. -/
structure Field.WordedIn (names : NameTable) (descriptions : List String) (f : Field) : Prop where
  name : f.name ∈ names.words
  hint : Spelled names.vocabulary f.hint
  description : ∀ text ∈ f.description, text ∈ descriptions

section Classes

variable (hspelt : names.Spelt) {fields : List Field}
  (hfields : ∀ f ∈ fields, f.WordedIn names descriptions)

include hspelt

/-- The declaration of a field is of the vocabulary. -/
theorem spelled_declaration {f : Field} (hf : f.WordedIn names descriptions) (hints : Bool) :
    Spelled names.vocabulary (f.declaration hints) := by
  have hname := spelled_name hspelt hf.name
  unfold Field.declaration
  split
  · exact spelled_joined hname (by decide) hf.hint
  · exact hname

include hfields

/-- The annotated fields of a class are written with the vocabulary. -/
theorem allLines_fieldSteps (f : Features) :
    AllLines (IsWritten names descriptions) (fieldSteps f fields) := by
  refine .flatMap fun field hfield => .line (isWritten_of_spelled ?_)
    (allLines_docSteps (hfields field hfield).description)
  have hfield := spelled_declaration hspelt (hfields field hfield) true
  split
  · exact spelled_closed hfield (by decide +kernel)
  · rwa [String.append_empty]

/-- So is the constructor. -/
theorem allLines_constructorSteps (hints : Bool) :
    AllLines (IsWritten names descriptions) (constructorSteps hints fields) := by
  have hparameters : ∀ text ∈ "self" :: fields.map (Field.declaration hints),
      Spelled names.vocabulary text := by
    refine List.forall_mem_cons.2 ⟨spelled_fixed (by decide +kernel), List.forall_mem_map.2 ?_⟩
    exact fun f hf => spelled_declaration hspelt (hfields f hf) hints
  refine .line (isWritten_of_spelled ?_) (.indented (.ite (fun _ => ?_) fun _ => ?_))
  · have hcall : Spelled names.vocabulary ("def __init__(" ++
        ", ".intercalate ("self" :: fields.map (Field.declaration hints)) ++ ")") :=
      spelled_closed ((leads_fixed (by decide +kernel)).append (spelled_intercalate hparameters))
        (by decide)
    refine spelled_closed ?_ (by decide)
    split
    · exact spelled_closed hcall (by decide +kernel)
    · rwa [String.append_empty]
  · exact .line (isWritten_fixed (by decide +kernel)) .nil
  · refine .flatMap fun f hf => .append (.ite (fun _ => .nil) fun _ => ?_) (.line ?_ .nil)
    · exact allLines_commentSteps (hfields f hf).description
    · exact isWritten_of_spelled (spelled_assign (spelled_self hspelt (hfields f hf).name)
        (spelled_name hspelt (hfields f hf).name))

/-- So is the decoding function, if its expressions are. -/
theorem allLines_fromDictSteps {returned : Option String} {values : List (Field × String)}
    (hname : name ∈ names.words) (hreturned : ∀ hint ∈ returned, Spelled names.vocabulary hint)
    (hvalues : ∀ v ∈ values, v.1 ∈ fields ∧ Spelled names.vocabulary v.2) :
    AllLines (IsWritten names descriptions) (fromDictSteps name returned values) := by
  have hfield {v : Field × String} (hv : v ∈ values) : Spelled names.vocabulary v.1.name :=
    spelled_name hspelt (hfields _ (hvalues v hv).1).name
  have hreturn : Spelled names.vocabulary ("return " ++ name) :=
    spelled_behind hspelt hname (by decide +kernel)
  have harguments := spelled_intercalate (List.forall_mem_map.2 fun v hv => hfield (v := v) hv)
  refine .line (isWritten_fixed (by decide +kernel)) (.line ?_
    (.indented (.append (.line ?_ (.map fun v hv => ?_)) (.line ?_ .nil))))
  · cases returned with
    | none => exact isWritten_fixed (by decide +kernel)
    | some hint =>
        exact isWritten_of_spelled (spelled_closed ((leads_fixed (by decide +kernel)).append
          (hreturned hint rfl)) (by decide))
  · exact isWritten_fixed (by decide +kernel)
  · exact isWritten_of_spelled (spelled_assign (hfield hv) (hvalues v hv).2)
  · exact isWritten_of_spelled (spelled_call hreturn harguments)

/-- So is the encoding function, if its statements are. -/
theorem allLines_toDictSteps (hints : Bool) {assignments : List (Field × String)}
    (hassignments : ∀ a ∈ assignments, a.1 ∈ fields ∧ Spelled names.vocabulary a.2) :
    AllLines (IsWritten names descriptions) (toDictSteps hints assignments) := by
  have hassignment {a : Field × String} (ha : a ∈ assignments) :
      AllLines (IsWritten names descriptions) [.line a.2] :=
    .line (isWritten_of_spelled (hassignments a ha).2) .nil
  refine .line ?_ (.indented (.append (.line ?_ (.flatMap fun a ha => .ite (fun _ => .line ?_ ?_)
    fun _ => hassignment ha)) (.line ?_ .nil)))
  · split <;> exact isWritten_fixed (by decide +kernel)
  · split <;> exact isWritten_fixed (by decide +kernel)
  · have hself := spelled_self hspelt (hfields _ (hassignments a ha).1).name
    have hif : Spelled names.vocabulary ("if self." ++ a.1.name) := by
      rw [show "if self." = "if " ++ "self." by decide, String.append_assoc]
      exact (leads_fixed (by decide +kernel)).append hself
    exact isWritten_of_spelled (spelled_closed hif (by decide +kernel))
  · exact .indented (hassignment ha)
  · exact isWritten_fixed (by decide +kernel)

/-- So is the body of a class, if its conversions are. -/
theorem allLines_classBody (f : Features) {description : Option String} {conversions : List Step}
    (hdescription : ∀ text ∈ description, text ∈ descriptions)
    (hconversions : AllLines (IsWritten names descriptions) conversions) :
    AllLines (IsWritten names descriptions) (classBody f description fields conversions) := by
  have hdeclared : AllLines (IsWritten names descriptions)
      (docSteps description ++ if f.typeHints then fieldSteps f fields else []) :=
    (allLines_docSteps hdescription).append
      (.ite (fun _ => allLines_fieldSteps hspelt hfields f) fun _ => .nil)
  have hconstructor : AllLines (IsWritten names descriptions)
      (if f.dataclasses then [] else constructorSteps f.typeHints fields) :=
    .ite (fun _ => .nil) fun _ => allLines_constructorSteps hspelt hfields _
  have hparts := AllLines.joinParts (List.forall_mem_cons.2
    ⟨hdeclared, List.forall_mem_cons.2 ⟨hconstructor, List.forall_mem_singleton.2 hconversions⟩⟩)
  unfold classBody
  dsimp only
  split
  next => exact .line (isWritten_fixed (by decide +kernel)) .nil
  next => exact hparts

end Classes

namespace Context

variable {ctx : Context} {o : Options} {declared : List TypeRef} {t : TypeRef}

/-- The lines of the steps are written with the words of the context, or with a description of its
graph. -/
def HasLines (ctx : Context) (steps : List Step) : Prop :=
  AllLines (IsWritten ctx.names ctx.graph.descriptions) steps

/-- Steps one behind the other have the lines of all of them. -/
theorem hasLines_flatten {parts : List (List Step)} (h : ∀ part ∈ parts, ctx.HasLines part) :
    ctx.HasLines parts.flatten := by
  rw [← List.flatMap_id]
  exact AllLines.flatMap h

variable (hspelt : ctx.names.Spelt)

include hspelt

/-- The class of an enumeration is written with the vocabulary. -/
theorem ensures_enumerationClass {e : Enumeration} (he : ctx.graph.enumeration? t = some e) :
    (ctx.enumerationClass t e).Ensures ctx.HasLines := by
  have hcases : (e.cases.zipIdx.mapM fun c => do
      let caseName ← Gen.lift (ctx.names.caseName t c.2)
      return caseName ++ " = " ++ literal ctx.features.markedText c.1 : Gen (List String)).Ensures
      fun cases => ∀ text ∈ cases, Spelled ctx.names.vocabulary text :=
    Gen.ensures_mapM fun c _ => ensures_caseName.bind fun name hname => Gen.ensures_pure
      (spelled_assign (spelled_name hspelt hname) (leads_literal _ _).spelled)
  have hdescription : ∀ text ∈ e.description, text ∈ ctx.graph.descriptions := fun text htext =>
    TypeGraph.mem_descriptions (TypeGraph.enumeration?_eq_some.1 he) (Option.mem_toList.2 htext)
  refine ensures_typeName.bind fun name hname => ?_
  refine (Gen.ensures_addName (isAscii_fixed rfl) (isAscii_fixed rfl)).bind fun _ _ => ?_
  exact hcases.bind fun cases hcases =>
    Gen.ensures_pure (allLines_enumerationSteps hspelt hname hdescription hcases)

/-- The fields of a class have identifiers, annotations of the vocabulary and descriptions of the
graph. -/
theorem ensures_fields {r : Record} (hr : ctx.graph.record? t = some r) :
    (ctx.fields declared t r).Ensures
      fun fields => ∀ f ∈ fields, f.WordedIn ctx.names ctx.graph.descriptions := by
  have hdescription {p : Property × Nat} (hp : p ∈ r.properties.zipIdx) :
      ∀ text ∈ p.1.description, text ∈ ctx.graph.descriptions := fun text htext =>
    TypeGraph.mem_descriptions (TypeGraph.record?_eq_some.1 hr) (List.mem_append_right _
      (List.mem_filterMap.2 ⟨p.1, List.fst_mem_of_mem_zipIdx hp, htext⟩))
  have hnamed : (r.properties.zipIdx.mapM fun p => do
      let name ← Gen.lift (ctx.names.propertyName t p.2)
      let f : Field :=
        ⟨name, p.1.name, p.1.type, ctx.graph.isNullable p.1.type, p.1.description, ""⟩
      return f : Gen (List Field)).Ensures
      fun fields => ∀ f ∈ fields, f.WordedIn ctx.names ctx.graph.descriptions :=
    Gen.ensures_mapM fun p hp => ensures_propertyName.bind fun name hname =>
      Gen.ensures_pure ⟨hname, leads_empty.spelled, hdescription hp⟩
  refine hnamed.bind fun fields hfields => Gen.ensures_mapM fun f hf => ?_
  -- Where the constructor comes from the fields, they change places, and stay what they are.
  have hf : f.WordedIn ctx.names ctx.graph.descriptions := by
    refine hfields f ?_
    split at hf
    next =>
      exact (List.mem_append.1 hf).elim (fun hf => (List.mem_filter.1 hf).1)
        fun hf => (List.mem_filter.1 hf).1
    next => exact hf
  split
  next =>
    exact (ensures_annotate hspelt).bind fun hint hhint =>
      Gen.ensures_pure ⟨hf.name, hhint, hf.description⟩
  next => exact Gen.ensures_pure hf

/-- The conversions of a class are written with the vocabulary. -/
theorem ensures_classConversions {name : String} {fields : List Field}
    (hname : name ∈ ctx.names.words)
    (hfields : ∀ f ∈ fields, f.WordedIn ctx.names ctx.graph.descriptions) :
    (ctx.classConversions declared t name fields).Ensures ctx.HasLines := by
  have hvalues : (fields.mapM fun f => do
      let value ← ctx.convertValue .decode
        ("obj.get(" ++ literal ctx.features.markedText f.key ++ ")") f.type
      return (f, value) : Gen (List (Field × String))).Ensures fun values =>
      ∀ v ∈ values, v.1 ∈ fields ∧ Spelled ctx.names.vocabulary v.2 := by
    refine Gen.ensures_mapM fun f hf => ?_
    refine (ensures_convertValue hspelt (Leads.spelled ?_)).bind fun value hvalue =>
      Gen.ensures_pure ⟨hf, hvalue⟩
    exact ((leads_fixed (by decide +kernel)).leads (leads_literal _ _)).leads (leads_fixed rfl)
  have hassignments : (fields.mapM fun f => do
      let value ← ctx.convertValue .encode ("self." ++ f.name) f.type
      return (f, "result[" ++ literal ctx.features.markedText f.key ++ "] = " ++ value) :
      Gen (List (Field × String))).Ensures fun assignments =>
      ∀ a ∈ assignments, a.1 ∈ fields ∧ Spelled ctx.names.vocabulary a.2 := by
    refine Gen.ensures_mapM fun f hf => ?_
    refine (ensures_convertValue hspelt (spelled_self hspelt (hfields f hf).name)).bind
      fun value hvalue => Gen.ensures_pure ⟨hf, ?_⟩
    exact (((leads_fixed (by decide +kernel)).leads (leads_literal _ _)).leads
      (leads_fixed (by decide +kernel))).append hvalue
  have hwritten {returned : Option String}
      (hreturned : ∀ hint ∈ returned, Spelled ctx.names.vocabulary hint)
      {values : List (Field × String)}
      (hvalues : ∀ v ∈ values, v.1 ∈ fields ∧ Spelled ctx.names.vocabulary v.2)
      {assignments : List (Field × String)}
      (hassignments : ∀ a ∈ assignments, a.1 ∈ fields ∧ Spelled ctx.names.vocabulary a.2) :
      ctx.HasLines (fromDictSteps name returned values ++ [.blank 1] ++
        toDictSteps ctx.features.typeHints assignments) :=
    ((allLines_fromDictSteps hspelt hfields hname hreturned hvalues).append (.step .nil)).append
      (allLines_toDictSteps hspelt hfields _ hassignments)
  refine hvalues.bind fun values hvalues => ?_
  dsimp only
  split
  next =>
    refine (ensures_typing (isAscii_fixed rfl)).bind fun _ _ => ?_
    refine (ensures_annotate hspelt).bind fun hint hhint => ?_
    refine hassignments.bind fun assignments hassignments => Gen.ensures_pure ?_
    exact hwritten (fun text htext => Option.some.inj htext ▸ hhint) hvalues hassignments
  next =>
    refine hassignments.bind fun assignments hassignments => Gen.ensures_pure ?_
    exact hwritten (fun text h => absurd h (Option.not_mem_none text)) hvalues hassignments

/-- The class of a record is written with the vocabulary. -/
theorem ensures_recordClass {r : Record} (hr : ctx.graph.record? t = some r) :
    (ctx.recordClass o declared t r).Ensures ctx.HasLines := by
  have hdescription : ∀ text ∈ r.description, text ∈ ctx.graph.descriptions := fun text htext =>
    TypeGraph.mem_descriptions (TypeGraph.record?_eq_some.1 hr)
      (List.mem_append_left _ (Option.mem_toList.2 htext))
  refine ensures_typeName.bind fun name hname => ?_
  refine (ensures_fields hspelt hr).bind fun fields hfields => ?_
  have hclass : Spelled ctx.names.vocabulary ("class " ++ name) :=
    spelled_behind hspelt hname (by decide +kernel)
  have hbase : Spelled ctx.names.vocabulary
      ("class " ++ name ++ (if ctx.features.objectBase then "(object)" else "") ++ ":") := by
    split
    · exact spelled_closed (spelled_closed hclass (by decide +kernel)) (by decide)
    · rw [String.append_empty]
      exact spelled_closed hclass (by decide)
  have hwritten {conversions : List Step} (hconversions : ctx.HasLines conversions) :
      ctx.HasLines (.enter .classes
        :: (if ctx.features.dataclasses then [.line "@dataclass"] else [])
        ++ .line ("class " ++ name ++ (if ctx.features.objectBase then "(object)" else "") ++ ":")
        :: indented (classBody ctx.features r.description fields conversions) ++ [.blank 2]) := by
    have hbody := allLines_classBody hspelt hfields ctx.features hdescription hconversions
    refine (AllLines.append (.step (.ite (fun _ => .line ?_ .nil) fun _ => .nil))
      (.line (isWritten_of_spelled hbase) hbody.indented)).append (.step .nil)
    exact isWritten_fixed (by decide +kernel)
  refine Gen.Ensures.when (isAscii_fixed rfl) (isAscii_fixed rfl) ?_
  cases o.justTypes with
  | true =>
      exact (Gen.ensures_pure (P := ctx.HasLines) .nil).bind fun _ hconversions =>
        Gen.ensures_pure (hwritten hconversions)
  | false =>
      exact (ensures_classConversions hspelt hname hfields).bind fun _ hconversions =>
        Gen.ensures_pure (hwritten hconversions)

/-- The classes of records are. -/
theorem ensures_classes {ts : List TypeRef} : (ctx.classes o declared ts).Ensures ctx.HasLines := by
  induction ts generalizing declared with
  | nil => exact Gen.ensures_pure .nil
  | cons t rest ih =>
      unfold classes
      cases hr : ctx.graph.record? t with
      | none =>
          exact (Gen.ensures_pure (P := ctx.HasLines) .nil).bind fun first hfirst =>
            ih.bind fun others hothers => Gen.ensures_pure (hfirst.append hothers)
      | some r =>
          exact (ensures_recordClass hspelt hr).bind fun first hfirst =>
            ih.bind fun others hothers => Gen.ensures_pure (hfirst.append hothers)

/-- The functions of a top-level are. -/
theorem ensures_topLevel {top : TopLevel} {index : Nat} :
    (ctx.topLevel declared top index).Ensures ctx.HasLines := by
  refine ensures_functionNames.bind fun pair ⟨hfromDict, htoDict⟩ => ?_
  refine (ensures_convertValue hspelt (spelled_fixed (by decide +kernel))).bind
    fun decode hdecode => ?_
  refine (ensures_convertValue hspelt (spelled_fixed (by decide +kernel))).bind
    fun encode hencode => ?_
  dsimp only
  split
  next =>
    refine (ensures_typing (isAscii_fixed rfl)).bind fun _ _ => ?_
    refine (ensures_annotate hspelt).bind fun hint hhint => Gen.ensures_pure ?_
    exact allLines_topLevelSteps hspelt hfromDict htoDict
      (fun text htext => Option.some.inj htext ▸ hhint) hdecode hencode
  next =>
    exact Gen.ensures_pure (allLines_topLevelSteps hspelt hfromDict htoDict
      (fun text h => absurd h (Option.not_mem_none text)) hdecode hencode)

/-- The steps of a module are. -/
theorem ensures_moduleSteps : (ctx.moduleSteps o).Ensures ctx.HasLines := by
  refine (Gen.ensures_mapM (Q := ctx.HasLines) fun t _ => ?_).bind
    fun enumerations henumerations => ?_
  · cases he : ctx.graph.enumeration? t with
    | none => exact Gen.ensures_pure .nil
    | some e => exact ensures_enumerationClass hspelt he
  refine (ensures_classes hspelt).bind fun classes hclasses => ?_
  have hwritten {topLevels : List (List Step)} (h : ∀ part ∈ topLevels, ctx.HasLines part) :
      ctx.HasLines (enumerations.flatten ++ classes ++ topLevels.flatten) :=
    ((hasLines_flatten henumerations).append hclasses).append (hasLines_flatten h)
  have htopLevels : (ctx.graph.topLevels.zipIdx.mapM fun top =>
      ctx.topLevel ctx.graph.records top.1 top.2 : Gen (List (List Step))).Ensures
      fun parts => ∀ part ∈ parts, ctx.HasLines part :=
    Gen.ensures_mapM fun _ _ => ensures_topLevel hspelt
  cases o.justTypes with
  | true => exact Gen.ensures_pure (hwritten (List.forall_mem_nil _))
  | false => exact htopLevels.bind fun _ htopLevels => Gen.ensures_pure (hwritten htopLevels)

end Context

end Code

end TypedJson
