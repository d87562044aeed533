import TypedJson.Proofs.Code.Vocabulary

/-!
# Generated expressions are of the vocabulary

Whatever conversion is generated for a type, and whatever annotation, it is written with the
vocabulary of the module (`ensures_convertValue`, `ensures_annotate`): an expression refers to
support functions, classes and builtins that generated code knows, and what it takes from a label
or a key are identifiers and literals. What is imported for it is of ASCII. Generation steps are
followed by what they ensure of their results and imports (`Gen.Ensures`).
-/

namespace TypedJson.Code

open Script

/-! ## Imports of ASCII -/

/-- The text is of ASCII. -/
def IsAscii (text : String) : Prop :=
  ∀ c ∈ text.toList, c.toNat < 0x80

instance : DecidablePred IsAscii :=
  fun text => inferInstanceAs (Decidable (∀ c ∈ text.toList, c.toNat < 0x80))

/-- A fixed text is checked to be of ASCII. -/
theorem isAscii_fixed {text : List Char} (h : text.all (·.toNat < 0x80)) :
    IsAscii (String.ofList text) := by
  rw [IsAscii, String.toList_ofList]
  exact fun c hc => of_decide_eq_true (List.all_eq_true.1 h c hc)

/-- What is imported is of ASCII. -/
structure Imports.IsAscii (imports : Imports) : Prop where
  names : ∀ entry ∈ imports.names, Code.IsAscii entry.1 ∧ ∀ name ∈ entry.2, Code.IsAscii name
  modules : ∀ module ∈ imports.modules, Code.IsAscii module

/-- A name of ASCII may be imported besides. -/
theorem Imports.IsAscii.addName {imports : Imports} (h : imports.IsAscii) {module name : String}
    (hmodule : Code.IsAscii module) (hname : Code.IsAscii name) :
    (imports.addName module name).IsAscii := by
  refine ⟨fun entry hentry => ?_, h.modules⟩
  rcases Ordered.mem_insertEntry hentry with rfl | hentry
  · refine ⟨hmodule, fun other hother => ?_⟩
    rcases Naming.Namespace.mem_insert_iff.1 hother with hknown | rfl
    · cases hfound : Ordered.find? module imports.names with
      | none =>
          rw [hfound] at hknown
          cases hknown
      | some known =>
          rw [hfound] at hknown
          exact (h.names _ (Ordered.mem_of_find? hfound)).2 other hknown
    · exact hname
  · exact h.names entry hentry

/-- So may a module. -/
theorem Imports.IsAscii.addModule {imports : Imports} (h : imports.IsAscii) {module : String}
    (hmodule : Code.IsAscii module) : (imports.addModule module).IsAscii := by
  refine ⟨h.names, fun other hother => ?_⟩
  rcases Naming.Namespace.mem_insert_iff.1 hother with hknown | rfl
  · exact h.modules other hknown
  · exact hmodule

/-! ## What steps ensure -/

namespace Gen

variable {α β : Type} {P : α → Prop} {Q : β → Prop}

/-- What a run of the step ends with is as the predicate says, and what it imports is of ASCII. -/
def Ensures (x : Gen α) (P : α → Prop) : Prop :=
  ∀ s a s', x.Runs s a s' → s.imports.IsAscii → P a ∧ s'.imports.IsAscii

/-- A value is ensured. -/
theorem ensures_pure {a : α} (h : P a) : Ensures (pure a) P := by
  intro s b s' hrun hs
  obtain ⟨rfl, rfl⟩ := hrun.pure
  exact ⟨h, hs⟩

/-- A refused step ends with nothing. -/
theorem ensures_throw (e : GenerateError) : Ensures (throw e : Gen α) P :=
  fun _ _ _ hrun => absurd hrun not_runs_throw

/-- So does a pure step without an outcome. -/
theorem ensures_lift {r : Except GenerateError α} (h : ∀ a, r = .ok a → P a) :
    Ensures (lift r) P := by
  intro s a s' hrun hs
  obtain ⟨hr, rfl⟩ := hrun.lift
  exact ⟨h a hr, hs⟩

/-- Names of ASCII may be imported. -/
theorem ensures_addName {module name : String} (hmodule : IsAscii module) (hname : IsAscii name) :
    Ensures (require (·.addName module name)) fun _ => True := by
  intro s a s' hrun hs
  cases hrun
  exact ⟨trivial, hs.addName hmodule hname⟩

/-- What the first step ensures, the second one may use. -/
theorem Ensures.bind {x : Gen α} {f : α → Gen β} (hx : x.Ensures P)
    (hf : ∀ a, P a → (f a).Ensures Q) : (x >>= f).Ensures Q := by
  intro s b s' hrun hs
  obtain ⟨a, between, ha, hrun⟩ := hrun.bind
  obtain ⟨hP, hbetween⟩ := hx s a between ha hs
  exact hf a hP between b s' hrun hbetween

/-- What is ensured may be said otherwise. -/
theorem Ensures.imp {x : Gen α} {R : α → Prop} (hx : x.Ensures P) (h : ∀ a, P a → R a) :
    x.Ensures R := by
  intro s a s' hrun hs
  obtain ⟨hP, hs'⟩ := hx s a s' hrun hs
  exact ⟨h a hP, hs'⟩

/-- An import on a condition ensures nothing more. -/
theorem Ensures.when {c : Prop} [Decidable c] {module name : String} {f : Unit → Gen β}
    (hmodule : IsAscii module) (hname : IsAscii name) (h : (f ()).Ensures Q) :
    (if c then require (·.addName module name) >>= f else f ()).Ensures Q := by
  split
  · exact (ensures_addName hmodule hname).bind fun _ _ => h
  · exact h

/-- Steps for the items of a list ensure what each of them does. -/
theorem ensures_mapM {f : α → Gen β} {as : List α} (h : ∀ a ∈ as, (f a).Ensures Q) :
    (as.mapM f).Ensures fun bs => ∀ b ∈ bs, Q b := by
  induction as with
  | nil => exact ensures_pure (List.forall_mem_nil _)
  | cons a as ih =>
      obtain ⟨ha, has⟩ := List.forall_mem_cons.1 h
      rw [List.mapM_cons]
      exact ha.bind fun b hb => (ih has).bind fun bs hbs =>
        ensures_pure (List.forall_mem_cons.2 ⟨hb, hbs⟩)

variable {names : NameTable}

/-- A support function is of the vocabulary. -/
theorem spelled_converter (cv : Converter) : Spelled names.vocabulary cv.name := by
  cases cv <;> exact spelled_fixed (by decide +kernel)

/-- So is a fixed text of known words. -/
theorem ensures_fixed {text : List Char} (h : closes fixedWords text) :
    (pure (String.ofList text) : Gen String).Ensures (Spelled names.vocabulary) :=
  ensures_pure (spelled_fixed h)

/-- So is the type of times, which is imported. -/
theorem ensures_datetime : (do
    require (·.addName "datetime" "datetime")
    return "datetime" : Gen String).Ensures (Spelled names.vocabulary) :=
  (ensures_addName (isAscii_fixed rfl) (isAscii_fixed rfl)).bind fun _ _ =>
    ensures_fixed (by decide +kernel)

/-- A support function is a function of the vocabulary. -/
theorem ensures_converter (cv : Converter) : (converter cv).Ensures (·.SpelledIn names) := by
  intro s f s' hrun hs
  obtain ⟨rfl, rfl⟩ := hrun.converter
  refine ⟨Function.spelledIn_named (spelled_converter cv), ?_⟩
  unfold Requirements.addConverter
  split <;> exact hs

/-- So is it with arguments in front. -/
theorem ensures_converterWith (cv : Converter) {leading : List String}
    (h : ∀ text ∈ leading, Spelled names.vocabulary text) :
    (converterWith cv leading).Ensures (·.SpelledIn names) := by
  intro s f s' hrun hs
  obtain ⟨rfl, rfl⟩ := hrun.converterWith
  refine ⟨Function.spelledIn_partialCall (spelled_converter cv) h, ?_⟩
  unfold Requirements.addConverter
  split <;> exact hs

end Gen

/-! ## Conversions -/

namespace NameTable

variable {names : NameTable} {t : TypeRef} {i : Nat} {name : String}

/-- The name of a type is an identifier that was assigned. -/
theorem mem_words_type (h : names.types.lookup t = some name) : name ∈ names.words :=
  List.mem_append_left _ (List.mem_append_left _ (List.mem_append_left _
    (List.mem_map_of_mem (f := Prod.snd) (Ordered.mem_of_lookup h))))

/-- So are the names of the functions of a top-level. -/
theorem mem_words_function {pair : TopLevelNames} (h : names.topLevels[i]? = some pair) :
    pair.fromDict ∈ names.words ∧ pair.toDict ∈ names.words := by
  have hmem (name : String) (hname : name ∈ [pair.fromDict, pair.toDict]) : name ∈ names.words :=
    List.mem_append_left _ (List.mem_append_left _ (List.mem_append_right _
      (List.mem_flatMap.2 ⟨pair, List.mem_of_getElem? h, hname⟩)))
  exact ⟨hmem _ List.mem_cons_self, hmem _ (List.mem_cons_of_mem _ List.mem_cons_self)⟩

/-- So is that of a property. -/
theorem mem_words_property {ps : List String} (h : names.properties.lookup t = some ps)
    (hname : name ∈ ps) : name ∈ names.words :=
  List.mem_append_left _ (List.mem_append_right _
    (List.mem_flatMap.2 ⟨_, Ordered.mem_of_lookup h, hname⟩))

/-- So is that of a case. -/
theorem mem_words_case {cs : List String} (h : names.cases.lookup t = some cs)
    (hname : name ∈ cs) : name ∈ names.words :=
  List.mem_append_right _ (List.mem_flatMap.2 ⟨_, Ordered.mem_of_lookup h, hname⟩)

end NameTable

namespace Context

variable {ctx : Context} {t : TypeRef} {d : Direction} {c : Chain}

/-- Looking up a kind imports nothing. -/
theorem ensures_kind : (ctx.kind t).Ensures fun _ => True := by
  unfold kind
  split
  · exact Gen.ensures_pure trivial
  · exact Gen.ensures_throw _

/-- What is called a type is an identifier that was assigned. -/
theorem ensures_typeName : (ctx.typeName t).Ensures (· ∈ ctx.names.words) := by
  refine Gen.ensures_lift fun name hname => ?_
  unfold NameTable.typeName at hname
  split at hname
  next hlookup =>
    cases hname
    exact NameTable.mem_words_type hlookup
  next => cases hname

/-- A chain of the vocabulary stays so with a generated step behind it. -/
theorem ensures_andThen {x : Gen Function} (hc : c.SpelledIn ctx.names)
    (hx : x.Ensures (·.SpelledIn ctx.names)) :
    (x >>= fun f => pure (c.andThen f)).Ensures (·.SpelledIn ctx.names) :=
  hx.bind fun _ hf => Gen.ensures_pure (hc.andThen hf)

/-- So it does with a support function that takes a generated text. -/
theorem ensures_andThen_converterWith {cv : Converter} {text : String}
    (hc : c.SpelledIn ctx.names) (htext : Spelled ctx.names.vocabulary text) :
    (Gen.converterWith cv [text] >>= fun f => pure (c.andThen f)).Ensures
      (·.SpelledIn ctx.names) :=
  ensures_andThen hc (Gen.ensures_converterWith cv (List.forall_mem_singleton.2 htext))

/-- The list display of texts of the vocabulary is one. -/
theorem spelled_listDisplay {names : NameTable} {texts : List String}
    (h : ∀ text ∈ texts, Spelled names.vocabulary text) :
    Spelled names.vocabulary (listDisplay texts) :=
  spelled_closed ((leads_fixed (by decide)).append (spelled_intercalate h)) (by decide)

/-- So is what is called a property. -/
theorem ensures_propertyName {i : Nat} :
    (Gen.lift (ctx.names.propertyName t i)).Ensures (· ∈ ctx.names.words) := by
  refine Gen.ensures_lift fun name hname => ?_
  unfold NameTable.propertyName at hname
  split at hname
  next hfound =>
    cases hname
    obtain ⟨ps, hps, hi⟩ := Option.bind_eq_some_iff.1 hfound
    exact NameTable.mem_words_property hps (List.mem_of_getElem? hi)
  next => cases hname

/-- So is what is called a case. -/
theorem ensures_caseName {i : Nat} :
    (Gen.lift (ctx.names.caseName t i)).Ensures (· ∈ ctx.names.words) := by
  refine Gen.ensures_lift fun name hname => ?_
  unfold NameTable.caseName at hname
  split at hname
  next hfound =>
    cases hname
    obtain ⟨cs, hcs, hi⟩ := Option.bind_eq_some_iff.1 hfound
    exact NameTable.mem_words_case hcs (List.mem_of_getElem? hi)
  next => cases hname

/-- So are the functions of a top-level. -/
theorem ensures_functionNames {i : Nat} :
    (Gen.lift (ctx.names.functionNames i)).Ensures fun pair =>
      pair.fromDict ∈ ctx.names.words ∧ pair.toDict ∈ ctx.names.words := by
  refine Gen.ensures_lift fun pair hpair => ?_
  unfold NameTable.functionNames at hpair
  split at hpair
  next hfound =>
    cases hpair
    exact NameTable.mem_words_function hfound
  next => cases hpair

variable (hspelt : ctx.names.Spelt)

include hspelt

/-- What is generated for a kind is of the vocabulary, if what is generated for elements is. -/
theorem ensures_convertByKind {element : TypeRef → Gen String}
    (helement : ∀ m, (element m).Ensures (Spelled ctx.names.vocabulary))
    (hc : c.SpelledIn ctx.names) :
    (ctx.convertByKind element d c t).Ensures (·.SpelledIn ctx.names) := by
  have hconverter (cv : Converter) := ensures_andThen hc (Gen.ensures_converter cv)
  refine ensures_kind.bind fun k _ => ?_
  cases k with
  | any => exact Gen.ensures_pure hc
  | null => exact hconverter .fromNone
  | bool => exact hconverter .fromBool
  | integer => exact hconverter .fromInt
  | double => exact hconverter _
  | text => exact hconverter .fromStr
  | array items => exact (helement items).bind fun f hf => ensures_andThen_converterWith hc hf
  | map values => exact (helement values).bind fun f hf => ensures_andThen_converterWith hc hf
  | record r =>
      refine ensures_typeName.bind fun name hname => ?_
      cases d with
      | decode =>
          have hknown : "from_dict" ∈ ctx.names.vocabulary :=
            List.mem_append_left _ (by decide +kernel)
          have hmember := (spelled_name hspelt hname).member hknown (List.all_eq_true.1 rfl)
          rw [show "." ++ "from_dict" = ".from_dict" by decide] at hmember
          exact Gen.ensures_pure (hc.andThen (Function.spelledIn_named hmember))
      | encode => exact ensures_andThen_converterWith hc (spelled_name hspelt hname)
  | enumeration e =>
      refine ensures_typeName.bind fun name hname => ?_
      cases d with
      | decode =>
          exact Gen.ensures_pure (hc.andThen (Function.spelledIn_named (spelled_name hspelt hname)))
      | encode => exact ensures_andThen_converterWith hc (spelled_name hspelt hname)
  | union members =>
      exact (Gen.ensures_mapM fun m _ => helement m).bind fun branches hbranches =>
        ensures_andThen_converterWith hc (spelled_listDisplay hbranches)
  | formatted format =>
      cases format with
      | dateTime =>
          cases d with
          | decode => exact hconverter .fromDatetime
          | encode => exact Gen.ensures_pure (hc.andThen Function.spelledIn_isoformat)
      | integerText => exact Gen.ensures_throw _

/-- The object that tells the values of a type is of the vocabulary. -/
theorem ensures_typeObject :
    (ctx.typeObject d t).Ensures (Spelled ctx.names.vocabulary) := by
  have hname : (ctx.typeName t).Ensures (Spelled ctx.names.vocabulary) :=
    ensures_typeName.imp fun _ hname => spelled_name hspelt hname
  have hinteger :
      (pure ctx.integerObject : Gen String).Ensures (Spelled ctx.names.vocabulary) := by
    unfold integerObject
    split
    · exact Gen.ensures_fixed (by decide +kernel)
    · exact Gen.ensures_fixed (by decide +kernel)
  have htext : (pure ctx.textObject : Gen String).Ensures (Spelled ctx.names.vocabulary) := by
    unfold textObject
    split
    · exact Gen.ensures_fixed (by decide +kernel)
    · exact Gen.ensures_fixed (by decide +kernel)
  refine ensures_kind.bind fun k _ => ?_
  cases k with
  | null | bool | double | array | map => exact Gen.ensures_fixed (by decide +kernel)
  | integer => exact hinteger
  | text => exact htext
  | record r =>
      cases d with
      | decode => exact Gen.ensures_fixed (by decide +kernel)
      | encode => exact hname
  | enumeration e =>
      cases d with
      | decode => exact htext
      | encode => exact hname
  | formatted format =>
      cases d with
      | decode => exact htext
      | encode =>
          cases format with
          | dateTime => exact Gen.ensures_datetime
          | integerText => exact hinteger
  | any => exact Gen.ensures_throw _
  | union members => exact Gen.ensures_throw _

/-- The step that parses a text is of the vocabulary. -/
theorem ensures_parseStep : (ctx.parseStep t).Ensures (·.SpelledIn ctx.names) := by
  refine ensures_kind.bind fun k _ => ?_
  cases k with
  | integer => exact Gen.ensures_pure (Function.spelledIn_named (spelled_fixed (by decide +kernel)))
  | enumeration e =>
      exact ensures_typeName.bind fun name hname =>
        Gen.ensures_pure (Function.spelledIn_named (spelled_name hspelt hname))
  | formatted format =>
      cases format with
      | dateTime => exact Gen.ensures_converter .fromDatetime
      | integerText => exact Gen.ensures_throw _
  | any | null | bool | double | text | array | map | record | union => exact Gen.ensures_throw _

/-- So is the step that writes one. -/
theorem ensures_writeStep : (ctx.writeStep t).Ensures (·.SpelledIn ctx.names) := by
  refine ensures_kind.bind fun k _ => ?_
  cases k with
  | integer => exact Gen.ensures_pure (Function.spelledIn_named (spelled_fixed (by decide +kernel)))
  | enumeration e =>
      exact ensures_typeName.bind fun name hname =>
        Gen.ensures_converterWith .toEnum (List.forall_mem_singleton.2 (spelled_name hspelt hname))
  | formatted format =>
      cases format with
      | dateTime => exact Gen.ensures_pure Function.spelledIn_isoformat
      | integerText => exact Gen.ensures_throw _
  | any | null | bool | double | text | array | map | record | union => exact Gen.ensures_throw _

section Transformers

variable {byKind : Direction → Chain → TypeRef → Gen Chain}

omit hspelt

mutual
/-- What is generated for a transformer is of the vocabulary, if what is generated by kind is. -/
theorem ensures_transform (hspelt : ctx.names.Spelt)
    (hkind : ∀ d c t, c.SpelledIn ctx.names → (byKind d c t).Ensures (·.SpelledIn ctx.names)) :
    ∀ (x : Transformer) {c : Chain} {target : TypeRef}, c.SpelledIn ctx.names →
    (ctx.transform byKind d x c target).Ensures (·.SpelledIn ctx.names)
  | .choice _ branches, c, target, hc => by
      unfold transform
      exact (ensures_transformBranches hspelt hkind branches).bind fun functions hfunctions =>
        ensures_andThen_converterWith hc (spelled_listDisplay hfunctions)
  | .decode source next, c, target, hc => by
      unfold transform
      exact (hkind _ _ _ hc).bind fun decoded hdecoded =>
        ensures_transformNext hspelt hkind next hdecoded
  | .encode source, c, target, hc => by
      unfold transform
      exact hkind _ _ _ hc
  | .elements _ container element next, c, target, hc => by
      unfold transform
      refine (ensures_transform hspelt hkind element .identity).bind fun f hf => ?_
      refine (Gen.ensures_converterWith _ (List.forall_mem_singleton.2 hf.function)).bind
        fun step hstep => ?_
      exact ensures_transformNext hspelt hkind next (hc.andThen hstep)
  | .memberMatch _ member next, c, target, hc => by
      unfold transform
      refine (ensures_typeObject hspelt).bind fun object hobject => ?_
      refine (Gen.ensures_converterWith _ (List.forall_mem_singleton.2 hobject)).bind
        fun step hstep => ?_
      exact ensures_transformNext hspelt hkind next (hc.andThen hstep)
  | .instantiate _, c, target, hc => by
      unfold transform
      exact Gen.ensures_pure hc
  | .parseText _ next, c, target, hc => by
      unfold transform
      exact (ensures_parseStep hspelt).bind fun step hstep =>
        ensures_transformNext hspelt hkind next (hc.andThen hstep)
  | .writeText source next, c, target, hc => by
      unfold transform
      exact (ensures_writeStep hspelt).bind fun step hstep =>
        ensures_transformNext hspelt hkind next (hc.andThen hstep)

/-- So is what is generated for the steps behind a step. -/
theorem ensures_transformNext (hspelt : ctx.names.Spelt)
    (hkind : ∀ d c t, c.SpelledIn ctx.names → (byKind d c t).Ensures (·.SpelledIn ctx.names)) :
    ∀ (next : Option Transformer) {c : Chain} {target : TypeRef}, c.SpelledIn ctx.names →
    (ctx.transformNext byKind d next c target).Ensures (·.SpelledIn ctx.names)
  | none, c, target, hc => by
      unfold transformNext
      exact Gen.ensures_pure hc
  | some step, c, target, hc => by
      unfold transformNext
      exact ensures_transform hspelt hkind step hc

/-- So are the branches of a choice. -/
theorem ensures_transformBranches (hspelt : ctx.names.Spelt)
    (hkind : ∀ d c t, c.SpelledIn ctx.names → (byKind d c t).Ensures (·.SpelledIn ctx.names)) :
    ∀ (branches : List Transformer) {target : TypeRef},
    (ctx.transformBranches byKind d branches target).Ensures
      fun texts => ∀ text ∈ texts, Spelled ctx.names.vocabulary text
  | [], target => by
      unfold transformBranches
      exact Gen.ensures_pure (List.forall_mem_nil _)
  | branch :: rest, target => by
      unfold transformBranches
      refine (ensures_transform hspelt hkind branch .identity).bind fun f hf => ?_
      refine (ensures_transformBranches hspelt hkind rest).bind fun functions hfunctions => ?_
      exact Gen.ensures_pure (List.forall_mem_cons.2 ⟨hf.function, hfunctions⟩)
end

end Transformers

/-- What is generated for a type is of the vocabulary. -/
theorem ensures_convertWithin {n : Nat} (hc : c.SpelledIn ctx.names) :
    (ctx.convertWithin n d c t).Ensures (·.SpelledIn ctx.names) := by
  induction n generalizing d c t with
  | zero => exact Gen.ensures_throw _
  | succ n ih =>
      have hkind (d : Direction) (c : Chain) (t : TypeRef) (hc : c.SpelledIn ctx.names) :
          (ctx.convertByKind (fun m => do
            let f ← ctx.convertWithin n d .identity m
            return f.toFunction.render) d c t).Ensures (·.SpelledIn ctx.names) :=
        ensures_convertByKind hspelt (fun m => (ih .identity).bind fun f hf =>
          Gen.ensures_pure hf.function) hc
      unfold convertWithin
      cases ctx.graph.transformation? t with
      | none => exact hkind d c t hc
      | some x =>
          cases d with
          | decode => exact ensures_transform hspelt hkind x.transformer hc
          | encode => exact ensures_transform hspelt hkind x.reverse hc

/-- The conversion of an expression of the vocabulary is one. -/
theorem ensures_convertValue {expression : String}
    (h : Spelled ctx.names.vocabulary expression) :
    (ctx.convertValue d expression t).Ensures (Spelled ctx.names.vocabulary) :=
  (ensures_convertWithin hspelt (.ofText h)).bind fun _ hchain =>
    Gen.ensures_lift fun _ htext => hchain.value htext

/-! ## Annotations -/

omit hspelt in
/-- A name of the typing module may be imported. -/
theorem ensures_typing {name : String} (h : IsAscii name) :
    (typing name).Ensures fun _ => True :=
  Gen.ensures_addName (isAscii_fixed rfl) h

omit hspelt in
/-- An annotation with an argument of the vocabulary is one. -/
theorem spelled_generic {names : NameTable} {front : List Char} {inner : String}
    (hfront : opens fixedWords front) (hinner : Spelled names.vocabulary inner) :
    Spelled names.vocabulary (String.ofList front ++ inner ++ "]") :=
  spelled_closed ((leads_fixed hfront).append hinner) (by decide)

omit hspelt in
example : opens fixedWords "Dict[str, ".toList := by decide +kernel

omit hspelt in
/-- What may be null is annotated as optional. -/
theorem ensures_optional {inner : String} (hinner : Spelled ctx.names.vocabulary inner) :
    (do
      if ctx.graph.isNullable t then do
        typing "Optional"
        return "Optional[" ++ inner ++ "]"
      else return inner : Gen String).Ensures (Spelled ctx.names.vocabulary) := by
  split
  · exact (ensures_typing (isAscii_fixed rfl)).bind fun _ _ =>
      Gen.ensures_pure (spelled_generic (by decide +kernel) hinner)
  · exact Gen.ensures_pure hinner

/-- Annotations are of the vocabulary. -/
theorem ensures_annotateWithin {place : Place} {n : Nat} :
    (ctx.annotateWithin place n t).Ensures (Spelled ctx.names.vocabulary) := by
  induction n generalizing t with
  | zero => exact Gen.ensures_throw _
  | succ n ih =>
      unfold annotateWithin
      dsimp only
      split
      next => exact ih
      refine ensures_kind.bind fun k _ => ?_
      cases k with
      | any =>
          exact (ensures_typing (isAscii_fixed rfl)).bind fun _ _ =>
            Gen.ensures_fixed (by decide +kernel)
      | null | bool | integer | double | text => exact Gen.ensures_fixed (by decide +kernel)
      | array items =>
          exact (ensures_typing (isAscii_fixed rfl)).bind fun _ _ => ih.bind fun inner hinner =>
            Gen.ensures_pure (spelled_generic (by decide +kernel) hinner)
      | map values =>
          exact (ensures_typing (isAscii_fixed rfl)).bind fun _ _ => ih.bind fun inner hinner =>
            Gen.ensures_pure (spelled_generic (by decide +kernel) hinner)
      | record r =>
          refine ensures_typeName.bind fun name hname => Gen.ensures_pure ?_
          split
          · have hchars := isOf_word (V := ctx.names.vocabulary) (List.mem_append_right _ hname)
            exact (leads_quoted hchars (hspelt name hname)).spelled
          · exact spelled_name hspelt hname
      | enumeration e => exact ensures_typeName.imp fun _ hname => spelled_name hspelt hname
      | union members =>
          dsimp only
          -- Whether null is among the members decides on the last step only.
          split
          next => exact Gen.ensures_fixed (by decide +kernel)
          next =>
            split
            next => exact ih.bind fun inner hinner => ensures_optional hinner
            next =>
              refine (ensures_typing (isAscii_fixed rfl)).bind fun _ _ => ?_
              refine (Gen.ensures_mapM fun _ _ => ih).bind fun texts htexts => ?_
              have hinner : Spelled ctx.names.vocabulary
                  ("Union[" ++ ", ".intercalate texts ++ "]") :=
                spelled_generic (by decide +kernel) (spelled_intercalate htexts)
              exact (Gen.ensures_pure hinner).bind fun _ hinner => ensures_optional hinner
      | formatted format =>
          cases format with
          | dateTime => exact Gen.ensures_datetime
          | integerText => exact Gen.ensures_fixed (by decide +kernel)

/-- The annotation of a type is of the vocabulary. -/
theorem ensures_annotate {place : Place} :
    (ctx.annotate place t).Ensures (Spelled ctx.names.vocabulary) :=
  ensures_annotateWithin hspelt

end Context

end TypedJson.Code
