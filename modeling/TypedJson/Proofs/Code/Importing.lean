import TypedJson.Proofs.Code.Yields
import TypedJson.Proofs.Naming.Uniqueness
import TypedJson.Proofs.Ordered

/-!
# What generation steps import

Generation steps import names one by one and never take one back (`Gen.KeepsImports`). Neither do
conversions, whatever kinds and transformers they go through, nor annotations, classes and
functions. So a step that is part of others ends with no more imported than there is in the end, and
what it has imported for its result is still there then (`Gen.YieldsWithin`).
-/

namespace TypedJson.Code

namespace Imports

/-- Whatever name the first imports, the second does. -/
instance : HasSubset Imports where
  Subset i j := ∀ module name, i.contains module name → j.contains module name

variable {i j k : Imports}

/-- What is imported is. -/
theorem subset_refl (i : Imports) : i ⊆ i :=
  fun _ _ h => h

/-- Imports may be compared step by step. -/
theorem subset_trans (h : i ⊆ j) (h' : j ⊆ k) : i ⊆ k :=
  fun module name hname => h' module name (h module name hname)

/-- The names that are imported from a module are those that were, and the one that is added. -/
theorem contains_addName {module other name added : String} :
    (i.addName module added).contains other name ↔
      i.contains other name ∨ other = module ∧ name = added := by
  unfold contains addName
  by_cases hother : other = module
  · subst hother
    rw [Ordered.find?_insertEntry_self]
    cases Ordered.find? other i.names with
    | none => simp [Ordered.insert]
    | some known => simp [Naming.Namespace.mem_insert_iff]
  · rw [Ordered.find?_insertEntry_of_ne hother]
    simp [hother]

/-- A name that is added is imported besides the others. -/
theorem subset_addName (i : Imports) (module name : String) : i ⊆ i.addName module name :=
  fun _ _ h => contains_addName.2 (.inl h)

/-- A name that is added is imported. -/
theorem contains_addName_self (i : Imports) (module name : String) :
    (i.addName module name).contains module name :=
  contains_addName.2 (.inr ⟨rfl, rfl⟩)

end Imports

/-- A support function is no import. -/
theorem Requirements.imports_addConverter (s : Requirements) (cv : Converter) :
    (s.addConverter cv).imports = s.imports := by
  unfold addConverter
  split <;> rfl

namespace Gen

variable {α β : Type} {a : α} {b : β} {i : Imports}

/-! ## Steps that keep imports -/

/-- A run of the step keeps what was imported. -/
def KeepsImports (x : Gen α) : Prop :=
  ∀ s a s', x.Runs s a s' → s.imports ⊆ s'.imports

/-- A value imports nothing. -/
theorem keepsImports_pure (a : α) : KeepsImports (pure a) := by
  intro s b s' hrun
  obtain ⟨-, rfl⟩ := hrun.pure
  exact Imports.subset_refl _

/-- A refused step ends with nothing. -/
theorem keepsImports_throw (e : GenerateError) : KeepsImports (throw e : Gen α) :=
  fun _ _ _ hrun => absurd hrun not_runs_throw

/-- A pure step imports nothing. -/
theorem keepsImports_lift (r : Except GenerateError α) : KeepsImports (lift r) := by
  intro s a s' hrun
  obtain ⟨-, rfl⟩ := hrun.lift
  exact Imports.subset_refl _

/-- A name is imported besides the others. -/
theorem keepsImports_addName (module name : String) :
    KeepsImports (require (·.addName module name)) := by
  intro s a s' hrun
  cases hrun
  exact Imports.subset_addName _ _ _

/-- One step behind the other keeps what both do. -/
theorem KeepsImports.bind {x : Gen α} {f : α → Gen β} (hx : x.KeepsImports)
    (hf : ∀ a, (f a).KeepsImports) : (x >>= f).KeepsImports := by
  intro s b s' hrun
  obtain ⟨a, between, ha, hrun⟩ := hrun.bind
  exact Imports.subset_trans (hx s a between ha) (hf a between b s' hrun)

/-- An import on a condition keeps the others. -/
theorem KeepsImports.when {c : Prop} [Decidable c] {module name : String} {f : Unit → Gen β}
    (h : (f ()).KeepsImports) :
    (if c then require (·.addName module name) >>= f else f ()).KeepsImports := by
  split
  · exact (keepsImports_addName module name).bind fun _ => h
  · exact h

/-- A support function imports nothing. -/
theorem keepsImports_converter (cv : Converter) : (converter cv).KeepsImports := by
  intro s f s' hrun
  obtain ⟨-, rfl⟩ := hrun.converter
  rw [Requirements.imports_addConverter]
  exact Imports.subset_refl _

/-- Neither does it with arguments in front. -/
theorem keepsImports_converterWith (cv : Converter) (leading : List String) :
    (converterWith cv leading).KeepsImports := by
  intro s f s' hrun
  obtain ⟨-, rfl⟩ := hrun.converterWith
  rw [Requirements.imports_addConverter]
  exact Imports.subset_refl _

/-- Steps for the items of a list keep what each of them does. -/
theorem keepsImports_mapM {f : α → Gen β} (h : ∀ a, (f a).KeepsImports) (as : List α) :
    (as.mapM f).KeepsImports := by
  induction as with
  | nil => exact keepsImports_pure []
  | cons a as ih =>
      rw [List.mapM_cons]
      exact (h a).bind fun b => ih.bind fun bs => keepsImports_pure (b :: bs)

/-! ## Results within imports -/

/-- Some run of the step ends with the result, and with no more imported than in the end. -/
def YieldsWithin (i : Imports) (x : Gen α) (a : α) : Prop :=
  ∃ s s', x.Runs s a s' ∧ s'.imports ⊆ i

/-- The result is yielded. -/
theorem YieldsWithin.yields {x : Gen α} (h : x.YieldsWithin i a) : x.Yields a := by
  obtain ⟨s, s', hrun, -⟩ := h
  exact ⟨s, s', hrun⟩

/-- A pure step ends with its value. -/
theorem YieldsWithin.pure {a b : α} (h : (Pure.pure a : Gen α).YieldsWithin i b) : b = a :=
  h.yields.pure

/-- A composed step ends with what its second part ends with behind the first. -/
theorem YieldsWithin.bind {x : Gen α} {f : α → Gen β} (h : (x >>= f).YieldsWithin i b)
    (hf : ∀ a, (f a).KeepsImports) : ∃ a, x.YieldsWithin i a ∧ (f a).YieldsWithin i b := by
  obtain ⟨s, s', hrun, hi⟩ := h
  obtain ⟨a, between, ha, hrun⟩ := hrun.bind
  exact ⟨a, ⟨s, between, ha, Imports.subset_trans (hf a _ _ _ hrun) hi⟩, between, s', hrun, hi⟩

/-- A name that is imported is so in the end. -/
theorem YieldsWithin.addName {module name : String} {f : Unit → Gen β}
    (h : (require (·.addName module name) >>= f).YieldsWithin i b) (hf : (f ()).KeepsImports) :
    i.contains module name ∧ (f ()).YieldsWithin i b := by
  obtain ⟨s, s', hrun, hi⟩ := h
  have hrest := hrun.require
  exact ⟨hi _ _ (hf _ _ _ hrest _ _ (Imports.contains_addName_self _ _ _)), _, s', hrest, hi⟩

/-- So is one on a condition, if that holds. -/
theorem YieldsWithin.when {c : Prop} [Decidable c] {module name : String} {f : Unit → Gen β}
    (h : (if c then require (·.addName module name) >>= f else f ()).YieldsWithin i b)
    (hf : (f ()).KeepsImports) : (c → i.contains module name) ∧ (f ()).YieldsWithin i b := by
  split at h
  next =>
    obtain ⟨hname, h⟩ := h.addName hf
    exact ⟨fun _ => hname, h⟩
  next hc => exact ⟨fun h => absurd h hc, h⟩

/-- A list is mapped to what the steps for its items end with. -/
theorem YieldsWithin.mapM {f : α → Gen β} {as : List α} {bs : List β}
    (h : (as.mapM f).YieldsWithin i bs) (hf : ∀ a, (f a).KeepsImports) :
    List.Forall₂ (fun a b => (f a).YieldsWithin i b) as bs := by
  induction as generalizing bs with
  | nil =>
      rw [List.mapM_nil] at h
      rw [h.pure]
      exact .nil
  | cons a as ih =>
      rw [List.mapM_cons] at h
      obtain ⟨b, hb, h⟩ := h.bind fun b =>
        (keepsImports_mapM hf as).bind fun bs => keepsImports_pure (b :: bs)
      obtain ⟨rest, hrest, h⟩ := h.bind fun bs => keepsImports_pure (b :: bs)
      rw [h.pure]
      exact .cons hb (ih hrest)

end Gen

/-! ## Conversions -/

namespace Context

open Gen

variable {ctx : Context} {d : Direction} {c : Chain} {t : TypeRef}

/-- Looking up a kind imports nothing. -/
theorem keepsImports_kind : (ctx.kind t).KeepsImports := by
  unfold kind
  split
  · exact keepsImports_pure _
  · exact keepsImports_throw _

/-- Neither does looking up the name of a type. -/
theorem keepsImports_typeName : (ctx.typeName t).KeepsImports :=
  keepsImports_lift _

/-- A support function behind a chain imports nothing. -/
theorem keepsImports_andThen {x : Gen Function} (h : x.KeepsImports) :
    (x >>= fun f => pure (c.andThen f)).KeepsImports :=
  h.bind fun _ => keepsImports_pure _

/-- Conversions by kind keep what is imported, if those of elements do. -/
theorem keepsImports_convertByKind {element : TypeRef → Gen String}
    (h : ∀ m, (element m).KeepsImports) : (ctx.convertByKind element d c t).KeepsImports := by
  have hconverter (cv : Converter) := keepsImports_andThen (c := c) (keepsImports_converter cv)
  have hwith (cv : Converter) (leading : List String) :=
    keepsImports_andThen (c := c) (keepsImports_converterWith cv leading)
  refine keepsImports_kind.bind fun k => ?_
  cases k with
  | any => exact keepsImports_pure c
  | null => exact hconverter .fromNone
  | bool => exact hconverter .fromBool
  | integer => exact hconverter .fromInt
  | double => exact hconverter _
  | text => exact hconverter .fromStr
  | array items => exact (h items).bind fun _ => hwith _ _
  | map values => exact (h values).bind fun _ => hwith _ _
  | record | enumeration =>
      refine keepsImports_typeName.bind fun name => ?_
      cases d with
      | decode => exact keepsImports_pure _
      | encode => exact hwith _ _
  | union members => exact (keepsImports_mapM h members).bind fun _ => hwith _ _
  | formatted format =>
      cases format with
      | dateTime =>
          cases d with
          | decode => exact hconverter .fromDatetime
          | encode => exact keepsImports_pure _
      | integerText => exact keepsImports_throw _

/-- The object that tells the values of a type keeps what is imported. -/
theorem keepsImports_typeObject : (ctx.typeObject d t).KeepsImports := by
  refine keepsImports_kind.bind fun k => ?_
  cases k with
  | null | bool | integer | double | text | array | map => exact keepsImports_pure _
  | record | enumeration =>
      cases d with
      | decode => exact keepsImports_pure _
      | encode => exact keepsImports_typeName
  | formatted format =>
      cases d with
      | decode => exact keepsImports_pure _
      | encode =>
          cases format with
          | dateTime =>
              exact (keepsImports_addName "datetime" "datetime").bind fun _ => keepsImports_pure _
          | integerText => exact keepsImports_pure _
  | any | union => exact keepsImports_throw _

/-- So does the step that parses a text. -/
theorem keepsImports_parseStep : (ctx.parseStep t).KeepsImports := by
  refine keepsImports_kind.bind fun k => ?_
  cases k with
  | integer => exact keepsImports_pure _
  | enumeration => exact keepsImports_typeName.bind fun _ => keepsImports_pure _
  | formatted format =>
      cases format with
      | dateTime => exact keepsImports_converter .fromDatetime
      | integerText => exact keepsImports_throw _
  | any | null | bool | double | text | array | map | record | union => exact keepsImports_throw _

/-- So does the step that writes one. -/
theorem keepsImports_writeStep : (ctx.writeStep t).KeepsImports := by
  refine keepsImports_kind.bind fun k => ?_
  cases k with
  | integer => exact keepsImports_pure _
  | enumeration => exact keepsImports_typeName.bind fun _ => keepsImports_converterWith _ _
  | formatted format =>
      cases format with
      | dateTime => exact keepsImports_pure _
      | integerText => exact keepsImports_throw _
  | any | null | bool | double | text | array | map | record | union => exact keepsImports_throw _

section Transformers

variable {byKind : Direction → Chain → TypeRef → Gen Chain}

mutual
/-- Transformers keep what is imported, if conversions by kind do. -/
theorem keepsImports_transform (h : ∀ d c t, (byKind d c t).KeepsImports) :
    ∀ (x : Transformer) (c : Chain) (target : TypeRef),
      (ctx.transform byKind d x c target).KeepsImports
  | .choice _ branches, c, target => by
      unfold transform
      exact (keepsImports_transformBranches h branches target).bind fun _ =>
        keepsImports_andThen (keepsImports_converterWith _ _)
  | .decode source next, c, target => by
      unfold transform
      exact (h _ _ _).bind fun decoded => keepsImports_transformNext h next decoded target
  | .encode source, c, target => by
      unfold transform
      exact h _ _ _
  | .elements _ container element next, c, target => by
      unfold transform
      exact (keepsImports_transform h element _ _).bind fun _ =>
        (keepsImports_converterWith _ _).bind fun _ => keepsImports_transformNext h next _ target
  | .memberMatch _ member next, c, target => by
      unfold transform
      exact keepsImports_typeObject.bind fun _ =>
        (keepsImports_converterWith _ _).bind fun _ => keepsImports_transformNext h next _ target
  | .instantiate _, c, target => by
      unfold transform
      exact keepsImports_pure c
  | .parseText _ next, c, target => by
      unfold transform
      exact keepsImports_parseStep.bind fun _ => keepsImports_transformNext h next _ target
  | .writeText source next, c, target => by
      unfold transform
      exact keepsImports_writeStep.bind fun _ => keepsImports_transformNext h next _ target

/-- So does what is done behind a step. -/
theorem keepsImports_transformNext (h : ∀ d c t, (byKind d c t).KeepsImports) :
    ∀ (next : Option Transformer) (c : Chain) (target : TypeRef),
      (ctx.transformNext byKind d next c target).KeepsImports
  | none, c, target => by
      unfold transformNext
      exact keepsImports_pure c
  | some step, c, target => by
      unfold transformNext
      exact keepsImports_transform h step c target

/-- So do the branches of a choice. -/
theorem keepsImports_transformBranches (h : ∀ d c t, (byKind d c t).KeepsImports) :
    ∀ (branches : List Transformer) (target : TypeRef),
      (ctx.transformBranches byKind d branches target).KeepsImports
  | [], target => by
      unfold transformBranches
      exact keepsImports_pure []
  | branch :: rest, target => by
      unfold transformBranches
      exact (keepsImports_transform h branch _ target).bind fun _ =>
        (keepsImports_transformBranches h rest target).bind fun _ => keepsImports_pure _
end

end Transformers

/-- The conversion of a type keeps what is imported. -/
theorem keepsImports_convertWithin {n : Nat} : (ctx.convertWithin n d c t).KeepsImports := by
  induction n generalizing d c t with
  | zero => exact keepsImports_throw _
  | succ n ih =>
      have hkind (d : Direction) (c : Chain) (t : TypeRef) :
          (ctx.convertByKind (fun m => do
            let f ← ctx.convertWithin n d .identity m
            return f.toFunction.render) d c t).KeepsImports :=
        keepsImports_convertByKind fun _ => ih.bind fun _ => keepsImports_pure _
      unfold convertWithin
      cases ctx.graph.transformation? t with
      | none => exact hkind d c t
      | some x =>
          cases d with
          | decode => exact keepsImports_transform hkind x.transformer c _
          | encode => exact keepsImports_transform hkind x.reverse c _

/-- So does that of an expression. -/
theorem keepsImports_convertValue (d : Direction) (expression : String) (t : TypeRef) :
    (ctx.convertValue d expression t).KeepsImports :=
  keepsImports_convertWithin.bind fun _ => keepsImports_lift _

/-! ## Annotations -/

/-- What is done behind an import keeps imports, and so does the import. -/
theorem keepsImports_typing (name : String) : (typing name).KeepsImports :=
  keepsImports_addName "typing" name

/-- What may be null is annotated as optional. -/
theorem keepsImports_optional (inner : String) :
    (do
      if ctx.graph.isNullable t then do
        typing "Optional"
        return "Optional[" ++ inner ++ "]"
      else return inner : Gen String).KeepsImports := by
  split
  · exact (keepsImports_typing _).bind fun _ => keepsImports_pure _
  · exact keepsImports_pure inner

/-- Annotations keep what is imported. -/
theorem keepsImports_annotateWithin {place : Place} {n : Nat} :
    (ctx.annotateWithin place n t).KeepsImports := by
  induction n generalizing t with
  | zero => exact keepsImports_throw _
  | succ n ih =>
      unfold annotateWithin
      dsimp only
      split
      next => exact ih
      refine keepsImports_kind.bind fun k => ?_
      cases k with
      | any => exact (keepsImports_typing _).bind fun _ => keepsImports_pure _
      | null | bool | integer | double | text => exact keepsImports_pure _
      | array | map =>
          exact (keepsImports_typing _).bind fun _ => ih.bind fun _ => keepsImports_pure _
      | record r => exact keepsImports_typeName.bind fun _ => keepsImports_pure _
      | enumeration e => exact keepsImports_typeName
      | union members =>
          dsimp only
          split
          next => exact keepsImports_pure _
          next =>
            split
            next => exact ih.bind fun inner => keepsImports_optional inner
            next =>
              exact (keepsImports_typing _).bind fun _ => (keepsImports_mapM (fun _ => ih) _).bind
                fun _ => (keepsImports_pure _).bind fun inner => keepsImports_optional inner
      | formatted format =>
          cases format with
          | dateTime => exact (keepsImports_addName _ _).bind fun _ => keepsImports_pure _
          | integerText => exact keepsImports_pure _

/-- So does the annotation of a type. -/
theorem keepsImports_annotate (place : Place) (t : TypeRef) :
    (ctx.annotate place t).KeepsImports :=
  keepsImports_annotateWithin

/-! ## Classes and functions -/

variable {o : Options} {declared : List TypeRef}

/-- The class of an enumeration keeps what is imported. -/
theorem keepsImports_enumerationClass (t : TypeRef) (e : Enumeration) :
    (ctx.enumerationClass t e).KeepsImports :=
  keepsImports_typeName.bind fun _ => (keepsImports_addName _ _).bind fun _ =>
    (keepsImports_mapM (fun _ => (keepsImports_lift _).bind fun _ => keepsImports_pure _) _).bind
      fun _ => keepsImports_pure _

/-- The fields of a class do. -/
theorem keepsImports_fields (declared : List TypeRef) (t : TypeRef) (r : Record) :
    (ctx.fields declared t r).KeepsImports := by
  refine (keepsImports_mapM (fun _ =>
    (keepsImports_lift _).bind fun _ => keepsImports_pure _) _).bind fun _ =>
      keepsImports_mapM (fun f => ?_) _
  split
  · exact (keepsImports_annotate _ _).bind fun _ => keepsImports_pure _
  · exact keepsImports_pure _

/-- So do the conversions of a class. -/
theorem keepsImports_classConversions (declared : List TypeRef) (t : TypeRef) (name : String)
    (fields : List Field) : (ctx.classConversions declared t name fields).KeepsImports := by
  have hvalues {β : Type} (d : Direction) (expression : Field → String)
      (g : Field → String → β) : (fields.mapM fun f => do
        let value ← ctx.convertValue d (expression f) f.type
        return g f value).KeepsImports :=
    keepsImports_mapM (fun _ => (keepsImports_convertValue _ _ _).bind fun _ =>
      keepsImports_pure _) _
  refine (hvalues _ _ _).bind fun values => ?_
  dsimp only
  split
  · exact (keepsImports_typing _).bind fun _ => (keepsImports_annotate _ _).bind fun _ =>
      (keepsImports_pure _).bind fun _ => (hvalues _ _ _).bind fun _ => keepsImports_pure _
  · exact (keepsImports_pure _).bind fun _ => (hvalues _ _ _).bind fun _ => keepsImports_pure _

/-- The class of a record does. -/
theorem keepsImports_recordClass (declared : List TypeRef) (t : TypeRef) (r : Record) :
    (ctx.recordClass o declared t r).KeepsImports := by
  refine keepsImports_typeName.bind fun name => (keepsImports_fields declared t r).bind
    fun fields => .when ?_
  cases o.justTypes with
  | true => exact (keepsImports_pure _).bind fun _ => keepsImports_pure _
  | false => exact (keepsImports_classConversions _ _ _ _).bind fun _ => keepsImports_pure _

/-- The classes of records do. -/
theorem keepsImports_classes (ts : List TypeRef) :
    (ctx.classes o declared ts).KeepsImports := by
  induction ts generalizing declared with
  | nil => exact keepsImports_pure []
  | cons t rest ih =>
      unfold classes
      cases ctx.graph.record? t with
      | none => exact (keepsImports_pure _).bind fun _ => ih.bind fun _ => keepsImports_pure _
      | some r =>
          exact (keepsImports_recordClass _ _ _).bind fun _ => ih.bind fun _ => keepsImports_pure _

/-- So do the functions of a top-level. -/
theorem keepsImports_topLevel (declared : List TypeRef) (top : TopLevel) (index : Nat) :
    (ctx.topLevel declared top index).KeepsImports := by
  refine (keepsImports_lift _).bind fun names => (keepsImports_convertValue _ _ _).bind
    fun decode => (keepsImports_convertValue _ _ _).bind fun encode => ?_
  dsimp only
  split
  · exact (keepsImports_typing _).bind fun _ => (keepsImports_annotate _ _).bind fun _ =>
      (keepsImports_pure _).bind fun _ => keepsImports_pure _
  · exact (keepsImports_pure _).bind fun _ => keepsImports_pure _

end Context

/-! ## What support functions import -/

namespace Imports

variable {i : Imports} {module name : String}

/-- A name on a condition is imported besides the others. -/
theorem subset_when (c : Prop) [Decidable c] (i : Imports) (module name : String) :
    i ⊆ if c then i.addName module name else i := by
  split
  · exact subset_addName i module name
  · exact subset_refl i

variable {α : Type} {add : Imports → α → Imports} (hadd : ∀ i a, i ⊆ add i a)

include hadd

/-- Imports one by one are besides the others. -/
theorem subset_foldl (as : List α) (i : Imports) : i ⊆ as.foldl add i := by
  induction as generalizing i with
  | nil => exact subset_refl i
  | cons a as ih => exact subset_trans (hadd i a) (ih _)

/-- What one of them imports is imported by all of them. -/
theorem contains_foldl {as : List α} {a : α} (ha : a ∈ as)
    (h : ∀ i, (add i a).contains module name) (i : Imports) :
    (as.foldl add i).contains module name := by
  obtain ⟨front, back, rfl⟩ := List.append_of_mem ha
  rw [List.foldl_append, List.foldl_cons]
  exact subset_foldl hadd back _ module name (h _)

end Imports

namespace Converter

/-- The names that the annotated signature and the body take from other modules. -/
def imported (cv : Converter) : List (String × String) :=
  cv.typingNames.map (("typing", ·))
    ++ (if cv = .fromDatetime then [("datetime", "datetime")] else [])
    ++ if cv = .toEnum then [("enum", "Enum")] else []

/-- A support function is defined with what it needs besides what is imported. -/
theorem subset_addImports (hints : Bool) (i : Imports) (cv : Converter) :
    i ⊆ addImports hints i cv := by
  have hmodule : i ⊆ if cv = .fromDatetime then i.addModule "dateutil.parser" else i := by
    split <;> exact fun _ _ h => h
  unfold addImports
  cases hints with
  | false => exact hmodule
  | true =>
      exact Imports.subset_trans hmodule (Imports.subset_trans (Imports.subset_when _ _ _ _)
        (Imports.subset_trans (Imports.subset_foldl (fun _ _ => Imports.subset_addName _ _ _) _ _)
          (Imports.subset_when _ _ _ _)))

/-- What it names is imported. -/
theorem contains_addImports {cv : Converter} {entry : String × String} (h : entry ∈ cv.imported)
    (i : Imports) : (addImports true i cv).contains entry.1 entry.2 := by
  have htyping (i : Imports) (name : String) : i ⊆ i.addName "typing" name :=
    Imports.subset_addName i "typing" name
  unfold addImports
  rw [if_pos rfl]
  rcases List.mem_append.1 h with h | h
  · refine Imports.subset_when _ _ _ _ _ _ ?_
    rcases List.mem_append.1 h with h | h
    · obtain ⟨name, hname, rfl⟩ := List.mem_map.1 h
      exact Imports.contains_foldl htyping hname
        (fun i => Imports.contains_addName_self i "typing" name) _
    · refine Imports.subset_foldl htyping _ _ _ _ ?_
      split at h
      next hdatetime =>
        rw [List.mem_singleton.1 h, if_pos hdatetime]
        exact Imports.contains_addName_self _ _ _
      next => cases h
  · split at h
    next henum =>
      rw [List.mem_singleton.1 h, if_pos henum]
      exact Imports.contains_addName_self _ _ _
    next => cases h

end Converter

namespace Requirements

/-- What support functions need is imported besides what is. -/
theorem subset_closeImports (r : Requirements) (f : Features) :
    r.imports ⊆ (r.closeImports f).imports :=
  Imports.subset_foldl (Converter.subset_addImports f.typeHints) _ _

/-- What the support functions name that are needed is imported. -/
theorem contains_closeImports {r : Requirements} {f : Features} (hhints : f.typeHints = true)
    {cv : Converter} (hcv : cv ∈ r.used) {entry : String × String} (h : entry ∈ cv.imported) :
    (r.closeImports f).imports.contains entry.1 entry.2 := by
  unfold closeImports
  rw [hhints]
  exact Imports.contains_foldl (Converter.subset_addImports true) hcv
    (Converter.contains_addImports h) _

end Requirements

end TypedJson.Code
