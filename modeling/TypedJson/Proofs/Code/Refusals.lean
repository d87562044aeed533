import TypedJson.Proofs.Code.Classes
import TypedJson.Proofs.Code.Termination
import TypedJson.Proofs.Code.Transforming
import TypedJson.Proofs.Value.Tasks

/-!
# Refused modules

What the generation of a module can be refused for. Names are complete, references denote types, a
chain that starts from an expression stays an expression, and no conversion is endless as long as
no record is transformed. What remains are conversions without a generated form, and a module of
types alone asks for none. A refusal of a composed step is one of its parts, so each function of the
generator is followed once (`RefusedOnly.bind`); `renderModule_refused_only_unsupported` collects
them.
-/

namespace TypedJson.Code

open TypeGraph

/-- The refusal is for a conversion that has no generated form. -/
def GenerateError.isUnsupported : GenerateError → Bool
  | .cannotParse _ => true
  | .cannotWrite _ => true
  | .noTransformation _ => true
  | .noTypeObject _ => true
  | .noArgument => false
  | .unnamedType _ => false
  | .unnamedProperty _ _ => false
  | .unnamedCase _ _ => false
  | .unnamedTopLevel _ => false
  | .dangling _ => false
  | .endless _ => false

/-- The refusal is for a conversion that leads back to itself. -/
def GenerateError.isEndless : GenerateError → Bool
  | .endless _ => true
  | _ => false

/-- No run of the step is refused but for such a reason. -/
def Gen.RefusedOnly {α : Type} (p : GenerateError → Prop) (x : Gen α) : Prop :=
  ∀ s e, (x.run.run s).1 = .error e → p e

namespace Gen

variable {α β : Type} {p q : GenerateError → Prop}

/-! ## Composed steps -/

/-- A value is not refused. -/
theorem refusedOnly_pure (a : α) : RefusedOnly p (pure a : Gen α) := by
  intro s e h
  cases h

/-- A refusal is refused for its reason. -/
theorem refusedOnly_throw {e : GenerateError} (h : p e) : RefusedOnly p (throw e : Gen α) := by
  intro s e' heq
  cases heq
  exact h

/-- Recording something is not refused. -/
theorem refusedOnly_require (change : Requirements → Requirements) :
    RefusedOnly p (require change) := by
  intro s e h
  cases h

/-- A composed step is refused where its first part is, or where its second part is behind it. -/
theorem RefusedOnly.bind {x : Gen α} {f : α → Gen β} (hx : RefusedOnly p x)
    (hf : ∀ a, x.Yields a → RefusedOnly p (f a)) : RefusedOnly p (x >>= f) := by
  intro s e h
  rw [ExceptT.run_bind, StateT.run_bind] at h
  rcases hrun : x.run.run s with ⟨e' | a, between⟩
  · rw [hrun] at h
    refine hx s e ?_
    rw [hrun]
    exact congrArg _ (Except.error.inj h)
  · rw [hrun] at h
    exact hf a ⟨s, between, hrun⟩ between e h

/-- A list is refused where one of its items is. -/
theorem refusedOnly_mapM {f : α → Gen β} {as : List α} (h : ∀ a ∈ as, RefusedOnly p (f a)) :
    RefusedOnly p (as.mapM f) := by
  induction as with
  | nil => exact refusedOnly_pure []
  | cons a as ih =>
      obtain ⟨ha, has⟩ := List.forall_mem_cons.1 h
      rw [List.mapM_cons]
      exact ha.bind fun _ _ => (ih has).bind fun _ _ => refusedOnly_pure _

/-- A pure step that is there is not refused. -/
theorem refusedOnly_lift {r : Except GenerateError α} (h : ∃ a, r = .ok a) :
    RefusedOnly p (lift r) := by
  obtain ⟨a, rfl⟩ := h
  exact refusedOnly_pure a

/-- Recording something on a condition adds no refusal. -/
theorem RefusedOnly.when {c : Prop} [Decidable c] {change : Requirements → Requirements}
    {f : Unit → Gen β} (h : RefusedOnly p (f ())) :
    RefusedOnly p (if c then require change >>= f else f ()) := by
  split
  · exact (refusedOnly_require change).bind fun _ _ => h
  · exact h

/-- Naming a support function is not refused. -/
theorem refusedOnly_converter (cv : Converter) : RefusedOnly p (converter cv) :=
  (refusedOnly_require _).bind fun _ _ => refusedOnly_pure _

/-- Neither is naming it with arguments. -/
theorem refusedOnly_converterWith (cv : Converter) (leading : List String) :
    RefusedOnly p (converterWith cv leading) :=
  (refusedOnly_require _).bind fun _ _ => refusedOnly_pure _

/-- Reasons that never occur may be left out. -/
theorem RefusedOnly.imp {x : Gen α} (hx : RefusedOnly p x)
    (h : ∀ s e, (x.run.run s).1 = .error e → p e → q e) : RefusedOnly q x :=
  fun s e he => h s e he (hx s e he)

end Gen

namespace Context

open Gen

variable {ctx : Context} {p : GenerateError → Prop}

/-! ## Looking up types and names -/

/-- A type of the graph has a kind. -/
theorem refusedOnly_kind {α : Type} {t : TypeRef} (ht : t.index < ctx.graph.size) {f : Kind → Gen α}
    (h : ∀ k, ctx.graph.kind? t = some k → RefusedOnly p (f k)) :
    RefusedOnly p (ctx.kind t >>= f) := by
  obtain ⟨k, hk⟩ := kind?_isSome ht
  rw [kind, hk]
  exact h k hk

/-- The name of a type that has one is found. -/
theorem refusedOnly_typeName {t : TypeRef} (h : ∃ name, ctx.names.typeName t = .ok name) :
    RefusedOnly p (ctx.typeName t) :=
  refusedOnly_lift h

section Conversions

variable (hg : ctx.graph.Accepted) (hnames : ctx.names.Complete ctx.graph)
  (hp : ∀ e : GenerateError, e.isUnsupported → p e)

include hnames hp

/-! ## Conversions -/

/-- A type object is refused only where no object tells the values of the type. -/
theorem refusedOnly_typeObject {t : TypeRef} (ht : t.index < ctx.graph.size) (d : Direction) :
    RefusedOnly p (ctx.typeObject d t) := by
  refine refusedOnly_kind ht fun k hk => ?_
  cases k with
  | null | bool | integer | double | text | array | map => exact refusedOnly_pure _
  | record r =>
      cases d with
      | decode => exact refusedOnly_pure _
      | encode => exact refusedOnly_typeName (hnames.record (record?_eq_some.2 hk))
  | enumeration e =>
      cases d with
      | decode => exact refusedOnly_pure _
      | encode => exact refusedOnly_typeName (hnames.enumeration (enumeration?_eq_some.2 hk))
  | formatted format =>
      cases d with
      | decode => exact refusedOnly_pure _
      | encode =>
          cases format with
          | dateTime => exact (refusedOnly_require _).bind fun _ _ => refusedOnly_pure _
          | integerText => exact refusedOnly_pure _
  | any | union => exact refusedOnly_throw (hp _ rfl)

/-- A step that parses is refused only where no text is parsed into the type. -/
theorem refusedOnly_parseStep {t : TypeRef} (ht : t.index < ctx.graph.size) :
    RefusedOnly p (ctx.parseStep t) := by
  refine refusedOnly_kind ht fun k hk => ?_
  cases k with
  | integer => exact refusedOnly_pure _
  | enumeration e =>
      have hname := hnames.enumeration (enumeration?_eq_some.2 hk)
      exact (refusedOnly_typeName hname).bind fun _ _ => refusedOnly_pure _
  | formatted format =>
      cases format with
      | dateTime => exact refusedOnly_converter _
      | integerText => exact refusedOnly_throw (hp _ rfl)
  | any | null | bool | double | text | array | map | record | union =>
      exact refusedOnly_throw (hp _ rfl)

/-- A step that writes is refused only where no value of the type is written as a text. -/
theorem refusedOnly_writeStep {t : TypeRef} (ht : t.index < ctx.graph.size) :
    RefusedOnly p (ctx.writeStep t) := by
  refine refusedOnly_kind ht fun k hk => ?_
  cases k with
  | integer => exact refusedOnly_pure _
  | enumeration e =>
      have hname := hnames.enumeration (enumeration?_eq_some.2 hk)
      exact (refusedOnly_typeName hname).bind fun _ _ => refusedOnly_converterWith _ _
  | formatted format =>
      cases format with
      | dateTime => exact refusedOnly_pure _
      | integerText => exact refusedOnly_throw (hp _ rfl)
  | any | null | bool | double | text | array | map | record | union =>
      exact refusedOnly_throw (hp _ rfl)

/-- A conversion by kind is refused where those of elements and members are, and where texts of
digits have no transformation. -/
theorem refusedOnly_convertByKind {element : TypeRef → Gen String} {t : TypeRef}
    (ht : t.index < ctx.graph.size)
    (h : ∀ k, ctx.graph.kind? t = some k → ∀ r ∈ kindRefs k, RefusedOnly p (element r))
    (d : Direction) (c : Chain) : RefusedOnly p (ctx.convertByKind element d c t) := by
  have hconverter (cv : Converter) : RefusedOnly p (do return c.andThen (← Gen.converter cv)) :=
    (refusedOnly_converter cv).bind fun _ _ => refusedOnly_pure _
  have hwith (cv : Converter) (leading : List String) :
      RefusedOnly p (do return c.andThen (← Gen.converterWith cv leading)) :=
    (refusedOnly_converterWith cv leading).bind fun _ _ => refusedOnly_pure _
  refine refusedOnly_kind ht fun k hk => ?_
  have h := h k hk
  cases k with
  | any => exact refusedOnly_pure c
  | null | bool | integer | text => exact hconverter _
  | double => cases d <;> exact hconverter _
  | array items => exact (h items List.mem_cons_self).bind fun _ _ => hwith _ _
  | map values => exact (h values List.mem_cons_self).bind fun _ _ => hwith _ _
  | record r =>
      refine (refusedOnly_typeName (hnames.record (record?_eq_some.2 hk))).bind fun name _ => ?_
      cases d with
      | decode => exact refusedOnly_pure _
      | encode => exact hwith _ _
  | enumeration e =>
      have hname := hnames.enumeration (enumeration?_eq_some.2 hk)
      refine (refusedOnly_typeName hname).bind fun name _ => ?_
      cases d with
      | decode => exact refusedOnly_pure _
      | encode => exact hwith _ _
  | union members => exact (refusedOnly_mapM h).bind fun _ _ => hwith _ _
  | formatted format =>
      cases format with
      | dateTime =>
          cases d with
          | decode => exact hconverter _
          | encode => exact refusedOnly_pure _
      | integerText => exact refusedOnly_throw (hp _ rfl)

omit hnames hp

section Transformers

variable {byKind : Direction → Chain → TypeRef → Gen Chain}

mutual
/-- A conversion by a transformer is refused where its steps are. -/
theorem refusedOnly_transform (hg : ctx.graph.Accepted) (hnames : ctx.names.Complete ctx.graph)
    (hp : ∀ e : GenerateError, e.isUnsupported → p e)
    (hkind : ∀ s, s.index < ctx.graph.size → ∀ d c, RefusedOnly p (byKind d c s)) (d : Direction) :
    ∀ (x : Transformer) (c : Chain) (target : TypeRef),
    (Task.transformer d x target).InRange ctx.graph →
    RefusedOnly p (ctx.transform byKind d x c target)
  | .choice source branches, c, target, h => by
      simp only [transform]
      refine (refusedOnly_transformBranches hg hnames hp hkind d branches target ?_).bind
        fun functions _ => ?_
      · exact fun x hx => hg.inRange_leads h (.branch hx)
      · exact (refusedOnly_converterWith _ _).bind fun _ _ => refusedOnly_pure _
  | .decode source next, c, target, h => by
      simp only [transform]
      refine (hkind source (hg.inRange_leads h .decode) .decode c).bind fun decoded _ => ?_
      exact refusedOnly_transformNext hg hnames hp hkind d next decoded target fun y hy =>
        hg.inRange_leads h (.next hy)
  | .encode source, c, target, h => by
      simp only [transform]
      exact hkind source (hg.inRange_leads h .encode) .encode c
  | .elements source container element next, c, target, h => by
      have helement := hg.inRange_leads h .element
      simp only [transform, elementTarget_eq]
      refine (refusedOnly_transform hg hnames hp hkind d element _ _ helement).bind fun f _ => ?_
      refine (refusedOnly_converterWith _ _).bind fun step _ => ?_
      exact refusedOnly_transformNext hg hnames hp hkind d next _ target fun y hy =>
        hg.inRange_leads h (.next hy)
  | .memberMatch source member next, c, target, h => by
      have hmember := h.1 member (List.mem_cons_of_mem _ List.mem_cons_self)
      simp only [transform]
      refine (refusedOnly_typeObject hnames hp hmember d).bind fun object _ => ?_
      refine (refusedOnly_converterWith _ _).bind fun step _ => ?_
      exact refusedOnly_transformNext hg hnames hp hkind d next _ target fun y hy =>
        hg.inRange_leads h (.next hy)
  | .instantiate source, c, target, h => by
      simp only [transform]
      exact refusedOnly_pure c
  | .parseText source next, c, target, h => by
      simp only [transform]
      refine (refusedOnly_parseStep hnames hp (inRange_parsed h)).bind fun step _ => ?_
      exact refusedOnly_transformNext hg hnames hp hkind d next _ target fun y hy =>
        hg.inRange_leads h (.next hy)
  | .writeText source next, c, target, h => by
      have hsource := h.1 source List.mem_cons_self
      simp only [transform]
      refine (refusedOnly_writeStep hnames hp hsource).bind fun step _ => ?_
      exact refusedOnly_transformNext hg hnames hp hkind d next _ target fun y hy =>
        hg.inRange_leads h (.next hy)

/-- So is going on with the next step. -/
theorem refusedOnly_transformNext (hg : ctx.graph.Accepted)
    (hnames : ctx.names.Complete ctx.graph) (hp : ∀ e : GenerateError, e.isUnsupported → p e)
    (hkind : ∀ s, s.index < ctx.graph.size → ∀ d c, RefusedOnly p (byKind d c s)) (d : Direction) :
    ∀ (next : Option Transformer) (c : Chain) (target : TypeRef),
    (∀ y, next = some y → (Task.transformer d y target).InRange ctx.graph) →
    RefusedOnly p (ctx.transformNext byKind d next c target)
  | none, c, target, h => by
      simp only [transformNext]
      exact refusedOnly_pure c
  | some step, c, target, h => by
      simp only [transformNext]
      exact refusedOnly_transform hg hnames hp hkind d step c target (h step rfl)

/-- So are the branches of a choice. -/
theorem refusedOnly_transformBranches (hg : ctx.graph.Accepted)
    (hnames : ctx.names.Complete ctx.graph) (hp : ∀ e : GenerateError, e.isUnsupported → p e)
    (hkind : ∀ s, s.index < ctx.graph.size → ∀ d c, RefusedOnly p (byKind d c s)) (d : Direction) :
    ∀ (branches : List Transformer) (target : TypeRef),
    (∀ x ∈ branches, (Task.transformer d x target).InRange ctx.graph) →
    RefusedOnly p (ctx.transformBranches byKind d branches target)
  | [], target, h => by
      simp only [transformBranches]
      exact refusedOnly_pure []
  | branch :: rest, target, h => by
      obtain ⟨hbranch, hrest⟩ := List.forall_mem_cons.1 h
      simp only [transformBranches]
      refine (refusedOnly_transform hg hnames hp hkind d branch .identity target hbranch).bind
        fun f _ => ?_
      exact (refusedOnly_transformBranches hg hnames hp hkind d rest target hrest).bind fun _ _ =>
        refusedOnly_pure _
end

end Transformers

include hg hnames hp

/-- Within any bound on nested types, a conversion is refused as unsupported or as endless. -/
theorem refusedOnly_convertWithin (hend : ∀ t, p (.endless t)) {n : Nat} {t : TypeRef}
    (ht : t.index < ctx.graph.size) (d : Direction) (c : Chain) :
    RefusedOnly p (ctx.convertWithin n d c t) := by
  induction n generalizing t d c with
  | zero => exact refusedOnly_throw (hend t)
  | succ n ih =>
      have hkind (s : TypeRef) (hs : s.index < ctx.graph.size) (d : Direction) (c : Chain) :
          RefusedOnly p (ctx.convertByKind (fun m => do
            let f ← ctx.convertWithin n d .identity m
            return f.toFunction.render) d c s) := by
        refine refusedOnly_convertByKind hnames hp hs (fun k hk r hr => ?_) d c
        exact (ih (hg.refs hk r hr) d .identity).bind fun _ _ => refusedOnly_pure _
      have htask : (Task.type d t).InRange ctx.graph := ht
      unfold convertWithin
      cases hx : ctx.graph.transformation? t with
      | none => exact hkind t ht d c
      | some x =>
          cases d with
          | decode =>
              exact refusedOnly_transform hg hnames hp hkind .decode x.transformer c x.target
                (hg.inRange_leads htask (.decoding hx))
          | encode =>
              exact refusedOnly_transform hg hnames hp hkind .encode x.reverse c t
                (hg.inRange_leads htask (.encoding hx))

end Conversions

/-! ## Annotations -/

/-- Within any bound on nested types, an annotation is refused as endless only. -/
theorem refusedOnly_annotateWithin (hg : ctx.graph.Accepted) (hnames : ctx.names.Complete ctx.graph)
    (place : Place) {n : Nat} {t : TypeRef} (ht : t.index < ctx.graph.size) :
    RefusedOnly (fun e => e.isEndless) (ctx.annotateWithin place n t) := by
  induction n generalizing t with
  | zero => exact refusedOnly_throw rfl
  | succ n ih =>
      unfold annotateWithin
      dsimp only
      split
      -- A type with a transformation is annotated as what it is transformed to.
      next target htarget =>
        refine ih ?_
        split at htarget
        next x hx =>
          split at htarget
          · cases htarget
          · cases htarget
            exact hg.transformed hx _ List.mem_cons_self
        next => cases htarget
      next =>
        refine refusedOnly_kind ht fun k hk => ?_
        have hpart (r : TypeRef) (hr : r ∈ kindRefs k) :
            RefusedOnly (fun e => e.isEndless) (ctx.annotateWithin place n r) :=
          ih (hg.refs hk r hr)
        cases k with
        | any => exact (refusedOnly_require _).bind fun _ _ => refusedOnly_pure _
        | null | bool | integer | double | text => exact refusedOnly_pure _
        | array items =>
            exact (refusedOnly_require _).bind fun _ _ =>
              (hpart items List.mem_cons_self).bind fun _ _ => refusedOnly_pure _
        | map values =>
            exact (refusedOnly_require _).bind fun _ _ =>
              (hpart values List.mem_cons_self).bind fun _ _ => refusedOnly_pure _
        | record r =>
            have hname := hnames.record (record?_eq_some.2 hk)
            exact (refusedOnly_typeName hname).bind fun _ _ => refusedOnly_pure _
        | enumeration e => exact refusedOnly_typeName (hnames.enumeration (enumeration?_eq_some.2 hk))
        | union members =>
            have hmember (r : TypeRef) (hr : r ∈ ctx.graph.nonNullMembers t) :
                RefusedOnly (fun e => e.isEndless) (ctx.annotateWithin place n r) :=
              hpart r (mem_of_mem_nonNullMembers hk hr)
            -- Whether null is among the members decides on the last step only.
            have hoptional (inner : String) : RefusedOnly (fun e => e.isEndless)
                (if ctx.graph.isNullable t then do
                  typing "Optional"
                  return "Optional[" ++ inner ++ "]"
                else return inner) := by
              split
              · exact (refusedOnly_require _).bind fun _ _ => refusedOnly_pure _
              · exact refusedOnly_pure inner
            dsimp only
            cases hmembers : ctx.graph.nonNullMembers t with
            | nil => exact refusedOnly_pure _
            | cons first rest =>
                rw [hmembers] at hmember
                cases rest with
                | nil => exact (hmember first List.mem_cons_self).bind fun inner _ => hoptional inner
                | cons second rest =>
                    refine (refusedOnly_require _).bind fun _ _ => ?_
                    refine (refusedOnly_mapM hmember).bind fun _ _ => ?_
                    exact (refusedOnly_pure _).bind fun inner _ => hoptional inner
        | formatted format =>
            cases format with
            | dateTime => exact (refusedOnly_require _).bind fun _ _ => refusedOnly_pure _
            | integerText => exact refusedOnly_pure _

/-! ## The module -/

section Module

variable {o : Options} {declared : List TypeRef}
  (hnames : ctx.names.Complete ctx.graph)
  (hhint : ∀ place t, t.index < ctx.graph.size → RefusedOnly p (ctx.annotate place t))

include hnames

/-- The class of an enumeration is not refused. -/
theorem refusedOnly_enumerationClass {t : TypeRef} {e : Enumeration}
    (he : ctx.graph.enumeration? t = some e) : RefusedOnly p (ctx.enumerationClass t e) := by
  refine (refusedOnly_typeName (hnames.enumeration he)).bind fun name _ => ?_
  refine (refusedOnly_require _).bind fun _ _ => ?_
  refine (refusedOnly_mapM fun c hc => ?_).bind fun _ _ => refusedOnly_pure _
  have hindex : c.2 < e.cases.length := List.snd_lt_of_mem_zipIdx hc
  exact (refusedOnly_lift (hnames.enumCase he hindex)).bind fun _ _ => refusedOnly_pure _

include hhint

/-- The fields of a class are refused where their annotations are. -/
theorem refusedOnly_fields {t : TypeRef} {r : Record} (hr : ctx.graph.record? t = some r)
    (hrefs : ∀ q ∈ r.properties, q.type.index < ctx.graph.size) :
    RefusedOnly p (ctx.fields declared t r) := by
  refine (refusedOnly_mapM fun q hq => ?_).bind fun fields hfields => ?_
  · have hindex : q.2 < r.properties.length := List.snd_lt_of_mem_zipIdx hq
    exact (refusedOnly_lift (hnames.property hr hindex)).bind fun _ _ => refusedOnly_pure _
  · have hbase (f : Field) (hf : f ∈ fields) : f.type.index < ctx.graph.size := by
      obtain ⟨q, hq, hyields⟩ := exists_of_forall₂ hfields.mapM hf
      obtain ⟨name, -, hyields⟩ := hyields.bind
      rw [hyields.pure]
      exact hrefs q.1 (List.fst_mem_of_mem_zipIdx hq)
    refine refusedOnly_mapM fun f hf => ?_
    have hmem : f ∈ fields := by
      split at hf
      · rcases List.mem_append.1 hf with hf | hf <;> exact (List.mem_filter.1 hf).1
      · exact hf
    split
    · exact (hhint _ f.type (hbase f hmem)).bind fun _ _ => refusedOnly_pure _
    · exact refusedOnly_pure f

variable (hvalue : o.justTypes = false → ∀ d expression t, t.index < ctx.graph.size →
  RefusedOnly p (ctx.convertValue d expression t))

include hvalue

omit hnames in
/-- The functions of a class are refused where a conversion or the annotation of the class is. -/
theorem refusedOnly_classConversions (ho : o.justTypes = false) {t : TypeRef}
    (ht : t.index < ctx.graph.size) {name : String} {fields : List Field}
    (hfields : ∀ f ∈ fields, f.type.index < ctx.graph.size) :
    RefusedOnly p (ctx.classConversions declared t name fields) := by
  have hassign (expression : Field → String) (d : Direction) (line : Field → String → String) :
      RefusedOnly p (fields.mapM fun f => do
        let value ← ctx.convertValue d (expression f) f.type
        return (f, line f value)) :=
    refusedOnly_mapM fun f hf =>
      (hvalue ho d _ f.type (hfields f hf)).bind fun _ _ => refusedOnly_pure _
  refine (hassign _ .decode fun _ value => value).bind fun values _ => ?_
  dsimp only
  split
  · refine (refusedOnly_require _).bind fun _ _ => (hhint _ t ht).bind fun hint _ => ?_
    refine (refusedOnly_pure (some hint)).bind fun returned _ => ?_
    exact (hassign _ .encode _).bind fun _ _ => refusedOnly_pure _
  · refine (refusedOnly_pure none).bind fun returned _ => ?_
    exact (hassign _ .encode _).bind fun _ _ => refusedOnly_pure _

/-- The functions of a top-level are refused where its conversions or its annotation are. -/
theorem refusedOnly_topLevel (ho : o.justTypes = false) {top : TopLevel} {index : Nat}
    (htop : top.type.index < ctx.graph.size) (hindex : index < ctx.graph.topLevels.length) :
    RefusedOnly p (ctx.topLevel declared top index) := by
  refine (refusedOnly_lift (hnames.topLevel hindex)).bind fun names _ => ?_
  refine (hvalue ho .decode _ _ htop).bind fun decode _ => ?_
  refine (hvalue ho .encode _ _ htop).bind fun encode _ => ?_
  dsimp only
  split
  · refine (refusedOnly_require _).bind fun _ _ => (hhint _ _ htop).bind fun hint _ => ?_
    exact (refusedOnly_pure (some hint)).bind fun _ _ => refusedOnly_pure _
  · exact (refusedOnly_pure none).bind fun _ _ => refusedOnly_pure _

variable (hg : ctx.graph.Accepted) (hapart : ctx.names.Apart)

include hg hapart

/-- The class of a record is refused where its fields or its functions are. -/
theorem refusedOnly_recordClass {t : TypeRef} {r : Record} (hr : ctx.graph.record? t = some r) :
    RefusedOnly p (ctx.recordClass o declared t r) := by
  have hk := record?_eq_some.1 hr
  have hproperties (q : Property) (hq : q ∈ r.properties) : q.type.index < ctx.graph.size :=
    hg.refs hk _ (List.mem_map_of_mem hq)
  refine (refusedOnly_typeName (hnames.record hr)).bind fun name _ => ?_
  refine (refusedOnly_fields hnames hhint hr hproperties).bind fun fields hfields => ?_
  have hheld (f : Field) (hf : f ∈ fields) : f.type.index < ctx.graph.size := by
    have hmem := (holds_of_yields hapart hfields).properties.mem_iff.1
      (List.mem_map_of_mem (f := fun f => (f.key, f.type)) hf)
    obtain ⟨q, hq, heq⟩ := List.mem_map.1 hmem
    rw [← (Prod.mk.inj heq).2]
    exact hproperties q hq
  refine RefusedOnly.when (f := fun _ => _) ?_
  cases ho : o.justTypes with
  | true => exact (refusedOnly_pure []).bind fun _ _ => refusedOnly_pure _
  | false =>
      exact (refusedOnly_classConversions hhint hvalue ho (index_lt_of_kind? hk) hheld).bind
        fun _ _ => refusedOnly_pure _

/-- Classes are refused where one of them is. -/
theorem refusedOnly_classes (ts : List TypeRef) : RefusedOnly p (ctx.classes o declared ts) := by
  induction ts generalizing declared with
  | nil => exact refusedOnly_pure []
  | cons t rest ih =>
      unfold classes
      cases hr : ctx.graph.record? t with
      | none => exact (refusedOnly_pure []).bind fun _ _ => ih.bind fun _ _ => refusedOnly_pure _
      | some r =>
          refine (refusedOnly_recordClass hnames hhint hvalue hg hapart hr).bind fun first _ => ?_
          exact ih.bind fun _ _ => refusedOnly_pure _

/-- A module is refused where a conversion or an annotation of one of its types is. -/
theorem refusedOnly_moduleSteps : RefusedOnly p (ctx.moduleSteps o) := by
  refine (refusedOnly_mapM fun t _ => ?_).bind fun enumerations _ => ?_
  · cases he : ctx.graph.enumeration? t with
    | none => exact refusedOnly_pure []
    | some e => exact refusedOnly_enumerationClass hnames he
  refine (refusedOnly_classes hnames hhint hvalue hg hapart _).bind fun classes _ => ?_
  cases ho : o.justTypes with
  | true => exact (refusedOnly_pure []).bind fun _ _ => refusedOnly_pure _
  | false =>
      refine (refusedOnly_mapM fun top htop => ?_).bind fun _ _ => refusedOnly_pure _
      have hindex : top.2 < ctx.graph.topLevels.length := List.snd_lt_of_mem_zipIdx htop
      exact refusedOnly_topLevel hnames hhint hvalue ho
        (hg.topLevels _ (List.fst_mem_of_mem_zipIdx htop)) hindex

end Module

end Context

/-! ## Accepted graphs without transformed records -/

section Accepted

variable {types : Array Node} {topLevels : List TopLevel} {g : TypeGraph}
  (hmake : make types topLevels = .ok g) (hrecords : g.transformsRecords = false) (o : Options)

include hmake hrecords

/-- The conversion of an expression is refused only for a conversion that has no generated form. -/
theorem refusedOnly_convertValue {t : TypeRef} (ht : t.index < g.size) (d : Direction)
    (expression : String) :
    Gen.RefusedOnly (fun e => e.isUnsupported)
      (Context.convertValue ⟨g, NameTable.assign g o, o.features⟩ d expression t) := by
  let ctx : Context := ⟨g, NameTable.assign g o, o.features⟩
  have hconvert : Gen.RefusedOnly (fun e => e.isUnsupported || e.isEndless)
      (ctx.convert d (.ofText expression) t) :=
    Context.refusedOnly_convertWithin (accepted_of_make hmake) (NameTable.complete_assign g o)
      (fun e he => by simp [he]) (fun t => rfl) ht d _
  have hends := ((Context.generation_terminates hmake hrecords ctx.names ctx.features ht).1 d
    (.ofText expression)).1
  refine Gen.RefusedOnly.bind (hconvert.imp fun s e he hreason => ?_) fun c hc => ?_
  · cases e with
    | endless u => exact absurd he (hends s u)
    | cannotParse | cannotWrite | noTransformation | noTypeObject => rfl
    | noArgument | unnamedType | unnamedProperty | unnamedCase | unnamedTopLevel | dangling =>
        cases hreason
  · -- The chain extends the expression, so it is no function that waits for its argument.
    obtain ⟨links, hlinks⟩ := Context.extends_convertWithin (NameTable.apart_assign g o) hc
    exact Gen.refusedOnly_lift ⟨_, Chain.toValue_eq_ok hlinks.isFunction⟩

/-- No annotation is refused. -/
theorem refusedOnly_annotate (place : Context.Place) {t : TypeRef} (ht : t.index < g.size) :
    Gen.RefusedOnly (fun _ => False)
      (Context.annotate ⟨g, NameTable.assign g o, o.features⟩ place t) := by
  let ctx : Context := ⟨g, NameTable.assign g o, o.features⟩
  have hannotate : Gen.RefusedOnly (fun e => e.isEndless) (ctx.annotate place t) :=
    Context.refusedOnly_annotateWithin (accepted_of_make hmake) (NameTable.complete_assign g o) place ht
  have hends := ((Context.generation_terminates hmake hrecords (NameTable.assign g o) o.features
    ht).2 place).1
  refine hannotate.imp fun s e he hreason => ?_
  cases e with
  | endless u => exact hends s u he
  | cannotParse | cannotWrite | noTransformation | noTypeObject | noArgument | unnamedType
  | unnamedProperty | unnamedCase | unnamedTopLevel | dangling => cases hreason

end Accepted

/-- A module is refused for the reason that its steps are. -/
theorem moduleSteps_of_renderNamed_error {g : TypeGraph} {o : Options} {names : NameTable}
    {e : GenerateError} (h : renderNamed g o names = .error e) :
    ((Context.moduleSteps ⟨g, names, o.features⟩ o).run.run .empty).1 = .error e := by
  unfold renderNamed at h
  dsimp only at h
  split at h
  next steps required hrun => cases h
  next e' required hrun =>
    cases h
    rw [hrun]

/-- An accepted graph without transformed records is rendered, or refused because it asks for a
conversion that has no generated form; a module of types alone asks for none. Apart from that, every
conversion of an expression gives an expression and finds the names that it looks up. -/
theorem renderModule_refused_only_unsupported {types : Array Node} {topLevels : List TopLevel}
    {g : TypeGraph} (hmake : make types topLevels = .ok g) (hrecords : g.transformsRecords = false)
    (o : Options) :
    (∀ e, renderModule g o = .error e → e.isUnsupported) ∧
      (o.justTypes = true → ∃ module, renderModule g o = .ok module) ∧
      ∀ d expression t, t.index < g.size → Gen.RefusedOnly (fun e => e.isUnsupported)
        (Context.convertValue ⟨g, NameTable.assign g o, o.features⟩ d expression t) := by
  have hvalue (d : Direction) (expression : String) (t : TypeRef) (ht : t.index < g.size) :=
    refusedOnly_convertValue hmake hrecords o ht d expression
  let ctx : Context := ⟨g, NameTable.assign g o, o.features⟩
  -- Annotations are never refused, so that nothing is where there are no conversions.
  have hsteps : Gen.RefusedOnly (fun e => o.justTypes = false ∧ e.isUnsupported)
      (ctx.moduleSteps o) := by
    refine Context.refusedOnly_moduleSteps (NameTable.complete_assign g o) (fun place t ht => ?_)
      (fun ho d expression t ht => ?_) (accepted_of_make hmake) (NameTable.apart_assign g o)
    · exact (refusedOnly_annotate hmake hrecords o place ht).imp fun _ _ _ h => h.elim
    · exact (hvalue d expression t ht).imp fun _ _ _ h => ⟨ho, h⟩
  have hrender (e : GenerateError) (he : renderModule g o = .error e) :
      o.justTypes = false ∧ e.isUnsupported :=
    hsteps .empty e (moduleSteps_of_renderNamed_error he)
  refine ⟨fun e he => (hrender e he).2, fun ho => ?_, hvalue⟩
  cases hmodule : renderModule g o with
  | ok module => exact ⟨module, rfl⟩
  | error e =>
      have htypes := (hrender e hmodule).1
      rw [ho] at htypes
      cases htypes

/-- A record of a count in a text of digits, without a transformation that parses it. -/
def untransformedGraph : TypeGraph where
  types := #[⟨.formatted .integerText, none⟩,
    ⟨.record ⟨"Count", [⟨"digits", ⟨0⟩, none⟩], none⟩, none⟩]
  topLevels := [⟨"Count", ⟨1⟩⟩]

/-- The record of the count is accepted as it is. -/
theorem make_untransformedGraph :
    make untransformedGraph.types untransformedGraph.topLevels = .ok untransformedGraph :=
  make_eq_self rfl (by decide)

/-- The count has no generated conversion, and its record is refused for that, but a module without
conversions is written. -/
theorem renderModule_untransformedGraph :
    make untransformedGraph.types untransformedGraph.topLevels = .ok untransformedGraph ∧
      untransformedGraph.transformsRecords = false ∧
      renderModule untransformedGraph .standard = .error (.noTransformation ⟨0⟩) ∧
      GenerateError.isUnsupported (.noTransformation ⟨0⟩) ∧
      ∃ module, renderModule untransformedGraph ⟨.v37, true, true⟩ = .ok module := by
  have hrefused : renderModule untransformedGraph .standard = .error (.noTransformation ⟨0⟩) := by
    decide +kernel
  obtain ⟨hunsupported, -, -⟩ :=
    renderModule_refused_only_unsupported make_untransformedGraph rfl .standard
  obtain ⟨-, htypes, -⟩ :=
    renderModule_refused_only_unsupported make_untransformedGraph rfl ⟨.v37, true, true⟩
  exact ⟨make_untransformedGraph, rfl, hrefused, hunsupported _ hrefused, htypes rfl⟩

end TypedJson.Code
