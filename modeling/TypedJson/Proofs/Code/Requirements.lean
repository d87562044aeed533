import TypedJson.Proofs.Code.Annotations
import TypedJson.Proofs.Code.Coverage
import TypedJson.Proofs.Code.Uniformity

/-!
# What conversions need

A conversion is written as links around what it converts, and the support functions that are
recorded for it are those that the links refer to (`records_links`). They are the same wherever and
behind whatever the conversion is generated (`Context.Needs`). A module asks for nothing else: what is
recorded for all of its steps is what the conversions of its top-levels and properties need
(`uses_moduleSteps`).
-/

namespace TypedJson.Code

open Script TypeGraph

/-! ## Conversions of expressions -/

/-- The second chain is the first one with links around it: an expression with the links applied to
it, and where there was nothing, a function that refers to what they refer to. -/
structure Surrounds (marked : Bool) (links : List Link) (c c' : Chain) : Prop where
  symbols : c'.symbols = (fronts marked links).map some ++ c.symbols ++ (backs links).map some
  expression {input : String} : c.toValue = .ok input → ∃ text, c'.toValue = .ok text ∧
    ∀ e : Expr, e.Printable → e.isOperand → e.chars marked = input.toList →
      Expr.read? text = some (applyLinks links e)
  function : c = .identity → ∃ e, Expr.read? c'.toFunction.render = some e ∧
    ∀ cv : Converter, cv.name ∈ e.names ↔ cv.name ∈ linkNames links

/-- A written expression is read. -/
theorem read?_of_chars (marked : Bool) {text : String} {e : Expr} (he : e.Printable)
    (h : e.chars marked = text.toList) : Expr.read? text = some e := by
  rw [← String.ofList_toList (s := text), ← h]
  exact he.read?_chars marked

/-- Links behind a chain are around it. -/
theorem Extends.surrounds {marked : Bool} {links : List Link} {c c' : Chain}
    (h : Extends marked c c' links) : Surrounds marked links c c' := by
  refine ⟨h.symbols, fun {input} hinput => ⟨_, h.toValue_eq hinput, fun e he ho hchars => ?_⟩, ?_⟩
  · refine read?_of_chars marked (printable_applyLinks h.printable he ho).1 ?_
    rw [chars_applyLinks, hchars, String.toList_ofList]
  · rintro rfl
    obtain ⟨e, he, hchars, hnames⟩ := h.exists_function
    exact ⟨e, read?_of_chars marked he hchars, hnames⟩

namespace Context

variable {ctx : Context} {d : Direction} {c c' : Chain} {t : TypeRef} {text : String}
  {s s' : Requirements}

/-- A conversion is links around what it converts, and the support functions that are recorded for
it are those that the links refer to. -/
theorem records_links (hnames : ctx.names.Apart) (h : (ctx.convert d c t).Runs s c' s') :
    ∃ links, Surrounds ctx.features.markedText links c c' ∧
      ∀ cv, s'.uses cv ↔ s.uses cv ∨ cv.name ∈ linkNames links := by
  obtain ⟨links, hlinks, hrecorded⟩ := generatesChain_convertWithin hnames h
  exact ⟨links, hlinks.surrounds, hrecorded⟩

/-! ## Needs of a type -/

/-- The conversion of the type needs the support function. -/
def Needs (ctx : Context) (d : Direction) (t : TypeRef) (cv : Converter) : Prop :=
  ((ctx.convert d .identity t).run.run .empty).2.uses cv

/-- Whatever is converted, what the type needs is recorded besides what was. -/
theorem uses_convert (h : (ctx.convert d c t).Runs s c' s') (cv : Converter) :
    s'.uses cv ↔ s.uses cv ∨ ctx.Needs d t cv := by
  obtain ⟨outcome, names, hsame⟩ := (appends_convertWithin _ d t).exists_outcome
  have hneeds := (hsame .identity .empty).2 cv
  have hrecorded := (hsame c s).2 cv
  have hrun : (ctx.convertWithin (2 * ctx.graph.size) d c t).run.run s = (.ok c', s') := h
  rw [hrun] at hrecorded
  rw [hrecorded, Needs]
  exact or_congr_right (hneeds.trans (or_iff_right Bool.false_ne_true)).symm

/-- A conversion that is generated is generated where nothing has been recorded. -/
theorem exists_run_of_yields (h : (ctx.convert d c t).Yields c') :
    ∃ final, (ctx.convert d c t).Runs .empty c' final := by
  obtain ⟨outcome, names, hsame⟩ := (appends_convertWithin _ d t).exists_outcome
  obtain ⟨s, s', hrun⟩ := h
  refine ⟨((ctx.convert d c t).run.run .empty).2, Prod.ext ?_ rfl⟩
  have hoc : ((ctx.convert d c t).run.run s).1 = _ := (hsame c s).1
  rw [hrun] at hoc
  exact (hsame c .empty).1.trans hoc.symm

/-- The expression that converts an operand refers to the support functions that the type needs. -/
theorem mem_names_convertValue (hnames : ctx.names.Apart) {start : String} {operand e : Expr}
    (hoperand : operand.Printable) (ho : operand.isOperand)
    (hchars : operand.chars ctx.features.markedText = start.toList)
    (h : (ctx.convertValue d start t).Yields text) (he : e.Printable)
    (htext : e.chars ctx.features.markedText = text.toList) {cv : Converter}
    (hfree : cv.name ∉ operand.names) : cv.name ∈ e.names ↔ ctx.Needs d t cv := by
  obtain ⟨c, hc, h⟩ := h.bind
  obtain ⟨final, hrun⟩ := exists_run_of_yields hc
  obtain ⟨links, hlinks, hrecorded⟩ := generatesChain_convertWithin hnames hrun
  have hvalue := h.lift
  rw [hlinks.toValue hchars] at hvalue
  obtain rfl := Except.ok.inj hvalue
  rw [String.toList_ofList] at htext
  obtain rfl := he.eq_of_chars (printable_applyLinks hlinks.printable hoperand ho).1 htext
  have hboth := (hrecorded cv).symm.trans (uses_convert hrun cv)
  have hempty : ¬ Requirements.empty.uses cv := Bool.false_ne_true
  rw [or_iff_right hempty, or_iff_right hempty] at hboth
  rw [mem_names_applyLinks, or_iff_left hfree, hboth]

end Context

/-! ## Recording steps -/

namespace Gen

variable {α β : Type} {p q : Converter → Prop}

/-- A run of the step that ends with a result has recorded the support functions that the predicate
says. -/
def Adds (p : Converter → Prop) (x : Gen α) : Prop :=
  ∀ s a s', x.Runs s a s' → ∀ cv, s'.uses cv ↔ s.uses cv ∨ p cv

/-- No run of the step records a support function. -/
def Silent (x : Gen α) : Prop :=
  x.Adds fun _ => False

/-- A value records nothing. -/
theorem silent_pure (a : α) : Silent (pure a : Gen α) := by
  intro s b s' h cv
  obtain ⟨-, rfl⟩ := h.pure
  exact (or_iff_left id).symm

/-- Neither does the outcome of a pure step. -/
theorem silent_lift (r : Except GenerateError α) : Silent (lift r) := by
  intro s b s' h cv
  obtain ⟨-, rfl⟩ := h.lift
  exact (or_iff_left id).symm

/-- An import is no support function. -/
theorem silent_addName (module name : String) : Silent (require (·.addName module name)) := by
  intro s b s' h cv
  cases h
  exact (or_iff_left id).symm

/-- What is recorded may be said in another way. -/
theorem Adds.congr {x : Gen α} (h : x.Adds p) (heq : ∀ cv, p cv ↔ q cv) : x.Adds q :=
  fun s a s' hrun cv => (h s a s' hrun cv).trans (or_congr_right (heq cv))

/-- One step behind the other records what both do. -/
theorem Adds.bind {x : Gen α} {f : α → Gen β} (hx : x.Adds p)
    (hf : ∀ a, x.Yields a → (f a).Adds q) : (x >>= f).Adds fun cv => p cv ∨ q cv := by
  intro s b s' h cv
  obtain ⟨a, between, ha, h⟩ := h.bind
  rw [hf a ⟨s, between, ha⟩ _ _ _ h cv, hx _ _ _ ha cv, or_assoc]

/-- Behind a step that records nothing, what the other one does is recorded. -/
theorem Silent.bind {x : Gen α} {f : α → Gen β} (hx : x.Silent)
    (hf : ∀ a, x.Yields a → (f a).Adds p) : (x >>= f).Adds p :=
  (Adds.bind hx hf).congr fun cv => iff_of_eq (false_or (p cv))

/-- In front of steps that record nothing, what the first one does is recorded. -/
theorem Adds.front {x : Gen α} {f : α → Gen β} (hx : x.Adds p) (hf : ∀ a, (f a).Silent) :
    (x >>= f).Adds p :=
  (hx.bind fun a _ => hf a).congr fun cv => iff_of_eq (or_false (p cv))

/-- An import on a condition is no support function. -/
theorem Adds.when {c : Prop} [Decidable c] {module name : String} {f : Unit → Gen β}
    (h : (f ()).Adds p) :
    (if c then require (·.addName module name) >>= f else f ()).Adds p := by
  split
  · exact (silent_addName module name).bind fun _ _ => h
  · exact h

/-- Steps for the items of a list record what each of them does. -/
theorem adds_mapM {f : α → Gen β} {as : List α} {p : α → Converter → Prop}
    (h : ∀ a ∈ as, (f a).Adds (p a)) : (as.mapM f).Adds fun cv => ∃ a ∈ as, p a cv := by
  induction as with
  | nil => exact (silent_pure []).congr (by simp)
  | cons a as ih =>
      obtain ⟨ha, has⟩ := List.forall_mem_cons.1 h
      rw [List.mapM_cons]
      refine (ha.bind fun b _ => (ih has).front fun bs => silent_pure (b :: bs)).congr fun cv => ?_
      simp

/-- Steps that record nothing record nothing for a list. -/
theorem silent_mapM {f : α → Gen β} {as : List α} (h : ∀ a ∈ as, (f a).Silent) :
    Silent (as.mapM f) :=
  (adds_mapM h).congr (by simp)

end Gen

/-- There are two directions. -/
theorem exists_direction {p : Direction → Prop} : (∃ d, p d) ↔ p .decode ∨ p .encode := by
  refine ⟨fun ⟨d, hd⟩ => ?_, fun h => h.elim (⟨_, ·⟩) (⟨_, ·⟩)⟩
  cases d with
  | decode => exact .inl hd
  | encode => exact .inr hd

/-! ## The steps of a module -/

namespace Context

open Gen

variable {ctx : Context} {d : Direction} {t : TypeRef} {o : Options} {declared : List TypeRef}

/-- The conversion of an expression records what its type needs. -/
theorem adds_convertValue (d : Direction) (expression : String) (t : TypeRef) :
    (ctx.convertValue d expression t).Adds (ctx.Needs d t) :=
  Adds.front (fun _ _ _ h cv => uses_convert h cv) fun c => silent_lift c.toValue

/-- The class of an enumeration records nothing. -/
theorem silent_enumerationClass (t : TypeRef) (e : Enumeration) :
    Silent (ctx.enumerationClass t e) := by
  refine (silent_lift _).bind fun name _ => (silent_addName _ _).bind fun _ _ => ?_
  refine (silent_mapM fun c _ => ?_).bind fun cases _ => silent_pure _
  exact (silent_lift _).bind fun _ _ => silent_pure _

variable (hnames : ctx.names.Apart)

include hnames

/-- An annotation records nothing. -/
theorem silent_annotate (place : Place) (t : TypeRef) : Silent (ctx.annotate place t) :=
  fun _ _ _ h cv => ((annotateWithin_of_runs hnames h).2 cv).trans (or_iff_left id).symm

/-- Neither do the fields of a class. -/
theorem silent_fields (declared : List TypeRef) (t : TypeRef) (r : Record) :
    Silent (ctx.fields declared t r) := by
  refine (silent_mapM fun p _ => ?_).bind fun fields _ => silent_mapM fun f _ => ?_
  · exact (silent_lift _).bind fun _ _ => silent_pure _
  · split
    · exact (silent_annotate hnames _ _).bind fun _ _ => silent_pure _
    · exact silent_pure _

/-- The conversions of a class record what the types of its fields need in both directions. -/
theorem adds_classConversions (declared : List TypeRef) (t : TypeRef) (name : String)
    (fields : List Field) : (ctx.classConversions declared t name fields).Adds
      fun cv => ∃ f ∈ fields, ∃ d, ctx.Needs d f.type cv := by
  have hfields {β : Type} (d : Direction) (expression : Field → String) (g : Field → String → β) :
      (fields.mapM fun f => do
        let value ← ctx.convertValue d (expression f) f.type
        return g f value).Adds fun cv => ∃ f ∈ fields, ctx.Needs d f.type cv :=
    adds_mapM fun f _ => (adds_convertValue d _ f.type).front fun _ => silent_pure _
  have hencode (rest : List (Field × String) → List Step) :=
    (hfields .encode (fun f => "self." ++ f.name) fun f value =>
      (f, "result[" ++ literal ctx.features.markedText f.key ++ "] = " ++ value)).front
        fun a => silent_pure (rest a)
  refine (Adds.bind (q := fun cv => ∃ f ∈ fields, ctx.Needs .encode f.type cv)
    (hfields .decode _ _) fun values _ => ?_).congr fun cv => ?_
  · dsimp only
    split
    · exact (silent_addName _ _).bind fun _ _ => (silent_annotate hnames _ t).bind fun hint _ =>
        (silent_pure _).bind fun returned _ => hencode _
    · exact (silent_pure _).bind fun returned _ => hencode _
  · simp only [exists_direction, and_or_left, exists_or]

/-- The class of a record records what its properties need in both directions. -/
theorem adds_recordClass (ho : o.justTypes = false) (declared : List TypeRef) {r : Record}
    (t : TypeRef) : (ctx.recordClass o declared t r).Adds
      fun cv => ∃ u ∈ kindRefs (.record r), ∃ d, ctx.Needs d u cv := by
  refine (silent_lift _).bind fun name _ => ?_
  refine (silent_fields hnames declared t r).bind fun fields hf => ?_
  have hholds := holds_of_yields hnames hf
  refine Adds.when ?_
  rw [ho]
  refine ((adds_classConversions hnames declared t name fields).front
    fun _ => silent_pure _).congr fun cv => ⟨?_, ?_⟩
  · rintro ⟨f, hf, hneeds⟩
    exact ⟨f.type, hholds.type_mem hf, hneeds⟩
  · rintro ⟨u, hu, hneeds⟩
    obtain ⟨f, hf, rfl⟩ := hholds.exists_field hu
    exact ⟨f, hf, hneeds⟩

/-- The classes of records record what the properties of all of them need. -/
theorem adds_classes (ho : o.justTypes = false) (declared ts : List TypeRef) :
    (ctx.classes o declared ts).Adds fun cv => ∃ t ∈ ts, ∃ r, ctx.graph.record? t = some r ∧
      ∃ u ∈ kindRefs (.record r), ∃ d, ctx.Needs d u cv := by
  induction ts generalizing declared with
  | nil => exact (silent_pure []).congr (by simp)
  | cons t rest ih =>
      unfold classes
      have hothers (first : List Step) :=
        (ih (t :: declared)).front fun others => silent_pure (first ++ others)
      cases hr : ctx.graph.record? t with
      | none =>
          refine ((silent_pure []).bind fun first _ => hothers first).congr fun cv => ?_
          simp only [List.exists_mem_cons_iff, hr, reduceCtorEq, false_and, exists_false, false_or]
      | some r =>
          have hfirst := adds_recordClass hnames ho declared (r := r) t
          refine (hfirst.bind fun first _ => hothers first).congr fun cv => ?_
          simp only [List.exists_mem_cons_iff, hr, Option.some.injEq, exists_eq_left']

/-- The functions of a top-level record what its type needs in both directions. -/
theorem adds_topLevel (declared : List TypeRef) (top : TopLevel) (index : Nat) :
    (ctx.topLevel declared top index).Adds fun cv => ∃ d, ctx.Needs d top.type cv := by
  refine (silent_lift _).bind fun names _ => ?_
  refine ((adds_convertValue .decode _ _).bind fun decode _ =>
    (adds_convertValue .encode _ _).front fun encode => ?_).congr
      fun cv => (exists_direction (p := fun d => ctx.Needs d top.type cv)).symm
  dsimp only
  split
  · exact (silent_addName _ _).bind fun _ _ => (silent_annotate hnames _ _).bind fun hint _ =>
      (silent_pure _).bind fun returned _ => silent_pure _
  · exact (silent_pure _).bind fun returned _ => silent_pure _

/-- The steps of a module record what the types of top-levels and properties need. -/
theorem adds_moduleSteps (ho : o.justTypes = false) : (ctx.moduleSteps o).Adds
    fun cv => ∃ t, IsConverted ctx.graph t ∧ ∃ d, ctx.Needs d t cv := by
  have htopLevels : Adds (fun cv => ∃ top ∈ ctx.graph.topLevels.zipIdx, ∃ d,
      ctx.Needs d top.1.type cv) (ctx.graph.topLevels.zipIdx.mapM fun top =>
        ctx.topLevel ctx.graph.records top.1 top.2) :=
    adds_mapM fun top _ => adds_topLevel hnames ctx.graph.records top.1 top.2
  refine Silent.bind (silent_mapM fun t _ => ?_) fun enumerations _ => ?_
  · split
    · exact silent_enumerationClass _ _
    · exact silent_pure []
  refine (Adds.bind (q := fun cv => ∃ top ∈ ctx.graph.topLevels.zipIdx,
    ∃ d, ctx.Needs d top.1.type cv) (adds_classes hnames ho [] ctx.graph.records)
      fun classes _ => ?_).congr fun cv => ?_
  · rw [ho]
    exact htopLevels.front fun topLevels => silent_pure _
  · constructor
    · rintro (⟨t, -, r, hr, u, hu, hneeds⟩ | ⟨top, htop, hneeds⟩)
      · exact ⟨u, .inr ⟨t, r, record?_eq_some.1 hr, hu⟩, hneeds⟩
      · exact ⟨top.1.type, .inl ⟨top.1, List.fst_mem_of_mem_zipIdx htop, rfl⟩, hneeds⟩
    · rintro ⟨u, ⟨top, htop, rfl⟩ | ⟨t, r, hk, hu⟩, hneeds⟩
      · obtain ⟨i, hi⟩ := List.getElem?_of_mem htop
        exact .inr ⟨(top, i), List.mem_zipIdx_iff_getElem?.2 hi, hneeds⟩
      · have hr := record?_eq_some.2 hk
        exact .inl ⟨t, mem_records.2 ⟨r, hr⟩, r, hr, u, hu, hneeds⟩

end Context

end TypedJson.Code
