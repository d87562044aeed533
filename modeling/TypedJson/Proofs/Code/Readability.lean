import TypedJson.Proofs.Code.Assignment
import TypedJson.Proofs.Code.Links
import TypedJson.Proofs.Code.Yields

/-!
# Generated conversions can be read

Whatever is generated for a type, in either direction and whatever its transformer, is the text of an
expression: each step puts links behind a chain, and the support functions that it records are those
that the links refer to (`generatesChain_convertWithin`). So the conversion of an expression is read
as links applied to that expression (`isReadable_convertValue`). Nothing is said here of what the
expressions do.
-/

namespace TypedJson.Code

open Naming Script

/-- The name of the parameter of lambdas is a name. -/
theorem isName_param : IsName "x" :=
  isName_of_chars rfl rfl rfl rfl

/-- The name of a support function is a name. -/
theorem isName_converter (cv : Converter) : IsName cv.name := by
  cases cv <;> exact isName_of_chars rfl rfl rfl rfl

/-- The name of a support function is spoken for. -/
theorem name_mem_globalForbidden (cv : Converter) : cv.name ∈ globalForbidden :=
  List.mem_append_right _ (List.mem_map_of_mem (by cases cv <;> decide))

/-- A list display is written as the display of its items. -/
theorem chars_listDisplay {marked : Bool} {es : List Expr} {texts : List String}
    (h : es.map (·.chars marked) = texts.map String.toList) :
    (Expr.list es).chars marked = (listDisplay texts).toList := by
  show '[' :: separated [',', ' '] (itemChars marked es) ++ [']'] = _
  rw [itemChars_eq, h, separated_eq_intercalate, listDisplay, String.toList_append,
    String.toList_append, String.toList_intercalate]
  rfl

/-- A chain that starts from nothing is written as a function that refers to what its links refer
to. -/
theorem Extends.exists_function {marked : Bool} {c : Chain} {links : List Link}
    (h : Extends marked .identity c links) :
    ∃ e : Expr, e.Printable ∧ e.chars marked = c.toFunction.render.toList ∧
      ∀ cv : Converter, cv.name ∈ e.names ↔ cv.name ∈ linkNames links := by
  rcases h.toFunction with ⟨e, rfl, hchars⟩ | hchars
  · refine ⟨e, (h.printable _ List.mem_cons_self).1, hchars, fun cv => ?_⟩
    simp [linkNames, Link.names, itemNames]
  · obtain ⟨hprint, -⟩ := printable_applyLinks h.printable (.name isName_param) rfl
    refine ⟨_, .lambda isName_param hprint, hchars.symm, fun cv => ?_⟩
    have hparam : cv.name ≠ "x" := by cases cv <;> decide
    simp [Expr.names, mem_names_applyLinks, hparam]

namespace Context

/-- The text is that of an expression. -/
def IsReadable (ctx : Context) (text : String) : Prop :=
  ∃ e : Expr, e.Printable ∧ e.chars ctx.features.markedText = text.toList

/-- The text is that of an expression, and what it refers to is recorded. -/
def GeneratesText (ctx : Context) (s : Requirements) (text : String) (s' : Requirements) : Prop :=
  ∃ e : Expr, e.Printable ∧ e.chars ctx.features.markedText = text.toList ∧ Recorded s s' e.names

/-- The texts are those of expressions, and what these refer to is recorded. -/
def GeneratesTexts (ctx : Context) (s : Requirements) (texts : List String) (s' : Requirements) :
    Prop :=
  ∃ es : List Expr, (∀ e ∈ es, e.Printable) ∧
    es.map (·.chars ctx.features.markedText) = texts.map String.toList ∧
    Recorded s s' (itemNames es)

/-- The function is a link, and what it refers to is recorded. -/
def GeneratesStep (ctx : Context) (s : Requirements) (f : Function) (s' : Requirements) : Prop :=
  ∃ link : Link, f.IsLink ctx.features.markedText link ∧ link.Printable ∧ Recorded s s' link.names

/-- The second chain is the first one with links behind it, and what these refer to is recorded. -/
def GeneratesChain (ctx : Context) (s : Requirements) (c c' : Chain) (s' : Requirements) : Prop :=
  ∃ links, Extends ctx.features.markedText c c' links ∧ Recorded s s' (linkNames links)

variable {ctx : Context} {c c' c'' : Chain} {d : Direction} {t : TypeRef} {text : String}
  {f : Function} {s between s' : Requirements}

/-! ## Texts and steps -/

/-- An expression that refers to no support function is generated without recording any. -/
theorem generatesText_free {e : Expr} (he : e.Printable)
    (hchars : e.chars ctx.features.markedText = text.toList)
    (hfree : ∀ cv : Converter, cv.name ∉ e.names) : ctx.GeneratesText s text s :=
  ⟨e, he, hchars, recorded_of_free hfree⟩

/-- So is a name, unless it is that of a support function. -/
theorem generatesText_name (h : IsName text) (hfree : ∀ cv : Converter, cv.name ≠ text) :
    ctx.GeneratesText s text s :=
  generatesText_free (.name h) rfl fun cv hcv => hfree cv (List.mem_singleton.1 hcv)

/-- A list display of texts is a text. -/
theorem GeneratesTexts.listDisplay {texts : List String} (h : ctx.GeneratesTexts s texts s') :
    ctx.GeneratesText s (listDisplay texts) s' := by
  obtain ⟨es, hes, hchars, hrecorded⟩ := h
  exact ⟨.list es, .list hes, chars_listDisplay hchars, hrecorded⟩

/-- No texts are generated without recording anything. -/
theorem generatesTexts_nil : ctx.GeneratesTexts s [] s :=
  ⟨[], List.forall_mem_nil _, rfl, recorded_of_free fun _ => List.not_mem_nil⟩

/-- Texts are generated one behind the other. -/
theorem GeneratesTexts.cons {texts : List String} (h : ctx.GeneratesText s text between)
    (htexts : ctx.GeneratesTexts between texts s') : ctx.GeneratesTexts s (text :: texts) s' := by
  obtain ⟨e, he, hchars, hrecorded⟩ := h
  obtain ⟨es, hes, hcharss, hrecordeds⟩ := htexts
  refine ⟨e :: es, List.forall_mem_cons.2 ⟨he, hes⟩, ?_, hrecorded.trans hrecordeds⟩
  rw [List.map_cons, List.map_cons, hchars, hcharss]

/-- The items of a list are generated one behind the other. -/
theorem generatesTexts_mapM {α : Type} {generate : α → Gen String} {items : List α}
    {texts : List String}
    (h : ∀ a s text s', (generate a).Runs s text s' → ctx.GeneratesText s text s')
    (hruns : (items.mapM generate).Runs s texts s') : ctx.GeneratesTexts s texts s' := by
  induction items generalizing s texts with
  | nil =>
      rw [List.mapM_nil] at hruns
      obtain ⟨rfl, rfl⟩ := hruns.pure
      exact generatesTexts_nil
  | cons a items ih =>
      rw [List.mapM_cons] at hruns
      obtain ⟨text, between, htext, hruns⟩ := hruns.bind
      obtain ⟨texts, final, htexts, hruns⟩ := hruns.bind
      obtain ⟨rfl, rfl⟩ := hruns.pure
      exact .cons (h a _ _ _ htext) (ih htexts)

/-- A name is a step that calls it. -/
theorem generatesStep_named (h : IsName text) (hfree : ∀ cv : Converter, cv.name ≠ text) :
    ctx.GeneratesStep s (.named text) s := by
  refine ⟨.call (.name text) [], isLink_named rfl,
    ⟨.name h, rfl, fun _ h => absurd h List.not_mem_nil⟩, recorded_of_free fun cv hcv => ?_⟩
  exact hfree cv (List.mem_singleton.1 hcv)

/-- A support function is a step. -/
theorem generatesStep_converter {cv : Converter} (h : (Gen.converter cv).Runs s f s') :
    ctx.GeneratesStep s f s' := by
  obtain ⟨rfl, rfl⟩ := h.converter
  exact ⟨.call (.name cv.name) [], isLink_named rfl,
    ⟨.name (isName_converter cv), rfl, fun _ h => absurd h List.not_mem_nil⟩,
    recorded_addConverter s cv⟩

/-- A support function with a text in front is a step. -/
theorem generatesStep_converterWith {cv : Converter} (htext : ctx.GeneratesText s text between)
    (h : (Gen.converterWith cv [text]).Runs between f s') : ctx.GeneratesStep s f s' := by
  obtain ⟨e, he, hchars, hrecorded⟩ := htext
  obtain ⟨rfl, rfl⟩ := h.converterWith
  refine ⟨.call (.name cv.name) [e], isLink_partialCall rfl (.cons hchars .nil),
    ⟨.name (isName_converter cv), rfl, List.forall_mem_singleton.2 he⟩, ?_⟩
  refine (hrecorded.trans (recorded_addConverter between cv)).congr fun cv' => ?_
  simp [Link.names, Expr.names, itemNames, or_comm]

/-- A method is a step. -/
theorem generatesStep_method (h : IsName text) : ctx.GeneratesStep s (.method text) s :=
  ⟨.method text, isLink_method text, h, recorded_of_free fun _ => List.not_mem_nil⟩

/-! ## Chains -/

/-- A chain is itself with nothing behind it. -/
theorem generatesChain_refl (s : Requirements) (c : Chain) : ctx.GeneratesChain s c c s :=
  ⟨[], .refl c, recorded_of_free fun _ => List.not_mem_nil⟩

/-- Links behind others are links. -/
theorem GeneratesChain.trans (h : ctx.GeneratesChain s c c' between)
    (h' : ctx.GeneratesChain between c' c'' s') : ctx.GeneratesChain s c c'' s' := by
  obtain ⟨links, hlinks, hrecorded⟩ := h
  obtain ⟨others, hothers, hrecorded'⟩ := h'
  refine ⟨links ++ others, hlinks.trans hothers, ?_⟩
  rw [linkNames_append]
  exact hrecorded.trans hrecorded'

/-- A step is put behind a chain. -/
theorem GeneratesStep.andThen (h : ctx.GeneratesStep s f s') (c : Chain) :
    ctx.GeneratesChain s c (c.andThen f) s' := by
  obtain ⟨link, hlink, hprint, hrecorded⟩ := h
  refine ⟨[link], .andThen c hlink hprint, ?_⟩
  rwa [linkNames, List.flatMap_singleton]

/-- A step that is generated last is put behind a chain. -/
theorem generatesChain_of_step {x : Gen Function}
    (hx : ∀ f s', x.Runs between f s' → ctx.GeneratesStep s f s')
    (h : (x >>= fun f => pure (c.andThen f)).Runs between c' s') :
    ctx.GeneratesChain s c c' s' := by
  obtain ⟨f, final, hf, h⟩ := h.bind
  obtain ⟨rfl, rfl⟩ := h.pure
  exact (hx f _ hf).andThen c

/-- A chain that starts from nothing is a text, as a function. -/
theorem GeneratesChain.generatesText (h : ctx.GeneratesChain s .identity c s') :
    ctx.GeneratesText s c.toFunction.render s' := by
  obtain ⟨links, hlinks, hrecorded⟩ := h
  obtain ⟨e, he, hchars, hnames⟩ := hlinks.exists_function
  exact ⟨e, he, hchars, hrecorded.congr fun cv => (hnames cv).symm⟩

/-! ## Conversions -/

variable (hnames : ctx.names.Apart)

include hnames

/-- The name of a type is a name, and none of a support function. Looking it up records nothing. -/
theorem typeName_of_runs (h : (ctx.typeName t).Runs s text s') :
    IsName text ∧ (∀ cv : Converter, cv.name ≠ text) ∧ s = s' := by
  obtain ⟨hname, hfree, -⟩ := hnames.type (typeName_of_yields ⟨s, s', h⟩)
  refine ⟨hname, fun cv hcv => hfree ?_, h.lift.2⟩
  rw [← hcv]
  exact name_mem_globalForbidden cv

/-- What is generated by kind is put behind a chain, if texts are generated for elements and
members. -/
theorem generatesChain_convertByKind {element : TypeRef → Gen String}
    (helement : ∀ m s text s', (element m).Runs s text s' → ctx.GeneratesText s text s')
    (h : (ctx.convertByKind element d c t).Runs s c' s') : ctx.GeneratesChain s c c' s' := by
  obtain ⟨k, _, hk, h⟩ := h.bind
  obtain ⟨-, rfl⟩ := kind_of_runs hk
  -- Nearly all kinds add one support function, alone or with the functions of their parts.
  have hconverter {cv : Converter}
      (h : (Gen.converter cv >>= fun f => pure (c.andThen f)).Runs s c' s') :
      ctx.GeneratesChain s c c' s' :=
    generatesChain_of_step (fun _ _ => generatesStep_converter) h
  have hwith {cv : Converter} {text : String} {between : Requirements}
      (htext : ctx.GeneratesText s text between)
      (h : (Gen.converterWith cv [text] >>= fun f => pure (c.andThen f)).Runs between c' s') :
      ctx.GeneratesChain s c c' s' :=
    generatesChain_of_step (fun _ _ => generatesStep_converterWith htext) h
  cases k with
  | any =>
      obtain ⟨rfl, rfl⟩ := h.pure
      exact generatesChain_refl _ _
  | null | bool | integer | double | text => exact hconverter h
  | array items =>
      obtain ⟨text, between, htext, h⟩ := Gen.Runs.bind h
      exact hwith (helement items s text between htext) h
  | map values =>
      obtain ⟨text, between, htext, h⟩ := Gen.Runs.bind h
      exact hwith (helement values s text between htext) h
  | record r =>
      obtain ⟨name, _, hlookup, h⟩ := Gen.Runs.bind h
      obtain ⟨hname, hfree, rfl⟩ := typeName_of_runs hnames hlookup
      cases d with
      | decode =>
          obtain ⟨rfl, rfl⟩ := h.pure
          refine GeneratesStep.andThen ⟨.call (.member (.name name) "from_dict") [], isLink_named ?_,
            ⟨.member (.name hname) rfl (isName_of_chars rfl rfl rfl rfl), rfl,
              fun _ h => absurd h List.not_mem_nil⟩,
            recorded_of_free fun cv hcv => hfree cv (List.mem_singleton.1 hcv)⟩ c
          show name.toList ++ '.' :: "from_dict".toList = _
          rw [String.toList_append]
          rfl
      | encode => exact hwith (generatesText_name hname hfree) h
  | enumeration e =>
      obtain ⟨name, _, hlookup, h⟩ := Gen.Runs.bind h
      obtain ⟨hname, hfree, rfl⟩ := typeName_of_runs hnames hlookup
      cases d with
      | decode =>
          obtain ⟨rfl, rfl⟩ := h.pure
          exact (generatesStep_named hname hfree).andThen c
      | encode => exact hwith (generatesText_name hname hfree) h
  | union members =>
      obtain ⟨texts, between, htexts, h⟩ := Gen.Runs.bind h
      exact hwith (generatesTexts_mapM helement htexts).listDisplay h
  | formatted format =>
      cases format with
      | dateTime =>
          cases d with
          | decode => exact hconverter h
          | encode =>
              obtain ⟨rfl, rfl⟩ := h.pure
              exact (generatesStep_method (isName_of_chars rfl rfl rfl rfl)).andThen c
      | integerText => exact absurd h Gen.not_runs_throw

/-- The type object of a type is a text. -/
theorem generatesText_typeObject (h : (ctx.typeObject d t).Runs s text s') :
    ctx.GeneratesText s text s' := by
  obtain ⟨k, _, hk, h⟩ := h.bind
  obtain ⟨-, rfl⟩ := kind_of_runs hk
  have hword {word : String} {c : Char} {rest : List Char} (hword : word.toList = c :: rest)
      (hdigit : c.isDigit = false) (hchars : word.toList.all isWordChar)
      (hfree : reserved.contains word = false) (h : (pure word : Gen String).Runs s text s')
      (hnone : ∀ cv : Converter, cv.name ≠ word) : ctx.GeneratesText s text s' := by
    obtain ⟨rfl, rfl⟩ := h.pure
    exact generatesText_name (isName_of_chars hword hdigit hchars hfree) hnone
  have hpair {first second : Expr} (hfirst : first.Printable) (hsecond : second.Printable) :
      (Expr.tuple [first, second]).Printable :=
    .tuple (List.forall_mem_cons.2 ⟨hfirst, List.forall_mem_singleton.2 hsecond⟩)
  have hinteger (h : (pure ctx.integerObject : Gen String).Runs s text s') :
      ctx.GeneratesText s text s' := by
    obtain ⟨rfl, rfl⟩ := h.pure
    unfold integerObject
    split
    · exact generatesText_free (e := .tuple [.name "int", .name "long"])
        (hpair (.name (isName_of_chars rfl rfl rfl rfl)) (.name (isName_of_chars rfl rfl rfl rfl)))
        rfl fun cv => by cases cv <;> decide
    · exact generatesText_name (isName_of_chars rfl rfl rfl rfl) fun cv => by cases cv <;> decide
  have htext (h : (pure ctx.textObject : Gen String).Runs s text s') :
      ctx.GeneratesText s text s' := by
    obtain ⟨rfl, rfl⟩ := h.pure
    unfold textObject
    split
    · exact generatesText_free (e := .tuple [.name "str", .name "unicode"])
        (hpair (.name (isName_of_chars rfl rfl rfl rfl)) (.name (isName_of_chars rfl rfl rfl rfl)))
        rfl fun cv => by cases cv <;> decide
    · exact generatesText_name (isName_of_chars rfl rfl rfl rfl) fun cv => by cases cv <;> decide
  have htype (h : (ctx.typeName t).Runs s text s') : ctx.GeneratesText s text s' := by
    obtain ⟨hname, hfree, rfl⟩ := typeName_of_runs hnames h
    exact generatesText_name hname hfree
  cases k with
  | null =>
      obtain ⟨rfl, rfl⟩ := h.pure
      exact generatesText_free (e := .call (.name "type") [.name "None"])
        (.call (.name (isName_of_chars rfl rfl rfl rfl)) rfl
          (List.forall_mem_singleton.2 (.name (isName_of_chars rfl rfl rfl rfl))))
        rfl fun cv => by cases cv <;> decide
  | bool | double | array | map =>
      exact hword rfl rfl rfl rfl h fun cv => by cases cv <;> decide
  | integer => exact hinteger h
  | text => exact htext h
  | record r =>
      cases d with
      | decode => exact hword rfl rfl rfl rfl h fun cv => by cases cv <;> decide
      | encode => exact htype h
  | enumeration e =>
      cases d with
      | decode => exact htext h
      | encode => exact htype h
  | formatted format =>
      cases d with
      | decode => exact htext h
      | encode =>
          cases format with
          | dateTime =>
              obtain ⟨rfl, rfl⟩ := h.require.pure
              exact ⟨.name "datetime", .name (isName_of_chars rfl rfl rfl rfl), rfl,
                recorded_addName s _ _ fun cv => by cases cv <;> decide⟩
          | integerText => exact hinteger h
  | any => exact absurd h Gen.not_runs_throw
  | union members => exact absurd h Gen.not_runs_throw

/-- The step that parses a text is one. -/
theorem generatesStep_parseStep (h : (ctx.parseStep t).Runs s f s') :
    ctx.GeneratesStep s f s' := by
  obtain ⟨k, _, hk, h⟩ := h.bind
  obtain ⟨-, rfl⟩ := kind_of_runs hk
  cases k with
  | integer =>
      obtain ⟨rfl, rfl⟩ := h.pure
      exact generatesStep_named (isName_of_chars rfl rfl rfl rfl) fun cv => by cases cv <;> decide
  | enumeration e =>
      obtain ⟨name, _, hlookup, h⟩ := Gen.Runs.bind h
      obtain ⟨hname, hfree, rfl⟩ := typeName_of_runs hnames hlookup
      obtain ⟨rfl, rfl⟩ := h.pure
      exact generatesStep_named hname hfree
  | formatted format =>
      cases format with
      | dateTime => exact generatesStep_converter h
      | integerText => exact absurd h Gen.not_runs_throw
  | any | null | bool | double | text | array | map | record | union =>
      exact absurd h Gen.not_runs_throw

/-- So is the step that writes a text. -/
theorem generatesStep_writeStep (h : (ctx.writeStep t).Runs s f s') :
    ctx.GeneratesStep s f s' := by
  obtain ⟨k, _, hk, h⟩ := h.bind
  obtain ⟨-, rfl⟩ := kind_of_runs hk
  cases k with
  | integer =>
      obtain ⟨rfl, rfl⟩ := h.pure
      exact generatesStep_named (isName_of_chars rfl rfl rfl rfl) fun cv => by cases cv <;> decide
  | enumeration e =>
      obtain ⟨name, _, hlookup, h⟩ := Gen.Runs.bind h
      obtain ⟨hname, hfree, rfl⟩ := typeName_of_runs hnames hlookup
      exact generatesStep_converterWith (generatesText_name hname hfree) h
  | formatted format =>
      cases format with
      | dateTime =>
          obtain ⟨rfl, rfl⟩ := h.pure
          exact generatesStep_method (isName_of_chars rfl rfl rfl rfl)
      | integerText => exact absurd h Gen.not_runs_throw
  | any | null | bool | double | text | array | map | record | union =>
      exact absurd h Gen.not_runs_throw

omit hnames

section Transformers

variable {byKind : Direction → Chain → TypeRef → Gen Chain}

mutual
/-- What is generated for a transformer is put behind a chain, if what is generated by kind is. -/
theorem generatesChain_transform (hnames : ctx.names.Apart)
    (hkind : ∀ d s c c' s' t, (byKind d c t).Runs s c' s' → ctx.GeneratesChain s c c' s') :
    ∀ (x : Transformer) {s s' : Requirements} {c c' : Chain} {target : TypeRef},
    (ctx.transform byKind d x c target).Runs s c' s' → ctx.GeneratesChain s c c' s'
  | .choice _ branches, s, s', c, c', target, h => by
      unfold transform at h
      obtain ⟨functions, between, hfunctions, h⟩ := h.bind
      have hall := generatesTexts_transformBranches hnames hkind branches hfunctions
      exact generatesChain_of_step (fun _ _ => generatesStep_converterWith hall.listDisplay) h
  | .decode source next, s, s', c, c', target, h => by
      unfold transform at h
      obtain ⟨decoded, between, hdecoded, h⟩ := h.bind
      exact (hkind _ _ _ _ _ _ hdecoded).trans (generatesChain_transformNext hnames hkind next h)
  | .encode source, s, s', c, c', target, h => by
      unfold transform at h
      exact hkind _ _ _ _ _ _ h
  | .elements _ container element next, s, s', c, c', target, h => by
      unfold transform at h
      obtain ⟨f, _, hf, h⟩ := h.bind
      obtain ⟨step, _, hstep, h⟩ := h.bind
      have htext := (generatesChain_transform hnames hkind element hf).generatesText
      exact ((generatesStep_converterWith htext hstep).andThen c).trans
        (generatesChain_transformNext hnames hkind next h)
  | .memberMatch _ member next, s, s', c, c', target, h => by
      unfold transform at h
      obtain ⟨object, _, hobject, h⟩ := h.bind
      obtain ⟨step, _, hstep, h⟩ := h.bind
      have htext := generatesText_typeObject hnames hobject
      exact ((generatesStep_converterWith htext hstep).andThen c).trans
        (generatesChain_transformNext hnames hkind next h)
  | .instantiate _, s, s', c, c', target, h => by
      unfold transform at h
      obtain ⟨rfl, rfl⟩ := h.pure
      exact generatesChain_refl _ _
  | .parseText _ next, s, s', c, c', target, h => by
      unfold transform at h
      obtain ⟨step, _, hstep, h⟩ := h.bind
      exact ((generatesStep_parseStep hnames hstep).andThen c).trans
        (generatesChain_transformNext hnames hkind next h)
  | .writeText source next, s, s', c, c', target, h => by
      unfold transform at h
      obtain ⟨step, _, hstep, h⟩ := h.bind
      exact ((generatesStep_writeStep hnames hstep).andThen c).trans
        (generatesChain_transformNext hnames hkind next h)

/-- So is what is generated for the steps behind a step. -/
theorem generatesChain_transformNext (hnames : ctx.names.Apart)
    (hkind : ∀ d s c c' s' t, (byKind d c t).Runs s c' s' → ctx.GeneratesChain s c c' s') :
    ∀ (next : Option Transformer) {s s' : Requirements} {c c' : Chain} {target : TypeRef},
    (ctx.transformNext byKind d next c target).Runs s c' s' → ctx.GeneratesChain s c c' s'
  | none, s, s', c, c', target, h => by
      unfold transformNext at h
      obtain ⟨rfl, rfl⟩ := h.pure
      exact generatesChain_refl _ _
  | some step, s, s', c, c', target, h => by
      unfold transformNext at h
      exact generatesChain_transform hnames hkind step h

/-- The functions of a choice are texts. -/
theorem generatesTexts_transformBranches (hnames : ctx.names.Apart)
    (hkind : ∀ d s c c' s' t, (byKind d c t).Runs s c' s' → ctx.GeneratesChain s c c' s') :
    ∀ (branches : List Transformer) {s s' : Requirements} {target : TypeRef}
      {functions : List String},
    (ctx.transformBranches byKind d branches target).Runs s functions s' →
    ctx.GeneratesTexts s functions s'
  | [], s, s', target, functions, h => by
      unfold transformBranches at h
      obtain ⟨rfl, rfl⟩ := h.pure
      exact generatesTexts_nil
  | branch :: rest, s, s', target, functions, h => by
      unfold transformBranches at h
      obtain ⟨f, _, hf, h⟩ := h.bind
      obtain ⟨others, _, hothers, h⟩ := h.bind
      obtain ⟨rfl, rfl⟩ := h.pure
      exact .cons (generatesChain_transform hnames hkind branch hf).generatesText
        (generatesTexts_transformBranches hnames hkind rest hothers)
end

end Transformers

/-- What is generated for a type is put behind a chain. -/
theorem generatesChain_convertWithin (hnames : ctx.names.Apart) {n : Nat}
    (h : (ctx.convertWithin n d c t).Runs s c' s') : ctx.GeneratesChain s c c' s' := by
  induction n generalizing d s c c' s' t with
  | zero => exact absurd h Gen.not_runs_throw
  | succ n ih =>
      have hkind (d : Direction) (s : Requirements) (c c' : Chain) (s' : Requirements)
          (t : TypeRef) (h : (ctx.convertByKind (fun m => do
            let f ← ctx.convertWithin n d .identity m
            return f.toFunction.render) d c t).Runs s c' s') : ctx.GeneratesChain s c c' s' := by
        refine generatesChain_convertByKind hnames (fun m s text s' htext => ?_) h
        obtain ⟨f, _, hf, htext⟩ := htext.bind
        obtain ⟨rfl, rfl⟩ := htext.pure
        exact (ih hf).generatesText
      unfold convertWithin at h
      cases hx : ctx.graph.transformation? t with
      | none =>
          rw [hx] at h
          exact hkind d s c c' s' t h
      | some x =>
          rw [hx] at h
          cases d with
          | decode => exact generatesChain_transform hnames hkind x.transformer h
          | encode => exact generatesChain_transform hnames hkind x.reverse h

/-- What is generated for a type extends a chain. -/
theorem extends_convertWithin (hnames : ctx.names.Apart) {n : Nat}
    (h : (ctx.convertWithin n d c t).Yields c') :
    ∃ links, Extends ctx.features.markedText c c' links := by
  obtain ⟨s, s', h⟩ := h
  obtain ⟨links, hlinks, -⟩ := generatesChain_convertWithin hnames h
  exact ⟨links, hlinks⟩

/-- The conversion of a readable operand is readable. -/
theorem isReadable_convertValue (hnames : ctx.names.Apart) {start : String} {e : Expr}
    (he : e.Printable) (ho : e.isOperand)
    (hchars : e.chars ctx.features.markedText = start.toList)
    (h : (ctx.convertValue d start t).Yields text) : ctx.IsReadable text := by
  obtain ⟨chain, hchain, h⟩ := h.bind
  obtain ⟨links, hlinks⟩ := extends_convertWithin hnames hchain
  rw [hlinks.toValue hchars] at h
  obtain rfl := Except.ok.inj h.lift
  exact ⟨_, (printable_applyLinks hlinks.printable he ho).1, String.toList_ofList.symm⟩

end Context

end TypedJson.Code
