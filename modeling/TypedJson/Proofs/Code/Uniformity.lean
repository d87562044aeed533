import TypedJson.Proofs.Code.Symbols
import TypedJson.Proofs.Code.Yields

/-!
# Conversions as values and as functions

What is generated behind a chain does not depend on the chain: it is a row of functions, put behind
whatever the chain starts from (`Gen.Appends`). So a conversion that is put together from nothing
and then applied to an expression is the conversion that is put together on the expression
(`symbols_andThenAll`, `conversions_uniform`), in collections and unions, where conversions are
functions, as in properties, where they are values.
-/

namespace TypedJson.Code

/-! ## Functions in a row -/

namespace Chain

/-- Put functions behind the chain, one after the other. -/
def andThenAll (c : Chain) (fs : List Function) : Chain :=
  fs.foldl andThen c

/-- Functions behind others. -/
theorem andThenAll_append (c : Chain) (fs others : List Function) :
    c.andThenAll (fs ++ others) = (c.andThenAll fs).andThenAll others :=
  List.foldl_append

/-- Functions do not give a chain its argument. -/
theorem isFunction_andThenAll (c : Chain) (fs : List Function) :
    (c.andThenAll fs).isFunction = c.isFunction := by
  induction fs generalizing c with
  | nil => rfl
  | cons f fs ih => exact (ih (c.andThen f)).trans (c.isFunction_andThen f)

/-- Functions behind a chain take the row of the chain into their holes. -/
theorem symbols_andThenAll (c : Chain) (fs : List Function) :
    (c.andThenAll fs).symbols = fillRow c.symbols (identity.andThenAll fs).symbols := by
  induction fs using List.reverseRecOn with
  | nil => exact (List.append_nil _).symm
  | append_singleton fs f ih =>
      rw [andThenAll_append, andThenAll_append]
      show ((c.andThenAll fs).andThen f).symbols =
        fillRow c.symbols ((identity.andThenAll fs).andThen f).symbols
      rw [symbols_andThen, symbols_andThen, ih, fillRow_fillRow]

/-- The function of a chain that waits for its argument has the row of the chain. -/
theorem symbols_toFunction {c : Chain} (h : c.isFunction) : c.toFunction.symbols = c.symbols := by
  cases c with
  | identity => exact Function.symbols_lambda _
  | function f => rfl
  | value | applied => cases h

/-- Functions put together from nothing and then applied to an expression are the functions put
behind the expression. -/
theorem toValue_andThenAll (argument : Template) (fs : List Function) :
    ((Chain.value argument).andThenAll fs).toValue =
      .ok ((identity.andThenAll fs).toFunction.apply argument).render := by
  have hfunction : (identity.andThenAll fs).isFunction := isFunction_andThenAll _ _
  have hvalue : ((Chain.value argument).andThenAll fs).isFunction = false :=
    isFunction_andThenAll _ _
  rw [toValue_eq_ok hvalue, symbols_andThenAll, Template.render_eq, Function.symbols_apply,
    symbols_toFunction hfunction]
  rfl

end Chain

/-! ## Generation steps -/

namespace Gen

variable {α β : Type}

/-- Whatever has been recorded, the step has the same outcome and records the same support
functions. -/
def Steady (x : Gen α) : Prop :=
  ∃ outcome names, ∀ s, (x.run.run s).1 = outcome ∧ Recorded s (x.run.run s).2 names

/-- A value. -/
theorem steady_pure (a : α) : Steady (pure a : Gen α) :=
  ⟨.ok a, [], fun _ => ⟨rfl, recorded_of_free fun _ => List.not_mem_nil⟩⟩

/-- A refusal. -/
theorem steady_throw (e : GenerateError) : Steady (throw e : Gen α) :=
  ⟨.error e, [], fun _ => ⟨rfl, recorded_of_free fun _ => List.not_mem_nil⟩⟩

/-- The outcome of a pure step. -/
theorem steady_lift (outcome : Except GenerateError α) : Steady (lift outcome) := by
  cases outcome with
  | ok a => exact steady_pure a
  | error e => exact steady_throw e

/-- An import. -/
theorem steady_addName (module name : String) : Steady (require (·.addName module name)) :=
  ⟨.ok (), [], fun s => ⟨rfl, recorded_addName s module name fun _ => List.not_mem_nil⟩⟩

/-- One step behind the other. -/
theorem Steady.bind {x : Gen α} {f : α → Gen β} (hx : Steady x) (hf : ∀ a, Steady (f a)) :
    Steady (x >>= f) := by
  obtain ⟨outcome, names, hx⟩ := hx
  cases outcome with
  | error e =>
    refine ⟨.error e, names, fun s => ?_⟩
    obtain ⟨houtcome, hrecorded⟩ := hx s
    rw [ExceptT.run_bind, StateT.run_bind]
    rcases hrun : x.run.run s with ⟨outcome, final⟩
    rw [hrun] at houtcome hrecorded
    cases houtcome
    exact ⟨rfl, hrecorded⟩
  | ok a =>
    obtain ⟨outcome, others, hf⟩ := hf a
    refine ⟨outcome, names ++ others, fun s => ?_⟩
    obtain ⟨houtcome, hrecorded⟩ := hx s
    rw [ExceptT.run_bind, StateT.run_bind]
    rcases hrun : x.run.run s with ⟨outcome, between⟩
    rw [hrun] at houtcome hrecorded
    cases houtcome
    exact ⟨(hf between).1, hrecorded.trans (hf between).2⟩

/-- A step whose result is changed. -/
theorem Steady.map {x : Gen α} (hx : Steady x) (f : α → β) : Steady (f <$> x) := by
  rw [map_eq_pure_bind]
  exact hx.bind fun a => steady_pure (f a)

/-- A step for each item of a list. -/
theorem steady_mapM {f : α → Gen β} {as : List α} (h : ∀ a ∈ as, Steady (f a)) :
    Steady (as.mapM f) := by
  induction as with
  | nil => exact steady_pure []
  | cons a as ih =>
    obtain ⟨ha, has⟩ := List.forall_mem_cons.1 h
    rw [List.mapM_cons]
    exact ha.bind fun _ => (ih has).bind fun _ => steady_pure _

/-- A support function. -/
theorem steady_converter (c : Converter) : Steady (converter c) :=
  ⟨.ok (.named c.name), [c.name], fun s => ⟨rfl, recorded_addConverter s c⟩⟩

/-- A support function with arguments. -/
theorem steady_converterWith (c : Converter) (leading : List String) :
    Steady (converterWith c leading) :=
  ⟨.ok (.partialCall c.name leading), [c.name], fun s => ⟨rfl, recorded_addConverter s c⟩⟩

/-- The step puts functions behind the chain that it is given. Which ones, what it records and
whether it is refused does not depend on the chain, nor on what has been recorded. -/
def Appends (x : Chain → Gen Chain) : Prop :=
  ∃ functions : Gen (List Function), functions.Steady ∧ ∀ c, x c = c.andThenAll <$> functions

variable {x y : Chain → Gen Chain}

/-- Nothing is put behind a chain. -/
theorem appends_pure : Appends pure :=
  ⟨pure [], steady_pure [], fun _ => rfl⟩

/-- A refusal puts nothing behind a chain. -/
theorem appends_throw (e : GenerateError) : Appends fun _ => throw e :=
  ⟨throw e, steady_throw e, fun _ => rfl⟩

/-- A function that is generated without the chain. -/
theorem appends_function {f : Gen Function} (hf : Steady f) :
    Appends fun c => f >>= fun f => pure (c.andThen f) := by
  refine ⟨(fun f => [f]) <$> f, hf.map _, fun c => ?_⟩
  rw [Functor.map_map, ← bind_pure_comp]
  rfl

/-- Something that is generated without the chain in front. -/
theorem appends_bind {front : Gen α} (hfront : Steady front) {next : α → Chain → Gen Chain}
    (h : ∀ a, Appends (next a)) : Appends fun c => front >>= fun a => next a c := by
  choose functions hsteady hfunctions using h
  refine ⟨front >>= functions, hfront.bind hsteady, fun c => ?_⟩
  rw [map_bind]
  exact bind_congr fun a => hfunctions a c

/-- One step behind the other. -/
theorem Appends.bind (hx : Appends x) (hy : Appends y) : Appends fun c => x c >>= y := by
  obtain ⟨first, hsteady, hfirst⟩ := hx
  obtain ⟨second, hsteady', hsecond⟩ := hy
  refine ⟨first >>= fun fs => (fs ++ ·) <$> second, hsteady.bind fun fs => hsteady'.map _,
    fun c => ?_⟩
  show x c >>= y = _
  rw [hfirst, bind_map_left, map_bind]
  refine bind_congr fun fs => ?_
  rw [hsecond, Functor.map_map]
  simp only [Chain.andThenAll_append]

/-- A function that is generated without the chain, in front of a step. -/
theorem Appends.after {f : Gen Function} (hf : Steady f) (hy : Appends y) :
    Appends fun c => f >>= fun f => y (c.andThen f) := by
  obtain ⟨functions, hsteady, h⟩ := (appends_function hf).bind hy
  refine ⟨functions, hsteady, fun c => Eq.trans ?_ (h c)⟩
  show (f >>= fun f => y (c.andThen f)) = (f >>= fun f => pure (c.andThen f)) >>= y
  rw [bind_assoc]
  exact bind_congr fun f => (pure_bind _ _).symm

/-- What is put behind a chain is steady. -/
theorem Appends.steady (h : Appends x) (c : Chain) : Steady (x c) := by
  obtain ⟨functions, hsteady, h⟩ := h
  rw [h]
  exact hsteady.map _

/-- The functions and the support functions are the same for all chains and requirements. -/
theorem Appends.exists_outcome (h : Appends x) :
    ∃ (outcome : Except GenerateError (List Function)) (names : List String), ∀ c s,
      ((x c).run.run s).1 = outcome.map c.andThenAll ∧
        Recorded s ((x c).run.run s).2 names := by
  obtain ⟨functions, ⟨outcome, names, hsteady⟩, h⟩ := h
  refine ⟨outcome, names, fun c s => ?_⟩
  rw [h, ExceptT.run_map, StateT.run_map]
  exact ⟨congrArg (Except.map c.andThenAll) (hsteady s).1, (hsteady s).2⟩

end Gen

namespace Context

variable {ctx : Context} {d : Direction}

/-- The kind of a type. -/
theorem steady_kind (t : TypeRef) : Gen.Steady (ctx.kind t) := by
  unfold kind
  split
  · exact Gen.steady_pure _
  · exact Gen.steady_throw _

/-- The conversion by kind puts functions behind a chain. -/
theorem appends_convertByKind {element : TypeRef → Gen String}
    (helement : ∀ m, Gen.Steady (element m)) (d : Direction) (t : TypeRef) :
    Gen.Appends fun c => ctx.convertByKind element d c t := by
  unfold convertByKind
  refine Gen.appends_bind (steady_kind t) fun k => ?_
  cases k with
  | any => exact Gen.appends_pure
  | null | bool | integer | double | text => exact Gen.appends_function (Gen.steady_converter _)
  | array | map =>
    exact Gen.appends_bind (helement _) fun f =>
      Gen.appends_function (Gen.steady_converterWith _ _)
  | union members =>
    exact Gen.appends_bind (Gen.steady_mapM fun m _ => helement m) fun functions =>
      Gen.appends_function (Gen.steady_converterWith _ _)
  | record | enumeration =>
    refine Gen.appends_bind (Gen.steady_lift _) fun name => ?_
    cases d with
    | decode => exact Gen.appends_function (Gen.steady_pure _)
    | encode => exact Gen.appends_function (Gen.steady_converterWith _ _)
  | formatted format =>
    cases format with
    | integerText => exact Gen.appends_throw _
    | dateTime =>
      cases d with
      | decode => exact Gen.appends_function (Gen.steady_converter _)
      | encode => exact Gen.appends_function (Gen.steady_pure _)

/-- The type object of a type. -/
theorem steady_typeObject (d : Direction) (t : TypeRef) : Gen.Steady (ctx.typeObject d t) := by
  refine (steady_kind t).bind fun k => ?_
  cases k with
  | null | bool | integer | double | text | array | map => exact Gen.steady_pure _
  | record =>
    cases d with
    | decode => exact Gen.steady_pure _
    | encode => exact Gen.steady_lift _
  | enumeration =>
    cases d with
    | decode => exact Gen.steady_pure _
    | encode => exact Gen.steady_lift _
  | formatted format =>
    cases d with
    | decode => exact Gen.steady_pure _
    | encode =>
      cases format with
      | dateTime => exact (Gen.steady_addName _ _).bind fun _ => Gen.steady_pure _
      | integerText => exact Gen.steady_pure _
  | any | union => exact Gen.steady_throw _

/-- The step that parses a text. -/
theorem steady_parseStep (t : TypeRef) : Gen.Steady (ctx.parseStep t) := by
  refine (steady_kind t).bind fun k => ?_
  cases k with
  | integer => exact Gen.steady_pure _
  | enumeration => exact (Gen.steady_lift _).bind fun _ => Gen.steady_pure _
  | formatted format =>
    cases format with
    | dateTime => exact Gen.steady_converter _
    | integerText => exact Gen.steady_throw _
  | any | null | bool | double | text | array | map | record | union => exact Gen.steady_throw _

/-- The step that writes a text. -/
theorem steady_writeStep (t : TypeRef) : Gen.Steady (ctx.writeStep t) := by
  refine (steady_kind t).bind fun k => ?_
  cases k with
  | integer => exact Gen.steady_pure _
  | enumeration => exact (Gen.steady_lift _).bind fun _ => Gen.steady_converterWith _ _
  | formatted format =>
    cases format with
    | dateTime => exact Gen.steady_pure _
    | integerText => exact Gen.steady_throw _
  | any | null | bool | double | text | array | map | record | union => exact Gen.steady_throw _

section Transformers

variable {byKind : Direction → Chain → TypeRef → Gen Chain}

mutual
/-- A transformer puts functions behind a chain, if the conversion by kind does. -/
theorem appends_transform (h : ∀ d s, Gen.Appends fun c => byKind d c s) :
    (x : Transformer) → (target : TypeRef) →
      Gen.Appends fun c => ctx.transform byKind d x c target
  | .choice _ branches, target => by
    simp only [transform]
    exact Gen.appends_bind (steady_transformBranches h branches target) fun functions =>
      Gen.appends_function (Gen.steady_converterWith _ _)
  | .decode source next, target => by
    simp only [transform]
    exact (h .decode source).bind (appends_transformNext h next target)
  | .encode source, target => by
    simp only [transform]
    exact h .encode source
  | .elements _ container element next, target => by
    simp only [transform]
    exact Gen.appends_bind ((appends_transform h element _).steady .identity) fun f =>
      .after (Gen.steady_converterWith _ _) (appends_transformNext h next target)
  | .memberMatch _ member next, target => by
    simp only [transform]
    exact Gen.appends_bind (steady_typeObject d member) fun object =>
      .after (Gen.steady_converterWith _ _) (appends_transformNext h next target)
  | .instantiate _, target => by
    simp only [transform]
    exact Gen.appends_pure
  | .parseText _ next, target => by
    simp only [transform]
    exact .after (steady_parseStep _) (appends_transformNext h next target)
  | .writeText source next, target => by
    simp only [transform]
    exact .after (steady_writeStep source) (appends_transformNext h next target)

/-- So do the steps behind a step. -/
theorem appends_transformNext (h : ∀ d s, Gen.Appends fun c => byKind d c s) :
    (next : Option Transformer) → (target : TypeRef) →
      Gen.Appends fun c => ctx.transformNext byKind d next c target
  | none, target => by
    simp only [transformNext]
    exact Gen.appends_pure
  | some step, target => by
    simp only [transformNext]
    exact appends_transform h step target

/-- The functions of the branches of a choice. -/
theorem steady_transformBranches (h : ∀ d s, Gen.Appends fun c => byKind d c s) :
    (branches : List Transformer) → (target : TypeRef) →
      Gen.Steady (ctx.transformBranches byKind d branches target)
  | [], target => by
    simp only [transformBranches]
    exact Gen.steady_pure []
  | branch :: rest, target => by
    simp only [transformBranches]
    exact ((appends_transform h branch target).steady .identity).bind fun f =>
      (steady_transformBranches h rest target).bind fun functions => Gen.steady_pure _
end

end Transformers

/-- The conversion of a type puts functions behind a chain. -/
theorem appends_convertWithin (n : Nat) (d : Direction) (t : TypeRef) :
    Gen.Appends fun c => ctx.convertWithin n d c t := by
  induction n generalizing d t with
  | zero => exact Gen.appends_throw _
  | succ n ih =>
    have hkind (d : Direction) (s : TypeRef) : Gen.Appends fun c => ctx.convertByKind
        (fun m => ctx.convertWithin n d .identity m >>= fun f => pure f.toFunction.render) d c s :=
      appends_convertByKind (fun m => ((ih d m).steady .identity).bind fun f => Gen.steady_pure _)
        d s
    simp only [convertWithin]
    cases ctx.graph.transformation? t with
    | none => exact hkind d t
    | some x =>
      cases d with
      | decode => exact appends_transform hkind x.transformer x.target
      | encode => exact appends_transform hkind x.reverse t

/-- So does the conversion by a transformer. -/
theorem appends_convertBy (d : Direction) (x : Transformer) (target : TypeRef) :
    Gen.Appends fun c => ctx.convertBy d x c target := by
  refine appends_transform (fun d s => appends_convertByKind (fun m => ?_) d s) x target
  exact ((appends_convertWithin _ d m).steady .identity).bind fun f => Gen.steady_pure _

end Context

/-! ## The result -/

/-- A conversion that was put together from nothing and one that was put together on an expression
are the same: both are refused for one reason, or the function applied to the expression is the
value; and both have recorded the same. -/
inductive Alike (argument : Template) : Except GenerateError Chain × Requirements →
    Except GenerateError Chain × Requirements → Prop
  | refused (e : GenerateError) (required : Requirements) :
      Alike argument (.error e, required) (.error e, required)
  | written {fromNothing onValue : Chain} (required : Requirements)
      (h : onValue.toValue = .ok (fromNothing.toFunction.apply argument).render) :
      Alike argument (.ok fromNothing, required) (.ok onValue, required)

/-- Whatever puts functions behind chains is alike from nothing and on an expression. -/
theorem Gen.Appends.alike {x : Chain → Gen Chain} (h : Gen.Appends x) (argument : Template)
    (required : Requirements) :
    Alike argument ((x .identity).run.run required) ((x (.value argument)).run.run required) := by
  obtain ⟨functions, -, hfunctions⟩ := h
  have hrun (c : Chain) : (x c).run.run required =
      ((functions.run.run required).1.map c.andThenAll, (functions.run.run required).2) := by
    rw [hfunctions, ExceptT.run_map, StateT.run_map]
    rfl
  rw [hrun, hrun]
  rcases functions.run.run required with ⟨e | fs, final⟩
  · exact .refused e final
  · exact .written final (Chain.toValue_andThenAll argument fs)

/-- Conversions as functions and as values are the same, for every type and every transformer. -/
theorem Context.conversions_uniform (ctx : Context) (d : Direction) (argument : Template)
    (required : Requirements) :
    (∀ t, Alike argument ((ctx.convert d .identity t).run.run required)
      ((ctx.convert d (.value argument) t).run.run required)) ∧
    ∀ x target, Alike argument ((ctx.convertBy d x .identity target).run.run required)
      ((ctx.convertBy d x (.value argument) target).run.run required) :=
  ⟨fun t => (appends_convertWithin _ d t).alike argument required,
    fun x target => (appends_convertBy d x target).alike argument required⟩

end TypedJson.Code
