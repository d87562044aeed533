import TypedJson.Proofs.Script.Support

/-!
# What the support functions do

Each support function is run on its arguments: what it checks, what it gives back, and how it calls
the functions that it is given. This holds in any module whose names for the support functions and
for what the language offers stand for these.
-/

namespace TypedJson.Script

open Code

/-- The names of the language and of the support functions stand for what they are. -/
structure Program.Supports (P : Program) (f : Features) : Prop where
  function (c : Converter) : P.global? c.name = some (.function (supportDefinition f c))
  builtin {name : String} {b : Builtin} (h : Builtin.ofName? name = some b) :
    P.global? name = some (.builtin b)
  constant {name : String} {v : Value} (h : constant? name = some v) :
    P.global? name = some (.data v)

variable {P : Program} {f : Features} {ρ : Frame} {call : Entity → List Entity → Run Entity}

/-! ## Checks -/

/-- The running function neither binds nor assigns the name. -/
def Frame.Frees (ρ : Frame) (name : String) : Prop :=
  ρ.locals.lookup name = none ∧ ρ.assigned.contains name = false

/-- A name that is not local stands for what it stands for in the module. -/
theorem lookup_of_free {name : String} {e : Entity} (h : ρ.Frees name)
    (hglobal : P.global? name = some e) : P.lookup ρ name = .ok e := by
  rw [Program.lookup, h.1, h.2, hglobal]
  rfl

/-- Binding a name leaves the others alone. -/
theorem lookup_bind {name other : String} (h : (name == other) = false) (e : Entity) :
    (ρ.bind other e).locals.lookup name = ρ.locals.lookup name := by
  show List.lookup name ((other, e) :: ρ.locals) = _
  rw [List.lookup_cons, h]

/-- Binding a name leaves the others free. -/
theorem Frame.Frees.bind {name other : String} (h : ρ.Frees name) (hne : (name == other) = false)
    (e : Entity) : (ρ.bind other e).Frees name :=
  ⟨(lookup_bind hne e).trans h.1, h.2⟩

/-- The running function hides no name of the module or of the language. -/
def Frame.Clear (P : Program) (ρ : Frame) : Prop :=
  ∀ name e, P.global? name = some e → ρ.Frees name

/-- In a clear frame, a name of the module stands for what it stands for in the module. -/
theorem Frame.Clear.lookup {name : String} {e : Entity} (h : ρ.Clear P)
    (hglobal : P.global? name = some e) : P.lookup ρ name = .ok e :=
  lookup_of_free (h name e hglobal) hglobal

/-- Binding a name that stands for nothing keeps a frame clear. -/
theorem Frame.Clear.bind {name : String} (h : ρ.Clear P) (hname : P.global? name = none)
    (e : Entity) : (ρ.bind name e).Clear P := by
  intro other e' hother
  refine (h other e' hother).bind ?_ e
  rw [beq_eq_false_iff_ne]
  rintro rfl
  rw [hname] at hother
  cases hother

/-- A frame of names that stand for nothing is clear. -/
theorem clear_of_names {locals : List (String × Entity)} {assigned : List String}
    (hlocals : ∀ entry ∈ locals, P.global? entry.1 = none)
    (hassigned : ∀ name ∈ assigned, P.global? name = none) :
    (⟨locals, assigned⟩ : Frame).Clear P := by
  intro name e hname
  have hne {other : String} (hother : P.global? other = none) : (name == other) = false := by
    rw [beq_eq_false_iff_ne]
    rintro rfl
    rw [hname] at hother
    cases hother
  constructor
  · rw [List.lookup_eq_none_iff]
    exact fun entry hentry => by rw [bne, hne (hlocals entry hentry)]; rfl
  · rw [Bool.eq_false_iff, ne_eq, List.contains_iff_mem]
    intro hmem
    rw [hassigned name hmem] at hname
    cases hname

/-- Types that are named one by one stand for themselves. -/
theorem evalItems_builtins (hP : P.Supports f) {names : List String} {bs : List Builtin}
    (h : List.Forall₂ (fun name b => Builtin.ofName? name = some b ∧ ρ.Frees name) names bs) :
    evalItems P call (names.map .name) ρ = .ok (bs.map .builtin) := by
  induction h with
  | nil => rfl
  | cons hhead _ ih =>
      show (P.lookup ρ _ >>= fun e => evalItems P call _ ρ >>= fun es => pure (e :: es)) = _
      rw [lookup_of_free hhead.2 (hP.builtin hhead.1), ih]
      rfl

/-- A test of `x` tells whether its value is of the type. -/
theorem eval_testOfX (hP : P.Supports f) {n : Nat} {v : Value} {type : Expr} {t : Entity} {b : Bool}
    (hfree : ρ.Frees "isinstance") (hx : P.lookup ρ "x" = .ok (.data v))
    (htype : eval P (P.callWithin (n + 1)) type ρ = .ok t) (h : isInstance? v t = some b) :
    eval P (P.callWithin (n + 1)) (testOfX type) ρ = .ok (.data (.bool b)) := by
  show (P.lookup ρ "isinstance" >>= fun g => (P.lookup ρ "x" >>= fun x =>
    (eval P (P.callWithin (n + 1)) type ρ >>= fun t => pure [t]) >>= fun es => pure (x :: es)) >>=
      P.callWithin (n + 1) g) = _
  rw [lookup_of_free hfree (hP.builtin rfl), hx, htype]
  exact Program.callBuiltin_isinstance (P := P) h

/-- A number test of `x` also tells that its value is no truth value. -/
theorem eval_numberTestOfX (hP : P.Supports f) {n : Nat} {v : Value} {types : Expr} {t : Entity}
    {b : Bool} (hfree : ρ.Frees "isinstance") (hbool : ρ.Frees "bool")
    (hx : P.lookup ρ "x" = .ok (.data v))
    (htype : eval P (P.callWithin (n + 1)) types ρ = .ok t) (h : isInstance? v t = some b) :
    eval P (P.callWithin (n + 1)) (numberTestOfX types) ρ =
      .ok (.data (.bool (b && Builtin.tests? .bool v != some true))) := by
  have hname : eval P (P.callWithin (n + 1)) (.name "bool") ρ = .ok (.builtin .bool) :=
    lookup_of_free hbool (hP.builtin rfl)
  obtain ⟨b', hb'⟩ : ∃ b', isInstance? v (.builtin .bool) = some b' := by
    cases v <;> exact ⟨_, rfl⟩
  have htests : Builtin.tests? .bool v = some b' := hb'
  show (eval P _ (testOfX types) ρ >>= fun e => e.truth >>= fun left =>
    if left then eval P _ (.not (testOfX (.name "bool"))) ρ else pure (.data (.bool false))) = _
  rw [eval_testOfX hP hfree hx htype h, htests]
  cases b with
  | false => rfl
  | true =>
      show (eval P (P.callWithin (n + 1)) (testOfX (.name "bool")) ρ >>= fun e => e.truth >>= fun b =>
        pure (Entity.data (.bool !b))) = _
      rw [eval_testOfX hP hfree hx hname hb']
      cases b' <;> rfl

/-- A function that checks something and then gives a result runs so. -/
theorem run_checked {name : String} {parameters : List String} {condition result : Expr}
    {arguments : List Entity} {b : Bool} (hlength : parameters.length = arguments.length)
    (h : eval P call condition ⟨parameters.zip arguments, []⟩ = .ok (.data (.bool b))) :
    Definition.run P call ⟨name, parameters, [.assert condition, .return result]⟩ arguments =
      if b then eval P call result ⟨parameters.zip arguments, []⟩ else .error .raised := by
  have hassert : exec P call (.assert condition) ⟨parameters.zip arguments, []⟩ =
      if b then .ok (⟨parameters.zip arguments, []⟩, none) else .error .raised := by
    show (eval P call condition _ >>= fun e => e.truth >>= fun b =>
      if b then pure (_, none) else .error .raised) = _
    rw [h]
    rfl
  rw [Definition.run, if_neg (by simpa using hlength)]
  show ((exec P call (.assert condition) ⟨parameters.zip arguments, []⟩ >>= _) >>= _) = _
  rw [hassert]
  cases b with
  | false => rfl
  | true =>
      show (((eval P call result _ >>= fun e => pure (_, some e)) >>= _) >>= _) = _
      rw [if_pos rfl]
      cases eval P call result ⟨parameters.zip arguments, []⟩ <;> rfl

/-! ## Functions of one value -/

/-- The frame of a function of `x`. -/
def frameOfX (v : Value) : Frame :=
  ⟨[("x", .data v)], []⟩

/-- A name other than `x` is free in the frame of a function of `x`. -/
theorem frees_frameOfX (v : Value) {name : String} (h : (name == "x") = false) :
    (frameOfX v).Frees name := by
  refine ⟨?_, rfl⟩
  show List.lookup name [("x", Entity.data v)] = none
  rw [List.lookup_cons, h]
  rfl

/-- A function that checks `x` and gives it back does so. -/
theorem calls_checked {name : String} {condition result : Expr} {v : Value} {b : Bool}
    {r : Run Entity}
    (h : ∀ n, eval P (P.callWithin (n + 1)) condition (frameOfX v) = .ok (.data (.bool b)))
    (hresult : ∀ n, eval P (P.callWithin (n + 1)) result (frameOfX v) = r) :
    Calls P (.function ⟨name, ["x"], [.assert condition, .return result]⟩) [.data v]
      (if b then r else .error .raised) := by
  refine Calls.of_step ⟨1, fun n hn => ?_⟩
  obtain ⟨n, rfl⟩ : ∃ k, n = k + 1 := ⟨n - 1, by omega⟩
  exact (run_checked rfl (h n)).trans
    (congrArg (fun r => if b then r else .error .raised) (hresult n))

/-- Only `None` is none. -/
theorem calls_fromNone (v : Value) :
    Calls P (.function (supportDefinition f .fromNone)) [.data v]
      (if v.isNone then .ok (.data v) else .error .raised) :=
  calls_checked (fun _ => by cases v <;> rfl) fun _ => rfl

/-- The type of a name is itself in the frame of a function of `x`. -/
theorem eval_type (hP : P.Supports f) {name : String} {b : Builtin}
    (h : Builtin.ofName? name = some b) (hx : (name == "x") = false) (v : Value) :
    eval P call (.name name) (frameOfX v) = .ok (.builtin b) :=
  lookup_of_free (frees_frameOfX v hx) (hP.builtin h)

/-- Several types are a tuple in the frame of a function of `x`. -/
theorem eval_types (hP : P.Supports f) {names : List String} {bs : List Builtin}
    (h : List.Forall₂ (fun name b => Builtin.ofName? name = some b ∧ (name == "x") = false)
      names bs) (v : Value) :
    eval P call (.tuple (names.map .name)) (frameOfX v) = .ok (.tuple (bs.map .builtin)) := by
  show (evalItems P call (names.map .name) (frameOfX v)).map Entity.tuple = _
  rw [evalItems_builtins hP (h.imp fun name b hb => ⟨hb.1, frees_frameOfX v hb.2⟩)]
  rfl

/-- A function that requires `x` to be of a type gives it back if it is. -/
theorem calls_ofType (hP : P.Supports f) {name : String} {type : Expr} {t : Entity} {v : Value}
    (htype : ∀ call, eval P call type (frameOfX v) = .ok t) {b : Bool}
    (h : isInstance? v t = some b) :
    Calls P (.function ⟨name, ["x"], [.assert (testOfX type), .return (.name "x")]⟩) [.data v]
      (if b then .ok (.data v) else .error .raised) :=
  calls_checked (fun _ => eval_testOfX hP (frees_frameOfX v rfl) rfl (htype _) h) fun _ => rfl

/-- A function that requires `x` to be of a type of numbers evaluates its result if it is. -/
theorem calls_ofNumber (hP : P.Supports f) {name : String} {types result : Expr} {t : Entity}
    {v : Value} {r : Run Entity} (htype : ∀ call, eval P call types (frameOfX v) = .ok t)
    (hresult : ∀ n, eval P (P.callWithin (n + 1)) result (frameOfX v) = r) {b : Bool}
    (h : isInstance? v t = some b) :
    Calls P (.function ⟨name, ["x"], [.assert (numberTestOfX types), .return result]⟩) [.data v]
      (if b && Builtin.tests? .bool v != some true then r else .error .raised) :=
  calls_checked (fun _ => eval_numberTestOfX hP (frees_frameOfX v rfl) (frees_frameOfX v rfl) rfl
    (htype _) h) hresult

/-- Only a truth value is a truth value. -/
theorem calls_fromBool (hP : P.Supports f) (v : Value) :
    Calls P (.function (supportDefinition f .fromBool)) [.data v]
      (match v with
        | .bool _ => .ok (.data v)
        | _ => .error .raised) := by
  have h {b : Bool} (hb : isInstance? v (.builtin .bool) = some b) :
      Calls P (.function (supportDefinition f .fromBool)) [.data v]
        (if b then .ok (.data v) else .error .raised) :=
    calls_ofType hP (fun _ => eval_type hP rfl rfl v) hb
  cases v <;> exact h rfl

/-- Only an integer is an integer, and no truth value is one. -/
theorem calls_fromInt (hP : P.Supports f) (v : Value) :
    Calls P (.function (supportDefinition f .fromInt)) [.data v]
      (match v with
        | .int _ => .ok (.data v)
        | _ => .error .raised) := by
  have h {t : Entity} (htype : ∀ call, eval P call (typeOrTuple (integerNames f.legacyBuiltins))
      (frameOfX v) = .ok t) {b : Bool} (hb : isInstance? v t = some b) :
      Calls P (.function (supportDefinition f .fromInt)) [.data v]
        (if b && Builtin.tests? .bool v != some true then .ok (.data v) else .error .raised) :=
    calls_ofNumber hP htype (fun _ => rfl) hb
  obtain ⟨hints, dataclasses, grammar, base, marked, legacy⟩ := f
  cases legacy with
  | false =>
      replace h {b : Bool} := @h (.builtin .int) (fun _ => eval_type hP rfl rfl v) b
      cases v <;> exact h rfl
  | true =>
      replace h {b : Bool} := @h (.tuple [.builtin .int, .builtin .long])
        (fun _ => eval_types hP (.cons ⟨rfl, rfl⟩ (.cons ⟨rfl, rfl⟩ .nil)) v) b
      cases v <;> exact h rfl

/-- An integer becomes a float, and a float stays one. -/
theorem calls_fromFloat (hP : P.Supports f) (v : Value) :
    Calls P (.function (supportDefinition f .fromFloat)) [.data v]
      (match v with
        | .int i => .ok (.data (.float (Binary64.ofInt i)))
        | .float x => .ok (.data (.float x))
        | _ => .error .raised) := by
  have hresult (n : Nat) : eval P (P.callWithin (n + 1))
      (.call (.name "float") [.name "x"]) (frameOfX v) = P.callBuiltin .float [.data v] := by
    show (P.lookup (frameOfX v) "float" >>= fun g => P.callWithin (n + 1) g [.data v]) = _
    rw [lookup_of_free (frees_frameOfX v rfl) (hP.builtin rfl)]
    rfl
  have h {t : Entity} (htype : ∀ call, eval P call
      (.tuple (.name "float" :: integerNames f.legacyBuiltins)) (frameOfX v) = .ok t)
      {b : Bool} (hb : isInstance? v t = some b) :
      Calls P (.function (supportDefinition f .fromFloat)) [.data v]
        (if b && Builtin.tests? .bool v != some true then P.callBuiltin .float [.data v]
          else .error .raised) :=
    calls_ofNumber hP htype hresult hb
  -- Which types are tested for depends on whether there is a type for long integers.
  obtain ⟨hints, dataclasses, grammar, base, marked, legacy⟩ := f
  cases legacy with
  | false =>
      replace h {b : Bool} := @h (.tuple [.builtin .float, .builtin .int])
        (fun _ => eval_types hP (.cons ⟨rfl, rfl⟩ (.cons ⟨rfl, rfl⟩ .nil)) v) b
      cases v <;> exact h rfl
  | true =>
      replace h {b : Bool} := @h (.tuple [.builtin .float, .builtin .int, .builtin .long])
        (fun _ => eval_types hP (.cons ⟨rfl, rfl⟩ (.cons ⟨rfl, rfl⟩ (.cons ⟨rfl, rfl⟩ .nil))) v) b
      cases v <;> exact h rfl

/-- Only a float is a float. -/
theorem calls_toFloat (hP : P.Supports f) (v : Value) :
    Calls P (.function (supportDefinition f .toFloat)) [.data v]
      (match v with
        | .float _ => .ok (.data v)
        | _ => .error .raised) := by
  have h {b : Bool} (hb : isInstance? v (.builtin .float) = some b) :
      Calls P (.function (supportDefinition f .toFloat)) [.data v]
        (if b then .ok (.data v) else .error .raised) :=
    calls_ofType hP (fun _ => eval_type hP rfl rfl v) hb
  cases v <;> exact h rfl

/-- Only a text is a text. -/
theorem calls_fromStr (hP : P.Supports f) (v : Value) :
    Calls P (.function (supportDefinition f .fromStr)) [.data v]
      (match v with
        | .str _ => .ok (.data v)
        | _ => .error .raised) := by
  have h {t : Entity} (htype : ∀ call, eval P call (typeOrTuple
      (if f.legacyBuiltins then [.name "str", .name "unicode"] else [.name "str"])) (frameOfX v) =
        .ok t) {b : Bool} (hb : isInstance? v t = some b) :
      Calls P (.function (supportDefinition f .fromStr)) [.data v]
        (if b then .ok (.data v) else .error .raised) :=
    calls_ofType hP htype hb
  obtain ⟨hints, dataclasses, grammar, base, marked, legacy⟩ := f
  cases legacy with
  | false =>
      replace h {b : Bool} := @h (.builtin .str) (fun _ => eval_type hP rfl rfl v) b
      cases v <;> exact h rfl
  | true =>
      replace h {b : Bool} := @h (.tuple [.builtin .str, .builtin .unicode])
        (fun _ => eval_types hP (.cons ⟨rfl, rfl⟩ (.cons ⟨rfl, rfl⟩ .nil)) v) b
      cases v <;> exact h rfl

/-- A text is parsed as a timestamp, and nothing else is. -/
theorem calls_fromDatetime (hP : P.Supports f) (v : Value) :
    Calls P (.function (supportDefinition f .fromDatetime)) [.data v]
      (match v with
        | .str s => orRaise ((Timestamp.parse? s).map .dateTime)
        | _ => .error .raised) := by
  have hrun (v : Value) (n : Nat) : P.callWithin (n + 2)
      (.function (supportDefinition f .fromDatetime)) [.data v] =
      P.callBuiltin .parseDate [.data v] := by
    show ((((((P.lookup (frameOfX v) "dateutil" >>= fun e => P.member e "parser") >>= fun e =>
      P.member e "parse") >>= fun g => P.callWithin (n + 1) g [.data v]) >>= fun e =>
        pure (frameOfX v, some e)) >>= _) >>= _) = _
    rw [lookup_of_free (frees_frameOfX v rfl) (hP.builtin rfl)]
    show (((P.callBuiltin .parseDate [.data v] >>= _) >>= _) >>= _) = _
    cases P.callBuiltin .parseDate [.data v] <;> rfl
  refine ⟨2, fun n hn => ?_⟩
  obtain ⟨n, rfl⟩ : ∃ k, n = k + 2 := ⟨n - 2, by omega⟩
  cases v <;> exact hrun _ n

/-! ## Functions of a type, a function or functions -/

/-- A function of a type and `x` that requires `x` to be of the type evaluates its result if it
is. -/
theorem calls_ofGiven (hP : P.Supports f) {name parameter : String} {result : Expr} {t : Entity}
    {v : Value} {r : Run Entity} {ρ : Frame} (hρ : ρ = ⟨[(parameter, t), ("x", .data v)], []⟩)
    (hfree : ρ.Frees "isinstance") (ht : P.lookup ρ parameter = .ok t)
    (hx : P.lookup ρ "x" = .ok (.data v)) {passed : Bool} (h : isInstance? v t = some passed)
    (hresult : passed → Evals P ρ result r) :
    Calls P (.function ⟨name, [parameter, "x"],
        [.assert (testOfX (.name parameter)), .return result]⟩) [t, .data v]
      (if passed then r else .error .raised) := by
  have hrun (n : Nat) : Definition.run P (P.callWithin (n + 1))
      ⟨name, [parameter, "x"], [.assert (testOfX (.name parameter)), .return result]⟩ [t, .data v] =
      if passed then eval P (P.callWithin (n + 1)) result ρ else .error .raised := by
    have hname : eval P (P.callWithin (n + 1)) (.name parameter) ρ = .ok t := ht
    have htest := eval_testOfX hP hfree hx hname h
    subst hρ
    exact run_checked rfl htest
  cases passed with
  | false =>
      refine Calls.of_step ⟨1, fun n hn => ?_⟩
      obtain ⟨n, rfl⟩ : ∃ k, n = k + 1 := ⟨n - 1, by omega⟩
      exact hrun n
  | true =>
      obtain ⟨least, hleast⟩ := hresult rfl
      refine Calls.of_step ⟨least + 1, fun n hn => ?_⟩
      obtain ⟨n, rfl⟩ : ∃ k, n = k + 1 := ⟨n - 1, by omega⟩
      exact (hrun n).trans (hleast (n + 1) (by omega))

/-- A value is given back if it is of the type. -/
theorem calls_isType (hP : P.Supports f) {t : Entity} {v : Value} {b : Bool}
    (h : isInstance? v t = some b) :
    Calls P (.function (supportDefinition f .isType)) [t, .data v]
      (if b then .ok (.data v) else .error .raised) :=
  calls_ofGiven hP rfl ⟨rfl, rfl⟩ rfl rfl h fun _ => settles_const _

/-- The value of a case is given back if the case is of the class. -/
theorem calls_toEnum (hP : P.Supports f) {t : Entity} {v : Value} {b : Bool}
    (h : isInstance? v t = some b) :
    Calls P (.function (supportDefinition f .toEnum)) [t, .data v]
      (if b then P.member (.data v) "value" else .error .raised) :=
  calls_ofGiven hP rfl ⟨rfl, rfl⟩ rfl rfl h fun _ => (evals_name "x").member "value"

/-- The encoding function of the class is called if the value is of the class. -/
theorem calls_toClass (hP : P.Supports f) {t : Entity} {v : Value} {b : Bool} {r : Run Entity}
    (h : isInstance? v t = some b)
    (hcall : b → Settles (fun n => P.member (.data v) "to_dict" >>= fun m => P.callWithin n m []) r) :
    Calls P (.function (supportDefinition f .toClass)) [t, .data v]
      (if b then r else .error .raised) := by
  refine calls_ofGiven hP rfl ⟨rfl, rfl⟩ rfl rfl h fun hb => ?_
  refine Evals.callMember (x := .data v) ?_ (hcall hb)
  have hx : Evals P ⟨[("c", t), ("x", .data v)], []⟩ (.name "x") (.ok (.data v)) := evals_name "x"
  have hname {name : String} {b : Builtin} (hb : Builtin.ofName? name = some b)
      (hfree : Frame.Frees ⟨[("c", t), ("x", .data v)], []⟩ name) :
      Evals P ⟨[("c", t), ("x", .data v)], []⟩ (.name name) (.ok (.builtin b)) := by
    have hevals := evals_name (P := P) (ρ := ⟨[("c", t), ("x", .data v)], []⟩) name
    rwa [lookup_of_free hfree (hP.builtin hb)] at hevals
  split
  · have hcast : Builtin.ofName? "cast" = some .cast := rfl
    have hany : Builtin.ofName? "Any" = some .any := rfl
    have hitem := hname hany ⟨rfl, rfl⟩
    refine (hname hcast ⟨rfl, rfl⟩).call (r := fun _ => .ok (.data v))
      (EvalsItems.cons hitem (EvalsItems.cons hx evalsItems_nil)) fun xs hxs => ?_
    cases hxs
    exact Calls.of_step (settles_const _)
  · exact hx

/-- Data have the values that they are of. -/
theorem mapM_value?_data (values : List Value) :
    (values.map Entity.data).mapM Entity.value? = some values := by
  induction values with
  | nil => rfl
  | cons v values ih =>
      rw [List.map_cons, List.mapM_cons, ih]
      rfl

/-- The list of data is data. -/
theorem ofItems_data (values : List Value) :
    Entity.ofItems (values.map .data) = .data (.list values) := by
  rw [Entity.ofItems, mapM_value?_data]

/-- Results of data are data. -/
theorem mapM_data {α : Type} (r : α → Run Value) (items : List α) :
    (items.mapM fun a => (r a).map Entity.data) = (items.mapM r).map (List.map .data) := by
  induction items with
  | nil => rfl
  | cons a items ih =>
      rw [List.mapM_cons, List.mapM_cons, ih]
      cases r a with
      | error e => rfl
      | ok v => cases items.mapM r <;> rfl

/-- The frame of a function of `f` and `x`. -/
def frameOfFX (g : Entity) (v : Value) : Frame :=
  ⟨[("f", g), ("x", .data v)], []⟩

/-- A function of `f` and `x` that requires `x` to be of a type evaluates its result if it is. -/
theorem calls_ofTypeWith (hP : P.Supports f) {name type : String} {b : Builtin} {result : Expr}
    {g : Entity} {v : Value} {r : Run Entity} (hname : Builtin.ofName? type = some b)
    (hfree : (type == "f" || type == "x") = false) {passed : Bool}
    (h : b.tests? v = some passed)
    (hresult : passed → Evals P (frameOfFX g v) result r) :
    Calls P (.function ⟨name, ["f", "x"], [.assert (testOfX (.name type)), .return result]⟩)
      [g, .data v] (if passed then r else .error .raised) := by
  have hisinstance : (frameOfFX g v).Frees "isinstance" := ⟨rfl, rfl⟩
  rw [Bool.or_eq_false_iff] at hfree
  have htype (n : Nat) : eval P (P.callWithin (n + 1)) (.name type) (frameOfFX g v) =
      .ok (.builtin b) := by
    refine lookup_of_free ⟨?_, rfl⟩ (hP.builtin hname)
    show List.lookup type [("f", g), ("x", Entity.data v)] = none
    rw [List.lookup_cons, hfree.1, List.lookup_cons, hfree.2]
    rfl
  have hrun (n : Nat) : P.callWithin (n + 2)
      (.function ⟨name, ["f", "x"], [.assert (testOfX (.name type)), .return result]⟩) [g, .data v] =
      if passed then eval P (P.callWithin (n + 1)) result (frameOfFX g v) else .error .raised := by
    have htest := eval_testOfX hP hisinstance rfl (htype n) h
    show Definition.run P (P.callWithin (n + 1)) ⟨name, ["f", "x"], _⟩ [g, .data v] = _
    exact run_checked rfl htest
  cases passed with
  | false =>
      refine ⟨2, fun n hn => ?_⟩
      obtain ⟨n, rfl⟩ : ∃ k, n = k + 2 := ⟨n - 2, by omega⟩
      exact hrun n
  | true =>
      obtain ⟨least, hleast⟩ := hresult rfl
      refine ⟨least + 2, fun n hn => ?_⟩
      obtain ⟨n, rfl⟩ : ∃ k, n = k + 2 := ⟨n - 2, by omega⟩
      exact (hrun n).trans (hleast (n + 1) (by omega))

/-- The list of the results for the items of a list. -/
def overItems (r : Value → Run Value) : Value → Run Entity
  | .list items => (items.mapM r).map fun values => .data (.list values)
  | _ => .error .raised

/-- The dict of the results for the values of a dict. -/
def overEntries (r : Value → Run Value) : Value → Run Entity
  | .dict entries =>
    (entries.mapM fun entry => (r entry.2).map fun w => (entry.1, w)).map fun results =>
      .data (.dict results)
  | _ => .error .raised

/-- The function is applied to each item of a list, and to nothing else. -/
theorem calls_fromList (hP : P.Supports f) {g : Entity} {v : Value} {r : Value → Run Value}
    (h : ∀ items, v = .list items → ∀ w ∈ items, Calls P g [.data w] ((r w).map .data)) :
    Calls P (.function (supportDefinition f .fromList)) [g, .data v] (overItems r v) := by
  have hcall {passed : Bool} (hpassed : Builtin.tests? .list v = some passed) {s : Run Entity}
      (hs : passed → Evals P (frameOfFX g v) (.listOf (.call (.name "f") [.name "y"]) "y" (.name "x"))
        s) :
      Calls P (.function (supportDefinition f .fromList)) [g, .data v]
        (if passed then s else .error .raised) :=
    calls_ofTypeWith hP rfl rfl hpassed hs
  cases v with
  | list items =>
      refine hcall rfl fun _ => ?_
      have hitems := settles_mapM fun w hw => h items rfl w hw
      rw [mapM_data] at hitems
      refine hitems.imp fun n hn => ?_
      show ((items.map Entity.data).mapM fun e => P.callWithin n g [e]) >>= _ = _
      rw [List.mapM_map, Function.comp_def, hn]
      cases items.mapM r with
      | error e => rfl
      | ok values => exact congrArg Except.ok (ofItems_data values)
  | none | bool | int | float | str | dict | dateTime | enumCase | object =>
      exact hcall (s := .error .raised) rfl (fun h => by cases h)

/-- A call makes the value of an entry. -/
def entryCall (P : Program) (g : Entity) (n : Nat) (entry : String × Value) :
    Run (String × Value) := do
  match ← P.callWithin n g [.data entry.2] with
  | .data w => return (entry.1, w)
  | _ => .error .unknown

/-- The function is applied to each value of a dict, and to nothing else. -/
theorem calls_fromDict (hP : P.Supports f) {g : Entity} {v : Value} {r : Value → Run Value}
    (h : ∀ entries, v = .dict entries →
      ∀ entry ∈ entries, Calls P g [.data entry.2] ((r entry.2).map .data)) :
    Calls P (.function (supportDefinition f .fromDict)) [g, .data v] (overEntries r v) := by
  have hcall {passed : Bool} (hpassed : Builtin.tests? .dict v = some passed) {s : Run Entity}
      (hs : passed → Evals P (frameOfFX g v)
        (.dictOf "k" "v" (.call (.name "f") [.name "v"]) (.call (.member (.name "x") "items") [])) s) :
      Calls P (.function (supportDefinition f .fromDict)) [g, .data v]
        (if passed then s else .error .raised) :=
    calls_ofTypeWith hP rfl rfl hpassed hs
  cases v with
  | dict entries =>
      refine hcall rfl fun _ => ?_
      -- The items are called one by one, and each call settles on its own.
      have hentries : Settles (fun n => entries.mapM (entryCall P g n))
          (entries.mapM fun entry => (r entry.2).map fun w => (entry.1, w)) := by
        refine settles_mapM fun entry hentry => (h entries rfl entry hentry).imp fun n hn => ?_
        show (P.callWithin n g [.data entry.2] >>= _) = _
        rw [hn]
        cases r entry.2 <;> rfl
      obtain ⟨least, hleast⟩ := hentries
      refine ⟨least + 1, fun n hn => ?_⟩
      obtain ⟨n, rfl⟩ : ∃ k, n = k + 1 := ⟨n - 1, by omega⟩
      show (entries.mapM (entryCall P g (n + 1)) >>= fun results => pure (Entity.data (.dict results))) = _
      have hstep : entries.mapM _ = _ := hleast (n + 1) (by omega)
      rw [hstep]
      cases entries.mapM fun entry => (r entry.2).map fun w => (entry.1, w) <;> rfl
  | none | bool | int | float | str | list | dateTime | enumCase | object =>
      exact hcall (s := .error .raised) rfl (fun h => by cases h)

/-! ## Alternatives -/

/-- The first of some results that is not raised. -/
def firstResult : List (Run Entity) → Run Entity
  | [] => .error .raised
  | r :: rest =>
    match r with
    | .error .raised => firstResult rest
    | result => result

/-- The first result settles if the results do. -/
theorem settles_firstResult {run : Nat → Entity → Run Entity} {gs : List Entity}
    {rs : List (Run Entity)} (h : List.Forall₂ (fun g r => Settles (fun n => run n g) r) gs rs) :
    Settles (fun n => firstResult (gs.map (run n))) (firstResult rs) := by
  induction h with
  | nil => exact settles_const _
  | cons hhead _ ih =>
      refine hhead.imp₂ ih fun n hn hrest => ?_
      rw [List.map_cons, firstResult.eq_def, hn]
      dsimp only
      rw [hrest]
      rfl

/-- One round of the loop of `from_union` tries a function. -/
theorem execAll_round {ρ : Frame} {v : Value} (hx : ρ.locals.lookup "x" = some (.data v))
    (g : Entity) :
    execAll P call [.tryReturn (.call (.name "f") [.name "x"]) [.pass]] (ρ.bind "f" g) =
      match call g [.data v] with
      | .ok e => .ok (ρ.bind "f" g, some e)
      | .error .raised => .ok (ρ.bind "f" g, none)
      | .error .unknown => .error .unknown := by
  have hcall : eval P call (.call (.name "f") [.name "x"]) (ρ.bind "f" g) = call g [.data v] := by
    have hlookup : P.lookup (ρ.bind "f" g) "x" = .ok (.data v) := by
      rw [Program.lookup, lookup_bind rfl, hx]
    show ((P.lookup (ρ.bind "f" g) "x" >>= _) >>= call g) = _
    rw [hlookup]
    rfl
  show ((match eval P call (.call (.name "f") [.name "x"]) (ρ.bind "f" g) with
    | .ok e => Except.ok (ρ.bind "f" g, some e)
    | .error .raised => execAll P call [.pass] (ρ.bind "f" g)
    | .error .unknown => Except.error .unknown) >>= _) = _
  rw [hcall]
  cases call g [.data v] with
  | ok e => rfl
  | error s => cases s <;> rfl

/-- The loop of `from_union` gives the result of the first function that does not raise, and what is
behind it raises. -/
theorem run_alternatives (hP : P.Supports f) {ρ : Frame} {v : Value} (gs : List Entity)
    (hx : ρ.locals.lookup "x" = some (.data v)) (hfalse : ρ.Frees "False") :
    (do
      match ← runEach (fun e ρ => execAll P call
        [.tryReturn (.call (.name "f") [.name "x"]) [.pass]] (ρ.bind "f" e)) gs ρ with
      | (ρ, some result) => return (ρ, some result)
      | (ρ, none) => execAll P call [.assert (.name "False")] ρ) >>= (fun behind =>
        (pure (behind.2.getD (.data .none)) : Run Entity)) =
      firstResult (gs.map fun g => call g [.data v]) := by
  induction gs generalizing ρ with
  | nil =>
      show ((((P.lookup ρ "False" >>= fun e => e.truth >>= _) >>= _) : Run (Frame × _)) >>= _) = _
      rw [lookup_of_free hfalse (hP.constant rfl)]
      rfl
  | cons g gs ih =>
      -- Binding the next function leaves the argument as it is.
      have hnext : (ρ.bind "f" g).locals.lookup "x" = some (.data v) :=
        (lookup_bind rfl g).trans hx
      unfold runEach
      rw [execAll_round hx, List.map_cons]
      cases call g [.data v] with
      | ok e => rfl
      | error s =>
          cases s with
          | raised => exact ih hnext (hfalse.bind rfl g)
          | unknown => rfl

/-- The functions are tried in order, and it raises if all of them do. -/
theorem calls_fromUnion (hP : P.Supports f) {fs : Entity} {gs : List Entity} {v : Value}
    {rs : List (Run Entity)} (hgs : fs.iterate = .ok gs)
    (h : List.Forall₂ (fun g r => Calls P g [.data v] r) gs rs) :
    Calls P (.function (supportDefinition f .fromUnion)) [fs, .data v] (firstResult rs) := by
  have hrun (call : Entity → List Entity → Run Entity) :
      (supportDefinition f .fromUnion).run P call [fs, .data v] =
        firstResult (gs.map fun g => call g [.data v]) := by
    rw [← run_alternatives hP (ρ := ⟨[("fs", fs), ("x", .data v)], ["f"]⟩) gs rfl ⟨rfl, rfl⟩]
    show (((fs.iterate >>= _) >>= _) >>= _) = _
    rw [hgs]
    rfl
  exact Calls.of_step ((settles_firstResult h).imp fun n hn => (hrun _).trans hn)

/-- The items of a list display are those that it was made of. -/
theorem iterate_ofItems (gs : List Entity) : (Entity.ofItems gs).iterate = .ok gs := by
  have hdata (es : List Entity) {vs : List Value} (h : es.mapM Entity.value? = some vs) :
      vs.map Entity.data = es := by
    induction es generalizing vs with
    | nil =>
        cases h
        rfl
    | cons e es ih =>
        rw [List.mapM_cons] at h
        obtain ⟨v, hv, h⟩ := Option.bind_eq_some_iff.1 h
        obtain ⟨ws, hws, h⟩ := Option.bind_eq_some_iff.1 h
        cases h
        cases e <;> cases hv
        rw [List.map_cons, ih hws]
  unfold Entity.ofItems
  split
  next values h =>
    show Except.ok (values.map Entity.data) = _
    rw [hdata gs h]
  next => rfl

end TypedJson.Script
