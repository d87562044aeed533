import TypedJson.Proofs.Code.Kinds
import TypedJson.Proofs.Value.Recursion

/-!
# Generated decoding

The generated decoding of a type does what decoding the type does: by the rules of its kind, or by
its transformer, step by step. Both follow the same types in the same order, so the induction is on
how many of them the generator has entered. What the classes of records decode is taken for granted
here, up to a depth.
-/

namespace TypedJson.Code

open Naming Script

namespace Context

variable {ctx : Context} {P : Program} {depth : Nat} {c c' : Chain} {t : TypeRef}
  {f : TypeRef → Value → Outcome Value}

/-- The function that decodes the objects of a record. -/
def fromDictOf (name : String) : Expr :=
  .member (.name name) "from_dict"

/-- Calling the decoding functions of classes decodes records, up to a depth, if the conversion is
given enough room. -/
def RecordsDecode (ctx : Context) (P : Program) (depth : Nat) : Prop :=
  ∀ t r name, ctx.graph.kind? t = some (.record r) → ctx.names.types.lookup t = some name →
    ∀ room, 2 * ctx.graph.size * depth ≤ room →
      let F v := ctx.graph.decodeByKind (ctx.graph.convertWithin room .decode) v t
      Tame depth F ∧ (Link.call (fromDictOf name) []).Runs P depth F

/-! ## By kind -/

variable (hP : ctx.Emits P) (hnames : ctx.names.Apart)

include hP hnames

/-- The generated decoding by kind decodes by kind, if elements and members are decoded, and
records. -/
theorem does_decodeByKind {element : TypeRef → Gen String}
    (helement : ∀ m text, (element m).Yields text →
      Tame depth (f m) ∧ ctx.Writes P depth text (f m))
    (hrecord : ∀ r name, ctx.graph.kind? t = some (.record r) →
      ctx.names.types.lookup t = some name →
      Tame depth (fun v => ctx.graph.decodeByKind f v t) ∧
        (Link.call (fromDictOf name) []).Runs P depth fun v => ctx.graph.decodeByKind f v t)
    (h : (ctx.convertByKind element .decode c t).Yields c') :
    ctx.Does P depth c c' fun v => ctx.graph.decodeByKind f v t := by
  by_cases hkind : ∃ r, ctx.graph.kind? t = some (.record r)
  · obtain ⟨r, hk⟩ := hkind
    obtain ⟨name, hname, h⟩ := (yields_of_kind h hk).bind
    have hname := typeName_of_yields hname
    obtain ⟨htame, hruns⟩ := hrecord r name hk hname
    rw [h.pure]
    refine does_named ?_ (.member (.name (hnames.type hname).1) rfl
      (isName_of_chars rfl rfl rfl rfl)) rfl htame hruns
    show name.toList ++ '.' :: "from_dict".toList = _
    rw [String.toList_append]
    rfl
  · exact does_convertByKind hP hnames helement (fun r hk => hkind ⟨r, hk⟩) h

/-! ## By transformer -/

/-- The step that parses a text into a type does so. -/
theorem does_parseStep {f : Function} (h : (ctx.parseStep t).Yields f) :
    ctx.Does P depth c (c.andThen f) fun v => ctx.graph.parseInto v t := by
  obtain ⟨k, hk, h⟩ := Gen.Yields.bind h
  have hk := kind_of_yields hk
  have htame : Tame depth fun v => ctx.graph.parseInto v t := TypeGraph.tame_parseInto hk
  cases k with
  | integer =>
      rw [h.pure]
      refine does_named (e := .name "int") rfl (.name (isName_of_chars rfl rfl rfl rfl)) rfl htame fun ρ hρ => ?_
      have hint : P.global? "int" = some (.builtin .int) := (hP.supports hnames).builtin rfl
      refine ⟨.builtin .int, [], ?_, evalsItems_nil, fun v _ => Calls.of_step ⟨0, fun n _ => ?_⟩⟩
      · have hevals := evals_name (P := P) (ρ := ρ) "int"
        rwa [hρ.lookup hint] at hevals
      -- The builtin parses texts, and raises on all that is no text.
      · show P.callBuiltin .int [.data v] = _
        cases v with
        | str s =>
            rw [TypeGraph.parseInto, TypeGraph.kindOf_eq hk]
            show orRaise ((Integer.parse? s).map .int) = answer (parseInteger s)
            unfold parseInteger
            cases Integer.parse? s <;> rfl
        | none | bool | int | float | list | dict | dateTime | enumCase | object => rfl
  | enumeration e =>
      obtain ⟨name, hname, h⟩ := Gen.Yields.bind h
      have hname := typeName_of_yields hname
      rw [h.pure]
      refine does_named rfl (.name (hnames.type hname).1) rfl htame
        (runs_enumeration hP hnames hk hname fun v => ?_)
      cases v with
      | str s =>
          rw [TypeGraph.parseInto, TypeGraph.kindOf_eq hk]
          rfl
      | none | bool | int | float | list | dict | dateTime | enumCase | object => rfl
  | formatted format =>
      cases format with
      | dateTime =>
          refine does_converter hP hnames h htame fun v _ => ?_
          have hcalls := calls_fromDatetime (hP.supports hnames) v
          cases v with
          | str s =>
              rw [TypeGraph.parseInto, TypeGraph.kindOf_eq hk]
              show Calls P _ _ (answer (parseTimestamp s))
              rw [answer_parseTimestamp]
              exact hcalls
          | none | bool | int | float | list | dict | dateTime | enumCase | object => exact hcalls
      | integerText => exact absurd h Gen.not_yields_throw
  | any | null | bool | double | text | array | map | record | union =>
      exact absurd h Gen.not_yields_throw

/-- The expression stands for a type that tells the values that pass a test. -/
def Tells (P : Program) (e : Expr) (test : Value → Option Bool) : Prop :=
  ∀ ρ : Frame, ρ.Clear P → ∃ type, Evals P ρ e (.ok type) ∧
    ∀ v, ∃ passed, isInstance? v type = some passed ∧ test v = some passed

/-- The text writes an expression that tells the values which pass the test. -/
def WritesTest (ctx : Context) (P : Program) (text : String) (test : Value → Option Bool) : Prop :=
  ∃ e : Expr, e.Printable ∧ e.chars ctx.features.markedText = text.toList ∧ Tells P e test

/-- The name of a builtin type tells its values. -/
theorem writesTest_builtin {name : String} {b : Builtin} {test : Value → Option Bool}
    (hname : IsName name) (hb : Builtin.ofName? name = some b)
    (h : ∀ v, ∃ passed, b.tests? v = some passed ∧ test v = some passed) :
    ctx.WritesTest P name test :=
  ⟨.name name, .name hname, rfl, fun _ hρ => ⟨.builtin b, evals_builtin hP hnames hb hρ, h⟩⟩

/-- A pair of builtin types tells the values of both. -/
theorem tells_pair {name other : String} {b b' : Builtin} {test : Value → Option Bool}
    (hb : Builtin.ofName? name = some b) (hb' : Builtin.ofName? other = some b')
    (h : ∀ v, ∃ passed, isInstance? v (.tuple [.builtin b, .builtin b']) = some passed ∧
      test v = some passed) :
    Tells P (.tuple [.name name, .name other]) test := by
  intro ρ hρ
  refine ⟨.tuple [.builtin b, .builtin b'], ?_, h⟩
  have hitems : EvalsItems P ρ [.name name, .name other] (.ok [.builtin b, .builtin b']) :=
    EvalsItems.cons (evals_builtin hP hnames hb hρ)
      (EvalsItems.cons (evals_builtin hP hnames hb' hρ) evalsItems_nil)
  refine hitems.imp fun n hn => ?_
  show (evalItems P (P.callWithin n) _ ρ).map Entity.tuple = _
  rw [hn]
  rfl

omit hP hnames in
/-- A pair of names is printed with both of them. -/
theorem printable_pair {name other : String} (hname : IsName name) (hother : IsName other) :
    Expr.Printable (.tuple [.name name, .name other]) := by
  refine .tuple ?_
  rintro _ (_ | ⟨_, _ | ⟨_, ⟨⟩⟩⟩)
  · exact .name hname
  · exact .name hother

/-- The type of `None` tells it. -/
theorem tells_noneType {test : Value → Option Bool} (h : ∀ v, test v = some v.isNone) :
    Tells P (.call (.name "type") [.name "None"]) test := by
  intro ρ hρ
  refine ⟨.builtin .noneType, ?_, fun v => ⟨v.isNone, rfl, h v⟩⟩
  have hnone : Evals P ρ (.name "None") (.ok (.data .none)) := by
    have hevals := evals_name (P := P) (ρ := ρ) "None"
    rwa [hρ.lookup ((hP.supports hnames).constant rfl)] at hevals
  refine (evals_builtin hP hnames rfl hρ).call (r := fun _ => .ok (.builtin .noneType))
    (EvalsItems.cons hnone evalsItems_nil) fun xs hxs => ?_
  cases hxs
  exact Calls.of_step (settles_const _)

/-- The type object of a type tells the values of its JSON shape. -/
theorem exists_typeObject {text : String} (h : (ctx.typeObject .decode t).Yields text) :
    ∃ k, ctx.graph.kind? t = some k ∧ ctx.WritesTest P text (TypeGraph.matchesKind? .decode k) := by
  obtain ⟨k, hk, h⟩ := Gen.Yields.bind h
  refine ⟨k, kind_of_yields hk, ?_⟩
  -- Texts, cases, timestamps and integers in texts are all told by the type object of texts.
  have htext (htells : ∀ v : Value, TypeGraph.matchesKind? .decode k v = Builtin.tests? .str v)
      (hyields : text = ctx.textObject) :
      ctx.WritesTest P text (TypeGraph.matchesKind? .decode k) := by
    rw [hyields]
    unfold textObject
    split
    · refine ⟨.tuple [.name "str", .name "unicode"],
        printable_pair (isName_of_chars rfl rfl rfl rfl) (isName_of_chars rfl rfl rfl rfl), rfl,
        tells_pair hP hnames rfl rfl fun v => ?_⟩
      rw [htells]
      cases v <;> exact ⟨_, rfl, rfl⟩
    · refine writesTest_builtin hP hnames (isName_of_chars rfl rfl rfl rfl) rfl fun v => ?_
      rw [htells]
      cases v <;> exact ⟨_, rfl, rfl⟩
  cases k with
  | null =>
      rw [h.pure]
      refine ⟨.call (.name "type") [.name "None"],
        .call (.name (isName_of_chars rfl rfl rfl rfl)) rfl ?_, rfl,
        tells_noneType hP hnames fun v => ?_⟩
      · rintro _ (_ | ⟨_, ⟨⟩⟩)
        exact .name (isName_of_chars rfl rfl rfl rfl)
      · cases v <;> rfl
  | integer =>
      rw [h.pure]
      unfold integerObject
      split
      · refine ⟨.tuple [.name "int", .name "long"],
          printable_pair (isName_of_chars rfl rfl rfl rfl) (isName_of_chars rfl rfl rfl rfl), rfl,
          tells_pair hP hnames rfl rfl fun v => ?_⟩
        cases v <;> exact ⟨_, rfl, rfl⟩
      · refine writesTest_builtin hP hnames (isName_of_chars rfl rfl rfl rfl) rfl fun v => ?_
        cases v <;> exact ⟨_, rfl, rfl⟩
  | bool | double | array | map | record =>
      rw [h.pure]
      refine writesTest_builtin hP hnames (isName_of_chars rfl rfl rfl rfl) rfl fun v => ?_
      cases v <;> exact ⟨_, rfl, rfl⟩
  | text | enumeration => exact htext (fun v => by cases v <;> rfl) h.pure
  | formatted format => exact htext (fun v => by cases format <;> cases v <;> rfl) h.pure
  | any | union => exact absurd h Gen.not_yields_throw

end Context

end TypedJson.Code
