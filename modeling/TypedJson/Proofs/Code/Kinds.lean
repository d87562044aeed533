import TypedJson.Proofs.Code.Classes

/-!
# Generated conversions by kind

What is generated for a type by the rules of its kind does what converting by these rules does, in
either direction, if this holds of elements and members (`does_convertByKind`). Records are left
out: their classes convert values of other types in turn.
-/

namespace TypedJson.Code

open Naming Script

namespace Context

variable {ctx : Context} {P : Program} {depth : Nat} {c c' : Chain} {t : TypeRef} {d : Direction}
  {f : TypeRef → Value → Outcome Value}

/-- A text that is parsed as a timestamp or not ends a run so. -/
theorem answer_parseTimestamp (s : String) :
    answer (parseTimestamp s) = orRaise ((Timestamp.parse? s).map .dateTime) := by
  unfold parseTimestamp
  cases Timestamp.parse? s <;> rfl

variable (hP : ctx.Emits P) (hnames : ctx.names.Apart)

include hP hnames

/-! ## Enumerations -/

/-- In a clear frame, the name of an enumeration stands for its class. -/
theorem evals_enumClass {e : Enumeration} {name : String}
    (hk : ctx.graph.kind? t = some (.enumeration e))
    (hname : ctx.names.types.lookup t = some name) {ρ : Frame} (hρ : ρ.Clear P) :
    Evals P ρ (.name name) (.ok (.enumClass ⟨name, e⟩)) := by
  have hevals := evals_name (P := P) (ρ := ρ) name
  rwa [hρ.lookup (hP.global?_enumeration hnames hk hname)] at hevals

/-- The class of an enumeration is called as the enumeration is decoded. -/
theorem runs_enumeration {e : Enumeration} {name : String} {F : Value → Outcome Value}
    (hk : ctx.graph.kind? t = some (.enumeration e))
    (hname : ctx.names.types.lookup t = some name) (hF : ∀ v, answer (F v) = answer (e.decode v)) :
    (Link.call (.name name) []).Runs P depth F := by
  intro ρ hρ
  have hglobal := hP.global?_enumeration hnames hk hname
  refine ⟨.enumClass ⟨name, e⟩, [], ?_, evalsItems_nil, fun v hv => ?_⟩
  · have hevals := evals_name (P := P) (ρ := ρ) name
    rwa [hρ.lookup hglobal] at hevals
  · rw [hF]
    refine Calls.of_step ⟨0, fun n _ => ?_⟩
    show P.callStep (P.callWithin n) (.enumClass ⟨name, e⟩) [.data v] = _
    rw [Program.callStep]
    rcases (e.settled_decode v).cases with ⟨w, hw⟩ | ⟨error, herror⟩
    · rw [hw]
      rfl
    · rw [herror]
      rfl

/-- The value of a case of the class is what the case is encoded to. -/
theorem does_toEnum {e : Enumeration} {name : String} {step : Function}
    (hk : ctx.graph.kind? t = some (.enumeration e))
    (hname : ctx.names.types.lookup t = some name)
    (hstep : (Gen.converterWith .toEnum [name]).Yields step) :
    ctx.Does P depth c (c.andThen step) e.encode := by
  have htame : Tame depth e.encode :=
    tame_of_flat fun v => ⟨e.settled_encode v, fun w hw => e.depth_encode hw⟩
  refine does_converterWith hP hnames hstep (.name (hnames.type hname).1) rfl htame fun ρ hρ => ?_
  refine ⟨.enumClass ⟨name, e⟩, evals_enumClass hP hnames hk hname hρ, fun v _ => ?_⟩
  have hcalls {b : Bool} (hb : isInstance? v (.enumClass ⟨name, e⟩) = some b) :=
    calls_toEnum (hP.supports hnames) hb
  cases v with
  | enumCase label case =>
      have hlabel := hcalls (b := label = e.name) rfl
      rw [Enumeration.encode]
      by_cases heq : label = e.name
      · rw [if_pos heq]
        rwa [if_pos (decide_eq_true heq)] at hlabel
      · rw [if_neg heq]
        rwa [if_neg (by simpa using heq)] at hlabel
  | none | bool | int | float | str | list | dict | dateTime | object => exact hcalls rfl

/-! ## Timestamps -/

/-- Objects have no method `isoformat`, whatever attributes they have. -/
theorem member_isoformat (label : String) (fields : List (String × Value)) :
    P.member (.data (.object label fields)) "isoformat" = .error .raised ∨
      ∃ v, P.member (.data (.object label fields)) "isoformat" = .ok (.data v) := by
  rw [Program.member]
  cases hfind : P.records.find? (·.label == label) with
  | none => exact .inl rfl
  | some c =>
      obtain ⟨_, _, _, _, _, -, hclass⟩ := hP.isClass hnames (List.mem_of_find?_eq_some hfind)
      have hnone := hclass.others "isoformat" (by decide) (by decide)
      cases hkey : c.fields.lookup "isoformat" with
      | none =>
          dsimp only
          rw [hkey, hnone]
          exact .inl rfl
      | some key =>
          dsimp only
          rw [hkey]
          dsimp only
          cases Ordered.find? key fields with
          | none => exact .inl rfl
          | some v => exact .inr ⟨v, rfl⟩

/-- The method `isoformat` writes timestamps, and there is none on anything else. -/
theorem runs_isoformat : (Link.method "isoformat").Runs P depth writeTimestamp := by
  intro v _
  have hcalled {g : Entity} {r : Run Entity} (h : ∀ n, P.callWithin (n + 1) g [] = r) :
      Settles (fun n => P.callWithin n g []) r := by
    refine ⟨1, fun n hn => ?_⟩
    obtain ⟨n, rfl⟩ : ∃ k, n = k + 1 := ⟨n - 1, by omega⟩
    exact h n
  cases v with
  | dateTime time => exact hcalled (g := .method (.dateTime time) .isoformat) fun _ => rfl
  | object label fields =>
      rcases member_isoformat hP hnames label fields with hmember | ⟨w, hmember⟩
      · rw [hmember]
        exact settles_const _
      · rw [hmember]
        exact hcalled (g := .data w) fun _ => rfl
  | none | bool | int | float | str | list | dict | enumCase => exact settles_const _

/-! ## By kind -/

/-- The generated conversion by kind converts by kind, if elements and members are converted. -/
theorem does_convertByKind {element : TypeRef → Gen String}
    (helement : ∀ m text, (element m).Yields text →
      Tame depth (f m) ∧ ctx.Writes P depth text (f m))
    (hrecord : ∀ r, ctx.graph.kind? t ≠ some (.record r))
    (h : (ctx.convertByKind element d c t).Yields c') :
    ctx.Does P depth c c' fun v => ctx.graph.convertByKind d f v t := by
  obtain ⟨k, hk, h⟩ := h.bind
  have hk := kind_of_yields hk
  have hflat (hrefs : TypeGraph.kindRefs k = []) :
      Tame depth fun v => ctx.graph.convertByKind d f v t :=
    TypeGraph.tame_convertByKind_flat hk hrefs d
  -- Kinds without parts have one support function; the others are given those of their parts.
  cases k with
  | any =>
      rw [h.pure]
      refine (does_refl c).congr fun v hv => ?_
      cases d <;> simp only [TypeGraph.convertByKind, TypeGraph.decodeByKind,
        TypeGraph.encodeByKind, TypeGraph.kindOf_eq hk] <;> rfl
  | null =>
      refine does_returned hP hnames h (hflat rfl) fun v _ => ?_
      have hcalls := calls_fromNone (P := P) (f := ctx.features) v
      cases d <;> simp only [TypeGraph.convertByKind, TypeGraph.decodeByKind,
        TypeGraph.encodeByKind, TypeGraph.kindOf_eq hk] <;> cases v <;> exact hcalls
  | bool =>
      refine does_returned hP hnames h (hflat rfl) fun v _ => ?_
      have hcalls := calls_fromBool (hP.supports hnames) v
      cases d <;> simp only [TypeGraph.convertByKind, TypeGraph.decodeByKind,
        TypeGraph.encodeByKind, TypeGraph.kindOf_eq hk] <;> cases v <;> exact hcalls
  | integer =>
      refine does_returned hP hnames h (hflat rfl) fun v _ => ?_
      have hcalls := calls_fromInt (hP.supports hnames) v
      cases d <;> simp only [TypeGraph.convertByKind, TypeGraph.decodeByKind,
        TypeGraph.encodeByKind, TypeGraph.kindOf_eq hk] <;> cases v <;> exact hcalls
  | double =>
      cases d with
      | decode =>
          refine does_returned hP hnames h (hflat rfl) fun v _ => ?_
          have hcalls := calls_fromFloat (hP.supports hnames) v
          simp only [TypeGraph.convertByKind, TypeGraph.decodeByKind, TypeGraph.kindOf_eq hk]
          cases v <;> exact hcalls
      | encode =>
          refine does_returned hP hnames h (hflat rfl) fun v _ => ?_
          have hcalls := calls_toFloat (hP.supports hnames) v
          simp only [TypeGraph.convertByKind, TypeGraph.encodeByKind, TypeGraph.kindOf_eq hk]
          cases v <;> exact hcalls
  | text =>
      refine does_returned hP hnames h (hflat rfl) fun v _ => ?_
      have hcalls := calls_fromStr (hP.supports hnames) v
      cases d <;> simp only [TypeGraph.convertByKind, TypeGraph.decodeByKind,
        TypeGraph.encodeByKind, TypeGraph.kindOf_eq hk] <;> cases v <;> exact hcalls
  | array items =>
      obtain ⟨text, htext, h⟩ := Gen.Yields.bind h
      obtain ⟨step, hstep, h⟩ := Gen.Yields.bind h
      rw [h.pure]
      obtain ⟨htame, hwrites⟩ := helement items text htext
      refine (does_fromList hP hnames hstep htame hwrites).congr fun v hv => ?_
      cases d <;> simp only [TypeGraph.convertByKind, TypeGraph.decodeByKind,
        TypeGraph.encodeByKind, TypeGraph.kindOf_eq hk] <;> rfl
  | map values =>
      obtain ⟨text, htext, h⟩ := Gen.Yields.bind h
      obtain ⟨step, hstep, h⟩ := Gen.Yields.bind h
      rw [h.pure]
      obtain ⟨htame, hwrites⟩ := helement values text htext
      refine (does_fromDict hP hnames hstep htame hwrites).congr fun v hv => ?_
      cases d <;> simp only [TypeGraph.convertByKind, TypeGraph.decodeByKind,
        TypeGraph.encodeByKind, TypeGraph.kindOf_eq hk] <;> rfl
  | record r => exact absurd hk (hrecord r)
  | enumeration e =>
      obtain ⟨name, hname, h⟩ := Gen.Yields.bind h
      have hname := typeName_of_yields hname
      cases d with
      | decode =>
          rw [h.pure]
          exact does_named rfl (.name (hnames.type hname).1) rfl (hflat rfl)
            (runs_enumeration hP hnames hk hname fun v => by
              rw [TypeGraph.convertByKind, TypeGraph.decodeByKind, TypeGraph.kindOf_eq hk]
              rfl)
      | encode =>
          obtain ⟨step, hstep, h⟩ := Gen.Yields.bind h
          rw [h.pure]
          refine (does_toEnum hP hnames hk hname hstep).congr fun v _ => ?_
          rw [TypeGraph.convertByKind, TypeGraph.encodeByKind, TypeGraph.kindOf_eq hk]
          rfl
  | union members =>
      obtain ⟨texts, htexts, h⟩ := Gen.Yields.bind h
      obtain ⟨step, hstep, h⟩ := Gen.Yields.bind h
      rw [h.pure]
      have hmembers := htexts.mapM
      have htame : ∀ m ∈ members, Tame depth (f m) := by
        intro m hm
        obtain ⟨text, -, htext⟩ := exists_of_forall₂ hmembers.flip hm
        exact (helement m text htext).1
      refine (does_fromUnion hP hnames 0 hstep htame
        (hmembers.flip.imp fun text m htext => (helement m text htext).2)).congr fun v hv => ?_
      cases d <;> simp only [TypeGraph.convertByKind, TypeGraph.decodeByKind,
        TypeGraph.encodeByKind, TypeGraph.kindOf_eq hk] <;> rfl
  | formatted format =>
      cases format with
      | dateTime =>
          cases d with
          | decode =>
              refine does_returned hP hnames h (hflat rfl) fun v _ => ?_
              have hcalls := calls_fromDatetime (hP.supports hnames) v
              rw [TypeGraph.convertByKind, TypeGraph.decodeByKind, TypeGraph.kindOf_eq hk]
              cases v with
              | str s =>
                  show Calls P _ _ (answer (parseTimestamp s))
                  rw [answer_parseTimestamp]
                  exact hcalls
              | none | bool | int | float | list | dict | dateTime | enumCase | object =>
                  exact hcalls
          | encode =>
              rw [h.pure]
              refine (does_link (isLink_method "isoformat") (isName_of_chars rfl rfl rfl rfl)
                (tame_of_flat fun v => ⟨settled_writeTimestamp v, fun w hw =>
                  depth_writeTimestamp hw⟩) (runs_isoformat hP hnames)).congr fun v _ => ?_
              rw [TypeGraph.convertByKind, TypeGraph.encodeByKind, TypeGraph.kindOf_eq hk]
              rfl
      | integerText => exact absurd h Gen.not_yields_throw

end Context

end TypedJson.Code
