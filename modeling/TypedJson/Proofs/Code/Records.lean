import TypedJson.Proofs.Code.Classes
import TypedJson.Proofs.Code.Transforming
import TypedJson.Proofs.Value.Projection

/-!
# Classes decode records

The decoding function of a class does what decoding its record does (`recordsDecode`). The induction
is on the depth of values: the function converts entries of its argument, and whatever records are
decoded there are less deep. The class may hold its fields in another order than the record its
properties, which makes no difference to the object.
-/

namespace TypedJson.Code

open Naming Script

namespace Context

variable {ctx : Context} {P : Program} {depth : Nat} {t : TypeRef}

/-- The expression that a decoding is written as decodes what it starts from. -/
theorem converts_decodeValue (hP : ctx.Emits P) (hnames : ctx.names.Apart)
    (hrecords : ctx.RecordsDecode P depth) (honly : DecodesOnly ctx.graph) {s text : String}
    {start e : Expr} (hstart : start.Printable) (hoperand : start.isOperand)
    (hchars : start.chars ctx.features.markedText = s.toList) (he : e.Printable)
    (htext : e.chars ctx.features.markedText = text.toList)
    (h : (ctx.convertValue .decode s t).Yields text) {room : Nat}
    (hroom : 2 * ctx.graph.size * (depth + 1) ≤ room) :
    Converts P depth start e (ctx.graph.convertWithin room .decode t) := by
  obtain ⟨chain, hchain, h⟩ := h.bind
  have hdoes : ctx.Does P depth (.ofText s) chain (ctx.graph.convertWithin room .decode t) :=
    does_convertWithin hP hnames hrecords honly hchain (by rwa [Nat.mul_succ] at hroom)
  exact hdoes.converts hstart hoperand hchars h.lift he htext

/-! ## Decoding -/

variable {r : Record} {c : RecordClass} {fields : List Field} {assignments : List (String × Expr)}
  {rows : List Row}

/-- The class is called with the properties of the fields in order. -/
theorem IsClass.keys (h : ctx.IsClass r c fields assignments rows) :
    c.fields.map Prod.snd = fields.map Field.key := by
  rw [h.parameters, List.map_map]
  rfl

/-- The call of a class with the values of its fields makes an object of them. -/
theorem IsClass.construct (h : ctx.IsClass r c fields assignments rows) {values : List Value}
    (hlength : fields.length = values.length) :
    c.construct (values.map .data) =
      .ok (.data (.object r.name (Ordered.ofEntries ((fields.map Field.key).zip values)))) := by
  have hfields : c.fields.length = fields.length := by
    rw [h.parameters, List.length_map]
  rw [RecordClass.construct, List.length_map, if_neg (by omega), mapM_value?_data, h.keys, h.label]

/-- A class that is called with all converted fields makes an object of their table. -/
theorem IsClass.construct_converted (h : ctx.IsClass r c fields assignments rows)
    (f : TypeRef → Value → Outcome Value) (entries : List (String × Value)) :
    ((fields.map fun field => asRun (f field.type (valueOf field.key entries))).mapM id >>=
        fun values => c.construct (values.map .data)) =
      answer ((convertTable f (fields.map fun field => (field.key, field.type)) entries).map
        (.object r.name)) := by
  have hresults : (fields.map fun field => asRun (f field.type (valueOf field.key entries))).mapM id =
      asRun (convertFields f (fields.map fun field => (field.key, field.type)) entries) := by
    rw [convertFields, asRun_mapM, List.mapM_map, List.mapM_map]
    rfl
  rw [hresults, convertTable_eq]
  cases hvalues : convertFields f (fields.map fun field => (field.key, field.type)) entries with
  | error e => rfl
  | ok values =>
      have hlength : fields.length = values.length := by
        rw [← (mapM_eq_ok.1 hvalues).length_eq, List.length_map]
      show c.construct (values.map .data) = _
      rw [h.construct hlength, List.map_map]
      rfl

/-- The decoding function of a class calls the class with the converted entries of a dict, and raises
on anything else. -/
theorem IsClass.calls_fromDict (hP : ctx.Emits P) (hnames : ctx.names.Apart)
    (h : ctx.IsClass r c fields assignments rows)
    (hclass : P.global? c.name = some (.recordClass c)) {v : Value} (results : List (Run Value))
    {passed : Bool} (hpassed : Builtin.tests? .dict v = some passed)
    (hresults : passed → List.Forall₂
      (fun a r => ∀ ρ, Inside P v ρ → Evals P ρ a.2 (r.map .data)) assignments results) :
    Calls P (.function (fromDictDefinition c.name assignments)) [.data v]
      (if passed then results.mapM id >>= fun ws => c.construct (ws.map .data)
        else .error .raised) := by
  have hassigned : fields.map Field.name = assignments.map Prod.fst := by
    rw [← List.forall₂_eq_eq_eq, List.forall₂_map_left_iff, List.forall₂_map_right_iff]
    exact h.assigned.imp fun f a ha => ha.name
  have hfree : ∀ a ∈ assignments, P.global? a.1 = none ∧ a.1 ≠ "obj" := by
    intro a ha
    obtain ⟨f, hf, hfa⟩ := exists_of_forall₂ h.assigned ha
    obtain ⟨-, hglobal, hlocal, htype⟩ := h.holds.names f hf
    rw [hfa.name] at hglobal hlocal htype
    refine ⟨hP.global?_eq_none hglobal htype, ?_⟩
    rintro heq
    rw [heq] at hlocal
    exact hlocal (List.contains_iff_mem.1 rfl)
  exact calls_fromDictDefinition (hP.supports hnames) hclass (global?_small hP hnames rfl rfl rfl)
    (hassigned ▸ h.holds.nodup) hfree hpassed hresults

/-- Decoding a dict makes an object of its converted entries, in whatever order of fields. -/
theorem answer_decodeByKind_dict {g : TypeGraph} (hp : g.DistinctProperties)
    (hk : g.kind? t = some (.record r)) {G : TypeRef → Value → Outcome Value}
    {entries : List (String × Value)} {keys : List (String × TypeRef)}
    (hkeys : keys.Perm (r.properties.map fun p => (p.name, p.type)))
    (hsettled : ∀ key ∈ keys, (G key.2 (valueOf key.1 entries)).Settled) :
    answer ((convertTable G keys entries).map (.object r.name)) =
      answer (g.decodeByKind G (.dict entries) t) := by
  have hnames : ((r.properties.map fun p => (p.name, p.type)).map Prod.fst).Nodup := by
    rw [List.map_map]
    exact hp t r hk
  rw [TypeGraph.decodeByKind, TypeGraph.kindOf_eq hk]
  show _ = answer ((decodeFields G r.properties entries []).map (.object r.name))
  rw [decodeFields_eq_convertTable (hp t r hk)]
  rcases convertTable_perm hkeys ((hkeys.map _).nodup_iff.2 hnames) hsettled with
    ⟨table, htable, htable'⟩ | ⟨⟨e, he⟩, e', he'⟩
  · rw [htable, htable']
  · rw [he, he']
    rfl

/-- Calling the decoding functions of classes decodes records, whatever the depth of values. -/
theorem recordsDecode (hP : ctx.Emits P) (hnames : ctx.names.Apart) (honly : DecodesOnly ctx.graph)
    (hproperties : ctx.graph.DistinctProperties) (depth : Nat) : ctx.RecordsDecode P depth := by
  induction depth using Nat.strongRecOn with
  | ind depth ih =>
      intro t r name hk hname room hroom
      obtain ⟨c, hclass, -, hemits⟩ := hP.global?_record hnames hk hname
      obtain rfl : c.name = name := Option.some.inj (hemits.name.symm.trans hname)
      obtain ⟨fields, assignments, rows, hc⟩ := hemits.isClass hnames (TypeGraph.record?_eq_some.2 hk)
      let G := ctx.graph.convertWithin room .decode
      -- The entries of a dict are less deep, so the records in them are decoded by induction.
      have hfield {lesser : Nat} (hless : lesser < depth) {f : Field} {a : String × Expr}
          (h : ctx.Assigns f a) : Converts P lesser (lookupInObj f.key) a.2 (G f.type) := by
        obtain ⟨text, htext, hchars⟩ := h.written
        have hlevel : 2 * ctx.graph.size * (lesser + 1) ≤ 2 * ctx.graph.size * depth :=
          Nat.mul_le_mul_left _ hless
        exact converts_decodeValue hP hnames (ih lesser hless) honly (printable_lookupInObj f.key) rfl
          (chars_lookupInObj _ _) h.printable hchars htext (by omega)
      have htame {lesser : Nat} (hless : lesser < depth) {f : Field} (hf : f ∈ fields) :
          Tame lesser (G f.type) := by
        obtain ⟨a, -, ha⟩ := exists_of_forall₂ hc.assigned.flip hf
        exact (hfield hless ha).1
      refine ⟨?_, fun ρ hρ => ?_⟩
      · refine TypeGraph.tame_decodeByKind hk (fun s hs lesser hless => ?_)
          fun _ h => by cases h
        obtain ⟨f, hf, rfl⟩ := hc.holds.exists_field hs
        exact htame hless hf
      refine ⟨.function (fromDictDefinition c.name assignments), [], ?_, evalsItems_nil,
        fun v hv => ?_⟩
      · have hevals := (evals_name (P := P) (ρ := ρ) c.name).member "from_dict"
        rw [hρ.lookup hclass] at hevals
        have hmember : P.member (.recordClass c) "from_dict" =
            .ok (.function (fromDictDefinition c.name assignments)) := by
          rw [Program.member, hc.fromDict]
        exact hmember ▸ hevals
      · show Calls P _ _ (answer (ctx.graph.decodeByKind G v t))
        cases v with
        | dict entries =>
            rw [Value.depth] at hv
            have hentry (key : String) : (valueOf key entries).depth ≤ Value.depthOfEntries entries :=
              depth_getD_find? key entries
            have hresults : List.Forall₂
                (fun a r => ∀ ρ, Inside P (.dict entries) ρ → Evals P ρ a.2 (r.map .data)) assignments
                (fields.map fun f => asRun (G f.type (valueOf f.key entries))) := by
              rw [List.forall₂_map_right_iff]
              exact hc.assigned.flip.imp fun a f hfa ρ hρ => (hfield hv hfa).evals hρ.clear
                (hentry f.key) (evals_lookupInObj hρ.argument f.key)
            have hsettled : ∀ key ∈ fields.map fun f => (f.key, f.type),
                (G key.2 (valueOf key.1 entries)).Settled := by
              intro key hkey
              obtain ⟨f, hf, rfl⟩ := List.mem_map.1 hkey
              exact (htame hv hf _ (hentry f.key)).1
            rw [← answer_decodeByKind_dict hproperties hk hc.holds.properties hsettled,
              ← hc.construct_converted]
            exact hc.calls_fromDict hP hnames hclass _ rfl fun _ => hresults
        | none | bool | int | float | str | list | dateTime | enumCase | object =>
            rw [TypeGraph.decodeByKind, TypeGraph.kindOf_eq hk]
            have hother {v : Value} (hv : Builtin.tests? .dict v = some false) :
                Calls P (.function (fromDictDefinition c.name assignments)) [.data v]
                  (.error .raised) :=
              hc.calls_fromDict hP hnames hclass [] hv fun h => by cases h
            exact hother rfl

end Context

end TypedJson.Code
