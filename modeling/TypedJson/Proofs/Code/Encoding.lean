import TypedJson.Proofs.Code.Kinds
import TypedJson.Proofs.Value.Unchecked

/-!
# Generated encoding

The generated encoding of a type does what encoding it without a check of integers in texts does
(`does_encodeUnchecked`), with whatever text `str` writes. What the classes of records encode is
taken for granted there, up to a depth, and follows by induction on it (`recordsEncode`): the
encoding function of a class converts attributes of its object, and whatever records are encoded
there are less deep.
-/

namespace TypedJson

/-- Encoding a record without a check is tame if it is on the fields of lesser depths. -/
theorem TypeGraph.tame_uncheckedStep_record {g : TypeGraph} {t : TypeRef} {r : Record} {depth : Nat}
    {text : Value → String} {f : TypeRef → Value → Outcome Value} (ht : g.transformation? t = none)
    (hk : g.kind? t = some (.record r))
    (hpart : ∀ s ∈ kindRefs (.record r), ∀ lesser < depth, Tame lesser (f s)) :
    Tame depth (g.uncheckedStep text f t) := by
  intro v hv
  rw [uncheckedStep_record ht hk]
  split
  · exact tame_encodeByKind hk hpart nofun v hv
  · refine ⟨Outcome.settled_shape _ _, ?_⟩
    rintro _ ⟨⟩

namespace Code

open Naming Ordered Script

namespace Context

variable {ctx : Context} {P : Program} {depth : Nat} {c c' : Chain} {t : TypeRef}

/-- The support function that calls the encoding functions of classes encodes records, up to a
depth, if the conversion is given enough room. -/
def RecordsEncode (ctx : Context) (P : Program) (depth : Nat) : Prop :=
  ∀ t r name, ctx.graph.kind? t = some (.record r) → ctx.names.types.lookup t = some name →
    ∀ room, 2 * ctx.graph.size * depth ≤ room →
      let F := ctx.graph.uncheckedStep P.textOf (ctx.graph.encodeUnchecked P.textOf room) t
      Tame depth F ∧ ∃ cls, P.global? name = some (.recordClass cls) ∧
        ∀ v : Value, v.depth ≤ depth →
          Calls P (.function (supportDefinition ctx.features .toClass)) [.recordClass cls, .data v]
            (answer (F v))

/-! ## By type -/

section

variable (hP : ctx.Emits P) (hnames : ctx.names.Apart)

include hP hnames

/-- Calling the encoding function of a class is a step. -/
theorem does_toClass {name : String} {step : Function} {F : Value → Outcome Value}
    (hname : ctx.names.types.lookup t = some name)
    (hstep : (Gen.converterWith .toClass [name]).Yields step) (hF : Tame depth F)
    {cls : RecordClass} (hclass : P.global? name = some (.recordClass cls))
    (h : ∀ v : Value, v.depth ≤ depth →
      Calls P (.function (supportDefinition ctx.features .toClass)) [.recordClass cls, .data v]
        (answer (F v))) :
    ctx.Does P depth c (c.andThen step) F := by
  refine does_converterWith hP hnames hstep (.name (hnames.type hname).1) rfl hF fun ρ hρ => ?_
  refine ⟨.recordClass cls, ?_, h⟩
  have hevals := evals_name (P := P) (ρ := ρ) name
  rwa [hρ.lookup hclass] at hevals

/-- Writing a text by `str` is a step. -/
theorem does_str :
    ctx.Does P depth c (c.andThen (.named "str")) fun v => .ok (.str (P.textOf v)) := by
  have htame : Tame depth fun v => .ok (.str (P.textOf v)) :=
    tame_of_flat fun v => settled_of_flat (.inl ⟨_, rfl, rfl⟩)
  refine does_named (e := .name "str") rfl (.name (isName_of_chars rfl rfl rfl rfl)) rfl htame
    fun ρ hρ => ?_
  exact ⟨.builtin .str, [], evals_builtin hP hnames rfl hρ, evalsItems_nil, fun v _ =>
    Calls.of_step (settles_const _)⟩

/-- What is generated for an integer in a text writes whatever it is given as a text. -/
theorem does_digits (hx : ctx.graph.OnlyIntegerTexts) {x : Transformation}
    (ht : ctx.graph.transformation? t = some x)
    {genKind : Direction → Chain → TypeRef → Gen Chain} {F : TypeRef → Value → Outcome Value}
    (hkind : ∀ c c' s, ctx.graph.kind? s = some .text → (genKind .encode c s).Yields c' →
      ctx.Does P depth c c' fun v => ctx.graph.encodeByKind F v s)
    (h : (ctx.transform genKind .encode x.reverse c t).Yields c') :
    ctx.Does P depth c c' fun v => .ok (.str (P.textOf v)) := by
  obtain ⟨-, text, integer, rfl, htext, hinteger⟩ := hx t x ht
  unfold transform at h
  obtain ⟨step, hstep, h⟩ := h.bind
  rw [(yields_of_kind hstep hinteger).pure] at h
  refine ((does_str hP hnames).trans (hkind _ _ _ htext h)).congr fun v _ => ?_
  show _ = ctx.graph.encodeByKind F (.str (P.textOf v)) text
  rw [TypeGraph.encodeByKind, TypeGraph.kindOf_eq htext]
  rfl

end

/-- What is generated for the encoding of a type encodes it without a check of integers in texts,
given enough room, if the classes of records do. -/
theorem does_encodeUnchecked (hP : ctx.Emits P) (hnames : ctx.names.Apart)
    (hrecords : ctx.RecordsEncode P depth) (hx : ctx.graph.OnlyIntegerTexts) {n : Nat}
    (h : (ctx.convertWithin n .encode c t).Yields c') {room : Nat}
    (hroom : 2 * ctx.graph.size * depth + n ≤ room) :
    ctx.Does P depth c c' (ctx.graph.encodeUnchecked P.textOf room t) := by
  induction n generalizing c c' t room with
  | zero => exact absurd h Gen.not_yields_throw
  | succ n ih =>
      obtain ⟨room, rfl⟩ : ∃ k, room = k + 1 := ⟨room - 1, by omega⟩
      -- Elements and members are encoded within one bound less, by a function of their own.
      have helement (m : TypeRef) (text : String)
          (htext : (do
            let f ← ctx.convertWithin n .encode .identity m
            return f.toFunction.render : Gen String).Yields text) :
          Tame depth (ctx.graph.encodeUnchecked P.textOf room m) ∧
            ctx.Writes P depth text (ctx.graph.encodeUnchecked P.textOf room m) := by
        obtain ⟨f, hf, htext⟩ := htext.bind
        have hdoes : ctx.Does P depth .identity f (ctx.graph.encodeUnchecked P.textOf room m) :=
          ih hf (by omega)
        rw [htext.pure]
        exact ⟨hdoes.tame, hdoes.writes (global?_param hP hnames)⟩
      unfold convertWithin at h
      show ctx.Does P depth c c'
        (ctx.graph.uncheckedStep P.textOf (ctx.graph.encodeUnchecked P.textOf room) t)
      cases ht : ctx.graph.transformation? t with
      | some x =>
          rw [ht] at h
          refine (does_digits hP hnames hx ht (F := ctx.graph.encodeUnchecked P.textOf room)
            (fun c c' s hs hc => ?_) h).congr fun v _ => ?_
          · refine does_convertByKind hP hnames helement (fun r hr => ?_) hc
            rw [hs] at hr
            cases hr
          · rw [TypeGraph.uncheckedStep, ht]
            rfl
      | none =>
          rw [ht] at h
          obtain ⟨k, hk, -⟩ := Gen.Yields.bind h
          have hk := kind_of_yields hk
          by_cases hrecord : k.isRecord
          · cases k with
            | record r =>
                obtain ⟨name, hname, h⟩ := (yields_of_kind h hk).bind
                obtain ⟨step, hstep, h⟩ := Gen.Yields.bind h
                have hname := typeName_of_yields hname
                obtain ⟨htame, cls, hclass, hcalls⟩ := hrecords t r name hk hname room (by omega)
                rw [h.pure]
                exact does_toClass hP hnames hname hstep htame hclass hcalls
            | any | null | bool | integer | double | text | array | map | enumeration | union
            | formatted => cases hrecord
          · refine (does_convertByKind hP hnames helement (fun r hr => ?_) h).congr fun v _ =>
              TypeGraph.uncheckedStep_byKind ht hk (Bool.eq_false_iff.2 hrecord)
            rw [hk] at hr
            cases hr
            exact hrecord rfl

/-! ## Attributes of objects -/

/-- Among entries of distinct keys, each is looked up. -/
theorem lookup_of_mem {α : Type} {key : String} {a : α} {entries : List (String × α)}
    (hkeys : (entries.map Prod.fst).Nodup) (h : (key, a) ∈ entries) :
    entries.lookup key = some a := by
  obtain ⟨front, back, rfl⟩ := List.append_of_mem h
  rw [List.map_append, List.nodup_append] at hkeys
  refine List.lookup_eq_some_iff.2 ⟨front, back, rfl, fun entry hentry => ?_⟩
  rw [bne_iff_ne]
  rintro rfl
  exact hkeys.2.2 _ (List.mem_map_of_mem hentry) _ List.mem_cons_self rfl

section Attributes

variable {r : Record} {cls : RecordClass} {fields : List Field}
  {assignments : List (String × Expr)} {rows : List Row} {label : String}
  {table : List (String × Value)}

/-- The value of a field of an object, which may be missing. -/
def fieldOf (key : String) (table : List (String × Value)) : Outcome Value :=
  match find? key table with
  | some v => .ok v
  | none => .shape key .none

/-- It is settled, and lies within the object. -/
theorem settled_fieldOf (key : String) (table : List (String × Value)) :
    (fieldOf key table).Settled ∧
      ∀ v, fieldOf key table = .ok v → v.depth ≤ Value.depthOfEntries table := by
  rw [fieldOf]
  cases hfind : find? key table with
  | none =>
      refine ⟨Outcome.settled_shape _ _, ?_⟩
      rintro _ ⟨⟩
  | some v =>
      refine ⟨Outcome.settled_ok v, ?_⟩
      rintro _ ⟨⟩
      exact Value.depth_le_entries (mem_of_find? hfind)

/-- An object of a class has the attributes of its fields. -/
theorem IsClass.member_attribute (h : ctx.IsClass r cls fields assignments rows)
    (hfind : P.records.find? (·.label == label) = some cls) {f : Field} (hf : f ∈ fields) :
    P.member (.data (.object label table)) f.name = answer (fieldOf f.key table) := by
  have hlookup : cls.fields.lookup f.name = some f.key := by
    rw [h.parameters]
    refine lookup_of_mem ?_ (List.mem_map_of_mem hf)
    rw [List.map_map]
    exact h.holds.nodup
  rw [Program.member, hfind]
  dsimp only
  rw [hlookup, fieldOf]
  dsimp only
  cases find? f.key table <;> rfl

/-- An object of a class has the encoding function of the class. -/
theorem IsClass.member_toDict (h : ctx.IsClass r cls fields assignments rows)
    (hfind : P.records.find? (·.label == label) = some cls) :
    P.member (.data (.object label table)) "to_dict" =
      .ok (.method (.object label table) (.defined (toDictDefinition rows))) := by
  have hlookup : cls.fields.lookup "to_dict" = none := by
    rw [h.parameters, List.lookup_eq_none_iff]
    intro entry hentry
    obtain ⟨f, hf, rfl⟩ := List.mem_map.1 hentry
    have hlocal : f.name ∉ classLocals := (h.holds.names f hf).2.2.1
    rw [bne_iff_ne]
    exact fun heq : "to_dict" = f.name => hlocal (heq ▸ List.contains_iff_mem.1 rfl)
  rw [Program.member, hfind]
  dsimp only
  rw [hlookup]
  dsimp only
  rw [h.toDict]

/-- The attribute of a field stands for the field of the object. -/
theorem IsClass.evals_attributeOf (h : ctx.IsClass r cls fields assignments rows)
    (hfind : P.records.find? (·.label == label) = some cls) {f : Field} (hf : f ∈ fields)
    {ρ : Frame} (hρ : ρ.locals.lookup "self" = some (.data (.object label table))) :
    Evals P ρ (attributeOf f.name) (answer (fieldOf f.key table)) := by
  have hself : Evals P ρ (.name "self") (.ok (.data (.object label table))) := by
    have hevals := evals_name (P := P) (ρ := ρ) "self"
    rwa [Program.lookup, hρ] at hevals
  exact h.member_attribute hfind hf ▸ hself.member f.name

/-! ## Encoding functions -/

/-- What the entry of a property is encoded to, if the object has a field for it. -/
def entryOf (nullable : TypeRef → Bool) (G : TypeRef → Value → Outcome Value)
    (table : List (String × Value)) (key : String × TypeRef) : Outcome (Option Value) :=
  fieldOf key.1 table >>= encodeField nullable G key.2

/-- The row of a field assigns what its entry is encoded to. -/
theorem IsClass.runs_row (h : ctx.IsClass r cls fields assignments rows)
    (hfind : P.records.find? (·.label == label) = some cls) {f : Field} (hf : f ∈ fields) {row : Row}
    (hrow : ctx.AssignsEntry f row) {G : TypeRef → Value → Outcome Value}
    (hevals : ∀ ρ : Frame, ρ.Clear P →
      Evals P ρ (attributeOf f.name) (answer (fieldOf f.key table)) →
      Evals P ρ row.value (answer (fieldOf f.key table >>= G f.type))) :
    row.Runs P (.object label table)
      (asRun (entryOf ctx.graph.isNullable G table (f.key, f.type))) := by
  have hruns : row.Runs P (.object label table) (asRun (fieldOf f.key table) >>= fun w =>
      if w.isNone && row.optional then .ok none else (asRun (G f.type w)).map some) := by
    refine Row.runs (fun _ ρ hρ => ?_) fun _ ρ hρ => ?_
    · exact hrow.name ▸ h.evals_attributeOf hfind hf hρ.object
    · have hvalue := hevals ρ hρ.clear (h.evals_attributeOf hfind hf hρ.object)
      rwa [answer, asRun_bind] at hvalue
  have hresult : asRun (entryOf ctx.graph.isNullable G table (f.key, f.type)) =
      asRun (fieldOf f.key table) >>= fun w =>
        if w.isNone && row.optional then .ok none else (asRun (G f.type w)).map some := by
    rw [entryOf, asRun_bind, ← hrow.optional, h.holds.optional f hf]
    refine bind_congr fun w => ?_
    rw [encodeField]
    split
    · rfl
    · exact asRun_map _ _
  rwa [hresult]

/-- A call of the encoding function makes a dict of what the entries are encoded to. -/
theorem IsClass.calls_toDict (h : ctx.IsClass r cls fields assignments rows)
    (hself : P.global? "self" = none) (hresult : P.global? "result" = none)
    {F : String × TypeRef → Outcome (Option Value)}
    (hrows : List.Forall₂ (fun f row => row.Runs P (.object label table)
      (asRun (F (f.key, f.type)))) fields rows) :
    Calls P (.method (.object label table) (.defined (toDictDefinition rows))) []
      (answer ((tabulate insertIf F (fields.map fun f => (f.key, f.type))).map .dict)) := by
  have hcalls := calls_toDictDefinition hself hresult
    (List.forall₂_map_right_iff.2 (hrows.flip) :
      List.Forall₂ (Row.Runs P (.object label table)) rows
        (fields.map fun f => asRun (F (f.key, f.type))))
  have hkeys : rows.map Row.key = (fields.map fun f => (f.key, f.type)).map Prod.fst := by
    rw [List.map_map, ← List.forall₂_eq_eq_eq, List.forall₂_map_left_iff, List.forall₂_map_right_iff]
    exact h.entries.flip.imp fun row f hrow => hrow.key.symm
  have hresults : (fields.map fun f => asRun (F (f.key, f.type))).mapM id =
      asRun ((fields.map fun f => (f.key, f.type)).mapM F) := by
    rw [asRun_mapM, List.mapM_map, List.mapM_map]
    rfl
  rw [hkeys, hresults] at hcalls
  rw [tabulate]
  cases hmap : (fields.map fun f => (f.key, f.type)).mapM F with
  | error stop =>
      rw [hmap] at hcalls
      exact hcalls
  | ok results =>
      rw [hmap] at hcalls
      exact hcalls

end Attributes

/-! ## Classes encode records -/

/-- An entry is settled if the conversion of the field is. -/
theorem settled_entryOf {nullable : TypeRef → Bool} {G : TypeRef → Value → Outcome Value}
    {table : List (String × Value)} {key : String × TypeRef}
    (h : Tame (Value.depthOfEntries table) (G key.2)) : (entryOf nullable G table key).Settled := by
  obtain ⟨hsettled, hdepth⟩ := settled_fieldOf key.1 table
  rw [entryOf]
  rcases hsettled.cases with ⟨v, hv⟩ | ⟨e, he⟩
  · rw [hv]
    show (encodeField nullable G key.2 v).Settled
    rw [encodeField]
    split
    · exact Outcome.settled_ok _
    · have hvalue := (h v (hdepth v hv)).1
      exact (Outcome.agree_congruence.map some ⟨hvalue, rfl⟩).1
  · rw [he]
    exact Outcome.settled_failed e

/-- Encoding an object without a check makes a dict of its entries, in whatever order of fields. -/
theorem answer_uncheckedStep_object {g : TypeGraph} (hp : g.DistinctProperties) {r : Record}
    (ht : g.transformation? t = none) (hk : g.kind? t = some (.record r))
    {text : Value → String} {G : TypeRef → Value → Outcome Value} {table : List (String × Value)}
    {keys : List (String × TypeRef)} (hkeys : keys.Perm (r.properties.map fun p => (p.name, p.type)))
    (hsettled : ∀ key ∈ keys, (entryOf g.isNullable G table key).Settled) :
    answer ((tabulate insertIf (entryOf g.isNullable G table) keys).map .dict) =
      answer (g.uncheckedStep text G t (.object r.name table)) := by
  have hnames : ((r.properties.map fun p => (p.name, p.type)).map Prod.fst).Nodup := by
    rw [List.map_map]
    exact hp t r hk
  rw [TypeGraph.uncheckedStep_record ht hk]
  -- An object that lacks a field raises, although it may raise at another field first.
  by_cases hcovers : r.covers (.object r.name table)
  · have hentry : ∀ key ∈ r.properties.map fun p => (p.name, p.type),
        entryOf g.isNullable G table key = encodeField g.isNullable G key.2 (valueOf key.1 table) := by
      intro key hkey
      obtain ⟨p, hp, rfl⟩ := List.mem_map.1 hkey
      obtain ⟨v, hv⟩ := Option.isSome_iff_exists.1 (List.all_eq_true.1 hcovers p hp)
      rw [entryOf, fieldOf, valueOf, hv]
      rfl
    have htable : tabulate insertIf (entryOf g.isNullable G table)
          (r.properties.map fun p => (p.name, p.type)) =
        encodeFields g.isNullable G r.properties table [] := by
      rw [encodeFields_eq_encodeTable (hp t r hk), encodeTable, tabulate, tabulate,
        mapM_congr hentry]
    rw [if_pos hcovers, TypeGraph.encodeByKind_object hk, ← htable]
    rcases tabulate_perm (fun _ _ hne => insertIf_comm hne) hkeys
        ((hkeys.map _).nodup_iff.2 hnames) hsettled with
      ⟨entries, hentries, hentries'⟩ | ⟨⟨e, he⟩, e', he'⟩
    · rw [hentries, hentries']
    · rw [he, he']
      rfl
  · obtain ⟨p, hp, hmissing⟩ : ∃ p ∈ r.properties, find? p.name table = none := by
      simpa [Record.covers] using hcovers
    have hkey : (p.name, p.type) ∈ keys := hkeys.mem_iff.2 (List.mem_map_of_mem hp)
    have hfails : entryOf g.isNullable G table (p.name, p.type) = .shape p.name .none := by
      rw [entryOf, fieldOf, hmissing]
      rfl
    have hfailed : ∃ e, tabulate insertIf (entryOf g.isNullable G table) keys =
        .error (.failed e) := tabulate_failed hsettled ⟨_, hkey, _, hfails⟩
    obtain ⟨e, he⟩ := hfailed
    rw [if_neg hcovers, he]
    rfl

/-- The class that an object of a record belongs to is that of the record. -/
theorem exists_isClass_of_label (hP : ctx.Emits P) (hnames : ctx.names.Apart)
    (hl : ctx.graph.DistinctLabels) {r : Record} (hk : ctx.graph.kind? t = some (.record r)) :
    ∃ cls fields assignments rows, P.records.find? (·.label == r.name) = some cls ∧
      ctx.IsClass r cls fields assignments rows := by
  have hr := TypeGraph.record?_eq_some.2 hk
  obtain ⟨emitted, hmem, hemits⟩ := exists_of_forall₂ hP.records.flip
    (TypeGraph.mem_records.2 ⟨r, hr⟩)
  obtain ⟨_, _, _, hemitted⟩ := hemits.isClass hnames hr
  obtain ⟨cls, hcls, hfind, hlabel⟩ := find?_eq_some_of_mem (f := RecordClass.label) hmem
  obtain ⟨t', r', fields, assignments, rows, hk', hclass⟩ := hP.isClass hnames hcls
  have hname : r'.name = r.name := by
    rw [← hclass.label, hlabel, hemitted.label]
  obtain rfl := hl t' t r' r hk' hk hname
  obtain rfl : r' = r := by
    rw [hk] at hk'
    cases hk'
    rfl
  exact ⟨cls, fields, assignments, rows, hemitted.label ▸ hfind, hclass⟩

/-- The expression that an encoding is written as encodes what it starts from, without a check. -/
theorem converts_encodeValue (hP : ctx.Emits P) (hnames : ctx.names.Apart)
    (hrecords : ctx.RecordsEncode P depth) (hx : ctx.graph.OnlyIntegerTexts) {s text : String}
    {start e : Expr} (hstart : start.Printable) (hoperand : start.isOperand)
    (hchars : start.chars ctx.features.markedText = s.toList) (he : e.Printable)
    (htext : e.chars ctx.features.markedText = text.toList)
    (h : (ctx.convertValue .encode s t).Yields text) {room : Nat}
    (hroom : 2 * ctx.graph.size * (depth + 1) ≤ room) :
    Converts P depth start e (ctx.graph.encodeUnchecked P.textOf room t) := by
  obtain ⟨chain, hchain, h⟩ := h.bind
  have hdoes : ctx.Does P depth (.ofText s) chain (ctx.graph.encodeUnchecked P.textOf room t) :=
    does_encodeUnchecked hP hnames hrecords hx hchain (by rwa [Nat.mul_succ] at hroom)
  exact hdoes.converts hstart hoperand hchars h.lift he htext

/-- An object of a class is encoded by its encoding function, and nothing else is encoded. -/
theorem calls_toClass_record (hP : ctx.Emits P) (hnames : ctx.names.Apart) {cls : RecordClass}
    {r : Record} (hlabel : cls.label = r.name) {v : Value} {F : Outcome Value}
    (hobject : ∀ table, v = .object r.name table →
      Settles (fun n => P.member (.data v) "to_dict" >>= fun m => P.callWithin n m []) (answer F))
    (hother : (∀ table, v ≠ .object r.name table) → ∃ e, F = .error (.failed e)) :
    Calls P (.function (supportDefinition ctx.features .toClass)) [.recordClass cls, .data v]
      (answer F) := by
  by_cases htable : ∃ table, v = .object r.name table
  · obtain ⟨table, rfl⟩ := htable
    have hinstance : isInstance? (.object r.name table) (.recordClass cls) = some true := by
      show some (decide (r.name = cls.label)) = _
      rw [hlabel, decide_eq_true rfl]
    exact calls_toClass (hP.supports hnames) hinstance fun _ => hobject table rfl
  · obtain ⟨e, rfl⟩ := hother fun table h => htable ⟨table, h⟩
    have hinstance : isInstance? v (.recordClass cls) = some false := by
      cases v with
      | object label table =>
          have hne : label ≠ cls.label := fun h => htable ⟨table, by rw [h, hlabel]⟩
          show some (decide (label = cls.label)) = _
          rw [decide_eq_false hne]
      | none | bool | int | float | str | list | dict | dateTime | enumCase => rfl
    exact calls_toClass (r := .error .raised) (hP.supports hnames) hinstance fun h => by cases h

/-- Calling the encoding functions of classes encodes records without a check of integers in texts,
whatever the depth of values. -/
theorem recordsEncode (hP : ctx.Emits P) (hnames : ctx.names.Apart)
    (hproperties : ctx.graph.DistinctProperties) (hlabels : ctx.graph.DistinctLabels)
    (hx : ctx.graph.OnlyIntegerTexts) (depth : Nat) : ctx.RecordsEncode P depth := by
  induction depth using Nat.strongRecOn with
  | ind depth ih =>
      intro t r name hk hname room hroom
      obtain ⟨emitted, hclass, hmem, hemits⟩ := hP.global?_record hnames hk hname
      obtain ⟨_, _, _, hemitted⟩ := hemits.isClass hnames (TypeGraph.record?_eq_some.2 hk)
      obtain ⟨cls, fields, assignments, rows, hfind, hc⟩ :=
        exists_isClass_of_label hP hnames hlabels hk
      let G := ctx.graph.encodeUnchecked P.textOf room
      have ht : ctx.graph.transformation? t = none := by
        cases ht : ctx.graph.transformation? t with
        | none => rfl
        | some x =>
            have htext := (hx t x ht).1
            rw [hk] at htext
            cases htext
      -- The fields of an object are less deep, so the records in them are encoded by induction.
      have hfield {lesser : Nat} (hless : lesser < depth) {f : Field} {row : Row} (hf : f ∈ fields)
          (h : ctx.AssignsEntry f row) : Tame lesser (G f.type) ∧
            ∀ ρ : Frame, ρ.Clear P → ∀ r : Outcome Value, r.Settled →
              (∀ v, r = .ok v → v.depth ≤ lesser) → Evals P ρ (attributeOf f.name) (answer r) →
              Evals P ρ row.value (answer (r >>= G f.type)) := by
        obtain ⟨text, htext, hchars⟩ := h.written
        have hlevel : 2 * ctx.graph.size * (lesser + 1) ≤ 2 * ctx.graph.size * depth :=
          Nat.mul_le_mul_left _ hless
        exact converts_encodeValue hP hnames (ih lesser hless) hx
          (printable_attributeOf (hc.holds.names f hf).1) rfl (chars_attributeOf _ _) h.printable
          hchars htext (by omega)
      have hpart : ∀ s ∈ TypeGraph.kindRefs (.record r), ∀ lesser < depth, Tame lesser (G s) := by
        intro s hs lesser hless
        obtain ⟨p, hp, rfl⟩ := List.mem_map.1 hs
        obtain ⟨f, hf, hfp⟩ := List.mem_map.1 (hc.holds.properties.mem_iff.2 (List.mem_map_of_mem hp))
        obtain ⟨row, -, hrow⟩ := exists_of_forall₂ hc.entries.flip hf
        have htype : f.type = p.type := congrArg Prod.snd hfp
        exact htype ▸ (hfield hless hf hrow).1
      refine ⟨TypeGraph.tame_uncheckedStep_record ht hk hpart, emitted, hclass, fun v hv => ?_⟩
      refine calls_toClass_record hP hnames hemitted.label ?_ fun hother =>
        ⟨_, TypeGraph.uncheckedStep_other ht hk hother⟩
      rintro table rfl
      rw [Value.depth] at hv
      have hself : P.global? "self" = none := global?_small hP hnames rfl rfl rfl
      have hresult : P.global? "result" = none := global?_small hP hnames rfl rfl rfl
      have hrows : List.Forall₂ (fun f row => row.Runs P (.object r.name table)
          (asRun (entryOf ctx.graph.isNullable G table (f.key, f.type)))) fields rows := by
        have hentries := (List.forall₂_and_left fields rows).2 ⟨fun f hf => hf, hc.entries⟩
        refine hentries.imp fun f row hrow => hc.runs_row hfind hrow.1 hrow.2 fun ρ hρ hattribute => ?_
        obtain ⟨hsettled, hdepth⟩ := settled_fieldOf f.key table
        exact (hfield hv hrow.1 hrow.2).2 ρ hρ _ hsettled hdepth hattribute
      have hsettled : ∀ key ∈ fields.map fun f => (f.key, f.type),
          (entryOf ctx.graph.isNullable G table key).Settled := by
        intro key hkey
        obtain ⟨f, hf, rfl⟩ := List.mem_map.1 hkey
        obtain ⟨row, -, hrow⟩ := exists_of_forall₂ hc.entries.flip hf
        exact settled_entryOf (hfield hv hf hrow).1
      rw [hc.member_toDict hfind]
      exact answer_uncheckedStep_object hproperties ht hk hc.holds.properties hsettled ▸
        hc.calls_toDict hself hresult hrows

end Context

end Code

end TypedJson
