import TypedJson.Proofs.Code.EncodingFunctions

/-!
# Classes of records

What the class that is emitted for a record consists of. Its fields hold the properties of the
record under distinct names (`Context.Holds`), and its functions decode and encode them one by one,
by what is written for the conversions of their types (`Context.EmitsRecord.isClass`).
-/

namespace TypedJson.Code

open Naming Script

namespace Context

variable {ctx : Context} {t : TypeRef}

/-! ## Fields of a class -/

/-- Names at successive positions of a list are a part of it. -/
theorem isPrefix_of_positions {α : Type} {ps names : List String} {items : List α} {start : Nat}
    (h : List.Forall₂ (fun item name => ps[item.2]? = some name) (items.zipIdx start) names) :
    names <+: ps.drop start := by
  induction items generalizing start names with
  | nil =>
      cases h
      exact List.nil_prefix
  | cons item items ih =>
      rw [List.zipIdx_cons] at h
      cases h with
      | cons hhead htail =>
          obtain ⟨hlt, hname⟩ := List.getElem?_eq_some_iff.1 hhead
          rw [List.drop_eq_getElem_cons hlt, hname, List.cons_prefix_cons]
          exact ⟨rfl, ih htail⟩

/-- The name can be read, and stands for nothing else in the module or in a class. -/
def IsFieldName (ctx : Context) (name : String) : Prop :=
  IsName name ∧ name ∉ globalForbidden ∧ name ∉ classLocals ∧
    ∀ t, ctx.names.types.lookup t ≠ some name

/-- The fields hold the properties of the record under distinct names. -/
structure Holds (ctx : Context) (r : Record) (fields : List Field) : Prop where
  properties : (fields.map fun f => (f.key, f.type)).Perm
    (r.properties.map fun p => (p.name, p.type))
  optional : ∀ f ∈ fields, f.optional = ctx.graph.isNullable f.type
  nodup : (fields.map Field.name).Nodup
  names : ∀ f ∈ fields, ctx.IsFieldName f.name

/-- The type of a field is one that the record refers to. -/
theorem Holds.type_mem {r : Record} {fields : List Field} (h : ctx.Holds r fields) {f : Field}
    (hf : f ∈ fields) : f.type ∈ TypeGraph.kindRefs (.record r) := by
  obtain ⟨p, hp, hpf⟩ := List.mem_map.1 (h.properties.mem_iff.1 (List.mem_map_of_mem hf))
  exact (Prod.mk.inj hpf).2 ▸ List.mem_map_of_mem hp

/-- Each type that the record refers to is that of a field. -/
theorem Holds.exists_field {r : Record} {fields : List Field} (h : ctx.Holds r fields) {s : TypeRef}
    (hs : s ∈ TypeGraph.kindRefs (.record r)) : ∃ f ∈ fields, f.type = s := by
  obtain ⟨p, hp, rfl⟩ := List.mem_map.1 hs
  obtain ⟨f, hf, hfp⟩ := List.mem_map.1 (h.properties.mem_iff.2 (List.mem_map_of_mem hp))
  exact ⟨f, hf, congrArg Prod.snd hfp⟩

/-- The fields of a class do so for its record. -/
theorem holds_of_yields (hnames : ctx.names.Apart) {declared : List TypeRef} {r : Record}
    {fields : List Field} (h : (ctx.fields declared t r).Yields fields) : ctx.Holds r fields := by
  obtain ⟨base, hbase, h⟩ := h.bind
  let ps := (ctx.names.properties.lookup t).getD []
  have hps : ps.Nodup ∧ ∀ name ∈ ps, ctx.IsFieldName name := by
    show ((ctx.names.properties.lookup t).getD []).Nodup ∧ ∀ name ∈ Option.getD _ _, _
    cases hlookup : ctx.names.properties.lookup t with
    | none => exact ⟨List.nodup_nil, List.forall_mem_nil _⟩
    | some ps => exact hnames.properties hlookup
  have hfields : List.Forall₂ (fun p f => ((p.1.name, p.1.type) = (f.key, f.type) ∧
      f.optional = ctx.graph.isNullable f.type) ∧ ps[p.2]? = some f.name)
        r.properties.zipIdx base := by
    refine hbase.mapM.imp fun p f hf => ?_
    obtain ⟨name, hname, hf⟩ := hf.bind
    obtain ⟨found, hfound, hi⟩ := propertyName_of_yields hname
    rw [hf.pure]
    refine ⟨⟨rfl, rfl⟩, ?_⟩
    show ((ctx.names.properties.lookup t).getD [])[p.2]? = some name
    rw [hfound]
    exact hi
  have hkeys : base.map (fun f => (f.key, f.type)) = r.properties.map fun p => (p.name, p.type) := by
    have hzip : r.properties.zipIdx.map (fun p => (p.1.name, p.1.type)) =
        base.map fun f => (f.key, f.type) := by
      rw [← List.forall₂_eq_eq_eq, List.forall₂_map_left_iff, List.forall₂_map_right_iff]
      exact hfields.imp fun p f hf => hf.1.1
    rw [← hzip]
    conv_rhs => rw [← List.zipIdx_map_fst 0 r.properties, List.map_map]
    rfl
  have hleading : base.map Field.name <+: ps := by
    have hpositions : List.Forall₂ (fun p name => ps[p.2]? = some name) (r.properties.zipIdx 0)
        (base.map Field.name) := by
      rw [List.forall₂_map_right_iff]
      exact hfields.imp fun p f hf => hf.2
    exact isPrefix_of_positions hpositions
  -- Classes with defaults list optional fields behind the others.
  obtain ⟨ordered, hordered, hsame⟩ : ∃ ordered : List Field, ordered.Perm base ∧
      List.Forall₂ (fun f f' => (f.name, f.key, f.type, f.optional) =
        (f'.name, f'.key, f'.type, f'.optional)) ordered fields := by
    refine ⟨_, ?_, h.mapM.imp fun f f' hf => ?_⟩
    · split
      · have hparts := List.filter_append_perm (fun f : Field => !f.optional) base
        simpa only [Bool.not_not] using hparts
      · exact .refl _
    · split at hf
      · obtain ⟨hint, -, hf⟩ := hf.bind
        rw [hf.pure]
      · rw [hf.pure]
  -- Annotating a field changes none of these four parts of it.
  have hmap {β : Type} (g : String × String × TypeRef × Bool → β) :
      (fields.map fun f => g (f.name, f.key, f.type, f.optional)).Perm
        (base.map fun f => g (f.name, f.key, f.type, f.optional)) := by
    have heq : ordered.map (fun f => g (f.name, f.key, f.type, f.optional)) =
        fields.map fun f => g (f.name, f.key, f.type, f.optional) := by
      rw [← List.forall₂_eq_eq_eq, List.forall₂_map_left_iff, List.forall₂_map_right_iff]
      exact hsame.imp fun f f' hf => congrArg g hf
    rw [← heq]
    exact hordered.map _
  have hfieldNames : (fields.map Field.name).Perm (base.map Field.name) := hmap Prod.fst
  refine ⟨hkeys ▸ hmap fun f => (f.2.1, f.2.2.1), fun f hf => ?_, ?_, fun f hf => ?_⟩
  · obtain ⟨f', hf', hsame'⟩ := exists_of_forall₂ hsame hf
    obtain ⟨p, -, ⟨-, hoptional⟩, -⟩ := exists_of_forall₂ hfields (hordered.mem_iff.1 hf')
    cases f
    cases f'
    cases hsame'
    exact hoptional
  · exact hfieldNames.nodup_iff.2 (hleading.sublist.nodup hps.1)
  · exact hps.2 _ (hleading.subset (hfieldNames.subset (List.mem_map_of_mem hf)))

/-! ## Functions of a class -/

/-- A field is assigned the conversion of its entry. -/
structure Assigns (ctx : Context) (f : Field) (a : String × Expr) : Prop where
  name : f.name = a.1
  printable : a.2.Printable
  written : ∃ text, (ctx.convertValue .decode
    ("obj.get(" ++ literal ctx.features.markedText f.key ++ ")") f.type).Yields text ∧
      a.2.chars ctx.features.markedText = text.toList

/-- The entry of a field is assigned the conversion of its attribute. -/
structure AssignsEntry (ctx : Context) (f : Field) (row : Row) : Prop where
  optional : f.optional = row.optional
  name : f.name = row.name
  key : f.key = row.key
  printable : row.value.Printable
  written : ∃ text, (ctx.convertValue .encode ("self." ++ f.name) f.type).Yields text ∧
    row.value.chars ctx.features.markedText = text.toList

/-- The class holds the given fields, and its functions convert them one by one. -/
structure IsClass (ctx : Context) (r : Record) (c : RecordClass) (fields : List Field)
    (assignments : List (String × Expr)) (rows : List Row) : Prop where
  label : c.label = r.name
  parameters : c.fields = fields.map fun f => (f.name, f.key)
  holds : ctx.Holds r fields
  assigned : List.Forall₂ ctx.Assigns fields assignments
  entries : List.Forall₂ ctx.AssignsEntry fields rows
  fromDict : c.definition? "from_dict" = some (fromDictDefinition c.name assignments)
  toDict : c.definition? "to_dict" = some (toDictDefinition rows)
  others : ∀ name, name ≠ "from_dict" → name ≠ "to_dict" → c.definition? name = none

/-- The conversions of a class are its two functions. -/
theorem classConversions_of_yields {declared : List TypeRef} {name : String} {fields : List Field}
    {conversions : List Step}
    (h : (ctx.classConversions declared t name fields).Yields conversions) :
    ∃ returned values assignments, conversions = fromDictSteps name returned values ++
        ([.blank 1] ++ toDictSteps ctx.features.typeHints assignments) ∧
      List.Forall₂ (fun f v => v.1 = f ∧ (ctx.convertValue .decode
        ("obj.get(" ++ literal ctx.features.markedText f.key ++ ")") f.type).Yields v.2)
          fields values ∧
      List.Forall₂ (fun f a => a.1 = f ∧ ∃ text, (ctx.convertValue .encode ("self." ++ f.name)
        f.type).Yields text ∧ a.2 = "result[" ++ literal ctx.features.markedText f.key ++ "] = " ++
          text) fields assignments := by
  obtain ⟨values, hvalues, h⟩ := h.bind
  obtain ⟨returned, assignments, hassignments, rfl⟩ : ∃ returned assignments,
      (fields.mapM fun f => do
        let value ← ctx.convertValue .encode ("self." ++ f.name) f.type
        return (f, "result[" ++ literal ctx.features.markedText f.key ++ "] = " ++ value) :
          Gen _).Yields assignments ∧
      conversions = fromDictSteps name returned values ++ [.blank 1] ++
        toDictSteps ctx.features.typeHints assignments := by
    dsimp only at h
    -- With and without type hints, the same assignments are made.
    split at h
    · obtain ⟨_, -, h⟩ := h.bind
      obtain ⟨hint, -, h⟩ := h.bind
      obtain ⟨returned, -, h⟩ := h.bind
      obtain ⟨assignments, hassignments, h⟩ := h.bind
      exact ⟨_, _, hassignments, h.pure⟩
    · obtain ⟨returned, -, h⟩ := h.bind
      obtain ⟨assignments, hassignments, h⟩ := h.bind
      exact ⟨_, _, hassignments, h.pure⟩
  refine ⟨returned, values, assignments, List.append_assoc _ _ _, hvalues.mapM.imp fun f v hv => ?_,
    hassignments.mapM.imp fun f a ha => ?_⟩
  · obtain ⟨text, htext, hv⟩ := hv.bind
    rw [hv.pure]
    exact ⟨rfl, htext⟩
  · obtain ⟨text, htext, ha⟩ := ha.bind
    rw [ha.pure]
    exact ⟨rfl, text, htext, rfl⟩

/-- What is written for the entries of fields is read as their conversions. -/
theorem exists_assignments (hnames : ctx.names.Apart) {r : Record} {fields : List Field}
    (hholds : ctx.Holds r fields) {values : List (Field × String)}
    (h : List.Forall₂ (fun f v => v.1 = f ∧ (ctx.convertValue .decode
      ("obj.get(" ++ literal ctx.features.markedText f.key ++ ")") f.type).Yields v.2)
        fields values) :
    ∃ assignments, List.Forall₂ (WritesField ctx.features.markedText) values assignments ∧
      List.Forall₂ ctx.Assigns fields assignments := by
  obtain ⟨assignments, hwrites⟩ : ∃ assignments, List.Forall₂ (fun v a =>
      WritesField ctx.features.markedText v a ∧ ctx.Assigns v.1 a) values assignments := by
    refine exists_forall₂ fun v hv => ?_
    obtain ⟨f, hf, rfl, htext⟩ := exists_of_forall₂ h hv
    obtain ⟨e, he, hchars⟩ := isReadable_convertValue hnames (printable_lookupInObj v.1.key) rfl
      (chars_lookupInObj _ _) htext
    exact ⟨(v.1.name, e), ⟨rfl, (hholds.names _ hf).1, he, hchars⟩, ⟨rfl, he, v.2, htext, hchars⟩⟩
  refine ⟨assignments, hwrites.imp fun _ _ hwrite => hwrite.1, (forall₂_comp h hwrites).imp ?_⟩
  rintro f a ⟨v, ⟨rfl, -⟩, -, hassigns⟩
  exact hassigns

/-- What is written for the attributes of fields is read as their conversions. -/
theorem exists_rows (hnames : ctx.names.Apart) {r : Record} {fields : List Field}
    (hholds : ctx.Holds r fields) {assignments : List (Field × String)}
    (h : List.Forall₂ (fun f a => a.1 = f ∧ ∃ text, (ctx.convertValue .encode ("self." ++ f.name)
      f.type).Yields text ∧ a.2 = "result[" ++ literal ctx.features.markedText f.key ++ "] = " ++
        text) fields assignments) :
    ∃ rows, List.Forall₂ (WritesRow ctx.features.markedText) assignments rows ∧
      List.Forall₂ ctx.AssignsEntry fields rows := by
  obtain ⟨rows, hwrites⟩ : ∃ rows, List.Forall₂ (fun a row =>
      WritesRow ctx.features.markedText a row ∧ ctx.AssignsEntry a.1 row) assignments rows := by
    refine exists_forall₂ fun a ha => ?_
    obtain ⟨f, hf, rfl, text, htext, hline⟩ := exists_of_forall₂ h ha
    have hname : IsName a.1.name := (hholds.names _ hf).1
    obtain ⟨e, he, hchars⟩ := isReadable_convertValue hnames (printable_attributeOf hname) rfl
      (chars_attributeOf _ _) htext
    have hliteral : (literal ctx.features.markedText a.1.key).toList =
        literalChars ctx.features.markedText a.1.key.toList := String.toList_ofList
    refine ⟨⟨a.1.optional, a.1.name, a.1.key, e⟩, ⟨rfl, rfl, hname, he, ?_⟩,
      ⟨rfl, rfl, rfl, he, text, htext, hchars⟩⟩
    rw [hline, hchars]
    simp only [String.toList_append, hliteral, List.append_assoc]
    rfl
  refine ⟨rows, hwrites.imp fun _ _ hwrite => hwrite.1, (forall₂_comp h hwrites).imp ?_⟩
  rintro f row ⟨a, ⟨rfl, -⟩, -, hassigns⟩
  exact hassigns

/-- The class that is emitted for a record has its fields and functions. -/
theorem EmitsRecord.isClass (hnames : ctx.names.Apart) {r : Record} {c : RecordClass}
    (hr : ctx.graph.record? t = some r) (h : ctx.EmitsRecord t c) :
    ∃ fields assignments rows, ctx.IsClass r c fields assignments rows := by
  cases h with
  | @intro r' declared name fields conversions hr' hname hfields hconversions =>
    obtain rfl := Option.some.inj (hr.symm.trans hr')
    have hholds := holds_of_yields hnames hfields
    obtain ⟨returned, values, encodings, rfl, hvalues, hencodings⟩ :=
      classConversions_of_yields hconversions
    obtain ⟨assignments, hfromDict, hassigned⟩ := exists_assignments hnames hholds hvalues
    obtain ⟨rows, htoDict, hentries⟩ := exists_rows hnames hholds hencodings
    have hname : IsName name := (hnames.type hname).1
    have hbehind {other : String} (hother : other ≠ "from_dict") :
        Definition.find? other (linesOf (fromDictSteps name returned values ++
            ([.blank 1] ++ toDictSteps ctx.features.typeHints encodings))) =
          Definition.find? other (linesAt 0 (toDictSteps ctx.features.typeHints encodings)) :=
      find?_behind_fromDict hother hfromDict returned _
    refine ⟨fields, assignments, rows, rfl, rfl, hholds, hassigned, hentries, ?_, ?_, ?_⟩
    · refine find?_fromDict hname hfromDict returned ?_
      show inside 0 (linesAt 0 (toDictSteps ctx.features.typeHints encodings)) = []
      rw [linesAt_toDict _ htoDict]
      rfl
    · exact (hbehind (by decide)).trans (find?_toDict _ htoDict)
    · exact fun other hfrom hto => (hbehind hfrom).trans (find?_toDict_of_ne hto _ htoDict)

/-- Every class of a record in an emitted program does. -/
theorem Emits.isClass {P : Program} (hP : ctx.Emits P) (hnames : ctx.names.Apart) {c : RecordClass}
    (hc : c ∈ P.records) : ∃ t r fields assignments rows,
      ctx.graph.kind? t = some (.record r) ∧ ctx.IsClass r c fields assignments rows := by
  obtain ⟨t, ht, hemits⟩ := exists_of_forall₂ hP.records hc
  obtain ⟨r, hr⟩ := TypeGraph.mem_records.1 ht
  obtain ⟨fields, assignments, rows, hclass⟩ := hemits.isClass hnames hr
  exact ⟨t, r, fields, assignments, rows, TypeGraph.record?_eq_some.1 hr, hclass⟩

end Context

end TypedJson.Code
