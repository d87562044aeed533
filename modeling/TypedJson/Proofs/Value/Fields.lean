import TypedJson.Proofs.Value.Ending

/-!
# Fields of records

Decoding and encoding the properties of a record, property by property. With distinct names every
property is decoded from its own entry (`decodeFields_ok`) and encoded from its own field
(`encodeFields_ok`), whatever comes before and behind it, and the order of the properties makes no
difference to the object (`convertTable_perm`).
-/

namespace TypedJson

open Ordered Outcome

/-- The value of a key, or none. -/
def valueOf (name : String) (table : List (String × Value)) : Value :=
  (find? name table).getD .none

/-- What the field of a property is encoded to: nothing if it is none and its type is nullable. -/
def encodeField (nullable : TypeRef → Bool) (f : TypeRef → Value → Outcome Value) (t : TypeRef)
    (value : Value) : Outcome (Option Value) :=
  if value.isNone && nullable t then .ok none else (f t value).map some

/-- The table with a key bound to a value, if there is one. -/
def insertIf (name : String) (value : Option Value) (table : List (String × Value)) :
    List (String × Value) :=
  match value with
  | none => table
  | some value => insertEntry name value table

variable {f : TypeRef → Value → Outcome Value} {nullable : TypeRef → Bool} {props : List Property}
  {entries fields acc : List (String × Value)}

/-- Taking out a key of no property of a record keeps what its properties are looked up as. -/
theorem valueOf_erase {p : Property} {name : String} (hname : name ∉ props.map Property.name)
    (hp : p ∈ props) : valueOf p.name (erase name entries) = valueOf p.name entries := by
  have hne : p.name ≠ name := fun h => hname (h ▸ List.mem_map_of_mem hp)
  rw [valueOf, find?_erase_of_ne hne, valueOf]

/-! ## Decoding -/

/-- A decoded object has each property decoded from its entry, and no other field. -/
theorem decodeFields_ok (hnames : (props.map Property.name).Nodup)
    (h : decodeFields f props entries acc = .ok fields) :
    (∀ p ∈ props, ∃ a, f p.type (valueOf p.name entries) = .ok a ∧
      find? p.name fields = some a) ∧
    ∀ name, name ∉ props.map Property.name → find? name fields = find? name acc := by
  induction props generalizing entries acc with
  | nil =>
      cases h
      exact ⟨fun _ hp => absurd hp List.not_mem_nil, fun _ _ => rfl⟩
  | cons p rest ih =>
      obtain ⟨hfresh, hnames⟩ := List.nodup_cons.1 hnames
      rw [decodeFields, bind_eq_ok] at h
      obtain ⟨a, ha, h⟩ := h
      obtain ⟨hrest, hother⟩ := ih hnames h
      refine ⟨fun q hq => ?_, fun name hname => ?_⟩
      · obtain rfl | hq := List.mem_cons.1 hq
        · exact ⟨a, ha, (hother _ hfresh).trans find?_insertEntry_self⟩
        · rw [← valueOf_erase hfresh hq]
          exact hrest q hq
      · obtain ⟨hne, hname⟩ := not_or.1 (mt List.mem_cons.2 hname)
        rw [hother name hname, find?_insertEntry_of_ne hne]

/-- An object is decoded if each property is. -/
theorem decodeFields_exists (acc : List (String × Value)) (hnames : (props.map Property.name).Nodup)
    (h : ∀ p ∈ props, ∃ a, f p.type (valueOf p.name entries) = .ok a) :
    ∃ fields, decodeFields f props entries acc = .ok fields := by
  induction props generalizing entries acc with
  | nil => exact ⟨acc, rfl⟩
  | cons p rest ih =>
      obtain ⟨hfresh, hnames⟩ := List.nodup_cons.1 hnames
      obtain ⟨⟨a, ha⟩, hrest⟩ := List.forall_mem_cons.1 h
      have hothers : ∀ q ∈ rest, ∃ b, f q.type (valueOf q.name (erase p.name entries)) = .ok b :=
        fun q hq => (valueOf_erase hfresh hq).symm ▸ hrest q hq
      obtain ⟨fields, hfields⟩ := ih (insertEntry p.name a acc) hnames hothers
      exact ⟨fields, bind_eq_ok.2 ⟨a, ha, hfields⟩⟩

/-- The fields of a table with the given keys, each converted as its type. -/
def convertFields (f : TypeRef → Value → Outcome Value) (keys : List (String × TypeRef))
    (entries : List (String × Value)) : Outcome (List Value) :=
  keys.mapM fun key => f key.2 (valueOf key.1 entries)

/-- Fields are converted one by one. -/
theorem convertFields_cons (key : String × TypeRef) (keys : List (String × TypeRef)) :
    convertFields f (key :: keys) entries = f key.2 (valueOf key.1 entries) >>= fun value =>
      (convertFields f keys entries).map (value :: ·) := by
  rw [convertFields, List.mapM_cons]
  cases f key.2 (valueOf key.1 entries) with
  | error e => rfl
  | ok value =>
      show convertFields f keys entries >>= _ = _
      cases convertFields f keys entries <;> rfl

/-- Properties are decoded one by one, and then bound to their names. -/
theorem decodeFields_eq (hnames : (props.map Property.name).Nodup) :
    decodeFields f props entries acc =
      (convertFields f (props.map fun p => (p.name, p.type)) entries).map fun values =>
        ((props.map Property.name).zip values).foldl
          (fun table entry => insertEntry entry.1 entry.2 table) acc := by
  induction props generalizing entries acc with
  | nil => rfl
  | cons p rest ih =>
      obtain ⟨hfresh, hnames⟩ := List.nodup_cons.1 hnames
      have hrest : convertFields f (rest.map fun p => (p.name, p.type)) (erase p.name entries) =
          convertFields f (rest.map fun p => (p.name, p.type)) entries := by
        unfold convertFields
        rw [List.mapM_map, List.mapM_map]
        exact mapM_congr fun q hq => congrArg (f q.type) (valueOf_erase hfresh hq)
      show (f p.type (valueOf p.name entries) >>= _) = Except.map _ (convertFields f (_ :: _) entries)
      rw [convertFields_cons]
      cases f p.type (valueOf p.name entries) with
      | error e => rfl
      | ok a =>
          show decodeFields f rest (erase p.name entries) (insertEntry p.name a acc) = _
          rw [ih hnames, hrest]
          show _ = Except.map _ (Except.map _ (convertFields f (rest.map _) entries))
          cases convertFields f (rest.map fun p => (p.name, p.type)) entries <;> rfl

/-! ## Order of fields -/

section Order

variable {β : Type} {bind : String → β → List (String × Value) → List (String × Value)}
  {F : String × TypeRef → Outcome β} {keys keys' : List (String × TypeRef)}

/-- The table of what keys of some types are converted to. -/
def tabulate (bind : String → β → List (String × Value) → List (String × Value))
    (F : String × TypeRef → Outcome β) (keys : List (String × TypeRef)) :
    Outcome (List (String × Value)) :=
  (keys.mapM F).map fun results =>
    ((keys.map Prod.fst).zip results).foldl (fun table entry => bind entry.1 entry.2 table) []

/-- Results are those of keys if their entries are. -/
theorem forall₂_entries {entries : List (String × β)}
    (h : List.Forall₂ (fun key entry => key.1 = entry.1 ∧ F key = .ok entry.2) keys entries) :
    keys.mapM F = .ok (entries.map Prod.snd) ∧
      (keys.map Prod.fst).zip (entries.map Prod.snd) = entries := by
  rw [mapM_eq_ok, List.forall₂_map_right_iff]
  refine ⟨h.imp fun _ _ hentry => hentry.2, ?_⟩
  induction h with
  | nil => rfl
  | cons hhead _ ih =>
      rw [List.map_cons, List.map_cons, List.zip_cons_cons, ih, hhead.1]

/-- Keys one of which fails to be converted have no table. -/
theorem tabulate_failed (hsettled : ∀ key ∈ keys, (F key).Settled)
    (hfail : ∃ key ∈ keys, ∃ e, F key = .error (.failed e)) :
    ∃ e, tabulate bind F keys = .error (.failed e) := by
  have hall : (keys.mapM F).Settled :=
    (agree_congruence.mapM fun key hkey => ⟨hsettled key hkey, rfl⟩).1
  rcases hall.cases with ⟨results, hresults⟩ | ⟨e, he⟩
  · obtain ⟨key, hkey, e, he⟩ := hfail
    obtain ⟨result, -, hresult⟩ := exists_of_forall₂ (mapM_eq_ok.1 hresults).flip hkey
    rw [he] at hresult
    cases hresult
  · refine ⟨e, ?_⟩
    rw [tabulate, he]
    rfl

/-- The order of keys makes no difference to their table, nor to whether there is one. -/
theorem tabulate_perm (hcomm : ∀ key key', key ≠ key' → ∀ b b' table,
      bind key b (bind key' b' table) = bind key' b' (bind key b table))
    (h : keys.Perm keys') (hkeys : (keys.map Prod.fst).Nodup)
    (hsettled : ∀ key ∈ keys, (F key).Settled) :
    (∃ table, tabulate bind F keys = .ok table ∧ tabulate bind F keys' = .ok table) ∨
      (∃ e, tabulate bind F keys = .error (.failed e)) ∧
        ∃ e, tabulate bind F keys' = .error (.failed e) := by
  -- If one entry fails, both tables do; otherwise all entries are there, in two orders.
  by_cases hfail : ∃ key ∈ keys, ∃ e, F key = .error (.failed e)
  · refine .inr ⟨tabulate_failed hsettled hfail, tabulate_failed ?_ ?_⟩
    · exact fun key hkey => hsettled key (h.mem_iff.2 hkey)
    · obtain ⟨key, hkey, hfails⟩ := hfail
      exact ⟨key, h.mem_iff.1 hkey, hfails⟩
  · have hentry : ∀ key ∈ keys, ∃ entry : String × β, key.1 = entry.1 ∧ F key = .ok entry.2 := by
      intro key hkey
      rcases (hsettled key hkey).cases with ⟨b, hb⟩ | ⟨e, he⟩
      · exact ⟨(key.1, b), rfl, hb⟩
      · exact absurd ⟨key, hkey, e, he⟩ hfail
    obtain ⟨entries, hentries⟩ := exists_forall₂ hentry
    obtain ⟨others, hothers, hperm⟩ := List.perm_comp_forall₂ h.symm hentries
    have hnames : entries.map Prod.fst = keys.map Prod.fst := by
      rw [← List.forall₂_eq_eq_eq, List.forall₂_map_left_iff, List.forall₂_map_right_iff]
      exact hentries.flip.imp fun _ _ hentry => hentry.1.symm
    refine .inl ⟨entries.foldl (fun table entry => bind entry.1 entry.2 table) [], ?_, ?_⟩
    · rw [tabulate, (forall₂_entries hentries).1, Except.map, (forall₂_entries hentries).2]
    · rw [tabulate, (forall₂_entries hothers).1, Except.map, (forall₂_entries hothers).2]
      exact congrArg Except.ok (foldl_perm hcomm hperm.symm (hnames ▸ hkeys) []).symm

/-- The table of the fields with the given keys, each converted as its type. -/
def convertTable (f : TypeRef → Value → Outcome Value) (keys : List (String × TypeRef))
    (entries : List (String × Value)) : Outcome (List (String × Value)) :=
  tabulate insertEntry (fun key => f key.2 (valueOf key.1 entries)) keys

/-- Such a table is made of the converted fields. -/
theorem convertTable_eq : convertTable f keys entries =
    (convertFields f keys entries).map fun values => ofEntries ((keys.map Prod.fst).zip values) :=
  rfl

/-- A decoded object has the table of its properties. -/
theorem decodeFields_eq_convertTable (hnames : (props.map Property.name).Nodup) :
    decodeFields f props entries [] =
      convertTable f (props.map fun p => (p.name, p.type)) entries := by
  rw [decodeFields_eq hnames, convertTable, tabulate, List.map_map]
  rfl

/-- The order of fields makes no difference to their table, nor to whether there is one. -/
theorem convertTable_perm (h : keys.Perm keys') (hkeys : (keys.map Prod.fst).Nodup)
    (hsettled : ∀ key ∈ keys, (f key.2 (valueOf key.1 entries)).Settled) :
    (∃ table, convertTable f keys entries = .ok table ∧ convertTable f keys' entries = .ok table) ∨
      (∃ e, convertTable f keys entries = .error (.failed e)) ∧
        ∃ e, convertTable f keys' entries = .error (.failed e) :=
  tabulate_perm (fun _ _ hne => insertEntry_comm hne) h hkeys hsettled

end Order

/-! ## Encoding -/

/-- Properties are encoded one by one. -/
theorem encodeFields_cons (p : Property) :
    encodeFields nullable f (p :: props) fields acc
      = encodeField nullable f p.type (valueOf p.name fields) >>= fun value =>
        encodeFields nullable f props (erase p.name fields) (insertIf p.name value acc) := by
  rw [encodeFields, encodeField]
  show (if (valueOf p.name fields).isNone && nullable p.type then _ else _) = _
  split
  · rfl
  · show (f p.type (valueOf p.name fields) >>= _) = _
    cases f p.type (valueOf p.name fields) <;> rfl

/-- Keys may be bound in either order, or left out. -/
theorem insertIf_comm {key key' : String} (h : key ≠ key') (value value' : Option Value)
    (table : List (String × Value)) :
    insertIf key value (insertIf key' value' table) =
      insertIf key' value' (insertIf key value table) := by
  cases value with
  | none => rfl
  | some value =>
      cases value' with
      | none => rfl
      | some value' => exact insertEntry_comm h value value' table

/-- The table of what the fields with the given keys are encoded to, each as its type. -/
def encodeTable (nullable : TypeRef → Bool) (f : TypeRef → Value → Outcome Value)
    (keys : List (String × TypeRef)) (fields : List (String × Value)) :
    Outcome (List (String × Value)) :=
  tabulate insertIf (fun key => encodeField nullable f key.2 (valueOf key.1 fields)) keys

/-- Properties are encoded one by one, and then bound to their names or left out. -/
theorem encodeFields_eq (hnames : (props.map Property.name).Nodup) :
    encodeFields nullable f props fields acc =
      (props.mapM fun p => encodeField nullable f p.type (valueOf p.name fields)).map fun results =>
        ((props.map Property.name).zip results).foldl
          (fun table entry => insertIf entry.1 entry.2 table) acc := by
  induction props generalizing fields acc with
  | nil => rfl
  | cons p rest ih =>
      obtain ⟨hfresh, hnames⟩ := List.nodup_cons.1 hnames
      have hrest : (rest.mapM fun q => encodeField nullable f q.type
            (valueOf q.name (erase p.name fields))) =
          rest.mapM fun q => encodeField nullable f q.type (valueOf q.name fields) :=
        mapM_congr fun q hq => by rw [valueOf_erase hfresh hq]
      rw [encodeFields_cons, List.mapM_cons]
      cases encodeField nullable f p.type (valueOf p.name fields) with
      | error e => rfl
      | ok a =>
          show encodeFields nullable f rest (erase p.name fields) (insertIf p.name a acc) = _
          rw [ih hnames, hrest]
          show _ = Except.map _ (rest.mapM _ >>= fun results => pure (a :: results))
          cases rest.mapM fun q => encodeField nullable f q.type (valueOf q.name fields) <;> rfl

/-- An encoded object has the table of its properties. -/
theorem encodeFields_eq_encodeTable (hnames : (props.map Property.name).Nodup) :
    encodeFields nullable f props fields [] =
      encodeTable nullable f (props.map fun p => (p.name, p.type)) fields := by
  rw [encodeFields_eq hnames, encodeTable, tabulate, List.map_map, List.mapM_map]
  rfl

/-- An encoded dict has an entry for each property that its field is encoded to, and no other. -/
theorem encodeFields_ok (hnames : (props.map Property.name).Nodup)
    (h : encodeFields nullable f props fields acc = .ok entries) :
    (∀ p ∈ props, ∃ a, encodeField nullable f p.type (valueOf p.name fields) = .ok a ∧
      find? p.name entries = a.or (find? p.name acc)) ∧
    ∀ name, name ∉ props.map Property.name → find? name entries = find? name acc := by
  induction props generalizing fields acc with
  | nil =>
      cases h
      exact ⟨fun _ hp => absurd hp List.not_mem_nil, fun _ _ => rfl⟩
  | cons p rest ih =>
      obtain ⟨hfresh, hnames⟩ := List.nodup_cons.1 hnames
      rw [encodeFields_cons, bind_eq_ok] at h
      obtain ⟨a, ha, h⟩ := h
      obtain ⟨hrest, hother⟩ := ih hnames h
      -- An entry is inserted under its own key, or not at all.
      have hinsert {name : String} (hne : name ≠ p.name) :
          find? name (insertIf p.name a acc) = find? name acc := by
        cases a with
        | none => rfl
        | some a => exact find?_insertEntry_of_ne hne
      refine ⟨fun q hq => ?_, fun name hname => ?_⟩
      · obtain rfl | hq := List.mem_cons.1 hq
        · refine ⟨a, ha, (hother _ hfresh).trans ?_⟩
          cases a with
          | none => rfl
          | some a => exact find?_insertEntry_self
        · have hne : q.name ≠ p.name := fun h => hfresh (h ▸ List.mem_map_of_mem hq)
          rw [← valueOf_erase hfresh hq, ← hinsert hne]
          exact hrest q hq
      · obtain ⟨hne, hname⟩ := not_or.1 (mt List.mem_cons.2 hname)
        rw [hother name hname, hinsert hne]

/-- A dict is encoded if each property is. -/
theorem encodeFields_exists (acc : List (String × Value)) (hnames : (props.map Property.name).Nodup)
    (h : ∀ p ∈ props, ∃ a, encodeField nullable f p.type (valueOf p.name fields) = .ok a) :
    ∃ entries, encodeFields nullable f props fields acc = .ok entries := by
  induction props generalizing fields acc with
  | nil => exact ⟨acc, rfl⟩
  | cons p rest ih =>
      obtain ⟨hfresh, hnames⟩ := List.nodup_cons.1 hnames
      obtain ⟨⟨a, ha⟩, hrest⟩ := List.forall_mem_cons.1 h
      have hothers : ∀ q ∈ rest, ∃ b,
          encodeField nullable f q.type (valueOf q.name (erase p.name fields)) = .ok b :=
        fun q hq => (valueOf_erase hfresh hq).symm ▸ hrest q hq
      obtain ⟨entries, hentries⟩ := ih (insertIf p.name a acc) hnames hothers
      refine ⟨entries, ?_⟩
      rw [encodeFields_cons, bind_eq_ok]
      exact ⟨a, ha, hentries⟩

/-- Encoding objects respects a congruence, if encoding each of their properties does. -/
theorem encodeFields_rel {R : ∀ {α : Type}, Outcome α → Outcome α → Prop} (hR : Congruence @R)
    {f' : TypeRef → Value → Outcome Value} {fields' : List (String × Value)}
    (hnames : (props.map Property.name).Nodup)
    (h : ∀ p ∈ props, R (encodeField nullable f p.type (valueOf p.name fields))
      (encodeField nullable f' p.type (valueOf p.name fields'))) :
    R (encodeFields nullable f props fields acc) (encodeFields nullable f' props fields' acc) := by
  induction props generalizing fields fields' acc with
  | nil => exact hR.refl (settled_ok acc)
  | cons p rest ih =>
      obtain ⟨hfresh, hnames⟩ := List.nodup_cons.1 hnames
      obtain ⟨hp, hrest⟩ := List.forall_mem_cons.1 h
      rw [encodeFields_cons, encodeFields_cons]
      refine hR.bind hp fun value _ => ih hnames fun q hq => ?_
      rw [valueOf_erase hfresh hq, valueOf_erase hfresh hq]
      exact hrest q hq

/-- Objects whose fields are encoded alike are encoded alike. -/
theorem encodeFields_congr {fields' : List (String × Value)}
    (hnames : (props.map Property.name).Nodup)
    (h : ∀ p ∈ props, encodeField nullable f p.type (valueOf p.name fields)
      = encodeField nullable f p.type (valueOf p.name fields')) :
    encodeFields nullable f props fields acc = encodeFields nullable f props fields' acc :=
  encodeFields_rel eq_congruence hnames h

end TypedJson
