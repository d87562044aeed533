import TypedJson.Proofs.Value.Typing
import TypedJson.Proofs.Value.Unchecked

/-!
# Unions of records and enumerations

Objects carry the labels of their records, and labels may repeat. `encode_eq_of_chosen` says that a
union of records and enumerations encodes what it has decoded as the member does that has decoded
it, and drops no property, if members in front tell the objects of their label apart. Where one does
not, it may claim an object that it has refused to decode (`encode_drops_property`).
-/

namespace TypedJson

open Ordered Outcome

namespace TypeGraph

/-- Objects of the record have the value for the name: the property of the name decodes to it, or
there is no such property and the value is none. -/
def HasFieldValue (g : TypeGraph) (r : Record) (name : String) (y : Value) : Prop :=
  (∃ p ∈ r.properties, p.name = name ∧ ∃ v, g.decode p.type v = .ok y) ∨
    name ∉ r.properties.map Property.name ∧ y = .none

/-- The first record has a property that encodes no value which objects of the second one have for
its name. -/
def TellsApart (g : TypeGraph) (r r' : Record) : Prop :=
  ∃ p ∈ r.properties, ∀ y, g.HasFieldValue r' p.name y →
    ∀ a, encodeField g.isNullable g.encode p.type y ≠ .ok a

/-- Of any two members that are records of one label, the first one has the properties of the
second one or tells its objects apart. -/
def LabelsApart (g : TypeGraph) (ms : List TypeRef) : Prop :=
  ms.Pairwise fun m m' => ∀ r r', g.kind? m = some (.record r) → g.kind? m' = some (.record r') →
    r.name = r'.name → r.properties = r'.properties ∨ g.TellsApart r r'

/-- The object is encoded with an entry for each property: what its field is encoded to, unless the
field is none and its type nullable. -/
def KeepsProperties (g : TypeGraph) (r : Record) (x w : Value) : Prop :=
  ∃ fields entries, x = .object r.name fields ∧ w = .dict entries ∧
    ∀ p ∈ r.properties, ∃ y, find? p.name fields = some y ∧
      encodeField g.isNullable g.encode p.type y = .ok (find? p.name entries)

variable {g : TypeGraph} {t : TypeRef} {k : Kind} {r r' : Record} {x w : Value}
  {entries fields : List (String × Value)}

/-- A decoded object has such values for all names. -/
theorem hasFieldValue_of_decodeFields (hnames : (r.properties.map Property.name).Nodup)
    (h : decodeFields g.decode r.properties entries [] = .ok fields) (name : String) :
    g.HasFieldValue r name (valueOf name fields) := by
  obtain ⟨hfields, hother⟩ := decodeFields_ok hnames h
  by_cases hname : name ∈ r.properties.map Property.name
  · obtain ⟨p, hp, rfl⟩ := List.mem_map.1 hname
    obtain ⟨y, hy, hfind⟩ := hfields p hp
    rw [valueOf, hfind]
    exact .inl ⟨p, hp, rfl, _, hy⟩
  · refine .inr ⟨hname, ?_⟩
    rw [valueOf, hother name hname]
    rfl

variable (hg : g.Accepted) (hx : g.OnlyIntegerTexts)
include hg hx

/-- A record encodes the objects of its label, by their fields. -/
theorem encode_object_eq_ok {name : String} (hk : g.kind? t = some (.record r)) :
    g.encode t (.object name fields) = .ok w ↔ name = r.name ∧ ∃ entries, w = .dict entries ∧
      encodeFields g.isNullable g.encode r.properties fields [] = .ok entries := by
  rw [encode_byKind hg hx hk rfl]
  constructor
  · intro h
    rw [encodeByKind, kindOf_eq hk] at h
    change (if name = r.name then _ else _) = _ at h
    split at h
    · obtain ⟨entries, hentries, rfl⟩ := map_eq_ok.1 h
      exact ⟨‹_›, entries, rfl, hentries⟩
    · cases h
  · rintro ⟨rfl, entries, rfl, hentries⟩
    rw [encodeByKind_object hk, hentries]
    rfl

/-- Whatever record or enumeration encodes a case encodes it as its text. -/
theorem eq_str_of_encode {enumeration case : String} (hk : g.kind? t = some k)
    (hnamed : k.isRecord || k.isEnumeration) (h : g.encode t (.enumCase enumeration case) = .ok w) :
    w = .str case := by
  cases k with
  | record r => cases encodeStep_of_encode hg hx hk rfl h
  | enumeration e =>
      cases encodeStep_of_encode hg hx hk rfl h with
      | enumeration => rfl
  | any | null | bool | integer | double | text | array | map | union | formatted => cases hnamed

/-- Whatever record or enumeration encodes an object is a record of its label. -/
theorem exists_record_of_encode {name : String} (hk : g.kind? t = some k)
    (hnamed : k.isRecord || k.isEnumeration) (h : g.encode t (.object name fields) = .ok w) :
    ∃ r, k = .record r ∧ r.name = name := by
  cases k with
  | record r => exact ⟨r, rfl, ((encode_object_eq_ok hg hx hk).1 h).1.symm⟩
  | enumeration e => cases encodeStep_of_encode hg hx hk rfl h
  | any | null | bool | integer | double | text | array | map | union | formatted => cases hnamed

/-- A record encodes no object that one of its properties tells apart. -/
theorem not_encode_of_tellsApart (hp : g.DistinctProperties) (hk : g.kind? t = some (.record r))
    (hapart : g.TellsApart r r') (hvalues : ∀ name, g.HasFieldValue r' name (valueOf name fields)) :
    g.encode t (.object r'.name fields) ≠ .ok w := by
  intro h
  obtain ⟨-, entries, -, hentries⟩ := (encode_object_eq_ok hg hx hk).1 h
  obtain ⟨p, hpr, hnone⟩ := hapart
  obtain ⟨a, ha, -⟩ := (encodeFields_ok (hp t r hk) hentries).1 p hpr
  exact hnone _ (hvalues p.name) a ha

/-- Records with the same properties encode an object alike. -/
theorem encode_congr_of_properties {t' : TypeRef} {name : String} {w' : Value}
    (hk : g.kind? t = some (.record r)) (hk' : g.kind? t' = some (.record r'))
    (hproperties : r.properties = r'.properties) (h : g.encode t (.object name fields) = .ok w)
    (h' : g.encode t' (.object name fields) = .ok w') : w = w' := by
  obtain ⟨-, entries, rfl, hentries⟩ := (encode_object_eq_ok hg hx hk).1 h
  obtain ⟨-, entries', rfl, hentries'⟩ := (encode_object_eq_ok hg hx hk').1 h'
  rw [hproperties, hentries'] at hentries
  cases hentries
  rfl

/-- A record keeps the properties of the objects that it has decoded. -/
theorem keepsProperties_of_encode (hp : g.DistinctProperties) (hk : g.kind? t = some (.record r))
    {v : Value} (h : g.decode t v = .ok x) (hw : g.encode t x = .ok w) :
    g.KeepsProperties r x w := by
  rw [decode_byKind hg hx hk rfl] at h
  cases decodeStep_of_decodeByKind hk h with
  | @record _ _ fields hfields =>
      obtain ⟨-, entries, rfl, hentries⟩ := (encode_object_eq_ok hg hx hk).1 hw
      refine ⟨fields, entries, rfl, rfl, fun p hpr => ?_⟩
      obtain ⟨y, -, hfind⟩ := (decodeFields_ok (hp t r hk) hfields).1 p hpr
      obtain ⟨a, ha, hentry⟩ := (encodeFields_ok (hp t r hk) hentries).1 p hpr
      refine ⟨y, hfind, ?_⟩
      rw [valueOf, hfind, Option.getD_some] at ha
      rw [hentry, ha]
      cases a <;> rfl

/-- A member in front of the one that has decoded a value encodes it alike or not at all, if labels
are apart. -/
theorem encode_eq_of_front (hp : g.DistinctProperties) {m c : TypeRef} {k' : Kind} {v w' : Value}
    (hm : g.kind? m = some k) (hc : g.kind? c = some k') (hnamed : k.isRecord || k.isEnumeration)
    (hnamed' : k'.isRecord || k'.isEnumeration)
    (hapart : ∀ r r', k' = .record r → k = .record r' → r.name = r'.name →
      r.properties = r'.properties ∨ g.TellsApart r r')
    (h : g.decode m v = .ok x) (hw : g.encode m x = .ok w) (hw' : g.encode c x = .ok w') :
    w' = w := by
  cases k with
  | enumeration e =>
      rw [decode_byKind hg hx hm rfl] at h
      cases decodeStep_of_decodeByKind hm h with
      | enumeration e s =>
          rw [eq_str_of_encode hg hx hc hnamed' hw', eq_str_of_encode hg hx hm hnamed hw]
  | record r' =>
      rw [decode_byKind hg hx hm rfl] at h
      cases decodeStep_of_decodeByKind hm h with
      | record hfields =>
          obtain ⟨r, rfl, hname⟩ := exists_record_of_encode hg hx hc hnamed' hw'
          rcases hapart r r' rfl rfl hname with hsame | htells
          · exact encode_congr_of_properties hg hx hc hm hsame hw' hw
          · exact absurd hw' (not_encode_of_tellsApart hg hx hp hc htells
              (hasFieldValue_of_decodeFields (hp m r' hm) hfields))
  | any | null | bool | integer | double | text | array | map | union | formatted => cases hnamed

omit hg hx in
/-- In an accepted graph without transformations and with distinct property names, a union of
records and enumerations encodes what it has decoded as the first member does that decodes the
value, and keeps all its properties, if labels are apart. -/
theorem encode_eq_of_chosen {types : Array Node} {topLevels : List TopLevel}
    (hmake : make types topLevels = .ok g) (hp : g.DistinctProperties)
    (hnone : ∀ t, g.transformation? t = none) {u : TypeRef} {ms : List TypeRef}
    (hk : g.kind? u = some (.union ms))
    (hnamed : ∀ m ∈ ms, g.kindHolds (fun k => k.isRecord || k.isEnumeration) m)
    (hapart : g.LabelsApart ms) (v x : Value) (m : TypeRef) (h : g.decode u v = .ok x)
    (hm : g.chosen? .decode ms v = some m) :
    g.encode u x = g.encode m x ∧
      ∃ w, g.encode m x = .ok w ∧ ∀ r, g.kind? m = some (.record r) → g.KeepsProperties r x w := by
  have hg : g.Accepted := accepted_of_make hmake
  have hx : g.OnlyIntegerTexts := fun t transformation ht => by
    rw [hnone t] at ht
    cases ht
  obtain ⟨m', hm', hdecode⟩ := (convert_union_eq_ok hg hx hk).1 h
  obtain rfl : m = m' := Option.some.inj (hm.symm.trans hm')
  obtain ⟨hmem, -⟩ := mem_of_chosen? hm
  obtain ⟨w, hw⟩ := exists_encode_of_accepted hg hx hp hdecode
  -- The member that encodes is the one that has decoded, or stands in front of it.
  obtain ⟨w', hw'⟩ := exists_encode_of_accepted hg hx hp h
  obtain ⟨c, hc, hencode⟩ := (convert_union_eq_ok hg hx hk).1 hw'
  have hsame : w' = w := by
    rcases chosen?_eq_or_front hapart hc hmem hw with rfl | hfront
    · exact Except.ok.inj (hencode.symm.trans hw)
    · obtain ⟨k, hmk⟩ := kind?_isSome (hg.refs hk m hmem)
      obtain ⟨k', hck⟩ := kind?_isSome (hg.refs hk c (mem_of_chosen? hc).1)
      have hkind := hnamed m hmem
      have hkind' := hnamed c (mem_of_chosen? hc).1
      rw [kindHolds_eq hmk] at hkind
      rw [kindHolds_eq hck] at hkind'
      refine encode_eq_of_front hg hx hp hmk hck hkind hkind' ?_ hdecode hw hencode
      rintro r r' rfl rfl
      exact hfront r r' hck hmk
  refine ⟨by rw [hw', hw, hsame], w, hw, fun r hmk => ?_⟩
  exact keepsProperties_of_encode hg hx hp hmk hdecode hw

omit hg hx

/-- A unit, a circle with its radius, or a square with its side and perhaps a color. -/
def shapeGraph : TypeGraph where
  types := #[⟨.null, none⟩, ⟨.integer, none⟩, ⟨.text, none⟩, ⟨.union [⟨0⟩, ⟨2⟩], none⟩,
    ⟨.enumeration ⟨"Shape", ["unit"], none⟩, none⟩,
    ⟨.record ⟨"Shape", [⟨"radius", ⟨1⟩, none⟩, ⟨"color", ⟨3⟩, none⟩], none⟩, none⟩,
    ⟨.record ⟨"Shape", [⟨"side", ⟨1⟩, none⟩, ⟨"color", ⟨3⟩, none⟩], none⟩, none⟩,
    ⟨.union [⟨4⟩, ⟨5⟩, ⟨6⟩], none⟩]
  topLevels := [⟨"Shapes", ⟨7⟩⟩]

/-- Circles tell squares apart, since squares have no radius. -/
theorem shapeGraph_apart : shapeGraph.LabelsApart [⟨4⟩, ⟨5⟩, ⟨6⟩] := by
  refine .cons (fun _ _ r _ h => ?_) (.cons (fun m hm r r' h h' _ => ?_) (.cons ?_ .nil))
  · cases h
  · obtain rfl := List.mem_singleton.1 hm
    cases h
    cases h'
    refine .inr ⟨_, List.mem_cons_self, fun y hy a ha => ?_⟩
    rcases hy with ⟨p, hp, hname, -⟩ | ⟨-, rfl⟩
    · have hmem : "radius" ∈ ["side", "color"] := List.mem_map.2 ⟨p, hp, hname⟩
      exact absurd hmem (by decide)
    · cases ha
  · exact nofun

/-- A square is encoded as a square, though circles are tried first and have the label. -/
theorem encode_eq_of_chosen_square :
    let given : Value := .dict [("side", .int 2)]
    let square : Value := .object "Shape" [("color", .none), ("side", .int 2)]
    make shapeGraph.types shapeGraph.topLevels = .ok shapeGraph ∧ shapeGraph.DistinctProperties ∧
      (∀ t, shapeGraph.transformation? t = none) ∧
      shapeGraph.decode ⟨7⟩ given = .ok square ∧
      shapeGraph.chosen? .decode [⟨4⟩, ⟨5⟩, ⟨6⟩] given = some ⟨6⟩ ∧
      shapeGraph.encode ⟨7⟩ square = shapeGraph.encode ⟨6⟩ square ∧
      ∃ w, shapeGraph.encode ⟨6⟩ square = .ok w ∧
        ∀ r, shapeGraph.kind? ⟨6⟩ = some (.record r) → shapeGraph.KeepsProperties r square w := by
  intro given square
  have hmake : make shapeGraph.types shapeGraph.topLevels = .ok shapeGraph :=
    make_eq_self rfl (by decide)
  have hp : shapeGraph.DistinctProperties := by
    rintro ⟨_ | _ | _ | _ | _ | _ | _ | _ | i⟩ r h
    any_goals cases h
    all_goals decide
  have hnone : ∀ t, shapeGraph.transformation? t = none := by
    rintro ⟨_ | _ | _ | _ | _ | _ | _ | _ | i⟩ <;> rfl
  have hdecode : shapeGraph.decode ⟨7⟩ given = .ok square := rfl
  have hchosen : shapeGraph.chosen? .decode [⟨4⟩, ⟨5⟩, ⟨6⟩] given = some ⟨6⟩ := rfl
  exact ⟨hmake, hp, hnone, hdecode, hchosen, encode_eq_of_chosen hmake hp hnone rfl (by decide)
    shapeGraph_apart given square ⟨6⟩ hdecode hchosen⟩

/-- Items with a note, or with a count. -/
def itemGraph : TypeGraph where
  types := #[⟨.null, none⟩, ⟨.integer, none⟩, ⟨.text, none⟩, ⟨.union [⟨0⟩, ⟨2⟩], none⟩,
    ⟨.record ⟨"Item", [⟨"note", ⟨3⟩, none⟩], none⟩, none⟩,
    ⟨.record ⟨"Item", [⟨"count", ⟨1⟩, none⟩], none⟩, none⟩, ⟨.union [⟨4⟩, ⟨5⟩], none⟩]
  topLevels := [⟨"Items", ⟨6⟩⟩]

/-- An item whose note is no text is decoded as an item with a count, and then encoded as an item
with a note, which drops the count. -/
theorem encode_drops_property :
    let given : Value := .dict [("count", .int 1), ("note", .int 5)]
    let item : Value := .object "Item" [("count", .int 1)]
    make itemGraph.types itemGraph.topLevels = .ok itemGraph ∧ itemGraph.DistinctProperties ∧
      (∀ t, itemGraph.transformation? t = none) ∧
      itemGraph.kind? ⟨6⟩ = some (.union [⟨4⟩, ⟨5⟩]) ∧
      (∀ m ∈ [⟨4⟩, ⟨5⟩], itemGraph.kindHolds (fun k => k.isRecord || k.isEnumeration) m) ∧
      itemGraph.decode ⟨6⟩ given = .ok item ∧
      itemGraph.chosen? .decode [⟨4⟩, ⟨5⟩] given = some ⟨5⟩ ∧
      itemGraph.encode ⟨5⟩ item = .ok (.dict [("count", .int 1)]) ∧
      itemGraph.encode ⟨6⟩ item = .ok (.dict []) := by
  refine ⟨make_eq_self rfl (by decide), ?_, ?_, rfl, by decide, rfl, rfl, rfl, rfl⟩
  · rintro ⟨_ | _ | _ | _ | _ | _ | _ | i⟩ r h
    any_goals cases h
    all_goals decide
  · rintro ⟨_ | _ | _ | _ | _ | _ | _ | i⟩ <;> rfl

end TypeGraph

end TypedJson
