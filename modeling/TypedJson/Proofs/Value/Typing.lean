import TypedJson.Proofs.Graph.Reordering
import TypedJson.Proofs.Value.Choice
import TypedJson.Proofs.Value.Induction

/-!
# Types of decoded values

`Inhabits` is the typing of values: which values a type decodes to, said without decoding. Decoding
is sound for it (`inhabits_of_decode`), and whatever it gives is encoded again by the same type
(`exists_encode_of_decode`), whatever the unions are made of. Both are inductions on decoding.
-/

namespace TypedJson

open Ordered Outcome

namespace TypeGraph

/-- The value is one of the type. -/
inductive Inhabits (g : TypeGraph) : TypeRef → Value → Prop
  | any {t : TypeRef} {x : Value} (hk : g.kind? t = some .any) : Inhabits g t x
  | null {t : TypeRef} (hk : g.kind? t = some .null) : Inhabits g t .none
  | bool {t : TypeRef} {b : Bool} (hk : g.kind? t = some .bool) : Inhabits g t (.bool b)
  | integer {t : TypeRef} {i : Int} (hk : g.kind? t = some .integer) : Inhabits g t (.int i)
  | double {t : TypeRef} {x : Binary64} (hk : g.kind? t = some .double) : Inhabits g t (.float x)
  | text {t : TypeRef} {s : String} (hk : g.kind? t = some .text) : Inhabits g t (.str s)
  | dateTime {t : TypeRef} {time : Timestamp} (hk : g.kind? t = some (.formatted .dateTime)) :
      Inhabits g t (.dateTime time)
  | integerText {t : TypeRef} {i : Int} (hk : g.kind? t = some (.formatted .integerText)) :
      Inhabits g t (.int i)
  | array {t items : TypeRef} {xs : List Value} (hk : g.kind? t = some (.array items))
      (h : ∀ x ∈ xs, Inhabits g items x) : Inhabits g t (.list xs)
  | map {t values : TypeRef} {entries : List (String × Value)}
      (hk : g.kind? t = some (.map values)) (h : ∀ entry ∈ entries, Inhabits g values entry.2) :
      Inhabits g t (.dict entries)
  /-- The fields are those of the properties, each once and each of its type. -/
  | record {t : TypeRef} {r : Record} {fields : List (String × Value)}
      (hk : g.kind? t = some (.record r))
      (hnames : (fields.map Prod.fst).Perm (r.properties.map Property.name))
      (h : ∀ p ∈ r.properties, ∀ x, find? p.name fields = some x → Inhabits g p.type x) :
      Inhabits g t (.object r.name fields)
  | enumeration {t : TypeRef} {e : Enumeration} {case : String}
      (hk : g.kind? t = some (.enumeration e)) (hcase : case ∈ e.cases) :
      Inhabits g t (.enumCase e.name case)
  | union {t m : TypeRef} {ms : List TypeRef} {x : Value} (hk : g.kind? t = some (.union ms))
      (hm : m ∈ ms) (h : Inhabits g m x) : Inhabits g t x

variable {g : TypeGraph} {t : TypeRef} {k : Kind} {v x : Value}

/-! ## Soundness -/

/-- Decoding as an enumeration gives one of its cases. -/
theorem mem_cases_of_decode {e : Enumeration} {s : String}
    (h : e.decode (.str s) = .ok x) : s ∈ e.cases := by
  rw [Enumeration.decode] at h
  split at h
  · exact List.contains_iff_mem.1 ‹_›
  · cases h

section Decoding

variable (hg : g.Accepted) (hx : g.OnlyIntegerTexts) (hp : g.DistinctProperties)
include hg hx hp

/-- What a type decodes to inhabits it. -/
theorem inhabits_of_accepted (h : g.decode t v = .ok x) : g.Inhabits t x := by
  refine decode_induction hg hx (motive := fun t _ x => g.Inhabits t x) ?_ ?_ h
  · intro t s i hk _ _
    exact .integerText hk
  · intro t k v x hk hne h hstep hpart hmember
    cases hstep with
    | any => exact .any hk
    | null => exact .null hk
    | bool => exact .bool hk
    | integer => exact .integer hk
    | double | float => exact .double hk
    | text => exact .text hk
    | dateTime => exact .dateTime hk
    | array hitems =>
        refine .array hk fun y hy => ?_
        obtain ⟨w, hw, hwy⟩ := exists_of_forall₂ hitems hy
        exact hpart _ w y (Value.depth_lt_list hw) hwy
    | map hentries =>
        refine .map hk fun entry hentry => ?_
        obtain ⟨given, hgiven, hrun⟩ := exists_of_forall₂ hentries hentry
        exact hpart _ given.2 entry.2 (Value.depth_lt_dict hgiven) hrun
    | @record r entries fields hfields =>
        have hnames := hp t r hk
        refine .record hk ?_ fun p hp y hy => ?_
        · simpa using keys_decodeFields hnames (fun _ _ => List.not_mem_nil) hfields
        · obtain ⟨a, ha, hfind⟩ := (decodeFields_ok hnames hfields).1 p hp
          rw [hy] at hfind
          cases hfind
          exact hpart _ _ y (Value.depth_lt_of_find? (valueOf_eq_or p.name entries)) ha
    | enumeration e s =>
        rw [decode_byKind hg hx hk hne, decodeByKind, kindOf_eq hk] at h
        exact .enumeration hk (mem_cases_of_decode h)
    | union hm hrun => exact .union hk hm (hmember _ rfl _ hm _ hrun)

/-! ## Encoding again -/

/-- What a type decodes to is encoded by it. -/
theorem exists_encode_of_accepted (h : g.decode t v = .ok x) : ∃ w, g.encode t x = .ok w := by
  refine decode_induction hg hx (motive := fun t _ x => ∃ w, g.encode t x = .ok w) ?_ ?_ h
  · intro t s i _ _ hrule
    exact ⟨_, hrule .encode (.int i)⟩
  · intro t k v x hk hne _ hstep hpart hmember
    rw [encode_byKind hg hx hk hne, encodeByKind, kindOf_eq hk]
    cases hstep with
    | any | null | bool | integer | double | float | text | dateTime => exact ⟨_, rfl⟩
    | enumeration e s => exact ⟨_, if_pos rfl⟩
    | @array items _ xs hitems =>
        have hencode : ∀ y ∈ xs, ∃ w, g.encode items y = .ok w := by
          intro y hy
          obtain ⟨w, hw, hwy⟩ := exists_of_forall₂ hitems hy
          exact hpart _ w y (Value.depth_lt_list hw) hwy
        obtain ⟨ws, hws⟩ := exists_forall₂ hencode
        exact ⟨.list ws, map_eq_ok.2 ⟨ws, mapM_eq_ok.2 hws, rfl⟩⟩
    | @map values _ xs hentries =>
        have hencode : ∀ entry ∈ xs, ∃ w : String × Value,
            (g.encode values entry.2).map (fun value => (entry.1, value)) = .ok w := by
          intro entry hentry
          obtain ⟨given, hgiven, hrun⟩ := exists_of_forall₂ hentries hentry
          obtain ⟨w, hw⟩ := hpart _ given.2 entry.2 (Value.depth_lt_dict hgiven) hrun
          exact ⟨(entry.1, w), map_eq_ok.2 ⟨w, hw, rfl⟩⟩
        obtain ⟨ws, hws⟩ := exists_forall₂ hencode
        exact ⟨.dict ws, map_eq_ok.2 ⟨ws, mapM_eq_ok.2 hws, rfl⟩⟩
    | @record r entries fields hfields =>
        have hnames := hp t r hk
        have hencode : ∀ p ∈ r.properties, ∃ a,
            encodeField g.isNullable g.encode p.type (valueOf p.name fields) = .ok a := by
          intro p hp
          obtain ⟨y, hy, hfind⟩ := (decodeFields_ok hnames hfields).1 p hp
          obtain ⟨w, hw⟩ := hpart _ _ y (Value.depth_lt_of_find? (valueOf_eq_or p.name entries)) hy
          rw [encodeField, valueOf, hfind, Option.getD_some]
          split
          · exact ⟨_, rfl⟩
          · exact ⟨some w, map_eq_ok.2 ⟨w, hw, rfl⟩⟩
        obtain ⟨ws, hws⟩ := encodeFields_exists [] hnames hencode
        refine ⟨.dict ws, ?_⟩
        show (if r.name = r.name then _ else _) = _
        rw [if_pos rfl]
        exact map_eq_ok.2 ⟨ws, hws, rfl⟩
    -- The member that has decoded the value encodes it, if no other one does before.
    | @union ms m _ _ hm hrun =>
        exact exists_firstSuccess (settled_members hg hx hk .encode x) hm
          (hmember _ rfl _ hm _ hrun) 0

end Decoding

/-- In an accepted graph with distinct property names, whose transformations are those of integers
in texts, a type decodes a value to one that inhabits it. -/
theorem inhabits_of_decode {types : Array Node} {topLevels : List TopLevel}
    (hmake : make types topLevels = .ok g) (hp : g.DistinctProperties) (hx : g.OnlyIntegerTexts)
    (t : TypeRef) (v x : Value) (h : g.decode t v = .ok x) : g.Inhabits t x :=
  inhabits_of_accepted (accepted_of_make hmake) hx hp h

/-- Records of one label, lists of counts and lists of anything in one union. -/
def eventGraph : TypeGraph where
  types := #[⟨.null, none⟩, ⟨.integer, none⟩, ⟨.text, none⟩,
    ⟨.formatted .integerText, some (Builder.integerTextTransformation ⟨2⟩ ⟨1⟩)⟩, ⟨.any, none⟩,
    ⟨.array ⟨3⟩, none⟩, ⟨.array ⟨4⟩, none⟩,
    ⟨.record ⟨"Event", [⟨"count", ⟨1⟩, none⟩], none⟩, none⟩,
    ⟨.record ⟨"Event", [⟨"count", ⟨3⟩, none⟩, ⟨"next", ⟨9⟩, none⟩], none⟩, none⟩,
    ⟨.union [⟨0⟩, ⟨7⟩, ⟨8⟩, ⟨5⟩, ⟨6⟩], none⟩]
  topLevels := [⟨"Events", ⟨9⟩⟩]

/-- The types of events are accepted, with distinct property names and transformations of integers
in texts only. -/
theorem eventGraph_fits : make eventGraph.types eventGraph.topLevels = .ok eventGraph ∧
    eventGraph.DistinctProperties ∧ eventGraph.OnlyIntegerTexts := by
  refine ⟨make_eq_self rfl (by decide), ?_, ?_⟩
  · rintro ⟨_ | _ | _ | _ | _ | _ | _ | _ | _ | _ | i⟩ r h
    any_goals cases h
    all_goals decide
  · rintro ⟨_ | _ | _ | _ | _ | _ | _ | _ | _ | _ | i⟩ x h
    any_goals cases h
    exact ⟨rfl, ⟨2⟩, ⟨1⟩, rfl, rfl, rfl⟩

/-- An event whose count is a text, with a list of anything behind it. -/
def textEvent : Value :=
  .dict [("count", .str "12"), ("next", .list [.str "7", .bool true])]

/-- The event that it is decoded to. -/
def decodedEvent : Value :=
  .object "Event" [("count", .int 12), ("next", .list [.str "7", .bool true])]

/-- The first record of events does not decode the event, and the second one decodes it to an event
that inhabits the union. -/
theorem inhabits_of_decode_event :
    make eventGraph.types eventGraph.topLevels = .ok eventGraph ∧ eventGraph.DistinctProperties ∧
      eventGraph.OnlyIntegerTexts ∧ eventGraph.decode ⟨9⟩ textEvent = .ok decodedEvent ∧
      eventGraph.Inhabits ⟨9⟩ decodedEvent := by
  obtain ⟨hmake, hp, hx⟩ := eventGraph_fits
  have hdecode : eventGraph.decode ⟨9⟩ textEvent = .ok decodedEvent := rfl
  exact ⟨hmake, hp, hx, hdecode, inhabits_of_decode hmake hp hx ⟨9⟩ textEvent decodedEvent hdecode⟩

/-- In an accepted graph with distinct property names, whose transformations are those of integers
in texts, what a type decodes a value to is encoded by the type. -/
theorem exists_encode_of_decode {types : Array Node} {topLevels : List TopLevel}
    (hmake : make types topLevels = .ok g) (hp : g.DistinctProperties) (hx : g.OnlyIntegerTexts)
    (t : TypeRef) (v x : Value) (h : g.decode t v = .ok x) : ∃ w, g.encode t x = .ok w :=
  exists_encode_of_accepted (accepted_of_make hmake) hx hp h

/-- The decoded event is encoded by the union that has decoded it. -/
theorem exists_encode_of_decode_event :
    make eventGraph.types eventGraph.topLevels = .ok eventGraph ∧ eventGraph.DistinctProperties ∧
      eventGraph.OnlyIntegerTexts ∧ eventGraph.decode ⟨9⟩ textEvent = .ok decodedEvent ∧
      ∃ w, eventGraph.encode ⟨9⟩ decodedEvent = .ok w := by
  obtain ⟨hmake, hp, hx⟩ := eventGraph_fits
  have hdecode : eventGraph.decode ⟨9⟩ textEvent = .ok decodedEvent := rfl
  exact ⟨hmake, hp, hx, hdecode,
    exists_encode_of_decode hmake hp hx ⟨9⟩ textEvent decodedEvent hdecode⟩

end TypeGraph

end TypedJson
