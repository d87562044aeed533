import TypedJson.Proofs.Number.Finite
import TypedJson.Proofs.Value.Induction
import TypedJson.Proofs.Value.Unchecked

/-!
# Numbers of converted values

JSON has finite numbers only, and integers of 64 bits. The values that it is read into have such
numbers, and conversions keep to them (`inRange_of_decode`, `inRange_of_encode`). What is made of
JSON data with numbers in range can be written as JSON (`Value.exists_toJson`).
-/

namespace TypedJson

open Ordered Outcome

/-- The numbers of the value are ones that JSON text stands for. -/
inductive Json.InRange : Json → Prop
  | null : InRange .null
  | bool (b : Bool) : InRange (.bool b)
  | int {i : Int} (h : -0x8000000000000000 ≤ i ∧ i < 0x10000000000000000) : InRange (.int i)
  | float {x : Binary64} (h : x.IsFinite) : InRange (.float x)
  | text (s : String) : InRange (.text s)
  | list {items : List Json} (h : ∀ item ∈ items, item.InRange) : InRange (.list items)
  | object {members : List (String × Json)} (h : ∀ member ∈ members, member.2.InRange) :
      InRange (.object members)

namespace Value

/-- The integers of the value fit a signed 64-bit word, and its other numbers are finite. -/
inductive InRange : Value → Prop
  | none : InRange .none
  | bool (b : Bool) : InRange (.bool b)
  | int {i : Int} (h : -0x8000000000000000 ≤ i ∧ i < 0x8000000000000000) : InRange (.int i)
  | float {x : Binary64} (h : x.IsFinite) : InRange (.float x)
  | str (s : String) : InRange (.str s)
  | list {items : List Value} (h : ∀ item ∈ items, item.InRange) : InRange (.list items)
  | dict {entries : List (String × Value)} (h : ∀ entry ∈ entries, entry.2.InRange) :
      InRange (.dict entries)
  | dateTime (t : Timestamp) : InRange (.dateTime t)
  | enumCase (enumeration case : String) : InRange (.enumCase enumeration case)
  | object (record : String) {fields : List (String × Value)}
      (h : ∀ field ∈ fields, field.2.InRange) : InRange (.object record fields)

/-- Being in range is hereditary. -/
theorem hereditary_inRange : Hereditary InRange where
  none := .none
  str := .str
  list := ⟨fun h => by cases h with | list h => exact h, .list⟩
  dict := ⟨fun h => by cases h with | dict h => exact h, .dict⟩
  fields h := by cases h with | object _ h => exact h

/-! ## Reading -/

mutual
/-- What JSON is read into has its numbers in range. -/
theorem inRange_ofJson : ∀ document : Json, document.InRange → (ofJson document).InRange
  | .null, _ => .none
  | .bool b, _ => .bool b
  | .int i, h => by
      cases h with
      | int hi =>
          unfold ofJson
          split
          · exact .int ‹_›
          · exact .float (Binary64.isFinite_ofInt (by omega))
  | .float x, h => by
      cases h with
      | float hx => exact .float hx
  | .text s, _ => .str s
  | .list items, h => by
      cases h with
      | list h => exact .list (inRange_ofJsonItems items h)
  | .object members, h => by
      cases h with
      | object h =>
          exact .dict fun _ hentry =>
            inRange_ofJsonMembers members h _ (mem_of_mem_ofEntries hentry)
  | .unreadable, _ => .none

/-- So have the values of items. -/
theorem inRange_ofJsonItems : ∀ items : List Json, (∀ item ∈ items, item.InRange) →
    ∀ v ∈ ofJsonItems items, v.InRange
  | [], _ => List.forall_mem_nil _
  | item :: rest, h =>
      have ⟨hitem, hrest⟩ := List.forall_mem_cons.1 h
      List.forall_mem_cons.2 ⟨inRange_ofJson item hitem, inRange_ofJsonItems rest hrest⟩

/-- So have the values of members. -/
theorem inRange_ofJsonMembers : ∀ members : List (String × Json),
    (∀ member ∈ members, member.2.InRange) → ∀ entry ∈ ofJsonMembers members, entry.2.InRange
  | [], _ => List.forall_mem_nil _
  | (_, value) :: rest, h =>
      have ⟨hvalue, hrest⟩ := List.forall_mem_cons.1 h
      List.forall_mem_cons.2 ⟨inRange_ofJson value hvalue, inRange_ofJsonMembers rest hrest⟩
end

/-! ## Writing -/

/-- The items of a list are written if each of them is. -/
theorem exists_toJsonItems {items : List Value} (h : ∀ item ∈ items, ∃ j, item.toJson = .ok j) :
    ∃ js, toJsonItems items = .ok js := by
  induction items with
  | nil => exact ⟨[], rfl⟩
  | cons item rest ih =>
      obtain ⟨⟨j, hj⟩, hrest⟩ := List.forall_mem_cons.1 h
      obtain ⟨js, hjs⟩ := ih hrest
      exact ⟨j :: js, by rw [toJsonItems, hj, hjs]; rfl⟩

/-- The values of a dict are written if each of them is. -/
theorem exists_toJsonEntries {entries : List (String × Value)}
    (h : ∀ entry ∈ entries, ∃ j, entry.2.toJson = .ok j) :
    ∃ members, toJsonEntries entries = .ok members := by
  induction entries with
  | nil => exact ⟨[], rfl⟩
  | cons entry rest ih =>
      obtain ⟨⟨j, hj⟩, hrest⟩ := List.forall_mem_cons.1 h
      obtain ⟨members, hmembers⟩ := ih hrest
      exact ⟨(entry.1, j) :: members, by rw [toJsonEntries, hj, hmembers]; rfl⟩

/-- JSON data with its numbers in range has a JSON text. -/
theorem exists_toJson {w : Value} (hplain : w.Plain) (hrange : w.InRange) :
    ∃ document, w.toJson = .ok document := by
  induction hplain with
  | none => exact ⟨_, rfl⟩
  | bool b => exact ⟨_, rfl⟩
  | int i => exact ⟨_, rfl⟩
  | float x =>
      cases hrange with
      | float hx =>
          refine ⟨.float x, ?_⟩
          rw [toJson, hx.1, hx.2]
          rfl
  | str s => exact ⟨_, rfl⟩
  | list _ ih =>
      have hitems := hereditary_inRange.list.1 hrange
      obtain ⟨js, hjs⟩ := exists_toJsonItems fun item hitem => ih item hitem (hitems item hitem)
      exact ⟨.list js, by rw [toJson, hjs]; rfl⟩
  | dict _ ih =>
      have hentries := hereditary_inRange.dict.1 hrange
      obtain ⟨members, hmembers⟩ :=
        exists_toJsonEntries fun entry hentry => ih entry hentry (hentries entry hentry)
      exact ⟨.object members, by rw [toJson, hmembers]; rfl⟩

end Value

/-! ## Converting -/

namespace TypeGraph

variable {g : TypeGraph} {t : TypeRef} {v x w : Value} (hg : g.Accepted) (hx : g.OnlyIntegerTexts)
include hg hx

/-- Decoding keeps numbers in range. -/
theorem inRange_of_decode (h : g.decode t v = .ok x) : v.InRange → x.InRange := by
  refine decode_induction hg hx (motive := fun _ v x => v.InRange → x.InRange) ?_ ?_ h
  · intro t s i _ hparse _ _
    exact .int (Integer.parse?_bounds hparse)
  · intro t k v x _ _ _ hstep hpart hmember hv
    cases hstep with
    | any | null | bool | integer | float | text => exact hv
    | double i =>
        cases hv with
        | int hi => exact .float (Binary64.isFinite_ofInt (by omega))
    | dateTime => exact .dateTime _
    | enumeration e s => exact .enumCase e.name s
    | array hitems =>
        have hvalues := Value.hereditary_inRange.list.1 hv
        refine .list fun y hy => ?_
        obtain ⟨z, hz, hzy⟩ := exists_of_forall₂ hitems hy
        exact hpart _ z y (Value.depth_lt_list hz) hzy (hvalues z hz)
    | map hentries =>
        have hvalues := Value.hereditary_inRange.dict.1 hv
        refine .dict fun entry hentry => ?_
        obtain ⟨given, hgiven, hrun⟩ := exists_of_forall₂ hentries hentry
        exact hpart _ given.2 entry.2 (Value.depth_lt_dict hgiven) hrun (hvalues given hgiven)
    | record hfields =>
        have hvalues := Value.hereditary_inRange.dict.1 hv
        refine .object _ (forall_decodeFields (List.forall_mem_nil _) ?_ hfields)
        intro p _ z y hz hy
        exact hpart _ z y (Value.depth_lt_of_find? hz) hy
          (Value.hereditary_inRange.of_find? hvalues hz)
    | union hm hrun => exact hmember _ rfl _ hm _ hrun hv

/-- Encoding keeps numbers in range. -/
theorem inRange_of_encode (h : g.encode t x = .ok w) : x.InRange → w.InRange :=
  hereditary_of_encode hg hx Value.hereditary_inRange h

end TypeGraph

end TypedJson
