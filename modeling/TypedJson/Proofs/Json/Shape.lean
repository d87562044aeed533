import TypedJson.Json.Shape
import TypedJson.Graph.Writer
import TypedJson.Proofs.Json.Roundtrip

/-!
# Members and nesting of JSON values

An object that is written as a row of members, some of which are left out when they are absent, is
read by name: a member is found among others of other names. How deep a value nests bounds how
deep its members and items nest, which is what a reader with a limit on the nesting needs.
-/

namespace TypedJson.Json

variable {α : Type} {name : String} {read : Json → Option α} {front back : List (String × Json)}

/-! ## Members -/

/-- Members of other names may stand behind the one that is asked for. -/
theorem uniqueMember?_append_right (h : ∀ m ∈ back, m.1 ≠ name) :
    uniqueMember? name (front ++ back) = uniqueMember? name front := by
  have hback : (back.filter fun m => m.1 == name) = [] :=
    List.filter_eq_nil_iff.2 fun m hm => by simpa using h m hm
  rw [uniqueMember?, List.filter_append, hback, List.append_nil, uniqueMember?]

/-- They may also stand in front of it. -/
theorem uniqueMember?_append_left (h : ∀ m ∈ front, m.1 ≠ name) :
    uniqueMember? name (front ++ back) = uniqueMember? name back := by
  have hfront : (front.filter fun m => m.1 == name) = [] :=
    List.filter_eq_nil_iff.2 fun m hm => by simpa using h m hm
  rw [uniqueMember?, List.filter_append, hfront, List.nil_append, uniqueMember?]

/-- What is not null is there. -/
theorem nullable?_of_ne {j : Json} (h : j ≠ .null) : nullable? read j = (read j).map some := by
  cases j with
  | null => exact absurd rfl h
  | bool | int | float | text | list | object | unreadable => rfl

/-- An optional member has its own name. -/
theorem fst_of_mem_optionalMember {value : Option Json} {m : String × Json}
    (h : m ∈ optionalMember name value) : m.1 = name := by
  cases value with
  | none => cases h
  | some value => rw [List.mem_singleton.1 h]

/-- An optional member that was written or left out behind others is read as it was. -/
theorem optional?_append_optionalMember (hfront : ∀ m ∈ front, m.1 ≠ name) {value : Option α}
    {write : α → Json} (hnull : ∀ a, write a ≠ .null)
    (hread : ∀ a, value = some a → read (write a) = some a) :
    optional? name read (front ++ optionalMember name (value.map write)) = some value := by
  rw [optional?, uniqueMember?_append_left hfront]
  cases value with
  | none => rfl
  | some a =>
      have hone : uniqueMember? name (optionalMember name (some (write a))) = some (some (write a)) := by
        simp [uniqueMember?, optionalMember]
      rw [Option.map_some, hone]
      dsimp only
      rw [nullable?_of_ne (hnull a), hread a rfl]
      rfl

/-- Any other member is asked for in front of an optional one. -/
theorem uniqueMember?_append_optionalMember {other : String} (h : other ≠ name)
    (value : Option Json) :
    uniqueMember? name (front ++ optionalMember other value) = uniqueMember? name front :=
  uniqueMember?_append_right fun _ hm => fst_of_mem_optionalMember hm ▸ h

/-- So is one that has to be there. -/
theorem required?_append_optionalMember {other : String} (h : other ≠ name) (value : Option Json) :
    required? name read (front ++ optionalMember other value) = required? name read front := by
  rw [required?, uniqueMember?_append_optionalMember h, required?]

/-- So is one with a value for its absence. -/
theorem defaulted?_append_optionalMember {other : String} (h : other ≠ name) (absent : α)
    (value : Option Json) :
    defaulted? name absent read (front ++ optionalMember other value) =
      defaulted? name absent read front := by
  rw [defaulted?, uniqueMember?_append_optionalMember h, defaulted?]

/-- The items of a list are read back one by one. -/
theorem mapM_map_eq_some {write : α → Json} {items : List α}
    (h : ∀ a ∈ items, read (write a) = some a) : (items.map write).mapM read = some items := by
  induction items with
  | nil => rfl
  | cons a rest ih =>
      obtain ⟨ha, hrest⟩ := List.forall_mem_cons.1 h
      rw [List.map_cons, List.mapM_cons, ha, ih hrest]
      rfl

/-! ## Exactness and nesting -/

/-- Items are exact one by one. -/
theorem allExact_iff {items : List Json} : AllExact items ↔ ∀ item ∈ items, item.IsExact := by
  induction items with
  | nil => exact iff_of_true trivial (List.forall_mem_nil _)
  | cons item rest ih => rw [AllExact, ih, List.forall_mem_cons]

/-- So are members. -/
theorem allMembersExact_iff {members : List (String × Json)} :
    AllMembersExact members ↔ ∀ m ∈ members, m.2.IsExact := by
  induction members with
  | nil => exact iff_of_true trivial (List.forall_mem_nil _)
  | cons m rest ih => rw [AllMembersExact, ih, List.forall_mem_cons]

/-- A text is exact. -/
@[simp] theorem exact_text (s : String) : (text s).IsExact := by
  rw [IsExact] <;> simp

/-- A list of exact items is exact. -/
theorem exact_list {items : List Json} (h : ∀ item ∈ items, item.IsExact) : (list items).IsExact := by
  rw [IsExact]
  exact allExact_iff.2 h

/-- An object of exact members is exact. -/
theorem exact_object {members : List (String × Json)} (h : ∀ m ∈ members, m.2.IsExact) :
    (object members).IsExact := by
  rw [IsExact]
  exact allMembersExact_iff.2 h

/-- An optional member is exact if its value is. -/
theorem exact_optionalMember {value : Option Json} (h : ∀ j, value = some j → j.IsExact) :
    ∀ m ∈ optionalMember name value, m.2.IsExact := by
  cases value with
  | none => exact List.forall_mem_nil _
  | some j =>
      rw [optionalMember, List.forall_mem_singleton]
      exact h j rfl

mutual
/-- How many lists and objects nest in the value at most. -/
def nesting : Json → Nat
  | .list items => itemNesting items + 1
  | .object members => memberNesting members + 1
  | _ => 0

/-- How many of them nest in one of the items at most. -/
def itemNesting : List Json → Nat
  | [] => 0
  | item :: rest => max (nesting item) (itemNesting rest)

/-- How many of them nest in one of the members at most. -/
def memberNesting : List (String × Json) → Nat
  | [] => 0
  | (_, value) :: rest => max (nesting value) (memberNesting rest)
end

/-- The bound holds for the items as for each of them. -/
theorem itemNesting_le {items : List Json} {levels : Nat} :
    itemNesting items ≤ levels ↔ ∀ item ∈ items, item.nesting ≤ levels := by
  induction items with
  | nil => exact iff_of_true (Nat.zero_le levels) (List.forall_mem_nil _)
  | cons item rest ih => rw [itemNesting, Nat.max_le, ih, List.forall_mem_cons]

/-- So it does for the members. -/
theorem memberNesting_le {members : List (String × Json)} {levels : Nat} :
    memberNesting members ≤ levels ↔ ∀ m ∈ members, m.2.nesting ≤ levels := by
  induction members with
  | nil => exact iff_of_true (Nat.zero_le levels) (List.forall_mem_nil _)
  | cons m rest ih => rw [memberNesting, Nat.max_le, ih, List.forall_mem_cons]

/-- A list takes one level. -/
theorem nesting_list_le {items : List Json} {levels : Nat} (h : (list items).nesting ≤ levels) :
    ∃ fewer, levels = fewer + 1 ∧ ∀ item ∈ items, item.nesting ≤ fewer := by
  rw [nesting] at h
  cases levels with
  | zero => cases h
  | succ fewer => exact ⟨fewer, rfl, itemNesting_le.1 (Nat.le_of_succ_le_succ h)⟩

/-- So does an object. -/
theorem nesting_object_le {members : List (String × Json)} {levels : Nat}
    (h : (object members).nesting ≤ levels) :
    ∃ fewer, levels = fewer + 1 ∧ ∀ m ∈ members, m.2.nesting ≤ fewer := by
  rw [nesting] at h
  cases levels with
  | zero => cases h
  | succ fewer => exact ⟨fewer, rfl, memberNesting_le.1 (Nat.le_of_succ_le_succ h)⟩

mutual
/-- An exact value is sound within the levels it nests. -/
theorem soundWithin_of_exact : ∀ (j : Json) (levels : Nat), j.IsExact → j.nesting ≤ levels →
    j.soundWithin levels
  | .null, levels, _, _
  | .bool _, levels, _, _
  | .int _, levels, _, _
  | .text _, levels, _, _ => by cases levels <;> rfl
  | .list items, levels, hj, hlevels => by
      obtain ⟨fewer, rfl, hitems⟩ := nesting_list_le hlevels
      rw [soundWithin]
      exact allSound_of_exact items fewer hj hitems
  | .object members, levels, hj, hlevels => by
      obtain ⟨fewer, rfl, hmembers⟩ := nesting_object_le hlevels
      rw [soundWithin]
      exact allMembersSound_of_exact members fewer hj hmembers
  | .float _, _, hj, _ => hj.elim
  | .unreadable, _, hj, _ => hj.elim

/-- So are exact items. -/
theorem allSound_of_exact : ∀ (items : List Json) (levels : Nat), AllExact items →
    (∀ item ∈ items, item.nesting ≤ levels) → allSound levels items
  | [], _, _, _ => by rw [allSound]
  | item :: rest, levels, h, hlevels => by
      rw [List.forall_mem_cons] at hlevels
      rw [allSound, Bool.and_eq_true]
      exact ⟨soundWithin_of_exact item levels h.1 hlevels.1,
        allSound_of_exact rest levels h.2 hlevels.2⟩

/-- So are exact members. -/
theorem allMembersSound_of_exact : ∀ (members : List (String × Json)) (levels : Nat),
    AllMembersExact members → (∀ m ∈ members, m.2.nesting ≤ levels) →
    allMembersSound levels members
  | [], _, _, _ => by rw [allMembersSound]
  | (_, value) :: rest, levels, h, hlevels => by
      rw [List.forall_mem_cons] at hlevels
      rw [allMembersSound, Bool.and_eq_true]
      exact ⟨soundWithin_of_exact value levels h.1 hlevels.1,
        allMembersSound_of_exact rest levels h.2 hlevels.2⟩
end

end TypedJson.Json
