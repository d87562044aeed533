import Mathlib
import TypedJson.Ordered

/-!
# Looking up keys in tables

What `find?` gives after an entry is bound or a key is taken out, and that entries of distinct keys
may be bound in any order.
-/

namespace TypedJson.Ordered

variable {α : Type} {key other : String} {value : α} {table : List (String × α)}

/-- The value that is found for a key is that of an entry. -/
theorem mem_of_find? (h : find? key table = some value) : (key, value) ∈ table := by
  induction table with
  | nil => cases h
  | cons entry rest ih =>
      rw [find?] at h
      split at h
      · rename_i heq
        cases h
        exact heq ▸ List.mem_cons_self
      · exact List.mem_cons_of_mem _ (ih h)

/-- The value that is looked up for a key is that of an entry. -/
theorem mem_of_lookup {β : Type} [BEq β] [LawfulBEq β] {k : β} {entries : List (β × α)}
    (h : entries.lookup k = some value) : (k, value) ∈ entries := by
  obtain ⟨before, after, rfl, -⟩ := List.lookup_eq_some_iff.1 h
  exact List.mem_append_right _ List.mem_cons_self

/-- A bound key has its value. -/
theorem find?_insertEntry_self : find? key (insertEntry key value table) = some value := by
  induction table with
  | nil => exact if_pos rfl
  | cons entry rest ih =>
      rw [insertEntry]
      split
      · exact if_pos rfl
      · split
        · exact if_pos rfl
        · rename_i hne
          rw [find?, if_neg hne]
          exact ih

/-- Binding a key keeps the values of the other keys. -/
theorem find?_insertEntry_of_ne (h : other ≠ key) :
    find? other (insertEntry key value table) = find? other table := by
  induction table with
  | nil => exact if_neg h
  | cons entry rest ih =>
      rw [insertEntry]
      split
      · rw [find?, if_neg h]
      · split
        · rename_i heq
          rw [find?, find?, if_neg h, if_neg (heq ▸ h)]
        · rw [find?, find?, ih]

/-- Taking a key out keeps the values of the other keys. -/
theorem find?_erase_of_ne (h : other ≠ key) : find? other (erase key table) = find? other table := by
  induction table with
  | nil => rfl
  | cons entry rest ih =>
      rw [erase, List.filter_cons]
      split
      · rw [find?, find?]
        split
        · rfl
        · exact ih
      · rename_i hkey
        have hkey : entry.1 = key := by simpa using hkey
        rw [find?, if_neg (hkey ▸ h)]
        exact ih

/-- A key that was taken out is not found. -/
theorem find?_erase_self : find? key (erase key table) = none := by
  induction table with
  | nil => rfl
  | cons entry rest ih =>
      rw [erase, List.filter_cons]
      split
      · rename_i hkey
        rw [find?, if_neg (of_decide_eq_true hkey).symm]
        exact ih
      · exact ih

/-- What is found after a key was taken out has been there before. -/
theorem find?_of_erase (h : find? other (erase key table) = some value) :
    find? other table = some value := by
  by_cases heq : other = key
  · rw [heq, find?_erase_self] at h
    cases h
  · rwa [find?_erase_of_ne heq] at h

/-- Binding a new key adds it to the keys. -/
theorem keys_insertEntry (h : key ∉ table.map Prod.fst) :
    ((insertEntry key value table).map Prod.fst).Perm (key :: table.map Prod.fst) := by
  induction table with
  | nil => exact .refl _
  | cons entry rest ih =>
      obtain ⟨hne, hrest⟩ := not_or.1 (mt List.mem_cons.2 h)
      rw [insertEntry]
      split
      · exact .refl _
      · exact ((ih hrest).cons _).trans (.swap _ _ _)

/-- The entries of a table with a bound key are that one and those of the table. -/
theorem mem_insertEntry {entry : String × α} (h : entry ∈ insertEntry key value table) :
    entry = (key, value) ∨ entry ∈ table := by
  induction table with
  | nil => exact .inl (List.mem_singleton.1 h)
  | cons other rest ih =>
      rw [insertEntry] at h
      split at h
      · exact List.mem_cons.1 h
      · split at h
        · exact (List.mem_cons.1 h).imp_right (List.mem_cons_of_mem _)
        · obtain rfl | h := List.mem_cons.1 h
          · exact .inr List.mem_cons_self
          · exact (ih h).imp_right (List.mem_cons_of_mem _)

/-- The entries of a table with some more bound are those and the ones that are bound. -/
theorem mem_of_mem_foldl {entries : List (String × α)} {entry : String × α}
    (h : entry ∈ entries.foldl (fun table entry => insertEntry entry.1 entry.2 table) table) :
    entry ∈ table ∨ entry ∈ entries := by
  induction entries generalizing table with
  | nil => exact .inl h
  | cons first rest ih =>
      rcases ih h with h | h
      · rcases mem_insertEntry h with rfl | h
        · exact .inr List.mem_cons_self
        · exact .inl h
      · exact .inr (List.mem_cons_of_mem _ h)

/-- The entries of a table are those that it is made of. -/
theorem mem_of_mem_ofEntries {entries : List (String × α)} {entry : String × α}
    (h : entry ∈ ofEntries entries) : entry ∈ entries :=
  (mem_of_mem_foldl h).resolve_left List.not_mem_nil

/-! ## Order of entries -/

/-- Two keys may be bound in either order. -/
theorem insertEntry_comm {key' : String} (h : key ≠ key') (value value' : α)
    (table : List (String × α)) :
    insertEntry key value (insertEntry key' value' table) =
      insertEntry key' value' (insertEntry key value table) := by
  induction table with
  | nil =>
      rcases lt_trichotomy key key' with hlt | heq | hlt
      · simp [insertEntry, hlt, h.symm, hlt.asymm]
      · exact absurd heq h
      · simp [insertEntry, hlt, h, hlt.asymm]
  | cons entry rest ih => grind [insertEntry]

/-- Entries of distinct keys make the same table in any order, if two of them do. -/
theorem foldl_perm {β : Type} {bind : String → β → List (String × α) → List (String × α)}
    (hcomm : ∀ key key', key ≠ key' → ∀ b b' table,
      bind key b (bind key' b' table) = bind key' b' (bind key b table))
    {entries others : List (String × β)} (h : entries.Perm others)
    (hkeys : (entries.map Prod.fst).Nodup) (table : List (String × α)) :
    entries.foldl (fun table entry => bind entry.1 entry.2 table) table =
      others.foldl (fun table entry => bind entry.1 entry.2 table) table := by
  refine h.foldl_eq' (fun a ha b hb table => ?_) table
  by_cases hab : a = b
  · rw [hab]
  · exact hcomm _ _ (fun heq => hab (List.inj_on_of_nodup_map hkeys ha hb heq.symm)) _ _ _

end TypedJson.Ordered
