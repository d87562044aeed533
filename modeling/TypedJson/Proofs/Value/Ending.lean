import TypedJson.Proofs.Graph.Acceptance
import TypedJson.Proofs.Ordered
import TypedJson.Value.Conversion

/-!
# Conversions that come to an end

A conversion leads to conversions of the parts of a value, and of the value itself as the members
of a union. Relations between outcomes that respect this composition pass from the parts to the
whole. `convertByKind_rel` says so for the rules of kinds, whatever the relation. The one used here
is that two conversions end with the same outcome.
-/

namespace TypedJson

/-- The conversion gives a value or fails on it, and stops in no other way. -/
def Outcome.Settled {α : Type} (r : Outcome α) : Prop :=
  ∀ stop, r = .error stop → ∃ e, stop = .failed e

/-- Two conversions have the same outcome, which is settled. -/
def Outcome.Agree {α : Type} (r s : Outcome α) : Prop :=
  r.Settled ∧ s = r

/-- An outcome, or another one if the conversion has failed. -/
def Outcome.recover {α : Type} (r s : Outcome α) : Outcome α :=
  match r with
  | .error (.failed _) => s
  | outcome => outcome

/-- A relation between outcomes that composition respects. -/
structure Congruence (R : ∀ {α : Type}, Outcome α → Outcome α → Prop) : Prop where
  refl : ∀ {α : Type} {r : Outcome α}, r.Settled → R r r
  bind : ∀ {α β : Type} {x y : Outcome α} {f g : α → Outcome β},
    R x y → (∀ a, x = .ok a → R (f a) (g a)) → R (x >>= f) (y >>= g)
  recover : ∀ {α : Type} {x y z w : Outcome α}, R x y → R z w →
    R (x.recover z) (y.recover w)

namespace Outcome

variable {α β : Type}

/-- A value is settled. -/
theorem settled_ok (a : α) : Settled (.ok a) := nofun

/-- A failure is settled. -/
theorem settled_failed (e : ConversionError) : Settled (.error (.failed e) : Outcome α) := by
  rintro _ ⟨⟩
  exact ⟨e, rfl⟩

/-- A shape that does not match is settled. -/
theorem settled_shape (expected : String) (v : Value) :
    Settled (Outcome.shape expected v : Outcome α) :=
  settled_failed _

/-- A missing rule is settled. -/
theorem settled_unsupported (missing : MissingRule) :
    Settled (Outcome.unsupported missing : Outcome α) :=
  settled_failed _

/-- A settled outcome is a value or a failure. -/
theorem Settled.cases {r : Outcome α} (h : r.Settled) :
    (∃ a, r = .ok a) ∨ ∃ e, r = .error (.failed e) := by
  cases r with
  | ok a => exact .inl ⟨a, rfl⟩
  | error stop =>
      obtain ⟨e, rfl⟩ := h stop rfl
      exact .inr ⟨e, rfl⟩

/-- Composition respects the agreement of outcomes. -/
theorem agree_congruence : Congruence @Agree where
  refl h := ⟨h, rfl⟩
  bind := by
    rintro α β x y f g ⟨hx, rfl⟩ hf
    cases hy : y with
    | error e =>
        refine ⟨fun stop h => hx stop ?_, rfl⟩
        obtain h | ⟨_, h, -⟩ := bind_eq_error.1 h
        · rw [hy, h]
        · cases h
    | ok a => exact hf a hy
  recover := by
    rintro α x y z w ⟨hx, rfl⟩ hz
    rw [recover.eq_def, recover.eq_def]
    split
    · exact hz
    · exact ⟨hx, rfl⟩

/-- Composition respects equality. -/
theorem eq_congruence : Congruence fun x y => x = y where
  refl _ := rfl
  bind := by
    rintro α β x y f g rfl hf
    cases x with
    | error e => rfl
    | ok a => exact hf a rfl
  recover := by
    rintro α x y z w rfl rfl
    rfl

end Outcome

open Outcome

/-- The branches behind the first one are run if it fails. -/
theorem firstSuccess_cons {β : Type} (run : β → Outcome Value) (tried : Nat) (b : β)
    (rest : List β) : firstSuccess run tried (b :: rest)
      = (run b).recover (firstSuccess run (tried + 1) rest) := by
  rw [firstSuccess, recover.eq_def]
  split <;> simp_all

/-! ## Outcomes of single values -/

/-- Reading a timestamp is settled. -/
theorem settled_parseTimestamp (s : String) : (parseTimestamp s).Settled := by
  rw [parseTimestamp]
  split
  · exact settled_ok _
  · exact settled_failed _

/-- Reading an integer is settled. -/
theorem settled_parseInteger (s : String) : (parseInteger s).Settled := by
  rw [parseInteger]
  split
  · exact settled_ok _
  · exact settled_failed _

/-- Writing a timestamp is settled. -/
theorem settled_writeTimestamp (v : Value) : (writeTimestamp v).Settled := by
  cases v with
  | dateTime t => exact settled_ok _
  | none | bool | int | float | str | list | dict | enumCase | object => exact settled_shape _ _

/-- Decoding a case of an enumeration is settled. -/
theorem Enumeration.settled_decode (e : Enumeration) (v : Value) : (e.decode v).Settled := by
  cases v with
  | str s =>
      rw [Enumeration.decode]
      split
      · exact settled_ok _
      · exact settled_failed _
  | none | bool | int | float | list | dict | dateTime | enumCase | object =>
      exact settled_failed _

/-- Encoding a case of an enumeration is settled. -/
theorem Enumeration.settled_encode (e : Enumeration) (v : Value) : (e.encode v).Settled := by
  cases v with
  | enumCase name case =>
      rw [Enumeration.encode]
      split
      · exact settled_ok _
      · exact settled_shape _ _
  | none | bool | int | float | str | list | dict | dateTime | object => exact settled_shape _ _

/-! ## Depths of parts -/

namespace Value

/-- An item lies within its list. -/
theorem depth_le_items {v : Value} {items : List Value} (h : v ∈ items) :
    v.depth ≤ depthOfItems items := by
  induction items with
  | nil => exact absurd h List.not_mem_nil
  | cons item rest ih =>
      rw [depthOfItems]
      obtain rfl | h := List.mem_cons.1 h
      · exact Nat.le_max_left _ _
      · exact Nat.le_trans (ih h) (Nat.le_max_right _ _)

/-- An item is less deep than its list. -/
theorem depth_lt_list {v : Value} {items : List Value} (h : v ∈ items) :
    v.depth < (Value.list items).depth :=
  Nat.lt_succ_of_le (depth_le_items h)

/-- The value of an entry lies within its table. -/
theorem depth_le_entries {entry : String × Value} {entries : List (String × Value)}
    (h : entry ∈ entries) : entry.2.depth ≤ depthOfEntries entries := by
  induction entries with
  | nil => exact absurd h List.not_mem_nil
  | cons other rest ih =>
      rw [depthOfEntries]
      obtain rfl | h := List.mem_cons.1 h
      · exact Nat.le_max_left _ _
      · exact Nat.le_trans (ih h) (Nat.le_max_right _ _)

/-- The value of an entry is less deep than its dict. -/
theorem depth_lt_dict {entry : String × Value} {entries : List (String × Value)}
    (h : entry ∈ entries) : entry.2.depth < (Value.dict entries).depth :=
  Nat.lt_succ_of_le (depth_le_entries h)

end Value

/-! ## Relations between conversions -/

section Closure

variable {R : ∀ {α : Type}, Outcome α → Outcome α → Prop} (hR : Congruence @R)
include hR

/-- Mapping what an outcome gives respects a congruence. -/
theorem Congruence.map {α β : Type} {x y : Outcome α} (f : α → β) (h : R x y) :
    R (x.map f) (y.map f) := by
  have hmap (z : Outcome α) : z.map f = z >>= fun a => .ok (f a) := by
    cases z <;> rfl
  rw [hmap, hmap]
  exact hR.bind h fun a _ => hR.refl (settled_ok _)

/-- Mapping a list respects a congruence. -/
theorem Congruence.mapM {α β : Type} {f g : α → Outcome β} {l : List α}
    (h : ∀ a ∈ l, R (f a) (g a)) : R (l.mapM f) (l.mapM g) := by
  induction l with
  | nil => exact hR.refl (settled_ok [])
  | cons a l ih =>
      obtain ⟨ha, hl⟩ := List.forall_mem_cons.1 h
      rw [List.mapM_cons, List.mapM_cons]
      exact hR.bind ha fun _ _ => hR.bind (ih hl) fun _ _ => hR.refl (settled_ok _)

/-- Trying branches respects a congruence. -/
theorem Congruence.firstSuccess {β : Type} {f g : β → Outcome Value} {branches : List β}
    (h : ∀ b ∈ branches, R (f b) (g b)) (tried : Nat) :
    R (firstSuccess f tried branches) (firstSuccess g tried branches) := by
  induction branches generalizing tried with
  | nil => exact hR.refl (settled_failed _)
  | cons b rest ih =>
      obtain ⟨hb, hrest⟩ := List.forall_mem_cons.1 h
      rw [firstSuccess_cons, firstSuccess_cons]
      exact hR.recover hb (ih hrest (tried + 1))

variable {f g : TypeRef → Value → Outcome Value}

/-- Converting the items of a list respects a congruence. -/
theorem Congruence.convertItems {F G : Value → Outcome Value} {v : Value}
    (h : ∀ items, v = .list items → ∀ w ∈ items, R (F w) (G w)) :
    R (convertItems F v) (convertItems G v) := by
  cases v with
  | list items => exact hR.map _ (hR.mapM (h items rfl))
  | none | bool | int | float | str | dict | dateTime | enumCase | object =>
      exact hR.refl (settled_shape _ _)

/-- Converting the values of a dict respects a congruence. -/
theorem Congruence.convertEntries {F G : Value → Outcome Value} {v : Value}
    (h : ∀ entries, v = .dict entries → ∀ entry ∈ entries, R (F entry.2) (G entry.2)) :
    R (convertEntries F v) (convertEntries G v) := by
  cases v with
  | dict entries => exact hR.map _ (hR.mapM fun entry hentry => hR.map _ (h entries rfl entry hentry))
  | none | bool | int | float | str | list | dateTime | enumCase | object =>
      exact hR.refl (settled_shape _ _)

/-- Decoding properties respects a congruence. -/
theorem Congruence.decodeFields {props : List Property} {entries fields : List (String × Value)}
    {depth : Nat} (hentries : ∀ entry ∈ entries, entry.2.depth < depth) (hdepth : 0 < depth)
    (h : ∀ p ∈ props, ∀ w : Value, w.depth < depth → R (f p.type w) (g p.type w)) :
    R (decodeFields f props entries fields) (decodeFields g props entries fields) := by
  induction props generalizing entries fields with
  | nil => exact hR.refl (settled_ok _)
  | cons p rest ih =>
      obtain ⟨hp, hrest⟩ := List.forall_mem_cons.1 h
      refine hR.bind (hp _ ?_) fun _ _ => ih (fun entry hentry => ?_) hrest
      · cases hfind : Ordered.find? p.name entries with
        | none => exact hdepth
        | some w => exact hentries _ (Ordered.mem_of_find? hfind)
      · exact hentries entry (List.mem_of_mem_filter hentry)

/-- Encoding properties respects a congruence. -/
theorem Congruence.encodeFields {nullable : TypeRef → Bool} {props : List Property}
    {fields entries : List (String × Value)} {depth : Nat}
    (hfields : ∀ field ∈ fields, field.2.depth < depth) (hdepth : 0 < depth)
    (h : ∀ p ∈ props, ∀ w : Value, w.depth < depth → R (f p.type w) (g p.type w)) :
    R (encodeFields nullable f props fields entries)
      (encodeFields nullable g props fields entries) := by
  induction props generalizing fields entries with
  | nil => exact hR.refl (settled_ok _)
  | cons p rest ih =>
      obtain ⟨hp, hrest⟩ := List.forall_mem_cons.1 h
      have hothers : ∀ field ∈ Ordered.erase p.name fields, field.2.depth < depth :=
        fun field hfield => hfields field (List.mem_of_mem_filter hfield)
      rw [TypedJson.encodeFields, TypedJson.encodeFields]
      split
      · exact ih hothers hrest
      · refine hR.bind (hp _ ?_) fun _ _ => ih hothers hrest
        cases hfind : Ordered.find? p.name fields with
        | none => exact hdepth
        | some w => exact hfields _ (Ordered.mem_of_find? hfind)

end Closure

/-! ## Conversion by kind -/

namespace TypeGraph

variable {g : TypeGraph} {t : TypeRef} {k : Kind}

/-- The kind of a type is looked up. -/
theorem kindOf_eq (h : g.kind? t = some k) : g.kindOf t = .ok k := by
  rw [kindOf, h]

variable {R : ∀ {α : Type}, Outcome α → Outcome α → Prop} {f f' : TypeRef → Value → Outcome Value}
  {v : Value}

/-- Decoding by kind respects a congruence, if the conversions of the parts of the value do, and
those of the value itself as the members of a union. -/
theorem decodeByKind_rel (hR : Congruence @R) (hk : g.kind? t = some k)
    (hpart : ∀ r ∈ kindRefs k, ∀ w : Value, w.depth < v.depth → R (f r w) (f' r w))
    (hmember : ∀ ms, k = .union ms → ∀ m ∈ ms, R (f m v) (f' m v)) :
    R (g.decodeByKind f v t) (g.decodeByKind f' v t) := by
  rw [decodeByKind, decodeByKind, kindOf_eq hk]
  cases k with
  | any => exact hR.refl (settled_ok v)
  | null => cases v <;> first | exact hR.refl (settled_ok _) | exact hR.refl (settled_shape _ _)
  | bool => cases v <;> first | exact hR.refl (settled_ok _) | exact hR.refl (settled_shape _ _)
  | integer =>
      cases v <;> first | exact hR.refl (settled_ok _) | exact hR.refl (settled_shape _ _)
  | double =>
      cases v <;> first | exact hR.refl (settled_ok _) | exact hR.refl (settled_shape _ _)
  | text => cases v <;> first | exact hR.refl (settled_ok _) | exact hR.refl (settled_shape _ _)
  | array items =>
      refine hR.convertItems fun others hv w hw => hpart items List.mem_cons_self w ?_
      rw [hv]
      exact Value.depth_lt_list hw
  | map values =>
      refine hR.convertEntries fun entries hv entry hentry =>
        hpart values List.mem_cons_self entry.2 ?_
      rw [hv]
      exact Value.depth_lt_dict hentry
  | record r =>
      cases v with
      | dict entries =>
          refine hR.map _ (hR.decodeFields (fun entry hentry => ?_)
            (Nat.succ_pos (Value.depthOfEntries entries)) ?_)
          · exact Nat.lt_succ_of_le (Value.depth_le_entries hentry)
          · exact fun p hp w hw => hpart p.type (List.mem_map_of_mem hp) w hw
      | none | bool | int | float | str | list | dateTime | enumCase | object =>
          exact hR.refl (settled_shape _ _)
  | enumeration e => exact hR.refl (e.settled_decode v)
  | union members => exact hR.firstSuccess (hmember members rfl) 0
  | formatted format =>
      cases format with
      | dateTime =>
          cases v with
          | str s => exact hR.refl (settled_parseTimestamp s)
          | none | bool | int | float | list | dict | dateTime | enumCase | object =>
              exact hR.refl (settled_shape _ _)
      | integerText => exact hR.refl (settled_unsupported _)

/-- Encoding by kind respects a congruence in the same way. -/
theorem encodeByKind_rel (hR : Congruence @R) (hk : g.kind? t = some k)
    (hpart : ∀ r ∈ kindRefs k, ∀ w : Value, w.depth < v.depth → R (f r w) (f' r w))
    (hmember : ∀ ms, k = .union ms → ∀ m ∈ ms, R (f m v) (f' m v)) :
    R (g.encodeByKind f v t) (g.encodeByKind f' v t) := by
  rw [encodeByKind, encodeByKind, kindOf_eq hk]
  cases k with
  | any => exact hR.refl (settled_ok v)
  | null => cases v <;> first | exact hR.refl (settled_ok _) | exact hR.refl (settled_shape _ _)
  | bool => cases v <;> first | exact hR.refl (settled_ok _) | exact hR.refl (settled_shape _ _)
  | integer =>
      cases v <;> first | exact hR.refl (settled_ok _) | exact hR.refl (settled_shape _ _)
  | double =>
      cases v <;> first | exact hR.refl (settled_ok _) | exact hR.refl (settled_shape _ _)
  | text => cases v <;> first | exact hR.refl (settled_ok _) | exact hR.refl (settled_shape _ _)
  | array items =>
      refine hR.convertItems fun others hv w hw => hpart items List.mem_cons_self w ?_
      rw [hv]
      exact Value.depth_lt_list hw
  | map values =>
      refine hR.convertEntries fun entries hv entry hentry =>
        hpart values List.mem_cons_self entry.2 ?_
      rw [hv]
      exact Value.depth_lt_dict hentry
  | record r =>
      cases v with
      | object name fields =>
          show R (if name = r.name then _ else _) (if name = r.name then _ else _)
          split
          · refine hR.map _ (hR.encodeFields (fun entry hentry => ?_)
              (Nat.succ_pos (Value.depthOfEntries fields)) ?_)
            · exact Nat.lt_succ_of_le (Value.depth_le_entries hentry)
            · exact fun p hp w hw => hpart p.type (List.mem_map_of_mem hp) w hw
          · exact hR.refl (settled_shape _ _)
      | none | bool | int | float | str | list | dict | dateTime | enumCase =>
          exact hR.refl (settled_shape _ _)
  | enumeration e => exact hR.refl (e.settled_encode v)
  | union members => exact hR.firstSuccess (hmember members rfl) 0
  | formatted format =>
      cases format with
      | dateTime => exact hR.refl (settled_writeTimestamp v)
      | integerText => exact hR.refl (settled_unsupported _)

/-- Conversion by kind respects a congruence in both directions. -/
theorem convertByKind_rel (hR : Congruence @R) (hk : g.kind? t = some k) (d : Direction)
    (hpart : ∀ r ∈ kindRefs k, ∀ w : Value, w.depth < v.depth → R (f r w) (f' r w))
    (hmember : ∀ ms, k = .union ms → ∀ m ∈ ms, R (f m v) (f' m v)) :
    R (g.convertByKind d f v t) (g.convertByKind d f' v t) := by
  cases d with
  | decode => exact decodeByKind_rel hR hk hpart hmember
  | encode => exact encodeByKind_rel hR hk hpart hmember

end TypeGraph

end TypedJson
