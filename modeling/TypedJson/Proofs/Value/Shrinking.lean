import TypedJson.Proofs.Value.Ending

/-!
# Depths of results

A conversion is tame up to a depth if it has a result or fails on each value up to that depth, and
no result is deeper than the value that it comes from. Conversions of lists, dicts and unions are
tame if those of their parts are, and so are conversions one behind the other.
-/

namespace TypedJson

open Outcome

/-- Up to a depth, the conversion is settled and gives values no deeper than its own. -/
def Tame (depth : Nat) (f : Value → Outcome Value) : Prop :=
  ∀ v, v.depth ≤ depth → (f v).Settled ∧ ∀ w, f v = .ok w → w.depth ≤ v.depth

variable {depth : Nat} {f g : Value → Outcome Value}

/-- A conversion is tame if it gives each value up to the depth a verdict. -/
theorem tame_of_verdict (h : ∀ v : Value, v.depth ≤ depth →
    (∃ w, f v = .ok w ∧ w.depth ≤ v.depth) ∨ ∃ e, f v = .error (.failed e)) : Tame depth f := by
  intro v hv
  rcases h v hv with ⟨w, hw, hdepth⟩ | ⟨e, he⟩
  · rw [hw]
    refine ⟨settled_ok w, ?_⟩
    rintro _ ⟨⟩
    exact hdepth
  · rw [he]
    refine ⟨settled_failed e, ?_⟩
    rintro _ ⟨⟩

/-- A conversion is tame if its results have no parts. -/
theorem tame_of_flat (h : ∀ v, (f v).Settled ∧ ∀ w, f v = .ok w → w.depth = 0) : Tame depth f :=
  fun v _ => ⟨(h v).1, fun w hw => by rw [(h v).2 w hw]; exact Nat.zero_le _⟩

/-- Doing nothing is tame. -/
theorem tame_ok : Tame depth .ok :=
  tame_of_verdict fun v _ => .inl ⟨v, rfl, Nat.le_refl _⟩

/-- A tame conversion behind a tame one is tame. -/
theorem Tame.bind (hf : Tame depth f) (hg : Tame depth g) : Tame depth fun v => f v >>= g := by
  intro v hv
  obtain ⟨hsettled, hshrinks⟩ := hf v hv
  show (f v >>= g).Settled ∧ ∀ w, f v >>= g = .ok w → w.depth ≤ v.depth
  rcases hsettled.cases with ⟨w, hw⟩ | ⟨e, he⟩
  · rw [hw]
    have hdepth := hshrinks w hw
    obtain ⟨hsettled, hshrinks⟩ := hg w (by omega)
    exact ⟨hsettled, fun u hu => Nat.le_trans (hshrinks u hu) hdepth⟩
  · rw [he]
    refine ⟨settled_failed e, ?_⟩
    rintro _ ⟨⟩

/-- Conversions that do the same up to the depth are tame together. -/
theorem Tame.congr (hf : Tame depth f) (h : ∀ v : Value, v.depth ≤ depth → g v = f v) :
    Tame depth g := by
  intro v hv
  rw [h v hv]
  exact hf v hv

/-- What is tame up to a depth is tame up to a lesser one. -/
theorem Tame.mono {lesser : Nat} (hf : Tame depth f) (h : lesser ≤ depth) : Tame lesser f :=
  fun v hv => hf v (Nat.le_trans hv h)

/-- Results of items no deeper than the items make no deeper list. -/
theorem depthOfItems_le {items results : List Value}
    (h : List.Forall₂ (fun v w => w.depth ≤ v.depth) items results) :
    Value.depthOfItems results ≤ Value.depthOfItems items := by
  induction h with
  | nil => exact Nat.le_refl _
  | cons hhead _ ih =>
      rw [Value.depthOfItems, Value.depthOfItems]
      omega

/-- Results of entries no deeper than the entries make no deeper table. -/
theorem depthOfEntries_le {entries results : List (String × Value)}
    (h : List.Forall₂ (fun e r => r.2.depth ≤ e.2.depth) entries results) :
    Value.depthOfEntries results ≤ Value.depthOfEntries entries := by
  induction h with
  | nil => exact Nat.le_refl _
  | cons hhead _ ih =>
      rw [Value.depthOfEntries, Value.depthOfEntries]
      omega

/-- What holds of the results of items holds of those of a list. -/
theorem forall₂_of_mapM {α β : Type} {f : α → Outcome β} {R : α → β → Prop} {items : List α}
    {results : List β} (h : items.mapM f = .ok results)
    (hR : ∀ a ∈ items, ∀ b, f a = .ok b → R a b) : List.Forall₂ R items results := by
  rw [mapM_eq_ok] at h
  induction h with
  | nil => exact .nil
  | cons hhead _ ih =>
      rw [List.forall_mem_cons] at hR
      exact .cons (hR.1 _ hhead) (ih hR.2)

/-- Converting the items of a list is tame if their conversion is at lesser depths. -/
theorem tame_convertItems (hf : ∀ lesser < depth, Tame lesser f) :
    Tame depth (convertItems f) := by
  intro v hv
  cases v with
  | list items =>
      rw [Value.depth] at hv
      have hf := hf (Value.depthOfItems items) (by omega)
      have hitem : ∀ item ∈ items, item.depth ≤ Value.depthOfItems items :=
        fun item hitem => Value.depth_le_items hitem
      refine ⟨?_, fun w hw => ?_⟩
      · exact (agree_congruence.map Value.list
          (agree_congruence.mapM fun item h => ⟨(hf item (hitem item h)).1, rfl⟩)).1
      · obtain ⟨results, hresults, rfl⟩ := map_eq_ok.1 hw
        rw [Value.depth, Value.depth]
        have hall := forall₂_of_mapM (R := fun v w => w.depth ≤ v.depth) hresults
          fun item h => (hf item (hitem item h)).2
        exact Nat.succ_le_succ (depthOfItems_le hall)
  | none | bool | int | float | str | dict | dateTime | enumCase | object =>
      refine ⟨settled_shape _ _, ?_⟩
      rintro _ ⟨⟩

/-- Converting the values of a dict is tame if their conversion is at lesser depths. -/
theorem tame_convertEntries (hf : ∀ lesser < depth, Tame lesser f) :
    Tame depth (convertEntries f) := by
  intro v hv
  cases v with
  | dict entries =>
      rw [Value.depth] at hv
      have hf := hf (Value.depthOfEntries entries) (by omega)
      have hentry : ∀ entry ∈ entries, entry.2.depth ≤ Value.depthOfEntries entries :=
        fun entry hentry => Value.depth_le_entries hentry
      refine ⟨?_, fun w hw => ?_⟩
      · exact (agree_congruence.map Value.dict (agree_congruence.mapM fun entry h =>
          agree_congruence.map (fun w => (entry.1, w)) ⟨(hf entry.2 (hentry entry h)).1, rfl⟩)).1
      · obtain ⟨results, hresults, rfl⟩ := map_eq_ok.1 hw
        rw [Value.depth, Value.depth]
        have hall := forall₂_of_mapM (R := fun e r => r.2.depth ≤ e.2.depth) hresults
          fun entry h result hresult => by
            obtain ⟨w, hw, rfl⟩ := map_eq_ok.1 hresult
            exact (hf entry.2 (hentry entry h)).2 w hw
        exact Nat.succ_le_succ (depthOfEntries_le hall)
  | none | bool | int | float | str | list | dateTime | enumCase | object =>
      refine ⟨settled_shape _ _, ?_⟩
      rintro _ ⟨⟩

/-- Trying tame branches is tame. -/
theorem tame_firstSuccess {β : Type} {r : β → Value → Outcome Value} {branches : List β}
    (h : ∀ b ∈ branches, Tame depth (r b)) (tried : Nat) :
    Tame depth fun v => firstSuccess (fun b => r b v) tried branches := by
  induction branches generalizing tried with
  | nil => exact tame_of_verdict fun _ _ => .inr ⟨_, rfl⟩
  | cons b rest ih =>
      rw [List.forall_mem_cons] at h
      intro v hv
      simp only [firstSuccess_cons]
      obtain ⟨hsettled, hshrinks⟩ := h.1 v hv
      rcases hsettled.cases with ⟨w, hw⟩ | ⟨e, he⟩
      · rw [hw]
        refine ⟨settled_ok w, ?_⟩
        rintro _ ⟨⟩
        exact hshrinks w hw
      · rw [he]
        exact ih h.2 (tried + 1) v hv

/-! ## Texts -/

/-- A timestamp has no parts. -/
theorem depth_parseTimestamp {s : String} {w : Value} (h : parseTimestamp s = .ok w) :
    w.depth = 0 := by
  unfold parseTimestamp at h
  split at h <;> cases h
  rfl

/-- An integer has no parts. -/
theorem depth_parseInteger {s : String} {w : Value} (h : parseInteger s = .ok w) : w.depth = 0 := by
  unfold parseInteger at h
  split at h <;> cases h
  rfl

/-- A written timestamp has no parts. -/
theorem depth_writeTimestamp {v w : Value} (h : writeTimestamp v = .ok w) : w.depth = 0 := by
  cases v with
  | dateTime t =>
      cases h
      rfl
  | none | bool | int | float | str | list | dict | enumCase | object => cases h

/-- A case of an enumeration has no parts. -/
theorem Enumeration.depth_decode (e : Enumeration) {v w : Value} (h : e.decode v = .ok w) :
    w.depth = 0 := by
  cases v with
  | str s =>
      rw [Enumeration.decode] at h
      split at h <;> cases h
      rfl
  | none | bool | int | float | list | dict | dateTime | enumCase | object => cases h

/-- The text of a case of an enumeration has no parts. -/
theorem Enumeration.depth_encode (e : Enumeration) {v w : Value} (h : e.encode v = .ok w) :
    w.depth = 0 := by
  cases v with
  | enumCase name case =>
      rw [Enumeration.encode] at h
      split at h <;> cases h
      rfl
  | none | bool | int | float | str | list | dict | dateTime | object => cases h

/-- An outcome that is a flat value or a failure is settled. -/
theorem settled_of_flat {r : Outcome Value}
    (h : (∃ w, r = .ok w ∧ w.depth = 0) ∨ ∃ e, r = .error (.failed e)) :
    r.Settled ∧ ∀ w, r = .ok w → w.depth = 0 := by
  rcases h with ⟨w, rfl, hw⟩ | ⟨e, rfl⟩
  · refine ⟨settled_ok w, ?_⟩
    rintro _ ⟨⟩
    exact hw
  · refine ⟨settled_failed e, ?_⟩
    rintro _ ⟨⟩

/-- Parsing a text is tame. -/
theorem TypeGraph.tame_parseInto {g : TypeGraph} {t : TypeRef} {k : Kind} (hk : g.kind? t = some k) :
    Tame depth fun v => g.parseInto v t := by
  refine tame_of_flat fun v => ?_
  cases v with
  | str s =>
      simp only [parseInto, kindOf_eq hk]
      cases k with
      | integer => exact ⟨settled_parseInteger s, fun w hw => depth_parseInteger hw⟩
      | enumeration e =>
          exact ⟨e.settled_decode (.str s), fun w hw => e.depth_decode (v := .str s) hw⟩
      | formatted format =>
          cases format with
          | dateTime => exact ⟨settled_parseTimestamp s, fun w hw => depth_parseTimestamp hw⟩
          | integerText => exact settled_of_flat (.inr ⟨_, rfl⟩)
      | any | null | bool | double | text | array | map | record | union =>
          exact settled_of_flat (.inr ⟨_, rfl⟩)
  | none | bool | int | float | list | dict | dateTime | enumCase | object =>
      exact settled_of_flat (.inr ⟨_, rfl⟩)

/-- Writing a text is tame. -/
theorem TypeGraph.tame_writeFrom {g : TypeGraph} {t : TypeRef} {k : Kind} (hk : g.kind? t = some k) :
    Tame depth fun v => g.writeFrom v t := by
  refine tame_of_flat fun v => ?_
  simp only [writeFrom, kindOf_eq hk]
  cases k with
  | integer =>
      cases v with
      | int i => exact settled_of_flat (.inl ⟨_, rfl, rfl⟩)
      | none | bool | float | str | list | dict | dateTime | enumCase | object =>
          exact settled_of_flat (.inr ⟨_, rfl⟩)
  | enumeration e => exact ⟨e.settled_encode v, fun w hw => e.depth_encode hw⟩
  | formatted format =>
      cases format with
      | dateTime => exact ⟨settled_writeTimestamp v, fun w hw => depth_writeTimestamp hw⟩
      | integerText => exact settled_of_flat (.inr ⟨_, rfl⟩)
  | any | null | bool | double | text | array | map | record | union =>
      exact settled_of_flat (.inr ⟨_, rfl⟩)

/-! ## Records -/

/-- Binding a key makes a table no deeper than the value and the table. -/
theorem depth_insertEntry (key : String) (value : Value) (table : List (String × Value)) :
    Value.depthOfEntries (Ordered.insertEntry key value table) ≤
      max value.depth (Value.depthOfEntries table) := by
  induction table with
  | nil => exact Nat.le_refl _
  | cons entry rest ih =>
      unfold Ordered.insertEntry
      split
      · exact Nat.le_refl _
      · split
        · simp only [Value.depthOfEntries]
          omega
        · simp only [Value.depthOfEntries] at ih ⊢
          omega

/-- What is looked up in a table is no deeper than the table. -/
theorem depth_getD_find? (key : String) (table : List (String × Value)) :
    ((Ordered.find? key table).getD .none).depth ≤ Value.depthOfEntries table := by
  cases h : Ordered.find? key table with
  | none => exact Nat.zero_le _
  | some v => exact Value.depth_le_entries (Ordered.mem_of_find? h)

/-- Taking a key out makes a table no deeper. -/
theorem depth_erase (key : String) (table : List (String × Value)) :
    Value.depthOfEntries (Ordered.erase key table) ≤ Value.depthOfEntries table := by
  induction table with
  | nil => exact Nat.le_refl _
  | cons entry rest ih =>
      unfold Ordered.erase at ih ⊢
      rw [List.filter_cons]
      split
      · simp only [Value.depthOfEntries] at ih ⊢
        omega
      · simp only [Value.depthOfEntries] at ih ⊢
        omega

/-- Decoded fields are no deeper than the entries that they come from. -/
theorem depth_decodeFields {f : TypeRef → Value → Outcome Value} {props : List Property}
    {entries acc fields : List (String × Value)} (hf : ∀ p ∈ props, Tame depth (f p.type))
    (hentries : Value.depthOfEntries entries ≤ depth)
    (h : decodeFields f props entries acc = .ok fields) :
    Value.depthOfEntries fields ≤
      max (Value.depthOfEntries acc) (Value.depthOfEntries entries) := by
  induction props generalizing entries acc with
  | nil =>
      cases h
      exact Nat.le_max_left _ _
  | cons p rest ih =>
      rw [List.forall_mem_cons] at hf
      rw [decodeFields, bind_eq_ok] at h
      obtain ⟨a, ha, h⟩ := h
      have hvalue := depth_getD_find? p.name entries
      have herase := depth_erase p.name entries
      have hinsert := depth_insertEntry p.name a acc
      have hle := (hf.1 _ (by omega)).2 a ha
      have hrest := ih hf.2 (by omega) h
      omega

/-- Encoded entries are no deeper than the fields that they come from. -/
theorem depth_encodeFields {nullable : TypeRef → Bool} {f : TypeRef → Value → Outcome Value}
    {props : List Property} {fields acc entries : List (String × Value)}
    (hf : ∀ p ∈ props, Tame depth (f p.type)) (hfields : Value.depthOfEntries fields ≤ depth)
    (h : encodeFields nullable f props fields acc = .ok entries) :
    Value.depthOfEntries entries ≤
      max (Value.depthOfEntries acc) (Value.depthOfEntries fields) := by
  induction props generalizing fields acc with
  | nil =>
      cases h
      exact Nat.le_max_left _ _
  | cons p rest ih =>
      rw [List.forall_mem_cons] at hf
      have hvalue := depth_getD_find? p.name fields
      have herase := depth_erase p.name fields
      rw [encodeFields] at h
      split at h
      · have hrest := ih hf.2 (by omega) h
        omega
      · rw [bind_eq_ok] at h
        obtain ⟨a, ha, h⟩ := h
        have hinsert := depth_insertEntry p.name a acc
        have hle := (hf.1 _ (by omega)).2 a ha
        have hrest := ih hf.2 (by omega) h
        omega

/-! ## Conversion by kind -/

namespace TypeGraph

variable {g : TypeGraph} {t : TypeRef} {k : Kind} {f : TypeRef → Value → Outcome Value}

/-- Decoding by kind is tame if the conversions of the types that the kind refers to are at lesser
depths, and those of the members of a union at this one. -/
theorem tame_decodeByKind (hk : g.kind? t = some k)
    (hpart : ∀ r ∈ kindRefs k, ∀ lesser < depth, Tame lesser (f r))
    (hmember : ∀ ms, k = .union ms → ∀ m ∈ ms, Tame depth (f m)) :
    Tame depth fun v => g.decodeByKind f v t := by
  simp only [decodeByKind, kindOf_eq hk]
  cases k with
  | any => exact tame_ok
  | null | bool | integer | double | text =>
      refine tame_of_flat fun v => settled_of_flat ?_
      cases v <;> first | exact .inl ⟨_, rfl, rfl⟩ | exact .inr ⟨_, rfl⟩
  | array items => exact tame_convertItems (hpart items List.mem_cons_self)
  | map values => exact tame_convertEntries (hpart values List.mem_cons_self)
  | record r =>
      intro v hv
      cases v with
      | dict entries =>
          rw [Value.depth] at hv
          have hprops : ∀ p ∈ r.properties, Tame (Value.depthOfEntries entries) (f p.type) :=
            fun p hp => hpart p.type (List.mem_map_of_mem hp) _ (by omega)
          refine ⟨?_, fun w hw => ?_⟩
          · have hfields : Agree (decodeFields f r.properties entries [])
                (decodeFields f r.properties entries []) := by
              refine agree_congruence.decodeFields (fun entry hentry => ?_)
                (Nat.succ_pos (Value.depthOfEntries entries)) fun p hp w hw => ?_
              · exact Nat.lt_succ_of_le (Value.depth_le_entries hentry)
              · exact ⟨(hprops p hp w (by omega)).1, rfl⟩
            exact (agree_congruence.map (Value.object r.name) hfields).1
          · obtain ⟨fields, hfields, rfl⟩ := map_eq_ok.1 hw
            have hdepth := depth_decodeFields hprops (Nat.le_refl _) hfields
            rw [Value.depthOfEntries] at hdepth
            rw [Value.depth, Value.depth]
            omega
      | none | bool | int | float | str | list | dateTime | enumCase | object =>
          refine ⟨settled_shape _ _, ?_⟩
          rintro _ ⟨⟩
  | enumeration e =>
      exact tame_of_flat fun v => ⟨e.settled_decode v, fun w hw => e.depth_decode hw⟩
  | union members => exact tame_firstSuccess (r := fun m v => f m v) (hmember members rfl) 0
  | formatted format =>
      cases format with
      | dateTime =>
          refine tame_of_flat fun v => ?_
          cases v with
          | str s =>
              exact ⟨settled_parseTimestamp s, fun w hw => depth_parseTimestamp hw⟩
          | none | bool | int | float | list | dict | dateTime | enumCase | object =>
              exact settled_of_flat (.inr ⟨_, rfl⟩)
      | integerText => exact tame_of_flat fun v => settled_of_flat (.inr ⟨_, rfl⟩)

/-- Encoding by kind is tame under the same conditions. -/
theorem tame_encodeByKind (hk : g.kind? t = some k)
    (hpart : ∀ r ∈ kindRefs k, ∀ lesser < depth, Tame lesser (f r))
    (hmember : ∀ ms, k = .union ms → ∀ m ∈ ms, Tame depth (f m)) :
    Tame depth fun v => g.encodeByKind f v t := by
  simp only [encodeByKind, kindOf_eq hk]
  cases k with
  | any => exact tame_ok
  | null | bool | integer | double | text =>
      refine tame_of_flat fun v => settled_of_flat ?_
      cases v <;> first | exact .inl ⟨_, rfl, rfl⟩ | exact .inr ⟨_, rfl⟩
  | array items => exact tame_convertItems (hpart items List.mem_cons_self)
  | map values => exact tame_convertEntries (hpart values List.mem_cons_self)
  | record r =>
      intro v hv
      cases v with
      | object name fields =>
          show (if name = r.name then _ else _ : Outcome Value).Settled ∧
            ∀ w, (if name = r.name then _ else _) = Except.ok w → _
          split
          · rw [Value.depth] at hv
            have hprops : ∀ p ∈ r.properties, Tame (Value.depthOfEntries fields) (f p.type) :=
              fun p hp => hpart p.type (List.mem_map_of_mem hp) _ (by omega)
            refine ⟨?_, fun w hw => ?_⟩
            · have hentries : Agree (encodeFields g.isNullable f r.properties fields [])
                  (encodeFields g.isNullable f r.properties fields []) := by
                refine agree_congruence.encodeFields (fun field hfield => ?_)
                  (Nat.succ_pos (Value.depthOfEntries fields)) fun p hp w hw => ?_
                · exact Nat.lt_succ_of_le (Value.depth_le_entries hfield)
                · exact ⟨(hprops p hp w (by omega)).1, rfl⟩
              exact (agree_congruence.map Value.dict hentries).1
            · obtain ⟨entries, hentries, rfl⟩ := map_eq_ok.1 hw
              have hdepth := depth_encodeFields hprops (Nat.le_refl _) hentries
              rw [Value.depthOfEntries] at hdepth
              rw [Value.depth, Value.depth]
              omega
          · refine ⟨settled_shape _ _, ?_⟩
            rintro _ ⟨⟩
      | none | bool | int | float | str | list | dict | dateTime | enumCase =>
          refine ⟨settled_shape _ _, ?_⟩
          rintro _ ⟨⟩
  | enumeration e =>
      exact tame_of_flat fun v => ⟨e.settled_encode v, fun w hw => e.depth_encode hw⟩
  | union members => exact tame_firstSuccess (r := fun m v => f m v) (hmember members rfl) 0
  | formatted format =>
      cases format with
      | dateTime =>
          exact tame_of_flat fun v => ⟨settled_writeTimestamp v, fun w hw => depth_writeTimestamp hw⟩
      | integerText => exact tame_of_flat fun v => settled_of_flat (.inr ⟨_, rfl⟩)

/-- Conversion by kind is tame in both directions. -/
theorem tame_convertByKind (hk : g.kind? t = some k) (d : Direction)
    (hpart : ∀ r ∈ kindRefs k, ∀ lesser < depth, Tame lesser (f r))
    (hmember : ∀ ms, k = .union ms → ∀ m ∈ ms, Tame depth (f m)) :
    Tame depth fun v => g.convertByKind d f v t := by
  cases d with
  | decode => exact tame_decodeByKind hk hpart hmember
  | encode => exact tame_encodeByKind hk hpart hmember

/-- Kinds that refer to no other types convert tamely. -/
theorem tame_convertByKind_flat (hk : g.kind? t = some k) (hrefs : kindRefs k = [])
    (d : Direction) : Tame depth fun v => g.convertByKind d f v t := by
  refine tame_convertByKind hk d (fun r hr => ?_) ?_
  · rw [hrefs] at hr
    cases hr
  · rintro ms rfl m hm
    have hnone : ms = [] := hrefs
    rw [hnone] at hm
    cases hm

end TypeGraph

end TypedJson
