import TypedJson.Proofs.Value.Range
import TypedJson.Proofs.Value.Typing

/-!
# Values that leak through `any`

A position of any type passes its value on. Encoding leaves JSON data, unless such a position is
given a timestamp, a case or an object, which takes a union that encodes a value by another member
than the one that has decoded it. `Leaks` says between which types this can happen, by their kinds
alone. If no union has two such members (`SealedUnions`), what was decoded from a document is
encoded to a document (`encodeTopLevel_of_decodeTopLevel`); otherwise it may not be (`rows_leak`).
-/

namespace TypedJson

open Ordered Outcome

/-- Being JSON data is hereditary. -/
theorem Value.hereditary_plain : Hereditary Plain where
  none := .none
  str := .str
  list := ⟨fun h => by cases h with | list h => exact h, .list⟩
  dict := ⟨fun h => by cases h with | dict h => exact h, .dict⟩
  fields h := by cases h

namespace TypeGraph

/-- The type decodes JSON data to more than JSON data: to timestamps, cases or objects, or to lists,
dicts or members with such parts. -/
inductive Enriches (g : TypeGraph) : TypeRef → Prop
  | dateTime {t : TypeRef} (hk : g.kind? t = some (.formatted .dateTime)) : Enriches g t
  | enumeration {t : TypeRef} {e : Enumeration} (hk : g.kind? t = some (.enumeration e)) :
      Enriches g t
  | record {t : TypeRef} {r : Record} (hk : g.kind? t = some (.record r)) : Enriches g t
  | items {t items : TypeRef} (hk : g.kind? t = some (.array items)) (h : Enriches g items) :
      Enriches g t
  | values {t values : TypeRef} (hk : g.kind? t = some (.map values)) (h : Enriches g values) :
      Enriches g t
  | member {t m : TypeRef} {ms : List TypeRef} (hk : g.kind? t = some (.union ms)) (hm : m ∈ ms)
      (h : Enriches g m) : Enriches g t

/-- A part of a value that the first type decodes to more than JSON data may stand where the second
type takes any value. -/
inductive Leaks (g : TypeGraph) : TypeRef → TypeRef → Prop
  | any {s t : TypeRef} (hs : g.Enriches s) (ht : g.kind? t = some .any) : Leaks g s t
  | items {s t items items' : TypeRef} (hs : g.kind? s = some (.array items))
      (ht : g.kind? t = some (.array items')) (h : Leaks g items items') : Leaks g s t
  | values {s t values values' : TypeRef} (hs : g.kind? s = some (.map values))
      (ht : g.kind? t = some (.map values')) (h : Leaks g values values') : Leaks g s t
  /-- Of records of one label, only the properties of one name meet. -/
  | fields {s t : TypeRef} {r r' : Record} {p p' : Property} (hs : g.kind? s = some (.record r))
      (ht : g.kind? t = some (.record r')) (hlabel : r.name = r'.name) (hp : p ∈ r.properties)
      (hp' : p' ∈ r'.properties) (hname : p.name = p'.name) (h : Leaks g p.type p'.type) :
      Leaks g s t
  | decoded {s t m : TypeRef} {ms : List TypeRef} (hs : g.kind? s = some (.union ms)) (hm : m ∈ ms)
      (h : Leaks g m t) : Leaks g s t
  | encoded {s t m : TypeRef} {ms : List TypeRef} (ht : g.kind? t = some (.union ms)) (hm : m ∈ ms)
      (h : Leaks g s m) : Leaks g s t

/-- Where a union has decoded JSON data by one member and encodes the value by another one, nothing
leaks from the one to the other. -/
def SealedUnions (g : TypeGraph) : Prop :=
  ∀ u ms, g.kind? u = some (.union ms) → ∀ v x m m', v.Plain → g.decode m v = .ok x →
    g.chosen? .decode ms v = some m → g.chosen? .encode ms x = some m' → m = m' ∨ ¬ g.Leaks m m'

variable {g : TypeGraph} {s t : TypeRef} {v x w : Value}

section Accepted

variable (hg : g.Accepted) (hx : g.OnlyIntegerTexts)
include hg hx

/-! ## JSON data -/

/-- Types that do not enrich JSON data decode it to JSON data. -/
theorem plain_of_decode (h : g.decode t v = .ok x) : v.Plain → ¬ g.Enriches t → x.Plain := by
  refine decode_induction hg hx (motive := fun t v x => v.Plain → ¬ g.Enriches t → x.Plain) ?_ ?_ h
  · intro t s i _ _ _ _ _
    exact .int i
  · intro t k v x hk _ _ hstep hpart hmember hv henriches
    cases hstep with
    | any | null | bool | integer | float | text => exact hv
    | double i => exact .float _
    | dateTime => exact absurd (.dateTime hk) henriches
    | enumeration => exact absurd (.enumeration hk) henriches
    | record => exact absurd (.record hk) henriches
    | array hitems =>
        have hvalues := Value.hereditary_plain.list.1 hv
        refine .list fun y hy => ?_
        obtain ⟨z, hz, hzy⟩ := exists_of_forall₂ hitems hy
        exact hpart _ z y (Value.depth_lt_list hz) hzy (hvalues z hz) fun h =>
          henriches (.items hk h)
    | map hentries =>
        have hvalues := Value.hereditary_plain.dict.1 hv
        refine .dict fun entry hentry => ?_
        obtain ⟨given, hgiven, hrun⟩ := exists_of_forall₂ hentries hentry
        exact hpart _ given.2 entry.2 (Value.depth_lt_dict hgiven) hrun (hvalues given hgiven)
          fun h => henriches (.values hk h)
    | union hm hrun =>
        exact hmember _ rfl _ hm _ hrun hv fun h => henriches (.member hk hm h)

/-- JSON data is encoded to JSON data. -/
theorem plain_of_encode (h : g.encode t x = .ok w) : x.Plain → w.Plain :=
  hereditary_of_encode hg hx Value.hereditary_plain h

/-! ## Encoding by another type -/

/-- What is decoded to more than JSON data is decoded by a type that is no union, from which no more
leaks. -/
theorem exists_decodeStep_of_not_leaks (h : g.decode s v = .ok x) :
    ¬ g.Leaks s t → x.Plain ∨ ∃ s' k, g.kind? s' = some k ∧ k.isUnion = false ∧
      g.decode s' v = .ok x ∧ DecodeStep g.decode k v x ∧ ¬ g.Leaks s' t := by
  refine decode_induction hg hx (motive := fun s v x =>
    ¬ g.Leaks s t → x.Plain ∨ ∃ s' k, g.kind? s' = some k ∧ k.isUnion = false ∧
      g.decode s' v = .ok x ∧ DecodeStep g.decode k v x ∧ ¬ g.Leaks s' t) ?_ ?_ h
  · intro s text i _ _ _ _
    exact .inl (.int i)
  · intro s k v x hs _ h hstep _ hmember hleaks
    by_cases hunion : k.isUnion
    · cases hstep with
      | union hm hrun => exact hmember _ rfl _ hm _ hrun fun h => hleaks (.decoded hs hm h)
      | any | null | bool | integer | double | float | text | array | map | record | enumeration |
          dateTime => cases hunion
    · exact .inr ⟨s, k, hs, Bool.eq_false_iff.2 hunion, h, hstep, hleaks⟩

/-- What is encoded to more than JSON data is encoded by a type that is no union, to which no more
leaks. -/
theorem exists_encodeStep_of_not_leaks (h : g.encode t x = .ok w) :
    ¬ g.Leaks s t → w.Plain ∨ ∃ t' k, g.kind? t' = some k ∧ k.isUnion = false ∧
      EncodeStep g.isNullable g.encode k x w ∧ ¬ g.Leaks s t' := by
  refine encode_induction hg hx (motive := fun t x w =>
    ¬ g.Leaks s t → w.Plain ∨ ∃ t' k, g.kind? t' = some k ∧ k.isUnion = false ∧
      EncodeStep g.isNullable g.encode k x w ∧ ¬ g.Leaks s t') ?_ ?_ h
  · intro t i _
    exact .inl (.str _)
  · intro t k x w ht _ hstep _ hmember hleaks
    by_cases hunion : k.isUnion
    · cases hstep with
      | union hm hrun => exact hmember _ rfl _ hm _ hrun fun h => hleaks (.encoded ht hm h)
      | any | null | bool | integer | double | text | array | map | record | enumeration |
          dateTime => cases hunion
    · exact .inr ⟨t, k, ht, Bool.eq_false_iff.2 hunion, hstep, hleaks⟩

omit hg hx in
/-- JSON data is decoded to an object by a record of its label, or a member of a union. -/
theorem exists_record_of_decodeStep {f : TypeRef → Value → Outcome Value} {k : Kind} {name : String}
    {fields : List (String × Value)} (h : DecodeStep f k v (.object name fields)) (hv : v.Plain)
    (hunion : k.isUnion = false) : ∃ r entries, k = .record r ∧ r.name = name ∧
      v = .dict entries ∧ decodeFields f r.properties entries [] = .ok fields := by
  generalize hobject : Value.object name fields = x at h
  cases h with
  | record hfields =>
      cases hobject
      exact ⟨_, _, rfl, rfl, rfl, hfields⟩
  | any =>
      subst hobject
      cases hv
  | union => cases hunion
  | null | bool | integer | double | float | text | array | map | enumeration | dateTime =>
      cases hobject

/-- A field is decoded by its property, or is none. -/
theorem decode_of_field {props : List Property} {p : Property} {y : Value}
    {entries fields : List (String × Value)} (hp : p ∈ props)
    (h : decodeFields g.decode props entries [] = .ok fields)
    (hfind : find? p.name fields = some y) :
    y = .none ∨ g.decode p.type (valueOf p.name entries) = .ok y := by
  obtain ⟨y', hfind', hy⟩ := find?_decodeFields hp h
  obtain rfl : y = y' := Option.some.inj (hfind.symm.trans hfind')
  rcases hy with hy | ⟨q, -, hy⟩
  · exact .inr hy
  · exact .inl (eq_none_of_decode hg hx hy)

/-- What one type has decoded JSON data to is encoded to JSON data by another one to which nothing
leaks. -/
theorem plain_of_not_leaks (hv : v.Plain) (h : g.decode s v = .ok x) (hw : g.encode t x = .ok w)
    (hleaks : ¬ g.Leaks s t) : w.Plain := by
  -- The values of parts nest less deep, and unions are left behind at once on both sides.
  induction hdepth : v.depth using Nat.strongRecOn generalizing s t v x w with
  | ind depth ih =>
      subst hdepth
      by_cases hplain : x.Plain
      · exact plain_of_encode hg hx hw hplain
      obtain ⟨s, k, hs, hunion, h, hstep, hleaks⟩ :=
        (exists_decodeStep_of_not_leaks hg hx h hleaks).resolve_left hplain
      rcases exists_encodeStep_of_not_leaks hg hx hw hleaks with
        hplain | ⟨t, k', ht, hunion', hstep', hleaks⟩
      · exact hplain
      cases hstep' with
      | any => exact plain_of_decode hg hx h hv fun henriches => hleaks (.any henriches ht)
      | null | bool | integer | double | text => constructor
      | dateTime | enumeration => exact .str _
      | union => cases hunion'
      | array hitems' =>
          cases hstep with
          | any => exact absurd hv hplain
          | union => cases hunion
          | array hitems =>
              have hvalues := Value.hereditary_plain.list.1 hv
              refine .list fun z hz => ?_
              obtain ⟨y, hy, hyz⟩ := exists_of_forall₂ hitems' hz
              obtain ⟨u, hu, huy⟩ := exists_of_forall₂ hitems hy
              exact ih _ (Value.depth_lt_list hu) (hvalues u hu) huy hyz
                (fun h => hleaks (.items hs ht h)) rfl
      | map hentries' =>
          cases hstep with
          | any => exact absurd hv hplain
          | union => cases hunion
          | map hentries =>
              have hvalues := Value.hereditary_plain.dict.1 hv
              refine .dict fun entry hentry => ?_
              obtain ⟨y, hy, hyz⟩ := exists_of_forall₂ hentries' hentry
              obtain ⟨u, hu, huy⟩ := exists_of_forall₂ hentries hy
              exact ih _ (Value.depth_lt_dict hu) (hvalues u hu) huy hyz
                (fun h => hleaks (.values hs ht h)) rfl
      | record hfields' =>
          obtain ⟨r, entries, rfl, hlabel, rfl, hfields⟩ :=
            exists_record_of_decodeStep hstep hv hunion
          have hvalues := Value.hereditary_plain.dict.1 hv
          refine .dict (forall_encodeFields (List.forall_mem_nil _) ?_ hfields')
          rintro p' hp' y z (rfl | hfind) hz
          · exact plain_of_encode hg hx hz .none
          · obtain ⟨p, hp, hname⟩ := exists_property_of_find? hfields hfind
            rcases decode_of_field hg hx hp hfields (hname ▸ hfind) with rfl | hy
            · exact plain_of_encode hg hx hz .none
            · exact ih _ (Value.depth_lt_of_find? (valueOf_eq_or p.name entries))
                (Value.plain_valueOf hvalues p.name) hy hz
                (fun h => hleaks (.fields hs ht hlabel hp hp' hname h)) rfl

/-! ## Encoding by the same type -/

/-- What a type has decoded JSON data to is encoded by it to JSON data, if unions are sealed. -/
theorem plain_of_sealed (hsealed : g.SealedUnions) (h : g.decode t v = .ok x) :
    v.Plain → ∀ w, g.encode t x = .ok w → w.Plain := by
  refine decode_induction hg hx (motive := fun t v x =>
    v.Plain → ∀ w, g.encode t x = .ok w → w.Plain) ?_ ?_ h
  · intro t s i _ _ _ _ w hw
    exact plain_of_encode hg hx hw (.int i)
  · intro t k v x hk hne h hstep hpart hmember hv w hw
    cases hstep with
    | any | null | bool | integer | float | text => exact plain_of_encode hg hx hw hv
    | double i => exact plain_of_encode hg hx hw (.float _)
    | dateTime =>
        cases encodeStep_of_encode hg hx hk hne hw with
        | dateTime => exact .str _
    | enumeration =>
        cases encodeStep_of_encode hg hx hk hne hw with
        | enumeration => exact .str _
    | array hitems =>
        have hvalues := Value.hereditary_plain.list.1 hv
        cases encodeStep_of_encode hg hx hk hne hw with
        | array hitems' =>
            refine .list fun z hz => ?_
            obtain ⟨y, hy, hyz⟩ := exists_of_forall₂ hitems' hz
            obtain ⟨u, hu, huy⟩ := exists_of_forall₂ hitems hy
            exact hpart _ u y (Value.depth_lt_list hu) huy (hvalues u hu) z hyz
    | map hentries =>
        have hvalues := Value.hereditary_plain.dict.1 hv
        cases encodeStep_of_encode hg hx hk hne hw with
        | map hentries' =>
            refine .dict fun entry hentry => ?_
            obtain ⟨y, hy, hyz⟩ := exists_of_forall₂ hentries' hentry
            obtain ⟨u, hu, huy⟩ := exists_of_forall₂ hentries hy
            exact hpart _ u.2 y.2 (Value.depth_lt_dict hu) huy (hvalues u hu) entry.2 hyz
    | record hfields =>
        have hvalues := Value.hereditary_plain.dict.1 hv
        cases encodeStep_of_encode hg hx hk hne hw with
        | record hfields' =>
            refine .dict (forall_encodeFields (List.forall_mem_nil _) ?_ hfields')
            rintro p hp y z (rfl | hfind) hz
            · exact plain_of_encode hg hx hz .none
            · rcases decode_of_field hg hx hp hfields hfind with rfl | hy
              · exact plain_of_encode hg hx hz .none
              · exact hpart _ _ y (Value.depth_lt_of_find? (valueOf_eq_or p.name _)) hy
                  (Value.plain_valueOf hvalues p.name) z hz
    | union _ _ =>
        obtain ⟨m, hm, hdecode⟩ := (convert_union_eq_ok hg hx hk).1 h
        obtain ⟨m', hm', hencode⟩ := (convert_union_eq_ok hg hx hk).1 hw
        rcases hsealed _ _ hk v x m m' hv hdecode hm hm' with rfl | hleaks
        · exact hmember _ rfl m (mem_of_chosen? hm).1 x hdecode hv w hencode
        · exact plain_of_not_leaks hg hx hv hdecode hencode hleaks

/-- Unions are sealed if nothing leaks from a member to one in front of it, and property names are
distinct. -/
theorem sealedUnions_of_pairwise (hp : g.DistinctProperties)
    (hpairwise : ∀ u ms, g.kind? u = some (.union ms) → ms.Pairwise fun m' m => ¬ g.Leaks m m') :
    g.SealedUnions := by
  intro u ms hk v x m m' _ hdecode hm hm'
  obtain ⟨w, hw⟩ := exists_encode_of_accepted hg hx hp hdecode
  rcases chosen?_eq_or_front (hpairwise u ms hk) hm' (mem_of_chosen? hm).1 hw with rfl | hleaks
  · exact .inl rfl
  · exact .inr hleaks

end Accepted

/-! ## Documents -/

/-- In an accepted graph whose transformations are those of integers in texts, and whose unions are
sealed, what a top-level has decoded a document to is encoded, if at all, to JSON data, and written
as a document if the numbers of the given one are in range. -/
theorem encodeTopLevel_of_decodeTopLevel {types : Array Node} {topLevels : List TopLevel}
    (hmake : make types topLevels = .ok g) (hx : g.OnlyIntegerTexts) (hsealed : g.SealedUnions)
    (name : String) (t : TypeRef) (document : Json) (x w : Value)
    (ht : g.topLevelType? name = some t) (h : g.decodeTopLevel name document = .ok x)
    (hw : g.encode t x = .ok w) :
    w.Plain ∧ (document.InRange → ∃ written, g.encodeTopLevel name x = .ok written) := by
  have hg : g.Accepted := accepted_of_make hmake
  have hname : g.topLevelType name = .ok t := by
    rw [topLevelType, ht]
  have hdecode : g.decode t (.ofJson document) = .ok x := by
    rwa [decodeTopLevel, hname] at h
  have hplain : w.Plain :=
    plain_of_sealed hg hx hsealed hdecode (Value.plain_ofJson document) w hw
  refine ⟨hplain, fun hdocument => ?_⟩
  have hrange : w.InRange := inRange_of_encode hg hx hw
    (inRange_of_decode hg hx hdecode (Value.inRange_ofJson document hdocument))
  obtain ⟨written, hwritten⟩ := Value.exists_toJson hplain hrange
  refine ⟨written, ?_⟩
  rw [encodeTopLevel]
  refine bind_eq_ok.2 ⟨t, hname, bind_eq_ok.2 ⟨w, hw, ?_⟩⟩
  rw [hwritten]

/-- Lists of events, and of notes that say anything. -/
def logGraph : TypeGraph where
  types := #[⟨.any, none⟩, ⟨.formatted .dateTime, none⟩,
    ⟨.record ⟨"Event", [⟨"at", ⟨1⟩, none⟩], none⟩, none⟩,
    ⟨.record ⟨"Note", [⟨"body", ⟨0⟩, none⟩], none⟩, none⟩,
    ⟨.array ⟨2⟩, none⟩, ⟨.array ⟨3⟩, none⟩, ⟨.union [⟨4⟩, ⟨5⟩], none⟩]
  topLevels := [⟨"Log", ⟨6⟩⟩]

/-- The types of logs are accepted and have no transformations, and nothing leaks from notes to
events, which have another label. -/
theorem logGraph_fits : make logGraph.types logGraph.topLevels = .ok logGraph ∧
    logGraph.OnlyIntegerTexts ∧ logGraph.SealedUnions := by
  have hmake : make logGraph.types logGraph.topLevels = .ok logGraph :=
    make_eq_self rfl (by decide)
  have hx : logGraph.OnlyIntegerTexts := by
    rintro ⟨_ | _ | _ | _ | _ | _ | _ | i⟩ x h
    all_goals cases h
  have hp : logGraph.DistinctProperties := by
    rintro ⟨_ | _ | _ | _ | _ | _ | _ | i⟩ r h
    any_goals cases h
    all_goals decide
  have hrecords : ¬ logGraph.Leaks ⟨3⟩ ⟨2⟩ := by
    intro h
    cases h with
    | fields hs ht hlabel =>
        cases hs
        cases ht
        exact absurd hlabel (by decide)
    | any _ ht | encoded ht => cases ht
    | items hs | values hs | decoded hs => cases hs
  have hlists : ¬ logGraph.Leaks ⟨5⟩ ⟨4⟩ := by
    intro h
    cases h with
    | items hs ht h =>
        cases hs
        cases ht
        exact hrecords h
    | any _ ht | encoded ht => cases ht
    | values hs | fields hs | decoded hs => cases hs
  refine ⟨hmake, hx, sealedUnions_of_pairwise (accepted_of_make hmake) hx hp ?_⟩
  rintro ⟨_ | _ | _ | _ | _ | _ | _ | i⟩ ms h
  any_goals cases h
  refine .cons (fun m hm => ?_) (.cons nofun .nil)
  obtain rfl := List.mem_singleton.1 hm
  exact hlists

/-- A list of notes is written again, though a note may say anything. -/
theorem encodeTopLevel_of_decodeTopLevel_notes :
    let document : Json := .list [.object [("body", .list [.int 1])]]
    let notes : Value := .list [.object "Note" [("body", .list [.int 1])]]
    let written : Value := .list [.dict [("body", .list [.int 1])]]
    make logGraph.types logGraph.topLevels = .ok logGraph ∧ logGraph.OnlyIntegerTexts ∧
      logGraph.SealedUnions ∧ logGraph.topLevelType? "Log" = some ⟨6⟩ ∧ document.InRange ∧
      logGraph.decodeTopLevel "Log" document = .ok notes ∧
      logGraph.encode ⟨6⟩ notes = .ok written ∧ written.Plain ∧
      ∃ json, logGraph.encodeTopLevel "Log" notes = .ok json := by
  intro document notes written
  obtain ⟨hmake, hx, hsealed⟩ := logGraph_fits
  have hdocument : document.InRange := by
    refine .list (List.forall_mem_singleton.2 (.object (List.forall_mem_singleton.2 ?_)))
    exact .list (List.forall_mem_singleton.2 (.int (by decide)))
  have hdecode : logGraph.decodeTopLevel "Log" document = .ok notes := rfl
  have hencode : logGraph.encode ⟨6⟩ notes = .ok written := rfl
  obtain ⟨hplain, hwritten⟩ := encodeTopLevel_of_decodeTopLevel hmake hx hsealed "Log" ⟨6⟩
    document notes written rfl hdecode hencode
  exact ⟨hmake, hx, hsealed, rfl, hdocument, hdecode, hencode, hplain, hwritten hdocument⟩

/-- Rows of counts and lists of anything, or of counts in texts and lists of colors. -/
def rowGraph : TypeGraph where
  types := #[⟨.any, none⟩, ⟨.integer, none⟩, ⟨.text, none⟩,
    ⟨.formatted .integerText, some (Builder.integerTextTransformation ⟨2⟩ ⟨1⟩)⟩,
    ⟨.enumeration ⟨"Color", ["red"], none⟩, none⟩, ⟨.array ⟨0⟩, none⟩, ⟨.array ⟨4⟩, none⟩,
    ⟨.union [⟨1⟩, ⟨5⟩], none⟩, ⟨.union [⟨3⟩, ⟨6⟩], none⟩, ⟨.array ⟨7⟩, none⟩, ⟨.array ⟨8⟩, none⟩,
    ⟨.union [⟨9⟩, ⟨10⟩], none⟩]
  topLevels := [⟨"Rows", ⟨11⟩⟩]

/-- A row that starts with a text is decoded by the second member. Then it starts with a count, and
the first member encodes it, and passes the color on. -/
theorem rows_leak :
    let document : Json := .list [.text "12", .list [.text "red"]]
    let rows : Value := .list [.int 12, .list [.enumCase "Color" "red"]]
    make rowGraph.types rowGraph.topLevels = .ok rowGraph ∧ rowGraph.OnlyIntegerTexts ∧
      rowGraph.topLevelType? "Rows" = some ⟨11⟩ ∧
      rowGraph.decodeTopLevel "Rows" document = .ok rows ∧ rowGraph.encode ⟨11⟩ rows = .ok rows ∧
      ¬ rows.Plain ∧ rowGraph.encodeTopLevel "Rows" rows = .error (.failed (.notJson "Color")) := by
  intro document rows
  refine ⟨make_eq_self rfl (by decide), ?_, rfl, rfl, rfl, ?_, rfl⟩
  · rintro ⟨_ | _ | _ | _ | _ | _ | _ | _ | _ | _ | _ | _ | i⟩ x h
    any_goals cases h
    exact ⟨rfl, ⟨2⟩, ⟨1⟩, rfl, rfl, rfl⟩
  · show ¬ Value.Plain (.list [.int 12, .list [.enumCase "Color" "red"]])
    intro hplain
    cases hplain with
    | list hrows =>
        cases hrows _ (.tail _ (.head _)) with
        | list hcells => cases hcells _ (.head _)

end TypeGraph

end TypedJson
