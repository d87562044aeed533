import TypedJson.Proofs.Value.Tasks

/-!
# Why conversions stop

Which stops a conversion can come to is a matter of its tasks: a value of the wrong shape fails under
any rule, but whether a rule is missing or a reference dangling shows in the types alone. `Bounds`
collects what each sort of task has to make sure of, for tasks that lead to each other, and
`Bounds.perform` concludes that no value stops a conversion in any other way, not even in a branch
whose failure a union or a choice hides.
-/

namespace TypedJson

namespace Outcome

variable {α β : Type} {q : Stop → Prop}

/-- The conversion gives a value, or stops for such a reason. -/
def StopsOnly (q : Stop → Prop) (r : Outcome α) : Prop :=
  ∀ stop, r = .error stop → q stop

/-- No value meets a missing rule here. -/
def Supported (r : Outcome α) : Prop :=
  ∀ missing, r ≠ .error (.failed (.unsupported missing))

/-- A value is no stop. -/
theorem stopsOnly_ok (a : α) : StopsOnly q (.ok a) := by
  intro stop h
  cases h

/-- A conversion that stops does so for its reason. -/
theorem stopsOnly_error {stop : Stop} (h : q stop) : StopsOnly q (.error stop : Outcome α) := by
  intro stop' heq
  cases heq
  exact h

/-- Composed conversions stop where one of them does. -/
theorem StopsOnly.bind {x : Outcome α} {f : α → Outcome β} (hx : x.StopsOnly q)
    (hf : ∀ a, (f a).StopsOnly q) : (x >>= f).StopsOnly q := by
  intro stop h
  rcases bind_eq_error.1 h with h | ⟨a, -, h⟩
  · exact hx stop h
  · exact hf a stop h

/-- Mapping a result adds no stop. -/
theorem StopsOnly.map {x : Outcome α} (hx : x.StopsOnly q) (f : α → β) : StopsOnly q (x.map f) := by
  intro stop h
  exact hx stop (map_eq_error.1 h)

/-- A list stops where one of its items does. -/
theorem stopsOnly_mapM {f : α → Outcome β} {as : List α} (h : ∀ a ∈ as, (f a).StopsOnly q) :
    (as.mapM f).StopsOnly q := by
  induction as with
  | nil => exact stopsOnly_ok []
  | cons a as ih =>
      obtain ⟨ha, has⟩ := List.forall_mem_cons.1 h
      rw [List.mapM_cons]
      exact ha.bind fun _ => (ih has).bind fun _ => stopsOnly_ok _

/-- What follows a failure stops where one of the two does. -/
theorem StopsOnly.recover {r s : Outcome α} (hr : r.StopsOnly q) (hs : s.StopsOnly q) :
    (r.recover s).StopsOnly q := by
  cases r with
  | ok a => exact stopsOnly_ok a
  | error stop =>
      cases stop with
      | failed e => exact hs
      | dangling t | endless t => exact hr

end Outcome

open Outcome

/-! ## Single values -/

section Values

variable {q : Stop → Prop} (hq : ∀ e : ConversionError, (∀ m, e ≠ .unsupported m) → q (.failed e))

include hq

/-- A shape that does not match is no missing rule. -/
theorem stopsOnly_shape {α : Type} (expected : String) (v : Value) :
    (Outcome.shape expected v : Outcome α).StopsOnly q :=
  stopsOnly_error (hq _ nofun)

/-- Trying branches stops where one of them does, or where all have failed. -/
theorem stopsOnly_firstSuccess {β : Type} {run : β → Outcome Value} {branches : List β}
    (h : ∀ b ∈ branches, (run b).StopsOnly q) (tried : Nat) :
    (firstSuccess run tried branches).StopsOnly q := by
  induction branches generalizing tried with
  | nil => exact stopsOnly_error (hq _ nofun)
  | cons b rest ih =>
      obtain ⟨hb, hrest⟩ := List.forall_mem_cons.1 h
      rw [firstSuccess_cons]
      exact hb.recover (ih hrest (tried + 1))

/-- Converting the items of a list stops where one of them does. -/
theorem stopsOnly_convertItems {f : Value → Outcome Value} (h : ∀ w, (f w).StopsOnly q) (v : Value) :
    (convertItems f v).StopsOnly q := by
  cases v with
  | list items => exact (stopsOnly_mapM fun w _ => h w).map _
  | none | bool | int | float | str | dict | dateTime | enumCase | object =>
      exact stopsOnly_shape hq _ _

/-- Converting the values of a dict stops where one of them does. -/
theorem stopsOnly_convertEntries {f : Value → Outcome Value} (h : ∀ w, (f w).StopsOnly q)
    (v : Value) : (convertEntries f v).StopsOnly q := by
  cases v with
  | dict entries =>
      exact (stopsOnly_mapM fun (entry : String × Value) _ => (h entry.2).map _).map _
  | none | bool | int | float | str | list | dateTime | enumCase | object =>
      exact stopsOnly_shape hq _ _

/-- A text that is no timestamp fails. -/
theorem stopsOnly_parseTimestamp (s : String) : (parseTimestamp s).StopsOnly q := by
  unfold parseTimestamp
  split
  · exact stopsOnly_ok _
  · exact stopsOnly_error (hq _ nofun)

/-- A text that is no integer fails. -/
theorem stopsOnly_parseInteger (s : String) : (parseInteger s).StopsOnly q := by
  unfold parseInteger
  split
  · exact stopsOnly_ok _
  · exact stopsOnly_error (hq _ nofun)

/-- A value that is no timestamp fails. -/
theorem stopsOnly_writeTimestamp (v : Value) : (writeTimestamp v).StopsOnly q := by
  cases v with
  | dateTime t => exact stopsOnly_ok _
  | none | bool | int | float | str | list | dict | enumCase | object => exact stopsOnly_shape hq _ _

/-- A value that names no case fails. -/
theorem Enumeration.stopsOnly_decode (e : Enumeration) (v : Value) : (e.decode v).StopsOnly q := by
  unfold Enumeration.decode
  split
  · split
    · exact stopsOnly_ok _
    · exact stopsOnly_error (hq _ nofun)
  · exact stopsOnly_error (hq _ nofun)

/-- A value that is no case fails. -/
theorem Enumeration.stopsOnly_encode (e : Enumeration) (v : Value) : (e.encode v).StopsOnly q := by
  unfold Enumeration.encode
  split
  · split
    · exact stopsOnly_ok _
    · exact stopsOnly_shape hq _ _
  · exact stopsOnly_shape hq _ _

omit hq in
/-- Decoding properties stops where one of their types does. -/
theorem stopsOnly_decodeFields {f : TypeRef → Value → Outcome Value} {props : List Property}
    (h : ∀ p ∈ props, ∀ w, (f p.type w).StopsOnly q) (entries fields : List (String × Value)) :
    (decodeFields f props entries fields).StopsOnly q := by
  induction props generalizing entries fields with
  | nil => exact stopsOnly_ok _
  | cons p rest ih =>
      obtain ⟨hp, hrest⟩ := List.forall_mem_cons.1 h
      exact (hp _).bind fun _ => ih hrest _ _

omit hq in
/-- Encoding properties stops where one of their types does. -/
theorem stopsOnly_encodeFields {nullable : TypeRef → Bool} {f : TypeRef → Value → Outcome Value}
    {props : List Property} (h : ∀ p ∈ props, ∀ w, (f p.type w).StopsOnly q)
    (fields entries : List (String × Value)) :
    (encodeFields nullable f props fields entries).StopsOnly q := by
  induction props generalizing fields entries with
  | nil => exact stopsOnly_ok _
  | cons p rest ih =>
      obtain ⟨hp, hrest⟩ := List.forall_mem_cons.1 h
      rw [encodeFields]
      split
      · exact ih hrest _ _
      · exact (hp _).bind fun _ => ih hrest _ _

end Values

/-! ## Kinds that have their rules -/

/-- Some type object tells the values of the kind. -/
def Kind.hasTypeObject : Kind → Bool
  | .any => false
  | .union _ => false
  | _ => true

/-- Values of the kind are parsed from texts and written as texts. -/
def Kind.hasText : Kind → Bool
  | .integer => true
  | .enumeration _ => true
  | .formatted .dateTime => true
  | _ => false

namespace TypeGraph

variable {g : TypeGraph} {t : TypeRef} {k : Kind} {v : Value} {q : Stop → Prop}
  (hq : ∀ e : ConversionError, (∀ m, e ≠ .unsupported m) → q (.failed e))

include hq

section ByKind

variable {f : TypeRef → Value → Outcome Value} (hk : g.kind? t = some k)
  (hdigits : k = .formatted .integerText → q (.failed (.unsupported (.noTransformation t))))
  (hpart : ∀ r ∈ kindRefs k, ∀ w, (f r w).StopsOnly q)

include hk hdigits hpart

/-- Decoding by kind stops where a part does, or where digits in texts have no transformation. -/
theorem stopsOnly_decodeByKind : (g.decodeByKind f v t).StopsOnly q := by
  rw [decodeByKind, kindOf_eq hk]
  cases k with
  | any => exact stopsOnly_ok v
  | null | bool | integer | double | text =>
      cases v <;> first | exact stopsOnly_ok _ | exact stopsOnly_shape hq _ _
  | array items => exact stopsOnly_convertItems hq (hpart items List.mem_cons_self) v
  | map values => exact stopsOnly_convertEntries hq (hpart values List.mem_cons_self) v
  | record r =>
      cases v with
      | dict entries =>
          exact (stopsOnly_decodeFields (fun p hp => hpart p.type (List.mem_map_of_mem hp)) _ _).map _
      | none | bool | int | float | str | list | dateTime | enumCase | object =>
          exact stopsOnly_shape hq _ _
  | enumeration e => exact e.stopsOnly_decode hq v
  | union members => exact stopsOnly_firstSuccess hq (fun m hm => hpart m hm v) 0
  | formatted format =>
      cases format with
      | dateTime =>
          cases v with
          | str s => exact stopsOnly_parseTimestamp hq s
          | none | bool | int | float | list | dict | dateTime | enumCase | object =>
              exact stopsOnly_shape hq _ _
      | integerText => exact stopsOnly_error (hdigits rfl)

/-- So does encoding by kind. -/
theorem stopsOnly_encodeByKind : (g.encodeByKind f v t).StopsOnly q := by
  rw [encodeByKind, kindOf_eq hk]
  cases k with
  | any => exact stopsOnly_ok v
  | null | bool | integer | double | text =>
      cases v <;> first | exact stopsOnly_ok _ | exact stopsOnly_shape hq _ _
  | array items => exact stopsOnly_convertItems hq (hpart items List.mem_cons_self) v
  | map values => exact stopsOnly_convertEntries hq (hpart values List.mem_cons_self) v
  | record r =>
      cases v with
      | object name fields =>
          show StopsOnly q (if name = r.name then _ else _)
          split
          · exact (stopsOnly_encodeFields (fun p hp => hpart p.type (List.mem_map_of_mem hp)) _ _).map
              _
          · exact stopsOnly_shape hq _ _
      | none | bool | int | float | str | list | dict | dateTime | enumCase =>
          exact stopsOnly_shape hq _ _
  | enumeration e => exact e.stopsOnly_encode hq v
  | union members => exact stopsOnly_firstSuccess hq (fun m hm => hpart m hm v) 0
  | formatted format =>
      cases format with
      | dateTime => exact stopsOnly_writeTimestamp hq v
      | integerText => exact stopsOnly_error (hdigits rfl)

/-- So does converting by kind in either direction. -/
theorem stopsOnly_convertByKind (d : Direction) : (g.convertByKind d f v t).StopsOnly q := by
  cases d with
  | decode => exact stopsOnly_decodeByKind hq hk hdigits hpart
  | encode => exact stopsOnly_encodeByKind hq hk hdigits hpart

end ByKind

/-- Requiring a type lacks its rule where no object tells the values. -/
theorem stopsOnly_requireType (hk : g.kind? t = some k)
    (hobject : k.hasTypeObject = false → q (.failed (.unsupported (.typeObject k)))) (d : Direction) :
    (g.requireType d v t).StopsOnly q := by
  rw [requireType_eq hk]
  split
  next hmatches =>
    refine stopsOnly_error (hobject ?_)
    cases k with
    | any | union => rfl
    | null | bool | integer | double | text | array | map | record | enumeration | formatted =>
        unfold matchesKind? at hmatches
        split at hmatches <;> contradiction
  next => exact stopsOnly_ok _
  next => exact stopsOnly_shape hq _ _

/-- Parsing a text lacks its rule where the kind has no texts. -/
theorem stopsOnly_parseInto (hk : g.kind? t = some k)
    (htext : k.hasText = false → q (.failed (.unsupported (.parse k)))) :
    (g.parseInto v t).StopsOnly q := by
  cases v with
  | str s =>
      rw [parseInto, kindOf_eq hk]
      cases k with
      | integer => exact stopsOnly_parseInteger hq s
      | enumeration e => exact e.stopsOnly_decode hq (.str s)
      | formatted format =>
          cases format with
          | dateTime => exact stopsOnly_parseTimestamp hq s
          | integerText => exact stopsOnly_error (htext rfl)
      | any | null | bool | double | text | array | map | record | union =>
          exact stopsOnly_error (htext rfl)
  | none | bool | int | float | list | dict | dateTime | enumCase | object =>
      exact stopsOnly_shape hq _ _

/-- Writing a text lacks its rule where the kind has no texts. -/
theorem stopsOnly_writeFrom (hk : g.kind? t = some k)
    (htext : k.hasText = false → q (.failed (.unsupported (.write k)))) :
    (g.writeFrom v t).StopsOnly q := by
  rw [writeFrom, kindOf_eq hk]
  cases k with
  | integer => cases v <;> first | exact stopsOnly_ok _ | exact stopsOnly_shape hq _ _
  | enumeration e => exact e.stopsOnly_encode hq v
  | formatted format =>
      cases format with
      | dateTime => exact stopsOnly_writeTimestamp hq v
      | integerText => exact stopsOnly_error (htext rfl)
  | any | null | bool | double | text | array | map | record | union =>
      exact stopsOnly_error (htext rfl)

omit hq

/-! ## Tasks -/

/-- Tasks that lead to each other and to no further ones look up types that there are, and lack no
rule but for an admitted reason. -/
structure Bounds (g : TypeGraph) (q : Stop → Prop) (among : Task → Prop) : Prop where
  leads {task task' : Task} : among task → g.Leads task task' → among task'
  failed (e : ConversionError) : (∀ m, e ≠ .unsupported m) → q (.failed e)
  endless (t : TypeRef) : q (.endless t)
  kind {d : Direction} {t : TypeRef} : among (.kind d t) → ∃ k, g.kind? t = some k ∧
    (k = .formatted .integerText → q (.failed (.unsupported (.noTransformation t))))
  member {d : Direction} {source member target : TypeRef} {next : Option Transformer} :
    among (.transformer d (.memberMatch source member next) target) →
      ∃ k, g.kind? member = some k ∧
        (k.hasTypeObject = false → q (.failed (.unsupported (.typeObject k))))
  parse {d : Direction} {source target : TypeRef} {next : Option Transformer} :
    among (.transformer d (.parseText source next) target) →
      ∃ k, g.kind? (parsedType next target) = some k ∧
        (k.hasText = false → q (.failed (.unsupported (.parse k))))
  write {d : Direction} {source target : TypeRef} {next : Option Transformer} :
    among (.transformer d (.writeText source next) target) →
      ∃ k, g.kind? source = some k ∧ (k.hasText = false → q (.failed (.unsupported (.write k))))

section Transformers

variable {among : Task → Prop} {byKind : Direction → Value → TypeRef → Outcome Value}

mutual
/-- A transformer stops for an admitted reason if the kinds that it converts by do. -/
theorem Bounds.transformWith (h : g.Bounds q among)
    (hkind : ∀ d s, among (.kind d s) → ∀ v, (byKind d v s).StopsOnly q) (d : Direction) :
    ∀ (x : Transformer) (target : TypeRef), among (.transformer d x target) → ∀ v,
      (g.transformWith byKind d x v target).StopsOnly q
  | .choice source branches, target, hx, v => by
      simp only [TypeGraph.transformWith]
      exact h.transformFirst hkind d branches target (fun x hmem => h.leads hx (.branch hmem)) 0 v
  | .decode source next, target, hx, v => by
      simp only [TypeGraph.transformWith]
      exact (hkind .decode source (h.leads hx .decode) v).bind fun decoded =>
        h.transformNext hkind d next target (fun y hy => h.leads hx (.next hy)) decoded
  | .encode source, target, hx, v => by
      simp only [TypeGraph.transformWith]
      exact hkind .encode source (h.leads hx .encode) v
  | .elements source container element next, target, hx, v => by
      have helement := h.transformWith hkind d element _ (h.leads hx .element)
      have hnext := h.transformNext hkind d next target fun y hy => h.leads hx (.next hy)
      simp only [transformWith_elements]
      cases container with
      | list => exact (stopsOnly_convertItems h.failed helement v).bind hnext
      | dict => exact (stopsOnly_convertEntries h.failed helement v).bind hnext
  | .memberMatch source member next, target, hx, v => by
      obtain ⟨k, hk, hobject⟩ := h.member hx
      simp only [TypeGraph.transformWith]
      exact (stopsOnly_requireType h.failed hk hobject d).bind fun _ =>
        h.transformNext hkind d next target (fun y hy => h.leads hx (.next hy)) v
  | .instantiate source, target, hx, v => by
      simp only [TypeGraph.transformWith]
      exact stopsOnly_ok v
  | .parseText source next, target, hx, v => by
      obtain ⟨k, hk, htext⟩ := h.parse hx
      simp only [TypeGraph.transformWith]
      exact (stopsOnly_parseInto h.failed hk htext).bind fun parsed =>
        h.transformNext hkind d next target (fun y hy => h.leads hx (.next hy)) parsed
  | .writeText source next, target, hx, v => by
      obtain ⟨k, hk, htext⟩ := h.write hx
      simp only [TypeGraph.transformWith]
      exact (stopsOnly_writeFrom h.failed hk htext).bind fun written =>
        h.transformNext hkind d next target (fun y hy => h.leads hx (.next hy)) written

/-- So do the steps behind a step. -/
theorem Bounds.transformNext (h : g.Bounds q among)
    (hkind : ∀ d s, among (.kind d s) → ∀ v, (byKind d v s).StopsOnly q) (d : Direction) :
    ∀ (next : Option Transformer) (target : TypeRef),
    (∀ y, next = some y → among (.transformer d y target)) → ∀ v,
      (g.transformNext byKind d next v target).StopsOnly q
  | none, target, hnext, v => by
      simp only [TypeGraph.transformNext]
      exact stopsOnly_ok v
  | some step, target, hnext, v => by
      simp only [TypeGraph.transformNext]
      exact h.transformWith hkind d step target (hnext step rfl) v

/-- So do the branches of a choice. -/
theorem Bounds.transformFirst (h : g.Bounds q among)
    (hkind : ∀ d s, among (.kind d s) → ∀ v, (byKind d v s).StopsOnly q) (d : Direction) :
    ∀ (branches : List Transformer) (target : TypeRef),
    (∀ x ∈ branches, among (.transformer d x target)) → ∀ tried v,
      (g.transformFirst byKind d branches tried v target).StopsOnly q
  | [], target, hbranches, tried, v => by
      simp only [TypeGraph.transformFirst]
      exact stopsOnly_error (h.failed _ nofun)
  | branch :: rest, target, hbranches, tried, v => by
      obtain ⟨hbranch, hrest⟩ := List.forall_mem_cons.1 hbranches
      rw [transformFirst_eq, firstSuccess_cons, ← transformFirst_eq]
      exact (h.transformWith hkind d branch target hbranch v).recover
        (h.transformFirst hkind d rest target hrest (tried + 1) v)
end

end Transformers

/-- Whatever the bound and the value, bounded tasks stop for an admitted reason. -/
theorem Bounds.perform {among : Task → Prop} (h : g.Bounds q among) {task : Task}
    (htask : among task) (n : Nat) (v : Value) : (g.perform n task v).StopsOnly q := by
  -- A type within a bound is converted by kinds within a smaller one, and kinds by types within it.
  have hkind {n : Nat} (htype : ∀ d r, among (.type d r) → ∀ w,
      (g.convertWithin n d r w).StopsOnly q) (d : Direction) (s : TypeRef) (hs : among (.kind d s))
      (w : Value) : (g.convertByKind d (g.convertWithin n d) w s).StopsOnly q := by
    obtain ⟨k, hk, hdigits⟩ := h.kind hs
    exact stopsOnly_convertByKind h.failed hk hdigits
      (fun r hr w => htype d r (h.leads hs (.part hk hr)) w) d
  have htype (n : Nat) (d : Direction) (r : TypeRef) (hr : among (.type d r)) (w : Value) :
      (g.convertWithin n d r w).StopsOnly q := by
    induction n generalizing d r w with
    | zero => exact stopsOnly_error (h.endless r)
    | succ n ih =>
        unfold convertWithin
        cases hx : g.transformation? r with
        | none => exact hkind ih d r (h.leads hr (.rules hx)) w
        | some x =>
            cases d with
            | decode =>
                exact h.transformWith (hkind ih) .decode x.transformer x.target
                  (h.leads hr (.decoding hx)) w
            | encode =>
                exact h.transformWith (hkind ih) .encode x.reverse r (h.leads hr (.encoding hx)) w
  cases task with
  | type d t => exact htype n d t htask v
  | kind d t => exact hkind (htype n) d t htask v
  | transformer d x target => exact h.transformWith (hkind (htype n)) d x target htask v

end TypeGraph

end TypedJson
