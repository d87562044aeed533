import TypedJson.Proofs.Code.Agreement
import TypedJson.Proofs.Value.Stops

/-!
# What is generated can be converted

The generator refuses a conversion where it stands in the graph, a value meets a missing rule where
it gets. A task is covered if some code was generated for it. What a covered task leads to is
covered (`Covers.leads`), for records because their properties are converted in their own classes,
and a covered task has all its rules (`Covers.supported`). So in a graph that has been rendered no
value meets a missing rule, not even in a branch whose failure a union hides.
-/

namespace TypedJson.Code

open TypeGraph Outcome

namespace Context

variable {ctx : Context} {d : Direction} {c c' : Chain} {t : TypeRef}

/-! ## Covered tasks -/

/-- The conversion of elements and members within a bound, as functions. -/
def elementWithin (ctx : Context) (depth : Nat) (d : Direction) (m : TypeRef) : Gen String := do
  let f ← ctx.convertWithin depth d .identity m
  return f.toFunction.render

/-- The conversion by kind within a bound. -/
def kindWithin (ctx : Context) (depth : Nat) (d : Direction) : Chain → TypeRef → Gen Chain :=
  ctx.convertByKind (ctx.elementWithin depth d) d

/-- The generation of code for a task behind a chain, by way of at most `depth` further types. -/
def generate (ctx : Context) (depth : Nat) : Task → Chain → Gen Chain
  | .type d t, c => ctx.convertWithin depth d c t
  | .kind d t, c => ctx.kindWithin depth d c t
  | .transformer d x target, c => ctx.transform (ctx.kindWithin depth) d x c target

/-- Some code is generated for the task. -/
def Covers (ctx : Context) (task : Task) : Prop :=
  ∃ n c c', (ctx.generate n task c).Yields c'

/-- Whatever code decodes or encodes the properties of records is generated. -/
def CoversRecords (ctx : Context) : Prop :=
  ∀ t r, ctx.graph.kind? t = some (.record r) → ∀ s ∈ kindRefs (.record r), ∀ d,
    ctx.Covers (.type d s)

/-- The conversion of a type is generated by its kind or its transformation. -/
theorem exists_step_of_yields {n : Nat} (h : (ctx.convertWithin n d c t).Yields c') :
    ∃ m, (match ctx.graph.transformation? t, d with
      | none, _ => ctx.kindWithin m d c t
      | some x, .decode => ctx.transform (ctx.kindWithin m) .decode x.transformer c x.target
      | some x, .encode => ctx.transform (ctx.kindWithin m) .encode x.reverse c t).Yields c' := by
  cases n with
  | zero => exact absurd h Gen.not_yields_throw
  | succ m => exact ⟨m, h⟩

/-- The function of an element is generated from its conversion. -/
theorem covers_of_element {n : Nat} {m : TypeRef} {text : String}
    (h : (ctx.elementWithin n d m).Yields text) : ctx.Covers (.type d m) := by
  obtain ⟨f, hf, -⟩ := h.bind
  exact ⟨n, _, f, hf⟩

/-- Elements and members of a covered type are covered, and so are the properties of a record. -/
theorem covers_part (hrecords : ctx.CoversRecords) {n : Nat} {k : Kind} {r : TypeRef}
    (hk : ctx.graph.kind? t = some k) (hr : r ∈ kindRefs k)
    (h : (ctx.kindWithin n d c t).Yields c') : ctx.Covers (.type d r) := by
  have hkind := yields_of_kind h hk
  cases k with
  | array items =>
      obtain rfl := List.mem_singleton.1 hr
      obtain ⟨text, htext, -⟩ := Gen.Yields.bind hkind
      exact covers_of_element htext
  | map values =>
      obtain rfl := List.mem_singleton.1 hr
      obtain ⟨text, htext, -⟩ := Gen.Yields.bind hkind
      exact covers_of_element htext
  -- A record is converted by its class, which has its own conversions of properties.
  | record record => exact hrecords t record hk r hr d
  | union members =>
      obtain ⟨texts, htexts, -⟩ := Gen.Yields.bind hkind
      obtain ⟨text, -, htext⟩ := exists_of_forall₂ htexts.mapM.flip hr
      exact covers_of_element htext
  | any | null | bool | integer | double | text | enumeration | formatted =>
      exact absurd hr List.not_mem_nil

/-- The branches of a covered choice are covered. -/
theorem covers_branch {n : Nat} {branches : List Transformer} {target : TypeRef}
    {functions : List String}
    (h : (ctx.transformBranches (ctx.kindWithin n) d branches target).Yields functions)
    {x : Transformer} (hx : x ∈ branches) : ctx.Covers (.transformer d x target) := by
  induction branches generalizing functions with
  | nil => cases hx
  | cons branch rest ih =>
      unfold transformBranches at h
      obtain ⟨f, hf, h⟩ := h.bind
      obtain ⟨others, hothers, -⟩ := h.bind
      rcases List.mem_cons.1 hx with rfl | hx
      · exact ⟨n, _, f, hf⟩
      · exact ih hothers hx

/-- The step behind another one is covered if the two together are. -/
theorem covers_next {n : Nat} {x y : Transformer} {target : TypeRef} (hy : x.next? = some y)
    (h : (ctx.transform (ctx.kindWithin n) d x c target).Yields c') :
    ctx.Covers (.transformer d y target) := by
  -- Whatever chain has been generated in front of it, the next step goes on from it.
  have hnext {next : Option Transformer} {between : Chain} (hnext : next = some y)
      (h : (ctx.transformNext (ctx.kindWithin n) d next between target).Yields c') :
      ctx.Covers (.transformer d y target) := by
    rw [hnext, transformNext] at h
    exact ⟨n, between, c', h⟩
  cases x with
  | decode source next =>
      unfold transform at h
      obtain ⟨decoded, -, h⟩ := h.bind
      exact hnext hy h
  | elements source container element next =>
      unfold transform at h
      obtain ⟨f, -, h⟩ := h.bind
      obtain ⟨step, -, h⟩ := h.bind
      exact hnext hy h
  | memberMatch source member next =>
      unfold transform at h
      obtain ⟨object, -, h⟩ := h.bind
      obtain ⟨step, -, h⟩ := h.bind
      exact hnext hy h
  | parseText source next | writeText source next =>
      unfold transform at h
      obtain ⟨step, -, h⟩ := h.bind
      exact hnext hy h
  | encode | choice | instantiate => cases hy

/-- What a covered task leads to is covered. -/
theorem Covers.leads {task task' : Task} (h : ctx.Covers task) (hrecords : ctx.CoversRecords)
    (hl : ctx.graph.Leads task task') : ctx.Covers task' := by
  obtain ⟨n, c, c', h⟩ := h
  cases hl with
  | rules hx | decoding hx | encoding hx =>
      obtain ⟨m, h⟩ := exists_step_of_yields h
      rw [hx] at h
      exact ⟨m, c, c', h⟩
  | part hk hr => exact covers_part hrecords hk hr h
  | branch hx =>
      unfold generate transform at h
      obtain ⟨functions, hfunctions, -⟩ := h.bind
      exact covers_branch hfunctions hx
  | decode =>
      unfold generate transform at h
      obtain ⟨decoded, hdecoded, -⟩ := h.bind
      exact ⟨n, c, decoded, hdecoded⟩
  | encode =>
      unfold generate transform at h
      exact ⟨n, c, c', h⟩
  | element =>
      unfold generate transform at h
      obtain ⟨f, hf, -⟩ := h.bind
      rw [elementTarget_eq] at hf
      exact ⟨n, .identity, f, hf⟩
  | next hy => exact covers_next hy h

/-- So is all that it leads to by way of others. -/
theorem Covers.run {task task' : Task} (h : ctx.Covers task) (hrecords : ctx.CoversRecords)
    (hrun : Relation.ReflTransGen ctx.graph.Leads task task') : ctx.Covers task' := by
  induction hrun with
  | refl => exact h
  | tail _ hl ih => exact ih.leads hrecords hl

/-! ## Rules of covered tasks -/

/-- A type object is generated for kinds that have one. -/
theorem hasTypeObject_of_yields {text : String} (h : (ctx.typeObject d t).Yields text) :
    ∃ k, ctx.graph.kind? t = some k ∧ k.hasTypeObject := by
  obtain ⟨k, hk, h⟩ := h.bind
  refine ⟨k, kind_of_yields hk, ?_⟩
  cases k with
  | any | union => exact absurd h Gen.not_yields_throw
  | null | bool | integer | double | text | array | map | record | enumeration | formatted => rfl

/-- A step that parses is generated for kinds that have texts. -/
theorem hasText_of_parseStep {f : Function} (h : (ctx.parseStep t).Yields f) :
    ∃ k, ctx.graph.kind? t = some k ∧ k.hasText := by
  obtain ⟨k, hk, h⟩ := h.bind
  refine ⟨k, kind_of_yields hk, ?_⟩
  cases k with
  | integer | enumeration => rfl
  | formatted format =>
      cases format with
      | dateTime => rfl
      | integerText => exact absurd h Gen.not_yields_throw
  | any | null | bool | double | text | array | map | record | union =>
      exact absurd h Gen.not_yields_throw

/-- So is a step that writes. -/
theorem hasText_of_writeStep {f : Function} (h : (ctx.writeStep t).Yields f) :
    ∃ k, ctx.graph.kind? t = some k ∧ k.hasText := by
  obtain ⟨k, hk, h⟩ := h.bind
  refine ⟨k, kind_of_yields hk, ?_⟩
  cases k with
  | integer | enumeration => rfl
  | formatted format =>
      cases format with
      | dateTime => rfl
      | integerText => exact absurd h Gen.not_yields_throw
  | any | null | bool | double | text | array | map | record | union =>
      exact absurd h Gen.not_yields_throw

/-- A kind is converted by its rules unless it is that of digits in texts. -/
theorem kind_of_covers (h : ctx.Covers (.kind d t)) :
    ∃ k, ctx.graph.kind? t = some k ∧ k ≠ .formatted .integerText := by
  obtain ⟨n, c, c', h⟩ := h
  obtain ⟨k, hk, h⟩ := Gen.Yields.bind h
  refine ⟨k, kind_of_yields hk, ?_⟩
  rintro rfl
  exact Gen.not_yields_throw h

/-- Covered tasks lack no rule. -/
theorem CoversRecords.bounds (hrecords : ctx.CoversRecords) :
    ctx.graph.Bounds (fun stop => ∀ m, stop ≠ .failed (.unsupported m)) ctx.Covers where
  leads h hl := h.leads hrecords hl
  failed e he m h := by
    injection h with h
    exact he m h
  endless t m h := by cases h
  kind h := by
    obtain ⟨k, hk, hdigits⟩ := kind_of_covers h
    exact ⟨k, hk, fun heq => absurd heq hdigits⟩
  member h := by
    obtain ⟨n, c, c', h⟩ := h
    unfold generate transform at h
    obtain ⟨text, htext, -⟩ := h.bind
    obtain ⟨k, hk, hobject⟩ := hasTypeObject_of_yields htext
    exact ⟨k, hk, fun heq => absurd hobject (Bool.eq_false_iff.1 heq)⟩
  parse h := by
    obtain ⟨n, c, c', h⟩ := h
    unfold generate transform at h
    obtain ⟨f, hf, -⟩ := h.bind
    obtain ⟨k, hk, htext⟩ := hasText_of_parseStep hf
    exact ⟨k, hk, fun heq => absurd htext (Bool.eq_false_iff.1 heq)⟩
  write h := by
    obtain ⟨n, c, c', h⟩ := h
    unfold generate transform at h
    obtain ⟨f, hf, -⟩ := h.bind
    obtain ⟨k, hk, htext⟩ := hasText_of_writeStep hf
    exact ⟨k, hk, fun heq => absurd htext (Bool.eq_false_iff.1 heq)⟩

/-- Whatever the bound and the value, a covered task meets no missing rule. -/
theorem Covers.supported {task : Task} (h : ctx.Covers task) (hrecords : ctx.CoversRecords)
    (n : Nat) (v : Value) : (ctx.graph.perform n task v).Supported := by
  intro missing heq
  exact hrecords.bounds.perform h n v _ heq missing rfl

end Context

/-! ## Rendered modules -/

/-- The type is that of a top-level or of a property. -/
def IsConverted (g : TypeGraph) (t : TypeRef) : Prop :=
  (∃ top ∈ g.topLevels, top.type = t) ∨ ∃ s r, g.kind? s = some (.record r) ∧ t ∈ kindRefs (.record r)

/-- The conversion of an expression covers the type. -/
theorem covers_of_convertValue {ctx : Context} {d : Direction} {expression text : String}
    {t : TypeRef} (h : (ctx.convertValue d expression t).Yields text) : ctx.Covers (.type d t) := by
  obtain ⟨c, hc, -⟩ := h.bind
  exact ⟨_, _, c, hc⟩

/-- A rendered module has steps. -/
theorem exists_moduleSteps {g : TypeGraph} {o : Options} {module : String}
    (h : renderModule g o = .ok module) : ∃ steps, ((contextOf g o).moduleSteps o).Yields steps := by
  unfold renderModule renderNamed at h
  dsimp only at h
  split at h
  next steps required hrun => exact ⟨steps, _, _, hrun⟩
  next => cases h

section Rendered

variable {g : TypeGraph} {o : Options} {module : String} (ho : o.justTypes = false)
  (hrender : renderModule g o = .ok module)

include ho hrender

/-- A module converts the properties of its records in both directions. -/
theorem coversRecords_of_rendered : (contextOf g o).CoversRecords := by
  intro t r hk s hs d
  have hr := record?_eq_some.2 hk
  obtain ⟨P, -, hP⟩ := exists_emits ho hrender fun _ => ""
  obtain ⟨c, -, hemits⟩ := exists_of_forall₂ hP.records.flip (mem_records.2 ⟨r, hr⟩)
  cases hemits with
  | intro hr' hname hfields hconversions =>
      obtain rfl := Option.some.inj (hr.symm.trans hr')
      have hholds := Context.holds_of_yields (NameTable.apart_assign g o) hfields
      obtain ⟨f, hf, rfl⟩ := hholds.exists_field hs
      obtain ⟨_, _, _, -, hvalues, hassignments⟩ := Context.classConversions_of_yields hconversions
      cases d with
      | decode =>
          obtain ⟨_, -, -, hvalue⟩ := exists_of_forall₂ hvalues.flip hf
          exact covers_of_convertValue hvalue
      | encode =>
          obtain ⟨_, -, -, text, hvalue, -⟩ := exists_of_forall₂ hassignments.flip hf
          exact covers_of_convertValue hvalue

/-- It has functions for each of its top-levels. -/
theorem exists_topLevel {top : TopLevel} (htop : top ∈ g.topLevels) :
    ∃ i part, g.topLevels[i]? = some top ∧
      ((contextOf g o).topLevel g.records top i).Yields part := by
  obtain ⟨steps, h⟩ := exists_moduleSteps hrender
  obtain ⟨enumerations, -, h⟩ := h.bind
  obtain ⟨classes, -, h⟩ := h.bind
  rw [ho] at h
  obtain ⟨parts, hparts, -⟩ := Gen.Yields.bind h
  obtain ⟨index, hindex⟩ := List.getElem?_of_mem htop
  have hmem : (top, index) ∈ g.topLevels.zipIdx := List.mem_zipIdx_iff_getElem?.2 hindex
  obtain ⟨part, -, hpart⟩ := exists_of_forall₂ hparts.mapM.flip hmem
  exact ⟨index, part, hindex, hpart⟩

/-- It converts its top-levels in both directions. -/
theorem covers_topLevel {top : TopLevel} (htop : top ∈ g.topLevels) (d : Direction) :
    (contextOf g o).Covers (.type d top.type) := by
  obtain ⟨index, part, -, hpart⟩ := exists_topLevel ho hrender htop
  obtain ⟨names, -, hpart⟩ := Gen.Yields.bind hpart
  obtain ⟨decode, hdecode, hpart⟩ := Gen.Yields.bind hpart
  obtain ⟨encode, hencode, -⟩ := Gen.Yields.bind hpart
  cases d with
  | decode => exact covers_of_convertValue hdecode
  | encode => exact covers_of_convertValue hencode

/-- So it converts every type of a top-level or of a property. -/
theorem covers_of_isConverted {t : TypeRef} (ht : IsConverted g t) (d : Direction) :
    (contextOf g o).Covers (.type d t) := by
  rcases ht with ⟨top, htop, rfl⟩ | ⟨s, r, hk, ht⟩
  · exact covers_topLevel ho hrender htop d
  · exact coversRecords_of_rendered ho hrender s r hk t ht d

end Rendered

/-- In a graph whose module has been rendered with its conversions, no value of a top-level or of a
property meets a missing rule: neither as the result of decoding or encoding it nor in a conversion
that these lead to, be its failure hidden by a union or a choice or not. -/
theorem rendered_conversions_supported {g : TypeGraph} {o : Options} {module : String}
    (ho : o.justTypes = false) (hrender : renderModule g o = .ok module) {t : TypeRef}
    (ht : IsConverted g t) :
    (∀ v, (g.decode t v).Supported ∧ (g.encode t v).Supported) ∧
      ∀ d task, Relation.ReflTransGen g.Leads (.type d t) task →
        ∀ n v, (g.perform n task v).Supported := by
  have hrecords := coversRecords_of_rendered ho hrender
  have hcovers (d : Direction) := covers_of_isConverted ho hrender ht d
  refine ⟨fun v => ⟨?_, ?_⟩, fun d task hrun n v => ?_⟩
  · exact (hcovers .decode).supported hrecords (g.budget v) v
  · exact (hcovers .encode).supported hrecords (g.budget v) v
  · exact ((hcovers d).run hrecords hrun).supported hrecords n v

/-- The count of a record, a number or a text of digits, is converted by rules only, and so is the
text by itself, whose failure is hidden where there is a number. -/
theorem rendered_conversions_supported_count :
    (∃ module, renderModule countGraph .standard = .ok module) ∧ IsConverted countGraph ⟨4⟩ ∧
      (countGraph.decode ⟨4⟩ (.bool true)).Supported ∧
      ∀ v, (countGraph.perform 2 (.type .decode ⟨3⟩) v).Supported := by
  obtain ⟨module, hrender⟩ := rendered_countGraph
  have hcount : IsConverted countGraph ⟨4⟩ := .inr ⟨⟨6⟩, _, rfl, List.mem_cons_self⟩
  obtain ⟨hresult, hnested⟩ := rendered_conversions_supported rfl hrender hcount
  have hrules : countGraph.Leads (.type .decode ⟨4⟩) (.kind .decode ⟨4⟩) := .rules rfl
  have hmember : countGraph.Leads (.kind .decode ⟨4⟩) (.type .decode ⟨3⟩) :=
    .part (k := .union [⟨1⟩, ⟨3⟩]) rfl (List.mem_cons_of_mem _ List.mem_cons_self)
  exact ⟨⟨module, hrender⟩, hcount, (hresult (.bool true)).1,
    fun v => hnested .decode _ (.tail (.single hrules) hmember) 2 v⟩

end TypedJson.Code
