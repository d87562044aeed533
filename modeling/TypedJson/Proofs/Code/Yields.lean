import TypedJson.Code.Module
import TypedJson.Proofs.Outcome

/-!
# Results of generation steps

A generation step runs from what has been recorded to a result and to what has been recorded then;
it yields a result if some run of it ends with that result. Composed steps are taken apart: their
runs are runs of their parts, and what they yield comes from what their parts yield.
-/

namespace TypedJson.Code

variable {α β : Type}

/-- A run of the step ends with the result, from the first to the second requirements. -/
def Gen.Runs (x : Gen α) (s : Requirements) (a : α) (s' : Requirements) : Prop :=
  x.run.run s = (.ok a, s')

/-- Some run of the step ends with the result. -/
def Gen.Yields (x : Gen α) (a : α) : Prop :=
  ∃ s s', x.run.run s = (.ok a, s')

namespace Gen

/-! ## Runs -/

variable {s s' : Requirements}

/-- A composed step runs its second part behind the first. -/
theorem Runs.bind {x : Gen α} {f : α → Gen β} {b : β} (h : (x >>= f).Runs s b s') :
    ∃ a between, x.Runs s a between ∧ (f a).Runs between b s' := by
  unfold Runs at h
  rw [ExceptT.run_bind, StateT.run_bind] at h
  rcases hx : x.run.run s with ⟨_ | a, between⟩
  · rw [hx] at h
    cases h
  · rw [hx] at h
    exact ⟨a, between, hx, h⟩

/-- A pure step ends with its value and records nothing. -/
theorem Runs.pure {a b : α} (h : (Pure.pure a : Gen α).Runs s b s') : b = a ∧ s = s' := by
  cases h
  exact ⟨rfl, rfl⟩

/-- A refused step has no run that ends with a result. -/
theorem not_runs_throw {e : GenerateError} {b : α} : ¬ (throw e : Gen α).Runs s b s' := by
  intro h
  cases h

/-- A pure outcome ends with its value, if it is there, and records nothing. -/
theorem Runs.lift {r : Except GenerateError α} {a : α} (h : (Gen.lift r).Runs s a s') :
    r = .ok a ∧ s = s' := by
  cases r with
  | error e => exact absurd h not_runs_throw
  | ok b =>
      obtain ⟨rfl, rfl⟩ := Runs.pure h
      exact ⟨rfl, rfl⟩

/-- A run behind something that is recorded starts with that. -/
theorem Runs.require {change : Requirements → Requirements} {f : Unit → Gen β} {b : β}
    (h : (Gen.require change >>= f).Runs s b s') : (f ()).Runs (change s) b s' := by
  obtain ⟨_, _, hchange, h⟩ := h.bind
  cases hchange
  exact h

/-- A support function is its name, and is recorded. -/
theorem Runs.converter {c : Converter} {f : Function} (h : (Gen.converter c).Runs s f s') :
    f = .named c.name ∧ s.addConverter c = s' :=
  h.require.pure

/-- So is a support function with arguments. -/
theorem Runs.converterWith {c : Converter} {leading : List String} {f : Function}
    (h : (Gen.converterWith c leading).Runs s f s') :
    f = .partialCall c.name leading ∧ s.addConverter c = s' :=
  h.require.pure

/-! ## Results -/

/-- A composed step yields what its second part yields behind the first. -/
theorem Yields.bind {x : Gen α} {f : α → Gen β} {b : β} (h : (x >>= f).Yields b) :
    ∃ a, x.Yields a ∧ (f a).Yields b := by
  obtain ⟨s, s', h⟩ := h
  obtain ⟨a, between, hx, hf⟩ := Runs.bind h
  exact ⟨a, ⟨s, between, hx⟩, between, s', hf⟩

/-- A pure step yields its value only. -/
theorem Yields.pure {a b : α} (h : (Pure.pure a : Gen α).Yields b) : b = a := by
  obtain ⟨s, s', h⟩ := h
  exact (Runs.pure h).1

/-- A refused step yields nothing. -/
theorem not_yields_throw {e : GenerateError} {b : α} : ¬ (throw e : Gen α).Yields b := by
  rintro ⟨s, s', h⟩
  exact not_runs_throw h

/-- The outcome of a pure step is yielded if it is there. -/
theorem Yields.lift {r : Except GenerateError α} {a : α} (h : (Gen.lift r).Yields a) : r = .ok a := by
  obtain ⟨s, s', h⟩ := h
  exact (Runs.lift h).1

/-- Recording something yields nothing but that. -/
theorem Yields.require {change : Requirements → Requirements} {f : Unit → Gen β} {b : β}
    (h : (Gen.require change >>= f).Yields b) : (f ()).Yields b := by
  obtain ⟨_, -, h⟩ := h.bind
  exact h

/-- So does recording it on a condition. -/
theorem Yields.when {c : Prop} [Decidable c] {change : Requirements → Requirements}
    {f : Unit → Gen β} {b : β}
    (h : (if c then Gen.require change >>= f else f ()).Yields b) : (f ()).Yields b := by
  split at h
  · exact h.require
  · exact h

/-- A support function is yielded by its name. -/
theorem Yields.converter {c : Converter} {f : Function} (h : (Gen.converter c).Yields f) :
    f = .named c.name :=
  h.require.pure

/-- A support function is yielded with the given arguments. -/
theorem Yields.converterWith {c : Converter} {leading : List String} {f : Function}
    (h : (Gen.converterWith c leading).Yields f) : f = .partialCall c.name leading :=
  h.require.pure

/-- A list is mapped to what its items yield. -/
theorem Yields.mapM {f : α → Gen β} {as : List α} {bs : List β} (h : (as.mapM f).Yields bs) :
    List.Forall₂ (fun a b => (f a).Yields b) as bs := by
  induction as generalizing bs with
  | nil =>
      rw [List.mapM_nil] at h
      rw [h.pure]
      exact .nil
  | cons a as ih =>
      rw [List.mapM_cons] at h
      obtain ⟨b, hb, h⟩ := h.bind
      obtain ⟨rest, hrest, h⟩ := h.bind
      rw [h.pure]
      exact .cons hb (ih hrest)

end Gen

/-! ## Recorded support functions -/

/-- The support functions that have been recorded besides are those among the names. -/
def Recorded (s s' : Requirements) (names : List String) : Prop :=
  ∀ cv, s'.uses cv ↔ s.uses cv ∨ cv.name ∈ names

variable {s between s' : Requirements} {names others : List String}

/-- Support functions differ in name. -/
theorem Converter.name_injective : Function.Injective Converter.name := by
  intro c c' h
  cases c <;> cases c' <;> first | rfl | exact absurd h (by decide)

/-- Nothing is recorded for names that are not those of support functions. -/
theorem recorded_of_free (h : ∀ cv : Converter, cv.name ∉ names) : Recorded s s names :=
  fun cv => (or_iff_left (h cv)).symm

/-- Neither is it for an import. -/
theorem recorded_addName (s : Requirements) (module name : String)
    (h : ∀ cv : Converter, cv.name ∉ names) : Recorded s (s.addName module name) names :=
  fun cv => (or_iff_left (h cv)).symm

/-- A support function is recorded by its name. -/
theorem recorded_addConverter (s : Requirements) (c : Converter) :
    Recorded s (s.addConverter c) [c.name] := by
  intro cv
  rw [List.mem_singleton, Converter.name_injective.eq_iff, Requirements.addConverter]
  split
  next h =>
    refine (or_iff_left_of_imp ?_).symm
    rintro rfl
    exact h
  next => simp [Requirements.uses, or_comm]

/-- What is recorded behind something else is recorded besides. -/
theorem Recorded.trans (h : Recorded s between names) (h' : Recorded between s' others) :
    Recorded s s' (names ++ others) := by
  intro cv
  rw [h', h, List.mem_append, or_assoc]

/-- Names that are not those of support functions do not matter. -/
theorem Recorded.congr (h : Recorded s s' names)
    (heq : ∀ cv : Converter, cv.name ∈ names ↔ cv.name ∈ others) : Recorded s s' others :=
  fun cv => (h cv).trans (or_congr_right (heq cv))

namespace Context

variable {ctx : Context} {t : TypeRef}

/-- The kind of a type is found if the type has one. Looking it up records nothing. -/
theorem kind_of_runs {k : Kind} {s s' : Requirements} (h : (ctx.kind t).Runs s k s') :
    ctx.graph.kind? t = some k ∧ s = s' := by
  unfold kind at h
  cases hk : ctx.graph.kind? t with
  | none =>
      rw [hk] at h
      exact absurd h Gen.not_runs_throw
  | some kind =>
      rw [hk] at h
      obtain ⟨rfl, rfl⟩ := h.pure
      exact ⟨rfl, rfl⟩

/-- The kind of a type is yielded if the type has one. -/
theorem kind_of_yields {k : Kind} (h : (ctx.kind t).Yields k) : ctx.graph.kind? t = some k := by
  obtain ⟨s, s', h⟩ := h
  exact (kind_of_runs h).1

/-- What is generated for a type by kind is generated for its kind. -/
theorem yields_of_kind {α : Type} {k : Kind} {next : Kind → Gen α} {a : α}
    (h : (ctx.kind t >>= next).Yields a) (hk : ctx.graph.kind? t = some k) : (next k).Yields a := by
  obtain ⟨k', hk', h⟩ := h.bind
  rw [kind_of_yields hk'] at hk
  cases hk
  exact h

/-- The name of a type is yielded if the type has one. -/
theorem typeName_of_yields {name : String} (h : (ctx.typeName t).Yields name) :
    ctx.names.types.lookup t = some name := by
  have hname := h.lift
  unfold NameTable.typeName at hname
  cases hlookup : ctx.names.types.lookup t with
  | none =>
      rw [hlookup] at hname
      cases hname
  | some found =>
      rw [hlookup] at hname
      rw [Except.ok.inj hname]

/-- The name of a property is yielded if the record has one. -/
theorem propertyName_of_yields {i : Nat} {name : String}
    (h : (Gen.lift (ctx.names.propertyName t i)).Yields name) :
    ∃ ps, ctx.names.properties.lookup t = some ps ∧ ps[i]? = some name := by
  have hname := h.lift
  unfold NameTable.propertyName at hname
  split at hname
  next found hfound =>
    cases hname
    obtain ⟨ps, hps, hi⟩ := Option.bind_eq_some_iff.1 hfound
    exact ⟨ps, hps, hi⟩
  next => cases hname

end Context

end TypedJson.Code
