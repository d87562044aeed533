import TypedJson.Proofs.Code.Emission
import TypedJson.Proofs.Code.Readability
import TypedJson.Proofs.Code.Realization

/-!
# Steps of conversions

What single steps of a conversion put behind a chain, and what they do. `Context.Does` relates a
chain to one with steps behind it and to the conversion that these do; `Context.Writes` relates the
text of a function to the conversion that it does. The steps are calls of support functions, with
functions, types or lists of functions in front of the value.
-/

namespace TypedJson.Code

open Naming Script

/-- The second chain is the first one with links behind it that do the conversion. -/
def Context.Does (ctx : Context) (P : Program) (depth : Nat) (c c' : Chain)
    (F : Value → Outcome Value) : Prop :=
  ∃ links, Extends ctx.features.markedText c c' links ∧ Realizes P depth links F

/-- The text is that of an expression that does the conversion. -/
def Context.Writes (ctx : Context) (P : Program) (depth : Nat) (text : String)
    (F : Value → Outcome Value) : Prop :=
  ∃ e : Expr, e.Printable ∧ e.chars ctx.features.markedText = text.toList ∧ Denotes P depth e F

namespace Context

variable {ctx : Context} {P : Program} {depth : Nat} {c c' c'' : Chain}
  {F G : Value → Outcome Value}

/-- Nothing is done without a step. -/
theorem does_refl (c : Chain) : ctx.Does P depth c c .ok :=
  ⟨[], .refl c, realizes_ok⟩

/-- Steps behind others do their conversion behind theirs. -/
theorem Does.trans (h : ctx.Does P depth c c' F) (h' : ctx.Does P depth c' c'' G) :
    ctx.Does P depth c c'' fun v => F v >>= G := by
  obtain ⟨links, hextends, hlinks⟩ := h
  obtain ⟨others, hextends', hothers⟩ := h'
  exact ⟨links ++ others, hextends.trans hextends', hlinks.append hothers⟩

/-- What is done is determined up to the depth. -/
theorem Does.congr (h : ctx.Does P depth c c' F) (heq : ∀ v : Value, v.depth ≤ depth → G v = F v) :
    ctx.Does P depth c c' G := by
  obtain ⟨links, hextends, hlinks⟩ := h
  exact ⟨links, hextends, hlinks.congr heq⟩

/-- What is done is tame. -/
theorem Does.tame (h : ctx.Does P depth c c' F) : Tame depth F := by
  obtain ⟨links, -, hlinks⟩ := h
  exact hlinks.tame

/-- One link does what it runs as. -/
theorem does_link {f : Function} {link : Link} (hlink : f.IsLink ctx.features.markedText link)
    (hprint : link.Printable) (hF : Tame depth F) (h : link.Runs P depth F) :
    ctx.Does P depth c (c.andThen f) F :=
  ⟨[link], .andThen c hlink hprint, realizes_link hF h⟩

/-- A name is a step that does what its calls do. -/
theorem does_named {name : String} {e : Expr}
    (hchars : e.chars ctx.features.markedText = name.toList) (he : e.Printable)
    (hoperand : e.isOperand) (hF : Tame depth F) (h : (Link.call e []).Runs P depth F) :
    ctx.Does P depth c (c.andThen (.named name)) F :=
  does_link (isLink_named hchars) ⟨he, hoperand, fun _ h => absurd h List.not_mem_nil⟩ hF h

/-- A chain that starts from nothing is written as a function that does what its steps do. -/
theorem Does.writes (h : ctx.Does P depth .identity c F) (hx : P.global? "x" = none) :
    ctx.Writes P depth c.toFunction.render F := by
  obtain ⟨links, hextends, hlinks⟩ := h
  rcases hextends.toFunction with ⟨e, rfl, hchars⟩ | hchars
  · have hprint := hextends.printable _ List.mem_cons_self
    exact ⟨e, hprint.1, hchars, hlinks.denotes_callee⟩
  · obtain ⟨hprint, -⟩ := printable_applyLinks hextends.printable (.name isName_param) rfl
    exact ⟨_, .lambda isName_param hprint, hchars.symm, hlinks.denotes_lambda hx⟩

/-- In any clear frame, the second expression ends as the conversion of what the first one stands
for, up to a depth. -/
def Converts (P : Program) (depth : Nat) (start e : Expr) (F : Value → Outcome Value) : Prop :=
  Tame depth F ∧ ∀ ρ : Frame, ρ.Clear P → ∀ r : Outcome Value, r.Settled →
    (∀ v, r = .ok v → v.depth ≤ depth) → Evals P ρ start (answer r) →
    Evals P ρ e (answer (r >>= F))

/-- A value is converted. -/
theorem Converts.evals {start e : Expr} (h : Converts P depth start e F) {ρ : Frame}
    (hρ : ρ.Clear P) {v : Value} (hv : v.depth ≤ depth)
    (hevals : Evals P ρ start (.ok (.data v))) : Evals P ρ e (answer (F v)) := by
  refine h.2 ρ hρ (.ok v) (Outcome.settled_ok v) ?_ hevals
  rintro _ ⟨⟩
  exact hv

/-- The expression that a chain from an operand is written as converts what the operand stands
for. -/
theorem Does.converts {s text : String} {start e : Expr} (h : ctx.Does P depth (.ofText s) c F)
    (hstart : start.Printable) (hoperand : start.isOperand)
    (hchars : start.chars ctx.features.markedText = s.toList) (hvalue : c.toValue = .ok text)
    (he : e.Printable) (htext : e.chars ctx.features.markedText = text.toList) :
    Converts P depth start e F := by
  refine ⟨h.tame, fun ρ hρ r hr hdepth hevals => ?_⟩
  obtain ⟨links, hextends, hlinks⟩ := h
  rw [hextends.toValue hchars] at hvalue
  cases hvalue
  have hprint := (printable_applyLinks hextends.printable hstart hoperand).1
  rw [String.toList_ofList] at htext
  rw [he.eq_of_chars hprint htext]
  exact hlinks.evals hρ hevals hr hdepth

/-! ## Support functions -/

variable (hP : ctx.Emits P) (hnames : ctx.names.Apart)

include hP hnames

/-- A word that starts with a small letter and is not spoken for stands for nothing of the
module. -/
theorem global?_small {word : String} {c : Char} {rest : List Char} (hword : word.toList = c :: rest)
    (hlower : c.isLower) (hfree : globalForbidden.contains word = false) :
    P.global? word = none := by
  refine hP.global?_eq_none (fun h => ?_) fun t ht => ?_
  · rw [List.contains_iff_mem.2 h] at hfree
    cases hfree
  · obtain ⟨c', rest', hstart, hlarge⟩ := (hnames.type ht).2.2
    rw [hword] at hstart
    cases hstart
    rw [hlarge] at hlower
    cases hlower

/-- The name of the parameter stands for nothing of the module. -/
theorem global?_param : P.global? "x" = none :=
  global?_small hP hnames rfl rfl rfl

/-- In a clear frame, the name of a support function stands for that function. -/
theorem evals_converter (cv : Converter) {ρ : Frame} (hρ : ρ.Clear P) :
    Evals P ρ (.name cv.name) (.ok (.function (supportDefinition ctx.features cv))) := by
  have hevals := evals_name (P := P) (ρ := ρ) cv.name
  rwa [hρ.lookup ((hP.supports hnames).function cv)] at hevals

/-- In a clear frame, the name of a builtin stands for it. -/
theorem evals_builtin {name : String} {b : Builtin} (hb : Builtin.ofName? name = some b) {ρ : Frame}
    (hρ : ρ.Clear P) : Evals P ρ (.name name) (.ok (.builtin b)) := by
  have hevals := evals_name (P := P) (ρ := ρ) name
  rwa [hρ.lookup ((hP.supports hnames).builtin hb)] at hevals

/-- A support function is a step that does what its calls do. -/
theorem does_converter {cv : Converter} {f : Function} (hf : (Gen.converter cv).Yields f)
    (hF : Tame depth F) (h : ∀ v : Value, v.depth ≤ depth →
      Calls P (.function (supportDefinition ctx.features cv)) [.data v] (answer (F v))) :
    ctx.Does P depth c (c.andThen f) F := by
  rw [hf.converter]
  refine does_named (e := .name cv.name) rfl (.name (isName_converter cv)) rfl hF fun ρ hρ => ?_
  exact ⟨_, [], evals_converter hP hnames cv hρ, evalsItems_nil, h⟩

/-- A chain that ends with the call of a support function does what that call does. -/
theorem does_returned {cv : Converter}
    (h : (Gen.converter cv >>= fun step => pure (c.andThen step)).Yields c') (hF : Tame depth F)
    (hcalls : ∀ v : Value, v.depth ≤ depth →
      Calls P (.function (supportDefinition ctx.features cv)) [.data v] (answer (F v))) :
    ctx.Does P depth c c' F := by
  obtain ⟨step, hstep, h⟩ := h.bind
  rw [h.pure]
  exact does_converter hP hnames hstep hF hcalls

/-- A support function with an argument in front is a step that does what its calls do. -/
theorem does_converterWith {cv : Converter} {text : String} {f : Function} {e : Expr}
    (hf : (Gen.converterWith cv [text]).Yields f) (he : e.Printable)
    (hchars : e.chars ctx.features.markedText = text.toList) (hF : Tame depth F)
    (h : ∀ ρ : Frame, ρ.Clear P → ∃ g, Evals P ρ e (.ok g) ∧ ∀ v : Value, v.depth ≤ depth →
      Calls P (.function (supportDefinition ctx.features cv)) [g, .data v] (answer (F v))) :
    ctx.Does P depth c (c.andThen f) F := by
  rw [hf.converterWith]
  refine does_link (isLink_partialCall rfl (.cons hchars .nil))
    ⟨.name (isName_converter cv), rfl, ?_⟩ hF fun ρ hρ => ?_
  · rintro _ (_ | ⟨_, ⟨⟩⟩)
    exact he
  · obtain ⟨g, hg, hcalls⟩ := h ρ hρ
    exact ⟨_, [g], evals_converter hP hnames cv hρ, EvalsItems.cons hg evalsItems_nil, hcalls⟩

/-- Converting the items of a list by a function is a step. -/
theorem does_fromList {text : String} {f : Function}
    (hf : (Gen.converterWith .fromList [text]).Yields f) (hF : Tame depth F)
    (h : ctx.Writes P depth text F) : ctx.Does P depth c (c.andThen f) (convertItems F) := by
  obtain ⟨e, he, hchars, hdenotes⟩ := h
  refine does_converterWith hP hnames hf he hchars
    (tame_convertItems fun _ hless => hF.mono hless.le) fun ρ hρ => ?_
  obtain ⟨g, hg, hcalls⟩ := hdenotes ρ hρ
  refine ⟨g, hg, fun v hv => ?_⟩
  rw [answer_convertItems]
  refine calls_fromList (hP.supports hnames) (r := fun w => asRun (F w)) ?_
  rintro items rfl w hw
  have hle := Value.depth_le_items hw
  rw [Value.depth] at hv
  exact hcalls w (by omega)

/-- Converting the values of a dict by a function is a step. -/
theorem does_fromDict {text : String} {f : Function}
    (hf : (Gen.converterWith .fromDict [text]).Yields f) (hF : Tame depth F)
    (h : ctx.Writes P depth text F) : ctx.Does P depth c (c.andThen f) (convertEntries F) := by
  obtain ⟨e, he, hchars, hdenotes⟩ := h
  refine does_converterWith hP hnames hf he hchars
    (tame_convertEntries fun _ hless => hF.mono hless.le) fun ρ hρ => ?_
  obtain ⟨g, hg, hcalls⟩ := hdenotes ρ hρ
  refine ⟨g, hg, fun v hv => ?_⟩
  rw [answer_convertEntries]
  refine calls_fromDict (hP.supports hnames) (r := fun w => asRun (F w)) ?_
  rintro entries rfl entry hentry
  have hle := Value.depth_le_entries hentry
  rw [Value.depth] at hv
  exact hcalls entry.2 (by omega)

omit hP hnames in
/-- The items of a list display are written and evaluated one by one. -/
theorem exists_items {β : Type} {texts : List String} {branches : List β}
    {run : β → Value → Outcome Value}
    (h : List.Forall₂ (fun text b => ctx.Writes P depth text (run b)) texts branches) :
    ∃ es : List Expr, (∀ e ∈ es, e.Printable) ∧
      es.map (·.chars ctx.features.markedText) = texts.map String.toList ∧
      ∀ ρ : Frame, ρ.Clear P → ∃ gs, EvalsItems P ρ es (.ok gs) ∧
        ∀ v : Value, v.depth ≤ depth → List.Forall₂ (fun g r => Calls P g [.data v] r) gs
          (branches.map fun b => answer (run b v)) := by
  induction h with
  | nil =>
      refine ⟨[], fun _ h => absurd h List.not_mem_nil, rfl, fun ρ hρ => ?_⟩
      exact ⟨[], evalsItems_nil, fun v hv => .nil⟩
  | cons hhead _ ih =>
      obtain ⟨e, he, hchars, hdenotes⟩ := hhead
      obtain ⟨es, hes, hcharss, hevals⟩ := ih
      refine ⟨e :: es, List.forall_mem_cons.2 ⟨he, hes⟩, ?_, fun ρ hρ => ?_⟩
      · rw [List.map_cons, List.map_cons, hchars, hcharss]
      · obtain ⟨g, hg, hcalls⟩ := hdenotes ρ hρ
        obtain ⟨gs, hgs, hcallss⟩ := hevals ρ hρ
        exact ⟨g :: gs, EvalsItems.cons hg hgs, fun v hv => .cons (hcalls v hv) (hcallss v hv)⟩

/-- Trying functions in order is a step. -/
theorem does_fromUnion {β : Type} {texts : List String} {branches : List β} {f : Function}
    {run : β → Value → Outcome Value} (tried : Nat)
    (hf : (Gen.converterWith .fromUnion [listDisplay texts]).Yields f)
    (hrun : ∀ b ∈ branches, Tame depth (run b))
    (h : List.Forall₂ (fun text b => ctx.Writes P depth text (run b)) texts branches) :
    ctx.Does P depth c (c.andThen f) fun v => firstSuccess (fun b => run b v) tried branches := by
  obtain ⟨es, hes, hchars, hevals⟩ := exists_items h
  refine does_converterWith hP hnames hf (.list hes) (chars_listDisplay hchars)
    (tame_firstSuccess hrun tried) fun ρ hρ => ?_
  obtain ⟨gs, hgs, hcalls⟩ := hevals ρ hρ
  refine ⟨.ofItems gs, hgs.imp fun n hn => ?_, fun v hv => ?_⟩
  · show (evalItems P (P.callWithin n) es ρ).map Entity.ofItems = _
    rw [hn]
    rfl
  · rw [answer_firstSuccess]
    exact calls_fromUnion (hP.supports hnames) (iterate_ofItems gs) (hcalls v hv)

end Context

end TypedJson.Code
