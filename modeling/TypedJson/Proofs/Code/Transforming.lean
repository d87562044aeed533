import TypedJson.Proofs.Code.Decoding
import TypedJson.Proofs.Value.Termination

/-!
# Generated transformations

What is generated for a transformer of decoding steps does what the transformer does. The induction
is on the tree: steps are chained as their conversions are, branches become the functions of a
choice, and the steps of elements become the function that a container is converted by.
-/

namespace TypedJson

/-! ## Decoding steps -/

mutual
/-- The tree has decoding steps only, and so no step that encodes or writes a text. -/
def Transformer.decodes : Transformer → Bool
  | .decode _ next => decodesNext next
  | .encode _ => false
  | .elements _ _ element next => element.decodes && decodesNext next
  | .choice _ branches => decodesBranches branches
  | .memberMatch _ _ next => decodesNext next
  | .instantiate _ => true
  | .parseText _ next => decodesNext next
  | .writeText _ _ => false

/-- The steps behind a step are decoding steps. -/
def Transformer.decodesNext : Option Transformer → Bool
  | none => true
  | some step => step.decodes

/-- The branches of a choice have decoding steps only. -/
def Transformer.decodesBranches : List Transformer → Bool
  | [] => true
  | branch :: rest => branch.decodes && decodesBranches rest
end

namespace Code.Context

open Naming Script

variable {ctx : Context} {P : Program} {depth : Nat} {c c' : Chain}
  {genKind : Direction → Chain → TypeRef → Gen Chain}
  {byKind : Direction → Value → TypeRef → Outcome Value}

/-- The elements of a target are the same for code and values. -/
theorem elementTarget_eq (g : TypeGraph) (target : TypeRef) (container : Container) :
    elementTarget g target container = g.elementTarget target container := by
  unfold elementTarget TypeGraph.elementTarget
  rcases g.kind? target with _ | k
  · rfl
  · cases k <;> cases container <;> rfl

section

variable (hP : ctx.Emits P) (hnames : ctx.names.Apart)

include hP hnames

/-- The test of a member is a step that lets its values through. -/
theorem does_memberMatch {member : TypeRef} {object : String} {f : Function}
    (hobject : (ctx.typeObject .decode member).Yields object)
    (hf : (Gen.converterWith .isType [object]).Yields f) :
    ctx.Does P depth c (c.andThen f)
      fun v => ctx.graph.requireType .decode v member >>= fun _ => .ok v := by
  obtain ⟨k, hk, e, he, hchars, htells⟩ := exists_typeObject hP hnames hobject
  refine does_converterWith hP hnames hf he hchars
    (TypeGraph.tame_memberMatch hk .decode tame_ok) fun ρ hρ => ?_
  obtain ⟨type, htype, htests⟩ := htells ρ hρ
  refine ⟨type, htype, fun v _ => ?_⟩
  obtain ⟨passed, hpassed, hmatches⟩ := htests v
  have hcalls := calls_isType (hP.supports hnames) hpassed
  have hrequire : ctx.graph.requireType .decode v member =
      if passed then .ok () else .shape k.name v := by
    rw [TypeGraph.requireType_eq hk, hmatches]
    cases passed <;> rfl
  rw [hrequire]
  cases passed <;> exact hcalls

/-- Converting the elements of a container by a function is a step. -/
theorem does_elements {container : Container} {text : String} {f : Function}
    {F : Value → Outcome Value}
    (hf : (Gen.converterWith (match container with
      | .list => .fromList
      | .dict => .fromDict) [text]).Yields f) (hF : Tame depth F)
    (h : ctx.Writes P depth text F) :
    ctx.Does P depth c (c.andThen f) (TypeGraph.convertElements container F) := by
  cases container with
  | list => exact does_fromList hP hnames hf hF h
  | dict => exact does_fromDict hP hnames hf hF h

end

/-! ## By transformer -/

/-- What is generated for the decoding of a type by kind does that decoding. -/
def DecodesKinds (ctx : Context) (P : Program) (depth : Nat)
    (genKind : Direction → Chain → TypeRef → Gen Chain)
    (byKind : Direction → Value → TypeRef → Outcome Value) : Prop :=
  ∀ c c' s, (genKind .decode c s).Yields c' →
    ctx.Does P depth c c' fun v => byKind .decode v s

mutual
/-- The generated transformation does what the transformer does. -/
theorem does_transform (hP : ctx.Emits P) (hnames : ctx.names.Apart)
    (hkind : ctx.DecodesKinds P depth genKind byKind) :
    ∀ (x : Transformer) {c c' : Chain} {target : TypeRef}, x.decodes →
    (ctx.transform genKind .decode x c target).Yields c' →
    ctx.Does P depth c c' fun v => ctx.graph.transformWith byKind .decode x v target
  | .choice _ branches, c, c', target, hx, h => by
      unfold transform at h
      obtain ⟨functions, hfunctions, h⟩ := h.bind
      obtain ⟨step, hstep, h⟩ := h.bind
      rw [h.pure]
      have hall := writes_transformBranches hP hnames hkind branches hx hfunctions
      have htame : ∀ branch ∈ branches,
          Tame depth fun v => ctx.graph.transformWith byKind .decode branch v target := by
        intro branch hbranch
        obtain ⟨text, -, htext⟩ := exists_of_forall₂ hall hbranch
        exact htext.1
      simp only [TypeGraph.transformWith, TypeGraph.transformFirst_eq]
      exact does_fromUnion hP hnames 0 hstep htame (hall.imp fun _ _ htext => htext.2)
  | .decode source next, c, c', target, hx, h => by
      unfold transform at h
      obtain ⟨decoded, hdecoded, h⟩ := h.bind
      simp only [TypeGraph.transformWith]
      exact (hkind _ _ _ hdecoded).trans (does_transformNext hP hnames hkind next hx h)
  | .encode _, _, _, _, hx, _ => by cases hx
  | .elements _ container element next, c, c', target, hx, h => by
      obtain ⟨helement, hnext⟩ := Bool.and_eq_true_iff.1 hx
      unfold transform at h
      obtain ⟨f, hf, h⟩ := h.bind
      obtain ⟨step, hstep, h⟩ := h.bind
      rw [elementTarget_eq] at hf
      have hdoes := does_transform hP hnames hkind element helement hf
      simp only [TypeGraph.transformWith_elements]
      exact (does_elements hP hnames hstep hdoes.tame
        (hdoes.writes (global?_param hP hnames))).trans
          (does_transformNext hP hnames hkind next hnext h)
  | .memberMatch _ member next, c, c', target, hx, h => by
      unfold transform at h
      obtain ⟨object, hobject, h⟩ := h.bind
      obtain ⟨step, hstep, h⟩ := h.bind
      refine ((does_memberMatch hP hnames hobject hstep).trans
        (does_transformNext hP hnames hkind next hx h)).congr fun v _ => ?_
      simp only [TypeGraph.transformWith]
      cases ctx.graph.requireType .decode v member <;> rfl
  | .instantiate _, c, c', target, _, h => by
      unfold transform at h
      rw [h.pure]
      simp only [TypeGraph.transformWith]
      exact does_refl c
  | .parseText _ next, c, c', target, hx, h => by
      unfold transform at h
      obtain ⟨step, hstep, h⟩ := h.bind
      simp only [TypeGraph.transformWith]
      exact (does_parseStep hP hnames hstep).trans (does_transformNext hP hnames hkind next hx h)
  | .writeText _ _, _, _, _, hx, _ => by cases hx

/-- So does what is generated for the steps behind a step. -/
theorem does_transformNext (hP : ctx.Emits P) (hnames : ctx.names.Apart)
    (hkind : ctx.DecodesKinds P depth genKind byKind) :
    ∀ (next : Option Transformer) {c c' : Chain} {target : TypeRef},
    Transformer.decodesNext next → (ctx.transformNext genKind .decode next c target).Yields c' →
    ctx.Does P depth c c' fun v => ctx.graph.transformNext byKind .decode next v target
  | none, c, c', target, _, h => by
      unfold transformNext at h
      rw [h.pure]
      simp only [TypeGraph.transformNext]
      exact does_refl c
  | some step, c, c', target, hx, h => by
      unfold transformNext at h
      simp only [TypeGraph.transformNext]
      exact does_transform hP hnames hkind step hx h

/-- The functions of a choice are written for its branches one by one. -/
theorem writes_transformBranches (hP : ctx.Emits P) (hnames : ctx.names.Apart)
    (hkind : ctx.DecodesKinds P depth genKind byKind) :
    ∀ (branches : List Transformer) {target : TypeRef} {functions : List String},
    Transformer.decodesBranches branches →
    (ctx.transformBranches genKind .decode branches target).Yields functions →
    List.Forall₂ (fun text branch =>
      Tame depth (fun v => ctx.graph.transformWith byKind .decode branch v target) ∧
        ctx.Writes P depth text fun v => ctx.graph.transformWith byKind .decode branch v target)
      functions branches
  | [], target, functions, _, h => by
      unfold transformBranches at h
      rw [h.pure]
      exact .nil
  | branch :: rest, target, functions, hx, h => by
      obtain ⟨hbranch, hrest⟩ := Bool.and_eq_true_iff.1 hx
      unfold transformBranches at h
      obtain ⟨f, hf, h⟩ := h.bind
      obtain ⟨others, hothers, h⟩ := h.bind
      rw [h.pure]
      have hdoes := does_transform hP hnames hkind branch hbranch hf
      exact .cons ⟨hdoes.tame, hdoes.writes (global?_param hP hnames)⟩
        (writes_transformBranches hP hnames hkind rest hrest hothers)
end

/-! ## By type -/

/-- The transformations of the graph decode by decoding steps only. -/
def DecodesOnly (g : TypeGraph) : Prop :=
  ∀ t x, g.transformation? t = some x → x.transformer.decodes

/-- What is generated for the decoding of a type decodes it, given enough room, if the classes of
records do. -/
theorem does_convertWithin (hP : ctx.Emits P) (hnames : ctx.names.Apart)
    (hrecords : ctx.RecordsDecode P depth) (honly : DecodesOnly ctx.graph) {n : Nat} {c c' : Chain}
    {t : TypeRef} (h : (ctx.convertWithin n .decode c t).Yields c') {room : Nat}
    (hroom : 2 * ctx.graph.size * depth + n ≤ room) :
    ctx.Does P depth c c' (ctx.graph.convertWithin room .decode t) := by
  induction n generalizing c c' t room with
  | zero => exact absurd h Gen.not_yields_throw
  | succ n ih =>
      obtain ⟨room, rfl⟩ : ∃ k, room = k + 1 := ⟨room - 1, by omega⟩
      have helement (m : TypeRef) (text : String)
          (htext : (do
            let f ← ctx.convertWithin n .decode .identity m
            return f.toFunction.render : Gen String).Yields text) :
          Tame depth (ctx.graph.convertWithin room .decode m) ∧
            ctx.Writes P depth text (ctx.graph.convertWithin room .decode m) := by
        obtain ⟨f, hf, htext⟩ := htext.bind
        have hdoes : ctx.Does P depth .identity f (ctx.graph.convertWithin room .decode m) :=
          ih hf (by omega)
        rw [htext.pure]
        exact ⟨hdoes.tame, hdoes.writes (global?_param hP hnames)⟩
      -- Conversions by kind, inside a transformer or not, are those of the bound below.
      have hkind : ctx.DecodesKinds P depth
          (fun d => ctx.convertByKind (fun m => do
            let f ← ctx.convertWithin n d .identity m
            return f.toFunction.render) d)
          fun d => ctx.graph.convertByKind d (ctx.graph.convertWithin room d) :=
        fun c c' s hc => does_decodeByKind hP hnames helement
          (fun r name hk hname => hrecords s r name hk hname room (by omega)) hc
      unfold convertWithin at h
      show ctx.Does P depth c c' (ctx.graph.convertStep (ctx.graph.convertWithin room) .decode t)
      cases hx : ctx.graph.transformation? t with
      | none =>
          rw [hx] at h
          refine (hkind _ _ _ h).congr fun v _ => ?_
          exact TypeGraph.convertStep_byKind hx _ .decode v
      | some x =>
          rw [hx] at h
          refine (does_transform hP hnames hkind x.transformer (honly t x hx) h).congr fun v _ => ?_
          rw [TypeGraph.convertStep.eq_def, hx]

end Code.Context

end TypedJson
