import TypedJson.Proofs.Code.Links
import TypedJson.Proofs.Script.Behavior
import TypedJson.Proofs.Value.Shrinking

/-!
# What links do

A link does what a conversion does if calling it with a value ends as the conversion of the value
does: with the same result, or by raising where the conversion fails. `Realizes` says so of links
one behind the other, for values up to a depth; such links do their conversions in whatever clear
frame they are evaluated (`Realizes.evals`), also as the body of a lambda (`Realizes.denotes`).
-/

namespace TypedJson.Code

open Script

/-! ## Outcomes -/

/-- What ends a run where a conversion has no result. -/
def runStop : TypedJson.Stop → Script.Stop
  | .failed _ => .raised
  | .dangling _ => .unknown
  | .endless _ => .unknown

/-- The outcome of a conversion as that of a run, which raises where the conversion fails. -/
def asRun {α : Type} : Outcome α → Run α
  | .ok a => .ok a
  | .error stop => .error (runStop stop)

/-- The outcome of a conversion as that of a run with data. -/
def answer (r : Outcome Value) : Run Entity :=
  (asRun r).map .data

variable {α β : Type}

/-- Composed conversions end as composed runs. -/
theorem asRun_bind (x : Outcome α) (f : α → Outcome β) :
    asRun (x >>= f) = asRun x >>= fun a => asRun (f a) := by
  cases x <;> rfl

/-- A mapped conversion ends as a mapped run. -/
theorem asRun_map (x : Outcome α) (f : α → β) : asRun (x.map f) = (asRun x).map f := by
  cases x <;> rfl

/-- Conversions of items end as runs over the items. -/
theorem asRun_mapM (f : α → Outcome β) (items : List α) :
    asRun (items.mapM f) = items.mapM fun a => asRun (f a) := by
  induction items with
  | nil => rfl
  | cons a items ih =>
      simp only [List.mapM_cons, asRun_bind, ih]
      rfl

/-- The conversion of the items of a list ends as the run of `from_list`. -/
theorem answer_convertItems (f : Value → Outcome Value) (v : Value) :
    answer (convertItems f v) = overItems (fun w => asRun (f w)) v := by
  cases v with
  | list items =>
      show (asRun ((items.mapM f).map Value.list)).map Entity.data = _
      rw [asRun_map, asRun_mapM, overItems]
      cases (items.mapM fun w => asRun (f w)) <;> rfl
  | none | bool | int | float | str | dict | dateTime | enumCase | object => rfl

/-- The conversion of the values of a dict ends as the run of `from_dict`. -/
theorem answer_convertEntries (f : Value → Outcome Value) (v : Value) :
    answer (convertEntries f v) = overEntries (fun w => asRun (f w)) v := by
  cases v with
  | dict entries =>
      show (asRun (Except.map Value.dict (entries.mapM _))).map Entity.data = _
      simp only [asRun_map, asRun_mapM, overEntries]
      cases (entries.mapM fun entry => (asRun (f entry.2)).map fun w => (entry.1, w)) <;> rfl
  | none | bool | int | float | str | list | dateTime | enumCase | object => rfl

/-- The first branch that succeeds is the first that does not raise. -/
theorem answer_firstSuccess (run : β → Outcome Value) (tried : Nat) (branches : List β) :
    answer (firstSuccess run tried branches) =
      firstResult (branches.map fun b => answer (run b)) := by
  induction branches generalizing tried with
  | nil => rfl
  | cons b rest ih =>
      rw [List.map_cons, firstSuccess_cons]
      generalize run b = r
      rcases r with (e | t | t) | w
      · exact ih (tried + 1)
      · rfl
      · rfl
      · rfl

/-! ## Links -/

/-- In any clear frame, the expression stands for something that ends a call with one value as the
conversion ends, for values up to a depth. -/
def Denotes (P : Program) (depth : Nat) (e : Expr) (F : Value → Outcome Value) : Prop :=
  ∀ ρ : Frame, ρ.Clear P → ∃ g, Evals P ρ e (.ok g) ∧
    ∀ v : Value, v.depth ≤ depth → Calls P g [.data v] (answer (F v))

/-- Calling what the link calls ends as the conversion does. -/
def Link.Runs (P : Program) (depth : Nat) (F : Value → Outcome Value) : Link → Prop
  | .call callee leading => ∀ ρ : Frame, ρ.Clear P → ∃ g xs, Evals P ρ callee (.ok g) ∧
      EvalsItems P ρ leading (.ok xs) ∧
      ∀ v : Value, v.depth ≤ depth → Calls P g (xs ++ [.data v]) (answer (F v))
  | .method name => ∀ v : Value, v.depth ≤ depth →
      Settles (fun n => P.member (.data v) name >>= fun g => P.callWithin n g []) (answer (F v))

/-- The links one behind the other do what the conversion does, which is tame. -/
def Realizes (P : Program) (depth : Nat) : List Link → (Value → Outcome Value) → Prop
  | [], F => ∀ v : Value, v.depth ≤ depth → F v = .ok v
  | link :: rest, F => ∃ G H, (Tame depth G ∧ link.Runs P depth G) ∧ Realizes P depth rest H ∧
      ∀ v : Value, v.depth ≤ depth → F v = G v >>= H

variable {P : Program} {depth : Nat} {F G : Value → Outcome Value} {links others : List Link}

/-- Doing nothing needs no link. -/
theorem realizes_ok : Realizes P depth [] .ok :=
  fun _ _ => rfl

/-- One link that runs as a tame conversion realizes it. -/
theorem realizes_link {link : Link} (hF : Tame depth F) (h : link.Runs P depth F) :
    Realizes P depth [link] F := by
  refine ⟨F, .ok, ⟨hF, h⟩, realizes_ok, fun v _ => ?_⟩
  cases F v <;> rfl

/-- What is realized is tame. -/
theorem Realizes.tame (h : Realizes P depth links F) : Tame depth F := by
  induction links generalizing F with
  | nil => exact tame_ok.congr h
  | cons link rest ih =>
      obtain ⟨G, H, ⟨hG, -⟩, hH, heq⟩ := h
      exact (hG.bind (ih hH)).congr heq

/-- Conversions that do the same up to the depth are realized alike. -/
theorem Realizes.congr (h : Realizes P depth links F)
    (heq : ∀ v : Value, v.depth ≤ depth → G v = F v) : Realizes P depth links G := by
  cases links with
  | nil => exact fun v hv => (heq v hv).trans (h v hv)
  | cons link rest =>
      obtain ⟨F', H, hlink, hrest, hF⟩ := h
      exact ⟨F', H, hlink, hrest, fun v hv => (heq v hv).trans (hF v hv)⟩

/-- Links behind others realize one conversion behind the other. -/
theorem Realizes.append (h : Realizes P depth links F) (h' : Realizes P depth others G) :
    Realizes P depth (links ++ others) fun v => F v >>= G := by
  induction links generalizing F with
  | nil =>
      refine h'.congr fun v hv => ?_
      rw [h v hv]
      rfl
  | cons link rest ih =>
      obtain ⟨F', H, hlink, hrest, hF⟩ := h
      refine ⟨F', fun v => H v >>= G, hlink, ih hrest, fun v hv => ?_⟩
      show F v >>= G = _
      rw [hF v hv, bind_assoc]

/-! ## Evaluation -/

variable {ρ : Frame} {e : Expr} {r : Outcome Value}

/-- A link that is applied to an expression ends as the conversion of what the expression stands
for. -/
theorem Link.Runs.evals {link : Link} (h : link.Runs P depth F) (hρ : ρ.Clear P)
    (he : Evals P ρ e (answer r)) (hr : r.Settled) (hdepth : ∀ v, r = .ok v → v.depth ≤ depth) :
    Evals P ρ (link.apply e) (answer (r >>= F)) := by
  cases link with
  | call callee leading =>
      obtain ⟨g, xs, hcallee, hleading, hcall⟩ := h ρ hρ
      have hitems := hleading.append (EvalsItems.cons he evalsItems_nil)
      rcases hr.cases with ⟨v, rfl⟩ | ⟨error, rfl⟩
      · refine hcallee.call (r := fun _ => answer (F v)) hitems fun ys hys => ?_
        cases hys
        exact hcall v (hdepth v rfl)
      · refine hcallee.call (r := fun _ => .error .raised) hitems fun ys hys => ?_
        cases hys
  | method name =>
      rcases hr.cases with ⟨v, rfl⟩ | ⟨error, rfl⟩
      · exact he.callMember (h v (hdepth v rfl))
      · refine he.imp fun n hn => ?_
        show ((eval P _ e ρ >>= fun x => P.member x name) >>= fun g => P.callWithin n g []) = _
        rw [hn]
        rfl

/-- Links that are applied to an expression end as the conversion of what the expression stands
for. -/
theorem Realizes.evals (h : Realizes P depth links F) (hρ : ρ.Clear P)
    (he : Evals P ρ e (answer r)) (hr : r.Settled) (hdepth : ∀ v, r = .ok v → v.depth ≤ depth) :
    Evals P ρ (applyLinks links e) (answer (r >>= F)) := by
  induction links generalizing F r e with
  | nil =>
      rcases hr.cases with ⟨v, rfl⟩ | ⟨error, rfl⟩
      · show Evals P ρ e (answer (F v))
        rwa [h v (hdepth v rfl)]
      · exact he
  | cons link rest ih =>
      obtain ⟨G, H, ⟨hG, hlink⟩, hrest, hF⟩ := h
      have hstep := hlink.evals hρ he hr hdepth
      rcases hr.cases with ⟨v, rfl⟩ | ⟨error, rfl⟩
      · obtain ⟨hsettled, hshrinks⟩ := hG v (hdepth v rfl)
        have hnext := ih hrest hstep hsettled fun w hw =>
          Nat.le_trans (hshrinks w hw) (hdepth v rfl)
        show Evals P ρ _ (answer (F v))
        rwa [hF v (hdepth v rfl)]
      · have hnext := ih (r := .error (.failed error)) hrest hstep hr fun v hv => by cases hv
        exact hnext

/-- A single call behind a name is what the name does. -/
theorem Realizes.denotes_callee (h : Realizes P depth [.call e []] F) : Denotes P depth e F := by
  obtain ⟨G, H, ⟨hG, hlink⟩, hrest, hF⟩ := h
  intro ρ hρ
  obtain ⟨g, xs, hcallee, hleading, hcall⟩ := hlink ρ hρ
  obtain rfl : xs = [] := Except.ok.inj (hleading.unique evalsItems_nil)
  refine ⟨g, hcallee, fun v hv => ?_⟩
  have hresult : F v = G v := by
    rw [hF v hv]
    obtain ⟨hsettled, hshrinks⟩ := hG v hv
    rcases hsettled.cases with ⟨w, hw⟩ | ⟨error, herror⟩
    · rw [hw]
      exact hrest w (Nat.le_trans (hshrinks w hw) hv)
    · rw [herror]
      rfl
  rw [hresult]
  exact hcall v hv

/-- The lambda that applies links does what they do. -/
theorem Realizes.denotes_lambda (h : Realizes P depth links F) (hx : P.global? "x" = none) :
    Denotes P depth (.lambda "x" (applyLinks links (.name "x"))) F := by
  intro ρ hρ
  refine ⟨_, evals_lambda _ _, fun v hv => calls_closure ?_⟩
  have hlookup : P.lookup (ρ.bind "x" (.data v)) "x" = .ok (.data v) := by
    unfold Program.lookup Frame.bind
    rw [List.lookup_cons_self]
  have hname : Evals P (ρ.bind "x" (.data v)) (.name "x") (answer (.ok v)) := by
    have hevals := evals_name (P := P) (ρ := ρ.bind "x" (.data v)) "x"
    rwa [hlookup] at hevals
  refine h.evals (r := .ok v) (hρ.bind hx _) hname (Outcome.settled_ok v) ?_
  rintro _ ⟨⟩
  exact hv

end TypedJson.Code
