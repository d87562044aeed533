import TypedJson.Proofs.Outcome
import TypedJson.Proofs.Script.Machine

/-!
# Runs without a bound

A run settles on an outcome if that is its outcome under every bound from some bound on, so it
settles on one outcome at most. `Evals` and `Calls` are about expressions and calls without a bound,
and there is a rule for each construct that conversions are composed of.
-/

namespace TypedJson.Script

variable {α β : Type}

/-! ## Settling -/

/-- Under every bound from some bound on, the outcome is the given one. -/
def Settles (run : Nat → α) (outcome : α) : Prop :=
  ∃ least, ∀ n, least ≤ n → run n = outcome

/-- A run settles on one outcome at most. -/
theorem Settles.unique {run : Nat → α} {a b : α} (ha : Settles run a) (hb : Settles run b) :
    a = b := by
  obtain ⟨n, hn⟩ := ha
  obtain ⟨m, hm⟩ := hb
  rw [← hn (max n m) (Nat.le_max_left n m), hm _ (Nat.le_max_right n m)]

/-- A run that does not depend on the bound settles. -/
theorem settles_const (a : α) : Settles (fun _ => a) a :=
  ⟨0, fun _ _ => rfl⟩

/-- A run that follows another one settles with it. -/
theorem Settles.imp {run : Nat → α} {run' : Nat → β} {a : α} {b : β} (h : Settles run a)
    (himp : ∀ n, run n = a → run' n = b) : Settles run' b := by
  obtain ⟨least, hrun⟩ := h
  exact ⟨least, fun n hn => himp n (hrun n hn)⟩

/-- A run that follows two other ones settles with them. -/
theorem Settles.imp₂ {γ : Type} {run : Nat → α} {run' : Nat → β} {run'' : Nat → γ} {a : α} {b : β}
    {c : γ} (h : Settles run a) (h' : Settles run' b)
    (himp : ∀ n, run n = a → run' n = b → run'' n = c) : Settles run'' c := by
  obtain ⟨least, hrun⟩ := h
  obtain ⟨least', hrun'⟩ := h'
  exact ⟨max least least', fun n hn => himp n (hrun n (by omega)) (hrun' n (by omega))⟩

/-- A run that is one step ahead of another one settles with it. -/
theorem Settles.succ {run run' : Nat → α} {a : α} (h : Settles run a)
    (hstep : ∀ n, run' (n + 1) = run n) : Settles run' a := by
  obtain ⟨least, hrun⟩ := h
  refine ⟨least + 1, fun n hn => ?_⟩
  obtain ⟨n, rfl⟩ : ∃ k, n = k + 1 := ⟨n - 1, by omega⟩
  rw [hstep, hrun n (by omega)]

/-- Composed runs settle with their parts. -/
theorem Settles.bind {run : Nat → Run α} {next : Nat → α → Run β} {x : Run α} {f : α → Run β}
    (h : Settles run x) (hnext : ∀ a, x = .ok a → Settles (fun n => next n a) (f a)) :
    Settles (fun n => run n >>= next n) (x >>= f) := by
  cases x with
  | error e => exact h.imp fun n hn => by rw [hn]; rfl
  | ok a =>
      refine h.imp₂ (hnext a rfl) fun n hn hn' => ?_
      show run n >>= next n = f a
      rw [hn]
      exact hn'

/-- A run over the items of a list settles if it settles for each of them. -/
theorem settles_mapM {run : Nat → α → Run β} {f : α → Run β} {items : List α}
    (h : ∀ a ∈ items, Settles (fun n => run n a) (f a)) :
    Settles (fun n => items.mapM (run n)) (items.mapM f) := by
  induction items with
  | nil => exact settles_const _
  | cons a items ih =>
      rw [List.forall_mem_cons] at h
      simp only [List.mapM_cons]
      exact h.1.bind fun b _ => (ih h.2).bind fun bs _ => settles_const _

/-! ## Expressions and calls -/

variable {P : Program} {ρ : Frame}

/-- What an expression stands for in a frame, however deep its calls nest. -/
def Evals (P : Program) (ρ : Frame) (e : Expr) (r : Run Entity) : Prop :=
  Settles (fun n => eval P (P.callWithin n) e ρ) r

/-- What expressions stand for in a frame. -/
def EvalsItems (P : Program) (ρ : Frame) (items : List Expr) (r : Run (List Entity)) : Prop :=
  Settles (fun n => evalItems P (P.callWithin n) items ρ) r

/-- What a call gives, however deep it nests. -/
def Calls (P : Program) (f : Entity) (arguments : List Entity) (r : Run Entity) : Prop :=
  Settles (fun n => P.callWithin n f arguments) r

/-- A call gives what one step of it gives. -/
theorem Calls.of_step {f : Entity} {arguments : List Entity} {r : Run Entity}
    (h : Settles (fun n => P.callStep (P.callWithin n) f arguments) r) : Calls P f arguments r :=
  h.succ fun _ => rfl

/-- A name stands for what it is looked up as. -/
theorem evals_name (word : String) : Evals P ρ (.name word) (P.lookup ρ word) :=
  settles_const _

/-- A lambda stands for a closure. -/
theorem evals_lambda (parameter : String) (body : Expr) :
    Evals P ρ (.lambda parameter body) (.ok (.closure parameter body ρ.locals ρ.assigned)) :=
  settles_const _

/-- No items stand for no entities. -/
theorem evalsItems_nil : EvalsItems P ρ [] (.ok []) :=
  settles_const _

/-- Items stand for entities one by one. -/
theorem EvalsItems.cons {e : Expr} {items : List Expr} {x : Run Entity} {xs : Run (List Entity)}
    (h : Evals P ρ e x) (h' : EvalsItems P ρ items xs) :
    EvalsItems P ρ (e :: items) (do return (← x) :: (← xs)) :=
  h.bind fun _ _ => h'.bind fun _ _ => settles_const _

/-- Items behind others are evaluated behind them. -/
theorem evalItems_append (call : Entity → List Entity → Run Entity) (front back : List Expr) :
    evalItems P call (front ++ back) ρ = do
      let xs ← evalItems P call front ρ
      let ys ← evalItems P call back ρ
      return xs ++ ys := by
  induction front with
  | nil =>
      show _ = evalItems P call back ρ >>= pure
      rw [bind_pure]
      rfl
  | cons e front ih =>
      show (eval P call e ρ >>= fun x => evalItems P call (front ++ back) ρ >>= fun xs =>
        pure (x :: xs)) = (eval P call e ρ >>= fun x => evalItems P call front ρ >>= fun xs =>
        pure (x :: xs)) >>= _
      rw [ih]
      simp only [bind_assoc, pure_bind, List.cons_append]

/-- Items behind others stand for entities behind others. -/
theorem EvalsItems.append {front back : List Expr} {xs : List Entity} {ys : Run (List Entity)}
    (h : EvalsItems P ρ front (.ok xs)) (h' : EvalsItems P ρ back ys) :
    EvalsItems P ρ (front ++ back) (do return xs ++ (← ys)) := by
  refine h.imp₂ h' fun n hfront hback => ?_
  rw [evalItems_append, hfront, hback]
  rfl

/-- A call of an expression calls what the expression stands for. -/
theorem Evals.call {callee : Expr} {arguments : List Expr} {f : Entity} {es : Run (List Entity)}
    {r : List Entity → Run Entity} (hf : Evals P ρ callee (.ok f))
    (hes : EvalsItems P ρ arguments es) (hcall : ∀ xs, es = .ok xs → Calls P f xs (r xs)) :
    Evals P ρ (.call callee arguments) (es >>= r) :=
  hf.bind (f := fun _ => es >>= r) fun _ hf => by
    cases hf
    exact hes.bind hcall

/-- A member of an expression is the member of what it stands for. -/
theorem Evals.member {object : Expr} {x : Run Entity} (h : Evals P ρ object x) (name : String) :
    Evals P ρ (.member object name) (x >>= fun e => P.member e name) :=
  h.bind fun _ _ => settles_const _

/-- A call of a member calls the member of what the expression stands for. -/
theorem Evals.callMember {object : Expr} {x : Entity} {name : String} {r : Run Entity}
    (h : Evals P ρ object (.ok x))
    (hcall : Settles (fun n => P.member x name >>= fun g => P.callWithin n g []) r) :
    Evals P ρ (.call (.member object name) []) r := by
  refine h.imp₂ hcall fun n hn hn' => ?_
  show ((eval P _ object ρ >>= fun x => P.member x name) >>= fun g => P.callWithin n g []) = r
  rw [hn]
  exact hn'

/-- The call of a closure evaluates its body. -/
theorem calls_closure {parameter : String} {body : Expr} {locals : List (String × Entity)}
    {assigned : List String} {e : Entity} {r : Run Entity}
    (h : Evals P ⟨(parameter, e) :: locals, assigned⟩ body r) :
    Calls P (.closure parameter body locals assigned) [e] r :=
  .of_step h

end TypedJson.Script
