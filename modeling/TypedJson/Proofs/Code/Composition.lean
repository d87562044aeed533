import TypedJson.Proofs.Code.Uniformity

/-!
# Composition

However many functions are put behind a chain, it is one expression or one function. Read
`andThenAll_collapses` first: behind an expression, functions give the expression of applying them
one after the other; behind nothing, they give a function whose application to the expression is
written the same; and neighbours may be put together beforehand. The last part is an equality of
chains (`andThenAll_joined`), so it holds of the text of the function as well.
-/

namespace TypedJson.Code

/-- The expression of functions applied one after the other, the first to `argument`. -/
def Function.applyAll (fs : List Function) (argument : Template) : Template :=
  fs.foldl (fun expression f => f.apply expression) argument

namespace Chain

/-- One step: two functions behind a chain are the functions put together behind it. -/
theorem andThen_andThen (c : Chain) (f g : Function) :
    (c.andThen f).andThen g = c.andThen (f.andThen g) := by
  cases c with
  | identity => rfl
  | value argument => rfl
  | function first => exact congrArg function (first.andThen_assoc f g)
  | applied first argument => exact congrArg (applied · argument) (first.andThen_assoc f g)

/-- Wherever two functions stand behind a chain, they may be put together beforehand. -/
theorem andThenAll_joined (c : Chain) (front back : List Function) (f g : Function) :
    c.andThenAll (front ++ f :: g :: back) = c.andThenAll (front ++ f.andThen g :: back) := by
  rw [andThenAll_append, andThenAll_append]
  show (((c.andThenAll front).andThen f).andThen g).andThenAll back =
    ((c.andThenAll front).andThen (f.andThen g)).andThenAll back
  rw [andThen_andThen]

/-- A chain that has the row of an expression keeps to it: with functions behind the chain, it has
the row of the functions applied to the expression. -/
theorem symbols_andThenAll_of_eq {c : Chain} {expression : Template}
    (h : c.symbols = expression.symbols) (fs : List Function) :
    (c.andThenAll fs).symbols = (Function.applyAll fs expression).symbols := by
  induction fs generalizing c expression with
  | nil => exact h
  | cons f fs ih =>
      have hstep : (c.andThen f).symbols = (f.apply expression).symbols := by
        rw [symbols_andThen, h, Function.symbols_apply]
      exact ih hstep

/-- Functions behind an expression are written as their applications. -/
theorem toValue_value_andThenAll (argument : Template) (fs : List Function) :
    ((Chain.value argument).andThenAll fs).toValue =
      .ok (Function.applyAll fs argument).render := by
  have hvalue : ((Chain.value argument).andThenAll fs).isFunction = false :=
    isFunction_andThenAll _ _
  have hrow : (Chain.value argument).symbols = argument.symbols := rfl
  rw [toValue_eq_ok hvalue, symbols_andThenAll_of_eq hrow, Template.render_eq]

/-- Composition collapses to substitution. Functions behind an expression are a value, written as
their applications one after the other. Functions behind nothing are a function, and its application
to the expression is written the same. Two neighbours put together beforehand change neither the
value nor the function. -/
theorem andThenAll_collapses (argument : Template) :
    (∀ fs, ((Chain.value argument).andThenAll fs).isFunction = false ∧
      ((Chain.value argument).andThenAll fs).toValue =
        .ok (Function.applyAll fs argument).render ∧
      (identity.andThenAll fs).isFunction = true ∧
      ((identity.andThenAll fs).toFunction.apply argument).render =
        (Function.applyAll fs argument).render) ∧
    ∀ front back f g,
      ((Chain.value argument).andThenAll (front ++ f :: g :: back)).toValue =
        ((Chain.value argument).andThenAll (front ++ f.andThen g :: back)).toValue ∧
      (identity.andThenAll (front ++ f :: g :: back)).toFunction =
        (identity.andThenAll (front ++ f.andThen g :: back)).toFunction := by
  refine ⟨fun fs => ⟨isFunction_andThenAll _ _, toValue_value_andThenAll argument fs,
    isFunction_andThenAll _ _, ?_⟩, fun front back f g => ⟨?_, ?_⟩⟩
  · -- The value is written both ways: as the applications, and as the function applied.
    exact Except.ok.inj
      ((toValue_andThenAll argument fs).symm.trans (toValue_value_andThenAll argument fs))
  · rw [andThenAll_joined]
  · rw [andThenAll_joined]

/-- A lambda may use its parameter twice. -/
example : ((Chain.ofText "s").andThenAll
    [.named "trim", .lambda (.param ++ .text " or " ++ .param)]).toValue =
      .ok "trim(s) or trim(s)" := by
  decide +kernel

end Chain

end TypedJson.Code
