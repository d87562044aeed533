import TypedJson.Proofs.Code.Symbols
import TypedJson.Proofs.Script.References

/-!
# Links of a chain

Every step of a conversion calls something with what came before it, or calls a method of that. Such
a link is put behind a chain as text and applied to an expression as syntax, and both agree: a chain
that starts from the text of an expression ends in the text of the links applied to the expression
(`Extends.toValue`), and one that starts from nothing is written as a function that applies them
(`Extends.toFunction`).
-/

namespace TypedJson.Code

open Script

/-! ## Links -/

/-- One step of a conversion. -/
inductive Link where
  /-- The call of something with some arguments in front. -/
  | call (callee : Expr) (leading : List Expr)
  /-- The call of a method. -/
  | method (name : String)

namespace Link

/-- The link applied to an expression. -/
def apply : Link → Expr → Expr
  | .call callee leading, e => .call callee (leading ++ [e])
  | .method name, e => .call (.member e name) []

/-- What is written in front of the expression. -/
def front (marked : Bool) : Link → List Char
  | .call callee leading =>
    callee.chars marked ++ '(' :: leading.flatMap fun e => e.chars marked ++ [',', ' ']
  | .method _ => []

/-- What is written behind the expression. -/
def back : Link → List Char
  | .call _ _ => [')']
  | .method name => '.' :: name.toList ++ ['(', ')']

/-- The parts of the link can be written and read. -/
def Printable : Link → Prop
  | .call callee leading => callee.Printable ∧ callee.isOperand ∧ ∀ e ∈ leading, e.Printable
  | .method name => IsName name

end Link

/-- The links applied to an expression, the first one innermost. -/
def applyLinks (links : List Link) (e : Expr) : Expr :=
  links.foldl (fun e link => link.apply e) e

/-- What links write in front of an expression. -/
def fronts (marked : Bool) : List Link → List Char
  | [] => []
  | link :: rest => fronts marked rest ++ link.front marked

/-- What links write behind an expression. -/
def backs : List Link → List Char
  | [] => []
  | link :: rest => link.back ++ backs rest

variable {marked : Bool}

/-- Items with a last one behind them: each of the others has a separator behind it. -/
theorem separated_concat {α : Type} (separator : List α) (items : List (List α)) (last : List α) :
    separated separator (items ++ [last]) = items.flatMap (· ++ separator) ++ last := by
  induction items with
  | nil => rfl
  | cons first items ih =>
      rw [List.flatMap_cons, List.append_assoc, ← ih]
      cases items <;> rfl

/-- The texts of items are those of each of them. -/
theorem itemChars_eq (items : List Expr) : itemChars marked items = items.map (·.chars marked) := by
  induction items with
  | nil => rfl
  | cons e items ih => rw [itemChars, ih, List.map_cons]

/-- The text of a link applied to an expression. -/
theorem Link.chars_apply (link : Link) (e : Expr) :
    (link.apply e).chars marked = link.front marked ++ e.chars marked ++ link.back := by
  cases link with
  | call callee leading =>
      show callee.chars marked ++ '(' :: separated _ (itemChars marked (leading ++ [e])) ++ [')'] = _
      rw [itemChars_eq, List.map_append, List.map_singleton, separated_concat, List.flatMap_map]
      simp [front, back]
  | method name =>
      show (e.chars marked ++ '.' :: name.toList) ++ '(' :: [] ++ [')'] = _
      simp [front, back]

/-- The text of links applied to an expression. -/
theorem chars_applyLinks (links : List Link) (e : Expr) :
    (applyLinks links e).chars marked = fronts marked links ++ e.chars marked ++ backs links := by
  induction links generalizing e with
  | nil => exact (List.append_nil _).symm
  | cons link rest ih =>
      show (applyLinks rest (link.apply e)).chars marked = _
      rw [ih, link.chars_apply]
      simp [fronts, backs]

/-- Links behind others write further outside. -/
theorem fronts_append (links others : List Link) :
    fronts marked (links ++ others) = fronts marked others ++ fronts marked links := by
  induction links with
  | nil => exact (List.append_nil _).symm
  | cons link rest ih => rw [List.cons_append, fronts, ih, fronts, List.append_assoc]

/-- Links behind others write further outside. -/
theorem backs_append (links others : List Link) :
    backs (links ++ others) = backs links ++ backs others := by
  induction links with
  | nil => rfl
  | cons link rest ih => rw [List.cons_append, backs, ih, backs, List.append_assoc]

/-- Links that can be written make an operand of one. -/
theorem printable_applyLinks {links : List Link} (hlinks : ∀ link ∈ links, link.Printable) {e : Expr}
    (he : e.Printable) (ho : e.isOperand) :
    (applyLinks links e).Printable ∧ (applyLinks links e).isOperand := by
  induction links generalizing e with
  | nil => exact ⟨he, ho⟩
  | cons link rest ih =>
      rw [List.forall_mem_cons] at hlinks
      refine ih hlinks.2 ?_ ?_
      · cases link with
        | call callee leading =>
            obtain ⟨hcallee, hoperand, hleading⟩ := hlinks.1
            refine .call hcallee hoperand fun item hitem => ?_
            rcases List.mem_append.1 hitem with hitem | hitem
            · exact hleading item hitem
            · rwa [List.mem_singleton.1 hitem]
        | method name =>
            exact .call (.member he ho hlinks.1) rfl fun _ hitem => absurd hitem List.not_mem_nil
      · cases link <;> rfl

/-! ## Names of links -/

/-- The names that a link refers to. -/
def Link.names : Link → List String
  | .call callee leading => callee.names ++ itemNames leading
  | .method _ => []

/-- The names that links refer to, those of what they are applied to apart. -/
def linkNames (links : List Link) : List String :=
  links.flatMap Link.names

/-- Links behind others refer to names besides theirs. -/
theorem linkNames_append (links others : List Link) :
    linkNames (links ++ others) = linkNames links ++ linkNames others :=
  List.flatMap_append

/-- A link applied to an expression refers to names besides those of the expression. -/
theorem Link.mem_names_apply {word : String} (link : Link) (e : Expr) :
    word ∈ (link.apply e).names ↔ word ∈ link.names ∨ word ∈ e.names := by
  cases link with
  | call callee leading =>
      simp only [apply, names, Expr.names, List.mem_append, mem_itemNames, List.mem_singleton,
        or_and_right, exists_or, exists_eq_left, or_assoc]
  | method name => simp [apply, names, Expr.names, itemNames]

/-- So do links. -/
theorem mem_names_applyLinks {word : String} (links : List Link) (e : Expr) :
    word ∈ (applyLinks links e).names ↔ word ∈ linkNames links ∨ word ∈ e.names := by
  induction links generalizing e with
  | nil => simp [applyLinks, linkNames]
  | cons link rest ih =>
      show word ∈ (applyLinks rest (link.apply e)).names ↔ word ∈ link.names ++ linkNames rest ∨ _
      rw [ih, link.mem_names_apply, List.mem_append]
      tauto

/-! ## Functions that are links -/

/-- The function is written as the link is. -/
def Function.IsLink (f : Function) (marked : Bool) (link : Link) : Prop :=
  f.symbols = (link.front marked).map some ++ none :: link.back.map some

/-- A name calls what the name is written for. -/
theorem isLink_named {name : String} {callee : Expr} (h : callee.chars marked = name.toList) :
    (Function.named name).IsLink marked (.call callee []) := by
  unfold Function.IsLink
  rw [Function.symbols_named, Link.front, Link.back, h]
  simp

/-- A support function with arguments in front calls it with them. -/
theorem isLink_partialCall {name : String} {leading : List String} {callee : Expr}
    {items : List Expr} (h : callee.chars marked = name.toList)
    (hitems : List.Forall₂ (fun text e => Expr.chars marked e = text.toList) leading items) :
    (Function.partialCall name leading).IsLink marked (.call callee items) := by
  have hrow : separated [some ',', some ' ']
      ((leading.map Template.text ++ [Template.param]).map Template.symbols) =
        (items.flatMap fun e => e.chars marked ++ [',', ' ']).map some ++ [none] := by
    rw [List.map_append, List.map_map, List.map_singleton, separated_concat, List.flatMap_map]
    congr 1
    induction hitems with
    | nil => rfl
    | cons hhead _ ih =>
        rw [List.flatMap_cons, List.flatMap_cons, ih, hhead, Function.comp_apply,
          Template.symbols_text]
        simp
  unfold Function.IsLink Function.partialCall
  rw [Function.symbols_lambda, Template.symbols_call, hrow, Link.front, Link.back, h]
  simp

/-- A method call is one. -/
theorem isLink_method (name : String) : (Function.method name).IsLink marked (.method name) := by
  unfold Function.IsLink Function.method
  rw [Function.symbols_lambda, Template.symbols_append, Template.symbols_param,
    Template.symbols_text]
  simp [Link.front, Link.back]

/-! ## Chains -/

/-- The second chain is the first one with the links behind it. -/
structure Extends (marked : Bool) (c c' : Chain) (links : List Link) : Prop where
  symbols : c'.symbols = (fronts marked links).map some ++ c.symbols ++ (backs links).map some
  isFunction : c'.isFunction = c.isFunction
  printable : ∀ link ∈ links, link.Printable

/-- A chain extends itself by nothing. -/
theorem Extends.refl (c : Chain) : Extends marked c c [] :=
  ⟨(List.append_nil _).symm, rfl, fun _ h => absurd h List.not_mem_nil⟩

/-- A function that is a link extends a chain by it. -/
theorem Extends.andThen (c : Chain) {f : Function} {link : Link} (h : f.IsLink marked link)
    (hprint : link.Printable) : Extends marked c (c.andThen f) [link] := by
  refine ⟨?_, c.isFunction_andThen f, fun l hl => List.mem_singleton.1 hl ▸ hprint⟩
  rw [Chain.symbols_andThen, h, fillRow_append, fillRow_chars]
  show _ ++ (c.symbols ++ fillRow c.symbols (link.back.map some)) = _
  rw [fillRow_chars]
  simp [fronts, backs]

/-- Extensions of extensions are extensions. -/
theorem Extends.trans {c c' c'' : Chain} {links others : List Link} (h : Extends marked c c' links)
    (h' : Extends marked c' c'' others) : Extends marked c c'' (links ++ others) := by
  refine ⟨?_, h'.isFunction.trans h.isFunction, fun link hlink => ?_⟩
  · rw [h'.symbols, h.symbols, fronts_append, backs_append]
    simp
  · exact (List.mem_append.1 hlink).elim (h.printable link) (h'.printable link)

/-- Behind an expression, the links are written around it. -/
theorem Extends.toValue_eq {c c' : Chain} {links : List Link} {input : String}
    (h : Extends marked c c' links) (hinput : c.toValue = .ok input) :
    c'.toValue = .ok (String.ofList (fronts marked links ++ input.toList ++ backs links)) := by
  have hfunction : c.isFunction = false := by cases c <;> first | rfl | cases hinput
  rw [Chain.toValue_eq_ok hfunction] at hinput
  rw [Chain.toValue_eq_ok (h.isFunction.trans hfunction), h.symbols, writtenRow_append,
    writtenRow_append, writtenRow_chars, writtenRow_chars, ← Except.ok.inj hinput,
    String.toList_ofList]

/-- A chain from an expression is written as its links applied to the expression. -/
theorem Extends.toValue {c : Chain} {links : List Link} {text : String} {e : Expr}
    (htext : e.chars marked = text.toList) (h : Extends marked (.ofText text) c links) :
    c.toValue = .ok (String.ofList ((applyLinks links e).chars marked)) := by
  have hstart : (Chain.ofText text).toValue = .ok text := by
    rw [Chain.toValue_eq_ok rfl]
    show Except.ok (String.ofList (writtenRow (Template.text text).symbols)) = _
    rw [Template.symbols_text, writtenRow_chars, String.ofList_toList]
  rw [chars_applyLinks, htext]
  exact h.toValue_eq hstart

/-- Rows with one hole each are cut at it. -/
theorem eq_of_row_eq {front front' back back' : List Char}
    (h : front.map some ++ none :: back.map some = front'.map some ++ none :: back'.map some) :
    front = front' ∧ back = back' := by
  induction front generalizing front' with
  | nil =>
      cases front' with
      | nil => exact ⟨rfl, (List.map_inj_right fun _ _ => Option.some.inj).1 (List.cons.inj h).2⟩
      | cons c front' => cases h
  | cons c front ih =>
      cases front' with
      | nil => cases h
      | cons c' front' =>
          obtain ⟨hc, hrest⟩ := List.cons.inj h
          obtain ⟨rfl, rfl⟩ := ih hrest
          exact ⟨by rw [Option.some.inj hc], rfl⟩

/-- Links that write a call with one argument behind a name call what the name is written for. -/
theorem eq_call_of_written {links : List Link} {callee : List Char}
    (hfronts : fronts marked links = callee ++ ['(']) (hbacks : backs links = [')']) :
    ∃ e : Expr, links = [.call e []] ∧ e.chars marked = callee := by
  cases links with
  | nil => cases hbacks
  | cons link rest =>
      cases link with
      | method name => cases hbacks
      | call e leading =>
          cases rest with
          | cons other rest =>
              have hback := (List.cons.inj hbacks).2
              cases other <;> cases hback
          | nil =>
              have hfront : e.chars marked ++
                  '(' :: leading.flatMap (fun e => e.chars marked ++ [',', ' ']) = callee ++ ['('] :=
                hfronts
              rcases List.eq_nil_or_concat leading with rfl | ⟨init, last, rfl⟩
              · exact ⟨e, rfl, List.append_cancel_right hfront⟩
              · have hlast := congrArg List.getLast? hfront
                simp [List.getLast?_cons, List.getLast?_append] at hlast

/-- A chain from nothing is written as a lambda that applies its links, or, where it only calls
something, as that. -/
theorem Extends.toFunction {c : Chain} {links : List Link} (h : Extends marked .identity c links) :
    (∃ e : Expr, links = [.call e []] ∧ e.chars marked = c.toFunction.render.toList) ∨
      c.toFunction.render.toList =
        (Expr.lambda "x" (applyLinks links (.name "x"))).chars marked := by
  have hsymbols : c.symbols =
      (fronts marked links).map some ++ none :: (backs links).map some := by
    rw [h.symbols, List.append_assoc]
    rfl
  rcases Chain.render_toFunction (h.isFunction.trans rfl) with hcall | hlambda
  · refine .inl ?_
    generalize c.toFunction.render.toList = callee at hcall
    have hrow : (fronts marked links).map some ++ none :: (backs links).map some =
        (callee ++ ['(']).map some ++ none :: [')'].map some := by
      rw [← hsymbols, hcall]
      simp
    obtain ⟨hfronts, hbacks⟩ := eq_of_row_eq hrow
    exact eq_call_of_written hfronts hbacks
  · refine .inr ?_
    rw [hlambda, hsymbols, writtenRow_append, writtenRow_chars]
    show _ = "lambda".toList ++ ' ' :: ("x".toList ++ ':' :: ' ' :: Expr.chars marked _)
    rw [chars_applyLinks, List.append_assoc]
    show _ ++ (_ ++ 'x' :: writtenRow _) = _
    rw [writtenRow_chars]
    rfl

end TypedJson.Code
