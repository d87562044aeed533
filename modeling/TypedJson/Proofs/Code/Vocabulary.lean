import TypedJson.Proofs.Code.Assignment
import TypedJson.Proofs.Code.Symbols
import TypedJson.Proofs.Code.Yields
import TypedJson.Proofs.Script.Words

/-!
# The vocabulary of a module

Generated code is written with the words of the language, names that it refers to without defining
them, the names of support functions, a few names of its own, and the identifiers that were
assigned. A function is of that vocabulary if it is written so and makes expressions of it from
expressions of it (`Function.SpelledIn`); then so is every chain that is put together from such
functions.
-/

namespace TypedJson.Code

open Script

/-! ## Words -/

/-- The names that generated code refers to and does not define: builtins, decorators, what it
imports, and the type variables of its signatures. -/
def referenceNames : List String :=
  ["Any", "Callable", "Dict", "Enum", "EnumT", "List", "Optional", "T", "Type", "TypeVar",
    "Union", "bool", "cast", "dataclass", "datetime", "dateutil", "dict", "float", "int",
    "isinstance", "list", "long", "object", "staticmethod", "str", "type", "unicode"]

/-- The names that generated code binds in classes and functions, whatever it is written for: those
of methods, parameters, local variables and an argument. -/
def localNames : List String :=
  ["__init__", "bound", "c", "f", "fs", "k", "obj", "result", "s", "self", "t", "to_dict", "v", "x",
    "y"]

/-- The words of generated code that are the same in all modules. -/
def fixedWords : List String :=
  keywords ++ localNames ++ Converter.all.map Converter.name ++ referenceNames

namespace NameTable

/-- The identifiers that were assigned. -/
def words (names : NameTable) : List String :=
  names.moduleNames ++ names.properties.flatMap Prod.snd ++ names.cases.flatMap Prod.snd

/-- The words of a module. -/
def vocabulary (names : NameTable) : List String :=
  fixedWords ++ names.words

/-- The identifiers are words. -/
def Spelt (names : NameTable) : Prop :=
  ∀ name ∈ names.words, IsWord name

end NameTable

variable {names : NameTable}

/-- A fixed text of known words is of the vocabulary. -/
theorem leads_fixed {text : List Char} (h : opens fixedWords text) :
    Leads names.vocabulary (String.ofList text) :=
  leads_of_opens (List.subset_append_left _ _) h

/-- So is one that may end with such a word. -/
theorem spelled_fixed {text : List Char} (h : closes fixedWords text) :
    Spelled names.vocabulary (String.ofList text) :=
  spelled_of_closes (List.subset_append_left _ _) h

/-- Fixed texts are checked by their characters. -/
theorem forall_texts {p : List Char → Bool} {P : String → Prop}
    (hp : ∀ text, p text → P (String.ofList text)) {chars : List (List Char)} {texts : List String}
    (htexts : List.Forall₂ (String.ofList · = ·) chars texts) (h : chars.all p) :
    ∀ text ∈ texts, P text := by
  induction htexts with
  | nil => exact List.forall_mem_nil _
  | cons htext _ ih =>
      rw [List.all_cons, Bool.and_eq_true] at h
      exact List.forall_mem_cons.2 ⟨htext ▸ hp _ h.1, ih h.2⟩

/-- A text of the vocabulary is one with a fixed text behind it that no word goes on with. -/
theorem spelled_closed {text : String} {back : List Char} (h : Spelled names.vocabulary text)
    (hback : isApart (String.ofList back) && closes fixedWords back) :
    Spelled names.vocabulary (text ++ String.ofList back) :=
  h.closed (List.subset_append_left _ _) hback

/-- So are two of them with such a text between them. -/
theorem spelled_joined {text other : String} {between : List Char}
    (h : Spelled names.vocabulary text)
    (hbetween : isApart (String.ofList between) && opens fixedWords between)
    (h' : Spelled names.vocabulary other) :
    Spelled names.vocabulary (text ++ String.ofList between ++ other) :=
  h.joined (List.subset_append_left _ _) hbetween h'

/-- An identifier is of the vocabulary. -/
theorem spelled_name (h : names.Spelt) {name : String} (hname : name ∈ names.words) :
    Spelled names.vocabulary name :=
  spelled_word (List.mem_append_right _ hname) (h name hname)

/-! ## Written functions -/

/-- Filling a row with separators fills what these are between. -/
theorem fillRow_separated (argument : List (Option Char)) (separator : List Char)
    (rows : List (List (Option Char))) : fillRow argument (separated (separator.map some) rows) =
      separated (separator.map some) (rows.map (fillRow argument)) := by
  induction rows with
  | nil => rfl
  | cons first rows ih =>
      cases rows with
      | nil => rfl
      | cons second rows =>
          show fillRow argument (first ++ separator.map some ++ separated _ _) = _
          rw [fillRow_append, fillRow_append, fillRow_chars, ih]
          rfl

/-- Separated rows are written with the separators between them. -/
theorem writtenRow_separated (separator : List Char) (rows : List (List (Option Char))) :
    writtenRow (separated (separator.map some) rows) =
      separated separator (rows.map writtenRow) := by
  induction rows with
  | nil => rfl
  | cons first rows ih =>
      cases rows with
      | nil => rfl
      | cons second rows =>
          show writtenRow (first ++ separator.map some ++ separated _ _) = _
          rw [writtenRow_append, writtenRow_append, writtenRow_chars, ih]
          rfl

namespace Template

/-- A template is written as another one if their rows are. -/
theorem render_congr {t u : Template} (h : t.symbols = u.symbols) : t.render = u.render := by
  rw [render_eq, render_eq, h]

/-- A text is written as it is. -/
theorem render_text (s : String) : (text s).render = s := by
  rw [render_eq, symbols_text, writtenRow_chars, String.ofList_toList]

/-- A call is written with its arguments. -/
theorem render_call (callee : String) (arguments : List Template) :
    (call callee arguments).render =
      callee ++ "(" ++ ", ".intercalate (arguments.map render) ++ ")" := by
  have hitems : (arguments.map symbols).map writtenRow =
      (arguments.map render).map String.toList := by
    rw [List.map_map, List.map_map]
    exact List.map_congr_left fun t _ => (toList_render t).symm
  have hrow : writtenRow (separated [some ',', some ' '] (arguments.map symbols)) =
      (", ".intercalate (arguments.map render)).toList := by
    rw [String.toList_intercalate, ← separated_eq_intercalate, ← hitems]
    exact writtenRow_separated [',', ' '] _
  have hcall : (call callee arguments).render.toList =
      callee.toList ++ '(' :: (", ".intercalate (arguments.map render)).toList ++ [')'] := by
    rw [toList_render, symbols_call, writtenRow_append, writtenRow_append, writtenRow_chars, ← hrow]
    rfl
  refine String.toList_injective (hcall.trans ?_)
  simp only [String.toList_append, List.append_assoc]
  rfl

/-- Filling a call fills its arguments. -/
theorem symbols_fill_call (callee : String) (arguments : List Template) (argument : Template) :
    ((call callee arguments).fill argument).symbols =
      (call callee (arguments.map (·.fill argument))).symbols := by
  have hrow : fillRow argument.symbols (separated [some ',', some ' '] (arguments.map symbols)) =
      separated [some ',', some ' '] (arguments.map fun t => (t.fill argument).symbols) := by
    refine (fillRow_separated argument.symbols [',', ' '] _).trans ?_
    rw [List.map_map]
    exact congrArg _ (List.map_congr_left fun t _ => (symbols_fill t argument).symm)
  rw [symbols_fill, symbols_call, symbols_call, fillRow_append, fillRow_append, fillRow_chars,
    List.map_map]
  show _ ++ some '(' :: fillRow _ _ ++ _ = _
  rw [hrow]
  rfl

end Template

namespace Function

/-- A name is applied by a call. -/
theorem render_apply_named (name : String) (argument : Template) :
    ((Function.named name).apply argument).render = name ++ "(" ++ argument.render ++ ")" :=
  Template.render_call name [argument]

/-- A function with arguments in front of its own is applied by a call with all of them. -/
theorem render_apply_partialCall (callee : String) (leading : List String) (argument : Template) :
    ((partialCall callee leading).apply argument).render =
      callee ++ "(" ++ ", ".intercalate (leading ++ [argument.render]) ++ ")" := by
  have hparam : (Template.param.fill argument).render = argument.render :=
    Template.render_congr (by rw [Template.symbols_fill]; exact List.append_nil _)
  have hleading (s : String) : ((Template.text s).fill argument).render = s := by
    refine (Template.render_congr ?_).trans (Template.render_text s)
    rw [Template.symbols_fill, Template.symbols_text, fillRow_chars]
  have harguments : ((leading.map Template.text ++ [Template.param]).map (·.fill argument)).map
      Template.render = leading ++ [argument.render] := by
    rw [List.map_append, List.map_append, List.map_map, List.map_map, List.map_singleton,
      List.map_singleton, hparam]
    congr 1
    exact (List.map_congr_left fun s _ => hleading s).trans (List.map_id _)
  rw [← harguments, ← Template.render_call]
  exact Template.render_congr (Template.symbols_fill_call _ _ _)

/-- A method is applied behind its argument. -/
theorem render_apply_method (name : String) (argument : Template) :
    ((method name).apply argument).render = argument.render ++ ("." ++ name ++ "()") := by
  have hsymbols : ((method name).apply argument).symbols =
      argument.symbols ++ ("." ++ name ++ "()").toList.map some := by
    rw [symbols_apply, method, symbols_lambda, Template.symbols_append, Template.symbols_param,
      Template.symbols_text, fillRow_append, fillRow_chars]
    exact congrArg (· ++ _) (List.append_nil _)
  refine String.toList_injective ?_
  rw [Template.toList_render, hsymbols, writtenRow_append, writtenRow_chars,
    ← Template.toList_render]
  exact String.toList_append.symm

end Function

/-! ## Functions and chains of a vocabulary -/

/-- The name of a dotted callee has no quotes and starts no comment. -/
theorem isDotted_plain {fresh : Bool} {cs : List Char} (h : Template.isDotted fresh cs) :
    ∀ c ∈ cs, isQuote c = false ∧ c ≠ '#' := by
  have hplain {c : Char} (h : Text.isAlphanumeric c || c == '_') :
      isQuote c = false ∧ c ≠ '#' := by
    refine ⟨?_, ?_⟩
    · rw [Bool.eq_false_iff]
      intro hquote
      simp only [isQuote, Bool.or_eq_true, beq_iff_eq] at hquote
      rcases hquote with rfl | rfl <;> exact absurd h (by decide)
    · rintro rfl
      exact absurd h (by decide)
  induction cs generalizing fresh with
  | nil => exact List.forall_mem_nil _
  | cons c cs ih =>
      unfold Template.isDotted at h
      split at h
      next hdot =>
        rw [Bool.and_eq_true] at h
        subst hdot
        exact List.forall_mem_cons.2 ⟨⟨by decide, by decide⟩, ih h.2⟩
      next =>
        rw [Bool.and_eq_true] at h
        exact List.forall_mem_cons.2 ⟨hplain h.1, ih h.2⟩

/-- A template that only calls something is that callee with the parameter in parentheses. -/
theorem plainCallee?_spec {t : Template} {callee : String} (h : t.plainCallee? = some callee) :
    t.render = callee ++ "(x)" ∧ ∀ c ∈ callee.toList, isQuote c = false ∧ c ≠ '#' := by
  refine ⟨String.toList_injective ?_, ?_⟩
  · rw [Template.toList_render, Template.symbols_of_plainCallee h, writtenRow_append,
      writtenRow_chars, String.toList_append]
    rfl
  · unfold Template.plainCallee? at h
    split at h
    next =>
      split at h
      next =>
        split at h
        next hdotted =>
          cases h
          rw [String.toList_ofList]
          exact isDotted_plain hdotted
        next => cases h
      next => cases h
    next => cases h

/-- The function is written with the vocabulary, and so is what it makes of an expression of the
vocabulary. -/
structure Function.SpelledIn (names : NameTable) (f : Function) : Prop where
  render : Spelled names.vocabulary f.render
  apply {argument : Template} : Spelled names.vocabulary argument.render →
    Spelled names.vocabulary (f.apply argument).render

/-- A chain is of the vocabulary if what was put together so far is. -/
def Chain.SpelledIn (names : NameTable) : Chain → Prop
  | .identity => True
  | .value expression => Spelled names.vocabulary expression.render
  | .function f => f.SpelledIn names
  | .applied f argument => Spelled names.vocabulary (f.apply argument).render

/-- The call of a text of the vocabulary with such a text is of the vocabulary. -/
theorem spelled_call {callee inner : String} (h : Spelled names.vocabulary callee)
    (h' : Spelled names.vocabulary inner) :
    Spelled names.vocabulary (callee ++ "(" ++ inner ++ ")") :=
  spelled_closed (spelled_joined h (by decide) h') (by decide)

/-- The parameter is of the vocabulary. -/
theorem spelled_param : Spelled names.vocabulary Template.param.render :=
  spelled_fixed (by decide +kernel)

/-- A lambda with a body of the vocabulary is of the vocabulary. -/
theorem spelled_render_lambda {body : Template} (h : Spelled names.vocabulary body.render) :
    Spelled names.vocabulary (Function.lambda body).render := by
  cases hcallee : body.plainCallee? with
  | none =>
      rw [Function.render, hcallee]
      show Spelled _ ("lambda " ++ Template.paramName ++ ": " ++ _)
      rw [show "lambda " ++ Template.paramName ++ ": " = "lambda x: " by decide]
      exact (leads_fixed (by decide +kernel)).append h
  | some callee =>
      obtain ⟨hbody, hplain⟩ := plainCallee?_spec hcallee
      rw [hbody] at h
      rw [Function.render, hcallee]
      exact h.callee hplain

namespace Function

/-- A lambda is of the vocabulary if what it makes of expressions is. -/
theorem spelledIn_lambda {body : Template} (h : ∀ argument : Template,
    Spelled names.vocabulary argument.render →
      Spelled names.vocabulary ((Function.lambda body).apply argument).render) :
    (Function.lambda body).SpelledIn names := by
  have hbody := h .param spelled_param
  rw [Template.render_congr (symbols_lambda body)] at hbody
  exact ⟨spelled_render_lambda hbody, h _⟩

/-- A name of the vocabulary is a function of the vocabulary. -/
theorem spelledIn_named {name : String} (h : Spelled names.vocabulary name) :
    (Function.named name).SpelledIn names := by
  refine ⟨h, fun hargument => ?_⟩
  rw [render_apply_named]
  exact spelled_call h hargument

/-- So is such a name with arguments in front. -/
theorem spelledIn_partialCall {callee : String} {leading : List String}
    (h : Spelled names.vocabulary callee)
    (hleading : ∀ text ∈ leading, Spelled names.vocabulary text) :
    (partialCall callee leading).SpelledIn names := by
  refine spelledIn_lambda fun argument hargument => ?_
  rw [← partialCall, render_apply_partialCall]
  exact spelled_call h (spelled_intercalate
    (List.forall_mem_append.2 ⟨hleading, List.forall_mem_singleton.2 hargument⟩))

/-- The method that writes a time is. -/
theorem spelledIn_isoformat : (method "isoformat").SpelledIn names := by
  refine spelledIn_lambda fun argument hargument => ?_
  rw [← method, render_apply_method, show "." ++ "isoformat" ++ "()" = ".isoformat()" by decide]
  exact spelled_closed hargument (by decide +kernel)

/-- Functions behind one another are, if both are. -/
theorem SpelledIn.andThen {f next : Function} (h : f.SpelledIn names)
    (h' : next.SpelledIn names) : (f.andThen next).SpelledIn names := by
  refine spelledIn_lambda fun argument hargument => ?_
  rw [← Function.andThen, apply_andThen]
  exact h'.apply (h.apply hargument)

end Function

namespace Chain.SpelledIn

variable {c : Chain} {step : Function}

/-- Nothing was put together yet. -/
theorem identity : Chain.identity.SpelledIn names :=
  trivial

/-- A chain stays of the vocabulary with a step behind it. -/
theorem andThen (h : c.SpelledIn names) (h' : step.SpelledIn names) :
    (c.andThen step).SpelledIn names := by
  cases c with
  | identity => exact h'
  | value expression => exact h'.apply h
  | function f => exact Function.SpelledIn.andThen h h'
  | applied f argument =>
      show Spelled _ ((f.andThen step).apply argument).render
      rw [Function.apply_andThen]
      exact h'.apply h

/-- The function of such a chain is written with the vocabulary. -/
theorem function (h : c.SpelledIn names) : Spelled names.vocabulary c.toFunction.render := by
  cases c with
  | identity => exact spelled_render_lambda spelled_param
  | value expression => exact spelled_render_lambda h
  | function f => exact Function.SpelledIn.render h
  | applied f argument => exact spelled_render_lambda h

/-- So is its expression. -/
theorem value (h : c.SpelledIn names) {text : String} (htext : c.toValue = .ok text) :
    Spelled names.vocabulary text := by
  cases c with
  | identity => cases htext
  | function f => cases htext
  | value expression => exact Except.ok.inj htext ▸ h
  | applied f argument => exact Except.ok.inj htext ▸ h

/-- A chain that starts from a text of the vocabulary is of the vocabulary. -/
theorem ofText {text : String} (h : Spelled names.vocabulary text) :
    (Chain.ofText text).SpelledIn names := by
  show Spelled _ (Template.text text).render
  rwa [Template.render_text]

end Chain.SpelledIn

end TypedJson.Code
