import TypedJson.Code.Support
import TypedJson.Proofs.Script.Lines
import TypedJson.Proofs.Script.Settling

/-!
# What the support functions do

The lines of each support function are read as a definition, and the call of it is described: what
it checks, what it gives back, and how it calls the functions that it is given. The descriptions
hold in any module whose names for the support functions and for the language stand for these.
-/

namespace TypedJson.Script

open Code

/-! ## Definitions -/

/-- The expression `isinstance(x, type)`. -/
def testOfX (type : Expr) : Expr :=
  .call (.name "isinstance") [.name "x", type]

/-- The expression `isinstance(x, types) and not isinstance(x, bool)`. -/
def numberTestOfX (types : Expr) : Expr :=
  .and (testOfX types) (.not (testOfX (.name "bool")))

/-- The types that integers have, as an item of types. -/
def integerNames (legacy : Bool) : List Expr :=
  if legacy then [.name "int", .name "long"] else [.name "int"]

/-- A type, or a tuple of several. -/
def typeOrTuple : List Expr → Expr
  | [only] => only
  | types => .tuple types

/-- The definition of a support function. -/
def supportDefinition (f : Features) (c : Converter) : Definition :=
  match c with
  | .fromNone => ⟨"from_none", ["x"], [.assert (.isNone (.name "x") false), .return (.name "x")]⟩
  | .fromBool => ⟨"from_bool", ["x"], [.assert (testOfX (.name "bool")), .return (.name "x")]⟩
  | .fromInt =>
    ⟨"from_int", ["x"],
      [.assert (numberTestOfX (typeOrTuple (integerNames f.legacyBuiltins))),
        .return (.name "x")]⟩
  | .fromFloat =>
    ⟨"from_float", ["x"],
      [.assert (numberTestOfX (.tuple (.name "float" :: integerNames f.legacyBuiltins))),
        .return (.call (.name "float") [.name "x"])]⟩
  | .toFloat => ⟨"to_float", ["x"], [.assert (testOfX (.name "float")), .return (.name "x")]⟩
  | .fromStr =>
    ⟨"from_str", ["x"],
      [.assert (testOfX (typeOrTuple
          (if f.legacyBuiltins then [.name "str", .name "unicode"] else [.name "str"]))),
        .return (.name "x")]⟩
  | .fromDatetime =>
    ⟨"from_datetime", ["x"],
      [.return (.call (.member (.member (.name "dateutil") "parser") "parse") [.name "x"])]⟩
  | .fromList =>
    ⟨"from_list", ["f", "x"],
      [.assert (testOfX (.name "list")),
        .return (.listOf (.call (.name "f") [.name "y"]) "y" (.name "x"))]⟩
  | .fromDict =>
    ⟨"from_dict", ["f", "x"],
      [.assert (testOfX (.name "dict")),
        .return (.dictOf "k" "v" (.call (.name "f") [.name "v"])
          (.call (.member (.name "x") "items") []))]⟩
  | .fromUnion =>
    ⟨"from_union", ["fs", "x"],
      [.forEach "f" (.name "fs") [.tryReturn (.call (.name "f") [.name "x"]) [.pass]],
        .assert (.name "False")]⟩
  | .isType => ⟨"is_type", ["t", "x"], [.assert (testOfX (.name "t")), .return (.name "x")]⟩
  | .toEnum =>
    ⟨"to_enum", ["c", "x"],
      [.assert (testOfX (.name "c")), .return (.member (.name "x") "value")]⟩
  | .toClass =>
    ⟨"to_class", ["c", "x"],
      [.assert (testOfX (.name "c")),
        .return (.call (.member
          (if f.typeHints then .call (.name "cast") [.name "Any", .name "x"] else .name "x")
          "to_dict") [])]⟩

/-- The first line of a support function names it and its parameters. -/
theorem signature?_support (hints : Bool) (f : Features) (c : Converter) :
    signature? (c.signature hints).toList = some (c.name, (supportDefinition f c).parameters) := by
  cases c <;> cases hints <;> exact (congrArg signature? String.toList_ofList).trans rfl

/-- The tokens of a number test. -/
def numberTestTokens (types : Expr) : List Token :=
  (testOfX types).tokens ++ .key "and" :: .key "not" :: (testOfX (.name "bool")).tokens

/-- The tokens of a text that is known by its characters. -/
theorem tokens?_ofList {cs : List Char} {tokens : List Token} (h : tokens? cs = some tokens) :
    tokens? (String.ofList cs).toList = some tokens := by
  rw [String.toList_ofList, h]

/-- The lines of a support function without nested blocks are read as its statements. -/
theorem readsLine_support (f : Features) {c : Converter} (hc : c ≠ .fromUnion) :
    List.Forall₂ ReadsLine (c.body f) (supportDefinition f c).body := by
  -- Most lines have one of these forms; their tokens are found by computation.
  have hresult {text : String} {e : Expr}
      (htokens : tokens? text.toList = some (.key "return" :: e.tokens))
      (h : exprOf? e.tokens = some e) : ReadsLine text (.return e) :=
    readsLine_return _ htokens h
  have hx : ReadsLine "return x" (.return (.name "x")) :=
    hresult (tokens?_ofList rfl) (by cbv)
  have htest {text : String} {type : Expr}
      (htokens : tokens? text.toList = some (.key "assert" :: (testOfX type).tokens))
      (h : exprOf? (testOfX type).tokens = some (testOfX type)) :
      ReadsLine text (.assert (testOfX type)) :=
    readsLine_assert _ htokens h
  have hnumber {text : String} {types : Expr}
      (htokens : tokens? text.toList = some (.key "assert" :: numberTestTokens types))
      (h : exprOf? (numberTestTokens types) = some (numberTestOfX types)) :
      ReadsLine text (.assert (numberTestOfX types)) :=
    readsLine_assert _ htokens h
  obtain ⟨hints, _, _, _, _, legacy⟩ := f
  cases c with
  | fromNone =>
      refine .cons (readsLine_assert [.word "x", .key "is", .word "None"] ?_ ?_) (.cons hx .nil)
      · exact tokens?_ofList rfl
      · cbv
  | fromBool => exact .cons (htest (tokens?_ofList rfl) (by cbv)) (.cons hx .nil)
  | fromInt =>
      cases legacy with
      | false => exact .cons (hnumber (tokens?_ofList rfl) (by cbv)) (.cons hx .nil)
      | true => exact .cons (hnumber (tokens?_ofList rfl) (by cbv)) (.cons hx .nil)
  | fromFloat =>
      have hfloat : ReadsLine "return float(x)" (.return (.call (.name "float") [.name "x"])) :=
        hresult (tokens?_ofList rfl) (by cbv)
      cases legacy with
      | false => exact .cons (hnumber (tokens?_ofList rfl) (by cbv)) (.cons hfloat .nil)
      | true => exact .cons (hnumber (tokens?_ofList rfl) (by cbv)) (.cons hfloat .nil)
  | toFloat => exact .cons (htest (tokens?_ofList rfl) (by cbv)) (.cons hx .nil)
  | fromStr =>
      cases legacy with
      | false => exact .cons (htest (tokens?_ofList rfl) (by cbv)) (.cons hx .nil)
      | true => exact .cons (htest (tokens?_ofList rfl) (by cbv)) (.cons hx .nil)
  | fromDatetime => exact .cons (hresult (tokens?_ofList rfl) (by cbv)) .nil
  | fromList =>
      refine .cons (htest (tokens?_ofList rfl) (by cbv)) (.cons (readsLine_return
        (.mark '[' :: (Expr.call (.name "f") [.name "y"]).tokens ++
          [.key "for", .word "y", .key "in", .word "x", .mark ']']) ?_ ?_) .nil)
      · exact tokens?_ofList rfl
      · cbv
  | fromDict =>
      refine .cons (htest (tokens?_ofList rfl) (by cbv)) (.cons (readsLine_return
        (.mark '\x7b' :: .word "k" :: .mark ':' :: (Expr.call (.name "f") [.name "v"]).tokens ++
          [.key "for", .mark '(', .word "k", .mark ',', .word "v", .mark ')', .key "in"] ++
          (Expr.call (.member (.name "x") "items") []).tokens ++ [.mark '\x7d']) ?_ ?_) .nil)
      · exact tokens?_ofList rfl
      · cbv
  | fromUnion => exact absurd rfl hc
  | isType => exact .cons (htest (tokens?_ofList rfl) (by cbv)) (.cons hx .nil)
  | toEnum =>
      exact .cons (htest (tokens?_ofList rfl) (by cbv))
        (.cons (hresult (tokens?_ofList rfl) (by cbv)) .nil)
  | toClass =>
      refine .cons (htest (tokens?_ofList rfl) (by cbv)) ?_
      cases hints with
      | false => exact .cons (hresult (tokens?_ofList rfl) (by cbv)) .nil
      | true => exact .cons (hresult (tokens?_ofList rfl) (by cbv)) .nil

/-- The first line of a support function is not indented. -/
theorem startsDark_signature (hints : Bool) (c : Converter) : StartsDark (c.signature hints) := by
  cases c <;> cases hints <;> exact startsDark_ofList (by decide)

/-- The lines of a support function without nested blocks are indented alike. -/
theorem startsDark_body (f : Features) {c : Converter} (hc : c ≠ .fromUnion) :
    ∀ text ∈ c.body f, StartsDark text := by
  obtain ⟨hints, _, _, _, _, legacy⟩ := f
  have hpair {a b : String} (ha : StartsDark a) (hb : StartsDark b) :
      ∀ text ∈ [a, b], StartsDark text := by
    rintro _ (_ | ⟨_, _ | ⟨_, ⟨⟩⟩⟩)
    · exact ha
    · exact hb
  cases c with
  | fromUnion => exact absurd rfl hc
  | fromDatetime =>
      rintro _ (_ | ⟨_, ⟨⟩⟩)
      exact startsDark_ofList (by decide)
  | fromInt | fromFloat | fromStr =>
      cases legacy <;> exact hpair (startsDark_ofList (by decide)) (startsDark_ofList (by decide))
  | toClass =>
      cases hints <;> exact hpair (startsDark_ofList (by decide)) (startsDark_ofList (by decide))
  | fromNone | fromBool | toFloat | fromList | fromDict | isType | toEnum =>
      exact hpair (startsDark_ofList (by decide)) (startsDark_ofList (by decide))

/-- The lines of a support function are read as its definition. -/
theorem find?_definition (f : Features) (c : Converter) :
    Definition.find? c.name (linesOf (c.definition f)) = some (supportDefinition f c) := by
  by_cases hc : c = .fromUnion
  · subst hc
    cbv
  · show Definition.find? c.name (linesAt 0 (c.definition f)) = _
    rw [Converter.definition, List.cons_append, linesAt_line (startsDark_signature _ c),
      linesAt_indented (startsDark_body f hc)]
    have hname : (supportDefinition f c).name = c.name := by cases c <;> rfl
    rw [find?_lines (signature?_support f.typeHints f c) (readsLine_support f hc) rfl, ← hname]

end TypedJson.Script
