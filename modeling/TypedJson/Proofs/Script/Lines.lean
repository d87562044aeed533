import TypedJson.Proofs.Script.Printing

/-!
# Reading definitions line by line

A body without nested blocks is read one line at a time, and a definition is found by its first line
and read from the lines behind it that stand further to the right.
-/

namespace TypedJson.Script

open Code

/-- A line is read as a statement of its own. -/
def ReadsLine (text : String) (s : Statement) : Prop :=
  (tokens? text.toList).bind simple? = some s

/-- A line that starts with `assert` is read as a check. -/
theorem readsLine_assert {text : String} (tokens : List Token) {e : Expr}
    (htokens : tokens? text.toList = some (.key "assert" :: tokens)) (h : exprOf? tokens = some e) :
    ReadsLine text (.assert e) := by
  rw [ReadsLine, htokens]
  show (exprOf? tokens).map Statement.assert = _
  rw [h]
  rfl

/-- A line that starts with `return` is read as a result. -/
theorem readsLine_return {text : String} (tokens : List Token) {e : Expr}
    (htokens : tokens? text.toList = some (.key "return" :: tokens)) (h : exprOf? tokens = some e) :
    ReadsLine text (.return e) := by
  rw [ReadsLine, htokens]
  show (exprOf? tokens).map Statement.return = _
  rw [h]
  rfl

/-- An expression behind `return` is read as a result. -/
theorem readsLine_result {text : String} (marked : Bool) {e : Expr} (he : e.Printable)
    (h : text.toList = "return".toList ++ ' ' :: e.chars marked) : ReadsLine text (.return e) := by
  refine readsLine_return e.tokens ?_ he.exprOf?_tokens
  rw [h]
  exact (lexes_key rfl rfl rfl rfl (he.lexes marked)).tokens?

/-- An expression behind `assert` is read as a check. -/
theorem readsLine_check {text : String} (marked : Bool) {e : Expr} (he : e.Printable)
    (h : text.toList = "assert".toList ++ ' ' :: e.chars marked) : ReadsLine text (.assert e) := by
  refine readsLine_assert e.tokens ?_ he.exprOf?_tokens
  rw [h]
  exact (lexes_key rfl rfl rfl rfl (he.lexes marked)).tokens?

/-- An expression behind a name and `=` is read as an assignment. -/
theorem readsLine_assign {text name : String} (marked : Bool) {e : Expr} (hname : IsName name)
    (he : e.Printable) (h : text.toList = name.toList ++ ' ' :: '=' :: ' ' :: e.chars marked) :
    ReadsLine text (.assign name e) := by
  have htokens : Lexes (name.toList ++ ' ' :: '=' :: ' ' :: e.chars marked)
      ([.word name] ++ .mark '=' :: e.tokens) :=
    (lexes_name hname).append (separates_mark rfl rfl _)
      (.space (.mark rfl (.space (he.lexes marked))))
  rw [ReadsLine, h, htokens.tokens?]
  show (exprOf? e.tokens).map (Statement.assign name) = _
  rw [he.exprOf?_tokens]
  rfl

/-- An expression behind a name with a key and `=` is read as an assignment of an entry. -/
theorem readsLine_assignItem {text name : String} (marked : Bool) {key : String} {e : Expr}
    (hname : IsName name) (he : e.Printable)
    (h : text.toList = name.toList ++ '[' :: Code.literalChars marked key.toList ++
      ']' :: ' ' :: '=' :: ' ' :: e.chars marked) :
    ReadsLine text (.assignItem name (.text key) e) := by
  have hliteral : Lexes (Code.literalChars marked key.toList ++ ']' :: ' ' :: '=' :: ' ' ::
      e.chars marked) ([.text key] ++ .mark ']' :: .mark '=' :: e.tokens) :=
    (lexes_literal marked key).append (separates_mark rfl rfl _)
      (.mark rfl (.space (.mark rfl (.space (he.lexes marked)))))
  have htokens : Lexes text.toList
      ([.word name] ++ .mark '[' :: ([.text key] ++ .mark ']' :: .mark '=' :: e.tokens)) := by
    rw [h, List.append_assoc, List.cons_append]
    exact (lexes_name hname).append (separates_mark rfl rfl _) (.mark rfl hliteral)
  let rest : List Token := .mark ']' :: .mark '=' :: e.tokens
  -- The key is read as an expression of its own, which ends at the bracket.
  have hkey : expr? (readingDepth (.text key :: rest)) (.text key :: rest) =
      some (.text key, rest) := by
    refine (Expr.Printable.text key).reads.1 _ rest (.inr ⟨']', _, rfl, by simp⟩) ?_
    show 6 * 1 ≤ 6 * (rest.length + 1) + 6
    omega
  rw [ReadsLine, htokens.tokens?]
  simp only [Option.bind_some, List.cons_append, List.nil_append, simple?]
  rw [hkey]
  show (exprOf? e.tokens).map (Statement.assignItem name (.text key)) = _
  rw [he.exprOf?_tokens]
  rfl

/-- All lines are behind a block without lines. -/
theorem behind_eq_self {column : Nat} {lines : List Line} (h : inside column lines = []) :
    behind column lines = lines := by
  have hall := List.takeWhile_append_dropWhile (p := fun line => column < line.column) (l := lines)
  rw [inside] at h
  rw [h, List.nil_append] at hall
  exact hall

/-- A line that is a statement of its own opens no block. -/
theorem block?_cons {n column : Nat} {text : List Char} {s : Statement} {rest : List Line}
    (h : (tokens? text).bind simple? = some s) (hrest : inside column rest = []) :
    block? (n + 1) column (⟨column, text⟩ :: rest) =
      (block? n column rest).map (s :: ·) := by
  obtain ⟨tokens, htokens, hs⟩ := Option.bind_eq_some_iff.1 h
  rw [block?]
  simp only [htokens, hrest, behind_eq_self hrest, guard, List.isEmpty_nil, if_true]
  simp only [pure_bind, Option.bind_eq_bind, Option.bind_some]
  split
  next => simp [simple?] at hs
  next => simp [simple?] at hs
  next => simp [simple?] at hs
  next =>
    rw [hs]
    cases block? n column rest <;> rfl

/-- Lines of statements of their own are read one by one. -/
theorem block?_lines {texts : List String} {ss : List Statement}
    (h : List.Forall₂ ReadsLine texts ss) (column : Nat) {n : Nat} (hn : texts.length ≤ n) :
    block? n column (texts.map fun text => ⟨column, text.toList⟩) = some ss := by
  induction h generalizing n with
  | nil => cases n <;> rfl
  | @cons text s texts ss hline htail ih =>
      obtain ⟨n, rfl⟩ : ∃ k, n = k + 1 := ⟨n - 1, by rw [List.length_cons] at hn; omega⟩
      have hinside : inside column (texts.map fun text => ⟨column, text.toList⟩) = [] := by
        cases texts with
        | nil => rfl
        | cons text texts =>
            rw [List.map_cons, inside, List.takeWhile_cons_of_neg (by simp)]
      rw [List.map_cons, block?_cons hline hinside, ih (Nat.le_of_succ_le_succ hn)]
      rfl

/-- A line with a test and a line indented behind it are read as a conditional statement. -/
theorem block?_if {n column : Nat} {text inner : List Char} {test : List Token} {e : Expr}
    {s : Statement} {rest : List Line} (htokens : tokens? text = some (.key "if" :: test))
    (htest : condition? test = some e) (hinner : (tokens? inner).bind simple? = some s)
    (hrest : inside column rest = []) :
    block? (n + 2) column (⟨column, text⟩ :: ⟨column + 4, inner⟩ :: rest) =
      (block? (n + 1) column rest).map (.ifThen e [s] :: ·) := by
  have hinside : inside column (⟨column + 4, inner⟩ :: rest) = [⟨column + 4, inner⟩] := by
    rw [inside] at hrest ⊢
    rw [List.takeWhile_cons_of_pos (by simp), hrest]
  have hnext : behind column (⟨column + 4, inner⟩ :: rest) = rest := by
    rw [behind, List.dropWhile_cons_of_pos (by simp)]
    exact behind_eq_self hrest
  have hbody : block? (n + 1) (column + 4) [⟨column + 4, inner⟩] = some [s] := by
    rw [block?_cons hinner rfl]
    cases n <;> rfl
  rw [block?]
  simp only [htokens, hinside, hnext, guard, if_true, List.head?_cons, Option.map_some,
    Option.getD_some]
  simp only [pure_bind, Option.bind_eq_bind, Option.bind_some]
  rw [htest, hbody]
  cases block? (n + 1) column rest <;> rfl

/-! ## Lines of steps -/

/-- The lines that steps write from a level on. -/
def linesAt (level : Nat) (steps : List Step) : List Line :=
  (entriesFrom .header level steps).filterMap fun e =>
    match e.2 with
    | .line level text => some (.ofChars (indentLine level text).toList)
    | .blank _ => none

/-- The text starts with a character that is no space. -/
def StartsDark (text : String) : Prop :=
  ∃ c rest, text.toList = c :: rest ∧ c ≠ ' '

/-- A text that is known by its characters starts with the first of them. -/
theorem startsDark_ofList {c : Char} {rest : List Char} (h : c ≠ ' ') :
    StartsDark (String.ofList (c :: rest)) :=
  ⟨c, rest, String.toList_ofList, h⟩

/-- So does the text with another one behind it. -/
theorem StartsDark.append {text : String} (h : StartsDark text) (rest : String) :
    StartsDark (text ++ rest) := by
  obtain ⟨c, tail, htext, hc⟩ := h
  exact ⟨c, tail ++ rest.toList, by rw [String.toList_append, htext, List.cons_append], hc⟩

/-- A name starts so. -/
theorem IsName.startsDark {word : String} (h : IsName word) : StartsDark word := by
  obtain ⟨c, rest, hword, -⟩ := h.start
  refine ⟨c, rest, hword, ?_⟩
  rintro rfl
  exact absurd (h.chars ' ' (by rw [hword]; exact List.mem_cons_self)) (by decide)

/-- An indented line starts at the column of its level. -/
theorem ofChars_indentLine {text : String} (h : StartsDark text) (level : Nat) :
    Line.ofChars (indentLine level text).toList = ⟨4 * level, text.toList⟩ := by
  obtain ⟨c, rest, htext, hc⟩ := h
  have hne : text ≠ "" := by
    rintro rfl
    cases htext
  have hspaces : ∀ d ∈ List.replicate (4 * level) ' ', (d == ' ') = true := by
    intro d hd
    rw [List.eq_of_mem_replicate hd]
    rfl
  unfold Line.ofChars indentLine indentation
  rw [if_neg hne, String.toList_append, String.toList_ofList, htext,
    List.takeWhile_append_of_pos hspaces, List.dropWhile_append_of_pos hspaces,
    List.takeWhile_cons_of_neg (by simpa using hc), List.dropWhile_cons_of_neg (by simpa using hc),
    List.append_nil, List.length_replicate]

/-- A line is written at its level. -/
theorem linesAt_line {text : String} (h : StartsDark text) (level : Nat) (rest : List Step) :
    linesAt level (.line text :: rest) = ⟨4 * level, text.toList⟩ :: linesAt level rest := by
  rw [← ofChars_indentLine h level]
  rfl

/-- Lines are written in the same way in every region. -/
theorem lines_entriesFrom (region other : Region) (level : Nat) (steps : List Step) :
    (entriesFrom region level steps).map Prod.snd = (entriesFrom other level steps).map Prod.snd := by
  induction steps generalizing region other level with
  | nil => rfl
  | cons step rest ih =>
      cases step with
      | enter region => rfl
      | line text => exact congrArg (_ :: ·) (ih region other level)
      | blank count => exact congrArg (_ :: ·) (ih region other level)
      | indent => exact ih region other (level + 1)
      | dedent => exact ih region other (level - 1)

/-- A region starts at the left margin. -/
theorem linesAt_enter (region : Region) (level : Nat) (rest : List Step) :
    linesAt level (.enter region :: rest) = linesAt 0 rest := by
  have hmap (entries : List (Region × Entry)) : entries.filterMap (fun e =>
      match e.2 with
      | .line level text => some (Line.ofChars (indentLine level text).toList)
      | .blank _ => none) = (entries.map Prod.snd).filterMap fun e =>
      match e with
      | .line level text => some (Line.ofChars (indentLine level text).toList)
      | .blank _ => none := by
    rw [List.filterMap_map]
    rfl
  show (entriesFrom region 0 rest).filterMap _ = (entriesFrom .header 0 rest).filterMap _
  rw [hmap, hmap, lines_entriesFrom region .header]

/-- Indented lines are written one level deeper. -/
theorem linesAt_indented {texts : List String} (h : ∀ text ∈ texts, StartsDark text) (level : Nat)
    (rest : List Step) :
    linesAt level (indented (texts.map .line) ++ rest) =
      (texts.map fun text => ⟨4 * (level + 1), text.toList⟩) ++ linesAt level rest := by
  show linesAt (level + 1) (texts.map .line ++ [.dedent] ++ rest) = _
  induction texts with
  | nil => rfl
  | cons text texts ih =>
      rw [List.forall_mem_cons] at h
      rw [List.map_cons, List.cons_append, List.cons_append, linesAt_line h.1, ih h.2]
      rfl

/-! ## Definitions -/

/-- A definition is read from its first line and the lines of its body. -/
theorem find?_lines {name header : String} {parameters texts : List String} {ss : List Statement}
    {rest : List Line} (hheader : signature? header.toList = some (name, parameters))
    (h : List.Forall₂ ReadsLine texts ss) (hrest : inside 0 rest = []) :
    Definition.find? name
        (⟨0, header.toList⟩ :: ((texts.map fun text => ⟨4, text.toList⟩) ++ rest)) =
      some ⟨name, parameters, ss⟩ := by
  have hinside : inside 0 ((texts.map fun text => ⟨4, text.toList⟩) ++ rest) =
      texts.map fun text => ⟨4, text.toList⟩ := by
    unfold inside at hrest ⊢
    rw [List.takeWhile_append_of_pos, hrest, List.append_nil]
    intro line hline
    obtain ⟨text, -, rfl⟩ := List.mem_map.1 hline
    rfl
  rw [Definition.find?, hheader]
  show (if name = name then _ else _) = _
  rw [if_pos rfl]
  show (block? (inside 0 _).length _ (inside 0 _)).map _ = _
  rw [hinside, List.length_map]
  cases texts with
  | nil =>
      cases h
      rfl
  | cons text texts =>
      show (block? _ 4 _).map _ = _
      rw [block?_lines h 4 (Nat.le_refl _)]
      rfl

/-- A line that starts no definition is passed over. -/
theorem find?_cons {name : String} {line : Line} {rest : List Line}
    (h : signature? line.text = none) :
    Definition.find? name (line :: rest) = Definition.find? name rest := by
  rw [Definition.find?, h]

/-- Lines that start no definition are passed over. -/
theorem find?_append {name : String} {lines rest : List Line}
    (h : ∀ line ∈ lines, signature? line.text = none) :
    Definition.find? name (lines ++ rest) = Definition.find? name rest := by
  induction lines with
  | nil => rfl
  | cons line lines ih =>
      rw [List.forall_mem_cons] at h
      rw [List.cons_append, find?_cons h.1, ih h.2]

/-- A line that starts with `def` and a name in front of a parenthesis names a function. -/
theorem signature?_def {name : String} (h : ∀ c ∈ name.toList, isWordChar c) (rest : List Char) :
    signature? ("def ".toList ++ name.toList ++ '(' :: rest) =
      (parameters? [] none rest).map (name, ·) := by
  have hdef : "def ".toList ++ name.toList ++ '(' :: rest =
      'd' :: 'e' :: 'f' :: ' ' :: (name.toList ++ '(' :: rest) := by
    rw [List.append_assoc]
    rfl
  rw [hdef, signature?, List.dropWhile_append_of_pos h, List.takeWhile_append_of_pos h,
    List.takeWhile_cons_of_neg (by decide), List.append_nil, String.ofList_toList]
  rfl

/-- A line that starts with another word than `def` starts no definition. -/
theorem signature?_eq_none {text : List Char} (h : text.takeWhile isWordChar ≠ ['d', 'e', 'f']) :
    signature? text = none := by
  unfold signature?
  split
  · exact absurd rfl h
  · rfl

/-- A line that starts with a name starts no definition. -/
theorem signature?_of_name {word : String} (h : IsName word) {c : Char}
    (hc : isWordChar c = false) (rest : List Char) :
    signature? (word.toList ++ c :: rest) = none := by
  refine signature?_eq_none ?_
  rw [List.takeWhile_append_of_pos h.chars, List.takeWhile_cons_of_neg (by simp [hc]),
    List.append_nil]
  intro hchars
  have hword : word = "def" := by
    rw [← String.ofList_toList (s := word), hchars]
  have hfree := h.free
  rw [hword] at hfree
  cases hfree

end TypedJson.Script
