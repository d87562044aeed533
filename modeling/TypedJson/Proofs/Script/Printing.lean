import TypedJson.Code.Literal
import TypedJson.Proofs.Script.Reader

/-!
# Reading what was written

The expressions that conversions are composed of are names, literals, displays, attributes, calls and
lambdas. `Expr.chars` writes them as the generator does, and `read?_chars` says that the reader gives
each of them back.
-/

namespace TypedJson.Script

/-! ## Written forms -/

/-- Items with a separator between each and the next. -/
def separated {α : Type} (separator : List α) : List (List α) → List α
  | [] => []
  | [only] => only
  | first :: rest => first ++ separator ++ separated separator rest

/-- Items with a separator between them are the items joined by it. -/
theorem separated_eq_intercalate {α : Type} (separator : List α) (items : List (List α)) :
    separated separator items = separator.intercalate items := by
  induction items with
  | nil => rfl
  | cons first items ih =>
      cases items with
      | nil => exact List.intercalate_singleton.symm
      | cons second items =>
          rw [List.intercalate_cons_cons, ← ih]
          rfl

mutual
/-- The text of an expression. A literal is marked as the version of the language asks. -/
def Expr.chars (marked : Bool) : Expr → List Char
  | .name word => word.toList
  | .text value => Code.literalChars marked value.toList
  | .tuple items => '(' :: separated [',', ' '] (itemChars marked items) ++ [')']
  | .list items => '[' :: separated [',', ' '] (itemChars marked items) ++ [']']
  | .member object name => object.chars marked ++ '.' :: name.toList
  | .call callee arguments =>
    callee.chars marked ++ '(' :: separated [',', ' '] (itemChars marked arguments) ++ [')']
  | .lambda parameter body =>
    "lambda".toList ++ ' ' :: (parameter.toList ++ ':' :: ' ' :: body.chars marked)
  | _ => []

/-- The texts of items. -/
def itemChars (marked : Bool) : List Expr → List (List Char)
  | [] => []
  | item :: rest => item.chars marked :: itemChars marked rest
end

mutual
/-- The tokens of an expression. -/
def Expr.tokens : Expr → List Token
  | .name word => [.word word]
  | .text value => [.text value]
  | .tuple items => .mark '(' :: separated [.mark ','] (itemTokens items) ++ [.mark ')']
  | .list items => .mark '[' :: separated [.mark ','] (itemTokens items) ++ [.mark ']']
  | .member object name => object.tokens ++ [.mark '.', .word name]
  | .call callee arguments =>
    callee.tokens ++ .mark '(' :: separated [.mark ','] (itemTokens arguments) ++ [.mark ')']
  | .lambda parameter body => .key "lambda" :: .word parameter :: .mark ':' :: body.tokens
  | _ => []

/-- The tokens of items. -/
def itemTokens : List Expr → List (List Token)
  | [] => []
  | item :: rest => item.tokens :: itemTokens rest
end

/-- The word is a name: a run of word characters that starts with no digit and is not reserved. -/
structure IsName (word : String) : Prop where
  chars : ∀ c ∈ word.toList, isWordChar c
  start : ∃ c rest, word.toList = c :: rest ∧ c.isDigit = false
  free : reserved.contains word = false

/-- A word that is known by its characters is a name if they are those of one. -/
theorem isName_of_chars {word : String} {c : Char} {rest : List Char}
    (hword : word.toList = c :: rest) (hdigit : c.isDigit = false)
    (hchars : word.toList.all isWordChar) (hfree : reserved.contains word = false) : IsName word :=
  ⟨List.all_eq_true.1 hchars, ⟨c, rest, hword, hdigit⟩, hfree⟩

/-- Attributes and calls may stand right behind the expression. -/
def Expr.isOperand : Expr → Bool
  | .lambda _ _ => false
  | _ => true

/-- The expression is of the kinds that conversions are composed of. -/
inductive Expr.Printable : Expr → Prop where
  | name {word : String} : IsName word → Printable (.name word)
  | text (value : String) : Printable (.text value)
  | tuple {first second : Expr} {rest : List Expr} :
      (∀ e ∈ first :: second :: rest, Printable e) → Printable (.tuple (first :: second :: rest))
  | list {items : List Expr} : (∀ e ∈ items, Printable e) → Printable (.list items)
  | member {object : Expr} {name : String} :
      Printable object → object.isOperand → IsName name → Printable (.member object name)
  | call {callee : Expr} {arguments : List Expr} :
      Printable callee → callee.isOperand → (∀ e ∈ arguments, Printable e) →
      Printable (.call callee arguments)
  | lambda {parameter : String} {body : Expr} :
      IsName parameter → Printable body → Printable (.lambda parameter body)

/-! ## Tokens of a text -/

/-- The text behind a token does not go on with it. -/
def Stops (rest : List Char) : Prop :=
  ∀ c ∈ rest.head?, isWordChar c = false ∧ isQuote c = false

/-- The text has the given tokens, whatever stands behind it. -/
def Lexes (text : List Char) (tokens : List Token) : Prop :=
  ∀ rest, Stops rest → tokens? (text ++ rest) = (tokens? rest).map (tokens ++ ·)

/-- The tokens of a text end with its first character or with one behind it. -/
theorem tokensFrom_cons (mode : Mode) (c : Char) (rest : List Char) :
    tokensFrom mode (c :: rest) =
      (readChar mode c).bind fun next => (tokensFrom next.2 rest).map (next.1 ++ ·) := by
  cases mode <;> rw [tokensFrom] <;> cases readChar _ c <;> rfl

/-- The rest of a word is read to its end. -/
theorem tokensFrom_word {rest : List Char} (hstop : Stops rest) (read : List Char)
    {word : List Char} (hword : ∀ c ∈ word, isWordChar c) :
    tokensFrom (.word read) (word ++ rest) =
      (tokens? rest).map (.ofWord (String.ofList (read ++ word)) :: ·) := by
  induction word generalizing read with
  | nil =>
      rw [List.nil_append, List.append_nil]
      cases rest with
      | nil => rfl
      | cons c rest =>
          obtain ⟨hc, hquote⟩ := hstop c rfl
          unfold tokens? tokensFrom readChar
          simp only [hc, hquote, Bool.false_eq_true, if_false]
          cases startToken c with
          | none => rfl
          | some next => cases h : tokensFrom next.2 rest <;> simp [h]
  | cons c word ih =>
      rw [List.forall_mem_cons] at hword
      rw [List.cons_append, tokensFrom_cons]
      simp only [readChar, hword.1, if_true, Option.bind_some]
      rw [ih (read ++ [c]) hword.2, List.append_assoc, List.singleton_append]
      simp only [List.nil_append, Option.map_id']

/-- A run of word characters that starts with no digit is one token. -/
theorem lexes_word {word : String} (hchars : ∀ c ∈ word.toList, isWordChar c)
    (hstart : ∃ c rest, word.toList = c :: rest ∧ c.isDigit = false) :
    Lexes word.toList [.ofWord word] := by
  intro rest hstop
  obtain ⟨c, tail, hword, hdigit⟩ := hstart
  rw [hword, List.forall_mem_cons] at hchars
  have hspace : c ≠ ' ' := by
    rintro rfl
    exact absurd hchars.1 (by decide)
  rw [hword, List.cons_append, tokens?, tokensFrom_cons]
  simp only [readChar, startToken, hspace, hdigit, hchars.1, if_false, if_true, Bool.false_eq_true,
    Option.bind_some]
  rw [tokensFrom_word hstop [c] hchars.2, List.singleton_append, ← hword, String.ofList_toList]
  simp only [List.nil_append, Option.map_id']
  rfl

/-- A name is one token. -/
theorem lexes_name {word : String} (h : IsName word) : Lexes word.toList [.word word] := by
  have hword := lexes_word h.chars h.start
  rwa [Token.ofWord, h.free] at hword

/-- A mark is one token, and the text behind it is read for itself. -/
theorem Lexes.mark {c : Char} (hc : isMark c) {text : List Char} {tokens : List Token}
    (h : Lexes text tokens) : Lexes (c :: text) (.mark c :: tokens) := by
  intro rest hstop
  have hstart : startToken c = some ([.mark c], .blank) := by
    simp only [isMark, List.contains_iff_mem, List.mem_cons, List.not_mem_nil, or_false] at hc
    rcases hc with rfl | rfl | rfl | rfl | rfl | rfl | rfl | rfl | rfl | rfl <;> rfl
  rw [List.cons_append, tokens?, tokensFrom_cons, readChar, hstart]
  show (tokens? (text ++ rest)).map _ = _
  rw [h rest hstop, Option.map_map]
  rfl

/-- A space is no token. -/
theorem Lexes.space {text : List Char} {tokens : List Token} (h : Lexes text tokens) :
    Lexes (' ' :: text) tokens := by
  intro rest hstop
  show (tokens? (text ++ rest)).map ([] ++ ·) = _
  simp only [List.nil_append, Option.map_id']
  exact h rest hstop

/-- No text has no tokens. -/
theorem lexes_nil : Lexes [] [] := by
  intro rest _
  simp only [List.nil_append, Option.map_id']

/-- The text starts with a character that no token goes on with. -/
def Separates (text : List Char) : Prop :=
  ∃ c rest, text = c :: rest ∧ isWordChar c = false ∧ isQuote c = false

/-- A text behind another one keeps its tokens, if no token goes on with it. -/
theorem Lexes.append {front back : List Char} {ts us : List Token} (h : Lexes front ts)
    (hback : Separates back) (h' : Lexes back us) : Lexes (front ++ back) (ts ++ us) := by
  intro rest hstop
  obtain ⟨c, tail, rfl, hc⟩ := hback
  have hnext : Stops (c :: tail ++ rest) := by
    rintro d ⟨⟩
    exact hc
  rw [List.append_assoc, h _ hnext, h' rest hstop, Option.map_map]
  simp only [Function.comp_def, List.append_assoc]

/-! ## Literals -/

/-- The value of hexadecimal digits behind others of the value `v`. -/
def hexFrom? (v : Nat) (digits : List Char) : Option Nat :=
  digits.foldlM (fun v c => (hexValue? c).map (16 * v + ·)) v

/-- The digits of a number read as that number. -/
theorem hexFrom?_toDigits (n : Nat) : hexFrom? 0 (Nat.toDigits 16 n) = some n := by
  have hdigit : ∀ d < 16, hexValue? (Nat.digitChar d) = some d := by decide
  induction n using Nat.strongRecOn with
  | ind n ih =>
      rw [Nat.toDigits_eq_if (by decide)]
      split
      next h =>
          show (hexValue? (Nat.digitChar n)).map (16 * 0 + ·) >>= some = some n
          rw [hdigit n h]
          simp
      next h =>
          unfold hexFrom? at ih ⊢
          rw [List.foldlM_append, ih (n / 16) (by omega)]
          show (hexValue? (Nat.digitChar (n % 16))).map (16 * (n / 16) + ·) >>= some = some n
          rw [hdigit _ (Nat.mod_lt _ (by decide))]
          show some (16 * (n / 16) + n % 16) = some n
          rw [Nat.div_add_mod]

/-- Digits of a fixed width read as their number. -/
theorem hexFrom?_hexDigits (width n : Nat) :
    hexFrom? 0 (Code.hexDigits width n) = some n := by
  have hzeros : ∀ k, hexFrom? 0 (List.replicate k '0') = some 0 := by
    intro k
    induction k with
    | zero => rfl
    | succ k ih => exact ih
  have hdigits := hexFrom?_toDigits n
  have hpad := hzeros (width - (Nat.toDigits 16 n).length)
  unfold hexFrom? at hdigits hpad ⊢
  rw [Code.hexDigits, List.foldlM_append, hpad]
  exact hdigits

/-- A number that fits has exactly as many digits as asked for. -/
theorem length_hexDigits {width n : Nat} (hwidth : 0 < width) (h : n < Nat.pow 16 width) :
    (Code.hexDigits width n).length = width := by
  have hfits := (Nat.length_toDigits_le_iff (by decide) hwidth).2 h
  rw [Code.hexDigits, List.length_append, List.length_replicate]
  omega

/-- The digits of an escape give one character. -/
theorem tokensFrom_coded (quote : Char) (read : List Char) {digits rest : List Char} {v n : Nat}
    (hne : digits ≠ []) (h : hexFrom? v digits = some n) :
    tokensFrom (.coded quote read digits.length v) (digits ++ rest) =
      tokensFrom (.quoted quote (read ++ [Char.ofNat n])) rest := by
  induction digits generalizing v with
  | nil => exact absurd rfl hne
  | cons c digits ih =>
      unfold hexFrom? at h
      rw [List.foldlM_cons] at h
      obtain ⟨w, hw, htail⟩ := Option.bind_eq_some_iff.1 h
      obtain ⟨d, hd, rfl⟩ := Option.map_eq_some_iff.1 hw
      rw [List.length_cons, List.cons_append, tokensFrom_cons]
      cases digits with
      | nil =>
          cases htail
          simp [readChar, hd]
      | cons c' digits =>
          have hlength : (c' :: digits).length + 1 ≠ 1 := by simp
          rw [← ih (by simp) htail]
          simp [readChar, hd]

/-- An escape of hexadecimal digits gives the character of their value. -/
theorem tokensFrom_hexDigits {mark : Char} {width n : Nat} (hwidth : 0 < width)
    (hmode : ∀ read, escapedMode '"' read mark = some (.coded '"' read width 0))
    (h : n < Nat.pow 16 width) (read rest : List Char) :
    tokensFrom (.quoted '"' read) ('\\' :: mark :: Code.hexDigits width n ++ rest) =
      tokensFrom (.quoted '"' (read ++ [Char.ofNat n])) rest := by
  have hlength := length_hexDigits hwidth h
  have hne : Code.hexDigits width n ≠ [] := by
    intro hnil
    rw [hnil] at hlength
    exact absurd hlength (Nat.ne_of_lt hwidth)
  rw [← tokensFrom_coded '"' read hne (hexFrom?_hexDigits width n), hlength]
  simp only [List.cons_append, tokensFrom_cons]
  simp [readChar, hmode, Function.comp_def]

/-- A character of a literal is read as itself. -/
theorem tokensFrom_literalChar (c : Char) (read rest : List Char) :
    tokensFrom (.quoted '"' read) (Code.literalChar c ++ rest) =
      tokensFrom (.quoted '"' (read ++ [c])) rest := by
  -- A character that stands for itself is neither the quote nor a backslash nor an end of line.
  have hplain (h : c ≠ '\\') (hquote : c ≠ '"') (hline : c ≠ '\n') (hreturn : c ≠ '\r') :
      tokensFrom (.quoted '"' read) ([c] ++ rest) = tokensFrom (.quoted '"' (read ++ [c])) rest := by
    rw [List.singleton_append, tokensFrom_cons]
    simp [readChar, h, hquote, hline, hreturn]
  have hescape (mark : Char) (hmode : escapedMode '"' read mark = some (.quoted '"' (read ++ [c]))) :
      tokensFrom (.quoted '"' read) (['\\', mark] ++ rest) =
        tokensFrom (.quoted '"' (read ++ [c])) rest := by
    simp only [List.cons_append, List.nil_append, tokensFrom_cons]
    simp [readChar, hmode, Function.comp_def]
  have hcode (mark : Char) (width : Nat) (hwidth : 0 < width)
      (hmode : ∀ read, escapedMode '"' read mark = some (.coded '"' read width 0))
      (h : c.toNat < Nat.pow 16 width) :
      tokensFrom (.quoted '"' read) ('\\' :: mark :: Code.hexDigits width c.toNat ++ rest) =
        tokensFrom (.quoted '"' (read ++ [c])) rest := by
    rw [tokensFrom_hexDigits hwidth hmode h, Char.ofNat_toNat]
  unfold Code.literalChar
  split
  next h =>
    subst h
    exact hescape _ rfl
  split
  next h =>
    subst h
    exact hescape _ rfl
  split
  next h =>
    subst h
    exact hescape _ rfl
  split
  next h =>
    subst h
    exact hescape _ rfl
  split
  next h =>
    subst h
    exact hescape _ rfl
  split
  next h => exact hcode 'x' 2 (by decide) (fun _ => rfl) (by show c.toNat < 256; omega)
  split
  next h => exact hplain ‹_› ‹_› ‹_› ‹_›
  split
  next h => exact hcode 'u' 4 (by decide) (fun _ => rfl) (by show c.toNat < 65536; omega)
  next h =>
    refine hcode 'U' 8 (by decide) (fun _ => rfl) ?_
    show c.toNat < 4294967296
    exact c.val.toNat_lt

/-- A literal is one token, which holds its text. -/
theorem lexes_literal (marked : Bool) (s : String) :
    Lexes (Code.literalChars marked s.toList) [.text s] := by
  have hquoted (cs read rest : List Char) :
      tokensFrom (.quoted '"' read) (cs.flatMap Code.literalChar ++ '"' :: rest) =
        (tokens? rest).map (.text (String.ofList (read ++ cs)) :: ·) := by
    induction cs generalizing read with
    | nil =>
        rw [List.append_nil]
        rfl
    | cons c cs ih =>
        rw [List.flatMap_cons, List.append_assoc, tokensFrom_literalChar, ih, List.append_assoc,
          List.singleton_append]
  have hopen (rest : List Char) :
      tokensFrom (.quoted '"' []) (s.toList.flatMap Code.literalChar ++ ['"'] ++ rest) =
        (tokens? rest).map (.text s :: ·) := by
    rw [List.append_assoc, List.singleton_append, hquoted, List.nil_append, String.ofList_toList]
  intro rest _
  unfold Code.literalChars
  split
  · show ((tokensFrom (.quoted '"' []) _).map ([] ++ ·)).map ([] ++ ·) = _
    simp only [List.nil_append, Option.map_id']
    exact hopen rest
  · show (tokensFrom (.quoted '"' []) _).map ([] ++ ·) = _
    simp only [List.nil_append, Option.map_id']
    exact hopen rest

/-! ## Tokens of an expression -/

/-- A text that starts with a mark separates. -/
theorem separates_mark {c : Char} (hc : isWordChar c = false) (hquote : isQuote c = false)
    (text : List Char) : Separates (c :: text) :=
  ⟨c, text, rfl, hc, hquote⟩

/-- The texts of items, with commas between them, have the tokens of the items. -/
theorem lexes_items {marked : Bool} {items : List Expr}
    (h : ∀ e ∈ items, Lexes (e.chars marked) e.tokens) :
    Lexes (separated [',', ' '] (itemChars marked items))
      (separated [.mark ','] (itemTokens items)) := by
  induction items with
  | nil => exact lexes_nil
  | cons e items ih =>
      rw [List.forall_mem_cons] at h
      cases items with
      | nil => exact h.1
      | cons e' items =>
          show Lexes (e.chars marked ++ [',', ' '] ++ _) (e.tokens ++ [.mark ','] ++ _)
          rw [List.append_assoc, List.append_assoc]
          exact h.1.append (separates_mark rfl rfl _) (.mark rfl (.space (ih h.2)))

/-- A reserved word in front of a text is one token. -/
theorem lexes_key {word : String} {c : Char} {rest text : List Char} {tokens : List Token}
    (hword : word.toList = c :: rest) (hdigit : c.isDigit = false)
    (hchars : word.toList.all isWordChar) (hkey : reserved.contains word) (h : Lexes text tokens) :
    Lexes (word.toList ++ ' ' :: text) (.key word :: tokens) := by
  have hfirst := lexes_word (List.all_eq_true.1 hchars) ⟨c, rest, hword, hdigit⟩
  rw [Token.ofWord, hkey] at hfirst
  exact hfirst.append (separates_mark rfl rfl _) h.space

/-- The text of an expression has the tokens of the expression. -/
theorem Expr.Printable.lexes {e : Expr} (h : e.Printable) (marked : Bool) :
    Lexes (e.chars marked) e.tokens := by
  induction h with
  | name hname => exact lexes_name hname
  | text value => exact lexes_literal marked value
  | tuple _ ih =>
      exact .mark rfl ((lexes_items ih).append (separates_mark rfl rfl _) (.mark rfl lexes_nil))
  | list _ ih =>
      exact .mark rfl ((lexes_items ih).append (separates_mark rfl rfl _) (.mark rfl lexes_nil))
  | member _ _ hname ih =>
      exact ih.append (separates_mark rfl rfl _) (.mark rfl (lexes_name hname))
  | call _ _ _ ih ihs =>
      unfold Expr.chars Expr.tokens
      rw [List.append_assoc, List.append_assoc]
      exact ih.append (separates_mark rfl rfl _)
        (.mark rfl ((lexes_items ihs).append (separates_mark rfl rfl _) (.mark rfl lexes_nil)))
  | lambda hname _ ih =>
      exact lexes_key rfl rfl rfl rfl ((lexes_name hname).append (separates_mark rfl rfl _)
        (.mark rfl (.space ih)))

/-! ## Expressions of tokens -/

/-- The tokens behind an expression do not go on with it. -/
def Ends (rest : List Token) : Prop :=
  rest = [] ∨ ∃ c tail, rest = .mark c :: tail ∧ (c = ')' ∨ c = ']' ∨ c = ',' ∨ c = ':')

/-- The expression is read from its tokens as an operand, up to what stands behind them. -/
def ReadsOperand (e : Expr) : Prop :=
  ∀ n rest, 6 * e.tokens.length ≤ n + 2 →
    ∃ m, n ≤ m + 6 * e.tokens.length ∧ operand? n (e.tokens ++ rest) = trailers? m e rest

/-- The expression is read from its tokens. -/
def Reads (e : Expr) : Prop :=
  ∀ n rest, Ends rest → 6 * e.tokens.length ≤ n →
    expr? n (e.tokens ++ rest) = some (e, rest)

/-- No attribute and no call follow at the end of an expression. -/
theorem trailers?_of_ends {rest : List Token} (h : Ends rest) (n : Nat) (e : Expr) :
    trailers? n e rest = some (e, rest) := by
  rcases h with rfl | ⟨c, tail, rfl, rfl | rfl | rfl | rfl⟩ <;> cases n <;> rfl

/-- The first token of an expression closes nothing, and that of an operand is no reserved word. -/
theorem Expr.Printable.first_token {e : Expr} (h : e.Printable) :
    ∃ t tail, e.tokens = t :: tail ∧ (t ≠ .mark ')' ∧ t ≠ .mark ']') ∧
      (e.isOperand → ∀ word, t ≠ .key word) := by
  induction h with
  | name _ => exact ⟨_, _, rfl, by simp⟩
  | text _ => exact ⟨_, _, rfl, by simp⟩
  | tuple _ _ => exact ⟨_, _, rfl, by simp⟩
  | list _ _ => exact ⟨_, _, rfl, by simp⟩
  | member _ hobject _ ih =>
      obtain ⟨t, tail, ht, hclose, hkey⟩ := ih
      exact ⟨t, _, by rw [Expr.tokens, ht]; rfl, hclose, fun _ => hkey hobject⟩
  | call _ hcallee _ ih _ =>
      obtain ⟨t, tail, ht, hclose, hkey⟩ := ih
      exact ⟨t, _, by rw [Expr.tokens, ht]; rfl, hclose, fun _ => hkey hcallee⟩
  | lambda _ _ _ => exact ⟨_, _, rfl, by simp [Expr.isOperand]⟩

/-- An operand that ends is an expression. -/
theorem Expr.Printable.reads_of_operand {e : Expr} (h : e.Printable) (ho : e.isOperand)
    (hread : ReadsOperand e) : Reads e := by
  intro n rest hends hn
  obtain ⟨t, tail, ht, -, hkey⟩ := h.first_token
  have hpos : 0 < e.tokens.length := by
    rw [ht]
    exact Nat.succ_pos _
  obtain ⟨n, rfl⟩ : ∃ k, n = k + 2 := ⟨n - 2, by omega⟩
  obtain ⟨m, -, hm⟩ := hread n rest (by omega)
  rw [trailers?_of_ends hends] at hm
  rw [ht, List.cons_append] at hm ⊢
  have htest : test? (n + 1) (t :: (tail ++ rest)) = some (e, rest) := by
    rw [test?, hm]
    · rcases hends with rfl | ⟨c, tail, rfl, rfl | rfl | rfl | rfl⟩ <;> rfl
    · rintro _ ⟨⟩
      exact hkey ho _ rfl
  rw [expr?, htest]
  · rcases hends with rfl | ⟨c, tail, rfl, rfl | rfl | rfl | rfl⟩ <;> rfl
  · intro _ _ hlambda
    exact hkey ho _ (List.cons.inj hlambda).1

/-- Items are read from their tokens up to the closing mark. -/
theorem items?_tokens {close : Char} (hclose : close = ')' ∨ close = ']') {items : List Expr}
    (hprint : ∀ e ∈ items, e.Printable) (h : ∀ e ∈ items, Reads e) (rest : List Token) {n : Nat}
    (hn : 6 * (separated [.mark ','] (itemTokens items)).length + 1 ≤ n) :
    items? n close (separated [.mark ','] (itemTokens items) ++ .mark close :: rest) =
      some (items, rest) := by
  induction items generalizing n with
  | nil =>
      obtain ⟨n, rfl⟩ : ∃ k, n = k + 1 := ⟨n - 1, by omega⟩
      unfold items?
      simp [separated, itemTokens]
  | cons e items ih =>
      rw [List.forall_mem_cons] at h hprint
      obtain ⟨n, rfl⟩ : ∃ k, n = k + 1 := ⟨n - 1, by omega⟩
      -- No item starts with the closing mark, so that an item is read and not the end.
      have hhead (more : List Token) : (e.tokens ++ more).head? ≠ some (.mark close) := by
        obtain ⟨t, tail, ht, ⟨hparen, hbracket⟩, -⟩ := hprint.1.first_token
        rw [ht]
        rcases hclose with rfl | rfl <;> simpa
      cases items with
      | nil =>
          have hends : Ends (.mark close :: rest) :=
            .inr ⟨close, rest, rfl, by rcases hclose with rfl | rfl <;> simp⟩
          have hlength : (separated [.mark ','] (itemTokens [e])).length = e.tokens.length := rfl
          show items? (n + 1) close (e.tokens ++ .mark close :: rest) = _
          rw [items?, if_neg (hhead _), h.1 n _ hends (by omega)]
          rcases hclose with rfl | rfl <;> rfl
      | cons e' items =>
          have hlength : (separated [.mark ','] (itemTokens (e :: e' :: items))).length =
              e.tokens.length + 1 +
                (separated [.mark ','] (itemTokens (e' :: items))).length := by
            show (e.tokens ++ [Token.mark ','] ++
              separated _ (itemTokens (e' :: items))).length = _
            rw [List.length_append, List.length_append]
            rfl
          show items? (n + 1) close (e.tokens ++ [Token.mark ','] ++
            separated [.mark ','] (itemTokens (e' :: items)) ++ .mark close :: rest) = _
          rw [List.append_assoc, List.append_assoc, List.singleton_append, items?,
            if_neg (hhead _), h.1 n _ (.inr ⟨',', _, rfl, by simp⟩) (by omega)]
          show (items? n close (separated [.mark ','] (itemTokens (e' :: items)) ++
            .mark close :: rest) >>= _) = _
          rw [ih hprint.2 h.2 (by omega)]
          rfl

/-- A tuple is read from its tokens if its items are. -/
theorem readsOperand_tuple {first second : Expr} {more : List Expr}
    (hitems : ∀ e ∈ first :: second :: more, e.Printable)
    (hreads : ∀ e ∈ first :: second :: more, Reads e) :
    ReadsOperand (.tuple (first :: second :: more)) := by
  intro n rest hn
  have htokens : (Expr.tuple (first :: second :: more)).tokens = .mark '(' :: (first.tokens ++
      .mark ',' :: (separated [.mark ','] (itemTokens (second :: more)) ++ [.mark ')'])) := by
    simp [Expr.tokens, itemTokens, separated]
  have hlength := congrArg List.length htokens
  simp only [List.length_cons, List.length_append, List.length_nil] at hlength
  obtain ⟨n, rfl⟩ : ∃ k, n = k + 1 := ⟨n - 1, by omega⟩
  rw [List.forall_mem_cons] at hitems hreads
  refine ⟨n, by omega, ?_⟩
  rw [htokens, List.cons_append, operand?, List.append_assoc, List.cons_append,
    List.append_assoc, List.singleton_append,
    hreads.1 n _ (.inr ⟨',', _, rfl, by simp⟩) (by omega)]
  show (items? n ')' _ >>= _) = _
  rw [items?_tokens (.inl rfl) hitems.2 hreads.2 rest (by omega)]
  rfl

/-- So is a list, be it empty or not. -/
theorem readsOperand_list {items : List Expr} (hitems : ∀ e ∈ items, e.Printable)
    (hreads : ∀ e ∈ items, Reads e) : ReadsOperand (.list items) := by
  intro n rest hn
  cases items with
  | nil =>
      have hn : 12 ≤ n + 2 := hn
      obtain ⟨n, rfl⟩ : ∃ k, n = k + 1 := ⟨n - 1, by omega⟩
      exact ⟨n, by show n + 1 ≤ n + 12; omega, rfl⟩
  | cons first more =>
      rw [List.forall_mem_cons] at hitems hreads
      -- The first item does not start with the bracket that would close an empty list.
      obtain ⟨t, tail, ht, ⟨-, hbracket⟩, -⟩ := hitems.1.first_token
      have hfirst (rest behind : List Token) :
          first.tokens ++ behind = .mark ']' :: rest → False := by
        rw [ht]
        exact fun h => hbracket (List.cons.inj h).1
      cases more with
      | nil =>
          have hlength : (Expr.list [first]).tokens.length = first.tokens.length + 2 := by
            show (.mark '[' :: first.tokens ++ [Token.mark ']']).length = _
            rw [List.length_append]
            rfl
          obtain ⟨n, rfl⟩ : ∃ k, n = k + 1 := ⟨n - 1, by omega⟩
          refine ⟨n, by omega, ?_⟩
          show operand? (n + 1) (.mark '[' :: (first.tokens ++ [.mark ']'] ++ rest)) = _
          rw [List.append_assoc, List.singleton_append, operand?,
            hreads.1 n _ (.inr ⟨']', _, rfl, by simp⟩) (by omega)]
          · rfl
          · exact fun rest => hfirst rest _
      | cons second more =>
          have htokens : (Expr.list (first :: second :: more)).tokens = .mark '[' ::
              (first.tokens ++ .mark ',' ::
                (separated [.mark ','] (itemTokens (second :: more)) ++ [.mark ']'])) := by
            simp [Expr.tokens, itemTokens, separated]
          have hlength := congrArg List.length htokens
          simp only [List.length_cons, List.length_append, List.length_nil] at hlength
          obtain ⟨n, rfl⟩ : ∃ k, n = k + 1 := ⟨n - 1, by omega⟩
          refine ⟨n, by omega, ?_⟩
          rw [htokens, List.cons_append, List.append_assoc, List.cons_append,
            List.append_assoc, List.singleton_append, operand?,
            hreads.1 n _ (.inr ⟨',', _, rfl, by simp⟩) (by omega)]
          · show (items? n ']' _ >>= _) = _
            rw [items?_tokens (.inr rfl) hitems.2 hreads.2 rest (by omega)]
            rfl
          · exact fun rest => hfirst rest _

/-- A member is read behind its object. -/
theorem readsOperand_member {object : Expr} (name : String) (hobject : ReadsOperand object) :
    ReadsOperand (.member object name) := by
  intro n rest hn
  have hlength : (object.member name).tokens.length = object.tokens.length + 2 := by
    rw [Expr.tokens, List.length_append]
    rfl
  obtain ⟨m, hm, hread⟩ := hobject n (.mark '.' :: .word name :: rest) (by omega)
  obtain ⟨m, rfl⟩ : ∃ k, m = k + 1 := ⟨m - 1, by omega⟩
  refine ⟨m, by omega, ?_⟩
  rw [Expr.tokens, List.append_assoc]
  exact hread

/-- A call is read behind its callee if its arguments are read. -/
theorem readsOperand_call {callee : Expr} {arguments : List Expr} (hcallee : ReadsOperand callee)
    (hitems : ∀ e ∈ arguments, e.Printable) (hreads : ∀ e ∈ arguments, Reads e) :
    ReadsOperand (.call callee arguments) := by
  intro n rest hn
  have hlength : (callee.call arguments).tokens.length = callee.tokens.length +
      (separated [.mark ','] (itemTokens arguments)).length + 2 := by
    simp only [Expr.tokens, List.length_append, List.length_cons, List.length_nil]
    omega
  obtain ⟨m, hm, hread⟩ := hcallee n (.mark '(' ::
    (separated [.mark ','] (itemTokens arguments) ++ .mark ')' :: rest)) (by omega)
  obtain ⟨m, rfl⟩ : ∃ k, m = k + 1 := ⟨m - 1, by omega⟩
  refine ⟨m, by omega, ?_⟩
  rw [Expr.tokens, List.append_assoc, List.append_assoc, List.cons_append,
    List.singleton_append, hread]
  show (items? m ')' _ >>= _) = _
  rw [items?_tokens (.inl rfl) hitems hreads rest (by omega)]
  rfl

/-- A lambda is read if its body is. -/
theorem reads_lambda {body : Expr} (parameter : String) (hbody : Reads body) :
    Reads (.lambda parameter body) := by
  intro n rest hends hn
  have hlength : (Expr.lambda parameter body).tokens.length = body.tokens.length + 3 := rfl
  obtain ⟨n, rfl⟩ : ∃ k, n = k + 1 := ⟨n - 1, by omega⟩
  show (expr? n (body.tokens ++ rest) >>= _) = _
  rw [hbody n rest hends (by omega)]
  rfl

/-- An expression is read from its tokens, and an operand also in front of calls and members. -/
theorem Expr.Printable.reads {e : Expr} (h : e.Printable) :
    Reads e ∧ (e.isOperand → ReadsOperand e) := by
  -- Operands are read as such, and an operand is an expression.
  have hoperand {e : Expr} (h : e.Printable) (ho : e.isOperand) (hread : ReadsOperand e) :
      Reads e ∧ (e.isOperand → ReadsOperand e) :=
    ⟨h.reads_of_operand ho hread, fun _ => hread⟩
  induction h with
  | @name word hname =>
      refine hoperand (.name hname) rfl fun n rest hn => ?_
      have hn : 6 ≤ n + 2 := hn
      obtain ⟨n, rfl⟩ : ∃ k, n = k + 1 := ⟨n - 1, by omega⟩
      exact ⟨n, by show n + 1 ≤ n + 6; omega, rfl⟩
  | text value =>
      refine hoperand (.text value) rfl fun n rest hn => ?_
      have hn : 6 ≤ n + 2 := hn
      obtain ⟨n, rfl⟩ : ∃ k, n = k + 1 := ⟨n - 1, by omega⟩
      exact ⟨n, by show n + 1 ≤ n + 6; omega, rfl⟩
  | tuple hitems ih =>
      exact hoperand (.tuple hitems) rfl (readsOperand_tuple hitems fun e he => (ih e he).1)
  | list hitems ih =>
      exact hoperand (.list hitems) rfl (readsOperand_list hitems fun e he => (ih e he).1)
  | member hobject ho hname ih =>
      exact hoperand (.member hobject ho hname) rfl (readsOperand_member _ (ih.2 ho))
  | call hcallee ho hitems ih ihs =>
      exact hoperand (.call hcallee ho hitems) rfl
        (readsOperand_call (ih.2 ho) hitems fun e he => (ihs e he).1)
  | lambda hname hbody ih => exact ⟨reads_lambda _ ih.1, fun ho => by cases ho⟩

/-! ## The text of an expression -/

/-- A text has its tokens when nothing stands behind it. -/
theorem Lexes.tokens? {text : List Char} {tokens : List Token} (h : Lexes text tokens) :
    Script.tokens? text = some tokens := by
  have hend := h [] (by rintro c ⟨⟩)
  rw [List.append_nil] at hend
  rw [hend]
  exact congrArg some (List.append_nil _)

/-- The reading of tokens gives an expression back. -/
theorem Expr.Printable.exprOf?_tokens {e : Expr} (h : e.Printable) :
    exprOf? e.tokens = some e := by
  have hread := h.reads.1 (readingDepth e.tokens) [] (.inl rfl) (by unfold readingDepth; omega)
  rw [List.append_nil] at hread
  rw [exprOf?, hread]

/-- The text of an expression has its tokens. -/
theorem Expr.Printable.tokens?_chars {e : Expr} (h : e.Printable) (marked : Bool) :
    tokens? (e.chars marked) = some e.tokens :=
  (h.lexes marked).tokens?

/-- The reader gives a written expression back. -/
theorem Expr.Printable.read?_chars {e : Expr} (h : e.Printable) (marked : Bool) :
    Expr.read? (String.ofList (e.chars marked)) = some e := by
  rw [Expr.read?, String.toList_ofList, h.tokens?_chars marked]
  exact h.exprOf?_tokens

example : (Expr.read? "lambda x: from_list(f, x)").map (·.chars false)
    = some "lambda x: from_list(f, x)".toList := by decide +kernel

/-- Expressions that are written alike are the same. -/
theorem Expr.Printable.eq_of_chars {e e' : Expr} {marked : Bool} (h : e.Printable)
    (h' : e'.Printable) (heq : e.chars marked = e'.chars marked) : e = e' := by
  have hread := h.read?_chars marked
  rw [heq, h'.read?_chars marked] at hread
  exact (Option.some.inj hread).symm

end TypedJson.Script
