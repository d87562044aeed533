import TypedJson.Proofs.Script.Literals

/-!
# Bare words of a line

What a line refers to stands in it as bare words: words outside of literals and comments that are
no attributes. Reading is an automaton over the characters of the line. A text of words of a
vocabulary, of marks and literals is read with no other bare words (`Spelled.bareWords`), and so
are such texts one behind the other, provided that no word goes on where they meet.
-/

namespace TypedJson.Script

open Code

/-! ## Reading -/

/-- What is being read. -/
inductive Reading where
  /-- Code, behind the given start of a word, which is an attribute if it is behind a dot. -/
  | code (dotted : Bool) (read : List Char)
  /-- A literal. -/
  | quoted (quote : Char)
  /-- A literal, behind a backslash. -/
  | escaped (quote : Char)
  | comment
  deriving DecidableEq, Repr

namespace Reading

/-- Code between words. -/
def start : Reading :=
  .code false []

/-- The bare word that ends here, if there is one. -/
def word : Reading → List String
  | .code false (c :: cs) => [String.ofList (c :: cs)]
  | _ => []

/-- Read one character: the bare words that end with it, and how reading goes on. A word `u` in
front of a literal is part of the literal. -/
def next : Reading → Char → List String × Reading
  | .code dotted read, c =>
    let ended := (Reading.code dotted read).word
    if isWordChar c then ([], .code dotted (read ++ [c]))
    else if isQuote c then (if read = ['u'] then [] else ended, .quoted c)
    else if c = '#' then (ended, .comment)
    else (ended, .code (c == '.') [])
  | .quoted quote, c =>
    ([], if c = quote then start else if c = '\\' then .escaped quote else .quoted quote)
  | .escaped quote, _ => ([], .quoted quote)
  | .comment, _ => ([], .comment)

/-- Read a text: the bare words that end in it, and how reading goes on. -/
def run (reading : Reading) : List Char → List String × Reading
  | [] => ([], reading)
  | c :: rest =>
    let (ended, following) := reading.next c
    let (words, last) := following.run rest
    (ended ++ words, last)

end Reading

/-- The bare words of a line. -/
def bareWords (line : List Char) : List String :=
  let (words, last) := Reading.start.run line
  words ++ last.word

namespace Reading

variable {front back text : List Char}

/-- A text is read from its first character on. -/
theorem run_cons (reading : Reading) (c : Char) (rest : List Char) :
    reading.run (c :: rest) = ((reading.next c).1 ++ ((reading.next c).2.run rest).1,
      ((reading.next c).2.run rest).2) :=
  rfl

/-- A text behind another one is read where that left off. -/
theorem run_append (reading : Reading) (front back : List Char) :
    reading.run (front ++ back) = ((reading.run front).1 ++ ((reading.run front).2.run back).1,
      ((reading.run front).2.run back).2) := by
  induction front generalizing reading with
  | nil => rfl
  | cons c front ih => simp only [List.cons_append, run, ih, List.append_assoc]

/-- Characters of words go on with the word. -/
theorem run_word (dotted : Bool) (read : List Char) (h : ∀ c ∈ text, isWordChar c) :
    (Reading.code dotted read).run text = ([], .code dotted (read ++ text)) := by
  induction text generalizing read with
  | nil => rw [run, List.append_nil]
  | cons c text ih =>
      rw [List.forall_mem_cons] at h
      simp only [run, next, h.1, if_true, ih _ h.2, List.append_assoc, List.singleton_append,
        List.nil_append]

/-- Without quotes and comments, reading stays in code. -/
theorem run_code (dotted : Bool) (read : List Char)
    (h : ∀ c ∈ text, isQuote c = false ∧ c ≠ '#') :
    ∃ dotted' read', ((Reading.code dotted read).run text).2 = .code dotted' read' := by
  induction text generalizing dotted read with
  | nil => exact ⟨_, _, rfl⟩
  | cons c text ih =>
      obtain ⟨⟨hquote, hcomment⟩, htext⟩ := List.forall_mem_cons.1 h
      simp only [run, next, hquote, hcomment, if_false, Bool.false_eq_true]
      split
      · exact ih _ _ htext
      · exact ih _ _ htext

/-- A comment is read to its end. -/
theorem run_comment (text : List Char) : Reading.comment.run text = ([], .comment) := by
  induction text with
  | nil => rfl
  | cons c text ih => simp only [run, next, ih, List.nil_append]

/-- Characters other than the quote and backslashes stay in a literal. -/
theorem run_quoted {quote : Char} (h : ∀ c ∈ text, c ≠ quote ∧ c ≠ '\\') :
    (Reading.quoted quote).run text = ([], .quoted quote) := by
  induction text with
  | nil => rfl
  | cons c text ih =>
      obtain ⟨⟨hquote, hback⟩, htext⟩ := List.forall_mem_cons.1 h
      simp only [run, next, hquote, hback, if_false, ih htext, List.nil_append]

/-- So does a character as it is written there. -/
theorem run_literalChar (c : Char) :
    (Reading.quoted '"').run (literalChar c) = ([], .quoted '"') := by
  have hescape (mark : Char) : (Reading.quoted '"').run ['\\', mark] = ([], .quoted '"') := rfl
  have hcode (mark : Char) (width : Nat) :
      (Reading.quoted '"').run ('\\' :: mark :: hexDigits width c.toNat) = ([], .quoted '"') := by
    have hdigits : ∀ d ∈ hexDigits width c.toNat, d ≠ '"' ∧ d ≠ '\\' :=
      forall_mem_hexDigits (p := fun d => d ≠ '"' ∧ d ≠ '\\') (by decide) width c.toNat
    rw [run_cons, run_cons, show ((Reading.quoted '"').next '\\').2.next mark = ([], .quoted '"')
      from rfl, run_quoted hdigits]
    rfl
  unfold literalChar
  split
  next => exact hescape _
  next hback =>
  split
  next => exact hescape _
  next hquote =>
  split
  next => exact hescape _
  split
  next => exact hescape _
  split
  next => exact hescape _
  split
  next => exact hcode _ 2
  split
  next => exact run_quoted (List.forall_mem_singleton.2 ⟨hquote, hback⟩)
  split
  next => exact hcode _ 4
  next => exact hcode _ 8

/-- A literal has no bare words. -/
theorem run_literalChars (marked : Bool) (cs : List Char) :
    start.run (literalChars marked cs) = ([], start) := by
  have hinside : (Reading.quoted '"').run (cs.flatMap literalChar) = ([], .quoted '"') := by
    induction cs with
    | nil => rfl
    | cons c cs ih => rw [List.flatMap_cons, run_append, run_literalChar, ih, List.append_nil]
  have hquoted (read : List Char) (hopen : (Reading.code false read).next '"' = ([], .quoted '"')) :
      (Reading.code false read).run ('"' :: cs.flatMap literalChar ++ ['"']) = ([], start) := by
    rw [List.cons_append, run_cons, hopen, run_append, hinside]
    rfl
  unfold literalChars
  split
  · rw [run_cons]
    exact hquoted ['u'] rfl
  · exact hquoted [] rfl

end Reading

/-- A comment has no bare words. -/
theorem bareWords_comment (rest : List Char) : bareWords ('#' :: rest) = [] := by
  show ([] ++ (Reading.comment.run rest).1) ++ (Reading.comment.run rest).2.word = []
  rw [Reading.run_comment]
  rfl

/-! ## Texts of a vocabulary -/

/-- The character is of ASCII or of a word of the vocabulary. -/
def IsOf (vocabulary : List String) (c : Char) : Prop :=
  c.toNat < 0x80 ∨ ∃ w ∈ vocabulary, c ∈ w.toList

/-- Reading the text leads from the first to the last state, with bare words of the vocabulary only,
and its characters are of the vocabulary. -/
structure Proceeds (vocabulary : List String) (first : Reading) (text : List Char)
    (last : Reading) : Prop where
  words : ∀ w ∈ (first.run text).1, w ∈ vocabulary
  last : (first.run text).2 = last
  chars : ∀ c ∈ text, IsOf vocabulary c

/-- The text is of the vocabulary, and ends between words. -/
def Leads (vocabulary : List String) (text : String) : Prop :=
  Proceeds vocabulary .start text.toList .start

/-- The text is of the vocabulary, also with its last word. -/
def Spelled (vocabulary : List String) (text : String) : Prop :=
  ∃ dotted read, Proceeds vocabulary .start text.toList (.code dotted read) ∧
    ∀ w ∈ (Reading.code dotted read).word, w ∈ vocabulary

/-- No word goes on with the text. -/
def isApart (text : String) : Bool :=
  match text.toList with
  | [] => false
  | c :: _ => !isWordChar c && !isQuote c

variable {V : List String} {first middle last : Reading} {cs ds : List Char}
  {front back text word : String}

/-- A text is read behind another one from where that left off. -/
theorem Proceeds.append (h : Proceeds V first cs middle) (h' : Proceeds V middle ds last) :
    Proceeds V first (cs ++ ds) last := by
  have hrun := Reading.run_append first cs ds
  rw [h.last] at hrun
  refine ⟨?_, ?_, List.forall_mem_append.2 ⟨h.chars, h'.chars⟩⟩
  · rw [hrun]
    exact List.forall_mem_append.2 ⟨h.words, h'.words⟩
  · rw [hrun]
    exact h'.last

/-- Without bare words, only the characters matter. -/
theorem proceeds_of_run (hrun : first.run cs = ([], last)) (hchars : ∀ c ∈ cs, IsOf V c) :
    Proceeds V first cs last :=
  ⟨by rw [hrun]; exact List.forall_mem_nil _, by rw [hrun], hchars⟩

/-- Behind a word of the vocabulary, a text that no word goes on with is read as between words. -/
theorem Proceeds.behind {dotted : Bool} {read : List Char} (h : Proceeds V .start text.toList last)
    (hword : ∀ w ∈ (Reading.code dotted read).word, w ∈ V) (htext : isApart text) :
    Proceeds V (.code dotted read) text.toList last := by
  unfold isApart at htext
  split at htext
  next => cases htext
  next c rest heq =>
  simp only [Bool.and_eq_true, Bool.not_eq_true'] at htext
  rw [heq] at h ⊢
  have hnext (dotted : Bool) (read : List Char) : (Reading.code dotted read).next c =
      ((Reading.code dotted read).word, (Reading.start.next c).2) := by
    simp only [Reading.next, Reading.start, htext, Bool.false_eq_true, if_false]
    split <;> rfl
  have hwords := h.words
  have hlast := h.last
  rw [Reading.run_cons, Reading.start, hnext] at hwords hlast
  refine ⟨?_, ?_, h.chars⟩
  · rw [Reading.run_cons, hnext]
    exact List.forall_mem_append.2 ⟨hword, hwords⟩
  · rw [Reading.run_cons, hnext]
    exact hlast

/-- A text that ends between words is of the vocabulary. -/
theorem Leads.spelled (h : Leads V text) : Spelled V text :=
  ⟨false, [], h, List.forall_mem_nil _⟩

/-- The empty text is of every vocabulary. -/
theorem leads_empty : Leads V "" :=
  proceeds_of_run rfl (List.forall_mem_nil _)

/-- Between words, any text of the vocabulary may follow. -/
theorem Leads.append (h : Leads V front) (h' : Spelled V back) : Spelled V (front ++ back) := by
  obtain ⟨dotted, read, hback, hword⟩ := h'
  exact ⟨dotted, read, String.toList_append ▸ Proceeds.append h hback, hword⟩

/-- Texts that end between words do so one behind the other. -/
theorem Leads.leads (h : Leads V front) (h' : Leads V back) : Leads V (front ++ back) := by
  unfold Leads
  rw [String.toList_append]
  exact Proceeds.append h h'

/-- Behind a word, a text follows that the word does not go on with. -/
theorem Spelled.leads (h : Spelled V front) (hback : isApart back) (h' : Leads V back) :
    Leads V (front ++ back) := by
  obtain ⟨dotted, read, hfront, hword⟩ := h
  unfold Leads
  rw [String.toList_append]
  exact hfront.append (Proceeds.behind h' hword hback)

/-- So do texts with a last word of their own. -/
theorem Spelled.append (h : Spelled V front) (hback : isApart back) (h' : Spelled V back) :
    Spelled V (front ++ back) := by
  obtain ⟨dotted, read, hfront, hword⟩ := h
  obtain ⟨dotted', read', h', hword'⟩ := h'
  exact ⟨dotted', read', String.toList_append ▸ hfront.append (h'.behind hword hback), hword'⟩

/-- The bare words of a text of the vocabulary are words of it. -/
theorem Spelled.bareWords (h : Spelled V text) : ∀ w ∈ bareWords text.toList, w ∈ V := by
  obtain ⟨dotted, read, h, hword⟩ := h
  unfold Script.bareWords
  rw [← h.last] at hword
  exact List.forall_mem_append.2 ⟨h.words, hword⟩

/-- Its characters are of the vocabulary. -/
theorem Spelled.chars (h : Spelled V text) : ∀ c ∈ text.toList, IsOf V c := by
  obtain ⟨dotted, read, h, -⟩ := h
  exact h.chars

/-- Without quotes and comments, what is called in a text of the vocabulary is of the vocabulary. -/
theorem Spelled.callee (h : Spelled V (text ++ "(x)"))
    (hplain : ∀ c ∈ text.toList, isQuote c = false ∧ c ≠ '#') : Spelled V text := by
  obtain ⟨dotted, read, h, -⟩ := h
  obtain ⟨dotted', read', hlast⟩ := Reading.run_code false [] hplain
  have hwords := h.words
  have hchars := h.chars
  rw [String.toList_append, List.forall_mem_append] at hchars
  rw [String.toList_append, Reading.run_append, Reading.start, hlast, List.forall_mem_append,
    show "(x)".toList = ['(', 'x', ')'] from rfl, Reading.run_cons,
    List.forall_mem_append] at hwords
  exact ⟨dotted', read', ⟨hwords.1, hlast, hchars.1⟩, hwords.2.1⟩

/-- Texts of the vocabulary are, with commas between them. -/
theorem spelled_intercalate {items : List String} (h : ∀ item ∈ items, Spelled V item) :
    Spelled V (", ".intercalate items) := by
  have hcomma : Leads V ", " := proceeds_of_run rfl
    (List.forall_mem_cons.2 ⟨.inl (by decide), List.forall_mem_singleton.2 (.inl (by decide))⟩)
  induction items with
  | nil => exact leads_empty.spelled
  | cons first items ih =>
      obtain ⟨hfirst, hitems⟩ := List.forall_mem_cons.1 h
      cases items with
      | nil => exact hfirst
      | cons second items =>
          have hrest := (hfirst.leads rfl hcomma).append (ih hitems)
          rwa [← String.intercalate_cons_cons] at hrest

/-! ## Words and literals -/

/-- All characters of the text go on with a word. -/
def IsWord (text : String) : Prop :=
  ∀ c ∈ text.toList, isWordChar c

/-- The characters of a word of the vocabulary are. -/
theorem isOf_word (hV : word ∈ V) : ∀ c ∈ word.toList, IsOf V c :=
  fun _ hc => .inr ⟨word, hV, hc⟩

/-- A word of the vocabulary is of the vocabulary. -/
theorem spelled_word (hV : word ∈ V) (hword : IsWord word) : Spelled V word := by
  refine ⟨false, word.toList,
    proceeds_of_run (Reading.run_word false [] hword) (isOf_word hV), fun w hw => ?_⟩
  cases hlist : word.toList with
  | nil => rw [hlist] at hw; cases hw
  | cons c cs =>
      rw [hlist] at hw
      rw [List.mem_singleton.1 hw, ← hlist, String.ofList_toList]
      exact hV

/-- A text may go on with an attribute of the vocabulary. -/
theorem Spelled.member (h : Spelled V text) (hV : word ∈ V) (hword : IsWord word) :
    Spelled V (text ++ ("." ++ word)) := by
  have hrun : Reading.start.run ('.' :: word.toList) = ([], .code true word.toList) := by
    rw [Reading.run_cons]
    show ([] ++ ((Reading.code true []).run _).1, ((Reading.code true []).run _).2) = _
    rw [Reading.run_word true [] hword]
    rfl
  have htext : ("." ++ word).toList = '.' :: word.toList := String.toList_append
  refine h.append ?_ ⟨true, word.toList, htext ▸ proceeds_of_run hrun
    (List.forall_mem_cons.2 ⟨.inl (by decide), isOf_word hV⟩), List.forall_mem_nil _⟩
  rw [isApart, htext]
  rfl

/-- A literal is of every vocabulary. -/
theorem leads_literal (marked : Bool) (s : String) : Leads V (literal marked s) := by
  have hchars : ∀ c ∈ (literal marked s).toList, IsOf V c := fun c hc =>
    .inl (Nat.lt_of_lt_of_le (isPrintable_literal marked s c hc).2 (by decide))
  refine proceeds_of_run ?_ hchars
  rw [literal, String.toList_ofList, Reading.run_literalChars]

/-- Between single quotes, a word is of every vocabulary that its characters are of. -/
theorem leads_quoted (hchars : ∀ c ∈ word.toList, IsOf V c) (hword : IsWord word) :
    Leads V ("'" ++ word ++ "'") := by
  have hinside : ∀ c ∈ word.toList, c ≠ '\'' ∧ c ≠ '\\' := by
    intro c hc
    refine ⟨?_, ?_⟩
    all_goals
      rintro rfl
      exact absurd (hword _ hc) (by decide)
  have hrun : Reading.start.run ('\'' :: (word.toList ++ ['\''])) = ([], .start) := by
    rw [Reading.run_cons]
    show ([] ++ ((Reading.quoted '\'').run _).1, ((Reading.quoted '\'').run _).2) = _
    rw [Reading.run_append, Reading.run_quoted hinside]
    rfl
  have hquote : IsOf V '\'' := .inl (by decide)
  have htext : ("'" ++ word ++ "'").toList = '\'' :: (word.toList ++ ['\'']) := by
    rw [String.toList_append, String.toList_append, List.append_assoc]
    rfl
  unfold Leads
  rw [htext]
  exact proceeds_of_run hrun (List.forall_mem_cons.2 ⟨hquote, List.forall_mem_append.2
    ⟨hchars, List.forall_mem_singleton.2 hquote⟩⟩)

/-! ## Fixed texts -/

/-- The text is of ASCII, has no other bare words than the given ones and ends between words. -/
def opens (known : List String) (text : List Char) : Bool :=
  decide ((Reading.start.run text).2 = .start) &&
    (Reading.start.run text).1.all known.contains && text.all (·.toNat < 0x80)

/-- The text is of ASCII, has no other bare words than the given ones and may end with one. -/
def closes (known : List String) (text : List Char) : Bool :=
  match Reading.start.run text with
  | (words, .code dotted read) =>
    (words ++ (Reading.code dotted read).word).all known.contains && text.all (·.toNat < 0x80)
  | _ => false

/-- A text that ends between words is of every vocabulary with the given words. -/
theorem leads_of_opens {known : List String} (hknown : known ⊆ V) {text : List Char}
    (h : opens known text) : Leads V (String.ofList text) := by
  simp only [opens, Bool.and_eq_true, decide_eq_true_eq, List.all_eq_true] at h
  obtain ⟨⟨hlast, hwords⟩, hchars⟩ := h
  unfold Leads
  rw [String.toList_ofList]
  exact ⟨fun w hw => hknown (List.contains_iff_mem.1 (hwords w hw)), hlast,
    fun c hc => .inl (hchars c hc)⟩

/-- So is a text that may end with a word. -/
theorem spelled_of_closes {known : List String} (hknown : known ⊆ V) {text : List Char}
    (h : closes known text) : Spelled V (String.ofList text) := by
  unfold closes at h
  split at h
  next words dotted read hrun =>
    simp only [Bool.and_eq_true, List.all_eq_true, List.all_append, decide_eq_true_eq] at h
    obtain ⟨⟨hwords, hword⟩, hchars⟩ := h
    refine ⟨dotted, read, ?_, fun w hw => hknown (List.contains_iff_mem.1 (hword w hw))⟩
    rw [String.toList_ofList]
    refine ⟨?_, by rw [hrun], fun c hc => .inl (hchars c hc)⟩
    rw [hrun]
    exact fun w hw => hknown (List.contains_iff_mem.1 (hwords w hw))
  next => cases h

/-- Behind a text of the vocabulary, a fixed one may stand that no word goes on with. -/
theorem Spelled.closed {known : List String} (hknown : known ⊆ V) (h : Spelled V text)
    {fixed : List Char} (hfixed : isApart (String.ofList fixed) && closes known fixed) :
    Spelled V (text ++ String.ofList fixed) := by
  rw [Bool.and_eq_true] at hfixed
  exact h.append hfixed.1 (spelled_of_closes hknown hfixed.2)

/-- So may one that another text of the vocabulary stands behind. -/
theorem Spelled.joined {known : List String} (hknown : known ⊆ V) (h : Spelled V front)
    {between : List Char} (hbetween : isApart (String.ofList between) && opens known between)
    (h' : Spelled V back) : Spelled V (front ++ String.ofList between ++ back) := by
  rw [Bool.and_eq_true] at hbetween
  exact (h.leads hbetween.1 (leads_of_opens hknown hbetween.2)).append h'

end TypedJson.Script
