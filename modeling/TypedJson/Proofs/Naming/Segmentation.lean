import TypedJson.Naming.Word
import TypedJson.Proofs.Text.Digits

/-!
# Cutting a label into words

Every word takes at least one character, so the number of words that `Word.split` allows for is
never used up: `split_of_word` reads the segmentation off without it. `split_append_number` says that an
underscore and a row of digits behind a label add one word and change no other.
-/

namespace TypedJson.Naming.Word

open Text

/-! ## Progress -/

/-- What is behind the end of a run of lower-case letters is no longer than the text. -/
theorem length_lowerTail_le (cs : List Char) : (lowerTail cs).2.length ≤ cs.length :=
  ((List.dropWhile_suffix _).trans (List.dropWhile_suffix _)).length_le

/-- A run of capitals gives up at most its last one. -/
theorem length_rest_cutCapitals_lt {run : List Char} (hrun : run ≠ []) (rest : List Char) :
    (cutCapitals run rest).rest.length < run.length + rest.length := by
  have hpos : 0 < run.length := List.length_pos_iff.2 hrun
  unfold cutCapitals
  split
  · simpa using hpos
  · next c behind =>
    have htail := length_lowerTail_le (c :: behind)
    have hdigits := (List.dropWhile_suffix (l := c :: behind) isNumeric).length_le
    split
    · simp only
      omega
    · split
      · simp only
        omega
      · split
        · simp only [List.length_append, List.length_drop]
          omega
        · simp only
          omega

/-- Cutting off a word takes at least one character. -/
theorem length_rest_cut_lt {c : Char} (hc : isWordChar c) (cs : List Char) :
    (cut (c :: cs)).rest.length < (c :: cs).length := by
  unfold cut
  split
  · next h => cases h
  · next d rest heq =>
    obtain ⟨rfl, rfl⟩ := List.cons.inj heq
    by_cases hlower : isLowercase c
    · have hrun : continuesLower c := by simp [continuesLower, hlower]
      simp only [hlower, if_true, lowerTail, List.dropWhile_cons_of_pos hrun]
      exact Nat.lt_succ_of_le
        ((List.dropWhile_suffix _).trans (List.dropWhile_suffix _)).length_le
    · by_cases hupper : isUppercase c
      · have hrun : continuesUpper c := by simp [continuesUpper, hupper]
        have hne : (c :: cs).takeWhile continuesUpper ≠ [] := by simp [hrun]
        have hlt := length_rest_cutCapitals_lt hne ((c :: cs).dropWhile continuesUpper)
        have hlength : ((c :: cs).takeWhile continuesUpper).length
            + ((c :: cs).dropWhile continuesUpper).length = (c :: cs).length := by
          rw [← List.length_append, List.takeWhile_append_dropWhile]
        simp only [hlower, hupper, if_true, if_false, Bool.false_eq_true]
        omega
      · have hrun : isUncased c := by simp [isUncased, hc, hlower, hupper]
        simp only [hlower, hupper, if_false, Bool.false_eq_true, List.dropWhile_cons_of_pos hrun]
        exact Nat.lt_succ_of_le (List.dropWhile_suffix _).length_le

/-- The text from its first word on begins with a word character. -/
theorem isWordChar_of_dropWhile {cs rest : List Char} {c : Char}
    (h : (cs.dropWhile fun c => !isWordChar c) = c :: rest) : isWordChar c := by
  have hhead := List.head?_dropWhile_not (fun c => !isWordChar c) cs
  rw [h] at hhead
  simpa using hhead

/-- Any number of words that is not below the length of the text is enough. -/
theorem splitWithin_eq_split {n : Nat} {cs : List Char} (h : cs.length ≤ n) :
    splitWithin n cs = split cs := by
  -- Two bounds are compared, so that the induction may lower both of them.
  suffices hmain : ∀ n m : Nat, ∀ cs : List Char, cs.length ≤ n → cs.length ≤ m →
      splitWithin n cs = splitWithin m cs from hmain n cs.length cs h (Nat.le_refl _)
  intro n
  induction n with
  | zero =>
      intro m cs hn _
      obtain rfl := List.length_eq_zero_iff.1 (Nat.le_zero.1 hn)
      cases m <;> rfl
  | succ n ih =>
      intro m cs hn hm
      cases m with
      | zero =>
          obtain rfl := List.length_eq_zero_iff.1 (Nat.le_zero.1 hm)
          rfl
      | succ m =>
          simp only [splitWithin]
          have hle := (List.dropWhile_suffix (l := cs) fun c => !isWordChar c).length_le
          split
          · rfl
          · next start hstart =>
            cases hdrop : cs.dropWhile fun c => !isWordChar c with
            | nil => exact absurd hdrop hstart
            | cons c rest =>
                have hlt := length_rest_cut_lt (isWordChar_of_dropWhile hdrop) rest
                rw [hdrop] at hle
                rw [ih m _ (by omega) (by omega)]

/-- A text without word characters has no words. -/
theorem split_of_no_word {cs : List Char} (h : cs.dropWhile (fun c => !isWordChar c) = []) :
    split cs = [] := by
  rw [← splitWithin_eq_split (Nat.le_succ cs.length), splitWithin, h]

/-- The words of a text with a word character: the one that begins at the first such character, and
those of what is behind that word. -/
theorem split_of_word {cs rest : List Char} {c : Char}
    (h : cs.dropWhile (fun c => !isWordChar c) = c :: rest) :
    split cs = ⟨(cut (c :: rest)).text, !(cut (c :: rest)).read.any isLowercase⟩
      :: split (cut (c :: rest)).rest := by
  have hle := (List.dropWhile_suffix (l := cs) fun c => !isWordChar c).length_le
  have hlt := length_rest_cut_lt (isWordChar_of_dropWhile h) rest
  rw [h] at hle
  rw [← splitWithin_eq_split (Nat.le_succ cs.length), splitWithin, h]
  simp only
  rw [splitWithin_eq_split (by omega)]

/-! ## A number behind a label -/

/-- The text is empty or begins with a character that continues no word. -/
def EndsWords (back : List Char) : Prop :=
  ∀ c ∈ back.head?, isWordChar c = false ∧ isLowercase c = false ∧ isUppercase c = false

/-- A text that begins with an underscore continues no word. -/
theorem endsWords_underscore (rest : List Char) : EndsWords ('_' :: rest) := by
  rintro c ⟨⟩
  decide

variable {back : List Char}

/-- None of the runs that make up words continues into a text that ends words. -/
theorem EndsWords.stops (h : EndsWords back) : ∀ c ∈ back.head?,
    continuesLower c = false ∧ continuesUpper c = false ∧ isUncased c = false
      ∧ isNumeric c = false := by
  intro c hc
  obtain ⟨hword, hlower, hupper⟩ := h c hc
  have hparts : isAlphanumeric c = false ∧ isMark c = false := by simpa [isWordChar] using hword
  have hnumeric : isNumeric c = false := by
    have := hparts.1
    simp only [isAlphanumeric, Bool.or_eq_false_iff] at this
    exact this.2
  simp [continuesLower, continuesUpper, isUncased, hword, hlower, hupper, hparts.2, hnumeric]

/-- The end of a lower-case run is the same in front of a text that ends words. -/
theorem lowerTail_append (h : EndsWords back) (cs : List Char) :
    lowerTail (cs ++ back) = ((lowerTail cs).1, (lowerTail cs).2 ++ back) := by
  simp only [lowerTail, takeWhile_append_stop fun c hc => (h.stops c hc).1,
    dropWhile_append_stop fun c hc => (h.stops c hc).1,
    takeWhile_append_stop fun c hc => (h.stops c hc).2.2.2,
    dropWhile_append_stop fun c hc => (h.stops c hc).2.2.2]

/-- A run of capitals is cut in the same way in front of a text that ends words. -/
theorem cutCapitals_append (h : EndsWords back) (run rest : List Char) :
    cutCapitals run (rest ++ back)
      = { cutCapitals run rest with rest := (cutCapitals run rest).rest ++ back } := by
  cases rest with
  | nil =>
      cases back with
      | nil => rfl
      | cons c behind =>
          obtain ⟨hcont, -, -, hnumeric⟩ := h.stops c rfl
          have hlower := (h c rfl).2.1
          simp [cutCapitals, lowerTail, hcont, hnumeric, hlower]
  | cons c rest =>
      simp only [cutCapitals, List.cons_append]
      rw [← List.cons_append, lowerTail_append h,
        takeWhile_append_stop fun c hc => (h.stops c hc).2.2.2,
        dropWhile_append_stop fun c hc => (h.stops c hc).2.2.2]
      split
      · rfl
      · split
        · rfl
        · split
          · simp
          · rfl

/-- The first word of a text is the same in front of a text that ends words. -/
theorem cut_append (h : EndsWords back) (c : Char) (cs : List Char) :
    cut (c :: cs ++ back) = { cut (c :: cs) with rest := (cut (c :: cs)).rest ++ back } := by
  simp only [cut, List.cons_append]
  rw [← List.cons_append, lowerTail_append h,
    takeWhile_append_stop fun c hc => (h.stops c hc).2.1,
    dropWhile_append_stop fun c hc => (h.stops c hc).2.1,
    takeWhile_append_stop fun c hc => (h.stops c hc).2.2.1,
    dropWhile_append_stop fun c hc => (h.stops c hc).2.2.1, cutCapitals_append h]
  split
  · rfl
  · split <;> rfl

/-- A text that ends words adds its own words to those in front of it. -/
theorem split_append (h : EndsWords back) (cs : List Char) :
    split (cs ++ back) = split cs ++ split back := by
  have hstop : ∀ c ∈ back.head?, isWordChar c = false := fun c hc => (h c hc).1
  induction hlength : cs.length using Nat.strong_induction_on generalizing cs with
  | _ n ih =>
      subst hlength
      cases hdrop : cs.dropWhile fun c => !isWordChar c with
      -- Without a word in front, the first word of both texts is that of the second one.
      | nil =>
          rw [split_of_no_word hdrop, List.nil_append]
          have hback : (cs ++ back).dropWhile (fun c => !isWordChar c)
              = back.dropWhile fun c => !isWordChar c := by
            rw [List.dropWhile_append, hdrop]
            rfl
          cases hrest : back.dropWhile fun c => !isWordChar c with
          | nil => rw [split_of_no_word (hback.trans hrest), split_of_no_word hrest]
          | cons c rest => rw [split_of_word (hback.trans hrest), split_of_word hrest]
      | cons c rest =>
          have hle := (List.dropWhile_suffix (l := cs) fun c => !isWordChar c).length_le
          have hlt := length_rest_cut_lt (isWordChar_of_dropWhile hdrop) rest
          have hboth : (cs ++ back).dropWhile (fun c => !isWordChar c) = c :: (rest ++ back) := by
            rw [List.dropWhile_append, hdrop]
            rfl
          rw [hdrop] at hle
          rw [split_of_word hboth, split_of_word hdrop, ← List.cons_append, cut_append h,
            ih _ (by omega) _ rfl, List.cons_append]

/-- The digits of a number. -/
def IsNumber (digits : List Char) : Prop :=
  digits ≠ [] ∧ ∀ c ∈ digits, c.isDigit

/-- A natural is written as a number. -/
theorem isNumber_toDigits (n : Nat) : IsNumber (Nat.toDigits 10 n) :=
  ⟨Nat.toDigits_ne_nil, fun _ h => Nat.isDigit_of_mem_toDigits (by decide) (by decide) h⟩

/-- A digit belongs to words and has no case. -/
theorem isDigit_class {c : Char} (h : c.isDigit) :
    isWordChar c ∧ isLowercase c = false ∧ isUppercase c = false := by
  obtain ⟨hfirst, hlast⟩ : 48 ≤ c.toNat ∧ c.toNat ≤ 57 := Char.isDigit_iff_toNat.1 h
  have hascii : c.toNat < 0x80 := by omega
  refine ⟨?_, ?_, ?_⟩
  · have hnumeric : isNumeric c = c.isDigit := if_pos hascii
    simp [isWordChar, isAlphanumeric, hnumeric, h]
  · have hlower : isLowercase c = c.isLower := if_pos hascii
    simp only [hlower, Char.isLower, Bool.and_eq_false_iff, decide_eq_false_iff_not, ge_iff_le,
      UInt32.le_iff_toNat_le, Char.toNat_val]
    exact .inl (Nat.not_le.2 (Nat.lt_of_le_of_lt hlast (by decide)))
  · have hupper : isUppercase c = c.isUpper := if_pos hascii
    simp only [hupper, Char.isUpper, decide_eq_false_iff_not, ge_iff_le,
      UInt32.le_iff_toNat_le, Char.toNat_val]
    exact fun hcase => Nat.not_le.2 (Nat.lt_of_le_of_lt hlast (by decide)) hcase.1

/-- A number is one word, which no lower-case character is in. -/
theorem split_number {digits : List Char} (h : IsNumber digits) :
    split digits = [⟨digits, true⟩] := by
  obtain ⟨hne, hdigits⟩ := h
  obtain ⟨c, rest, rfl⟩ := List.exists_cons_of_ne_nil hne
  obtain ⟨hword, hlower, hupper⟩ := isDigit_class (hdigits c List.mem_cons_self)
  have huncased : ∀ d ∈ c :: rest, isUncased d := by
    intro d hd
    obtain ⟨hword, hlower, hupper⟩ := isDigit_class (hdigits d hd)
    simp [isUncased, hword, hlower, hupper]
  have hcut : cut (c :: rest) = ⟨c :: rest, c :: rest, []⟩ := by
    simp only [cut, hlower, hupper, Bool.false_eq_true, if_false,
      List.takeWhile_eq_self_iff.2 huncased, List.dropWhile_eq_nil_iff.2 huncased]
  have hnone : (c :: rest).any isLowercase = false := by
    rw [List.any_eq_false]
    intro d hd
    simp [(isDigit_class (hdigits d hd)).2.1]
  have hstart : (c :: rest).dropWhile (fun d => !isWordChar d) = c :: rest := by simp [hword]
  rw [split_of_word hstart, hcut, hnone]
  rfl

/-- An underscore in front of a text adds no word to it. -/
theorem split_underscore (cs : List Char) : split ('_' :: cs) = split cs := by
  have hskip : ('_' :: cs).dropWhile (fun c => !isWordChar c)
      = cs.dropWhile fun c => !isWordChar c :=
    List.dropWhile_cons_of_pos (by decide)
  cases hdrop : cs.dropWhile fun c => !isWordChar c with
  | nil => rw [split_of_no_word (hskip.trans hdrop), split_of_no_word hdrop]
  | cons c rest => rw [split_of_word (hskip.trans hdrop), split_of_word hdrop]

/-- The words of texts with underscores between them are those of each text. -/
theorem split_intercalate_underscore (texts : List (List Char)) :
    split (['_'].intercalate texts) = texts.flatMap split := by
  induction texts with
  | nil => rfl
  | cons first rest ih =>
      cases rest with
      | nil => simp
      | cons second rest =>
          rw [List.intercalate_cons_cons, List.append_assoc, List.singleton_append,
            split_append (endsWords_underscore _), split_underscore, ih]
          exact List.flatMap_cons.symm

/-- An underscore and a number behind a label add the number to the words of the label. -/
theorem split_append_number (cs : List Char) {digits : List Char} (h : IsNumber digits) :
    split (cs ++ '_' :: digits) = split cs ++ [⟨digits, true⟩] := by
  rw [split_append (endsWords_underscore digits), split_underscore, split_number h]

end TypedJson.Naming.Word
