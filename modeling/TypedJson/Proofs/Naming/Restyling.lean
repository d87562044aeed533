import TypedJson.Proofs.Naming.Marks
import TypedJson.Proofs.Naming.NormalForm
import TypedJson.Proofs.Text.Ascii

/-!
# Styling a name again

The name of a label of ASCII is its own name. A word of such a label consists of letters and the
digits behind them (`IsBlock`), and casing keeps it so. In snake case each written word is then one
word of the name (`split_block`). In Pascal case it need not be: `x`, `y` and `z` join to the one word
`XYZ`. There the name is taken apart at other places, but a text in which no small letter stands at
the start or behind a digit (`Capitalized`) is written word for word as it is, wherever it is cut
(`Capitalized.write_eq`).
-/

namespace TypedJson.Naming

open Text Word

variable {g : Grammar} {cs text : List Char}

/-! ## Names that keep their label -/

/-- An identifier is kept as it is. -/
theorem sanitize_eq_self (h : g.IsIdentifier cs) : sanitize g cs = cs := by
  obtain ⟨hadmits, c, rest, rfl, hstart⟩ := h
  have hmap : (c :: rest).map (fun c => if g.isPart c then c else '_') = c :: rest :=
    (List.map_congr_left fun d hd => if_pos (hadmits d hd)).trans (List.map_id _)
  rw [sanitize, hmap]
  exact if_pos hstart

/-! ## Words of ASCII -/

/-- The character is a letter with a case. -/
def isLetter (c : Char) : Bool :=
  isLowercase c || isUppercase c

/-- The text consists of letters of a class and of the digits behind them. -/
structure IsBlock (p : Char → Bool) (text : List Char) : Prop where
  ne_nil : text ≠ []
  ascii : AllAscii text
  parts : ∃ letters digits, text = letters ++ digits ∧ (∀ c ∈ letters, p c) ∧
    ∀ c ∈ digits, isNumeric c

/-- Letters of a class are letters of any class that contains it. -/
theorem IsBlock.imp {p q : Char → Bool} (h : IsBlock p text) (hpq : ∀ c, p c → q c) :
    IsBlock q text := by
  obtain ⟨hne, hascii, letters, digits, htext, hletters, hdigits⟩ := h
  exact ⟨hne, hascii, letters, digits, htext, fun c hc => hpq c (hletters c hc), hdigits⟩

/-- Letters and digits belong to words. -/
theorem IsBlock.isWordChar (h : IsBlock isLetter text) : ∀ c ∈ text, isWordChar c := by
  obtain ⟨letters, digits, rfl, hletters, hdigits⟩ := h.parts
  refine List.forall_mem_append.2 ⟨fun c hc => ?_, fun c hc => isWordChar_of_isNumeric (hdigits c hc)⟩
  have hletter := hletters c hc
  rw [isLetter, Bool.or_eq_true] at hletter
  exact hletter.elim isWordChar_of_isLowercase isWordChar_of_isUppercase

/-- A word that is cut off in ASCII consists of letters and digits. -/
theorem isBlock_of_cuts {found : Cut} (h : Cuts found) (hascii : AllAscii found.text) :
    IsBlock isLetter found.text := by
  refine ⟨h.text_spec.1, hascii, ?_⟩
  cases h with
  | @cased letters numbers rest _ hletters hnumbers _ =>
      refine ⟨letters, numbers, rfl, fun c hc => ?_, hnumbers⟩
      have hcased := hletters c hc
      rwa [isCasedOrMark, (ascii_class ((AllAscii.append_iff.1 hascii).1 c hc)).1,
        Bool.or_false] at hcased
  | @capitals run rest last small hback =>
      refine ⟨run, [], (List.append_nil run).symm, fun c hc => ?_, List.forall_mem_nil _⟩
      have hcapital := hback.capitals c (List.mem_append_left _ hc)
      rw [continuesUpper, (ascii_class (hascii c hc)).1, Bool.or_false] at hcapital
      rw [isLetter, hcapital, Bool.or_true]
  | @uncased run rest _ hrun _ =>
      refine ⟨[], run, rfl, List.forall_mem_nil _, fun c hc => ?_⟩
      have huncased := hrun c hc
      simp only [isUncased, Bool.and_eq_true, Bool.not_eq_true'] at huncased
      obtain ⟨⟨hword, hlower⟩, hupper⟩ := huncased
      simpa [hlower, hupper] using (ascii_class (hascii c hc)).2 hword

/-- So does every word of a text of ASCII. -/
theorem isBlock_of_scans {words : List Word} (h : Scans cs words) (hascii : AllAscii cs) :
    ∀ w ∈ words, IsBlock isLetter w.text := by
  induction h with
  | done => exact List.forall_mem_nil _
  | @word gap cs c words _ hc _ ih =>
      obtain ⟨hcuts, htext⟩ := cuts_cut hc cs
      have hparts := (AllAscii.append_iff.1 hascii).2
      rw [← htext, AllAscii.append_iff] at hparts
      exact List.forall_mem_cons.2 ⟨isBlock_of_cuts hcuts hparts.1, ih hparts.2⟩

/-- The grammar admits every word of a text of ASCII as a whole. -/
theorem flatMap_legalParts_ascii (g : Grammar) (hascii : AllAscii cs) :
    (split cs).flatMap (legalParts g) = split cs := by
  have hparts : ∀ w ∈ split cs, legalParts g w = [w] := by
    intro w hw
    have hblock := isBlock_of_scans (scans_split cs) hascii w hw
    have hpart : ∀ c ∈ w.text, g.isPart c := fun c hc =>
      ascii_isPart g (hblock.ascii c hc) (hblock.isWordChar c hc)
    simp [legalParts, runsFrom_all hpart, hblock.ne_nil]
  rw [List.flatMap_congr hparts, List.flatMap_singleton']

/-- A text is made of its own words again if the style writes each of them as it is. -/
theorem combineWords_split_eq_self {style : CaseStyle} (hascii : AllAscii cs)
    (hstart : startsLegally g cs) (hwrite : ∀ w ∈ split cs, style.write w = w.text)
    (hjoin : style.separator.intercalate ((split cs).map Word.text) = cs) :
    combineWords g style (split cs) = cs := by
  have hblocks := isBlock_of_scans (scans_split cs) hascii
  have hmap : (split cs).map style.write = (split cs).map Word.text := List.map_congr_left hwrite
  simp only [combineWords, flatMap_legalParts_ascii g hascii]
  cases hsplit : split cs with
  | nil =>
      rw [hsplit] at hjoin
      rw [← hjoin] at hstart
      cases hstart
  | cons first rest =>
      rw [hsplit] at hmap hjoin hblocks
      obtain ⟨c, behind, htext⟩ := List.exists_cons_of_ne_nil (hblocks first List.mem_cons_self).ne_nil
      -- The first word starts as the text does.
      have hfirst : startsLegally g first.text := by
        rw [List.map_cons, htext] at hjoin
        obtain ⟨more, hmore⟩ := intercalate_cons_of_cons style.separator c behind
          (rest.map Word.text)
        rw [← hjoin, hmore] at hstart
        rw [htext]
        exact hstart
      simp only [hmap]
      rw [List.map_cons] at hjoin ⊢
      simp only [if_pos hfirst]
      exact hjoin

/-! ## Casing -/

/-- Casing a word of ASCII changes its letters only. -/
theorem WordCase.apply_append_digits (case : WordCase) {letters digits : List Char}
    (hascii : AllAscii (letters ++ digits)) (hdigits : ∀ c ∈ digits, isNumeric c) :
    case.apply (letters ++ digits) = case.apply letters ++ digits := by
  obtain ⟨hletters, hnumber⟩ := AllAscii.append_iff.1 hascii
  have hupper := hnumber.map_toUpper fun c hc => (ascii_digit (hnumber c hc) (hdigits c hc)).1
  have hlower := hnumber.map_toLower fun c hc => (ascii_digit (hnumber c hc) (hdigits c hc)).2
  cases case with
  | upper =>
      rw [apply, apply, hascii.toUpperText_eq, hletters.toUpperText_eq, List.map_append, hupper]
  | lower =>
      rw [apply, apply, hascii.toLowerText_eq, hletters.toLowerText_eq, List.map_append, hlower]
  | firstUpper =>
      cases letters with
      | nil =>
          cases digits with
          | nil => rfl
          | cons d digits =>
              obtain ⟨hd, hrest⟩ := hascii.cons
              have hform : upperForm d = [d.toUpper] := if_pos hd
              rw [List.map_cons, List.cons.injEq] at hupper hlower
              simp [apply, hform, hrest.toLowerText_eq, hupper.1, hlower.2]
      | cons c letters =>
          have hrest : AllAscii (letters ++ digits) := hascii.cons.2
          simp [apply, hrest.toLowerText_eq, hletters.cons.2.toLowerText_eq, hlower]

/-- The letters of a word in a given case. -/
def WordCase.admits : WordCase → Char → Bool
  | .firstUpper => isLetter
  | .upper => isUppercase
  | .lower => isLowercase

/-- These are letters. -/
theorem WordCase.isLetter_of_admits {case : WordCase} {c : Char} (h : case.admits c) :
    isLetter c := by
  cases case with
  | firstUpper => exact h
  | upper => simp [isLetter, show isUppercase c from h]
  | lower => simp [isLetter, show isLowercase c from h]

/-- Casing letters of ASCII gives letters of the case. -/
theorem WordCase.admits_apply (case : WordCase) {letters : List Char} (hascii : AllAscii letters)
    (hletters : ∀ c ∈ letters, isLetter c) :
    AllAscii (case.apply letters) ∧ (case.apply letters).length = letters.length ∧
      ∀ c ∈ case.apply letters, case.admits c := by
  have hforms : ∀ c ∈ letters, isUppercase c.toUpper ∧ isLowercase c.toLower := by
    intro c hc
    have hletter := hletters c hc
    rw [isLetter, Bool.or_eq_true] at hletter
    obtain hlower | hupper := hletter
    · obtain ⟨hupper, -, hcapital⟩ := ascii_small (hascii c hc) hlower
      exact ⟨hcapital, ((ascii_forms (hascii c hc)).2.2.2 hupper).symm ▸ hlower⟩
    · obtain ⟨hlower, -, hsmall⟩ := ascii_capital (hascii c hc) hupper
      exact ⟨((ascii_forms (hascii c hc)).2.2.1 hlower).symm ▸ hupper, hsmall⟩
  cases case with
  | upper =>
      rw [apply, hascii.toUpperText_eq]
      exact ⟨hascii.map_forms.1, List.length_map _,
        List.forall_mem_map.2 fun c hc => (hforms c hc).1⟩
  | lower =>
      rw [apply, hascii.toLowerText_eq]
      exact ⟨hascii.map_forms.2, List.length_map _,
        List.forall_mem_map.2 fun c hc => (hforms c hc).2⟩
  | firstUpper =>
      cases letters with
      | nil => exact ⟨List.forall_mem_nil _, rfl, List.forall_mem_nil _⟩
      | cons c letters =>
          obtain ⟨hc, hrest⟩ := hascii.cons
          obtain ⟨hfirst, hbehind⟩ := List.forall_mem_cons.1 hforms
          have hform : upperForm c = [c.toUpper] := if_pos hc
          rw [apply, hform, hrest.toLowerText_eq, List.singleton_append]
          refine ⟨List.forall_mem_cons.2 ⟨(ascii_forms hc).1, hrest.map_forms.2⟩, by simp,
            List.forall_mem_cons.2 ⟨?_, List.forall_mem_map.2 fun d hd => ?_⟩⟩
          · simp [admits, isLetter, hfirst.1]
          · simp [admits, isLetter, (hbehind d hd).2]

/-- A word of ASCII is written with letters of the case, and with its digits behind them. -/
theorem IsBlock.write {w : Word} (h : IsBlock isLetter w.text) (style : CaseStyle) :
    IsBlock (style.wordCase w.acronym).admits (style.write w) := by
  obtain ⟨hne, hascii, letters, digits, htext, hletters, hdigits⟩ := h
  rw [htext] at hascii hne
  have hparts := AllAscii.append_iff.1 hascii
  obtain ⟨hcased, hlength, hadmits⟩ :=
    (style.wordCase w.acronym).admits_apply hparts.1 hletters
  rw [CaseStyle.write, htext, WordCase.apply_append_digits _ hascii hdigits]
  refine ⟨List.ne_nil_of_length_pos ?_, AllAscii.append_iff.2 ⟨hcased, hparts.2⟩,
    _, digits, rfl, hadmits, hdigits⟩
  rw [List.length_append, hlength, ← List.length_append]
  exact List.length_pos_iff.2 hne

/-- Letters of one case and digits are written in that case as they are. -/
theorem IsBlock.apply_eq {case : WordCase} (hcase : case ≠ .firstUpper)
    (h : IsBlock case.admits text) : case.apply text = text := by
  obtain ⟨-, hascii, letters, digits, rfl, hletters, hdigits⟩ := h
  have hparts := (AllAscii.append_iff.1 hascii).1
  rw [WordCase.apply_append_digits _ hascii hdigits]
  congr 1
  cases case with
  | firstUpper => exact absurd rfl hcase
  | upper =>
      rw [WordCase.apply, hparts.toUpperText_eq]
      exact hparts.map_toUpper fun c hc => (ascii_capital (hparts c hc) (hletters c hc)).1
  | lower =>
      rw [WordCase.apply, hparts.toLowerText_eq]
      exact hparts.map_toLower fun c hc => (ascii_small (hparts c hc) (hletters c hc)).1

/-! ## Names in snake case -/

/-- Digits are characters without case. -/
theorem isUncased_digit {c : Char} (hascii : c.toNat < 0x80) (h : isNumeric c) : isUncased c := by
  obtain ⟨hlower, hupper⟩ := ascii_digit hascii h
  simp [isUncased, isWordChar_of_isNumeric h, hlower, hupper]

/-- Digits continue no run of letters. -/
theorem avoids_digits (hascii : AllAscii text) (hdigits : ∀ c ∈ text, isNumeric c) :
    Avoids continuesLower text ∧ Avoids continuesUpper text := by
  have hclass : ∀ c ∈ text.head?, isLowercase c = false ∧ isUppercase c = false ∧
      isMark c = false := by
    intro c hc
    have hmem := List.mem_of_mem_head? hc
    obtain ⟨hlower, hupper⟩ := ascii_digit (hascii c hmem) (hdigits c hmem)
    exact ⟨hlower, hupper, (ascii_class (hascii c hmem)).1⟩
  constructor
  · intro c hc
    obtain ⟨hlower, -, hmark⟩ := hclass c hc
    rw [continuesLower, hlower, hmark]
    rfl
  · intro c hc
    obtain ⟨-, hupper, hmark⟩ := hclass c hc
    rw [continuesUpper, hupper, hmark]
    rfl

/-- Small letters take all of the digits behind them. -/
theorem lowerTail_block {letters digits : List Char} (hascii : AllAscii digits)
    (hletters : ∀ c ∈ letters, isLowercase c) (hdigits : ∀ c ∈ digits, isNumeric c) :
    lowerTail (letters ++ digits) = (letters ++ digits, []) := by
  have hstop := (avoids_digits hascii hdigits).1
  have hrun : ∀ c ∈ letters, continuesLower c := fun c hc => by simp [continuesLower, hletters c hc]
  rw [lowerTail, takeWhile_append_stop hstop, dropWhile_append_stop hstop,
    List.takeWhile_eq_self_iff.2 hrun, List.dropWhile_eq_nil_iff.2 hrun, List.nil_append,
    List.takeWhile_eq_self_iff.2 hdigits, List.dropWhile_eq_nil_iff.2 hdigits]

/-- Capitals take all of the digits behind them, whether there are one or more of them. -/
theorem cutCapitals_block {run digits : List Char} (hascii : AllAscii digits)
    (hdigits : ∀ c ∈ digits, isNumeric c) :
    cutCapitals run digits = ⟨run ++ digits, run ++ digits, []⟩ := by
  cases digits with
  | nil => rw [cutCapitals, List.append_nil]
  | cons d digits =>
      rw [cutCapitals]
      split
      · have htail := lowerTail_block hascii (List.forall_mem_nil _) hdigits
        rw [List.nil_append] at htail
        rw [htail]
      · rw [if_pos (hdigits d List.mem_cons_self), List.takeWhile_eq_self_iff.2 hdigits,
          List.dropWhile_eq_nil_iff.2 hdigits]

/-- Letters of one case are cut off with the digits behind them. -/
theorem cut_block {case : WordCase} (hcase : case ≠ .firstUpper) (h : IsBlock case.admits text) :
    cut text = ⟨text, text, []⟩ := by
  obtain ⟨hne, hascii, letters, digits, rfl, hletters, hdigits⟩ := h
  obtain ⟨hcased, hnumber⟩ := AllAscii.append_iff.1 hascii
  cases letters with
  | nil =>
      have hrun : ∀ c ∈ digits, isUncased c := fun c hc => isUncased_digit (hnumber c hc) (hdigits c hc)
      rw [List.nil_append] at hne ⊢
      obtain ⟨d, rest, rfl⟩ := List.exists_cons_of_ne_nil hne
      obtain ⟨hlower, hupper⟩ := ascii_digit hnumber.cons.1 (hdigits d List.mem_cons_self)
      simp only [cut, hlower, hupper, Bool.false_eq_true, if_false,
        List.takeWhile_eq_self_iff.2 hrun, List.dropWhile_eq_nil_iff.2 hrun]
  | cons c letters =>
      have hc := hletters c List.mem_cons_self
      cases case with
      | firstUpper => exact absurd rfl hcase
      | lower =>
          have htail := lowerTail_block hnumber hletters hdigits
          rw [List.cons_append] at htail ⊢
          simp only [cut, if_pos (show isLowercase c from hc), htail]
      | upper =>
          have hlower := (ascii_capital hcased.cons.1 hc).1
          have hrun : ∀ d ∈ c :: letters, continuesUpper d := fun d hd => by
            simp [continuesUpper, show isUppercase d from hletters d hd]
          rw [cut_of_capitals ⟨c, rfl, hc, hlower⟩ hrun (avoids_digits hnumber hdigits).2,
            cutCapitals_block hnumber hdigits]

/-- So they are one word. -/
theorem split_block {case : WordCase} (hcase : case ≠ .firstUpper) (h : IsBlock case.admits text) :
    (split text).map Word.text = [text] := by
  have hword := (h.imp fun _ => WordCase.isLetter_of_admits).isWordChar
  obtain ⟨c, rest, rfl⟩ := List.exists_cons_of_ne_nil h.ne_nil
  have hstart : (c :: rest).dropWhile (fun d => !isWordChar d) = c :: rest :=
    List.dropWhile_cons_of_neg (by simp [hword c List.mem_cons_self])
  rw [split_of_word hstart, cut_block hcase h]
  rfl

/-- The words of a name in snake case are those that it was joined from. -/
theorem split_snake {case : WordCase} (hcase : case ≠ .firstUpper) {texts : List (List Char)}
    (h : ∀ t ∈ texts, IsBlock case.admits t) :
    (split (['_'].intercalate texts)).map Word.text = texts := by
  rw [split_intercalate_underscore, List.map_flatMap,
    List.flatMap_congr fun t ht => split_block hcase (h t ht), List.flatMap_singleton']

/-- A name in snake case is made of its words again. -/
theorem combineWords_snake {style : CaseStyle} {case : WordCase} (hcase : case ≠ .firstUpper)
    (hstyle : ∀ acronym, style.wordCase acronym = case) (hseparator : style.separator = ['_'])
    {texts : List (List Char)} (h : ∀ t ∈ texts, IsBlock case.admits t)
    (hascii : AllAscii (['_'].intercalate texts))
    (hstart : startsLegally g (['_'].intercalate texts)) :
    combineWords g style (split (['_'].intercalate texts)) = ['_'].intercalate texts := by
  have hwords := split_snake hcase h
  refine combineWords_split_eq_self hascii hstart (fun w hw => ?_) (by rw [hseparator, hwords])
  have hblock := h w.text (hwords ▸ List.mem_map_of_mem hw)
  rw [CaseStyle.write, hstyle, hblock.apply_eq hcase]

/-! ## Names in Pascal case -/

/-- A text of letters and digits in which no small letter stands at the start or behind a digit. -/
structure Capitalized (cs : List Char) : Prop where
  ascii : AllAscii cs
  words : ∀ c ∈ cs, isWordChar c
  head : Avoids isLowercase cs
  joints : cs.IsChain fun a b => isNumeric a → isLowercase b = false

/-- Such texts may be joined. -/
theorem Capitalized.append {xs ys : List Char} (hxs : Capitalized xs) (hys : Capitalized ys) :
    Capitalized (xs ++ ys) where
  ascii := AllAscii.append_iff.2 ⟨hxs.ascii, hys.ascii⟩
  words := List.forall_mem_append.2 ⟨hxs.words, hys.words⟩
  head := by
    cases xs with
    | nil => exact hys.head
    | cons x xs => exact hxs.head
  joints := List.isChain_append.2 ⟨hxs.joints, hys.joints, fun _ _ b hb _ => hys.head b hb⟩

/-- They may be any number of them. -/
theorem capitalized_flatten {texts : List (List Char)} (h : ∀ t ∈ texts, Capitalized t) :
    Capitalized texts.flatten := by
  induction texts with
  | nil => exact ⟨List.forall_mem_nil _, List.forall_mem_nil _, nofun, .nil⟩
  | cons t texts ih =>
      obtain ⟨ht, htexts⟩ := List.forall_mem_cons.1 h
      exact ht.append (ih htexts)

/-- The end of such a text is another one, unless it begins with a small letter. -/
theorem Capitalized.right {xs ys : List Char} (h : Capitalized (xs ++ ys))
    (hhead : Avoids isLowercase ys) : Capitalized ys where
  ascii := (AllAscii.append_iff.1 h.ascii).2
  words := (List.forall_mem_append.1 h.words).2
  head := hhead
  joints := h.joints.right_of_append

/-- Behind letters, digits stand in front of digits only. -/
theorem joints_of_block (h : IsBlock isLetter text) :
    text.IsChain fun a b => isNumeric a → isLowercase b = false := by
  obtain ⟨-, hascii, letters, digits, rfl, hletters, hdigits⟩ := h
  rw [AllAscii.append_iff] at hascii
  have hletter : ∀ a ∈ letters, isNumeric a = false := by
    intro a ha
    have hcase := hletters a ha
    rw [isLetter, Bool.or_eq_true] at hcase
    obtain hlower | hupper := hcase
    · exact (ascii_small (hascii.1 a ha) hlower).2.1
    · exact (ascii_capital (hascii.1 a ha) hupper).2.1
  have hdigit : ∀ b ∈ digits, isLowercase b = false := fun b hb =>
    (ascii_digit (hascii.2 b hb) (hdigits b hb)).1
  have hpairs : (letters ++ digits).Pairwise fun a b => isNumeric a → isLowercase b = false := by
    refine List.pairwise_append.2 ⟨List.pairwise_iff_forall_sublist.2 fun hab hnumeric => ?_,
      List.pairwise_iff_forall_sublist.2 fun hab _ => ?_, fun a ha b hb _ => hdigit b hb⟩
    · rw [hletter _ (hab.subset List.mem_cons_self)] at hnumeric
      cases hnumeric
    · exact hdigit _ (hab.subset (by simp))
  exact hpairs.isChain

/-- A word of ASCII is written with no small letter at the start or behind a digit. -/
theorem capitalized_write {w : Word} (h : IsBlock isLetter w.text) :
    Capitalized (CaseStyle.pascal.write w) := by
  have hblock := (h.write .pascal).imp fun _ => WordCase.isLetter_of_admits
  refine ⟨hblock.ascii, hblock.isWordChar, fun c hc => ?_, joints_of_block hblock⟩
  obtain ⟨rest, hwrite⟩ := List.head?_eq_some_iff.1 hc
  have hsmall : isLowercase c = c.isLower :=
    if_pos (hblock.ascii c (hwrite ▸ List.mem_cons_self))
  rw [hsmall]
  exact head_write_pascal hwrite

/-- Behind characters of which all are digits, a small letter could only stand behind a digit. -/
theorem avoids_behind_digits {p : Char → Bool} (hp : ∀ c ∈ cs, p c → isNumeric c)
    (hhead : Avoids isLowercase cs)
    (hjoints : cs.IsChain fun a b => isNumeric a → isLowercase b = false) :
    Avoids isLowercase (cs.dropWhile p) := by
  induction cs with
  | nil => exact hhead
  | cons c cs ih =>
      obtain ⟨hc, hcs⟩ := List.forall_mem_cons.1 hp
      obtain ⟨hnext, hrest⟩ := List.isChain_cons.1 hjoints
      by_cases hpc : p c
      · rw [List.dropWhile_cons_of_pos hpc]
        exact ih hcs (fun d hd => hnext d hd (hc hpc)) hrest
      · rw [List.dropWhile_cons_of_neg hpc]
        exact hhead

/-- In Pascal case the word that is cut off is written as it is: it is an acronym, or a capital with
no other capital behind it. No small letter is left to begin what is behind it. -/
structure Settled (found : Cut) : Prop where
  text : (∀ c ∈ found.read, isLowercase c = false) ∨
    ∃ c tail, isUppercase c ∧ (∃ d ∈ tail, isLowercase d) ∧ (∀ d ∈ tail, isUppercase d = false) ∧
      found.read = c :: tail ∧ found.text = c :: tail
  rest : Avoids isLowercase found.rest

/-- A capital with small letters or digits behind it. -/
theorem settled_lowerTail {c : Char} (hc : isUppercase c) (hascii : AllAscii (c :: cs))
    (hjoints : cs.IsChain fun a b => isNumeric a → isLowercase b = false) :
    Settled ⟨c :: (lowerTail cs).1, c :: (lowerTail cs).1, (lowerTail cs).2⟩ := by
  have hsmall := (ascii_capital hascii.cons.1 hc).1
  have hbehind : Avoids isLowercase (cs.dropWhile continuesLower) := fun d hd =>
    (Bool.or_eq_false_iff.1 (avoids_dropWhile continuesLower cs d hd)).1
  refine ⟨?_, avoids_behind_digits (fun _ _ => id) hbehind
    (hjoints.suffix (List.dropWhile_suffix _))⟩
  by_cases hlower : ∃ d ∈ (lowerTail cs).1, isLowercase d
  · refine .inr ⟨c, _, hc, hlower, List.forall_mem_append.2 ⟨fun d hd => ?_, fun d hd => ?_⟩,
      rfl, rfl⟩
    · have hmem := hascii d (List.mem_cons_of_mem c ((List.takeWhile_prefix _).subset hd))
      have hcontinues := List.mem_takeWhile_imp hd
      rw [continuesLower, (ascii_class hmem).1, Bool.or_false] at hcontinues
      exact (ascii_small hmem hcontinues).1
    · have hmem := hascii d (List.mem_cons_of_mem c ((List.dropWhile_suffix _).subset
        ((List.takeWhile_prefix _).subset hd)))
      exact (ascii_digit hmem (List.mem_takeWhile_imp hd)).2
  · refine .inl (List.forall_mem_cons.2 ⟨hsmall, fun d hd => ?_⟩)
    exact Bool.eq_false_iff.2 fun hd' => hlower ⟨d, hd, hd'⟩

/-- Capitals in front of anything else. -/
theorem settled_cutCapitals {run rest : List Char} (hne : run ≠ [])
    (hrun : ∀ c ∈ run, isUppercase c) (hascii : AllAscii (run ++ rest))
    (hjoints : rest.IsChain fun a b => isNumeric a → isLowercase b = false) :
    Settled (cutCapitals run rest) := by
  obtain ⟨hcapitals, hrest⟩ := AllAscii.append_iff.1 hascii
  have hlarge : ∀ c ∈ run, isLowercase c = false := fun c hc =>
    (ascii_capital (hcapitals c hc) (hrun c hc)).1
  cases rest with
  | nil => exact ⟨.inl hlarge, nofun⟩
  | cons d behind =>
      rw [cutCapitals]
      split
      next hone =>
        obtain ⟨c, rfl⟩ := List.length_eq_one_iff.1 hone
        exact settled_lowerTail (hrun c List.mem_cons_self) hascii hjoints
      next =>
        split
        next hdigit =>
          refine ⟨.inl (List.forall_mem_append.2 ⟨hlarge, fun e he => ?_⟩),
            avoids_behind_digits (fun _ _ => id) ?_ hjoints⟩
          · exact (ascii_digit (hrest e ((List.takeWhile_prefix _).subset he))
              (List.mem_takeWhile_imp he)).1
          · rintro e ⟨⟩
            exact (ascii_digit hrest.cons.1 hdigit).1
        next =>
          split
          next =>
            -- The last capital begins what is behind the word.
            refine ⟨.inl hlarge, ?_⟩
            rw [← List.dropLast_append_getLast hne, List.length_append, List.length_singleton,
              Nat.add_sub_cancel, List.drop_left]
            rintro e ⟨⟩
            exact hlarge _ (List.getLast_mem hne)
          next hsmall =>
            refine ⟨.inl hlarge, ?_⟩
            rintro e ⟨⟩
            simpa using hsmall

/-- Every word that begins a text without small letters at the start or behind digits. -/
theorem Capitalized.settled_cut {c : Char} (h : Capitalized (c :: cs)) :
    Settled (cut (c :: cs)) := by
  have hlower : isLowercase c = false := h.head c rfl
  by_cases hupper : isUppercase c
  · have hcontinues : ∀ d ∈ c :: cs, continuesUpper d = isUppercase d := fun d hd => by
      rw [continuesUpper, (ascii_class (h.ascii d hd)).1, Bool.or_false]
    have hrun : ∀ d ∈ (c :: cs).takeWhile continuesUpper, isUppercase d := fun d hd => by
      rw [← hcontinues d ((List.takeWhile_prefix _).subset hd)]
      exact List.mem_takeWhile_imp hd
    have hne : (c :: cs).takeWhile continuesUpper ≠ [] := by
      rw [List.takeWhile_cons_of_pos ((hcontinues c List.mem_cons_self).trans hupper)]
      exact List.cons_ne_nil _ _
    have hascii := h.ascii
    rw [← List.takeWhile_append_dropWhile (p := continuesUpper) (l := c :: cs)] at hascii
    simp only [cut, hlower, hupper, Bool.false_eq_true, if_false, if_true]
    exact settled_cutCapitals hne hrun hascii (h.joints.suffix (List.dropWhile_suffix _))
  · have huncased : ∀ d ∈ c :: cs, isUncased d → isLowercase d = false ∧ isNumeric d := by
      intro d hd huncased
      simp only [isUncased, Bool.and_eq_true, Bool.not_eq_true'] at huncased
      obtain ⟨⟨hword, hsmall⟩, hcapital⟩ := huncased
      exact ⟨hsmall, by simpa [hsmall, hcapital] using (ascii_class (h.ascii d hd)).2 hword⟩
    simp only [cut, hlower, hupper, Bool.false_eq_true, if_false]
    refine ⟨.inl fun d hd => ?_, ?_⟩
    · exact (huncased d ((List.takeWhile_prefix _).subset hd) (List.mem_takeWhile_imp hd)).1
    · exact avoids_behind_digits (fun d hd hp => (huncased d hd hp).2) h.head h.joints

/-- A settled word is written as it is. -/
theorem Settled.write_eq {found : Cut} (h : Settled found) (hascii : AllAscii found.text)
    (hread : found.text ⊆ found.read) : CaseStyle.pascal.write (ofCut found) = found.text := by
  obtain hlarge | ⟨c, tail, hc, hsmall, htail, hwhole, htext⟩ := h.text
  · have hacronym : (!found.read.any isLowercase) = true := by simpa using hlarge
    simp only [CaseStyle.write, ofCut, hacronym, CaseStyle.wordCase, if_true, WordCase.apply]
    rw [hascii.toUpperText_eq, hascii.map_toUpper fun c hc => hlarge c (hread hc)]
  · have hacronym : (!found.read.any isLowercase) = false := by
      rw [hwhole]
      simpa using fun _ => hsmall
    rw [htext] at hascii
    obtain ⟨hcapital, hrest⟩ := hascii.cons
    have hform : upperForm c = [c] := by
      rw [upperForm, if_pos hcapital,
        (ascii_forms hcapital).2.2.1 (ascii_capital hcapital hc).1]
    simp only [CaseStyle.write, ofCut, hacronym, CaseStyle.wordCase, htext, Bool.false_eq_true,
      if_false, WordCase.apply, hform]
    rw [hrest.toLowerText_eq, hrest.map_toLower htail, List.singleton_append]

/-- In Pascal case, a text without small letters at the start or behind digits is written word for
word as it is. -/
theorem Capitalized.write_eq (h : Capitalized cs) :
    ∀ w ∈ split cs, CaseStyle.pascal.write w = w.text := by
  suffices hmain : ∀ words, Scans cs words → ∀ w ∈ words, CaseStyle.pascal.write w = w.text from
    hmain _ (scans_split cs)
  intro words hscans
  induction hscans with
  | done => exact List.forall_mem_nil _
  | @word gap cs c words hgap hc _ ih =>
      obtain rfl : gap = [] := List.eq_nil_iff_forall_not_mem.2 fun d hd => by
        have hword := h.words d (List.mem_append_left _ hd)
        rw [hgap d hd] at hword
        cases hword
      rw [List.nil_append] at h
      obtain ⟨hcuts, htext⟩ := cuts_cut hc cs
      have hsettled := h.settled_cut
      have hparts := h
      rw [← htext] at hparts
      have hread : (cut (c :: cs)).text ⊆ (cut (c :: cs)).read := by
        obtain hread | ⟨last, -, -, hread, -⟩ := hcuts.read_eq
        · rw [hread]
          exact List.Subset.refl _
        · rw [hread]
          exact List.subset_append_left _ _
      exact List.forall_mem_cons.2 ⟨hsettled.write_eq (AllAscii.append_iff.1 hparts.ascii).1 hread,
        ih (hparts.right hsettled.rest)⟩

/-- A name in Pascal case is made of its words again, although these need not be those that it was
joined from. -/
theorem combineWords_pascal (h : Capitalized cs) (hstart : startsLegally g cs) :
    combineWords g .pascal (split cs) = cs := by
  refine combineWords_split_eq_self h.ascii hstart h.write_eq ?_
  have hwords := (scans_split cs).laid.flatMap_text
  rw [List.filter_eq_self.2 h.words] at hwords
  exact (intercalate_nil_separator _).trans hwords

/-! ## All styles -/

/-- A text that starts with a character starts legally if this may start an identifier. -/
theorem startsLegally_of_isIdentifier (h : g.IsIdentifier cs) : startsLegally g cs := by
  obtain ⟨-, c, rest, rfl, hstart⟩ := h
  exact hstart

/-- Texts of ASCII with underscores between them are of ASCII. -/
theorem allAscii_intercalate {texts : List (List Char)} (h : ∀ t ∈ texts, AllAscii t) :
    AllAscii (['_'].intercalate texts) := by
  induction texts with
  | nil => exact List.forall_mem_nil _
  | cons first rest ih =>
      obtain ⟨hfirst, hrest⟩ := List.forall_mem_cons.1 h
      cases rest with
      | nil => simpa using hfirst
      | cons second rest =>
          rw [List.intercalate_cons_cons]
          exact AllAscii.append_iff.2 ⟨AllAscii.append_iff.2
            ⟨hfirst, List.forall_mem_singleton.2 (by decide)⟩, ih hrest⟩

/-- The words that may stand in for the words of a label consist of letters. -/
theorem isBlock_repairs : IsBlock isLetter emptyWord.text ∧ IsBlock isLetter startWord.text := by
  have hletters {text : List Char} (hne : text ≠ []) (hascii : AllAscii text)
      (hall : text.all isLetter) : IsBlock isLetter text :=
    ⟨hne, hascii, text, [], (List.append_nil text).symm, List.all_eq_true.1 hall,
      List.forall_mem_nil _⟩
  exact ⟨hletters (by decide) (by decide) (by decide),
    hletters (by decide) (by decide) (by decide)⟩

/-- What the words of a text of ASCII are joined to is of ASCII, and is made of its words again. -/
theorem combineWords_twice {style : CaseStyle} (hstyle : style ≠ .verbatim) (hascii : AllAscii cs) :
    AllAscii (combineWords g style (split cs)) ∧
      combineWords g style (split (combineWords g style (split cs)))
        = combineWords g style (split cs) := by
  have hstart := startsLegally_of_isIdentifier (isIdentifier_combineWords g style (split cs))
  obtain ⟨first, rest, hblocks, -, hname⟩ := combineWords_eq g style (split cs)
    isBlock_repairs.1 isBlock_repairs.2
    (flatMap_legalParts_ascii g hascii ▸ isBlock_of_scans (scans_split cs) hascii)
  rw [hname] at hstart ⊢
  cases style with
  | verbatim => exact absurd rfl hstyle
  | pascal =>
      have hwritten : ∀ t ∈ (first :: rest).map CaseStyle.pascal.write, Capitalized t :=
        List.forall_mem_map.2 fun w hw => capitalized_write (hblocks w hw)
      have hflat : CaseStyle.pascal.separator.intercalate
          ((first :: rest).map CaseStyle.pascal.write)
          = ((first :: rest).map CaseStyle.pascal.write).flatten := intercalate_nil_separator _
      rw [hflat] at hstart ⊢
      exact ⟨(capitalized_flatten hwritten).ascii,
        combineWords_pascal (capitalized_flatten hwritten) hstart⟩
  | snakeLower =>
      have hwritten : ∀ t ∈ (first :: rest).map CaseStyle.snakeLower.write,
          IsBlock WordCase.lower.admits t :=
        List.forall_mem_map.2 fun w hw => (hblocks w hw).write .snakeLower
      have htext := allAscii_intercalate fun t ht => (hwritten t ht).ascii
      exact ⟨htext, combineWords_snake (by decide) (fun _ => rfl) rfl hwritten htext hstart⟩
  | snakeUpper =>
      have hwritten : ∀ t ∈ (first :: rest).map CaseStyle.snakeUpper.write,
          IsBlock WordCase.upper.admits t :=
        List.forall_mem_map.2 fun w hw => (hblocks w hw).write .snakeUpper
      have htext := allAscii_intercalate fun t ht => (hwritten t ht).ascii
      exact ⟨htext, combineWords_snake (by decide) (fun _ => rfl) rfl hwritten htext hstart⟩

/-- Styling the name of a label of ASCII gives the name again, whatever it is for and in both
grammars. -/
theorem style_style (g : Grammar) (role : Role) {label : String} (h : AllAscii label.toList) :
    style g role (style g role label) = style g role label := by
  simp only [style, String.toList_ofList]
  congr 1
  by_cases hverbatim : role.caseStyle = .verbatim
  · rw [styleChars_verbatim hverbatim, styleChars_verbatim hverbatim,
      isComposed_sanitize g (compose_compose _), sanitize_eq_self (isIdentifier_sanitize g _)]
  · obtain ⟨hascii, htwice⟩ := combineWords_twice (g := g) hverbatim h
    rw [styleChars_words hverbatim label.toList, h.compose_eq, styleChars_words hverbatim,
      hascii.compose_eq, htwice]

/-- Letters of four words join to an acronym, which the name has as its first word. -/
theorem style_style_axes :
    AllAscii "2d x-y_z of HTTP2servers".toList ∧
      style .unicode .typeName "2d x-y_z of HTTP2servers" = "The2DXYZOfHTTP2Servers" ∧
      style .unicode .typeName "The2DXYZOfHTTP2Servers" = "The2DXYZOfHTTP2Servers" := by
  have hascii : AllAscii "2d x-y_z of HTTP2servers".toList := by decide +kernel
  have hname : style .unicode .typeName "2d x-y_z of HTTP2servers" = "The2DXYZOfHTTP2Servers" := by
    decide +kernel
  exact ⟨hascii, hname, hname ▸ style_style .unicode .typeName hascii⟩

end TypedJson.Naming
