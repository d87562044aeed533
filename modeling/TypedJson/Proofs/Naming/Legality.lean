import TypedJson.Proofs.Naming.Uniqueness
import TypedJson.Proofs.Text.Casing

/-!
# Legality of assigned names

Every name that a scope assigns is an identifier of the grammar: it starts with a character that
may start one and continues with characters that may continue one. Labels are cut to legal
characters before they are cased, so the argument is that casing keeps them legal
(`Grammar.Admits.toUpperText`, `Grammar.Admits.toLowerText`) and that every style repairs its
start. The name of a type moreover starts with no small ASCII letter.
-/

namespace TypedJson.Naming

open Text

/-! ## Texts of a grammar -/

namespace Grammar

/-- Every character of the text may continue an identifier. -/
def Admits (g : Grammar) (cs : List Char) : Prop :=
  ∀ c ∈ cs, g.isPart c

/-- The text is an identifier. -/
structure IsIdentifier (g : Grammar) (cs : List Char) : Prop where
  admits : g.Admits cs
  start : ∃ c rest, cs = c :: rest ∧ g.isStart c

variable {g : Grammar}

/-- Admitted texts one behind the other are admitted. -/
theorem Admits.append {front back : List Char} (h : g.Admits front) (h' : g.Admits back) :
    g.Admits (front ++ back) :=
  fun c hc => (List.mem_append.1 hc).elim (h c) (h' c)

/-- An underscore is admitted. -/
theorem isPart_underscore (g : Grammar) : g.isPart '_' := by
  cases g <;> decide

/-- Letters and digits of ASCII lie within ASCII. -/
theorem toNat_of_isPart_ascii {c : Char} (h : ascii.isPart c) : c.toNat < 0x80 := by
  simp only [isPart, Char.isAlphanum, Char.isAlpha, Char.isUpper, Char.isLower, Char.isDigit,
    Bool.or_eq_true, Bool.and_eq_true, decide_eq_true_eq, beq_iff_eq] at h
  have hle {n : UInt32} (h : c.val ≤ n) : c.toNat ≤ n.toNat := UInt32.le_iff_toNat_le.1 h
  rcases h with ((h | h) | h) | rfl
  · exact Nat.lt_of_le_of_lt (hle h.2) (by decide)
  · exact Nat.lt_of_le_of_lt (hle h.2) (by decide)
  · exact Nat.lt_of_le_of_lt (hle h.2) (by decide)
  · decide

/-- The upper-case form of an admitted character is admitted. -/
theorem admits_upperForm {c : Char} (hc : g.isPart c) : g.Admits (upperForm c) := by
  cases g with
  | unicode => exact isIdentifierContinue_upperForm hc
  | ascii =>
      have hascii := toNat_of_isPart_ascii hc
      unfold upperForm
      rw [if_pos hascii]
      intro d hd
      rw [List.mem_singleton.1 hd]
      exact ascii_all (p := fun c => ascii.isPart c → ascii.isPart c.toUpper) (by decide) hascii hc

/-- The lower-case form of an admitted character is admitted. -/
theorem admits_lowerForm {c : Char} (hc : g.isPart c) : g.Admits (lowerForm c) := by
  cases g with
  | unicode => exact isIdentifierContinue_lowerForm hc
  | ascii =>
      have hascii := toNat_of_isPart_ascii hc
      unfold lowerForm
      rw [if_pos hascii]
      intro d hd
      rw [List.mem_singleton.1 hd]
      exact ascii_all (p := fun c => ascii.isPart c → ascii.isPart c.toLower) (by decide) hascii hc

/-- A grammar that admits the capital sigma admits the small one that ends words. -/
theorem isPart_finalSigma (h : g.isPart capitalSigma) : g.isPart finalSigma := by
  cases g with
  | unicode => decide
  | ascii => exact absurd h (by decide)

/-- The upper-case form of an admitted text is admitted. -/
theorem Admits.toUpperText {cs : List Char} (h : g.Admits cs) : g.Admits (toUpperText cs) := by
  intro d hd
  obtain ⟨c, hc, hd⟩ := List.mem_flatMap.1 hd
  exact admits_upperForm (h c hc) d hd

/-- The lower-case form of an admitted text is admitted. -/
theorem Admits.toLowerText {cs : List Char} (h : g.Admits cs) : g.Admits (toLowerText cs) := by
  suffices hmain : ∀ before, g.Admits (lowerFrom before cs) from hmain []
  induction cs with
  | nil => exact fun _ _ hd => by cases hd
  | cons c cs ih =>
      intro before
      rw [Admits, List.forall_mem_cons] at h
      refine Admits.append ?_ (ih h.2 _)
      split
      next hsigma =>
        intro d hd
        rw [List.mem_singleton.1 hd]
        exact isPart_finalSigma (hsigma.1 ▸ h.1)
      next => exact admits_lowerForm h.1

/-- Admitted texts joined by an admitted separator are admitted. -/
theorem Admits.intercalate {separator : List Char} (hseparator : g.Admits separator)
    {texts : List (List Char)} (h : ∀ text ∈ texts, g.Admits text) :
    g.Admits (separator.intercalate texts) := by
  induction texts with
  | nil => exact fun _ hc => by cases hc
  | cons text texts ih =>
      rw [List.forall_mem_cons] at h
      cases texts with
      | nil =>
          intro c hc
          exact h.1 c (by simpa using hc)
      | cons second texts =>
          rw [List.intercalate_cons_cons]
          exact (h.1.append hseparator).append (ih h.2)

end Grammar

/-! ## Words -/

/-- A run consists of characters that satisfy its predicate. -/
theorem mem_runsFrom {p : Char → Bool} {cs run part : List Char} (hrun : ∀ c ∈ run, p c)
    (h : part ∈ Word.runsFrom p run cs) : ∀ c ∈ part, p c := by
  induction cs generalizing run with
  | nil =>
      unfold Word.runsFrom at h
      split at h
      · cases h
      · rw [List.mem_singleton.1 h]
        exact fun c hc => hrun c (List.mem_reverse.1 hc)
  | cons c cs ih =>
      unfold Word.runsFrom at h
      split at h
      next hc => exact ih (List.forall_mem_cons.2 ⟨hc, hrun⟩) h
      next =>
        split at h
        · exact ih (by simp) h
        · obtain rfl | h := List.mem_cons.1 h
          · exact fun c hc => hrun c (List.mem_reverse.1 hc)
          · exact ih (by simp) h

/-- The legal parts of words are admitted. -/
theorem admits_legalParts (g : Grammar) (words : List Word) :
    ∀ w ∈ words.flatMap (Word.legalParts g), g.Admits w.text := by
  intro w hw
  obtain ⟨word, -, hw⟩ := List.mem_flatMap.1 hw
  obtain ⟨part, hpart, rfl⟩ := List.mem_map.1 hw
  exact mem_runsFrom (by simp) hpart

/-- A style writes an admitted word with admitted characters. -/
theorem Grammar.Admits.write {g : Grammar} {w : Word} (h : g.Admits w.text) (style : CaseStyle) :
    g.Admits (style.write w) := by
  unfold CaseStyle.write
  cases style.wordCase w.acronym with
  | upper => exact h.toUpperText
  | lower => exact h.toLowerText
  | firstUpper =>
      obtain ⟨text, acronym⟩ := w
      cases text with
      | nil => exact h
      | cons c rest =>
          rw [Grammar.Admits, List.forall_mem_cons] at h
          exact (Grammar.admits_upperForm h.1).append (Grammar.Admits.toLowerText h.2)

/-- The upper-case form of a character has a character. -/
theorem upperForm_ne_nil (c : Char) : upperForm c ≠ [] := by
  unfold upperForm mapCase
  split
  · exact List.cons_ne_nil _ _
  · split
    next form hform =>
      have hall : Table.upperSequences.all fun entry => !entry.2.isEmpty := by decide
      have hne := List.all_eq_true.1 hall _ (Ordered.mem_of_lookup hform)
      simpa using hne
    · split <;> exact List.cons_ne_nil _ _

/-- Pascal case starts a word with a character of the upper-case form of its first one. -/
theorem mem_upperForm_of_write_pascal {w : Word} {c : Char} {rest : List Char}
    (hwrite : CaseStyle.pascal.write w = c :: rest) : ∃ d ∈ w.text, c ∈ upperForm d := by
  have hfirst {d : Char} {behind : List Char} (hform : upperForm d ++ behind = c :: rest) :
      c ∈ upperForm d := by
    obtain ⟨e, form, he⟩ := List.exists_cons_of_ne_nil (upperForm_ne_nil d)
    rw [he] at hform ⊢
    rw [← (List.cons.inj hform).1]
    exact List.mem_cons_self
  obtain ⟨text, acronym⟩ := w
  cases text with
  | nil => cases acronym <;> cases hwrite
  | cons d tail =>
      cases acronym with
      | false => exact ⟨d, List.mem_cons_self, hfirst hwrite⟩
      | true =>
          have hupper : toUpperText (d :: tail) = c :: rest := hwrite
          rw [toUpperText, List.flatMap_cons] at hupper
          exact ⟨d, List.mem_cons_self, hfirst hupper⟩

/-- So it starts no word with a small letter. -/
theorem head_write_pascal {w : Word} {c : Char} {rest : List Char}
    (hwrite : CaseStyle.pascal.write w = c :: rest) : c.isLower = false := by
  obtain ⟨d, -, hc⟩ := mem_upperForm_of_write_pascal hwrite
  simpa using isLower_upperForm d c hc

/-! ## Styles -/

/-- The text starts with a character that is no small letter. -/
def StartsLarge (cs : List Char) : Prop :=
  ∃ c rest, cs = c :: rest ∧ c.isLower = false

/-- Texts joined by a separator start with what the first of them starts with. -/
theorem intercalate_cons_of_cons (separator : List Char) (c : Char) (text : List Char)
    (texts : List (List Char)) :
    ∃ rest, separator.intercalate ((c :: text) :: texts) = c :: rest := by
  cases texts with
  | nil => exact ⟨text, by simp⟩
  | cons second texts =>
      refine ⟨text ++ separator ++ separator.intercalate (second :: texts), ?_⟩
      rw [List.intercalate_cons_cons]
      rfl

/-- A first text that starts legally, joined with others, is an identifier. -/
theorem isIdentifier_intercalate {g : Grammar} {separator : List Char}
    (hseparator : g.Admits separator) {c : Char} {text : List Char} {texts : List (List Char)}
    (hstart : g.isStart c) (h : ∀ cs ∈ (c :: text) :: texts, g.Admits cs) :
    g.IsIdentifier (separator.intercalate ((c :: text) :: texts)) := by
  obtain ⟨rest, hrest⟩ := intercalate_cons_of_cons separator c text texts
  exact ⟨hseparator.intercalate h, c, rest, hrest, hstart⟩

/-- What stands between two words is admitted. -/
theorem admits_separator (g : Grammar) (style : CaseStyle) : g.Admits style.separator := by
  cases style with
  | pascal => exact List.forall_mem_nil _
  | verbatim => exact List.forall_mem_nil _
  | snakeLower => exact List.forall_mem_singleton.2 g.isPart_underscore
  | snakeUpper => exact List.forall_mem_singleton.2 g.isPart_underscore

/-- The word for a label without legal characters is admitted. -/
theorem admits_emptyWord (g : Grammar) : g.Admits emptyWord.text :=
  List.all_eq_true.1 (by cases g <;> decide)

/-- The word in front of an illegal start starts legally in every style. -/
theorem write_startWord (g : Grammar) (style : CaseStyle) :
    ∃ c rest, style.write startWord = c :: rest ∧ g.isStart c := by
  cases style with
  | pascal => exact ⟨'T', ['h', 'e'], by decide, by cases g <;> decide⟩
  | snakeLower => exact ⟨'t', ['h', 'e'], by decide, by cases g <;> decide⟩
  | snakeUpper => exact ⟨'T', ['H', 'E'], by decide, by cases g <;> decide⟩
  | verbatim => exact ⟨'t', ['h', 'e'], by decide, by cases g <;> decide⟩

/-- The word in front of an illegal start is admitted. -/
theorem admits_startWord (g : Grammar) : g.Admits startWord.text :=
  List.all_eq_true.1 (by cases g <;> decide)

/-- Words are joined behind a first one that starts legally: the first of the label, or the one put
in front of it. What holds of the legal parts of a label and of the two words that may stand in for
one holds of all that are joined. -/
theorem combineWords_eq (g : Grammar) (style : CaseStyle) (words : List Word) {p : Word → Prop}
    (hempty : p emptyWord) (hstart : p startWord)
    (hparts : ∀ w ∈ words.flatMap (Word.legalParts g), p w) :
    ∃ first rest, (∀ w ∈ first :: rest, p w) ∧ startsLegally g (style.write first) ∧
      combineWords g style words = style.separator.intercalate ((first :: rest).map style.write) := by
  obtain ⟨first, rest, hall, hcombine⟩ : ∃ first rest, (∀ w ∈ first :: rest, p w) ∧
      combineWords g style words = style.separator.intercalate
        (if startsLegally g (style.write first) then style.write first :: rest.map style.write
        else style.write startWord :: style.write first :: rest.map style.write) := by
    unfold combineWords
    cases hflat : words.flatMap (Word.legalParts g) with
    | nil => exact ⟨emptyWord, [], List.forall_mem_singleton.2 hempty, rfl⟩
    | cons first rest => exact ⟨first, rest, hflat ▸ hparts, rfl⟩
  by_cases hstarts : startsLegally g (style.write first)
  · rw [if_pos hstarts] at hcombine
    exact ⟨first, rest, hall, hstarts, hcombine⟩
  · rw [if_neg hstarts] at hcombine
    obtain ⟨c, text, hwrite, hlegal⟩ := write_startWord g style
    refine ⟨startWord, first :: rest, List.forall_mem_cons.2 ⟨hstart, hall⟩, ?_, hcombine⟩
    rw [hwrite]
    exact hlegal

/-- Words are cased and joined to an identifier. -/
theorem isIdentifier_combineWords (g : Grammar) (style : CaseStyle) (words : List Word) :
    g.IsIdentifier (combineWords g style words) := by
  obtain ⟨first, rest, hadmits, hstarts, hcombine⟩ := combineWords_eq g style words
    (admits_emptyWord g) (admits_startWord g) (admits_legalParts g words)
  have hwritten : ∀ cs ∈ (first :: rest).map style.write, g.Admits cs := by
    intro cs hcs
    obtain ⟨w, hw, rfl⟩ := List.mem_map.1 hcs
    exact (hadmits w hw).write style
  rw [List.map_cons] at hwritten
  rw [hcombine, List.map_cons]
  cases hfirst : style.write first with
  | nil => rw [hfirst] at hstarts; cases hstarts
  | cons c text =>
      rw [hfirst] at hstarts hwritten
      exact isIdentifier_intercalate (admits_separator g style) hstarts hwritten

/-- In Pascal case, words are joined to a text that starts with no small letter. -/
theorem startsLarge_combineWords (g : Grammar) (words : List Word) :
    StartsLarge (combineWords g .pascal words) := by
  obtain ⟨first, rest, -, hstarts, hcombine⟩ := combineWords_eq g .pascal words
    (admits_emptyWord g) (admits_startWord g) (admits_legalParts g words)
  rw [hcombine, List.map_cons]
  cases hfirst : CaseStyle.pascal.write first with
  | nil => rw [hfirst] at hstarts; cases hstarts
  | cons c text =>
      obtain ⟨behind, hbehind⟩ := intercalate_cons_of_cons CaseStyle.pascal.separator c text
        (rest.map CaseStyle.pascal.write)
      exact ⟨c, behind, hbehind, head_write_pascal hfirst⟩

/-- An admitted text with a repaired start is an identifier. -/
theorem isIdentifier_repaired {g : Grammar} {kept : List Char} (h : g.Admits kept) :
    g.IsIdentifier (if startsLegally g kept then kept else '_' :: kept) := by
  by_cases hstarts : startsLegally g kept
  · rw [if_pos hstarts]
    cases kept with
    | nil => cases hstarts
    | cons c rest => exact ⟨h, c, rest, rfl, hstarts⟩
  · rw [if_neg hstarts]
    exact ⟨List.forall_mem_cons.2 ⟨g.isPart_underscore, h⟩, '_', kept, rfl, by cases g <;> decide⟩

/-- A kept label, repaired, is an identifier. -/
theorem isIdentifier_sanitize (g : Grammar) (label : List Char) :
    g.IsIdentifier (sanitize g label) := by
  have hkept : g.Admits (label.map fun c => if g.isPart c then c else '_') := by
    intro c hc
    obtain ⟨d, -, rfl⟩ := List.mem_map.1 hc
    split
    next hpart => exact hpart
    next => exact g.isPart_underscore
  unfold sanitize
  cases hmap : label.map fun c => if g.isPart c then c else '_' with
  | nil => exact isIdentifier_repaired (admits_emptyWord g)
  | cons c rest =>
      rw [hmap] at hkept
      exact isIdentifier_repaired hkept

/-- A style makes an identifier of every label. -/
theorem isIdentifier_style (g : Grammar) (role : Role) (label : String) :
    g.IsIdentifier (style g role label).toList := by
  unfold style styleChars
  rw [String.toList_ofList]
  split
  · exact isIdentifier_sanitize g _
  · exact isIdentifier_combineWords g _ _

/-- The style of types makes a text that starts with no small letter. -/
theorem startsLarge_style (g : Grammar) (label : String) :
    StartsLarge (style g .typeName label).toList := by
  unfold style styleChars
  rw [String.toList_ofList]
  exact startsLarge_combineWords g _

/-- An identifier with an underscore behind it is one. -/
theorem Grammar.IsIdentifier.escaped {g : Grammar} {name : String}
    (h : g.IsIdentifier name.toList) : g.IsIdentifier (name ++ "_").toList := by
  obtain ⟨hadmits, c, rest, hname, hstart⟩ := h
  rw [String.toList_append]
  refine ⟨hadmits.append (List.forall_mem_singleton.2 g.isPart_underscore), c, rest ++ ['_'], ?_, hstart⟩
  rw [hname]
  rfl

/-- A text keeps its start with an underscore behind it. -/
theorem StartsLarge.escaped {name : String} (h : StartsLarge name.toList) :
    StartsLarge (name ++ "_").toList := by
  obtain ⟨c, rest, hstart, hlower⟩ := h
  refine ⟨c, rest ++ "_".toList, ?_, hlower⟩
  rw [String.toList_append, hstart]
  rfl

/-! ## Scopes -/

namespace Namespace

variable {ns : Namespace} {w : String}

/-- The rule of a scope chooses identifiers of the grammar of the request only. -/
theorem Chooses.isIdentifier {r : Request} (h : Chooses ns r w) :
    r.grammar.IsIdentifier w.toList := by
  cases h with
  | preferred => exact isIdentifier_style _ _ _
  | escaped => exact (isIdentifier_style _ _ _).escaped
  | numbered => exact isIdentifier_style _ _ _

/-- For a type the rule chooses names that start with no small letter. -/
theorem Chooses.startsLarge {r : Request} (hrole : r.role = .typeName) (h : Chooses ns r w) :
    StartsLarge w.toList := by
  obtain ⟨label, role, g⟩ := r
  obtain rfl : role = .typeName := hrole
  cases h with
  | preferred => exact startsLarge_style _ _
  | escaped => exact (startsLarge_style _ _).escaped
  | numbered => exact startsLarge_style _ _

/-- What holds of every name that the rule may choose holds of all names that a run gives. -/
theorem forall_run {p : String → Prop} {requests : List Request}
    (h : ∀ r ∈ requests, ∀ ns w, Chooses ns r w → p w) (ns : Namespace) :
    ∀ w ∈ (ns.run requests).1, p w := by
  induction requests generalizing ns with
  | nil => exact fun w hw => absurd hw List.not_mem_nil
  | cons r rest ih =>
      rw [List.forall_mem_cons] at h
      unfold run
      rw [List.forall_mem_cons]
      exact ⟨h.1 ns _ (ns.answer_chooses r), ih h.2 _⟩

/-- Whatever its state, a scope assigns to every label a name with a character, of which the first
may start an identifier and every one may belong to it. -/
theorem assign_isIdentifier (ns : Namespace) (g : Grammar) (label : String) (role : Role) :
    ∃ c rest, (ns.assign g label role).1.toList = c :: rest ∧ g.isStart c ∧
      ∀ d ∈ c :: rest, g.isPart d := by
  obtain ⟨hadmits, c, rest, hname, hstart⟩ :=
    (ns.answer_chooses ⟨label, role, g⟩).isIdentifier
  exact ⟨c, rest, hname, hstart, hname ▸ hadmits⟩

end Namespace

end TypedJson.Naming
