import TypedJson.Proofs.Naming.Placement
import TypedJson.Proofs.Naming.Segmentation
import TypedJson.Proofs.Text.Classes

/-!
# Words found by scanning

Scanning skips what belongs to no word and then cuts off a word, up to the end of the label. A word
is cut off in one of three ways (`Cuts`), and nothing gets lost or is met twice in any of them. So
the words of a label, and the parts of them that a grammar admits, are laid out in it
(`legalParts_isSegmentation`).
-/

namespace TypedJson.Naming.Word

open Text

/-! ## Characters of words -/

variable {c : Char}

/-- A small character belongs to words. -/
theorem isWordChar_of_isLowercase (h : isLowercase c) : isWordChar c := by
  simp [isWordChar, isAlphanumeric, isAlphabetic_of_isLowercase h]

/-- A capital belongs to words. -/
theorem isWordChar_of_isUppercase (h : isUppercase c) : isWordChar c := by
  simp [isWordChar, isAlphanumeric, isAlphabetic_of_isUppercase h]

/-- A number belongs to words. -/
theorem isWordChar_of_isNumeric (h : isNumeric c) : isWordChar c := by
  simp [isWordChar, isAlphanumeric, h]

/-- A mark belongs to words. -/
theorem isWordChar_of_isMark (h : isMark c) : isWordChar c := by
  simp [isWordChar, h]

/-- The character is a letter with a case, or a mark as it may stand among such letters. -/
def isCasedOrMark (c : Char) : Bool :=
  isLowercase c || isUppercase c || isMark c

/-- What stands among cased letters belongs to words. -/
theorem isWordChar_of_isCasedOrMark (h : isCasedOrMark c) : isWordChar c := by
  rw [isCasedOrMark, Bool.or_eq_true, Bool.or_eq_true] at h
  rcases h with (h | h) | h
  · exact isWordChar_of_isLowercase h
  · exact isWordChar_of_isUppercase h
  · exact isWordChar_of_isMark h

/-- A run of small letters has such characters only. -/
theorem isCasedOrMark_of_continuesLower (h : continuesLower c) : isCasedOrMark c := by
  rw [continuesLower, Bool.or_eq_true] at h
  rcases h with h | h <;> simp [isCasedOrMark, h]

/-- So has a run of capitals. -/
theorem isCasedOrMark_of_continuesUpper (h : continuesUpper c) : isCasedOrMark c := by
  rw [continuesUpper, Bool.or_eq_true] at h
  rcases h with h | h <;> simp [isCasedOrMark, h]

/-- What continues no run of small letters is no mark. -/
theorem isMark_of_continuesLower (h : continuesLower c = false) : isMark c = false :=
  (Bool.or_eq_false_iff.1 h).2

/-- Nor is what continues no run of capitals. -/
theorem isMark_of_continuesUpper (h : continuesUpper c = false) : isMark c = false :=
  (Bool.or_eq_false_iff.1 h).2

/-! ## Cutting off a word -/

/-- The text does not begin with a character of the class. -/
def Avoids (p : Char → Bool) (cs : List Char) : Prop :=
  ∀ c ∈ cs.head?, p c = false

/-- What is behind a run does not continue it. -/
theorem avoids_dropWhile (p : Char → Bool) (cs : List Char) : Avoids p (cs.dropWhile p) := by
  intro c hc
  have hhead := List.head?_dropWhile_not p cs
  rw [Option.mem_def.1 hc] at hhead
  simpa using hhead

/-- A run of capitals and marks gives its last character up to a small letter behind it. -/
structure StepsBack (run : List Char) (last small : Char) : Prop where
  first : ∃ c ∈ run.head?, isUppercase c ∧ isLowercase c = false
  capitals : ∀ c ∈ run ++ [last], continuesUpper c
  before : isLowercase small
  stops : continuesUpper small = false ∧ isNumeric small = false

/-- The ways in which a word is cut off. -/
inductive Cuts : Cut → Prop
  /-- Letters with a case and the numbers behind them. A mark directly behind the letters would be
  one of them. -/
  | cased {letters numbers rest : List Char} :
      (∃ c ∈ letters.head?, isLowercase c ∨ isUppercase c) → (∀ c ∈ letters, isCasedOrMark c) →
      (∀ c ∈ numbers, isNumeric c) → (numbers = [] → Avoids isMark rest) →
      Cuts ⟨letters ++ numbers, letters ++ numbers, rest⟩
  /-- Capitals and marks, of which the last one is left to a small letter. -/
  | capitals {run rest : List Char} {last small : Char} :
      StepsBack run last small → Cuts ⟨run ++ [last], run, last :: small :: rest⟩
  /-- Characters without case. -/
  | uncased {run rest : List Char} :
      run ≠ [] → (∀ c ∈ run, isUncased c) → Avoids isUncased rest → Cuts ⟨run, run, rest⟩

/-- A text that begins with a character is not empty. -/
theorem ne_nil_of_head? {cs : List Char} {p : Char → Prop} (h : ∃ c ∈ cs.head?, p c) : cs ≠ [] := by
  rintro rfl
  obtain ⟨c, hc, -⟩ := h
  cases hc

/-- Letters take the small letters behind them with their marks, and the numbers behind those. -/
theorem cuts_lowerTail {front cs : List Char}
    (hfirst : ∃ c ∈ (front ++ cs.takeWhile continuesLower).head?, isLowercase c ∨ isUppercase c)
    (hfront : ∀ c ∈ front, isCasedOrMark c) :
    Cuts ⟨front ++ (lowerTail cs).1, front ++ (lowerTail cs).1, (lowerTail cs).2⟩ ∧
      front ++ (lowerTail cs).1 ++ (lowerTail cs).2 = front ++ cs := by
  have hletters : ∀ c ∈ front ++ cs.takeWhile continuesLower, isCasedOrMark c :=
    List.forall_mem_append.2 ⟨hfront, fun c hc =>
      isCasedOrMark_of_continuesLower (List.mem_takeWhile_imp hc)⟩
  simp only [lowerTail, ← List.append_assoc front]
  refine ⟨.cased hfirst hletters (fun c hc => List.mem_takeWhile_imp hc) fun hnone => ?_, ?_⟩
  · -- Without numbers, what is behind the letters does not continue them.
    have hsame :=
      List.takeWhile_append_dropWhile (p := isNumeric) (l := cs.dropWhile continuesLower)
    rw [hnone, List.nil_append] at hsame
    rw [hsame]
    exact fun c hc => isMark_of_continuesLower (avoids_dropWhile continuesLower cs c hc)
  · simp only [List.append_assoc, List.takeWhile_append_dropWhile]

/-- A word that begins with capitals is cut off in one of the ways. One capital alone takes small
letters behind it, and of several the last may be left to them. -/
theorem cuts_cutCapitals {run rest : List Char}
    (hfirst : ∃ c ∈ run.head?, isUppercase c ∧ isLowercase c = false)
    (hrun : ∀ c ∈ run, continuesUpper c) (hrest : Avoids continuesUpper rest) :
    Cuts (cutCapitals run rest) ∧
      (cutCapitals run rest).text ++ (cutCapitals run rest).rest = run ++ rest := by
  have hne : run ≠ [] := ne_nil_of_head? hfirst
  have hcased : ∃ c ∈ run.head?, isLowercase c ∨ isUppercase c :=
    hfirst.imp fun c hc => ⟨hc.1, .inr hc.2.1⟩
  have hletters : ∀ c ∈ run, isCasedOrMark c := fun c hc =>
    isCasedOrMark_of_continuesUpper (hrun c hc)
  have hwhole : Cuts ⟨run, run, rest⟩ := by
    have hnone : Cuts ⟨run ++ [], run ++ [], rest⟩ :=
      .cased hcased hletters (by simp) fun _ c hc => isMark_of_continuesUpper (hrest c hc)
    rwa [List.append_nil] at hnone
  unfold cutCapitals
  split
  · exact ⟨hwhole, rfl⟩
  · rename_i c behind
    by_cases hone : run.length = 1
    · rw [if_pos hone]
      exact cuts_lowerTail (by rwa [List.head?_append_of_ne_nil _ hne]) hletters
    · rw [if_neg hone]
      by_cases hnumeric : isNumeric c
      · rw [if_pos hnumeric]
        refine ⟨.cased hcased hletters (fun c hc => List.mem_takeWhile_imp hc) fun hnone => ?_, ?_⟩
        · rw [List.takeWhile_cons_of_pos hnumeric] at hnone
          cases hnone
        · rw [List.append_assoc, List.takeWhile_append_dropWhile]
      · rw [if_neg hnumeric]
        by_cases hsmall : isLowercase c
        · rw [if_pos hsmall]
          obtain ⟨init, last, rfl⟩ : ∃ init last, run = init ++ [last] :=
            ⟨_, _, (List.dropLast_append_getLast hne).symm⟩
          have hinit : init ≠ [] := by
            rintro rfl
            exact hone rfl
          rw [List.head?_append_of_ne_nil _ hinit] at hfirst
          have hback : StepsBack init last c :=
            ⟨hfirst, hrun, hsmall, hrest c rfl, Bool.eq_false_iff.2 hnumeric⟩
          have hcuts : Cuts ⟨init ++ [last], init, last :: c :: behind⟩ := .capitals hback
          simpa using hcuts
        · rw [if_neg hsmall]
          exact ⟨hwhole, rfl⟩

/-- A word is cut off in one of the ways, and what is behind it stays behind. -/
theorem cuts_cut {c : Char} (hc : isWordChar c) (cs : List Char) :
    Cuts (cut (c :: cs)) ∧ (cut (c :: cs)).text ++ (cut (c :: cs)).rest = c :: cs := by
  by_cases hlower : isLowercase c
  · have hhead : ((c :: cs).takeWhile continuesLower).head? = some c := by
      simp [continuesLower, hlower]
    have hcuts := @cuts_lowerTail [] (c :: cs) ⟨c, hhead, .inl hlower⟩ (List.forall_mem_nil _)
    simpa only [cut, hlower, if_true, List.nil_append] using hcuts
  · by_cases hupper : isUppercase c
    · have hhead : ((c :: cs).takeWhile continuesUpper).head? = some c := by
        simp [continuesUpper, hupper]
      have hfirst : ∃ d ∈ ((c :: cs).takeWhile continuesUpper).head?,
          isUppercase d ∧ isLowercase d = false := ⟨c, hhead, hupper, by simpa using hlower⟩
      have hcuts := cuts_cutCapitals hfirst (fun c hc => List.mem_takeWhile_imp hc)
        (avoids_dropWhile continuesUpper (c :: cs))
      rw [List.takeWhile_append_dropWhile] at hcuts
      simpa only [cut, hlower, hupper, if_true, if_false, Bool.false_eq_true] using hcuts
    · have huncased : isUncased c := by simp [isUncased, hc, hlower, hupper]
      simp only [cut, hlower, hupper, if_false, Bool.false_eq_true]
      refine ⟨.uncased ?_ (fun c hc => List.mem_takeWhile_imp hc) (avoids_dropWhile _ _),
        List.takeWhile_append_dropWhile⟩
      rw [List.takeWhile_cons_of_pos huncased]
      exact List.cons_ne_nil _ _

/-- A word that is cut off has a character, and characters of words only. -/
theorem Cuts.text_spec {found : Cut} (h : Cuts found) :
    found.text ≠ [] ∧ ∀ c ∈ found.text, isWordChar c := by
  cases h with
  | cased hfirst hletters hnumbers _ =>
      exact ⟨List.append_ne_nil_of_left_ne_nil (ne_nil_of_head? hfirst) _,
        List.forall_mem_append.2 ⟨fun c hc => isWordChar_of_isCasedOrMark (hletters c hc),
          fun c hc => isWordChar_of_isNumeric (hnumbers c hc)⟩⟩
  | capitals hback =>
      exact ⟨ne_nil_of_head? hback.first, fun c hc => isWordChar_of_isCasedOrMark
        (isCasedOrMark_of_continuesUpper (hback.capitals c (List.mem_append_left _ hc)))⟩
  | uncased hrun huncased _ =>
      refine ⟨hrun, fun c hc => ?_⟩
      have hchar := huncased c hc
      simp only [isUncased, Bool.and_eq_true] at hchar
      exact hchar.1.1

/-! ## Scanning a label -/

/-- The word that is cut off. It is an acronym if no small letter was read to find its end. -/
def ofCut (found : Cut) : Word :=
  ⟨found.text, !found.read.any isLowercase⟩

/-- The word that a character begins has a character, and characters of words only, and the text
goes on behind it. -/
theorem ofCut_spec {c : Char} (hc : isWordChar c) (cs : List Char) :
    (ofCut (cut (c :: cs))).text ≠ [] ∧ (∀ d ∈ (ofCut (cut (c :: cs))).text, isWordChar d) ∧
      (ofCut (cut (c :: cs))).text ++ (cut (c :: cs)).rest = c :: cs := by
  obtain ⟨hcuts, htext⟩ := cuts_cut hc cs
  exact ⟨hcuts.text_spec.1, hcuts.text_spec.2, htext⟩

/-- Scanning a text: what belongs to no word is skipped, and a word is cut off at the first
character of one, until there is none. -/
inductive Scans : List Char → List Word → Prop
  | done {gap : List Char} : (∀ c ∈ gap, isWordChar c = false) → Scans gap []
  | word {gap cs : List Char} {c : Char} {words : List Word} :
      (∀ c ∈ gap, isWordChar c = false) → isWordChar c → Scans (cut (c :: cs)).rest words →
      Scans (gap ++ c :: cs) (ofCut (cut (c :: cs)) :: words)

/-- Scanning comes to an end, and its words are those of the label. -/
theorem scans_split (label : List Char) : Scans label (split label) := by
  induction hlength : label.length using Nat.strong_induction_on generalizing label with
  | _ n ih =>
      subst hlength
      have hskipped : ∀ c ∈ label.takeWhile fun c => !isWordChar c, isWordChar c = false :=
        fun c hc => by simpa using List.mem_takeWhile_imp hc
      have hsplit := List.takeWhile_append_dropWhile (p := fun c => !isWordChar c) (l := label)
      cases hdrop : label.dropWhile fun c => !isWordChar c with
      | nil =>
          rw [hdrop, List.append_nil] at hsplit
          rw [split_of_no_word hdrop, ← hsplit]
          exact .done hskipped
      | cons c cs =>
          have hword := isWordChar_of_dropWhile hdrop
          have hle := (List.dropWhile_suffix (l := label) fun c => !isWordChar c).length_le
          have hlt := length_rest_cut_lt hword cs
          rw [hdrop] at hle hsplit
          rw [split_of_word hdrop]
          have hscans := ih _ (Nat.lt_of_lt_of_le hlt hle) (cut (c :: cs)).rest rfl
          exact hsplit ▸ .word hskipped hword hscans

namespace Scans

variable {cs : List Char} {words : List Word}

/-- The words that scanning finds are laid out in the text. -/
theorem laid (h : Scans cs words) : Laid isWordChar cs words := by
  induction h with
  | done hgap => exact .nil hgap
  | @word gap cs c words hgap hc _ ih =>
      obtain ⟨hne, hchars, htext⟩ := ofCut_spec hc cs
      have hlaid := Laid.cons hgap hne hchars ih
      rwa [htext] at hlaid

/-- Each word is the one that is cut off in its place. -/
theorem cut_of_mem_placesFrom (h : Scans cs words) (front : List Char) :
    ∀ p ∈ placesFrom isWordChar front cs words, ∃ c rest, isWordChar c ∧
      p.word.text ++ p.back = c :: rest ∧ p.word = ofCut (cut (c :: rest)) ∧
      p.back = (cut (c :: rest)).rest := by
  induction h generalizing front with
  | done => exact fun _ hp => absurd hp List.not_mem_nil
  | @word gap cs c words hgap hc _ ih =>
      obtain ⟨hne, hchars, htext⟩ := ofCut_spec hc cs
      have hplaces := @placesFrom_cons _ gap (cut (c :: cs)).rest _ hgap hne hchars front words
      rw [htext] at hplaces
      rw [hplaces, List.forall_mem_cons]
      exact ⟨⟨c, cs, hc, htext, rfl, rfl⟩, ih _⟩

end Scans

/-! ## The parts that a grammar admits -/

/-- A run of kept characters is one part, in front of the parts of what is behind it. -/
theorem laid_run {p : Char → Bool} {run rest : List Char} {words : List Word} (hne : run ≠ [])
    (hrun : ∀ c ∈ run, p c) (acronym : Bool) (h : Laid p rest words) :
    Laid p (run.reverse ++ rest) (⟨run.reverse, acronym⟩ :: words) := by
  rw [← List.nil_append (run.reverse ++ rest)]
  exact Laid.cons (w := ⟨run.reverse, acronym⟩) (by simp) (by simpa using hne)
    (fun c hc => hrun c (List.mem_reverse.1 hc)) h

/-- The runs of kept characters are laid out in the text, the first of them behind its start. -/
theorem laid_runsFrom (p : Char → Bool) (acronym : Bool) (run cs : List Char)
    (hrun : ∀ c ∈ run, p c) :
    Laid p (run.reverse ++ cs) ((runsFrom p run cs).map fun part => ⟨part, acronym⟩) := by
  fun_induction runsFrom p run cs with
  | case1 => exact .nil (by simp)
  | case2 run hne => exact laid_run hne hrun acronym (.nil (by simp))
  | case3 run c rest hc ih =>
      have hlaid := ih (List.forall_mem_cons.2 ⟨hc, hrun⟩)
      rwa [List.reverse_cons, List.append_assoc] at hlaid
  | case4 c rest hc ih =>
      have hgap : ∀ d ∈ [c], p d = false := by simpa using hc
      have hrest := (ih (by simp)).append_left hgap
      exact hrest
  | case5 run c rest hc hne ih =>
      have hgap : ∀ d ∈ [c], p d = false := by simpa using hc
      have hrest := (ih (by simp)).append_left hgap
      exact laid_run hne hrun acronym hrest

/-- The characters of a label that are in its names: those of words that the grammar admits. -/
def keeps (g : Grammar) (c : Char) : Bool :=
  isWordChar c && g.isPart c

/-- The parts of the words of a label are laid out in it. -/
theorem laid_legalParts (g : Grammar) (label : List Char) :
    Laid (keeps g) label ((split label).flatMap (legalParts g)) := by
  have hlaid := (scans_split label).laid
  refine hlaid.refine (fun c hc => (Bool.and_eq_true_iff.1 hc).1) fun w hw => ?_
  have hchars : ∀ c ∈ w.text, isWordChar c := fun c hc => by
    have hmem : c ∈ (split label).flatMap text := List.mem_flatMap.2 ⟨w, hw, hc⟩
    rw [hlaid.flatMap_text] at hmem
    exact (List.mem_filter.1 hmem).2
  refine (laid_runsFrom g.isPart w.acronym [] w.text (by simp)).congr fun c hc => ?_
  simp [keeps, hchars c hc]

/-- Scanning a label comes to an end, and its words and the parts of them that a grammar admits cut
it up: they stand in the label one behind the other, and the parts hold the characters of words that
the grammar admits, each of them once. A character that is dropped is in front of a part or behind
it. -/
theorem legalParts_isSegmentation (g : Grammar) (label : List Char) :
    Scans label (split label) ∧ IsSegmentation isWordChar label (split label) ∧
      IsSegmentation (keeps g) label ((split label).flatMap (legalParts g)) ∧
      ((split label).flatMap (legalParts g)).flatMap text = label.filter (keeps g) ∧
      ∀ i (h : i < label.length), keeps g label[i] = false →
        ∀ p ∈ places (keeps g) label ((split label).flatMap (legalParts g)),
          p.stop ≤ i ∨ i < p.start := by
  have hlaid := laid_legalParts g label
  refine ⟨scans_split label, (scans_split label).laid.isSegmentation, hlaid.isSegmentation,
    hlaid.flatMap_text, fun i hi hdropped p hp => ?_⟩
  by_contra hinside
  have hkept := (hlaid.isSegmentation.covers i hi).2 ⟨p, hp, by omega⟩
  rw [hdropped] at hkept
  cases hkept

end TypedJson.Naming.Word
