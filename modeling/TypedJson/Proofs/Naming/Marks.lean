import TypedJson.Proofs.Naming.Scanning

/-!
# Marks and small letters at the ends of words

A mark goes with the character in front of it, and an acronym is a word without small letters. Both
hold but for what is directly behind a word. `marksStay_iff` lists the ends of words that part a
mark from its character, and `acronym_iff` says which words without small letters are no acronyms:
runs of capitals that gave a small mark up to the next word.
-/

namespace TypedJson.Naming.Word

open Text

/-! ## Marks -/

/-- Marks stay with their characters. -/
structure MarksStay (label : List Char) : Prop where
  /-- A word that begins with a mark stands at the start of the label or behind a character of no
  word. -/
  heads : ∀ p ∈ places isWordChar label (split label), ∀ m ∈ p.word.text.head?, isMark m →
    ∀ c ∈ p.front.getLast?, isWordChar c = false
  /-- Any other mark is in the word of the character in front of it. -/
  stays : ∀ i (h : i + 1 < label.length), isWordChar label[i] → isMark label[i + 1] →
    ∃ p ∈ places isWordChar label (split label), p.start ≤ i ∧ i + 1 < p.stop

/-- The ends of words that part a mark from its character: the text of the word and what is behind
it. -/
inductive Parted : List Char → List Char → Prop
  /-- The numbers behind letters take no marks. -/
  | number {letters numbers back : List Char} {m : Char} :
      (∃ c ∈ letters.head?, isLowercase c ∨ isUppercase c) → (∀ c ∈ letters, isCasedOrMark c) →
      numbers ≠ [] → (∀ c ∈ numbers, isNumeric c) → isMark m →
      Parted (letters ++ numbers) (m :: back)
  /-- What a run of capitals gives up to a small letter is a mark. -/
  | capitals {run back : List Char} {m small : Char} :
      StepsBack run m small → isMark m → Parted run (m :: small :: back)
  /-- A mark with a case ends a run of characters without case. -/
  | uncased {run back : List Char} {m : Char} :
      (∀ c ∈ run, isUncased c) → isMark m → isLowercase m ∨ isUppercase m →
      Parted run (m :: back)

/-- A word that is cut off parts a mark from it in these ways only. -/
theorem parted_iff {found : Cut} (h : Cuts found) :
    Parted found.text found.rest ↔ ∃ m ∈ found.rest.head?, isMark m := by
  constructor
  · generalize found.text = text, found.rest = rest
    rintro (⟨-, -, -, -, hmark⟩ | ⟨-, hmark⟩ | ⟨-, hmark, -⟩) <;> exact ⟨_, rfl, hmark⟩
  · rintro ⟨m, hm, hmark⟩
    cases h with
    | @cased letters numbers rest hfirst hletters hnumbers havoids =>
        obtain ⟨back, rfl⟩ := List.head?_eq_some_iff.1 hm
        refine .number hfirst hletters ?_ hnumbers hmark
        rintro rfl
        rw [havoids rfl m rfl] at hmark
        cases hmark
    | capitals hback =>
        cases hm
        exact .capitals hback hmark
    | @uncased run rest _ huncased havoids =>
        obtain ⟨back, rfl⟩ := List.head?_eq_some_iff.1 hm
        refine .uncased huncased hmark ?_
        have hcased := havoids m rfl
        simp only [isUncased, isWordChar_of_isMark hmark, Bool.true_and, Bool.and_eq_false_iff,
          Bool.not_eq_false'] at hcased
        exact hcased

variable {label : List Char}

/-- The word in a place is the one that is cut off there. -/
theorem cut_of_mem_places {p : Place} (hp : p ∈ places isWordChar label (split label)) :
    Cuts (cut (p.word.text ++ p.back)) ∧ p.word = ofCut (cut (p.word.text ++ p.back)) ∧
      p.back = (cut (p.word.text ++ p.back)).rest := by
  obtain ⟨c, rest, hc, htext, hword, hback⟩ := (scans_split label).cut_of_mem_placesFrom [] p hp
  rw [htext]
  exact ⟨(cuts_cut hc rest).1, hword, hback⟩

/-- No word begins with a mark behind a character of words, if marks are in the words of the
characters in front of them: the mark would be in two places. -/
theorem marksStay_of_stays (hstays : ∀ i (h : i + 1 < label.length), isWordChar label[i] →
    isMark label[i + 1] →
      ∃ p ∈ places isWordChar label (split label), p.start ≤ i ∧ i + 1 < p.stop) :
    MarksStay label := by
  have hseg := (scans_split label).laid.isSegmentation
  refine ⟨fun p hp m hm hmark c hc => ?_, hstays⟩
  by_contra hword
  obtain ⟨front, hfront⟩ := List.getLast?_eq_some_iff.1 hc
  obtain ⟨text, htext⟩ := List.head?_eq_some_iff.1 hm
  have hlabel := hseg.stands p hp
  rw [hfront, htext] at hlabel
  have hlength : front.length + 1 < label.length := by simp [← hlabel]
  obtain ⟨q, hq, hstart, hstop⟩ := hstays front.length hlength (by simpa [← hlabel] using hword)
    (by simpa [← hlabel] using hmark)
  have hposition : p.start = front.length + 1 := by simp [Place.start, hfront]
  obtain rfl := hseg.eq_of_mem hp hq (i := p.start) ⟨by omega, hseg.start_lt_stop hp⟩ (by omega)
  omega

/-- Marks stay with their characters if and only if none is directly behind a word. -/
theorem marksStay_iff_avoids : MarksStay label ↔
    ∀ p ∈ places isWordChar label (split label), ¬ ∃ m ∈ p.back.head?, isMark m := by
  have hseg := (scans_split label).laid.isSegmentation
  constructor
  · rintro hstays p hp ⟨m, hm, hmark⟩
    have hlt := hseg.start_lt_stop hp
    -- The mark is in the word of the last character of the place, and so that place is longer.
    have hbehind := hseg.getElem?_stop hp
    rw [Option.mem_def.1 hm, List.getElem?_eq_some_iff] at hbehind
    obtain ⟨hstop, rfl⟩ := hbehind
    have hi : p.stop - 1 + 1 = p.stop := by omega
    have hword := (hseg.covers (p.stop - 1) (by omega)).2 ⟨p, hp, by omega⟩
    obtain ⟨q, hq, hstart, hend⟩ := hstays.stays (p.stop - 1) (by omega) hword (by simpa [hi])
    obtain rfl := hseg.eq_of_mem hp hq (i := p.stop - 1) (by omega) (by omega)
    omega
  · refine fun hnone => marksStay_of_stays fun i hi hword hmark => ?_
    obtain ⟨p, hp, hstart, hstop⟩ := (hseg.covers i (by omega)).1 hword
    refine ⟨p, hp, hstart, ?_⟩
    by_contra hend
    have hbehind := hseg.getElem?_stop hp
    rw [show p.stop = i + 1 by omega, List.getElem?_eq_getElem hi] at hbehind
    exact hnone p hp ⟨_, hbehind.symm, hmark⟩

/-- Marks stay with their characters if and only if no word parts a mark from it. -/
theorem marksStay_iff : MarksStay label ↔
    ∀ p ∈ places isWordChar label (split label), ¬ Parted p.word.text p.back := by
  rw [marksStay_iff_avoids]
  refine forall₂_congr fun p hp => not_congr ?_
  obtain ⟨hcuts, hword, hback⟩ := cut_of_mem_places hp
  have hparted := parted_iff hcuts
  rw [← hback, show (cut (p.word.text ++ p.back)).text = p.word.text from
    (congrArg text hword).symm] at hparted
  exact hparted.symm

/-- A capital with a caron in front of small letters loses it: the words of the label are the
capital, the caron and the small letters. -/
theorem not_marksStay : ¬ MarksStay "J\u030Can".toList := by
  intro h
  have hjoint : ¬ ∃ p ∈ places isWordChar "J\u030Can".toList (split "J\u030Can".toList),
      p.start ≤ 0 ∧ 0 + 1 < p.stop := by decide +kernel
  exact hjoint (h.stays 0 (by decide) (by decide) (by decide +kernel))

/-! ## Acronyms -/

/-- A run of capitals has left a small mark to the small letter behind it. -/
def LeavesSmall (text back : List Char) : Prop :=
  ∃ last small rest, back = last :: small :: rest ∧ isLowercase last ∧ StepsBack text last small

/-- A word that begins with a capital is cut off its run of capitals and marks. -/
theorem cut_of_capitals {run rest : List Char}
    (hfirst : ∃ c ∈ run.head?, isUppercase c ∧ isLowercase c = false)
    (hrun : ∀ c ∈ run, continuesUpper c) (hrest : Avoids continuesUpper rest) :
    cut (run ++ rest) = cutCapitals run rest := by
  have htake : (run ++ rest).takeWhile continuesUpper = run := by
    rw [takeWhile_append_stop hrest, List.takeWhile_eq_self_iff.2 hrun]
  have hdrop : (run ++ rest).dropWhile continuesUpper = rest := by
    rw [dropWhile_append_stop hrest, List.dropWhile_eq_nil_iff.2 hrun, List.nil_append]
  obtain ⟨c, hc, hupper, hlower⟩ := hfirst
  obtain ⟨more, rfl⟩ := List.head?_eq_some_iff.1 hc
  rw [List.cons_append] at htake hdrop ⊢
  simp only [cut, hlower, hupper, Bool.false_eq_true, if_false, if_true, htake, hdrop]

/-- A run of capitals that stops at a small letter is cut off in front of its last character. -/
theorem cut_of_stepsBack {run : List Char} {last small : Char} (h : StepsBack run last small)
    (rest : List Char) :
    cut (run ++ last :: small :: rest) = ⟨run ++ [last], run, last :: small :: rest⟩ := by
  have hne : run ≠ [] := ne_nil_of_head? h.first
  have hlength : (run ++ [last]).length ≠ 1 := by
    have := List.length_pos_iff.2 hne
    simp only [List.length_append, List.length_singleton]
    omega
  have hfirst : ∃ c ∈ (run ++ [last]).head?, isUppercase c ∧ isLowercase c = false := by
    rw [List.head?_append_of_ne_nil _ hne]
    exact h.first
  have hstop : Avoids continuesUpper (small :: rest) := by
    rintro c ⟨⟩
    exact h.stops.1
  rw [List.append_cons, cut_of_capitals hfirst h.capitals hstop, cutCapitals, if_neg hlength,
    if_neg (by simp [h.stops.2]), if_pos h.before]
  simp

/-- Reading goes beyond a word only where a run of capitals gives up its last character. -/
theorem Cuts.read_eq {found : Cut} (h : Cuts found) : found.read = found.text ∨
    ∃ last small rest, found.read = found.text ++ [last] ∧ found.rest = last :: small :: rest ∧
      StepsBack found.text last small := by
  cases h with
  | cased => exact .inl rfl
  | capitals hback => exact .inr ⟨_, _, _, rfl, rfl, hback⟩
  | uncased => exact .inl rfl

/-- A word is an acronym if and only if it has no small letter and has left no small mark behind
it. -/
theorem acronym_iff (label : List Char) : ∀ p ∈ places isWordChar label (split label),
    (p.word.acronym = true ↔
      (∀ c ∈ p.word.text, isLowercase c = false) ∧ ¬ LeavesSmall p.word.text p.back) := by
  intro p hp
  obtain ⟨hcuts, hword, hback⟩ := cut_of_mem_places hp
  have htext : (cut (p.word.text ++ p.back)).text = p.word.text := (congrArg text hword).symm
  have hacronym : p.word.acronym = true ↔
      ∀ c ∈ (cut (p.word.text ++ p.back)).read, isLowercase c = false := by
    rw [congrArg acronym hword]
    simp [ofCut]
  rw [hacronym]
  obtain hread | ⟨last, small, rest, hread, hrest, hsteps⟩ := hcuts.read_eq
  · rw [hread, htext]
    refine (and_iff_left ?_).symm
    rintro ⟨last, small, rest, hleft, -, hsteps⟩
    rw [hleft, cut_of_stepsBack hsteps] at hread
    simp at hread
  · rw [← hback] at hrest
    rw [htext] at hsteps hread
    have hleaves : LeavesSmall p.word.text p.back ↔ isLowercase last := by
      constructor
      · rintro ⟨last', small', rest', hleft, hsmall, -⟩
        rw [hrest] at hleft
        cases hleft
        exact hsmall
      · exact fun hsmall => ⟨last, small, rest, hrest, hsmall, hsteps⟩
    rw [hread, List.forall_mem_append, List.forall_mem_singleton, hleaves, Bool.not_eq_true]

/-- In `HTTPServer`, the capitals in front of `Server` are an acronym. -/
theorem acronym_iff_server :
    ⟨[], ⟨['H', 'T', 'T', 'P'], true⟩, ['S', 'e', 'r', 'v', 'e', 'r']⟩ ∈
        places isWordChar "HTTPServer".toList (split "HTTPServer".toList) ∧
      (∀ c ∈ ['H', 'T', 'T', 'P'], isLowercase c = false) ∧
      ¬ LeavesSmall ['H', 'T', 'T', 'P'] ['S', 'e', 'r', 'v', 'e', 'r'] := by
  have hplace : ⟨[], ⟨['H', 'T', 'T', 'P'], true⟩, ['S', 'e', 'r', 'v', 'e', 'r']⟩ ∈
      places isWordChar "HTTPServer".toList (split "HTTPServer".toList) := by decide +kernel
  exact ⟨hplace, (acronym_iff "HTTPServer".toList _ hplace).1 rfl⟩

/-- A capital in front of a small mark and a small letter has no small letter and is no acronym. -/
theorem not_acronym_iff : ¬ ∀ w ∈ split "A\u0345c".toList,
    (w.acronym = true ↔ ∀ c ∈ w.text, isLowercase c = false) := by
  intro h
  have hsplit : split "A\u0345c".toList = [⟨['A'], false⟩, ⟨['\u0345', 'c'], false⟩] := by
    decide +kernel
  have hcapital : ∀ c ∈ ['A'], isLowercase c = false := List.forall_mem_singleton.2 (by decide)
  have hacronym := (h ⟨['A'], false⟩ (by rw [hsplit]; exact List.mem_cons_self)).2 hcapital
  cases hacronym

end TypedJson.Naming.Word
