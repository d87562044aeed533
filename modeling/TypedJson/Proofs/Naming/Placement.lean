import Mathlib
import TypedJson.Naming.Word

/-!
# Words in their places

Where the words of a label stand in it. Words are laid out in a label if they are non-empty rows of
characters that are kept, one behind the other, with nothing but dropped characters in front of,
between and behind them (`Laid`). Then each of them stands in its place, the places follow one
another without touching, and they hold the kept characters and no other (`Laid.isSegmentation`).
-/

namespace TypedJson.Naming

/-- A word in its place: behind one part of a label and in front of the other. -/
structure Place where
  front : List Char
  word : Word
  back : List Char
  deriving DecidableEq, Repr

namespace Place

/-- The position of the first character of the word. -/
def start (p : Place) : Nat :=
  p.front.length

/-- The position behind the last character of the word. -/
def stop (p : Place) : Nat :=
  p.front.length + p.word.text.length

end Place

/-- The places of words in the rest of a label, given the part in front of it: each word begins at
the first character that is kept. -/
def placesFrom (keeps : Char → Bool) : List Char → List Char → List Word → List Place
  | _, _, [] => []
  | front, rest, w :: words =>
    let before := front ++ rest.takeWhile fun c => !keeps c
    let back := (rest.dropWhile fun c => !keeps c).drop w.text.length
    ⟨before, w, back⟩ :: placesFrom keeps (before ++ w.text) back words

/-- The places of words in a label. -/
def places (keeps : Char → Bool) (label : List Char) (words : List Word) : List Place :=
  placesFrom keeps [] label words

/-- The words cut a label up at the characters that are not kept: each is a non-empty part of the
label in its place, the places are apart and in order, and hold what is kept and nothing else. -/
structure IsSegmentation (keeps : Char → Bool) (label : List Char) (words : List Word) : Prop where
  word_eq : (places keeps label words).map Place.word = words
  ne_nil : ∀ p ∈ places keeps label words, p.word.text ≠ []
  stands : ∀ p ∈ places keeps label words, p.front ++ p.word.text ++ p.back = label
  apart : (places keeps label words).Pairwise fun p q => p.stop ≤ q.start
  covers : ∀ i (h : i < label.length),
    keeps label[i] ↔ ∃ p ∈ places keeps label words, p.start ≤ i ∧ i < p.stop

namespace IsSegmentation

variable {keeps : Char → Bool} {label : List Char} {words : List Word} {p q : Place}

/-- Two places are the same, or one of them is in front of the other. -/
theorem eq_or_apart (h : IsSegmentation keeps label words) (hp : p ∈ places keeps label words)
    (hq : q ∈ places keeps label words) : p = q ∨ p.stop ≤ q.start ∨ q.stop ≤ p.start := by
  by_contra hnot
  rw [not_or] at hnot
  have hsymm : Std.Symm fun p q : Place => p.stop ≤ q.start ∨ q.stop ≤ p.start :=
    ⟨fun _ _ => Or.symm⟩
  have hapart := (h.apart.imp fun {p q} hle =>
    show p.stop ≤ q.start ∨ q.stop ≤ p.start from .inl hle).forall
  exact hnot.2 (hapart hp hq hnot.1)

/-- A place has a character. -/
theorem start_lt_stop (h : IsSegmentation keeps label words) (hp : p ∈ places keeps label words) :
    p.start < p.stop := by
  have hpos := List.length_pos_iff.2 (h.ne_nil p hp)
  simp only [Place.start, Place.stop]
  omega

/-- A character is in a single place. -/
theorem eq_of_mem (h : IsSegmentation keeps label words) (hp : p ∈ places keeps label words)
    (hq : q ∈ places keeps label words) {i : Nat} (hpi : p.start ≤ i ∧ i < p.stop)
    (hqi : q.start ≤ i ∧ i < q.stop) : p = q := by
  rcases h.eq_or_apart hp hq with heq | happart | happart
  · exact heq
  · omega
  · omega

/-- The character behind a place. -/
theorem getElem?_stop (h : IsSegmentation keeps label words) (hp : p ∈ places keeps label words) :
    label[p.stop]? = p.back.head? := by
  rw [← h.stands p hp, ← List.head?_drop, Place.stop, ← List.length_append, List.drop_left]

end IsSegmentation

/-! ## Words laid out -/

/-- The words lie in the text in order: only characters that are not kept stand in front of,
between and behind them. -/
inductive Laid (keeps : Char → Bool) : List Char → List Word → Prop
  | nil {rest : List Char} : (∀ c ∈ rest, keeps c = false) → Laid keeps rest []
  | cons {gap rest : List Char} {w : Word} {words : List Word} :
      (∀ c ∈ gap, keeps c = false) → w.text ≠ [] → (∀ c ∈ w.text, keeps c) →
      Laid keeps rest words → Laid keeps (gap ++ (w.text ++ rest)) (w :: words)

variable {keeps : Char → Bool} {cs : List Char} {words : List Word}

namespace Laid

/-- The words consist of the kept characters, in their order. -/
theorem flatMap_text (h : Laid keeps cs words) : words.flatMap Word.text = cs.filter keeps := by
  induction h with
  | nil hrest => simpa using hrest
  | @cons gap rest w words hgap _ htext _ ih =>
      have hdropped : gap.filter keeps = [] := by simpa using hgap
      rw [List.flatMap_cons, ih, List.filter_append, List.filter_append, hdropped,
        List.filter_eq_self.2 htext, List.nil_append]

/-- Dropped characters in front change nothing. -/
theorem append_left {gap : List Char} (hgap : ∀ c ∈ gap, keeps c = false)
    (h : Laid keeps cs words) : Laid keeps (gap ++ cs) words := by
  cases h with
  | nil hrest => exact .nil (List.forall_mem_append.2 ⟨hgap, hrest⟩)
  | cons hfront hne htext hlaid =>
      rw [← List.append_assoc]
      exact .cons (List.forall_mem_append.2 ⟨hgap, hfront⟩) hne htext hlaid

/-- Words laid out in two texts are so in both together. -/
theorem append {cs' : List Char} {words' : List Word} (h : Laid keeps cs words)
    (h' : Laid keeps cs' words') : Laid keeps (cs ++ cs') (words ++ words') := by
  induction h with
  | nil hrest => exact h'.append_left hrest
  | cons hgap hne htext _ ih =>
      rw [List.append_assoc, List.append_assoc]
      exact .cons hgap hne htext ih

/-- It is for the characters of the text to be kept or not. -/
theorem congr {keeps' : Char → Bool} (heq : ∀ c ∈ cs, keeps c = keeps' c)
    (h : Laid keeps cs words) : Laid keeps' cs words := by
  induction h with
  | nil hrest => exact .nil fun c hc => heq c hc ▸ hrest c hc
  | cons hgap hne htext _ ih =>
      rw [List.forall_mem_append, List.forall_mem_append] at heq
      exact .cons (fun c hc => heq.1 c hc ▸ hgap c hc) hne
        (fun c hc => heq.2.1 c hc ▸ htext c hc) (ih heq.2.2)

/-- Words that are cut up further are laid out as their parts, if no more is kept. -/
theorem refine {keeps' : Char → Bool} {parts : Word → List Word}
    (hkeeps : ∀ c, keeps' c → keeps c) (h : Laid keeps cs words)
    (hparts : ∀ w ∈ words, Laid keeps' w.text (parts w)) :
    Laid keeps' cs (words.flatMap parts) := by
  have hdropped {gap : List Char} (hgap : ∀ c ∈ gap, keeps c = false) :
      ∀ c ∈ gap, keeps' c = false := fun c hc =>
    Bool.eq_false_iff.2 fun hkept => Bool.eq_false_iff.1 (hgap c hc) (hkeeps c hkept)
  induction h with
  | nil hrest => exact .nil (hdropped hrest)
  | cons hgap _ _ _ ih =>
      rw [List.forall_mem_cons] at hparts
      rw [List.flatMap_cons]
      exact (hparts.1.append (ih hparts.2)).append_left (hdropped hgap)

end Laid

/-! ## Their places -/

/-- Behind dropped characters, a word begins in its place. -/
theorem placesFrom_cons {gap rest : List Char} {w : Word} (hgap : ∀ c ∈ gap, keeps c = false)
    (hne : w.text ≠ []) (htext : ∀ c ∈ w.text, keeps c) (front : List Char) (words : List Word) :
    placesFrom keeps front (gap ++ (w.text ++ rest)) (w :: words) =
      ⟨front ++ gap, w, rest⟩ :: placesFrom keeps (front ++ gap ++ w.text) rest words := by
  have hdropped : ∀ c ∈ gap, (!keeps c) = true := fun c hc => by simp [hgap c hc]
  obtain ⟨c, text, hcons⟩ := List.exists_cons_of_ne_nil hne
  have hfirst : (!keeps c) = false := by simp [htext c (hcons ▸ List.mem_cons_self)]
  have htake : (gap ++ (w.text ++ rest)).takeWhile (fun c => !keeps c) = gap := by
    rw [List.takeWhile_append_of_pos hdropped, hcons]
    simp [hfirst]
  have hdrop : (gap ++ (w.text ++ rest)).dropWhile (fun c => !keeps c) = w.text ++ rest := by
    rw [List.dropWhile_append_of_pos hdropped, hcons]
    simp [hfirst]
  rw [placesFrom, htake, hdrop, List.drop_left]

namespace Laid

/-- Every word has a place. -/
theorem map_word_placesFrom (h : Laid keeps cs words) (front : List Char) :
    (placesFrom keeps front cs words).map Place.word = words := by
  induction h generalizing front with
  | nil => rfl
  | cons hgap hne htext _ ih => rw [placesFrom_cons hgap hne htext, List.map_cons, ih]

/-- A place lies behind the part in front, and the word stands in it. -/
theorem forall_placesFrom (h : Laid keeps cs words) (front : List Char) :
    ∀ p ∈ placesFrom keeps front cs words, front.length ≤ p.start ∧ p.word.text ≠ [] ∧
      p.front ++ p.word.text ++ p.back = front ++ cs := by
  induction h generalizing front with
  | nil => exact fun _ hp => absurd hp List.not_mem_nil
  | cons hgap hne htext _ ih =>
      rw [placesFrom_cons hgap hne htext, List.forall_mem_cons]
      refine ⟨⟨by simp [Place.start], hne, by simp⟩, fun p hp => ?_⟩
      obtain ⟨hstart, hword, hstands⟩ := ih _ p hp
      refine ⟨Nat.le_trans ?_ hstart, hword, by simpa using hstands⟩
      simp only [List.length_append]
      omega

/-- The places follow one another. -/
theorem pairwise_placesFrom (h : Laid keeps cs words) (front : List Char) :
    (placesFrom keeps front cs words).Pairwise fun p q => p.stop ≤ q.start := by
  induction h generalizing front with
  | nil => exact .nil
  | cons hgap hne htext hlaid ih =>
      rw [placesFrom_cons hgap hne htext, List.pairwise_cons]
      refine ⟨fun q hq => ?_, ih _⟩
      simpa [Place.stop, Nat.add_assoc] using (hlaid.forall_placesFrom _ q hq).1

/-- A character is kept if and only if it is in a place. -/
theorem covers_placesFrom (h : Laid keeps cs words) (front : List Char) :
    ∀ i (h : i < cs.length), keeps cs[i] ↔
      ∃ p ∈ placesFrom keeps front cs words,
        p.start ≤ front.length + i ∧ front.length + i < p.stop := by
  induction h generalizing front with
  | nil hrest =>
      intro i hi
      simp [placesFrom, hrest _ (List.getElem_mem hi)]
  | @cons gap rest w words hgap hne htext hlaid ih =>
      intro i hi
      rw [placesFrom_cons hgap hne htext]
      -- The character is in front of the word, in the word or behind it.
      by_cases hfront : i < gap.length
      · rw [List.getElem_append_left hfront]
        simp only [hgap _ (List.getElem_mem hfront), Bool.false_eq_true, false_iff]
        rintro ⟨p, hp, hstart, -⟩
        obtain rfl | hp := List.mem_cons.1 hp
        · simp only [Place.start, List.length_append] at hstart
          omega
        · have hbehind := (hlaid.forall_placesFrom _ p hp).1
          simp only [List.length_append] at hbehind
          omega
      · by_cases hword : i < gap.length + w.text.length
        · have hi' : i - gap.length < w.text.length := by omega
          have hchar : (gap ++ (w.text ++ rest))[i] = w.text[i - gap.length] := by
            rw [List.getElem_append_right (by omega), List.getElem_append_left hi']
          rw [hchar]
          refine iff_of_true (htext _ (List.getElem_mem hi')) ⟨_, List.mem_cons_self, ?_⟩
          simp only [Place.start, Place.stop, List.length_append]
          omega
        · have hi' : i - gap.length - w.text.length < rest.length := by
            simp only [List.length_append] at hi
            omega
          have hchar : (gap ++ (w.text ++ rest))[i] = rest[i - gap.length - w.text.length] := by
            rw [List.getElem_append_right (by omega), List.getElem_append_right (by omega)]
          have hposition : (front ++ gap ++ w.text).length + (i - gap.length - w.text.length)
              = front.length + i := by
            simp only [List.length_append]
            omega
          have hfirst : ¬ (front.length + i < Place.stop ⟨front ++ gap, w, rest⟩) := by
            simp only [Place.stop, List.length_append]
            omega
          rw [hchar, ih (front ++ gap ++ w.text) _ hi', hposition]
          simp [hfirst]

/-- Words that are laid out cut the text up. -/
theorem isSegmentation (h : Laid keeps cs words) : IsSegmentation keeps cs words where
  word_eq := h.map_word_placesFrom []
  ne_nil p hp := (h.forall_placesFrom [] p hp).2.1
  stands p hp := (h.forall_placesFrom [] p hp).2.2
  apart := h.pairwise_placesFrom []
  covers i hi := by simpa [places] using h.covers_placesFrom [] i hi

end Laid

end TypedJson.Naming
