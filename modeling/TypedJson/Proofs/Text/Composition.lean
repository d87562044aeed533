import Mathlib
import TypedJson.Text.Normal

/-!
# Composing a text with a plain end

Characters below the accented letters neither decompose, nor order as marks, nor join with anything
in front of them. `compose_append_plain` says that composing leaves such an end of a text alone.
-/

namespace TypedJson.Text

/-- The character decomposes into itself, is no mark and joins with no character before it. -/
def isPlain (c : Char) : Bool :=
  c.toNat < 0xC0

variable {c : Char}

/-- A plain character decomposes into itself. -/
theorem decomposition_plain (h : isPlain c) : decomposition c = [c] := by
  have hlt : c.toNat < 0xC0 := by simpa [isPlain] using h
  simp [decomposition, hlt]

/-- A code point in front of the first range has class zero. -/
theorem classIn_before_head {ranges : List (Nat × Nat × Nat)} {n : Nat}
    (h : ∀ range ∈ ranges.head?, n < range.1) : classIn ranges n = 0 := by
  cases ranges with
  | nil => rfl
  | cons range rest =>
      have hlt : n < range.1 := h range rfl
      simp [classIn, hlt]

/-- The marks begin beyond the plain characters. -/
theorem combiningClass_plain (h : isPlain c) : combiningClass c = 0 := by
  have hlt : c.toNat < 0xC0 := by simpa [isPlain] using h
  refine classIn_before_head fun range hrange => ?_
  obtain rfl : (0x300, 0x314, 230) = range := Option.some.inj hrange
  exact Nat.lt_trans hlt (by decide)

/-- Neither a syllable nor a pair of the tables ends in a plain character. -/
theorem composeChars?_plain (h : isPlain c) (base : Char) : composeChars? base c = none := by
  have hlt : c.toNat < 0xC0 := by simpa [isPlain] using h
  have hsyllable : Syllable.compose? base.toNat c.toNat = none := by
    unfold Syllable.compose?
    rw [if_neg, if_neg]
    · rintro ⟨-, -, htail, -⟩
      simp only [Syllable.tailBase] at htail
      omega
    · rintro ⟨-, -, hvowel, -⟩
      simp only [Syllable.vowelBase] at hvowel
      omega
  have hpair : composePair? base.toNat c.toNat = none := by
    simp only [composePair?]
    rw [if_pos (by omega)]
  simp [composeChars?, hsyllable, hpair]

/-- A plain text decomposes into itself. -/
theorem flatMap_decomposition_plain {cs : List Char} (h : ∀ c ∈ cs, isPlain c) :
    cs.flatMap decomposition = cs := by
  induction cs with
  | nil => rfl
  | cons c rest ih =>
      simp only [List.mem_cons, forall_eq_or_imp] at h
      rw [List.flatMap_cons, decomposition_plain h.1, ih h.2, List.singleton_append]

/-- A character of class zero goes behind whatever stands there. -/
theorem insertMark_plain (h : isPlain c) (before : List Char) :
    insertMark c before = c :: before := by
  cases before with
  | nil => rfl
  | cons d rest => simp [insertMark, combiningClass_plain h]

/-- A plain end keeps its place when marks are ordered. -/
theorem orderMarks_append_plain (front : List Char) {back : List Char}
    (h : ∀ c ∈ back, isPlain c) : orderMarks (front ++ back) = orderMarks front ++ back := by
  have hfold : ∀ before : List Char,
      back.foldl (fun before c => insertMark c before) before = back.reverse ++ before := by
    induction back with
    | nil => intro before; rfl
    | cons c rest ih =>
        intro before
        simp only [List.mem_cons, forall_eq_or_imp] at h
        rw [List.foldl_cons, insertMark_plain h.1, ih h.2]
        simp
  simp only [orderMarks, List.foldl_append, hfold, List.reverse_append, List.reverse_reverse]

/-- Nothing joins with the characters of a plain text, whatever stands in front of it. -/
theorem joinMarks_plain (base : Char) (between : List Char) {cs : List Char}
    (h : ∀ c ∈ cs, isPlain c) : joinMarks base between cs = base :: (between.reverse ++ cs) := by
  induction cs generalizing base between with
  | nil => simp [joinMarks]
  | cons c rest ih =>
      simp only [List.mem_cons, forall_eq_or_imp] at h
      simp only [joinMarks, composeChars?_plain h.1, ite_self, combiningClass_plain h.1, if_true]
      rw [ih c [] h.2]
      simp

/-- Joining stops in front of a plain end. -/
theorem joinMarks_append_plain (base : Char) (between front : List Char) {back : List Char}
    (h : ∀ c ∈ back, isPlain c) :
    joinMarks base between (front ++ back) = joinMarks base between front ++ back := by
  induction front generalizing base between with
  | nil =>
      rw [List.nil_append, joinMarks_plain base between h]
      simp [joinMarks]
  | cons c rest ih =>
      simp only [List.cons_append, joinMarks]
      split
      · exact ih _ between
      · split
        · simp [ih]
        · exact ih base (c :: between)

/-- A plain end stays as it is when a text is joined. -/
theorem joinAll_append_plain (front : List Char) {back : List Char} (h : ∀ c ∈ back, isPlain c) :
    joinAll (front ++ back) = joinAll front ++ back := by
  induction front with
  | nil =>
      cases back with
      | nil => rfl
      | cons c rest =>
          simp only [List.mem_cons, forall_eq_or_imp] at h
          simp [joinAll, combiningClass_plain h.1, joinMarks_plain c [] h.2]
  | cons c rest ih =>
      by_cases hclass : combiningClass c = 0
      · simp [joinAll, hclass, joinMarks_append_plain c [] rest h]
      · simp [joinAll, hclass, ih]

/-- The composed form of a text with a plain end is that of the text, with the same end. -/
theorem compose_append_plain (front : List Char) {back : List Char} (h : ∀ c ∈ back, isPlain c) :
    compose (front ++ back) = compose front ++ back := by
  simp only [compose, List.flatMap_append, flatMap_decomposition_plain h,
    orderMarks_append_plain _ h, joinAll_append_plain _ h]

end TypedJson.Text
