import Mathlib
import TypedJson.Text.Normal

/-!
# Marks in order of class

Ordering the marks of a text puts them behind their base in ascending order of class
(`ordered_orderMarks`), and leaves a text alone of which they are (`orderMarks_of_ordered`). Marks
of different classes commute, so it does not matter where among such marks one of them stood
(`orderMarks_move`), and a character that is no mark keeps what is in front of it apart from what is
behind (`orderMarks_append_cons`).
-/

namespace TypedJson.Text

variable {a b c : Char} {cs before : List Char}

/-- The second character may stand behind the first: it is no mark, or the first is none of a
greater class. -/
def Follows (a b : Char) : Prop :=
  combiningClass b ≠ 0 → combiningClass a ≤ combiningClass b

/-- The marks of the text are in order. -/
def Ordered (cs : List Char) : Prop :=
  cs.IsChain Follows

/-! ## One mark -/

/-- A character goes behind one that it may follow. -/
theorem insertMark_of_follows (h : ∀ d ∈ before.head?, Follows d c) :
    insertMark c before = c :: before := by
  cases before with
  | nil => rfl
  | cons d rest =>
      have hfollows : Follows d c := h d rfl
      rw [insertMark, if_neg]
      rintro ⟨hmark, hlt⟩
      exact absurd (hfollows hmark) (Nat.not_le.2 hlt)

/-- A mark stays behind a character that is no mark, and all that is in front of it. -/
theorem insertMark_append_cons {d : Char} (hd : combiningClass d = 0) (xs ys : List Char) :
    insertMark c (xs ++ d :: ys) = insertMark c xs ++ d :: ys := by
  induction xs with
  | nil => simp [insertMark, hd]
  | cons x xs ih =>
      rw [List.cons_append, insertMark, insertMark]
      split
      · rw [ih, List.cons_append]
      · rfl

/-- The text has one character more. -/
theorem insertMark_perm (c : Char) (before : List Char) :
    (insertMark c before).Perm (c :: before) := by
  induction before with
  | nil => exact .refl _
  | cons d rest ih =>
      rw [insertMark]
      split
      · exact (ih.cons d).trans (.swap c d rest)
      · exact .refl _

/-- At the end stands the new character or the one that stood there. -/
theorem head?_insertMark (c : Char) (before : List Char) :
    ∀ d ∈ (insertMark c before).head?, d = c ∨ d ∈ before.head? := by
  intro d hd
  cases before with
  | nil => exact .inl (Option.some.inj hd).symm
  | cons e rest =>
      rw [insertMark] at hd
      split at hd
      · exact .inr hd
      · exact .inl (Option.some.inj hd).symm

/-- A mark that is put in its place leaves the marks in order. -/
theorem ordered_insertMark (h : Ordered before.reverse) :
    Ordered (insertMark c before).reverse := by
  induction before with
  | nil => exact List.isChain_singleton c
  | cons d rest ih =>
      by_cases hbefore : combiningClass c ≠ 0 ∧ combiningClass c < combiningClass d
      · rw [insertMark, if_pos hbefore, List.reverse_cons]
        rw [List.reverse_cons] at h
        obtain ⟨hfront, -, hlast⟩ := List.isChain_append.1 h
        refine List.isChain_append.2 ⟨ih hfront, List.isChain_singleton d, ?_⟩
        rintro last hmem _ ⟨⟩ hmark
        rw [List.getLast?_reverse] at hmem
        rcases head?_insertMark c rest last hmem with rfl | hmem
        · exact hbefore.2.le
        · rw [← List.getLast?_reverse] at hmem
          exact hlast last hmem d rfl hmark
      · rw [insertMark, if_neg hbefore, List.reverse_cons]
        refine List.isChain_append.2 ⟨h, List.isChain_singleton c, ?_⟩
        rintro last hlast _ ⟨⟩ hmark
        rw [List.getLast?_reverse] at hlast
        cases hlast
        exact Nat.not_lt.1 fun hlt => hbefore ⟨hmark, hlt⟩

/-- Marks of different classes commute. -/
theorem insertMark_comm (ha : combiningClass a ≠ 0) (hb : combiningClass b ≠ 0)
    (hab : combiningClass a ≠ combiningClass b) (before : List Char) :
    insertMark b (insertMark a before) = insertMark a (insertMark b before) := by
  induction before with
  | nil =>
      simp only [insertMark, ha, hb, ne_eq, not_false_eq_true, true_and]
      rcases Nat.lt_or_gt_of_ne hab with h | h <;> simp [h, h.not_gt]
  | cons d rest ih =>
      by_cases had : combiningClass a < combiningClass d
      · by_cases hbd : combiningClass b < combiningClass d
        · simp [insertMark, ha, hb, had, hbd, ih]
        · have hlt : combiningClass a < combiningClass b := by omega
          simp [insertMark, ha, hb, had, hbd, hlt]
      · by_cases hbd : combiningClass b < combiningClass d
        · have hlt : combiningClass b < combiningClass a := by omega
          simp [insertMark, ha, hb, had, hbd, hlt]
        · rcases Nat.lt_or_gt_of_ne hab with h | h <;>
            simp [insertMark, ha, hb, had, hbd, h, h.not_gt]

/-! ## All marks -/

/-- The marks of a text with one character more. -/
theorem orderMarks_concat (cs : List Char) (c : Char) :
    orderMarks (cs ++ [c]) = (insertMark c (orderMarks cs).reverse).reverse := by
  simp [orderMarks]

/-- Ordering marks rearranges the characters of the text. -/
theorem orderMarks_perm (cs : List Char) : (orderMarks cs).Perm cs := by
  induction cs using List.reverseRecOn with
  | nil => exact .refl _
  | append_singleton cs c ih =>
      rw [orderMarks_concat]
      have hinsert := (insertMark_perm c (orderMarks cs).reverse).trans
        (((orderMarks cs).reverse_perm.trans ih).cons c)
      exact (List.reverse_perm _).trans (hinsert.trans (List.perm_append_singleton c cs).symm)

/-- It puts the marks into order. -/
theorem ordered_orderMarks (cs : List Char) : Ordered (orderMarks cs) := by
  induction cs using List.reverseRecOn with
  | nil => exact List.isChain_nil
  | append_singleton cs c ih =>
      rw [orderMarks_concat]
      exact ordered_insertMark (by rwa [List.reverse_reverse])

/-- A text with its marks in order stays as it is. -/
theorem orderMarks_of_ordered (h : Ordered cs) : orderMarks cs = cs := by
  induction cs using List.reverseRecOn with
  | nil => rfl
  | append_singleton cs c ih =>
      obtain ⟨hfront, -, hlast⟩ := List.isChain_append.1 h
      rw [orderMarks_concat, ih hfront, insertMark_of_follows, List.reverse_cons,
        List.reverse_reverse]
      intro d hd
      rw [List.head?_reverse] at hd
      exact hlast d hd c rfl

/-- Two marks of different classes may be exchanged. -/
theorem orderMarks_swap (ha : combiningClass a ≠ 0) (hb : combiningClass b ≠ 0)
    (hab : combiningClass a ≠ combiningClass b) (front back : List Char) :
    orderMarks (front ++ a :: b :: back) = orderMarks (front ++ b :: a :: back) := by
  simp only [orderMarks, List.foldl_append, List.foldl_cons, insertMark_comm ha hb hab]

/-- A mark may be moved in front of marks of other classes. -/
theorem orderMarks_move {marks : List Char} (hc : combiningClass c ≠ 0)
    (hmarks : ∀ d ∈ marks, combiningClass d ≠ 0 ∧ combiningClass d ≠ combiningClass c)
    (front back : List Char) :
    orderMarks (front ++ (marks ++ c :: back)) = orderMarks (front ++ c :: (marks ++ back)) := by
  induction marks generalizing front with
  | nil => rfl
  | cons d marks ih =>
      rw [List.forall_mem_cons] at hmarks
      have hbehind := ih hmarks.2 (front ++ [d])
      simp only [List.append_assoc, List.singleton_append] at hbehind
      rw [List.cons_append, hbehind, orderMarks_swap hmarks.1.1 hc hmarks.1.2, List.cons_append]

/-- Marks are ordered apart in front of a character that is no mark and behind it. -/
theorem orderMarks_append_cons (hc : combiningClass c = 0) (front back : List Char) :
    orderMarks (front ++ c :: back) = orderMarks front ++ c :: orderMarks back := by
  induction back using List.reverseRecOn with
  | nil =>
      rw [orderMarks_concat, insertMark_of_follows fun d _ hmark => absurd hc hmark,
        List.reverse_cons, List.reverse_reverse]
      rfl
  | append_singleton back d ih =>
      rw [← List.cons_append, ← List.append_assoc, orderMarks_concat, ih, orderMarks_concat,
        List.reverse_append, List.reverse_cons, List.append_assoc, List.singleton_append,
        insertMark_append_cons hc]
      simp

end TypedJson.Text
