import TypedJson.Proofs.Text.Decomposing
import TypedJson.Proofs.Text.Ordering

/-!
# Normal forms

A text is canonical if its characters do not decompose and its marks are in order. Joining a
canonical text and decomposing the result gives the text back (`canonical_joinAll`), so composing a
text twice is composing it once (`compose_compose`), and two texts compose to one if and only if
they decompose to one (`compose_eq_compose_iff`). Parts of a composed text are composed
(`IsComposed.left_of_append`, `IsComposed.right_of_append`).
-/

namespace TypedJson.Text

variable {cs : List Char}

/-! ## Canonical texts -/

/-- A text whose characters do not decompose, with its marks in order. -/
structure IsCanonical (cs : List Char) : Prop where
  bare : ∀ c ∈ cs, decomposition c = [c]
  ordered : Ordered cs

/-- The canonical decomposition of a text. -/
def canonical (cs : List Char) : List Char :=
  orderMarks (cs.flatMap decomposition)

/-- Characters that do not decompose stay as they are. -/
theorem flatMap_decomposition_bare (h : ∀ c ∈ cs, decomposition c = [c]) :
    cs.flatMap decomposition = cs := by
  induction cs with
  | nil => rfl
  | cons c rest ih =>
      rw [List.forall_mem_cons] at h
      rw [List.flatMap_cons, h.1, ih h.2, List.singleton_append]

/-- Decomposing a text makes it canonical. -/
theorem isCanonical_canonical (cs : List Char) : IsCanonical (canonical cs) where
  bare c hc := by
    obtain ⟨d, -, hd⟩ := List.mem_flatMap.1 ((orderMarks_perm _).mem_iff.1 hc)
    exact decomposition_of_mem hd
  ordered := ordered_orderMarks _

/-- A mark may be left out of a text with its marks in order. -/
theorem Ordered.erase_mark {c : Char} {xs ys : List Char} (hc : combiningClass c ≠ 0)
    (h : Ordered (xs ++ c :: ys)) : Ordered (xs ++ ys) := by
  obtain ⟨hxs, hys, hlast⟩ := List.isChain_append.1 h
  refine List.isChain_append.2 ⟨hxs, hys.tail, fun x hx y hy hmark => ?_⟩
  exact (hlast x hx c rfl hc).trans (hys.rel_head? hy hmark)

/-- The last of some marks in order is of the greatest class. -/
theorem Ordered.class_le {d : Char} {between : List Char} (h : Ordered (d :: between).reverse)
    (hmarks : ∀ e ∈ d :: between, combiningClass e ≠ 0) :
    ∀ e ∈ between, combiningClass e ≤ combiningClass d := by
  induction between generalizing d with
  | nil => exact List.forall_mem_nil _
  | cons e rest ih =>
      rw [List.forall_mem_cons] at hmarks
      rw [List.reverse_cons] at h
      obtain ⟨hfront, -, hlast⟩ := List.isChain_append.1 h
      have hed : combiningClass e ≤ combiningClass d := hlast e (by simp) d rfl hmarks.1
      exact List.forall_mem_cons.2 ⟨hed, fun f hf => (ih hfront hmarks.2 f hf).trans hed⟩

/-! ## One step of joining -/

variable {base c : Char} {between : List Char}

/-- A character is joined with the base: the two compose, and no mark of its own or a greater class
stands between. -/
def Joins (base : Char) (between : List Char) (c joined : Char) : Prop :=
  composeChars? base c = some joined ∧ ∀ d ∈ between.head?, combiningClass d < combiningClass c

/-- What is joined goes into the base. -/
theorem joinMarks_of_joins {joined : Char} (h : Joins base between c joined) (rest : List Char) :
    joinMarks base between (c :: rest) = joinMarks joined between rest := by
  obtain ⟨hcompose, hfree⟩ := h
  cases between with
  | nil => simp [joinMarks, hcompose]
  | cons d between =>
      have hlt : combiningClass d < combiningClass c := hfree d rfl
      simp [joinMarks, hcompose, Nat.not_le.2 hlt]

/-- A character is joined with the base, or becomes the next base, or stays between, whatever is
behind it. -/
theorem joinMarks_cons (base : Char) (between : List Char) (c : Char) :
    (∃ joined, Joins base between c joined) ∨
      (combiningClass c = 0 ∧ ∀ rest, joinMarks base between (c :: rest) =
        base :: (between.reverse ++ joinMarks c [] rest)) ∨
      (combiningClass c ≠ 0 ∧ ∀ rest, joinMarks base between (c :: rest) =
        joinMarks base (c :: between) rest) := by
  by_cases hjoins : ∃ joined, Joins base between c joined
  · exact .inl hjoins
  · have hnone : ∀ rest, joinMarks base between (c :: rest) =
        if combiningClass c = 0 then base :: (between.reverse ++ joinMarks c [] rest)
        else joinMarks base (c :: between) rest := by
      intro rest
      cases hcompose : composeChars? base c with
      | none => simp [joinMarks, hcompose]
      | some joined =>
          cases between with
          | nil => exact absurd ⟨joined, hcompose, by simp⟩ hjoins
          | cons d between =>
              have hblocked : combiningClass c ≤ combiningClass d := by
                by_contra hlt
                exact hjoins ⟨joined, hcompose, fun e he => by cases he; omega⟩
              simp [joinMarks, hblocked]
    by_cases hc : combiningClass c = 0
    · exact .inr (.inl ⟨hc, fun rest => by rw [hnone, if_pos hc]⟩)
    · exact .inr (.inr ⟨hc, fun rest => by rw [hnone, if_neg hc]⟩)

/-- The marks that stand between are of other classes than one that is joined. -/
theorem Joins.class_ne {joined : Char} (h : Joins base between c joined)
    (hmarks : ∀ d ∈ between, combiningClass d ≠ 0) (hordered : Ordered between.reverse) :
    ∀ d ∈ between, combiningClass d ≠ 0 ∧ combiningClass d ≠ combiningClass c := by
  cases between with
  | nil => exact List.forall_mem_nil _
  | cons d between =>
      have hlt : combiningClass d < combiningClass c := h.2 d rfl
      refine List.forall_mem_cons.2 ⟨⟨hmarks d List.mem_cons_self, hlt.ne⟩, fun e he => ?_⟩
      have hle := hordered.class_le hmarks e he
      exact ⟨hmarks e (List.mem_cons_of_mem _ he), by omega⟩

/-- What is joined may be left out of the marks in order. -/
theorem Joins.ordered {joined : Char} {rest : List Char} (h : Joins base between c joined)
    (hordered : Ordered (between.reverse ++ c :: rest)) : Ordered (between.reverse ++ rest) := by
  cases between with
  | nil => exact hordered.tail
  | cons d between =>
      have hlt : combiningClass d < combiningClass c := h.2 d rfl
      exact hordered.erase_mark (by omega)

/-- It may be moved in front of the marks that stand between. -/
theorem Joins.orderMarks_eq {joined : Char} (h : Joins base between c joined)
    (hmarks : ∀ d ∈ between, combiningClass d ≠ 0) (hordered : Ordered between.reverse)
    (front back : List Char) :
    orderMarks (front ++ (between.reverse ++ c :: back)) =
      orderMarks (front ++ c :: (between.reverse ++ back)) := by
  cases between with
  | nil => rfl
  | cons d between =>
      have hlt : combiningClass d < combiningClass c := h.2 d rfl
      have hne := h.class_ne hmarks hordered
      exact orderMarks_move (by omega) (fun e he => hne e (List.mem_reverse.1 he)) front back

/-! ## Joining and decomposing -/

/-- Decomposing what was joined and ordering its marks gives back what there was before. -/
theorem orderMarks_joinMarks {rest : List Char} (hmarks : ∀ d ∈ between, combiningClass d ≠ 0)
    (hcanonical : IsCanonical (between.reverse ++ rest)) (front : List Char) :
    orderMarks (front ++ (joinMarks base between rest).flatMap decomposition) =
      orderMarks (front ++ (decomposition base ++ (between.reverse ++ rest))) := by
  induction rest generalizing base between front with
  | nil =>
      have hbare := flatMap_decomposition_bare hcanonical.bare
      rw [List.append_nil] at hbare ⊢
      rw [joinMarks, List.flatMap_cons, hbare]
  | cons c rest ih =>
      obtain ⟨hbare, hordered⟩ := hcanonical
      obtain ⟨hbefore, hc, hbehind⟩ : (∀ d ∈ between.reverse, decomposition d = [d]) ∧
          decomposition c = [c] ∧ ∀ d ∈ rest, decomposition d = [d] := by
        simpa only [List.forall_mem_append, List.forall_mem_cons] using hbare
      rcases joinMarks_cons base between c with ⟨joined, hjoins⟩ | ⟨-, hstep⟩ | ⟨hmark, hstep⟩
      · have hless : IsCanonical (between.reverse ++ rest) :=
          ⟨List.forall_mem_append.2 ⟨hbefore, hbehind⟩, hjoins.ordered hordered⟩
        rw [joinMarks_of_joins hjoins, ih hmarks hless, decomposition_of_composeChars? hjoins.1]
        have hmove := hjoins.orderMarks_eq hmarks hordered.left_of_append
          (front ++ decomposition base) rest
        simpa using hmove.symm
      · have hnext : IsCanonical ([].reverse ++ rest) :=
          ⟨hbehind, (hordered.right_of_append).tail⟩
        have hrest := @ih c [] (by simp) hnext (front ++ (decomposition base ++ between.reverse))
        rw [hstep, List.flatMap_cons, List.flatMap_append, flatMap_decomposition_bare hbefore]
        simpa [hc] using hrest
      · have hmore : ∀ d ∈ c :: between, combiningClass d ≠ 0 :=
          List.forall_mem_cons.2 ⟨hmark, hmarks⟩
        have hreverse : (c :: between).reverse ++ rest = between.reverse ++ c :: rest := by simp
        rw [hstep, ih hmore (hreverse ▸ ⟨hbare, hordered⟩), hreverse]

/-- So it is for a whole text. -/
theorem orderMarks_joinAll (hcanonical : IsCanonical cs) (front : List Char) :
    orderMarks (front ++ (joinAll cs).flatMap decomposition) = orderMarks (front ++ cs) := by
  induction cs generalizing front with
  | nil => rfl
  | cons c rest ih =>
      obtain ⟨hbare, hordered⟩ := hcanonical
      rw [List.forall_mem_cons] at hbare
      have hrest : IsCanonical rest := ⟨hbare.2, hordered.tail⟩
      rw [joinAll]
      split
      · have hjoined := @orderMarks_joinMarks c [] rest (by simp) hrest front
        rw [hjoined, hbare.1]
        rfl
      · have hmore := ih hrest (front ++ [c])
        rw [List.flatMap_cons, hbare.1]
        simpa using hmore

/-- Joining a canonical text and decomposing it again gives it back. -/
theorem canonical_joinAll (h : IsCanonical cs) : canonical (joinAll cs) = cs := by
  have hjoined := orderMarks_joinAll h []
  rwa [List.nil_append, List.nil_append, orderMarks_of_ordered h.ordered] at hjoined

/-- Composing a text does not change what it decomposes to. -/
theorem canonical_compose (cs : List Char) : canonical (compose cs) = canonical cs :=
  canonical_joinAll (isCanonical_canonical cs)

/-- The text is in composed normal form. -/
def IsComposed (cs : List Char) : Prop :=
  compose cs = cs

/-- What is joined from a canonical text is composed. -/
theorem isComposed_joinAll (h : IsCanonical cs) : IsComposed (joinAll cs) :=
  congrArg joinAll (canonical_joinAll h)

/-- Composing gives a composed text. -/
theorem compose_compose (cs : List Char) : IsComposed (compose cs) :=
  isComposed_joinAll (isCanonical_canonical cs)

/-- Two texts compose to one if and only if they decompose to one. -/
theorem compose_eq_compose_iff {xs ys : List Char} :
    compose xs = compose ys ↔ canonical xs = canonical ys := by
  constructor
  · intro h
    rw [← canonical_compose xs, h, canonical_compose]
  · exact congrArg joinAll

/-! ## Parts of composed texts -/

/-- Marks in front of a text are left alone. -/
theorem joinAll_append_marks {marks : List Char} (h : ∀ d ∈ marks, combiningClass d ≠ 0)
    (back : List Char) : joinAll (marks ++ back) = marks ++ joinAll back := by
  induction marks with
  | nil => rfl
  | cons d marks ih =>
      rw [List.forall_mem_cons] at h
      rw [List.cons_append, joinAll, if_neg h.1, ih h.2, List.cons_append]

/-- Behind the base, what is joined is joined from a canonical text. -/
theorem joinMarks_tail {rest : List Char} (base : Char)
    (hmarks : ∀ d ∈ between, combiningClass d ≠ 0)
    (hcanonical : IsCanonical (between.reverse ++ rest)) :
    ∃ first behind, joinMarks base between rest = first :: joinAll behind ∧
      IsCanonical behind := by
  have hreverse : ∀ d ∈ between.reverse, combiningClass d ≠ 0 := fun d hd =>
    hmarks d (List.mem_reverse.1 hd)
  induction rest generalizing base between with
  | nil =>
      refine ⟨base, between.reverse ++ [], ?_, hcanonical⟩
      rw [joinAll_append_marks hreverse, joinMarks, joinAll, List.append_nil]
  | cons c rest ih =>
      rcases joinMarks_cons base between c with ⟨joined, hjoins⟩ | ⟨hstart, hstep⟩ | ⟨hmark, hstep⟩
      · have hless : IsCanonical (between.reverse ++ rest) :=
          ⟨fun d hd => hcanonical.bare d (by
            rw [List.mem_append] at hd ⊢
            exact hd.imp_right (List.mem_cons_of_mem c)), hjoins.ordered hcanonical.ordered⟩
        rw [joinMarks_of_joins hjoins]
        exact ih joined hmarks hless hreverse
      · refine ⟨base, between.reverse ++ c :: rest, ?_, hcanonical⟩
        rw [hstep, joinAll_append_marks hreverse, joinAll, if_pos hstart]
      · have hmore : ∀ d ∈ c :: between, combiningClass d ≠ 0 :=
          List.forall_mem_cons.2 ⟨hmark, hmarks⟩
        have heq : (c :: between).reverse ++ rest = between.reverse ++ c :: rest := by simp
        rw [hstep]
        exact ih base hmore (heq ▸ hcanonical) fun d hd => hmore d (List.mem_reverse.1 hd)

/-- A composed text without its first character is composed. -/
theorem IsComposed.tail {c : Char} (h : IsComposed (c :: cs)) : IsComposed cs := by
  obtain ⟨u, hu, hjoin⟩ : ∃ u, IsCanonical u ∧ joinAll u = c :: cs :=
    ⟨canonical (c :: cs), isCanonical_canonical _, h⟩
  cases u with
  | nil => cases hjoin
  | cons d rest =>
      have hrest : IsCanonical rest := ⟨fun e he => hu.bare e (List.mem_cons_of_mem d he),
        hu.ordered.tail⟩
      rw [joinAll] at hjoin
      split at hjoin
      · obtain ⟨first, behind, hmarks, hbehind⟩ := @joinMarks_tail [] rest d (by simp) hrest
        rw [hmarks] at hjoin
        cases hjoin
        exact isComposed_joinAll hbehind
      · cases hjoin
        exact isComposed_joinAll hrest

/-- The end of a composed text is composed. -/
theorem IsComposed.right_of_append {xs ys : List Char} (h : IsComposed (xs ++ ys)) :
    IsComposed ys := by
  induction xs with
  | nil => exact h
  | cons x xs ih => exact ih h.tail

/-- A text without one of its marks, or without one of its bases and all that is behind it. -/
inductive Cropped : List Char → List Char → Prop
  | base {c : Char} {rest : List Char} : combiningClass c = 0 → Cropped (c :: rest) []
  | mark {c : Char} {rest : List Char} : combiningClass c ≠ 0 → Cropped (c :: rest) rest
  | keep {c : Char} {rest less : List Char} : Cropped rest less → Cropped (c :: rest) (c :: less)

/-- Its marks stay in order. -/
theorem Cropped.ordered {less : List Char} (h : Cropped cs less) (front : List Char)
    (hordered : Ordered (front ++ cs)) : Ordered (front ++ less) := by
  induction h generalizing front with
  | base => rw [List.append_nil]; exact hordered.left_of_append
  | mark hmark => exact hordered.erase_mark hmark
  | @keep c rest less _ ih =>
      have hmore := ih (front ++ [c])
      simp only [List.append_assoc, List.singleton_append] at hmore
      exact hmore hordered

/-- It has no other characters. -/
theorem Cropped.subset {less : List Char} (h : Cropped cs less) : less ⊆ cs := by
  induction h with
  | base => exact List.nil_subset _
  | mark => exact List.subset_cons_self _ _
  | keep _ ih => exact List.cons_subset_cons _ ih

/-- It stays canonical. -/
theorem Cropped.isCanonical {less : List Char} (h : Cropped cs less) (hcs : IsCanonical cs) :
    IsCanonical less :=
  ⟨fun c hc => hcs.bare c (h.subset hc), h.ordered [] hcs.ordered⟩

/-- A mark that stands between may be taken away with what was joined behind it staying joined. -/
theorem Joins.of_cons {d joined : Char} (h : Joins base (d :: between) c joined)
    (hle : ∀ e ∈ between.head?, combiningClass e ≤ combiningClass d) :
    Joins base between c joined :=
  ⟨h.1, fun e he => (hle e he).trans_lt (h.2 d rfl)⟩

/-- A base stays. -/
theorem joinMarks_ne_nil (base : Char) (between rest : List Char) :
    joinMarks base between rest ≠ [] := by
  induction rest generalizing base between with
  | nil => exact List.cons_ne_nil _ _
  | cons c rest ih =>
      rcases joinMarks_cons base between c with ⟨joined, hjoins⟩ | ⟨-, hstep⟩ | ⟨-, hstep⟩
      · rw [joinMarks_of_joins hjoins]
        exact ih joined between
      · rw [hstep]
        exact List.cons_ne_nil _ _
      · rw [hstep]
        exact ih base (c :: between)

/-- The last character of what is joined is the base, or it goes if the text is cropped or the last
mark between is taken away. -/
theorem joinMarks_concat {rest out : List Char} {d : Char}
    (hmarks : ∀ e ∈ between, combiningClass e ≠ 0) (hordered : Ordered (between.reverse ++ rest))
    (h : joinMarks base between rest = out ++ [d]) :
    out = [] ∨ (∃ less, Cropped rest less ∧ joinMarks base between less = out) ∨
      ∃ before, between = d :: before ∧ joinMarks base before rest = out := by
  induction rest generalizing base between out with
  | nil =>
      cases between with
      | nil =>
          have hout : [] ++ [base] = out ++ [d] := h
          exact .inl (List.append_inj' hout rfl).1.symm
      | cons e before =>
          rw [joinMarks, List.reverse_cons, ← List.cons_append] at h
          obtain ⟨hout, hlast⟩ := List.append_inj' h rfl
          cases hlast
          exact .inr (.inr ⟨before, rfl, hout⟩)
  | cons c rest ih =>
      rcases joinMarks_cons base between c with ⟨joined, hjoins⟩ | ⟨hstart, hstep⟩ | ⟨hmark, hstep⟩
      · rw [joinMarks_of_joins hjoins] at h
        rcases ih hmarks (hjoins.ordered hordered) h with hout | ⟨less, hless, hout⟩ |
          ⟨before, rfl, hout⟩
        · exact .inl hout
        · exact .inr (.inl ⟨c :: less, .keep hless, by rw [joinMarks_of_joins hjoins, hout]⟩)
        · have hfront : Ordered (d :: before).reverse := hordered.left_of_append
          have hfewer := hjoins.of_cons fun e he =>
            hfront.class_le hmarks e (List.mem_of_mem_head? he)
          exact .inr (.inr ⟨before, rfl, by rw [joinMarks_of_joins hfewer, hout]⟩)
      · obtain ⟨behind, last, hbehind⟩ : ∃ behind last, joinMarks c [] rest = behind ++ [last] :=
          ⟨_, _, (List.dropLast_append_getLast (joinMarks_ne_nil c [] rest)).symm⟩
        rw [hstep, hbehind, ← List.append_assoc, ← List.cons_append] at h
        obtain ⟨rfl, hlast⟩ := List.append_inj' h rfl
        cases hlast
        have hrest : Ordered ([].reverse ++ rest) := hordered.right_of_append.tail
        rcases ih (by simp) hrest hbehind with rfl | ⟨less, hless, hout⟩ | ⟨before, hnone, -⟩
        · exact .inr (.inl ⟨[], .base hstart, by rw [joinMarks, List.append_nil]⟩)
        · exact .inr (.inl ⟨c :: less, .keep hless, by rw [hstep, hout]⟩)
        · cases hnone
      · have hmore : ∀ e ∈ c :: between, combiningClass e ≠ 0 :=
          List.forall_mem_cons.2 ⟨hmark, hmarks⟩
        have hreverse : (c :: between).reverse ++ rest = between.reverse ++ c :: rest := by simp
        rw [hstep] at h
        rcases ih hmore (hreverse ▸ hordered) h with hout | ⟨less, hless, hout⟩ | ⟨before, hc, hout⟩
        · exact .inl hout
        · exact .inr (.inl ⟨c :: less, .keep hless, by rw [hstep, hout]⟩)
        · cases hc
          exact .inr (.inl ⟨rest, .mark hmark, hout⟩)

/-- Without its last character, what is joined from a text is joined from a cropped one. -/
theorem joinAll_concat {u out : List Char} {d : Char} (hordered : Ordered u)
    (h : joinAll u = out ++ [d]) : ∃ less, Cropped u less ∧ joinAll less = out := by
  induction u generalizing out with
  | nil => simp [joinAll] at h
  | cons c rest ih =>
      rw [joinAll] at h
      split at h
      · next hc =>
        have hrest : Ordered ([].reverse ++ rest) := hordered.tail
        rcases joinMarks_concat (by simp) hrest h with
          rfl | ⟨less, hless, hout⟩ | ⟨before, hnone, -⟩
        · exact ⟨[], .base hc, rfl⟩
        · exact ⟨c :: less, .keep hless, by rw [joinAll, if_pos hc, hout]⟩
        · cases hnone
      · next hc =>
        cases out with
        | nil =>
            obtain ⟨rfl, hnone⟩ := List.cons.inj h
            exact ⟨rest, .mark hc, hnone⟩
        | cons e out =>
            obtain ⟨rfl, hout⟩ := List.cons.inj h
            obtain ⟨less, hless, hjoin⟩ := ih hordered.tail hout
            exact ⟨c :: less, .keep hless, by rw [joinAll, if_neg hc, hjoin]⟩

/-- A composed text without its last character is composed. -/
theorem IsComposed.of_concat {d : Char} (h : IsComposed (cs ++ [d])) : IsComposed cs := by
  have hcanonical := isCanonical_canonical (cs ++ [d])
  obtain ⟨less, hless, rfl⟩ := joinAll_concat hcanonical.ordered h
  exact isComposed_joinAll (hless.isCanonical hcanonical)

/-- The start of a composed text is composed. -/
theorem IsComposed.left_of_append {xs ys : List Char} (h : IsComposed (xs ++ ys)) :
    IsComposed xs := by
  induction ys using List.reverseRecOn with
  | nil => rwa [List.append_nil] at h
  | append_singleton ys y ih =>
      rw [← List.append_assoc] at h
      exact ih h.of_concat

/-! ## Underscores -/

/-- An underscore is no mark. -/
theorem combiningClass_underscore : combiningClass '_' = 0 :=
  combiningClass_plain (by decide)

/-- Nothing is joined with an underscore. -/
theorem joinMarks_underscore (between rest : List Char) :
    joinMarks '_' between rest = '_' :: (between.reverse ++ joinAll rest) := by
  induction rest generalizing between with
  | nil => rw [joinMarks, joinAll, List.append_nil]
  | cons c rest ih =>
      rcases joinMarks_cons '_' between c with ⟨joined, hjoins⟩ | ⟨hstart, hstep⟩ | ⟨hmark, hstep⟩
      · have hnone := hjoins.1
        rw [composeChars?_underscore c] at hnone
        cases hnone
      · rw [hstep, joinAll, if_pos hstart]
      · rw [hstep, joinAll, if_neg hmark, ih]
        simp

/-- Nor is an underscore joined with what stands in front of it. -/
theorem joinMarks_append_underscore (base : Char) (between front back : List Char) :
    joinMarks base between (front ++ '_' :: back) =
      joinMarks base between front ++ '_' :: joinAll back := by
  induction front generalizing base between with
  | nil =>
      rcases joinMarks_cons base between '_' with ⟨joined, hjoins⟩ | ⟨-, hstep⟩ | ⟨hmark, -⟩
      · have hnone := hjoins.1
        rw [composeChars?_plain (by decide) base] at hnone
        cases hnone
      · rw [List.nil_append, hstep, joinMarks_underscore, joinMarks]
        rfl
      · exact absurd combiningClass_underscore hmark
  | cons c front ih =>
      rw [List.cons_append]
      rcases joinMarks_cons base between c with ⟨joined, hjoins⟩ | ⟨-, hstep⟩ | ⟨-, hstep⟩
      · rw [joinMarks_of_joins hjoins, joinMarks_of_joins hjoins, ih]
      · rw [hstep, hstep, ih]
        simp
      · rw [hstep, hstep, ih]

/-- So it parts a text. -/
theorem joinAll_append_underscore (front back : List Char) :
    joinAll (front ++ '_' :: back) = joinAll front ++ '_' :: joinAll back := by
  induction front with
  | nil => exact joinMarks_underscore [] back
  | cons c front ih =>
      rw [List.cons_append, joinAll, joinAll]
      split
      · exact joinMarks_append_underscore c [] front back
      · rw [ih, List.cons_append]

/-- A text is composed apart in front of an underscore and behind it. -/
theorem compose_append_underscore (front back : List Char) :
    compose (front ++ '_' :: back) = compose front ++ '_' :: compose back := by
  have hplain : decomposition '_' = ['_'] := decomposition_plain (by decide)
  rw [compose, List.flatMap_append, List.flatMap_cons, hplain, List.singleton_append,
    orderMarks_append_cons combiningClass_underscore, joinAll_append_underscore]
  rfl

/-- It is in composed form if both parts are. -/
theorem isComposed_append_underscore {front back : List Char} :
    IsComposed (front ++ '_' :: back) ↔ IsComposed front ∧ IsComposed back := by
  constructor
  · exact fun h => ⟨h.left_of_append, h.right_of_append.tail⟩
  · rintro ⟨hfront, hback⟩
    rw [IsComposed, compose_append_underscore, hfront, hback]

end TypedJson.Text
