import TypedJson.Proofs.Naming.Legality
import TypedJson.Proofs.Naming.Scanning
import TypedJson.Proofs.Text.Normalization

/-!
# Names in composed form

A label is composed before it is cut into words, so the parts of its words are composed, and a name
that keeps its label is, too. Casing may undo this for a word, and words that stand side by side may
join. `isComposed_styleChars_iff` says that nothing else does: a name is composed if and only if its
written words are and, where no underscore parts them, do not join.
-/

namespace TypedJson.Naming

open Text

/-! ## Names that keep their label -/

/-- A composed text stays so if characters are replaced by underscores. -/
theorem isComposed_map_underscore (p : Char → Bool) {cs : List Char} (h : IsComposed cs) :
    IsComposed (cs.map fun c => if p c then c else '_') := by
  suffices hmain : ∀ front, IsComposed (front ++ cs) →
      IsComposed (front ++ cs.map fun c => if p c then c else '_') from hmain [] h
  induction cs with
  | nil => exact fun _ hfront => hfront
  | cons c cs ih =>
      intro front hfront
      by_cases hc : p c
      · have hmore := ih h.tail (front ++ [c]) (by simpa using hfront)
        simpa [hc] using hmore
      · have hrest := ih h.tail [] h.tail
        rw [List.map_cons, if_neg hc]
        exact isComposed_append_underscore.2 ⟨hfront.left_of_append, hrest⟩

/-- The word for an empty label is composed. -/
theorem isComposed_emptyWord : IsComposed emptyWord.text :=
  compose_append_plain [] (List.all_eq_true.1 (by decide : emptyWord.text.all isPlain))

/-- A composed label is kept in composed form. -/
theorem isComposed_sanitize (g : Grammar) {label : List Char} (h : IsComposed label) :
    IsComposed (sanitize g label) := by
  have hmap := isComposed_map_underscore g.isPart h
  have hkept : ∀ kept, IsComposed kept →
      IsComposed (if startsLegally g kept then kept else '_' :: kept) := by
    intro kept hcomposed
    split
    · exact hcomposed
    · exact isComposed_append_underscore.2 ⟨(rfl : IsComposed []), hcomposed⟩
  unfold sanitize
  cases hcs : label.map fun c => if g.isPart c then c else '_' with
  | nil => exact hkept _ isComposed_emptyWord
  | cons c cs =>
      rw [hcs] at hmap
      exact hkept (c :: cs) hmap

/-! ## Names made of words -/

/-- The words of a name as a style writes them, with the one in front of an illegal start. -/
def writtenWords (g : Grammar) (style : CaseStyle) (words : List Word) : List (List Char) :=
  let legal := match words.flatMap (Word.legalParts g) with
    | [] => [emptyWord]
    | parts => parts
  match legal.map style.write with
  | [] => []
  | first :: rest =>
    if startsLegally g first then first :: rest else style.write startWord :: first :: rest

/-- A name is made of its written words. -/
theorem combineWords_eq_intercalate (g : Grammar) (style : CaseStyle) (words : List Word) :
    combineWords g style words = style.separator.intercalate (writtenWords g style words) :=
  rfl

/-- The parts of the words of a composed label are composed. -/
theorem isComposed_legalParts (g : Grammar) {label : List Char} (h : IsComposed label) :
    ∀ w ∈ (Word.split label).flatMap (Word.legalParts g), IsComposed w.text := by
  intro w hw
  have hseg := (Word.laid_legalParts g label).isSegmentation
  rw [← hseg.word_eq] at hw
  obtain ⟨p, hp, rfl⟩ := List.mem_map.1 hw
  rw [← hseg.stands p hp] at h
  exact h.left_of_append.right_of_append

/-- Words with underscores between them are composed if and only if each of them is. -/
theorem isComposed_intercalate_underscore {texts : List (List Char)} :
    IsComposed (['_'].intercalate texts) ↔ ∀ text ∈ texts, IsComposed text := by
  induction texts with
  | nil => exact iff_of_true rfl (List.forall_mem_nil _)
  | cons first rest ih =>
      cases rest with
      | nil => simp
      | cons second rest =>
          rw [List.intercalate_cons_cons, List.append_assoc, List.singleton_append,
            isComposed_append_underscore]
          exact (and_congr_right' ih).trans List.forall_mem_cons.symm

/-- Each text is composed as if nothing stood in front of it. -/
def ComposeApart (texts : List (List Char)) : Prop :=
  ∀ front text back, texts = front ++ text :: back →
    compose (front.flatten ++ text) = compose front.flatten ++ compose text

/-- Words side by side are composed if and only if each of them is and none joins with those in
front of it. -/
theorem isComposed_flatten {texts : List (List Char)} :
    IsComposed texts.flatten ↔ (∀ text ∈ texts, IsComposed text) ∧ ComposeApart texts := by
  constructor
  · intro h
    have hparts : ∀ front text back, texts = front ++ text :: back →
        IsComposed (front.flatten ++ text) := by
      rintro front text back rfl
      rw [List.flatten_append, List.flatten_cons, ← List.append_assoc] at h
      exact h.left_of_append
    refine ⟨fun text htext => ?_, fun front text back heq => ?_⟩
    · obtain ⟨front, back, heq⟩ := List.append_of_mem htext
      exact (hparts front text back heq).right_of_append
    · have hboth := hparts front text back heq
      exact hboth.trans (congrArg₂ (· ++ ·) hboth.left_of_append hboth.right_of_append).symm
  · rintro ⟨hwords, hapart⟩
    induction texts using List.reverseRecOn with
    | nil => rfl
    | append_singleton texts text ih =>
        rw [List.forall_mem_append, List.forall_mem_singleton] at hwords
        have hfront := ih hwords.1 fun front text' back heq =>
          hapart front text' (back ++ [text]) (by simp [heq])
        rw [List.flatten_append, List.flatten_singleton, IsComposed,
          hapart texts text [] rfl, hfront, hwords.2]

/-- Without a separator, texts stand side by side. -/
theorem intercalate_nil_separator (texts : List (List Char)) :
    [].intercalate texts = texts.flatten := by
  induction texts with
  | nil => rfl
  | cons first rest ih =>
      cases rest with
      | nil => simp
      | cons second rest =>
          rw [List.intercalate_cons_cons, ih, List.append_nil]
          rfl

/-! ## All names -/

/-- The parts of the words of a label are composed before they are cased, and a name is composed if
and only if it keeps its label, or each of its written words is composed and, in Pascal case, none
joins with those in front of it. Composed names are the same if and only if they are canonically
equivalent. -/
theorem isComposed_styleChars_iff (g : Grammar) (role : Role) (label : List Char) :
    (∀ w ∈ (Word.split (compose label)).flatMap (Word.legalParts g), IsComposed w.text) ∧
      (IsComposed (styleChars g role label) ↔ (role.caseStyle ≠ .verbatim →
        (∀ text ∈ writtenWords g role.caseStyle (Word.split (compose label)), IsComposed text) ∧
          (role.caseStyle = .pascal →
            ComposeApart (writtenWords g role.caseStyle (Word.split (compose label)))))) ∧
      ∀ role' label', IsComposed (styleChars g role label) →
        IsComposed (styleChars g role' label') →
          (styleChars g role label = styleChars g role' label' ↔
            canonical (styleChars g role label) = canonical (styleChars g role' label')) := by
  refine ⟨isComposed_legalParts g (compose_compose label), ?_, fun role' label' h h' => ?_⟩
  · cases hstyle : role.caseStyle with
    | verbatim =>
        have hname : styleChars g role label = sanitize g (compose label) := by
          simp only [styleChars, hstyle]
        simp [hname, isComposed_sanitize g (compose_compose label)]
    | pascal =>
        have hname : styleChars g role label =
            (writtenWords g .pascal (Word.split (compose label))).flatten := by
          simp only [styleChars, hstyle, combineWords_eq_intercalate]
          exact intercalate_nil_separator _
        simp [hname, isComposed_flatten]
    | snakeLower =>
        have hname : styleChars g role label =
            ['_'].intercalate (writtenWords g .snakeLower (Word.split (compose label))) := by
          simp only [styleChars, hstyle, combineWords_eq_intercalate]
          rfl
        simp [hname, isComposed_intercalate_underscore]
    | snakeUpper =>
        have hname : styleChars g role label =
            ['_'].intercalate (writtenWords g .snakeUpper (Word.split (compose label))) := by
          simp only [styleChars, hstyle, combineWords_eq_intercalate]
          rfl
        simp [hname, isComposed_intercalate_underscore]
  · rw [← compose_eq_compose_iff, h, h']

/-- The capitals of one small letter with two marks are three characters of which two compose. -/
theorem not_isComposed_styleChars :
    ¬ ∀ role label, IsComposed (styleChars .unicode role label) := by
  intro h
  have hname : styleChars .unicode .enumCase ['\u0390'] = ['\u0399', '\u0308', '\u0301'] := by
    decide +kernel
  have hcompose : compose ['\u0399', '\u0308', '\u0301'] = ['\u03aa', '\u0301'] := by
    decide +kernel
  have hcomposed := h .enumCase ['\u0390']
  rw [hname, IsComposed, hcompose] at hcomposed
  cases hcomposed

end TypedJson.Naming
