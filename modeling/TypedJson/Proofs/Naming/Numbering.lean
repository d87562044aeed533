import TypedJson.Naming.Namespace
import TypedJson.Proofs.Naming.Segmentation
import TypedJson.Proofs.Text.Composition

/-!
# Styling numbered labels

A number behind a label comes out of every style as it went in, behind a text that the label alone
decides. `style_numbered_injective` concludes that different numbers give different identifiers,
also where nothing of the label itself is legal.
-/

namespace TypedJson.Naming

open Text Word

variable {digits : List Char}

/-! ## Digits under case mappings and grammars -/

/-- A digit continues identifiers but starts none. -/
theorem Grammar.isPart_digit (g : Grammar) {c : Char} (h : c.isDigit) :
    g.isPart c ∧ g.isStart c = false := by
  obtain ⟨-, hlower, hupper⟩ := isDigit_class h
  have hlast : c.toNat ≤ 57 := (Char.isDigit_iff_toNat.1 h).2
  have hascii : c.toNat < 0x80 := by omega
  have hlower : c.isLower = false := (if_pos hascii).symm.trans hlower
  have hupper : c.isUpper = false := (if_pos hascii).symm.trans hupper
  have hunderscore : c ≠ '_' := by
    rintro rfl
    exact absurd h (by decide)
  cases g with
  | ascii => simp [isPart, isStart, Char.isAlphanum, Char.isAlpha, h, hlower, hupper, hunderscore]
  | unicode =>
      have hstart : isIdentifierStart c = c.isAlpha := if_pos hascii
      have hpart : isIdentifierContinue c = (c.isAlphanum || c == '_') := if_pos hascii
      simp [isPart, isStart, hstart, hpart, Char.isAlphanum, Char.isAlpha, h, hlower, hupper,
        hunderscore]

/-- A digit has no case forms of its own. -/
theorem caseForms_digit {c : Char} (h : c.isDigit) :
    upperForm c = [c] ∧ lowerForm c = [c] ∧ c ≠ capitalSigma := by
  obtain ⟨hfirst, hlast⟩ : 48 ≤ c.toNat ∧ c.toNat ≤ 57 := Char.isDigit_iff_toNat.1 h
  have hascii : c.toNat < 0x80 := by omega
  have hupper : upperForm c = [c.toUpper] := if_pos hascii
  have hlower : lowerForm c = [c.toLower] := if_pos hascii
  refine ⟨?_, ?_, ?_⟩
  · rw [hupper, Char.toUpper, dif_neg]
    exact fun hcase => Nat.not_le.2 (Nat.lt_of_le_of_lt hlast (by decide))
      (UInt32.le_iff_toNat_le.1 hcase.1)
  · rw [hlower, Char.toLower, dif_neg]
    exact fun hcase => Nat.not_le.2 (Nat.lt_of_le_of_lt hlast (by decide))
      (UInt32.le_iff_toNat_le.1 hcase.1)
  · rintro rfl
    exact absurd h (by decide)

/-- A number is its own upper-case form. -/
theorem toUpperText_number (h : IsNumber digits) : toUpperText digits = digits := by
  obtain ⟨-, hdigits⟩ := h
  induction digits with
  | nil => rfl
  | cons c rest ih =>
      simp only [List.mem_cons, forall_eq_or_imp] at hdigits
      rw [toUpperText, List.flatMap_cons, (caseForms_digit hdigits.1).1]
      exact congrArg (c :: ·) (ih hdigits.2)

/-- A number is its own lower-case form. -/
theorem toLowerText_number (h : IsNumber digits) : toLowerText digits = digits := by
  obtain ⟨-, hdigits⟩ := h
  suffices hmain : ∀ before, lowerFrom before digits = digits from hmain []
  induction digits with
  | nil => intro before; rfl
  | cons c rest ih =>
      intro before
      simp only [List.mem_cons, forall_eq_or_imp] at hdigits
      obtain ⟨-, hform, hsigma⟩ := caseForms_digit hdigits.1
      simp [lowerFrom, hsigma, hform, ih hdigits.2]

/-- Every style writes a number as it is. -/
theorem CaseStyle.write_number (style : CaseStyle) (h : IsNumber digits) :
    style.write ⟨digits, true⟩ = digits := by
  cases style <;>
    simp [CaseStyle.write, CaseStyle.wordCase, WordCase.apply, toUpperText_number h,
      toLowerText_number h]

/-- Characters that all satisfy `p` are one run, together with the start of the run. -/
theorem runsFrom_all {p : Char → Bool} {cs : List Char} (h : ∀ c ∈ cs, p c) (run : List Char) :
    runsFrom p run cs = if run.reverse ++ cs = [] then [] else [run.reverse ++ cs] := by
  induction cs generalizing run with
  | nil => simp [runsFrom]
  | cons c rest ih =>
      simp only [List.mem_cons, forall_eq_or_imp] at h
      simp [runsFrom, h.1, ih h.2]

/-- Both grammars admit the whole of a number. -/
theorem legalParts_number (g : Grammar) (h : IsNumber digits) :
    legalParts g ⟨digits, true⟩ = [⟨digits, true⟩] := by
  have hpart : ∀ c ∈ digits, g.isPart c := fun c hc => (g.isPart_digit (h.2 c hc)).1
  simp [legalParts, runsFrom_all hpart, h.1]

/-! ## Identifiers of numbered labels -/

/-- A last text stands at the end of what is joined. -/
theorem intercalate_append_singleton (separator : List Char) {texts : List (List Char)}
    (h : texts ≠ []) (last : List Char) :
    separator.intercalate (texts ++ [last]) = separator.intercalate texts ++ separator ++ last := by
  induction texts with
  | nil => exact absurd rfl h
  | cons first rest ih =>
      cases rest with
      | nil => simp [List.intercalate_cons_cons]
      | cons second rest =>
          have hrest := ih (by simp)
          simp only [List.cons_append, List.intercalate_cons_cons] at hrest ⊢
          simp [hrest]

/-- A number behind the words of a label stands at the end of their identifier, behind a text that
the words alone decide. -/
theorem combineWords_append_number (g : Grammar) (style : CaseStyle) (words : List Word) :
    ∃ front : List Char, ∀ digits, IsNumber digits →
      combineWords g style (words ++ [⟨digits, true⟩]) = front ++ digits := by
  cases hparts : words.flatMap (legalParts g) with
  | nil =>
      refine ⟨style.write startWord ++ style.separator, fun digits h => ?_⟩
      have hstart : startsLegally g digits = false := by
        obtain ⟨c, rest, rfl⟩ := List.exists_cons_of_ne_nil h.1
        exact (g.isPart_digit (h.2 c List.mem_cons_self)).2
      simp [combineWords, hparts, legalParts_number g h, style.write_number h, hstart,
        List.intercalate_cons_cons]
  | cons first rest =>
      let texts := (if startsLegally g (style.write first) then [] else [style.write startWord])
        ++ (first :: rest).map style.write
      refine ⟨style.separator.intercalate texts ++ style.separator, fun digits h => ?_⟩
      have htexts : texts ≠ [] := by simp [texts]
      rw [← intercalate_append_singleton _ htexts]
      simp only [combineWords, List.flatMap_append, hparts, List.flatMap_cons, List.flatMap_nil,
        legalParts_number g h, List.cons_append, List.map_cons, List.map_append, List.map_nil,
        style.write_number h, List.append_nil, texts]
      split <;> simp

/-- A number behind a label stays at the end of what is kept of the label, behind a text that the
label alone decides. -/
theorem sanitize_append_number (g : Grammar) (label : List Char) :
    ∃ front : List Char, ∀ digits, IsNumber digits →
      sanitize g (label ++ '_' :: digits) = front ++ digits := by
  let keep : Char → Char := fun c => if g.isPart c then c else '_'
  let kept := label.map keep ++ ['_']
  refine ⟨if startsLegally g kept then kept else '_' :: kept, fun digits h => ?_⟩
  have hkeep : ∀ c ∈ digits, keep c = id c := fun c hc => if_pos (g.isPart_digit (h.2 c hc)).1
  have hdigits : digits.map keep = digits := (List.map_congr_left hkeep).trans (List.map_id _)
  have hunderscore : keep '_' = '_' := ite_self _
  have hwhole : (label ++ '_' :: digits).map keep = kept ++ digits := by
    simp [kept, hdigits, hunderscore]
  have hstart : startsLegally g (kept ++ digits) = startsLegally g kept := by
    cases label <;> rfl
  have hkept : kept ++ digits ≠ [] := by simp [kept]
  rw [sanitize, hwhole]
  split
  · next hnil => exact absurd hnil hkept
  · rw [hstart]
    split <;> rfl

/-- The identifier of a role that keeps labels. -/
theorem styleChars_verbatim {g : Grammar} {role : Role} (h : role.caseStyle = .verbatim)
    (label : List Char) : styleChars g role label = sanitize g (compose label) := by
  rw [styleChars, h]

/-- The identifier of a role that joins the words of labels. -/
theorem styleChars_words {g : Grammar} {role : Role} (h : role.caseStyle ≠ .verbatim)
    (label : List Char) :
    styleChars g role label = combineWords g role.caseStyle (split (compose label)) := by
  unfold styleChars
  split
  · next hverbatim => exact absurd hverbatim h
  · rfl

/-- A numbered label has an underscore and the digits of the number behind it. -/
theorem toList_numbered (label : String) (n : Nat) :
    (Namespace.numbered label n).toList = label.toList ++ '_' :: Nat.toDigits 10 n := by
  simp [Namespace.numbered, String.toList_append, Nat.toList_repr]

/-- An underscore and digits are not composed with anything in front of them. -/
theorem isPlain_number (h : IsNumber digits) : ∀ c ∈ '_' :: digits, isPlain c := by
  refine List.forall_mem_cons.2 ⟨by decide, fun c hc => ?_⟩
  have hlast : c.toNat ≤ 57 := (Char.isDigit_iff_toNat.1 (h.2 c hc)).2
  exact decide_eq_true (by omega)

/-- A number behind a label stands at the end of the identifier, behind a text that the label and
the role decide. -/
theorem style_numbered (g : Grammar) (role : Role) (label : String) :
    ∃ front : List Char, ∀ n : Nat,
      style g role (Namespace.numbered label n) = String.ofList (front ++ Nat.toDigits 10 n) := by
  have hcomposed : ∀ n, compose (Namespace.numbered label n).toList
      = compose label.toList ++ '_' :: Nat.toDigits 10 n := by
    intro n
    rw [toList_numbered, compose_append_plain _ (isPlain_number (isNumber_toDigits n))]
  by_cases hverbatim : role.caseStyle = .verbatim
  · obtain ⟨front, hfront⟩ := sanitize_append_number g (compose label.toList)
    refine ⟨front, fun n => ?_⟩
    rw [style, styleChars_verbatim hverbatim, hcomposed, hfront _ (isNumber_toDigits n)]
  · obtain ⟨front, hfront⟩ :=
      combineWords_append_number g role.caseStyle (split (compose label.toList))
    refine ⟨front, fun n => ?_⟩
    rw [style, styleChars_words hverbatim, hcomposed,
      split_append_number _ (isNumber_toDigits n), hfront _ (isNumber_toDigits n)]

/-- Different numbers behind a label give different identifiers. -/
theorem style_numbered_injective (g : Grammar) (role : Role) (label : String) :
    Function.Injective fun n => style g role (Namespace.numbered label n) := by
  obtain ⟨front, hfront⟩ := style_numbered g role label
  intro m n h
  simp only [hfront] at h
  have hdigits : Nat.toDigits 10 m = Nat.toDigits 10 n :=
    List.append_cancel_left (String.ofList_injective h)
  rw [← Nat.ofDigitChars_ten_toDigits (n := m), hdigits, Nat.ofDigitChars_ten_toDigits]

end TypedJson.Naming
