import TypedJson.Proofs.Naming.Legality
import TypedJson.Proofs.Naming.Scanning

/-!
# No type name starts with an underscore

The names of types are put together from words of labels, and an underscore belongs to no word. So a
type is never named like the methods that the language itself calls.
-/

namespace TypedJson.Naming

/-- The text starts with a character that is no underscore. -/
def StartsPlain (cs : List Char) : Prop :=
  ∃ c rest, cs = c :: rest ∧ c ≠ '_'

/-- The parts of words that a grammar admits have no underscore. -/
theorem underscore_not_mem_legalParts {g : Grammar} {label : List Char} {w : Word}
    (hw : w ∈ (Word.split label).flatMap (Word.legalParts g)) : '_' ∉ w.text := by
  intro hc
  have hmem : '_' ∈ ((Word.split label).flatMap (Word.legalParts g)).flatMap Word.text :=
    List.mem_flatMap.2 ⟨w, hw, hc⟩
  rw [(Word.laid_legalParts g label).flatMap_text] at hmem
  have hkeeps := (List.mem_filter.1 hmem).2
  have hword : Word.isWordChar '_' = false := by decide
  rw [Word.keeps, hword] at hkeeps
  cases hkeeps

/-- The style of types makes a text that starts with no underscore. -/
theorem startsPlain_style (g : Grammar) (label : String) :
    StartsPlain (style g .typeName label).toList := by
  unfold style styleChars
  rw [String.toList_ofList]
  show StartsPlain (combineWords g .pascal (Word.split (Text.compose label.toList)))
  obtain ⟨first, rest, hplain, hstarts, hcombine⟩ := combineWords_eq (p := fun w =>
    '_' ∉ w.text) g .pascal (Word.split (Text.compose label.toList)) (by decide) (by decide)
    fun w hw => underscore_not_mem_legalParts hw
  rw [hcombine, List.map_cons]
  cases hfirst : CaseStyle.pascal.write first with
  | nil => rw [hfirst] at hstarts; cases hstarts
  | cons c text =>
      obtain ⟨behind, hbehind⟩ := intercalate_cons_of_cons CaseStyle.pascal.separator c text
        (rest.map CaseStyle.pascal.write)
      obtain ⟨d, hd, hc⟩ := mem_upperForm_of_write_pascal hfirst
      have hne : d ≠ '_' := fun heq => hplain first List.mem_cons_self (heq ▸ hd)
      have hupper := Text.ne_underscore_upperForm hne c hc
      exact ⟨c, behind, hbehind, by simpa using hupper⟩

/-- For a type the rule of a scope chooses names that start with no underscore. -/
theorem Namespace.Chooses.startsPlain {ns : Namespace} {w : String} {r : Request}
    (hrole : r.role = .typeName) (h : Chooses ns r w) : StartsPlain w.toList := by
  obtain ⟨label, role, g⟩ := r
  obtain rfl : role = .typeName := hrole
  cases h with
  | preferred => exact startsPlain_style _ _
  | escaped =>
      obtain ⟨c, rest, hstart, hc⟩ := startsPlain_style g label
      refine ⟨c, rest ++ "_".toList, ?_, hc⟩
      rw [String.toList_append, Request.preferred, hstart]
      rfl
  | numbered => exact startsPlain_style _ _

end TypedJson.Naming
