import TypedJson.Proofs.Code.WrittenModules

/-!
# Names that a module relies on

Generated code refers to builtins, decorators and imports by bare names (`referenceNames`), and what
it writes besides are words of the language, its own fixed names and identifiers. No type and no
function is named like a reference. A property may be named like one of them only: nothing keeps
the decorator of the decoding function from being the name of a property
(`reference_names_shadowed_iff`), and then a class may bind it in front of the function
(`decorator_shadowed`).
-/

namespace TypedJson.Naming

open Text

/-! ## Names of several words -/

/-- In snake case, an underscore stands between words. -/
theorem underscore_mem_combineWords (g : Grammar) {words : List Word}
    (h : 2 ≤ (words.flatMap (Word.legalParts g)).length) :
    '_' ∈ combineWords g .snakeLower words := by
  unfold combineWords
  match hparts : words.flatMap (Word.legalParts g) with
  | [] => rw [hparts] at h; cases h
  | [only] => rw [hparts] at h; exact absurd h (Nat.not_succ_le_self 1)
  | first :: second :: rest =>
      simp only [List.map_cons, CaseStyle.separator]
      split <;> simp [List.intercalate_cons_cons]

/-- A suffix of two words keeps the identifier of a function from being one word, whatever stands in
front of it and behind it. -/
theorem underscore_mem_styleChars (g : Grammar) (front : List Char) {suffix behind : List Char}
    (hsuffix : suffix.all isPlain) (hends : Word.EndsWords suffix)
    (hwords : 2 ≤ ((Word.split suffix).flatMap (Word.legalParts g)).length)
    (hbehind : ∀ c ∈ behind, isPlain c) (hends' : Word.EndsWords behind) :
    '_' ∈ styleChars g .function (front ++ suffix ++ behind) := by
  rw [styleChars_words (by decide), compose_append_plain _ hbehind,
    compose_append_plain _ (List.all_eq_true.1 hsuffix), Word.split_append hends',
    Word.split_append hends]
  refine underscore_mem_combineWords g ?_
  simp only [List.flatMap_append, List.length_append]
  omega

namespace Namespace

variable {ns : Namespace} {w : String}

/-- A suffix of two words gives the names of functions an underscore. -/
theorem Chooses.underscore {g : Grammar} {label suffix : String}
    (hsuffix : suffix.toList.all isPlain) (hends : Word.EndsWords suffix.toList)
    (hwords : 2 ≤ ((Word.split suffix.toList).flatMap (Word.legalParts g)).length)
    (h : Chooses ns ⟨label ++ suffix, .function, g⟩ w) : '_' ∈ w.toList := by
  have hpreferred : '_' ∈ (style g .function (label ++ suffix)).toList := by
    rw [style, String.toList_ofList, String.toList_append, ← List.append_nil (_ ++ _)]
    exact underscore_mem_styleChars g _ hsuffix hends hwords (List.forall_mem_nil _)
      (by rintro _ ⟨⟩)
  cases h with
  | preferred => exact hpreferred
  | escaped =>
      rw [String.toList_append]
      exact List.mem_append_left _ hpreferred
  | numbered n =>
      rw [Request.candidate, style, String.toList_ofList, toList_numbered, String.toList_append]
      exact underscore_mem_styleChars g _ hsuffix hends hwords
        (isPlain_number (Word.isNumber_toDigits n)) (Word.endsWords_underscore _)

/-! ## Preferred names -/

/-- A name that ends neither with an underscore nor with a digit is the preferred one of a
request. -/
theorem Chooses.preferred_eq {r : Request} (h : Chooses ns r w)
    {c : Char} (hlast : w.toList.getLast? = some c) (hc : c ≠ '_' ∧ c.isDigit = false) :
    r.preferred = w := by
  -- Giving way leaves a mark at the end of a name: an underscore, or a number.
  cases h with
  | preferred => rfl
  | escaped =>
      rw [String.toList_append] at hlast
      exact absurd (Option.some.inj ((List.getLast?_concat ..).symm.trans hlast)).symm hc.1
  | numbered n =>
      obtain ⟨front, hfront⟩ := style_numbered r.grammar r.role r.label
      obtain ⟨hne, hdigits⟩ := Word.isNumber_toDigits n
      rw [Request.candidate, hfront, String.toList_ofList,
        List.getLast?_append_of_ne_nil _ hne] at hlast
      have hdigit := hdigits c (List.mem_of_getLast? hlast)
      rw [hc.2] at hdigit
      cases hdigit

/-- A name that is not forbidden is bound where a request prefers it, if not before. -/
theorem mem_of_preferred {requests : List Request} {r : Request} (hr : r ∈ requests)
    (hforbidden : r.preferred ∉ ns.forbidden) :
    r.preferred ∈ ns.bound ∨ r.preferred ∈ (ns.run requests).1 := by
  induction requests generalizing ns with
  | nil => cases hr
  | cons first rest ih =>
      obtain ⟨-, -, -, hgrown, hbound⟩ := ns.answer_spec first
      unfold run
      rcases List.mem_cons.1 hr with rfl | hr
      · by_cases hmem : r.preferred ∈ ns.bound
        · exact .inl hmem
        · have hfree : ns.isTaken r.preferred = false := by
            simpa [isTaken] using ⟨hforbidden, hmem⟩
          refine .inr (List.mem_cons.2 (.inl ?_))
          rw [answer_name, if_pos (by rw [hfree]; rfl)]
      · rw [← hgrown] at hforbidden
        rcases ih hr hforbidden with hmem | hmem
        · rcases (hbound _).1 hmem with hmem | heq
          · exact .inl hmem
          · exact .inr (List.mem_cons.2 (.inl heq))
        · exact .inr (List.mem_cons_of_mem _ hmem)

end Namespace

end TypedJson.Naming

namespace TypedJson.Code

open Naming Script

variable {g : TypeGraph} {o : Options}

/-- Apart from the decorator of static methods, the references are among the names that scopes
forbid. -/
theorem globalNames_of_reference {name : String} (h : name ∈ referenceNames) :
    name ∈ globalNames ∨ name = "staticmethod" := by
  have hall : ∀ name ∈ referenceNames, name ∈ globalNames ∨ name = "staticmethod" := by
    decide +kernel
  exact hall name h

/-- The decorator of static methods is the name of no type and of no function: it starts with a
small letter, and is one word. -/
theorem decorator_not_mem_moduleNames : "staticmethod" ∉ (NameTable.assign g o).moduleNames := by
  intro h
  rw [NameTable.moduleNames_assign] at h
  refine Namespace.forall_run (p := (· ≠ "staticmethod")) ?_ _ _ h rfl
  rintro request hrequest ns w hw rfl
  have hfunction : '_' ∉ "staticmethod".toList := by decide
  rcases List.mem_append.1 hrequest with hrequest | hrequest
  · obtain ⟨entry, -, rfl⟩ := List.mem_map.1 hrequest
    obtain ⟨c, rest, heq, hlower⟩ := hw.startsLarge rfl
    obtain ⟨rfl, -⟩ := List.cons.inj heq
    exact absurd hlower (by decide)
  · obtain ⟨top, -, hrequest⟩ := List.mem_flatMap.1 hrequest
    have hsuffix (suffix : String) (h : suffix ∈ ["_from_dict", "_to_dict"])
        (hw : Namespace.Chooses ns ⟨top.name ++ suffix, .function, o.features.grammar⟩
          "staticmethod") : False := by
      have hplain : ["_from_dict", "_to_dict"].all (·.toList.all Text.isPlain) := by decide +kernel
      have hstart : ∀ suffix ∈ ["_from_dict", "_to_dict"], suffix.toList.head? = some '_' := by
        decide +kernel
      have hends : Word.EndsWords suffix.toList := by
        obtain ⟨rest, hrest⟩ := List.head?_eq_some_iff.1 (hstart suffix h)
        exact hrest ▸ Word.endsWords_underscore rest
      have hwords : ∀ g, ∀ suffix ∈ ["_from_dict", "_to_dict"],
          2 ≤ ((Word.split suffix.toList).flatMap (Word.legalParts g)).length := by
        rintro (_ | _) <;> decide +kernel
      exact hfunction (hw.underscore (List.all_eq_true.1 hplain suffix h) hends (hwords _ suffix h))
    rcases List.mem_cons.1 hrequest with rfl | hrequest
    · exact hsuffix _ List.mem_cons_self hw
    · obtain rfl := List.mem_singleton.1 hrequest
      exact hsuffix _ (List.mem_cons_of_mem _ List.mem_cons_self) hw

/-- No type and no function is named like a reference. -/
theorem not_reference_of_module {name : String} (h : name ∈ (NameTable.assign g o).moduleNames) :
    name ∉ referenceNames := by
  intro href
  rcases globalNames_of_reference href with hglobal | rfl
  · exact ((NameTable.scoped_assign g o).moduleFree h).2.1 hglobal
  · exact decorator_not_mem_moduleNames h

/-- A property is named like a reference only if a key suggests the decorator of static methods. -/
theorem reference_mem_properties_iff {t : TypeRef} {r : Record} (hr : g.record? t = some r) :
    ∃ ps, (NameTable.assign g o).properties.lookup t = some ps ∧
      ∀ name ∈ referenceNames, name ∈ ps ↔ name = "staticmethod" ∧
        ∃ p ∈ r.properties, style o.features.grammar (.property o.niceNames) p.name = name := by
  have hlookup := NameTable.lookup_properties_assign o hr
  refine ⟨_, hlookup, fun name href => ⟨fun hname => ?_, ?_⟩⟩
  · have hdecorator : name = "staticmethod" :=
      (globalNames_of_reference href).resolve_left
        ((NameTable.scoped_assign g o).propertyFree hlookup hname).1.2.1
    refine ⟨hdecorator, ?_⟩
    rw [NameTable.nameProperties_eq] at hname
    refine Namespace.forall_run (p := fun w => w = name → ∃ p ∈ r.properties,
      style o.features.grammar (.property o.niceNames) p.name = w) ?_ _ _ hname rfl
    rintro request hrequest ns w hw rfl
    obtain ⟨label, hlabel, rfl⟩ := List.mem_map.1 hrequest
    obtain ⟨p, hp, rfl⟩ := List.mem_map.1 hlabel
    have hlast : w.toList.getLast? = some 'd' := by
      rw [hdecorator]
      decide +kernel
    exact ⟨p, hp, hw.preferred_eq hlast (by decide)⟩
  · rintro ⟨rfl, p, hp, hstyle⟩
    have hfixed : ∀ name ∈ keywords ++ globalNames ++ classLocals ++
        Converter.all.map Converter.name, name ≠ "staticmethod" := by decide +kernel
    have hfree : "staticmethod" ∉ keywords ++ globalNames ++ classLocals ++
        Converter.all.map Converter.name ++ (moduleRun g o).2.bound := by
      intro hmem
      rcases List.mem_append.1 hmem with hmem | hmem
      · exact hfixed _ hmem rfl
      · exact decorator_not_mem_moduleNames ((NameTable.mem_bound_moduleRun g o).1 hmem)
    rw [NameTable.nameProperties_eq, ← hstyle]
    rw [← hstyle] at hfree
    exact (Namespace.mem_of_preferred (List.mem_map_of_mem (List.mem_map_of_mem hp))
      hfree).resolve_left List.not_mem_nil

/-- The names that generated code refers to are shadowed by no type and no function, and by a
property only where a key suggests the decorator of static methods. These are all of the references:
a bare word of a line that is not of a description is one of them, a word of the language, a name
of generated code itself, or an identifier that was assigned. -/
theorem reference_names_shadowed_iff (g : TypeGraph) (o : Options) :
    (∀ name ∈ (NameTable.assign g o).moduleNames, name ∉ referenceNames) ∧
      (∀ t r, g.record? t = some r → ∃ ps, (NameTable.assign g o).properties.lookup t = some ps ∧
        ∀ name ∈ referenceNames, name ∈ ps ↔ name = "staticmethod" ∧
          ∃ p ∈ r.properties, style o.features.grammar (.property o.niceNames) p.name = name) ∧
      ∀ module, renderModule g o = .ok module → ∃ steps imports,
        (∃ front ∈ ["", "# -*- coding: utf-8 -*-\n"], module = front ++ layout steps imports) ∧
          ∀ text, .line text ∈ steps → IsNote g.descriptions text ∨
            ∀ w ∈ bareWords text.toList, w ∈ keywords ++ localNames ++
              Converter.all.map Converter.name ++ referenceNames ++
              (NameTable.assign g o).words := by
  refine ⟨fun name => not_reference_of_module, fun t r => reference_mem_properties_iff,
    fun module h => ?_⟩
  obtain ⟨steps, imports, hlines, -, hmodule⟩ := exists_laidOut h
  refine ⟨steps, imports, ?_, fun text htext => ?_⟩
  · split at hmodule
    · exact ⟨_, List.mem_cons_of_mem _ List.mem_cons_self, hmodule⟩
    · exact ⟨"", List.mem_cons_self, hmodule.trans String.empty_append.symm⟩
  · rcases hlines text htext with hworded | hnote
    · exact .inr hworded.words
    · exact .inl hnote

/-- Items that may have a property named like the decorator. -/
def decoratorGraph : TypeGraph where
  types := #[⟨.null, none⟩, ⟨.text, none⟩, ⟨.union [⟨0⟩, ⟨1⟩], none⟩,
    ⟨.record ⟨"Item", [⟨"staticmethod", ⟨2⟩, none⟩], none⟩, none⟩]
  topLevels := [⟨"Item", ⟨3⟩⟩]

/-- The class of such items binds the name of the decorator in front of the decoding function. -/
theorem decorator_shadowed :
    TypeGraph.make decoratorGraph.types decoratorGraph.topLevels = .ok decoratorGraph ∧
      (NameTable.assign decoratorGraph ⟨.v37, false, true⟩).properties =
        [(⟨3⟩, ["staticmethod"])] ∧
      "staticmethod" ∈ referenceNames ∧
      ∃ rest, ((contextOf decoratorGraph ⟨.v37, false, true⟩).recordClass ⟨.v37, false, true⟩ []
        ⟨3⟩ ⟨"Item", [⟨"staticmethod", ⟨2⟩, none⟩], none⟩).Yields
          ([.enter .classes, .line "@dataclass", .line "class Item:", .indent,
            .line "staticmethod: Optional[str] = None", .blank 1,
            .line "@staticmethod"] ++ rest) := by
  refine ⟨TypeGraph.make_eq_self rfl (by decide), by decide +kernel, by decide +kernel,
    [.line "def from_dict(obj: Any) -> 'Item':", .indent, .line "assert isinstance(obj, dict)",
      .line "staticmethod = from_union([from_none, from_str], obj.get(\"staticmethod\"))",
      .line "return Item(staticmethod)", .dedent, .blank 1, .line "def to_dict(self) -> dict:",
      .indent, .line "result: dict = \x7b\x7d", .line "if self.staticmethod is not None:", .indent,
      .line "result[\"staticmethod\"] = from_union([from_none, from_str], self.staticmethod)",
      .dedent, .line "return result", .dedent, .dedent, .blank 2],
    ⟨.empty, _, Prod.ext (by decide +kernel) rfl⟩⟩

end TypedJson.Code
