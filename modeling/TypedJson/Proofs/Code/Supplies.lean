import TypedJson.Proofs.Code.Mentions

/-!
# What definitions take is imported

The definitions of a module and its type variables take names from other modules of the language.
Each of them is imported: for classes and the functions of top-levels as they are written, and for
the support functions by what these are known to need (`declaresOnly_definition`).
-/

namespace TypedJson.Code

open Naming Script

/-! ## Imports -/

/-- What a text takes from other modules is imported. -/
def Imported (i : Imports) (text : List Char) : Prop :=
  ∀ entry ∈ importable, entry.2 ∈ bareWords text → i.contains entry.1 entry.2

/-- What a line of a region declares takes only what is imported from other modules, and so do all
lines of the prelude. -/
def Supplies (i : Imports) (region : Region) (line : Line) (_ : List Line) : Prop :=
  region = .prelude ∨ declares line.text → Imported i line.text

variable {i : Imports} {region : Region} {text : String} {p : Part}

/-- A text that takes only what is imported can stand on a line of its own, and on the first line of
a block. -/
theorem stands_supplies (hstart : StartsCode text) (h : Imported i text.toList) :
    Stands (Supplies i region) text ∧ Heads (Supplies i region) text :=
  ⟨⟨hstart, fun _ _ _ => h⟩, hstart, fun _ _ _ _ => h⟩

/-- Outside of the prelude, nothing is claimed of statements. -/
theorem spares_supplies (hregion : region ≠ .prelude) : Spares (Supplies i region) := by
  rintro text h column rest (hprelude | hdeclares)
  · exact absurd hprelude hregion
  · rw [h.declares] at hdeclares
    cases hdeclares

namespace Context

variable {ctx : Context} {g : TypeGraph} {o : Options} {place : Place} {t : TypeRef}

/-- What may be used at a place is imported. -/
theorem Cites.imported {text : List Char} (h : ctx.Cites i place text) : Imported i text :=
  fun entry hentry hword => (h entry.2 hword).imported entry hentry rfl

/-- The classes of enumerations take only what is imported. -/
theorem IsEnumerationPart.supplies (hregion : region ≠ .prelude)
    (h : (contextOf g o).IsEnumerationPart i t p) : Suits (Supplies i region) p.body := by
  have henumeration : t ∈ g.enumerations := TypeGraph.mem_enumerations.2 (by
    obtain ⟨-, e, he, -⟩ := h
    exact ⟨e, he⟩)
  refine h.suits (spares_supplies hregion) fun name hname henum => ?_
  have hspelled : Spelled ((contextOf g o).sayable i ⟨[], true⟩ []) ("class " ++ name) :=
    spelled_class (List.mem_append_left _ henumeration) hname
  have hclass : StartsCode "class " := startsCode_ofList (by decide)
  exact (stands_supplies ((hclass.append _).append _) (cites_of_spelled (List.forall_mem_nil _)
    (hspelled.closed (imported_subset (by decide +kernel) henum) (by decide +kernel))).imported).2

/-- So do the classes of records. -/
theorem IsClassPart.supplies (hhints : (contextOf g o).features.typeHints = true)
    (hregion : region ≠ .prelude) {declared : List TypeRef}
    (h : (contextOf g o).IsClassPart o i (declared, t) p) : Suits (Supplies i region) p.body := by
  refine h.suits_of_mentions hhints ?_
  rintro line rest hmentions (hprelude | hdeclares)
  · exact absurd hprelude hregion
  · exact (hmentions.declaring hdeclares).imported

/-- The names of functions are words that are neither spoken for nor names of types. -/
theorem name_of_functionNames {index : Nat} {names : TopLevelNames}
    (h : (contextOf g o).names.functionNames index = .ok names) :
    ∀ name ∈ [names.fromDict, names.toDict], IsName name ∧ name ∉ globalForbidden ∧
      ∀ t, (contextOf g o).names.types.lookup t ≠ some name := by
  have hnodup := (NameTable.scoped_assign g o).moduleNodup
  unfold NameTable.functionNames at h
  split at h
  next pair hpair =>
    obtain rfl := Except.ok.inj h
    intro name hname
    obtain ⟨hword, hfree⟩ := (NameTable.functionsApart_assign g o index pair hpair).1 name hname
    refine ⟨hword, hfree, fun t ht => ?_⟩
    exact (List.nodup_append.1 hnodup).2.2 name
      (List.mem_map_of_mem (f := Prod.snd) (Ordered.mem_of_lookup ht)) name
      (List.mem_flatMap.2 ⟨pair, List.mem_of_getElem? hpair, hname⟩) rfl
  next => cases h

/-- The functions of top-levels take only what is imported. -/
theorem IsFunctionsPart.supplies (hregion : region ≠ .prelude) {top : TopLevel × Nat}
    (h : (contextOf g o).IsFunctionsPart i top p) : Suits (Supplies i region) p.body := by
  refine h.suits (spares_supplies hregion) fun names hint hlookup hhint => ?_
  have hfunctions := name_of_functionNames hlookup
  let V := (contextOf g o).sayable i ⟨(contextOf g o).graph.records, false⟩
    [names.fromDict, names.toDict]
  have hdef : StartsCode "def " := startsCode_ofList (by decide)
  have hopen : Leads V "def " := leads_of_opens plain_subset (by decide +kernel)
  have hname {name : String} (hname : name ∈ [names.fromDict, names.toDict]) :
      Spelled V ("def " ++ name) :=
    hopen.append (spelled_word (mem_sayable_of_other hname) (hfunctions name hname).1.chars)
  have hline {text : String} (hstart : StartsCode text) (hspelled : Spelled V text) :
      Heads (Supplies i region) text :=
    (stands_supplies hstart (cites_of_spelled (fun w hw => (hfunctions w hw).2)
      hspelled).imported).2
  have hfirst := hname List.mem_cons_self
  have hsecond := hname (List.mem_cons_of_mem _ List.mem_cons_self)
  cases hint with
  | none =>
      exact ⟨hline ((hdef.append _).append _) (hfirst.closed plain_subset (by decide +kernel)),
        hline ((hdef.append _).append _) (hsecond.closed plain_subset (by decide +kernel))⟩
  | some hint =>
      obtain ⟨hany, hhint⟩ := hhint hint rfl
      have hany : "Any" :: plainWords ⊆ V := imported_subset (by decide +kernel) hany
      have hhint : Spelled V hint := spelled_annotate (NameTable.apart_assign g o) hhint
      refine ⟨hline (((hdef.append _).append _).append _ |>.append _) ?_,
        hline (((hdef.append _).append _).append _ |>.append _) ?_⟩
      · exact (hfirst.joined hany (by decide +kernel) hhint).closed (List.nil_subset V) (by decide)
      · exact (hsecond.joined plain_subset (by decide +kernel) hhint).closed hany
          (by decide +kernel)

end Context

/-! ## Support functions and header -/

/-- The text takes only the given names from other modules. -/
def takesOnly (known : List (String × String)) (text : List Char) : Bool :=
  (bareWords text).all fun word =>
    importable.all fun entry => entry.2 != word || known.contains entry

/-- What it takes is imported if the given names are. -/
theorem imported_of_takesOnly {known : List (String × String)} {text : List Char}
    (h : takesOnly known text) (hknown : ∀ entry ∈ known, i.contains entry.1 entry.2) :
    Imported i text := by
  intro entry hentry hword
  have hcheck := List.all_eq_true.1 (List.all_eq_true.1 h entry.2 hword) entry hentry
  rw [bne_self_eq_false, Bool.false_or] at hcheck
  exact hknown entry (List.contains_iff_mem.1 hcheck)

/-- Behind spaces, the text starts with no quote, and it takes only the given names from other
modules if it declares something. -/
def declaresOnly (known : List (String × String)) (text : String) : Bool :=
  match text.toList.dropWhile (· == ' ') with
  | [] => false
  | c :: tail => c != '"' && (!declares (c :: tail) || takesOnly known (c :: tail))

/-- Such lines take only what is imported if the given names are. -/
theorem supplies_of_declaresOnly (hregion : region ≠ .prelude) {known : List (String × String)}
    (hknown : ∀ entry ∈ known, i.contains entry.1 entry.2) {texts : List String}
    (h : texts.all (declaresOnly known)) : Suits (Supplies i region) (texts.map .line) := by
  induction texts with
  | nil => exact suits_nil
  | cons text texts ih =>
      rw [List.all_cons, Bool.and_eq_true] at h
      have htext := h.1
      unfold declaresOnly at htext
      split at htext
      next => cases htext
      next c tail hchars =>
      rw [Bool.and_eq_true, bne_iff_ne, Bool.or_eq_true, Bool.not_eq_true'] at htext
      refine Suits.spaced hchars htext.1 (fun column rest hcase => ?_) (ih h.2)
      have hdeclares := hcase.resolve_left hregion
      rcases htext.2 with hnone | htakes
      · rw [hnone] at hdeclares
        cases hdeclares
      · exact imported_of_takesOnly htakes hknown

/-- The definitions of support functions take only what they are to import. -/
theorem declaresOnly_definition {v : Version} (hhints : v.features.typeHints = true)
    (cv : Converter) :
    (cv.signature v.features.typeHints :: cv.body v.features).all (declaresOnly cv.imported) := by
  cases v with
  | v27 | v35 => cases hhints
  | v36 | v37 => cases cv <;> decide +kernel

variable {o : Options} {required : Requirements}

/-- The support functions of a module take only what is imported. -/
theorem supplies_supportPart (hhints : o.features.typeHints = true) (hregion : region ≠ .prelude) :
    Suits (Supplies (required.closeImports o.features).imports region)
      (supportPart o.features required).body := by
  refine suits_flatMap fun cv hcv => ?_
  have hall := declaresOnly_definition hhints cv
  rw [List.all_cons, Bool.and_eq_true] at hall
  have hknown : ∀ entry ∈ cv.imported,
      (required.closeImports o.features).imports.contains entry.1 entry.2 :=
    fun entry hentry => Requirements.contains_closeImports hhints hcv hentry
  have hsignature := supplies_of_declaresOnly hregion hknown
    (List.all_eq_true.2 (List.forall_mem_singleton.2 hall.1))
  have hbody := supplies_of_declaresOnly hregion hknown hall.2
  exact (hsignature.append hbody.indented).append (.blank 2 suits_nil)

/-- So do its type variables. -/
theorem supplies_variablesPart (hhints : o.features.typeHints = true) :
    Suits (Supplies (required.closeImports o.features).imports region)
      (variablesPart required).body := by
  have hline {text : String} (known : List (String × String)) (hstart : StartsCode text)
      (htakes : takesOnly known text.toList) {cv : Converter} (hcv : cv ∈ required.used)
      (hknown : ∀ entry ∈ known, entry ∈ cv.imported) :
      Suits (Supplies (required.closeImports o.features).imports region) [.line text] := by
    have himported := imported_of_takesOnly htakes fun entry hentry =>
      Requirements.contains_closeImports hhints hcv (hknown entry hentry)
    exact (stands_supplies hstart himported).1.suits suits_nil
  refine Suits.append ?_ ?_
  · split
    next hany =>
      obtain ⟨cv, hcv, huses⟩ := List.any_eq_true.1 hany
      refine hline [("typing", "TypeVar")] (startsCode_ofList (by decide)) (by decide +kernel) hcv
        (List.forall_mem_singleton.2 ?_)
      cases cv <;> first | decide | cases huses
    next => exact suits_nil
  · split
    next huses =>
      have hcv : .toEnum ∈ required.used := List.mem_filter.2 ⟨by decide, huses⟩
      exact hline [("typing", "TypeVar"), ("enum", "Enum")] (startsCode_ofList (by decide))
        (by decide +kernel) hcv (by decide)
    next => exact suits_nil

/-- The header holds no code. -/
theorem suits_headerPart {P : Line → List Line → Prop} (parsesDates : Bool)
    (functions : List TopLevelNames) : Suits P (headerPart parsesDates functions).body := by
  have hcomments {texts : List String} (h : ∀ text ∈ texts, text.toList.head? = some '#') :
      Suits P (texts.map .line) := by
    induction texts with
    | nil => exact suits_nil
    | cons text texts ih =>
        obtain ⟨htext, htexts⟩ := List.forall_mem_cons.1 h
        obtain ⟨tail, htail⟩ := List.head?_eq_some_iff.1 htext
        exact .comment htail (ih htexts)
  refine hcomments (List.forall_mem_append.2 ⟨List.forall_mem_append.2 ⟨?_, by decide⟩, ?_⟩)
  · cases parsesDates <;> decide
  · refine List.forall_mem_map.2 fun names _ => ?_
    rw [String.toList_append, String.toList_append]
    rfl

end TypedJson.Code
