import TypedJson.Proofs.Code.Outlines
import TypedJson.Proofs.Code.Vocabulary
import TypedJson.Proofs.Naming.Initials

/-!
# What annotations mention

An annotation refers to a class by its bare name only where the class is defined already: to those
of enumerations anywhere, to those of records behind them, and to all of them in the functions of
top-levels. What it takes from other modules is imported. Both are read from the bare words of a
line (`Usable`), so an annotation is followed through its steps as a text of the vocabulary of the
words that may stand at its place (`spelled_annotateWithin`). From there it comes into the outline
of a class (`IsClassPart.suits_of_mentions`).
-/

namespace TypedJson.Code

open Naming Script

/-! ## Words that may be used -/

/-- The names that definitions and annotations take from modules of the language. -/
def importable : List (String × String) :=
  ["Any", "Callable", "Dict", "List", "Optional", "Type", "TypeVar", "Union", "cast"].map
      (("typing", ·))
    ++ [("datetime", "datetime"), ("enum", "Enum"), ("dataclasses", "dataclass")]

/-- The words of definitions and annotations that are no names of classes and not imported. -/
def plainWords : List String :=
  keywords ++ Converter.all.map Converter.name ++ ["EnumT", "T", "__init__", "bool", "bound", "c",
    "dict", "f", "float", "fs", "int", "obj", "object", "result", "s", "self", "staticmethod",
    "str", "t", "to_dict", "x"]

/-- The types of the names that are bare in an annotation at the place. -/
def Context.bareTypes (ctx : Context) (place : Context.Place) : List TypeRef :=
  ctx.graph.enumerations ++ if place.quoteOthers then place.declared else ctx.graph.records

/-- A word may be used at a place: if a class has it for its name, the class is among those that are
bare there, and if it stands for something of another module, that is imported. -/
structure Context.Usable (ctx : Context) (i : Imports) (place : Context.Place) (word : String) :
    Prop where
  defined : ∀ t, ctx.names.types.lookup t = some word → t ∈ ctx.bareTypes place
  imported : ∀ entry ∈ importable, entry.2 = word → i.contains entry.1 entry.2

/-- The bare words of a text may be used at a place. -/
def Context.Cites (ctx : Context) (i : Imports) (place : Context.Place) (text : List Char) : Prop :=
  ∀ word ∈ bareWords text, ctx.Usable i place word

/-- No class is named by a word that starts like this. -/
def startsSmall (word : String) : Bool :=
  match word.toList with
  | [] => false
  | c :: _ => c.isLower || c == '_'

/-- The names of types start with no underscore. -/
theorem startsPlain_types {g : TypeGraph} {o : Options} {t : TypeRef} {name : String}
    (h : (NameTable.assign g o).types.lookup t = some name) : StartsPlain name.toList := by
  have hmem := Ordered.mem_of_lookup h
  rw [NameTable.types_assign] at hmem
  refine Namespace.forall_run (p := fun name => StartsPlain name.toList) ?_ _ name
    (List.of_mem_zip hmem).2
  intro r hr ns w hw
  obtain ⟨entry, -, rfl⟩ := List.mem_map.1 hr
  exact hw.startsPlain rfl

/-- Neither words that are spoken for nor those that start small are names of types. -/
theorem lookup_types_ne {g : TypeGraph} {o : Options} {word : String}
    (h : globalForbidden.contains word || startsSmall word) (t : TypeRef) :
    (NameTable.assign g o).types.lookup t ≠ some word := by
  intro hlookup
  obtain ⟨-, hfree, c, rest, hstart, hlower⟩ := (NameTable.apart_assign g o).type hlookup
  obtain ⟨c', rest', hstart', hplain⟩ := startsPlain_types hlookup
  obtain ⟨rfl, rfl⟩ := List.cons.inj (hstart.symm.trans hstart')
  rw [Bool.or_eq_true, List.contains_iff_mem] at h
  rcases h with h | h
  · exact hfree h
  · unfold startsSmall at h
    rw [hstart] at h
    simp [hlower, hplain] at h

/-- What is imported is spoken for. -/
theorem mem_globalForbidden_of_importable {entry : String × String} (h : entry ∈ importable) :
    entry.2 ∈ globalForbidden := by
  have hall : importable.all fun entry => globalForbidden.contains entry.2 := by decide +kernel
  exact List.contains_iff_mem.1 (List.all_eq_true.1 hall entry h)

namespace Context

variable {ctx : Context} {g : TypeGraph} {o : Options} {i : Imports} {place : Place}
  {others : List String} {word name : String} {t : TypeRef}

/-- The vocabulary of the words that may be used at a place, with the given words besides. Names
between quotes are single words of it. -/
def sayable (ctx : Context) (i : Imports) (place : Place) (others : List String) : List String :=
  plainWords ++ others ++ (ctx.bareTypes place).filterMap (fun t => ctx.names.types.lookup t)
    ++ (importable.filter fun entry => i.contains entry.1 entry.2).map Prod.snd
    ++ ctx.names.types.map fun entry => "'" ++ entry.2 ++ "'"

/-- It has the plain words. -/
theorem plain_subset : plainWords ⊆ ctx.sayable i place others := by
  unfold sayable
  iterate 4 refine List.subset_append_of_subset_left _ ?_
  exact List.Subset.refl _

/-- It has the words that are given besides. -/
theorem mem_sayable_of_other (h : word ∈ others) : word ∈ ctx.sayable i place others := by
  unfold sayable
  iterate 3 refine List.mem_append_left _ ?_
  exact List.mem_append_right _ h

/-- It has the names that are bare. -/
theorem mem_sayable_of_type (ht : t ∈ ctx.bareTypes place)
    (hname : ctx.names.types.lookup t = some name) : name ∈ ctx.sayable i place others := by
  unfold sayable
  iterate 2 refine List.mem_append_left _ ?_
  exact List.mem_append_right _ (List.mem_filterMap.2 ⟨t, ht, hname⟩)

/-- It has what is imported besides the plain words. -/
theorem imported_subset {module : String} (h : (module, name) ∈ importable)
    (hi : i.contains module name) : name :: plainWords ⊆ ctx.sayable i place others := by
  refine List.cons_subset.2 ⟨?_, plain_subset⟩
  unfold sayable
  refine List.mem_append_left _ (List.mem_append_right _ ?_)
  exact List.mem_map.2 ⟨(module, name), List.mem_filter.2 ⟨h, hi⟩, rfl⟩

/-- Its characters are those of all names of types. -/
theorem isOf_type (hname : ctx.names.types.lookup t = some name) :
    ∀ c ∈ name.toList, IsOf (ctx.sayable i place others) c := by
  intro c hc
  refine .inr ⟨"'" ++ name ++ "'", List.mem_append_right _ ?_, ?_⟩
  · exact List.mem_map.2 ⟨(t, name), Ordered.mem_of_lookup hname, rfl⟩
  · rw [String.toList_append, String.toList_append]
    exact List.mem_append_left _ (List.mem_append_right _ hc)

/-- Its words may be used, if those that are given besides are neither spoken for nor names of
types. -/
theorem usable_of_sayable
    (hothers : ∀ w ∈ others, w ∉ globalForbidden ∧
      ∀ t, (contextOf g o).names.types.lookup t ≠ some w)
    (h : word ∈ (contextOf g o).sayable i place others) : (contextOf g o).Usable i place word := by
  have hnames := NameTable.apart_assign g o
  have hfree {word : String} (htypes : ∀ t, (contextOf g o).names.types.lookup t ≠ some word)
      (himports : ∀ entry ∈ importable, entry.2 ≠ word) : (contextOf g o).Usable i place word :=
    ⟨fun t ht => absurd ht (htypes t), fun entry hentry heq => absurd heq (himports entry hentry)⟩
  unfold sayable at h
  simp only [List.mem_append, or_assoc] at h
  rcases h with h | h | h | h | h
  · have htypes : plainWords.all fun w => globalForbidden.contains w || startsSmall w := by
      decide +kernel
    have himports : importable.all fun entry => !plainWords.contains entry.2 := by decide +kernel
    refine hfree (lookup_types_ne (List.all_eq_true.1 htypes word h)) ?_
    rintro entry hentry rfl
    have hfalse := List.all_eq_true.1 himports entry hentry
    rw [List.contains_iff_mem.2 h] at hfalse
    cases hfalse
  · obtain ⟨hforbidden, htypes⟩ := hothers word h
    exact hfree htypes fun entry hentry heq =>
      hforbidden (heq ▸ mem_globalForbidden_of_importable hentry)
  · obtain ⟨t, ht, hname⟩ := List.mem_filterMap.1 h
    refine ⟨fun t' ht' => ?_, fun entry hentry heq => ?_⟩
    · rwa [hnames.typeOnce ht' hname]
    · exact absurd (heq ▸ mem_globalForbidden_of_importable hentry) (hnames.type hname).2.1
  · obtain ⟨entry, hentry, rfl⟩ := List.mem_map.1 h
    obtain ⟨hmem, hcontains⟩ := List.mem_filter.1 hentry
    refine ⟨fun t ht => ?_, fun other hother heq => ?_⟩
    · exact absurd (mem_globalForbidden_of_importable hmem) (hnames.type ht).2.1
    · have hinj : ∀ a ∈ importable, ∀ b ∈ importable, a.2 = b.2 → a = b := by decide +kernel
      rw [hinj other hother entry hmem heq]
      exact hcontains
  · obtain ⟨entry, hentry, rfl⟩ := List.mem_map.1 h
    have hquote : '\'' ∈ ("'" ++ entry.2 ++ "'").toList := by simp
    refine hfree (fun t ht => ?_) fun other hother heq => ?_
    · exact absurd ((hnames.type ht).1.chars _ hquote) (by decide)
    · have hchars : ∀ a ∈ importable, '\'' ∉ a.2.toList := by decide +kernel
      exact hchars other hother (heq ▸ hquote)

/-! ## Annotations -/

/-- Looking up the kind of a type does nothing else. -/
theorem within_of_kind {α : Type} {next : Kind → Gen α} {a : α}
    (h : (ctx.kind t >>= next).YieldsWithin i a) :
    ∃ k, ctx.graph.kind? t = some k ∧ (next k).YieldsWithin i a := by
  obtain ⟨s, s', hrun, hi⟩ := h
  obtain ⟨k, between, hk, hrun⟩ := hrun.bind
  obtain ⟨hkind, rfl⟩ := kind_of_runs hk
  exact ⟨k, hkind, s, s', hrun, hi⟩

/-- An annotation with an argument is of the vocabulary, if the argument is. -/
theorem spelled_brackets {V known : List String} {front : List Char} {inner : String}
    (hknown : known ⊆ V) (hfront : opens known front) (hinner : Spelled V inner) :
    Spelled V (String.ofList front ++ inner ++ "]") :=
  Spelled.closed (List.nil_subset V) ((leads_of_opens hknown hfront).append hinner) (by decide)

/-- What may be null is annotated as optional. -/
theorem spelled_optional {inner hint : String}
    (hinner : Spelled (ctx.sayable i place others) inner)
    (h : (do
      if ctx.graph.isNullable t then do
        typing "Optional"
        return "Optional[" ++ inner ++ "]"
      else return inner : Gen String).YieldsWithin i hint) :
    Spelled (ctx.sayable i place others) hint := by
  split at h
  · obtain ⟨hoptional, h⟩ := h.addName (Gen.keepsImports_pure _)
    rw [h.pure]
    exact spelled_brackets (imported_subset (by decide +kernel) hoptional) (by decide +kernel)
      hinner
  · rwa [h.pure]

/-- The annotation of a type at a place, within what is imported, is of the vocabulary of the
place. -/
theorem spelled_annotateWithin (hnames : ctx.names.Apart) {n : Nat} {hint : String}
    (h : (ctx.annotateWithin place n t).YieldsWithin i hint) :
    Spelled (ctx.sayable i place others) hint := by
  have hfixed {text : List Char} (htext : closes plainWords text) :
      Spelled (ctx.sayable i place others) (String.ofList text) :=
    spelled_of_closes plain_subset htext
  have hname {t : TypeRef} {name : String} (ht : t ∈ ctx.bareTypes place)
      (hlookup : ctx.names.types.lookup t = some name) :
      Spelled (ctx.sayable i place others) name :=
    spelled_word (mem_sayable_of_type ht hlookup) (hnames.type hlookup).1.chars
  induction n generalizing t hint with
  | zero => exact absurd h.yields Gen.not_yields_throw
  | succ n ih =>
      unfold annotateWithin at h
      dsimp only at h
      split at h
      next => exact ih h
      next =>
      obtain ⟨k, hk, h⟩ := within_of_kind h
      cases k with
      | any =>
          obtain ⟨hany, h⟩ := h.addName (Gen.keepsImports_pure _)
          rw [h.pure]
          exact spelled_of_closes (imported_subset (by decide +kernel) hany) (by decide +kernel)
      | null | bool | integer | double | text =>
          rw [h.pure]
          exact hfixed (by decide +kernel)
      | array items =>
          obtain ⟨hlist, h⟩ := h.addName (keepsImports_annotateWithin.bind fun _ =>
            Gen.keepsImports_pure _)
          obtain ⟨inner, hinner, h⟩ := h.bind fun _ => Gen.keepsImports_pure _
          rw [h.pure]
          exact spelled_brackets (imported_subset (by decide +kernel) hlist) (by decide +kernel)
            (ih hinner)
      | map values =>
          obtain ⟨hdict, h⟩ := h.addName (keepsImports_annotateWithin.bind fun _ =>
            Gen.keepsImports_pure _)
          obtain ⟨inner, hinner, h⟩ := h.bind fun _ => Gen.keepsImports_pure _
          rw [h.pure]
          exact spelled_brackets (imported_subset (by decide +kernel) hdict) (by decide +kernel)
            (ih hinner)
      | record r =>
          obtain ⟨name, hlookup, h⟩ := h.bind fun _ => Gen.keepsImports_pure _
          have hlookup := typeName_of_yields hlookup.yields
          rw [h.pure]
          split
          · exact (leads_quoted (isOf_type hlookup) (hnames.type hlookup).1.chars).spelled
          next hbare =>
            refine hname (List.mem_append_right _ ?_) hlookup
            split
            next hquote => simpa [hquote] using hbare
            next => exact TypeGraph.mem_records.2 ⟨r, TypeGraph.record?_eq_some.2 hk⟩
      | enumeration e =>
          have henum : t ∈ ctx.graph.enumerations :=
            TypeGraph.mem_enumerations.2 ⟨e, TypeGraph.enumeration?_eq_some.2 hk⟩
          exact hname (List.mem_append_left _ henum) (typeName_of_yields h.yields)
      | union members =>
          dsimp only at h
          -- Whether null is among the members decides on the last step only.
          split at h
          next =>
            rw [h.pure]
            exact hfixed (by decide +kernel)
          next =>
            split at h
            next =>
              obtain ⟨inner, hinner, h⟩ := h.bind fun inner => keepsImports_optional inner
              exact spelled_optional (ih hinner) h
            next =>
              obtain ⟨hunion, h⟩ := h.addName ((Gen.keepsImports_mapM
                (fun _ => keepsImports_annotateWithin) _).bind fun _ =>
                  (Gen.keepsImports_pure _).bind fun inner => keepsImports_optional inner)
              obtain ⟨texts, htexts, h⟩ := h.bind fun _ =>
                (Gen.keepsImports_pure _).bind fun inner => keepsImports_optional inner
              obtain ⟨inner, hinner, h⟩ := h.bind fun inner => keepsImports_optional inner
              have hmembers : ∀ text ∈ texts, Spelled (ctx.sayable i place others) text := by
                intro text htext
                obtain ⟨m, -, hm⟩ := exists_of_forall₂
                  (htexts.mapM fun _ => keepsImports_annotateWithin) htext
                exact ih hm
              refine spelled_optional ?_ h
              rw [hinner.pure]
              exact spelled_brackets (imported_subset (by decide +kernel) hunion)
                (by decide +kernel) (spelled_intercalate hmembers)
      | formatted format =>
          cases format with
          | dateTime =>
              obtain ⟨hdatetime, h⟩ := h.addName (Gen.keepsImports_pure _)
              rw [h.pure]
              exact spelled_of_closes (imported_subset (by decide +kernel) hdatetime)
                (by decide +kernel)
          | integerText =>
              rw [h.pure]
              exact hfixed (by decide +kernel)

/-- The annotation of a type at a place is of the vocabulary of the place. -/
theorem spelled_annotate (hnames : ctx.names.Apart) {hint : String}
    (h : (ctx.annotate place t).YieldsWithin i hint) :
    Spelled (ctx.sayable i place others) hint :=
  spelled_annotateWithin hnames h

/-! ## Lines -/

/-- The bare words of a text of the vocabulary of a place may be used there. -/
theorem cites_of_spelled
    (hothers : ∀ w ∈ others, w ∉ globalForbidden ∧
      ∀ t, (contextOf g o).names.types.lookup t ≠ some w) {text : String}
    (h : Spelled ((contextOf g o).sayable i place others) text) :
    (contextOf g o).Cites i place text.toList :=
  fun word hword => usable_of_sayable hothers (h.bareWords word hword)

/-- What may be used in front of a class may be used behind it. -/
theorem Cites.behind {declared : List TypeRef} {text : List Char}
    (h : ctx.Cites i ⟨declared, true⟩ text) (t : TypeRef) :
    ctx.Cites i ⟨t :: declared, true⟩ text := by
  intro word hword
  obtain ⟨hdefined, himported⟩ := h word hword
  refine ⟨fun u hu => ?_, himported⟩
  rcases List.mem_append.1 (hdefined u hu) with henum | hdeclared
  · exact List.mem_append_left _ henum
  · exact List.mem_append_right _ (List.mem_cons_of_mem t hdeclared)

/-- What the outline of a class mentions, with those of `declared` in front of it: annotations refer
to classes in front of it, and its first line names the class itself. -/
structure Mentions (ctx : Context) (i : Imports) (declared : List TypeRef) (t : TypeRef)
    (text : List Char) : Prop where
  declaring : declares text → ctx.Cites i ⟨t :: declared, true⟩ text
  annotated : isAnnotated text → ctx.Cites i ⟨declared, true⟩ text

/-- So does a text that may be used in front of the class. -/
theorem mentions_of_cites {declared : List TypeRef} {text : List Char}
    (h : ctx.Cites i ⟨declared, true⟩ text) : ctx.Mentions i declared t text :=
  ⟨fun _ => h.behind t, fun _ => h⟩

/-- So does a line that declares nothing. -/
theorem mentions_of_not_declares {declared : List TypeRef} {text : List Char}
    (h : declares text = false) : ctx.Mentions i declared t text := by
  refine ⟨fun hdeclares => ?_, fun hannotated => ?_⟩
  · rw [h] at hdeclares
    cases hdeclares
  · rw [declares, hannotated] at h
    cases h

end Context

/-! ## Classes -/

/-- The first line of a class is no annotation. -/
theorem isAnnotated_class (rest : List Char) : isAnnotated ("class ".toList ++ rest) = false := by
  have hspace : ' ' ∈ "class ".toList := by decide
  obtain ⟨hword, hbehind⟩ := span_append_of_end hspace (by decide) rest
  rw [isAnnotated, hword, hbehind]
  decide

namespace Context

variable {g : TypeGraph} {o : Options} {i : Imports} {declared : List TypeRef} {t : TypeRef}
  {p : Part} {P : Line → List Line → Prop} {text : String}

/-- The first line of a class names one that is bare at the place. -/
theorem spelled_class {place : Place} {name : String} (ht : t ∈ (contextOf g o).bareTypes place)
    (hname : (contextOf g o).names.types.lookup t = some name) :
    Spelled ((contextOf g o).sayable i place []) ("class " ++ name) := by
  have hword := ((NameTable.apart_assign g o).type hname).1.chars
  have hopen : Leads ((contextOf g o).sayable i place []) "class " :=
    leads_of_opens plain_subset (by decide +kernel)
  exact hopen.append (spelled_word (mem_sayable_of_type ht hname) hword)

section Classes

variable (hP : ∀ line rest, (contextOf g o).Mentions i declared t line.text → P line rest)

include hP

/-- What mentions what it may can stand on a line of its own, and on the first line of a block. -/
theorem stands_of_mentions (hstart : StartsCode text)
    (h : (contextOf g o).Mentions i declared t text.toList) : Stands P text ∧ Heads P text :=
  ⟨⟨hstart, fun column rest => hP ⟨column, text.toList⟩ rest h⟩,
    hstart, fun column rest _ => hP ⟨column, text.toList⟩ rest h⟩

/-- Statements mention nothing that is restricted. -/
theorem spares_of_mentions : Spares P :=
  fun _ h _ _ => hP _ _ (mentions_of_not_declares h.declares)

/-- The outline of a class mentions what it may. -/
theorem suitsClass_of_mentions {name : String} {fields : List Field} {returned : Option String}
    (hhints : (contextOf g o).features.typeHints = true)
    (h : (contextOf g o).WritesClass i declared t name fields returned) :
    SuitsClass P (contextOf g o).features fields returned := by
  let V := (contextOf g o).sayable i ⟨declared, true⟩ (fields.map Field.name)
  have hnames := NameTable.apart_assign g o
  have hothers : ∀ w ∈ fields.map Field.name, w ∉ globalForbidden ∧
      ∀ t, (contextOf g o).names.types.lookup t ≠ some w := by
    refine List.forall_mem_map.2 fun f hf => ?_
    obtain ⟨-, hfree, -, htypes⟩ := h.names f hf
    exact ⟨hfree, htypes⟩
  have hline {text : String} (hstart : StartsCode text) (hspelled : Spelled V text) :
      Stands P text ∧ Heads P text :=
    stands_of_mentions hP hstart (mentions_of_cites (cites_of_spelled hothers hspelled))
  have hfixed {text : List Char} (hfixed : closes plainWords text) :
      Spelled V (String.ofList text) :=
    spelled_of_closes plain_subset hfixed
  have hdeclaration {f : Field} (hf : f ∈ fields) : Spelled V (f.declaration true) := by
    have hname : Spelled V f.name :=
      spelled_word (mem_sayable_of_other (List.mem_map_of_mem hf)) (h.names f hf).1.chars
    exact hname.joined (List.nil_subset V) (by decide)
      (spelled_annotate hnames (h.hints hhints f hf))
  refine ⟨fun _ f hf => ?_, ?_, ?_, ?_, ?_, ?_, fun f hf => ?_⟩
  · refine (hline (((h.names f hf).1.startsCode.append _).append _ |>.append _) ?_).1
    split
    · exact (hdeclaration hf).closed plain_subset (by decide +kernel)
    · rw [String.append_empty]
      exact hdeclaration hf
  · have hdef : StartsCode "def __init__(" := startsCode_ofList (by decide)
    have hparameters : ∀ text ∈ "self" :: fields.map (Field.declaration true), Spelled V text :=
      List.forall_mem_cons.2 ⟨hfixed (by decide +kernel), List.forall_mem_map.2 fun f hf =>
        hdeclaration hf⟩
    have hopen : Leads V "def __init__(" := leads_of_opens plain_subset (by decide +kernel)
    refine (hline (((hdef.append _).append _).append _ |>.append _) ?_).2
    rw [hhints]
    exact ((hopen.append (spelled_intercalate hparameters)).closed (List.nil_subset V)
      (by decide)).closed plain_subset (by decide +kernel) |>.closed (List.nil_subset V) (by decide)
  · exact (hline (startsCode_ofList (by decide)) (hfixed (by decide +kernel))).1
  · cases returned with
    | none => exact (hline (startsCode_ofList (by decide)) (hfixed (by decide +kernel))).2
    | some hint =>
        obtain ⟨hany, hhint⟩ := h.returned hint rfl
        have hdef : StartsCode "def from_dict(obj: Any) -> " := startsCode_ofList (by decide)
        have hopen : Leads V "def from_dict(obj: Any) -> " :=
          leads_of_opens (imported_subset (by decide +kernel) hany) (by decide +kernel)
        exact (hline ((hdef.append _).append _) ((hopen.append
          (spelled_annotate hnames hhint)).closed (List.nil_subset V) (by decide))).2
  · unfold toDictSignature
    rw [hhints]
    exact (hline (startsCode_ofList (by decide)) (hfixed (by decide +kernel))).2
  · unfold resultLine
    rw [hhints]
    exact (hline (startsCode_ofList (by decide)) (hfixed (by decide +kernel))).1
  · have hif : StartsCode "if self." := startsCode_ofList (by decide)
    have hself : Spelled V ("if self." ++ f.name) := by
      have hbare : Spelled V "if self" := hfixed (by decide +kernel)
      rw [show "if self." = "if self" ++ "." by decide, String.append_assoc]
      exact hbare.member (mem_sayable_of_other (List.mem_map_of_mem hf)) (h.names f hf).1.chars
    exact (hline ((hif.append _).append _) (hself.closed plain_subset (by decide +kernel))).2

end Classes

/-- The lines of a class mention what they may. -/
theorem IsClassPart.suits_of_mentions (hhints : (contextOf g o).features.typeHints = true)
    (h : (contextOf g o).IsClassPart o i (declared, t) p)
    (hP : ∀ line rest, (contextOf g o).Mentions i declared t line.text → P line rest) :
    Suits P p.body := by
  have hnames := NameTable.apart_assign g o
  refine IsClassPart.suits (spares_of_mentions hP) hnames h
    fun name fields returned hwrites => ⟨fun hdataclasses => ?_, ?_,
      suitsClass_of_mentions hP hhints hwrites⟩
  · have hspelled : Spelled ((contextOf g o).sayable i ⟨declared, true⟩ []) "@dataclass" :=
      spelled_of_closes (imported_subset (by decide +kernel) (hwrites.dataclass hdataclasses))
        (by decide +kernel)
    exact (stands_of_mentions hP (startsCode_ofList (by decide))
      (mentions_of_cites (cites_of_spelled (List.forall_mem_nil _) hspelled))).1
  · let V := (contextOf g o).sayable i ⟨t :: declared, true⟩ []
    have hbare : t ∈ (contextOf g o).bareTypes ⟨t :: declared, true⟩ :=
      List.mem_append_right _ List.mem_cons_self
    have hclass : StartsCode "class " := startsCode_ofList (by decide)
    have hspelled : Spelled V (classLine (contextOf g o).features name) := by
      refine Spelled.closed (List.nil_subset V) ?_ (by decide)
      split
      · exact (spelled_class hbare hwrites.name).closed plain_subset (by decide +kernel)
      · rw [String.append_empty]
        exact spelled_class hbare hwrites.name
    refine (stands_of_mentions hP (((hclass.append _).append _).append _)
      ⟨fun _ => cites_of_spelled (List.forall_mem_nil _) hspelled, fun hannotated => ?_⟩).2
    rw [String.append_assoc, String.append_assoc, String.toList_append,
      isAnnotated_class] at hannotated
    cases hannotated

end Context

end TypedJson.Code
