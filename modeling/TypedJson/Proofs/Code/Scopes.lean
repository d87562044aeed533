import TypedJson.Proofs.Code.Supplies
import TypedJson.Proofs.Code.Turns

/-!
# Annotations only refer to what is there

An annotation of a class is evaluated when its class is, so a class that it names has to be defined
in front of it, or is named between quotes. Read `annotations_in_scope` first: it says so of the
classes of a rendered module, and of all its regions that what they take from other modules is
imported.
-/

namespace TypedJson.Code

open Script

variable {i : Imports} {region : Region} {o : Options} {required : Requirements}

/-! ## The parts of a region -/

/-- No type is met twice among the records. -/
theorem nodup_records (g : TypeGraph) : g.records.Nodup := by
  have hrefs : g.refs.Nodup := List.nodup_range.map fun a b heq => congrArg TypeRef.index heq
  exact hrefs.filter _

/-- No record is an enumeration. -/
theorem not_mem_enumerations_of_record {g : TypeGraph} {t : TypeRef} (h : t ∈ g.records) :
    t ∉ g.enumerations := by
  intro henum
  obtain ⟨r, hr⟩ := TypeGraph.mem_records.1 h
  obtain ⟨e, he⟩ := TypeGraph.mem_enumerations.1 henum
  have hkind := (TypeGraph.record?_eq_some.1 hr).symm.trans (TypeGraph.enumeration?_eq_some.1 he)
  cases hkind

/-- The classes of a region are those of its parts. -/
theorem classNames_regionLines (parts : List Part) {imports : Imports} (h : region ≠ .imports) :
    classNames (regionLines (stepsOf parts) imports region) =
      classNames ((parts.filter (·.region = region)).flatMap Part.lines) := by
  rw [← classNames_dark, dark_regionLines parts h, classNames_dark]

section Parts

variable {g : TypeGraph} {enumerations classes functions : List Part}
  (henumerations : List.Forall₂ ((contextOf g o).IsEnumerationPart i) g.enumerations enumerations)
  (hclasses : List.Forall₂ ((contextOf g o).IsClassPart o i) (behindOthers [] g.records) classes)
  (hfunctions : List.Forall₂ ((contextOf g o).IsFunctionsPart i)
    (if o.justTypes then [] else g.topLevels.zipIdx) functions)

include henumerations hclasses hfunctions

/-- In its region, a page has the classes of enumerations, and so it has those of records. -/
theorem filter_definitions (names : List TopLevelNames) (required : Requirements) :
    let parts := enumerations ++ classes ++ functions ++ commonParts o names required
    parts.filter (·.region = .enumerations) = enumerations ∧
      parts.filter (·.region = .classes) = classes := by
  have hall {kept : Region} {parts : List Part} (h : ∀ p ∈ parts, p.region = kept) :
      parts.filter (·.region = kept) = parts :=
    List.filter_eq_self.2 fun p hp => decide_eq_true (h p hp)
  have hnone {kept : Region} {parts : List Part} (h : ∀ p ∈ parts, p.region ≠ kept) :
      parts.filter (·.region = kept) = [] :=
    List.filter_eq_nil_iff.2 fun p hp => by simpa using h p hp
  have henum : ∀ p ∈ enumerations, p.region = .enumerations := fun p hp => by
    obtain ⟨t, -, ht⟩ := exists_of_forall₂ henumerations hp
    exact ht.1
  have hclass : ∀ p ∈ classes, p.region = .classes := fun p hp => by
    obtain ⟨place, -, hplace⟩ := exists_of_forall₂ hclasses hp
    exact hplace.1
  have hfunction : ∀ p ∈ functions, p.region = .topLevels := fun p hp => by
    obtain ⟨top, -, htop⟩ := exists_of_forall₂ hfunctions hp
    exact htop.1
  have hcommon {p : Part} (hp : p ∈ commonParts o names required) :
      p.region ≠ .enumerations ∧ p.region ≠ .classes := by
    rcases region_commonParts hp with h | h | h <;> simp [h]
  intro parts
  simp only [parts, List.filter_append]
  refine ⟨?_, ?_⟩
  · rw [hall henum, hnone fun p hp => by simp [hclass p hp], hnone fun p hp => by
      simp [hfunction p hp], hnone fun p hp => (hcommon hp).1]
    simp
  · rw [hall hclass, hnone fun p hp => by simp [henum p hp], hnone fun p hp => by
      simp [hfunction p hp], hnone fun p hp => (hcommon hp).2]
    simp

/-- Outside of the imports, all parts of a page take only what is imported. -/
theorem supplies_parts (hhints : o.features.typeHints = true) (hi : i = pageImports o required)
    (names : List TopLevelNames) :
    ∀ p ∈ enumerations ++ classes ++ functions ++ commonParts o names required,
      Suits (Supplies i p.region) p.body := by
  subst hi
  intro p hp
  simp only [List.mem_append, or_assoc] at hp
  rcases hp with hp | hp | hp | hp
  · obtain ⟨t, -, ht⟩ := exists_of_forall₂ henumerations hp
    exact ht.supplies (by simp [ht.1])
  · obtain ⟨place, -, hplace⟩ := exists_of_forall₂ hclasses hp
    exact hplace.supplies hhints (by simp [hplace.1])
  · obtain ⟨top, -, htop⟩ := exists_of_forall₂ hfunctions hp
    exact htop.supplies (by simp [htop.1])
  · unfold commonParts at hp
    unfold pageImports
    split at hp
    next => cases hp
    next hfull =>
      rw [if_neg hfull]
      rw [List.singleton_append] at hp
      simp only [List.mem_cons, List.not_mem_nil, or_false] at hp
      rcases hp with rfl | rfl | rfl
      · exact supplies_variablesPart hhints
      · exact supplies_supportPart hhints (by simp [supportPart])
      · exact suits_headerPart _ _

end Parts

/-! ## Modules -/

/-- Where classes define themselves in turn, an annotated line stands behind the first line of its
class, the classes in front of it are those of the types in front, and it refers by bare names to
these and to enumerations only. -/
theorem exists_turn {g : TypeGraph} {written before after : List Line} {line : Line}
    (hnames : g.records.map (fun t => (contextOf g o).names.types.lookup t) =
      (classNames written).map some)
    (hturns : EachCode ((contextOf g o).InTurn i [] g.records) false written)
    (hwritten : written = before ++ line :: after) (hcode : isCode (openBehind before) line)
    (hannotated : isAnnotated line.text) :
    ∃ earlier t later, g.records = earlier ++ t :: later ∧
      (earlier ++ [t]).map (fun t => (contextOf g o).names.types.lookup t) =
        (classNames before).map some ∧
      (∀ word ∈ bareWords line.text, ∀ u, (contextOf g o).names.types.lookup u = some word →
        u ∈ g.enumerations ∨ u ∈ earlier) ∧
      ∀ u ∈ t :: later, ∀ word, (contextOf g o).names.types.lookup u = some word →
        word ∉ bareWords line.text := by
  obtain ⟨earlier, t, later, hrecords, hlater, hcites⟩ :=
    (eachCode_iff.1 hturns).2 before line after hwritten hcode hannotated
  have hbare : ∀ word ∈ bareWords line.text, ∀ u,
      (contextOf g o).names.types.lookup u = some word → u ∈ g.enumerations ∨ u ∈ earlier := by
    intro word hword u hu
    refine (List.mem_append.1 ((hcites word hword).defined u hu)).imp id fun hmem => ?_
    rw [if_pos rfl, List.append_nil] at hmem
    exact List.mem_reverse.1 hmem
  refine ⟨earlier, t, later, hrecords, ?_, hbare, fun u hu word hlookup hword => ?_⟩
  · have hline : classNames (line :: after) = classNames after :=
      List.filterMap_cons_none (classHead?_of_isAnnotated hannotated)
    have hfront : (classNames written).map some =
        (classNames before).map some ++ (classNames after).map some := by
      rw [hwritten, classNames_append, hline, List.map_append]
    rw [hrecords, List.append_cons, List.map_append, hlater, hfront] at hnames
    exact List.append_cancel_right hnames
  · have hnodup := nodup_records g
    rw [hrecords] at hnodup
    have hrecord : u ∈ g.records := hrecords ▸ List.mem_append_right _ hu
    rcases hbare word hword u hlookup with henum | hearlier
    · exact not_mem_enumerations_of_record hrecord henum
    · exact (List.nodup_append.1 hnodup).2.2 u hearlier u hu rfl

/-- In a rendered module with type hints, the classes of enumerations and those of records are
defined in their turns, the former in a region that is laid out in front (`Region.all`). What an
annotated line of the latter refers to by a bare name is an enumeration, or a record whose class is
defined in front of it; so the class itself and those behind it are only named between quotes. What
the annotations and the first lines of definitions in any region take from other modules is
imported. -/
theorem annotations_in_scope {g : TypeGraph} {o : Options} {module : String}
    (hhints : o.features.typeHints = true) (h : renderModule g o = .ok module) :
    ∃ steps required, ((contextOf g o).moduleSteps o).Runs .empty steps required ∧
      let page := pageSteps o (NameTable.assign g o).topLevels steps required
      let imports := pageImports o required
      let name := fun t => (NameTable.assign g o).types.lookup t
      (∃ front ∈ ["", "# -*- coding: utf-8 -*-\n"], module = front ++ layout page imports) ∧
      g.enumerations.map name = (classNames (regionLines page imports .enumerations)).map some ∧
      g.records.map name = (classNames (regionLines page imports .classes)).map some ∧
      (∀ before line after, regionLines page imports .classes = before ++ line :: after →
        isCode (openBehind before) line → isAnnotated line.text →
        ∃ earlier t later, g.records = earlier ++ t :: later ∧
          (earlier ++ [t]).map name = (classNames before).map some ∧
          (∀ word ∈ bareWords line.text, ∀ u, name u = some word →
            u ∈ g.enumerations ∨ u ∈ earlier) ∧
          ∀ u ∈ t :: later, ∀ word, name u = some word → word ∉ bareWords line.text) ∧
      ∀ region, region ≠ .imports →
        ∀ before line after, regionLines page imports region = before ++ line :: after →
          isCode (openBehind before) line → region = .prelude ∨ declares line.text →
          ∀ entry ∈ importable, entry.2 ∈ bareWords line.text →
            imports.contains entry.1 entry.2 := by
  obtain ⟨steps, required, enumerations, classes, functions, hrun, hmodule, hpage,
    henumerations, hclasses, hfunctions⟩ := exists_parts h
  obtain ⟨henums, hrecords⟩ := filter_definitions henumerations hclasses hfunctions
    (NameTable.assign g o).topLevels required
  obtain ⟨hnames, hturns⟩ := Context.inTurn_classes hhints hclasses
  refine ⟨steps, required, hrun, hmodule, ?_⟩
  rw [hpage]
  have hwritten : classNames (regionLines (stepsOf (enumerations ++ classes ++ functions ++
      commonParts o (NameTable.assign g o).topLevels required)) (pageImports o required)
        .classes) = classNames (classes.flatMap Part.lines) := by
    rw [classNames_regionLines _ (by decide), hrecords]
  refine ⟨?_, ?_, fun before line after hsplit hcode hannotated => ?_,
    fun region hregion before line after hsplit hcode hdeclares => ?_⟩
  · rw [classNames_regionLines _ (by decide), henums]
    exact Context.classNames_enumerations henumerations
  · rw [hwritten]
    exact hnames
  · refine exists_turn (i := pageImports o required) (hwritten ▸ hnames) ?_ hsplit hcode hannotated
    rw [eachCode_regionLines_iff (Context.inTurn_dark _ _ _ _) _ (by decide), hrecords]
    exact hturns
  · have hparts := supplies_parts henumerations hclasses hfunctions hhints rfl
      (NameTable.assign g o).topLevels
    exact (eachCode_iff.1 (eachCode_regionLines (P := Supplies (pageImports o required) region)
      (fun _ _ => Iff.rfl) hregion fun p hp hpregion => hpregion ▸ hparts p hp)).2
      before line after hsplit hcode hdeclares

/-- A record that refers to itself, to another record and to an enumeration, and that record, which
refers back. -/
def nodeGraph : TypeGraph where
  types := #[⟨.enumeration ⟨"Kind", ["leaf"], none⟩, none⟩, ⟨.array ⟨0⟩, none⟩,
    ⟨.formatted .dateTime, none⟩, ⟨.null, none⟩, ⟨.union [⟨3⟩, ⟨5⟩], none⟩,
    ⟨.record ⟨"Node", [⟨"at", ⟨2⟩, none⟩, ⟨"kinds", ⟨1⟩, none⟩, ⟨"next", ⟨4⟩, none⟩,
      ⟨"owner", ⟨6⟩, none⟩], none⟩, none⟩,
    ⟨.record ⟨"Owner", [⟨"root", ⟨5⟩, none⟩], none⟩, none⟩]
  topLevels := [⟨"Node", ⟨5⟩⟩]

/-- There, the class itself is quoted in its own annotation, and what that takes from the typing
module is imported. -/
theorem annotations_in_scope_node :
    let o : Options := ⟨.v37, true, true⟩
    let module := "from dataclasses import dataclass\nfrom datetime import datetime\n" ++
      "from enum import Enum\nfrom typing import List, Optional\n\n\n" ++
      "class Kind(Enum):\n    LEAF = \"leaf\"\n\n\n" ++
      "@dataclass\nclass Node:\n    at: datetime\n    kinds: List[Kind]\n    owner: 'Owner'\n" ++
      "    next: Optional['Node'] = None\n\n\n@dataclass\nclass Owner:\n    root: Node\n"
    let front : List Line := [⟨0, "@dataclass".toList⟩, ⟨0, "class Node:".toList⟩,
      ⟨4, "at: datetime".toList⟩, ⟨4, "kinds: List[Kind]".toList⟩, ⟨4, "owner: 'Owner'".toList⟩]
    let next : Line := ⟨4, "next: Optional['Node'] = None".toList⟩
    let back : List Line := [⟨0, []⟩, ⟨0, []⟩, ⟨0, "@dataclass".toList⟩,
      ⟨0, "class Owner:".toList⟩, ⟨4, "root: Node".toList⟩]
    renderModule nodeGraph o = .ok module ∧
      ∃ steps required, ((contextOf nodeGraph o).moduleSteps o).Runs .empty steps required ∧
        regionLines steps required.imports .classes = front ++ next :: back ∧
        isAnnotated next.text ∧ "Optional" ∈ bareWords next.text ∧
        "Node" ∉ bareWords next.text ∧ required.imports.contains "typing" "Optional" := by
  intro o module front next back
  have hrender : renderModule nodeGraph o = .ok module := by decide +kernel
  obtain ⟨steps, required, hrun, -, -, -, hturn, himports⟩ := annotations_in_scope rfl hrender
  have hknown : ((contextOf nodeGraph o).moduleSteps o).Runs .empty [.enter .enumerations,
      .line "class Kind(Enum):", .indent, .line "LEAF = \"leaf\"", .dedent, .blank 2,
      .enter .classes, .line "@dataclass", .line "class Node:", .indent, .line "at: datetime",
      .line "kinds: List[Kind]", .line "owner: 'Owner'", .line "next: Optional['Node'] = None",
      .dedent, .blank 2, .enter .classes, .line "@dataclass", .line "class Owner:", .indent,
      .line "root: Node", .dedent, .blank 2]
      ⟨[], [("dataclasses", ["dataclass"]), ("datetime", ["datetime"]), ("enum", ["Enum"]),
        ("typing", ["List", "Optional"])], []⟩ := Prod.ext (by decide +kernel) rfl
  obtain ⟨hsteps, hrequired⟩ := Prod.mk.inj (hrun.symm.trans hknown)
  have hlines : regionLines steps required.imports .classes = front ++ next :: back := by
    rw [Except.ok.inj hsteps, hrequired]
    decide +kernel
  have hannotated : isAnnotated next.text := by decide
  have hoptional : "Optional" ∈ bareWords next.text := by decide
  refine ⟨hrender, steps, required, hrun, hlines, hannotated, hoptional, ?_, ?_⟩
  · obtain ⟨earlier, t, later, -, hclasses, -, hquoted⟩ :=
      hturn front next back hlines (by decide) hannotated
    have hnames : (classNames front).map some = [some "Node"] := by decide
    rw [hnames, List.map_append] at hclasses
    have hnode := (List.append_inj' (hclasses.trans (List.nil_append _).symm) rfl).2
    exact hquoted t List.mem_cons_self "Node" (List.cons.inj hnode).1
  · exact himports .classes (by decide) front next back hlines (by decide)
      (.inr (by decide)) ("typing", "Optional") (by decide) hoptional

end TypedJson.Code