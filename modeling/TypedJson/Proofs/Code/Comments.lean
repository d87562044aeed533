import TypedJson.Proofs.Code.Agreement
import TypedJson.Proofs.Script.Docstring

/-!
# Descriptions in comments

Without annotations, the constructor of a class writes the descriptions of its properties as
comments, one for each line of the text. A comment ends where the line of source does, at a line
feed or a carriage return; a line of a text ends at a line feed only. So the comments are lines of
source unless a carriage return of a description stands elsewhere than in front of a line feed
(`constructor_comments_iff`), and what is behind such a return is no comment any more
(`comment_behind_return`).
-/

namespace TypedJson.Script

open Text

/-! ## Carriage returns in lines -/

/-- Every carriage return of the text stands in front of a line feed. -/
def ReturnsEndLines (cs : List Char) : Prop :=
  ∀ rest, '\r' :: rest <:+ cs → rest.head? = some '\n'

variable {c : Char} {cs : List Char}

/-- What the returns of a text stand in front of is seen from its first character on. -/
theorem returnsEndLines_cons (c : Char) (cs : List Char) :
    ReturnsEndLines (c :: cs) ↔ (c = '\r' → cs.head? = some '\n') ∧ ReturnsEndLines cs := by
  simp only [ReturnsEndLines, List.suffix_cons_iff, List.cons.injEq]
  constructor
  · intro h
    exact ⟨fun hc => h cs (.inl ⟨hc.symm, rfl⟩), fun rest hrest => h rest (.inr hrest)⟩
  · rintro ⟨hfirst, hothers⟩ rest (⟨hc, rfl⟩ | hrest)
    · exact hfirst hc.symm
    · exact hothers rest hrest

/-- A text without line feeds has no such return. -/
theorem returnsEndLines_last (h : '\n' ∉ cs) : ReturnsEndLines cs ↔ '\r' ∉ cs := by
  constructor
  · intro hreturns hmem
    obtain ⟨before, rest, rfl⟩ := List.append_of_mem hmem
    have hhead := hreturns rest (List.suffix_append before _)
    exact h (List.mem_append_right _ (List.mem_cons_of_mem _ (List.mem_of_mem_head? hhead)))
  · exact fun hnone rest hrest => absurd (hrest.subset List.mem_cons_self) hnone

/-- A text without line feeds has no such return in front of another text, unless they meet in
one. -/
theorem returnsEndLines_append {behind : List Char} (h : '\n' ∉ cs)
    (hbehind : cs.getLast? = some '\r' → behind.head? ≠ some '\n') :
    ReturnsEndLines (cs ++ behind) ↔ '\r' ∉ cs ∧ ReturnsEndLines behind := by
  induction cs with
  | nil => simp
  | cons c cs ih =>
    rw [List.mem_cons, not_or] at h
    have hlast : cs.getLast? = some '\r' → behind.head? ≠ some '\n' := fun hlast =>
      hbehind (by rw [List.getLast?_cons, hlast]; rfl)
    -- What follows the first character is no line feed if that is a return.
    have hnext : (c = '\r' → (cs ++ behind).head? = some '\n') ↔ '\r' ≠ c := by
      refine ⟨fun hreturn hc => ?_, fun hne hc => absurd hc.symm hne⟩
      have hhead := hreturn hc.symm
      cases cs with
      | nil => exact hbehind (by rw [← hc]; rfl) hhead
      | cons d cs => exact h.2 (Option.some.inj hhead ▸ List.mem_cons_self)
    rw [List.cons_append, returnsEndLines_cons, ih h.2 hlast, hnext, List.mem_cons, not_or,
      and_assoc]

/-- A line with its end has such returns only if the line is without. -/
theorem returnsEndLines_line (h : '\n' ∉ cs) (rest : List Char) :
    ReturnsEndLines (cs ++ '\n' :: rest) ↔ '\r' ∉ withoutReturn cs ∧ ReturnsEndLines rest := by
  have hfeed : ReturnsEndLines ('\n' :: rest) ↔ ReturnsEndLines rest := by
    rw [returnsEndLines_cons]
    exact and_iff_right fun hc => absurd hc (by decide)
  obtain ⟨line, rfl, hline⟩ | ⟨hlast, hline⟩ := withoutReturn_cases cs
  · have hreturn : ReturnsEndLines ('\r' :: '\n' :: rest) ↔ ReturnsEndLines rest := by
      rw [returnsEndLines_cons, hfeed]
      exact and_iff_right fun _ => rfl
    rw [hline, List.append_assoc, ← hreturn]
    exact returnsEndLines_append (fun hmem => h (List.mem_append_left _ hmem)) fun _ => by simp
  · rw [hline, ← hfeed]
    exact returnsEndLines_append h fun hreturn => absurd hreturn hlast

/-- The lines of a text are without carriage returns if all of these stand in front of line feeds,
and only then. -/
theorem lines_without_returns_iff (cs : List Char) :
    (∀ line ∈ lines cs, '\r' ∉ line) ↔ ReturnsEndLines cs := by
  induction cs using lines_induction with
  | last cs h =>
    rw [returnsEndLines_last h]
    by_cases hne : cs = []
    · rw [hne]
      exact iff_of_true (List.forall_mem_nil _) List.not_mem_nil
    · rw [lines_last h hne, List.forall_mem_singleton]
  | line cs rest h ih => rw [lines_line h, List.forall_mem_cons, ih, returnsEndLines_line h]

/-- No line of a text has a line feed in it. -/
theorem lines_without_feeds (cs : List Char) : ∀ line ∈ lines cs, '\n' ∉ line := by
  induction cs using lines_induction with
  | last cs h =>
    by_cases hne : cs = []
    · rw [hne]
      exact List.forall_mem_nil _
    · rw [lines_last h hne]
      exact List.forall_mem_singleton.2 h
  | line cs rest h ih =>
    rw [lines_line h]
    exact List.forall_mem_cons.2 ⟨withoutReturn_one_line h, ih⟩

end TypedJson.Script

namespace TypedJson.Code

open Script

/-! ## Comments of a constructor -/

/-- The step writes a comment. -/
def Step.isComment : Step → Bool
  | .line text => ['#', ' '].isPrefixOf text.toList
  | _ => false

/-- The step writes a line that is one line of source: nothing in it ends one. -/
def Step.IsSourceLine (step : Step) : Prop :=
  ∃ text, step = .line text ∧ '\n' ∉ text.toList ∧ '\r' ∉ text.toList

variable {step : Step} {description : Option String} {fields : List Field}

/-- The comments of a description are comments. -/
theorem isComment_commentSteps (h : step ∈ commentSteps description) :
    ∃ text : String, step = .line ("# " ++ text) ∧ '\n' ∉ text.toList := by
  cases description with
  | none => cases h
  | some text =>
    obtain ⟨line, hline, rfl⟩ := List.mem_map.1 h
    exact ⟨_, rfl, by rw [String.toList_ofList]; exact lines_without_feeds _ line hline⟩

/-- They are lines of source if every carriage return of it stands in front of a line feed. -/
theorem isSourceLine_commentSteps_iff (description : Option String) :
    (∀ step ∈ commentSteps description, step.IsSourceLine) ↔
      ∀ text ∈ description, ReturnsEndLines text.toList := by
  cases description with
  | none => exact iff_of_true (List.forall_mem_nil _) nofun
  | some text =>
    have hline (line : List Char) : (Step.line ("# " ++ String.ofList line)).IsSourceLine ↔
        '\n' ∉ line ∧ '\r' ∉ line := by
      simp [Step.IsSourceLine]
    simp only [commentSteps, List.forall_mem_map, hline, Option.mem_def, Option.some.injEq,
      forall_eq', ← lines_without_returns_iff]
    exact forall₂_congr fun line hmem => and_iff_right (lines_without_feeds _ line hmem)

/-! ## The constructor -/

/-- The field without its description. -/
def Field.undescribed (f : Field) : Field :=
  { f with description := none }

/-- A line that starts with another character than `#` is no comment. -/
theorem isComment_eq_false {text : String} {c : Char} {rest : List Char}
    (h : text.toList = c :: rest) (hc : ('#' == c) = false) :
    (Step.line text).isComment = false := by
  rw [Step.isComment, h, List.isPrefixOf, hc, Bool.false_and]

/-- All steps of a description are comments. -/
theorem filter_commentSteps (description : Option String) :
    (commentSteps description).filter Step.isComment = commentSteps description := by
  refine List.filter_eq_self.2 fun step hstep => ?_
  obtain ⟨text, rfl, -⟩ := isComment_commentSteps hstep
  rw [Step.isComment, String.toList_append]
  rfl

/-- The lines of a field in a constructor without annotations. -/
def Field.assignmentSteps (f : Field) : List Step :=
  commentSteps f.description ++ [.line ("self." ++ f.name ++ " = " ++ f.name)]

/-- The comments among these are those of the description. -/
theorem filter_assignmentSteps (f : Field) :
    f.assignmentSteps.filter Step.isComment = commentSteps f.description ∧
      f.assignmentSteps.filter (!·.isComment) = f.undescribed.assignmentSteps := by
  have hassignment : (Step.line ("self." ++ f.name ++ " = " ++ f.name)).isComment = false :=
    isComment_eq_false (by simp only [String.toList_append]; rfl) rfl
  have hcomments : (commentSteps f.description).filter (!·.isComment) = [] := by
    rw [← filter_commentSteps, List.filter_filter]
    simp
  unfold Field.assignmentSteps
  rw [List.filter_append, filter_commentSteps, List.filter_append, hcomments]
  simp [hassignment, Field.undescribed, commentSteps]

/-- A constructor without annotations consists of the lines of its fields. -/
theorem constructorSteps_eq (fields : List Field) : constructorSteps false fields =
    .line ("def __init__(" ++ (", ".intercalate ("self" :: fields.map Field.name) ++ "):")) ::
      indented
        (if fields.isEmpty then [.line "pass"] else fields.flatMap Field.assignmentSteps) := by
  have hclose : ")" ++ "" ++ ":" = "):" := rfl
  rw [← hclose, ← String.append_assoc, ← String.append_assoc, ← String.append_assoc]
  rfl

/-- The comments of a constructor are those of its fields, in order. Apart from them, it is the
constructor of the fields without descriptions. -/
theorem filter_constructorSteps (fields : List Field) :
    (constructorSteps false fields).filter Step.isComment =
        fields.flatMap (fun f => commentSteps f.description) ∧
      (constructorSteps false fields).filter (!·.isComment) =
        constructorSteps false (fields.map Field.undescribed) := by
  have hsignature (rest : String) : (Step.line ("def __init__(" ++ rest)).isComment = false :=
    isComment_eq_false (String.toList_append ..) rfl
  have hindented (body : List Step) : (indented body).filter Step.isComment =
      body.filter Step.isComment ∧
        (indented body).filter (!·.isComment) = indented (body.filter (!·.isComment)) := by
    simp [indented, Step.isComment]
  have hnames : (fields.map Field.undescribed).map Field.name = fields.map Field.name :=
    List.map_map ..
  rw [constructorSteps_eq, constructorSteps_eq, hnames, List.isEmpty_map,
    List.filter_cons_of_neg (by rw [hsignature]; exact Bool.false_ne_true),
    List.filter_cons_of_pos (by rw [hsignature]; rfl), (hindented _).1, (hindented _).2]
  cases fields with
  | nil => exact ⟨rfl, rfl⟩
  | cons f fields =>
      rw [List.isEmpty_cons, if_neg Bool.false_ne_true, if_neg Bool.false_ne_true,
        List.filter_flatMap, List.filter_flatMap, List.flatMap_map]
      simp only [(filter_assignmentSteps _).1, (filter_assignmentSteps _).2, true_and]

/-! ## Classes without annotations -/

/-- A part that is not empty stands in the parts as they are joined. -/
theorem infix_joinParts {part : List Step} {parts : List (List Step)} (h : part ∈ parts)
    (hne : part ≠ []) : part <:+: joinParts parts := by
  induction parts with
  | nil => cases h
  | cons first rest ih =>
      cases first with
      | nil => exact ih ((List.mem_cons.1 h).resolve_left hne)
      | cons step first =>
          unfold joinParts
          rcases List.mem_cons.1 h with rfl | h
          · split
            · exact List.infix_rfl
            · exact (List.prefix_append ..).isInfix
          · have hrest := ih h
            split
            next hnil => exact absurd (List.infix_nil.1 (hnil ▸ hrest)) hne
            next => exact hrest.trans ((List.suffix_cons _ _).trans (List.suffix_append ..)).isInfix

/-- Without annotations, classes are no data classes. -/
theorem Options.dataclasses_eq_false {o : Options} (ho : o.features.typeHints = false) :
    o.features.dataclasses = false := by
  unfold Options.features at *
  cases h : o.version <;> rw [h] at ho <;> first | rfl | cases ho

namespace Context

variable {ctx : Context} {t : TypeRef} {r : Record}

/-- The constructor stands in the body of such a class. -/
theorem constructor_infix_classBody {f : Features} (hhints : f.typeHints = false)
    (hdata : f.dataclasses = false) (description : Option String) (fields : List Field)
    (conversions : List Step) :
    constructorSteps false fields <:+: classBody f description fields conversions := by
  have hparts : constructorSteps false fields <:+:
      joinParts [docSteps description, constructorSteps false fields, conversions] :=
    infix_joinParts (List.mem_cons_of_mem _ List.mem_cons_self) nofun
  unfold classBody
  simp only [hhints, hdata, Bool.false_eq_true, if_false, List.append_nil]
  split
  next hnil =>
    rw [hnil, List.infix_nil] at hparts
    cases hparts
  next => exact hparts

/-- The fields of such a class have the descriptions of the properties, in order. -/
theorem exists_fields (hcomplete : ctx.names.Complete ctx.graph)
    (hhints : ctx.features.typeHints = false) (hdata : ctx.features.dataclasses = false)
    (hr : ctx.graph.record? t = some r) (declared : List TypeRef) :
    ∃ fields, ctx.fields declared t r = pure fields ∧
      fields.map Field.description = r.properties.map Property.description := by
  let field (p : Property × Nat) : Field :=
    ⟨(ctx.names.propertyName t p.2).toOption.getD "", p.1.name, p.1.type,
      ctx.graph.isNullable p.1.type, p.1.description, ""⟩
  have hfield : ∀ p ∈ r.properties.zipIdx, (do
      let name ← Gen.lift (ctx.names.propertyName t p.2)
      let f : Field :=
        ⟨name, p.1.name, p.1.type, ctx.graph.isNullable p.1.type, p.1.description, ""⟩
      return f : Gen Field) = pure (field p) := by
    intro p hp
    obtain ⟨name, hname⟩ := hcomplete.property hr (List.snd_lt_of_mem_zipIdx hp)
    show (Gen.lift (ctx.names.propertyName t p.2) >>= fun name => pure _) = pure (field p)
    simp only [field, hname]
    rfl
  refine ⟨r.properties.zipIdx.map field, ?_, ?_⟩
  · unfold fields
    rw [mapM_congr hfield, List.mapM_pure, pure_bind]
    simp only [hhints, hdata, Bool.false_eq_true, if_false]
    rw [List.mapM_pure, List.map_id']
  · rw [List.map_map]
    conv_rhs => rw [← List.zipIdx_map_fst 0 r.properties, List.map_map]
    rfl

/-- The constructor of the fields stands in whatever class is written. -/
theorem constructor_infix_recordClass {o : Options} {declared : List TypeRef} {fields : List Field}
    {part : List Step} (hfields : ctx.fields declared t r = pure fields)
    (hhints : ctx.features.typeHints = false) (hdata : ctx.features.dataclasses = false)
    (h : (ctx.recordClass o declared t r).Yields part) :
    constructorSteps false fields <:+: part := by
  obtain ⟨name, -, h⟩ := h.bind
  rw [hfields, pure_bind] at h
  have h := Gen.Yields.when h
  cases hjust : o.justTypes <;> rw [hjust] at h
  all_goals
    obtain ⟨conversions, -, h⟩ := Gen.Yields.bind h
    rw [h.pure]
    have hbody := constructor_infix_classBody hhints hdata r.description fields conversions
    have hindented : constructorSteps false fields <:+: indented _ :=
      hbody.trans ⟨[.indent], [.dedent], rfl⟩
    exact hindented.trans ((List.suffix_cons _ _).isInfix.trans (List.infix_append ..))

end Context

/-- Without annotations, the constructor of a class is that of its fields without descriptions, and
between its lines stand comments, one for each line of the description of a property. These are
lines of source if every carriage return in the descriptions stands in front of a line feed, and
only then. -/
theorem constructor_comments_iff {g : TypeGraph} {o : Options} (ho : o.features.typeHints = false)
    {t : TypeRef} {r : Record} (hr : g.record? t = some r) (declared : List TypeRef) :
    ∃ fields, (contextOf g o).fields declared t r = pure fields ∧
      (∀ part, ((contextOf g o).recordClass o declared t r).Yields part →
        constructorSteps false fields <:+: part) ∧
      (constructorSteps false fields).filter (!·.isComment) =
        constructorSteps false (fields.map Field.undescribed) ∧
      let comments := (constructorSteps false fields).filter Step.isComment
      comments = r.properties.flatMap (fun p => commentSteps p.description) ∧
      (∀ step ∈ comments, ∃ text : String, step = .line ("# " ++ text) ∧ '\n' ∉ text.toList) ∧
      ((∀ step ∈ comments, step.IsSourceLine) ↔
        ∀ p ∈ r.properties, ∀ text ∈ p.description, ReturnsEndLines text.toList) := by
  have hcomplete : (contextOf g o).names.Complete (contextOf g o).graph :=
    NameTable.complete_assign g o
  obtain ⟨fields, hfields, hdescriptions⟩ :=
    Context.exists_fields hcomplete ho (Options.dataclasses_eq_false ho) hr declared
  have hcomments : (constructorSteps false fields).filter Step.isComment =
      r.properties.flatMap fun p => commentSteps p.description := by
    rw [(filter_constructorSteps fields).1, ← List.flatMap_map Field.description,
      hdescriptions, List.flatMap_map]
  refine ⟨fields, hfields, fun part => Context.constructor_infix_recordClass hfields ho
    (Options.dataclasses_eq_false ho), (filter_constructorSteps fields).2, hcomments, ?_, ?_⟩
  · rw [hcomments]
    intro step hstep
    obtain ⟨p, -, hp⟩ := List.mem_flatMap.1 hstep
    exact isComment_commentSteps hp
  · rw [hcomments]
    simp only [← isSourceLine_commentSteps_iff, List.mem_flatMap]
    exact ⟨fun h p hp step hstep => h step ⟨p, hp, hstep⟩,
      fun h step ⟨p, hp, hstep⟩ => h p hp step hstep⟩

/-- Items with a note. -/
def noteGraph (description : String) : TypeGraph where
  types := #[⟨.text, none⟩,
    ⟨.record ⟨"Item", [⟨"note", ⟨0⟩, some description⟩], none⟩, none⟩]
  topLevels := [⟨"Item", ⟨1⟩⟩]

/-- A description of two lines is written as two comments. -/
theorem constructor_comments_two_lines :
    let g := noteGraph "First\r\nsecond"
    let o : Options := ⟨.v35, false, true⟩
    let r : Record := ⟨"Item", [⟨"note", ⟨0⟩, some "First\r\nsecond"⟩], none⟩
    o.features.typeHints = false ∧ g.record? ⟨1⟩ = some r ∧
      ∃ fields, (contextOf g o).fields [] ⟨1⟩ r = pure fields ∧
        (constructorSteps false fields).filter Step.isComment =
          [.line "# First", .line "# second"] ∧
        ∀ step ∈ (constructorSteps false fields).filter Step.isComment, step.IsSourceLine := by
  intro g o r
  obtain ⟨fields, hfields, -, -, hcomments, -, hlines⟩ :=
    constructor_comments_iff (g := g) (o := o) rfl (r := r) (t := ⟨1⟩) rfl []
  refine ⟨rfl, rfl, fields, hfields, hcomments, hlines.2 ?_⟩
  rintro p hp text htext
  obtain rfl := List.mem_singleton.1 hp
  obtain rfl := Option.some.inj htext
  exact (lines_without_returns_iff _).1 (by decide)

/-- What stands behind a carriage return of a description is in no comment. -/
theorem comment_behind_return :
    TypeGraph.make (noteGraph "a\rimport os").types (noteGraph "a\rimport os").topLevels =
        .ok (noteGraph "a\rimport os") ∧
      renderModule (noteGraph "a\rimport os") ⟨.v35, true, true⟩ =
        .ok ("class Item:\n    def __init__(self, note):\n        # a\rimport os\n" ++
          "        self.note = note\n") ∧
      ((contextOf (noteGraph "a\rimport os") ⟨.v35, true, true⟩).recordClass ⟨.v35, true, true⟩ []
        ⟨1⟩ ⟨"Item", [⟨"note", ⟨0⟩, some "a\rimport os"⟩], none⟩).Yields
          [.enter .classes, .line "class Item:", .indent, .line "def __init__(self, note):",
            .indent, .line "# a\rimport os", .line "self.note = note", .dedent, .dedent,
            .blank 2] ∧
      (Step.line "# a\rimport os").isComment ∧ ¬ (Step.line "# a\rimport os").IsSourceLine := by
  refine ⟨TypeGraph.make_eq_self rfl (by decide), by decide +kernel,
    ⟨.empty, _, Prod.ext (by decide +kernel) rfl⟩, by decide, ?_⟩
  rintro ⟨text, htext, -, hreturn⟩
  obtain rfl := Step.line.inj htext
  exact hreturn (by decide)

end TypedJson.Code
