import TypedJson.Proofs.Code.Mentions

/-!
# Classes in their turns

The classes of records are written one behind the other. Each of them defines one name at the left
margin, on its first line, and what is annotated in it stands behind that line. So a line with an
annotation divides the records into those that are defined in front of it, the one that it belongs
to, and those that are defined behind it (`inTurn_classes`).
-/

namespace TypedJson.Code

open Naming Script

/-! ## The classes of lines -/

/-- The name of the class whose first line this is. -/
def classHead? (line : Line) : Option String :=
  if line.column = 0 && "class ".toList.isPrefixOf line.text then
    some (String.ofList ((line.text.drop 6).takeWhile isWordChar))
  else none

/-- The names of the classes that are defined in lines, in their order. -/
def classNames (written : List Line) : List String :=
  written.filterMap classHead?

/-- Lines define what both parts of them do. -/
theorem classNames_append (front back : List Line) :
    classNames (front ++ back) = classNames front ++ classNames back :=
  List.filterMap_append

/-- Where the lines of a second part define no class, none is defined behind a line that is not in
the first part. -/
theorem classNames_behind {front inner before after : List Line} {line : Line}
    (h : front ++ inner = before ++ line :: after) (hfront : line ∉ front)
    (hinner : classNames inner = []) : classNames after = [] := by
  obtain ⟨between, rfl⟩ : ∃ between, inner = between ++ line :: after := by
    rcases List.append_eq_append_iff.1 h with ⟨between, -, hbetween⟩ | ⟨between, hfront', hinner'⟩
    · exact ⟨between, hbetween⟩
    · cases between with
      | nil => exact ⟨[], hinner'.symm⟩
      | cons other between =>
          obtain ⟨rfl, -⟩ := List.cons.inj hinner'
          exact absurd (hfront' ▸ List.mem_append_right _ List.mem_cons_self) hfront
  rw [classNames_append, List.append_eq_nil_iff] at hinner
  have hbehind : classNames [line] ++ classNames after = [] :=
    (classNames_append [line] after).symm.trans hinner.2
  exact (List.append_eq_nil_iff.1 hbehind).2

/-- The first line of a class has its name. -/
theorem classHead?_class {name : String} (hname : IsName name) {c : Char}
    (hc : isWordChar c = false) (tail : List Char) :
    classHead? ⟨0, "class ".toList ++ (name.toList ++ c :: tail)⟩ = some name := by
  have hstarts : "class ".toList.isPrefixOf ("class ".toList ++ (name.toList ++ c :: tail)) :=
    List.isPrefixOf_iff_prefix.2 (List.prefix_append _ _)
  have hdrop : ("class ".toList ++ (name.toList ++ c :: tail)).drop 6 = name.toList ++ c :: tail :=
    rfl
  unfold classHead?
  simp only [hstarts, hdrop, (span_name hname hc tail).1, String.ofList_toList, decide_true,
    Bool.and_self, if_true]

/-- An annotated line is no first line of a class. -/
theorem classHead?_of_isAnnotated {line : Line} (h : isAnnotated line.text) :
    classHead? line = none := by
  unfold classHead?
  rw [if_neg]
  intro hclass
  rw [Bool.and_eq_true] at hclass
  obtain ⟨rest, hrest⟩ := List.isPrefixOf_iff_prefix.1 hclass.2
  have hfalse := isAnnotated_class rest
  rw [hrest, h] at hfalse
  cases hfalse

/-- Blank lines define no class. -/
theorem classNames_dark (written : List Line) : classNames (dark written) = classNames written := by
  induction written with
  | nil => rfl
  | cons line written ih =>
      rw [dark_cons, classNames_append, ih]
      cases htext : line.text with
      | nil => simp [dark, classNames, htext, classHead?]
      | cons c text =>
          rw [dark, List.filter_cons_of_pos (by simp [htext]), List.filter_nil,
            ← classNames_append]
          rfl

/-- Below the left margin, no class is defined. -/
theorem Nested.classNames_below {steps : List Step} (h : Nested steps) (level : Nat)
    (rest : List Step) : classNames (linesAt (level + 1) (steps ++ rest)) =
      classNames (linesAt (level + 1) rest) := by
  induction h generalizing level rest with
  | nil => rfl
  | line text _ ih =>
      refine (List.filterMap_cons_none ?_).trans (ih level rest)
      unfold classHead?
      rw [if_neg]
      intro hclass
      simp only [Bool.and_eq_true, decide_eq_true_eq] at hclass
      rw [text_of_column_eq_zero hclass.1] at hclass
      exact absurd hclass.2 (by decide)
  | blank count _ ih => exact ih level rest
  | @indented body steps _ _ ihbody ih =>
      rw [List.append_assoc]
      show classNames (linesAt (level + 2) (body ++ [.dedent] ++ (steps ++ rest))) = _
      rw [List.append_assoc, ihbody]
      exact ih level rest

/-- A class defines itself on its first line, and nothing below. -/
theorem lines_of_class {name behind : String} (hname : IsName name) {c : Char} {tail : List Char}
    (hbehind : behind.toList = c :: tail) (hc : isWordChar c = false) {body : List Step}
    (hbody : Nested body) : ∃ head inner,
      linesAt 0 (.line ("class " ++ name ++ behind) :: indented body ++ [.blank 2]) =
        head :: inner ∧
      isAnnotated head.text = false ∧ classHead? head = some name ∧ classNames inner = [] := by
  have hstart : StartsDark "class " := startsDark_ofList (by decide)
  have htext : ("class " ++ name ++ behind).toList =
      "class ".toList ++ (name.toList ++ c :: tail) := by
    rw [String.append_assoc, String.toList_append, String.toList_append, hbehind]
  refine ⟨⟨0, ("class " ++ name ++ behind).toList⟩, _,
    linesAt_line ((hstart.append _).append _) 0 _, ?_, ?_, ?_⟩
  · rw [htext]
    exact isAnnotated_class _
  · rw [htext]
    exact classHead?_class hname hc tail
  · show classNames (linesAt (0 + 1) (body ++ [.dedent] ++ [.blank 2])) = []
    rw [List.append_assoc, hbody.classNames_below]
    rfl

namespace Context

variable {g : TypeGraph} {o : Options} {i : Imports} {declared : List TypeRef} {t : TypeRef}
  {p : Part}

/-- The class of an enumeration defines itself. -/
theorem IsEnumerationPart.defines (h : (contextOf g o).IsEnumerationPart i t p) :
    ∃ name, (contextOf g o).names.types.lookup t = some name ∧ classNames p.lines = [name] := by
  obtain ⟨e, name, cases, hname, -, -, hbody⟩ := h.written
  have hnested : Nested (docSteps e.description ++ cases.map .line ++
      if cases.isEmpty && e.description.isNone then [.line "pass"] else []) := by
    refine ((nested_docSteps _).append (nested_lines id cases)).append ?_
    split
    · exact .line _ .nil
    · exact .nil
  have hbehind : "(Enum):".toList = '(' :: "Enum):".toList := rfl
  obtain ⟨head, inner, hlines, -, hhead, hinner⟩ := lines_of_class
    ((NameTable.apart_assign g o).type hname).1 hbehind (by decide) hnested
  refine ⟨name, hname, ?_⟩
  rw [Part.lines, hbody]
  refine (congrArg classNames hlines).trans ?_
  rw [classNames, List.filterMap_cons_some hhead]
  exact congrArg _ hinner

/-- The class of a record defines itself in front of all that is annotated in it. -/
theorem IsClassPart.defines (h : (contextOf g o).IsClassPart o i (declared, t) p) :
    ∃ name front inner, (contextOf g o).names.types.lookup t = some name ∧
      p.lines = front ++ inner ∧ (∀ line ∈ front, isAnnotated line.text = false) ∧
      classNames front = [name] ∧ classNames inner = [] := by
  have hnames := NameTable.apart_assign g o
  obtain ⟨r, name, fields, returned, conversions, hwrites, hconversions, hbody⟩ := h.written hnames
  have hnested := nested_classBody (contextOf g o).features r.description fields
    hconversions.nested
  obtain ⟨c, tail, hbehind, hc⟩ : ∃ c tail, ((if (contextOf g o).features.objectBase then "(object)"
      else "") ++ ":").toList = c :: tail ∧ isWordChar c = false := by
    split
    · exact ⟨'(', _, rfl, by decide⟩
    · exact ⟨':', _, rfl, by decide⟩
  obtain ⟨head, inner, hlines, hplain, hhead, hinner⟩ :=
    lines_of_class (hnames.type hwrites.name).1 hbehind hc hnested
  rw [← String.append_assoc] at hlines
  have hdecorator : StartsDark "@dataclass" := startsDark_ofList (by decide)
  rw [Part.lines, hbody]
  split
  · refine ⟨name, [⟨0, "@dataclass".toList⟩, head], inner, hwrites.name, ?_, ?_, ?_, hinner⟩
    · refine (linesAt_line hdecorator 0 _).trans ?_
      exact congrArg (_ :: ·) hlines
    · exact List.forall_mem_cons.2 ⟨by decide, List.forall_mem_singleton.2 hplain⟩
    · rw [classNames, List.filterMap_cons_none (by decide), List.filterMap_cons_some hhead]
      rfl
  · refine ⟨name, [head], inner, hwrites.name, hlines, List.forall_mem_singleton.2 hplain, ?_,
      hinner⟩
    rw [classNames, List.filterMap_cons_some hhead]
    rfl

/-- The classes of enumerations define themselves in turn. -/
theorem classNames_enumerations {ts : List TypeRef} {parts : List Part}
    (h : List.Forall₂ ((contextOf g o).IsEnumerationPart i) ts parts) :
    ts.map (fun t => (contextOf g o).names.types.lookup t) =
      (classNames (parts.flatMap Part.lines)).map some := by
  induction h with
  | nil => rfl
  | cons hhead _ ih =>
      obtain ⟨name, hname, hdefines⟩ := hhead.defines
      rw [List.map_cons, ih, hname, List.flatMap_cons, classNames_append, hdefines]
      rfl

/-- A line with an annotation stands in the class of a type. Behind the line, the classes of the
types behind that one are defined, and the line mentions only types in front of it. -/
def InTurn (ctx : Context) (i : Imports) (declared ts : List TypeRef) (line : Line)
    (rest : List Line) : Prop :=
  isAnnotated line.text → ∃ earlier t later, ts = earlier ++ t :: later ∧
    later.map (fun t => ctx.names.types.lookup t) = (classNames rest).map some ∧
    ctx.Cites i ⟨earlier.reverse ++ declared, true⟩ line.text

/-- Blank lines make no difference to that. -/
theorem inTurn_dark (ctx : Context) (i : Imports) (declared ts : List TypeRef) (line : Line)
    (rest : List Line) : ctx.InTurn i declared ts line (dark rest) ↔
      ctx.InTurn i declared ts line rest := by
  unfold InTurn
  rw [classNames_dark]

/-- The classes of records define themselves in turn, and what is annotated in them is as it is to
be in their turn. -/
theorem inTurn_classes (hhints : (contextOf g o).features.typeHints = true) {ts : List TypeRef}
    {parts : List Part}
    (h : List.Forall₂ ((contextOf g o).IsClassPart o i) (behindOthers declared ts) parts) :
    ts.map (fun t => (contextOf g o).names.types.lookup t) =
        (classNames (parts.flatMap Part.lines)).map some ∧
      EachCode ((contextOf g o).InTurn i declared ts) false (parts.flatMap Part.lines) := by
  induction ts generalizing declared parts with
  | nil =>
      cases h
      exact ⟨rfl, rfl⟩
  | cons t ts ih =>
      cases h with
      | @cons _ p _ parts hp hparts =>
      obtain ⟨hnames, hback⟩ := ih hparts
      obtain ⟨name, front, inner, hname, hlines, hplain, hfront, hinner⟩ := hp.defines
      have hdefines : classNames p.lines = [name] := by
        rw [hlines, classNames_append, hfront, hinner]
        rfl
      rw [List.flatMap_cons]
      refine ⟨?_, eachCode_append (eachCode_iff.2 ?_) (hback.imp fun line rest hturn => ?_)⟩
      · rw [List.map_cons, hnames, hname, classNames_append, hdefines]
        rfl
      · have hsuits := hp.suits_of_mentions (P := fun line _ =>
          (contextOf g o).Mentions i declared t line.text) hhints fun _ _ h => h
        have heach := hsuits 0 [] rfl
        rw [List.append_nil] at heach
        obtain ⟨hclosed, hmentions⟩ := eachCode_iff.1 heach
        refine ⟨hclosed, fun before line after heq hcode hannotated => ?_⟩
        refine ⟨[], t, ts, rfl, ?_, (hmentions before line after heq hcode).annotated hannotated⟩
        -- What is annotated stands behind the first line of the class.
        have hafter : classNames after = [] :=
          classNames_behind (hlines.symm.trans heq) (fun hmem => by
            rw [hplain line hmem] at hannotated
            cases hannotated) hinner
        rw [hnames, classNames_append, hafter]
        rfl
      · intro hannotated
        obtain ⟨earlier, u, later, rfl, hlater, hcites⟩ := hturn hannotated
        refine ⟨t :: earlier, u, later, rfl, hlater, ?_⟩
        rwa [List.reverse_cons, List.append_assoc]

end Context

end TypedJson.Code
