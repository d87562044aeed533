import TypedJson.Proofs.Code.Parts

/-!
# The outline of definitions

The code of a definition consists of its outline, which are the first lines of classes, functions
and conditions, decorators and fields, and of statements. The block behind each first line is filled
by what is written below it (`Filled`). Whatever is claimed of lines of code is claimed of the
outline, if nothing is claimed of statements (`Spares`): the lemmas here follow the steps for
enumerations, classes and top-levels to it, once for all claims.
-/

namespace TypedJson.Code

open Naming Script

/-! ## Statements -/

/-- The line opens a block. -/
def opensBlock (text : List Char) : Bool :=
  ["class".toList, "def".toList, "if".toList].contains (text.takeWhile isWordChar)

/-- The line starts a function, or a colon stands behind its first word. -/
def isAnnotated (text : List Char) : Bool :=
  text.takeWhile isWordChar == "def".toList || (text.dropWhile isWordChar).head? == some ':'

/-- The line starts a definition or decorates it, or declares a field. -/
def declares (text : List Char) : Bool :=
  isAnnotated text || text.takeWhile isWordChar == "class".toList || text.head? == some '@'

/-- The text is that of a line of code that neither opens a block nor declares anything. -/
structure IsStatement (text : String) : Prop where
  starts : StartsCode text
  opens : opensBlock text.toList = false
  declares : declares text.toList = false

variable {text : String} {steps : List Step}

/-- A fixed text is checked by its characters. -/
theorem isStatement_ofList {c : Char} {tail : List Char}
    (h : c ∉ [' ', '"', '#'] ∧ opensBlock (c :: tail) = false ∧ declares (c :: tail) = false) :
    IsStatement (String.ofList (c :: tail)) :=
  ⟨startsCode_ofList h.1, by rw [String.toList_ofList]; exact h.2.1,
    by rw [String.toList_ofList]; exact h.2.2⟩

/-- What stands behind the end of the first word makes no difference to that word and its end. -/
theorem span_append_of_end {front : List Char} {c : Char} (hc : c ∈ front)
    (hend : isWordChar c = false) (back : List Char) :
    (front ++ back).takeWhile isWordChar = front.takeWhile isWordChar ∧
      ((front ++ back).dropWhile isWordChar).head? = (front.dropWhile isWordChar).head? := by
  induction front with
  | nil => cases hc
  | cons d front ih =>
      rw [List.cons_append, List.takeWhile_cons, List.takeWhile_cons, List.dropWhile_cons,
        List.dropWhile_cons]
      split
      next hd =>
        rcases List.mem_cons.1 hc with rfl | hc
        · rw [hend] at hd
          cases hd
        · rw [(ih hc).1]
          exact ⟨rfl, (ih hc).2⟩
      next => exact ⟨rfl, rfl⟩

/-- A statement whose first word ends in it may go on in any way. -/
theorem IsStatement.append {c : Char} (h : IsStatement text) (hc : c ∈ text.toList)
    (hend : isWordChar c = false) (back : String) : IsStatement (text ++ back) := by
  obtain ⟨hword, hbehind⟩ := span_append_of_end hc hend back.toList
  have hfirst : (text.toList ++ back.toList).head? = text.toList.head? :=
    List.head?_append_of_ne_nil _ (List.ne_nil_of_mem hc)
  refine ⟨h.starts.append back, ?_, ?_⟩
  · rw [String.toList_append, opensBlock, hword]
    exact h.opens
  · rw [String.toList_append, Code.declares, isAnnotated, hword, hbehind, hfirst]
    exact h.declares

/-- The first word of a text is the name that it starts with. -/
theorem span_name {name : String} (hname : IsName name) {c : Char} (hc : isWordChar c = false)
    (tail : List Char) : (name.toList ++ c :: tail).takeWhile isWordChar = name.toList ∧
      (name.toList ++ c :: tail).dropWhile isWordChar = c :: tail := by
  rw [List.takeWhile_append_of_pos hname.chars, List.takeWhile_cons_of_neg (by simp [hc]),
    List.append_nil, List.dropWhile_append_of_pos hname.chars,
    List.dropWhile_cons_of_neg (by simp [hc])]
  exact ⟨rfl, rfl⟩

/-- A name that is no word of the language is none of the words that statements do not start
with. -/
theorem ne_of_not_keyword {name : String} (hfree : name ∉ keywords) :
    ∀ word ∈ ["class", "def", "if"], name.toList ≠ word.toList := by
  have hkeyword : ∀ word ∈ ["class", "def", "if"], word ∈ keywords := by decide
  intro word hword heq
  exact hfree (String.toList_injective heq ▸ hkeyword word hword)

/-- A name opens no block. -/
theorem opensBlock_name {name : String} (hname : IsName name) (hfree : name ∉ keywords) {c : Char}
    (hc : isWordChar c = false) (tail : List Char) :
    opensBlock (name.toList ++ c :: tail) = false := by
  rw [opensBlock, (span_name hname hc tail).1, ← Bool.not_eq_true, List.contains_iff_mem]
  intro hopens
  have hmem : name.toList ∈ ["class", "def", "if"].map String.toList := hopens
  obtain ⟨word, hkeyword, heq⟩ := List.mem_map.1 hmem
  exact ne_of_not_keyword hfree word hkeyword heq.symm

/-- A name in front of something other than a colon is a statement. -/
theorem isStatement_name {name : String} (hname : IsName name) (hfree : name ∉ keywords) {c : Char}
    (hc : isWordChar c = false ∧ c ≠ ':') (tail : List Char) :
    IsStatement (name ++ String.ofList (c :: tail)) := by
  obtain ⟨hword, hbehind⟩ := span_name hname hc.1 tail
  have hne := ne_of_not_keyword hfree
  have htext : (name ++ String.ofList (c :: tail)).toList = name.toList ++ c :: tail := by
    rw [String.toList_append, String.toList_ofList]
  have hat : (name.toList ++ c :: tail).head? ≠ some '@' := by
    obtain ⟨first, rest, hfirst, -⟩ := hname.start
    rw [hfirst]
    intro heq
    obtain rfl := Option.some.inj heq
    exact absurd (hname.chars '@' (hfirst ▸ List.mem_cons_self)) (by decide)
  refine ⟨hname.startsCode.append _, ?_, ?_⟩
  · rw [htext]
    exact opensBlock_name hname hfree hc.1 tail
  · have hdef : (name.toList == "def".toList) = false := by simpa using hne "def" (by simp)
    have hclass : (name.toList == "class".toList) = false := by simpa using hne "class" (by simp)
    rw [htext, Code.declares, isAnnotated, hword, hbehind, hdef, hclass]
    simpa [hc.2] using hat

/-- An empty body is written as one word. -/
theorem isStatement_pass : IsStatement "pass" :=
  isStatement_ofList (by decide)

/-! ## Filled blocks -/

/-- In front of the next line at the column or to its left, there is a line that is neither blank
nor a comment. Blank lines are passed over wherever they start. -/
def Filled (column : Nat) (rest : List Line) : Prop :=
  ∃ line ∈ rest.takeWhile fun line => line.text.isEmpty || column < line.column, line.isSolid

variable {column : Nat} {rest : List Line}

/-- The block is filled by its first line, or behind it. -/
theorem filled_cons {first : Line} : Filled column (first :: rest) ↔
    (first.text = [] ∨ column < first.column) ∧ (first.isSolid ∨ Filled column rest) := by
  unfold Filled
  rw [List.takeWhile_cons]
  split
  next h =>
    rw [List.exists_mem_cons_iff]
    exact (and_iff_right (by simpa using h)).symm
  next h => exact iff_of_false (by simp) fun hline => h (by simpa using hline.1)

/-- Blank lines make no difference to whether a block is filled. -/
theorem filled_dark (column : Nat) (rest : List Line) :
    Filled column (dark rest) ↔ Filled column rest := by
  induction rest with
  | nil => exact Iff.rfl
  | cons line rest ih =>
      rw [filled_cons, ← ih]
      cases htext : line.text with
      | nil =>
          rw [dark, List.filter_cons_of_neg (by simp [htext])]
          simp [Line.isSolid, htext]
          rfl
      | cons c tail =>
          rw [dark, List.filter_cons_of_pos (by simp [htext]), filled_cons, htext]
          exact Iff.rfl

/-- One level below a block, the steps fill it. -/
def Fills (steps : List Step) : Prop :=
  ∀ column level rest, column < 4 * level → Filled column (linesAt level (steps ++ rest))

/-- A line that starts with neither a space nor a comment fills the block that it stands in. -/
theorem fills_line {c : Char} {tail : List Char} (htext : text.toList = c :: tail)
    (hc : c ≠ ' ' ∧ c ≠ '#') (rest : List Step) : Fills (.line text :: rest) := by
  intro column level others hlevel
  rw [List.cons_append, linesAt_line ⟨c, tail, htext, hc.1⟩, filled_cons]
  exact ⟨.inr hlevel, .inl (by simp [Line.isSolid, htext, hc.2])⟩

/-- So does a line of code. -/
theorem fills_code (h : StartsCode text) (rest : List Step) : Fills (.line text :: rest) := by
  obtain ⟨c, tail, htext, hc⟩ := h
  simp only [List.mem_cons, List.not_mem_nil, or_false, not_or] at hc
  exact fills_line htext ⟨hc.1, hc.2.2⟩ rest

/-- Steps that fill a block do so with others behind them. -/
theorem Fills.append (h : Fills steps) (others : List Step) : Fills (steps ++ others) := by
  intro column level rest hlevel
  rw [List.append_assoc]
  exact h column level _ hlevel

/-- A docstring fills a block. -/
theorem fills_docSteps (description : String) : Fills (docSteps (some description)) := by
  obtain ⟨inner, rest, hchars⟩ : ∃ inner rest,
      docstringChars description.toList = (tripleQuote ++ inner) :: rest := by
    unfold docstringChars
    split
    · exact ⟨_, _, rfl⟩
    · exact ⟨_, _, congrArg (· :: []) (List.append_assoc ..)⟩
    · exact ⟨_, _, rfl⟩
  show Fills ((docstring description).map .line)
  rw [docstring, hchars]
  exact fills_line String.toList_ofList (by decide) _

/-- Behind comments, a block may still be filled. -/
theorem fills_commentSteps (description : Option String) (h : Fills steps) :
    Fills (commentSteps description ++ steps) := by
  cases description with
  | none => exact h
  | some text =>
      show Fills (((Text.lines text.toList).map fun line =>
        Step.line ("# " ++ String.ofList line)) ++ steps)
      induction Text.lines text.toList with
      | nil => exact h
      | cons line lines ih =>
          intro column level rest hlevel
          have hdark : StartsDark ("# " ++ String.ofList line) :=
            (startsDark_ofList (by decide)).append _
          rw [List.map_cons, List.cons_append, List.cons_append, linesAt_line hdark, filled_cons]
          exact ⟨.inr hlevel, .inr (ih column level rest hlevel)⟩

/-- Parts that are joined fill a block if the first of them that is not empty does. -/
theorem fills_joinParts {parts : List (List Step)} (h : ∀ part ∈ parts, part = [] ∨ Fills part) :
    joinParts parts = [] ∨ Fills (joinParts parts) := by
  induction parts with
  | nil => exact .inl rfl
  | cons part parts ih =>
      obtain ⟨hpart, hparts⟩ := List.forall_mem_cons.1 h
      cases part with
      | nil => exact ih hparts
      | cons step part =>
          have hfills := hpart.resolve_left (List.cons_ne_nil _ _)
          refine .inr ?_
          unfold joinParts
          split
          · exact hfills
          · exact hfills.append _

/-! ## Outlines -/

variable {P : Line → List Line → Prop}

/-- The text may stand on a line of its own. -/
structure Stands (P : Line → List Line → Prop) (text : String) : Prop where
  starts : StartsCode text
  holds : ∀ column rest, P ⟨column, text.toList⟩ rest

/-- The text may stand on the first line of a block that is filled. -/
structure Heads (P : Line → List Line → Prop) (text : String) : Prop where
  starts : StartsCode text
  holds : ∀ column rest, Filled column rest → P ⟨column, text.toList⟩ rest

/-- Nothing is claimed of statements. -/
def Spares (P : Line → List Line → Prop) : Prop :=
  ∀ text, IsStatement text → ∀ column rest, P ⟨column, text.toList⟩ rest

/-- A line in front of steps. -/
theorem Stands.suits (h : Stands P text) (hsteps : Suits P steps) : Suits P (.line text :: steps) :=
  .line h.starts (fun _ _ => h.holds _ _) hsteps

/-- A block with steps in it that fill it. -/
theorem Heads.suits (h : Heads P text) {body : List Step} (hfills : Fills body)
    (hbody : Suits P body) : Suits P (.line text :: indented body) := by
  refine .line h.starts (fun level rest => h.holds _ _ ?_) (.indented hbody)
  show Filled (4 * level) (linesAt (level + 1) (body ++ [.dedent] ++ rest))
  rw [List.append_assoc]
  exact hfills (4 * level) (level + 1) _ (by omega)

variable (hP : Spares P)

include hP

/-- A statement may stand anywhere. -/
theorem Spares.stands (h : IsStatement text) : Stands P text :=
  ⟨h.starts, hP text h⟩

/-- A statement in front of steps. -/
theorem Spares.statement (h : IsStatement text) (hsteps : Suits P steps) :
    Suits P (.line text :: steps) :=
  (hP.stands h).suits hsteps

/-- Statements one behind the other. -/
theorem Spares.statements {texts : List String} (h : ∀ text ∈ texts, IsStatement text) :
    Suits P (texts.map .line) := by
  induction texts with
  | nil => exact suits_nil
  | cons text texts ih =>
      rw [List.forall_mem_cons] at h
      exact hP.statement h.1 (ih h.2)

/-- The class of an enumeration fills its block with its description, its cases or one word. -/
theorem Spares.enumeration {name : String} (description : Option String) {cases : List String}
    (hcases : ∀ text ∈ cases, IsStatement text) (hclass : Heads P ("class " ++ name ++ "(Enum):")) :
    Suits P (enumerationSteps name description cases).tail := by
  let body := docSteps description ++ cases.map .line
    ++ if cases.isEmpty && description.isNone then [.line "pass"] else []
  have hbody : Suits P body := by
    refine ((suits_docSteps description).append (hP.statements hcases)).append ?_
    split
    · exact hP.statement isStatement_pass suits_nil
    · exact suits_nil
  have hfills : Fills body := by
    cases description with
    | some text => exact ((fills_docSteps text).append _).append _
    | none =>
        cases cases with
        | nil => exact fills_code isStatement_pass.starts _
        | cons text texts => exact fills_code (hcases text List.mem_cons_self).starts _
  exact (hclass.suits hfills hbody).append (.blank 2 suits_nil)

/-- The functions of a top-level return something. -/
theorem Spares.topLevel {names : TopLevelNames} {hint : Option String} (decode encode : String)
    (hfirst : Heads P (topLevelSignatures names hint).1)
    (hsecond : Heads P (topLevelSignatures names hint).2) :
    Suits P (topLevelSteps names hint decode encode).tail := by
  have hfunction {header : String} (hheader : Heads P header) (result : String) :
      Suits P (.line header :: indented [.line ("return " ++ result)] ++ [.blank 2]) := by
    have hreturn : IsStatement ("return " ++ result) :=
      (isStatement_ofList (by decide) : IsStatement "return ").append (c := ' ') (by decide)
        (by decide) result
    exact (hheader.suits (fills_code hreturn.starts []) (hP.statement hreturn suits_nil)).append
      (.blank 2 suits_nil)
  cases hint with
  | none => exact (hfunction hfirst decode).append (hfunction hsecond encode)
  | some hint => exact (hfunction hfirst decode).append (hfunction hsecond encode)

omit hP

/-! ## Classes -/

/-- The line of a field. -/
def fieldLine (f : Features) (field : Field) : String :=
  field.declaration true ++ if f.dataclasses && field.optional then " = None" else ""

/-- The first line of the constructor. -/
def constructorSignature (hints : Bool) (fields : List Field) : String :=
  "def __init__(" ++ ", ".intercalate ("self" :: fields.map (Field.declaration hints)) ++ ")"
    ++ (if hints then " -> None" else "") ++ ":"

/-- The first line of the decoding function. -/
def fromDictSignature : Option String → String
  | some hint => "def from_dict(obj: Any) -> " ++ hint ++ ":"
  | none => "def from_dict(obj):"

/-- The first line of the encoding function. -/
def toDictSignature (hints : Bool) : String :=
  if hints then "def to_dict(self) -> dict:" else "def to_dict(self):"

/-- The line in which the encoding function starts its result. -/
def resultLine (hints : Bool) : String :=
  if hints then "result: dict = \x7b\x7d" else "result = \x7b\x7d"

/-- The line that asks whether a field is there. -/
def presenceLine (field : Field) : String :=
  "if self." ++ field.name ++ " is not None:"

/-- What is claimed holds of the outline of a class. -/
structure SuitsClass (P : Line → List Line → Prop) (f : Features) (fields : List Field)
    (returned : Option String) : Prop where
  declarations : f.typeHints → ∀ field ∈ fields, Stands P (fieldLine f field)
  constructor : Heads P (constructorSignature f.typeHints fields)
  static : Stands P "@staticmethod"
  fromDict : Heads P (fromDictSignature returned)
  toDict : Heads P (toDictSignature f.typeHints)
  result : Stands P (resultLine f.typeHints)
  presence : ∀ field ∈ fields, Heads P (presenceLine field)

/-- The conversions are those of a class with the fields, which returns what is annotated. -/
inductive IsConversions (hints : Bool) (fields : List Field) (returned : Option String) :
    List Step → Prop
  | none : IsConversions hints fields returned []
  | both (name : String) {values assignments : List (Field × String)} :
      (∀ v ∈ values, v.1 ∈ fields) →
      (∀ a ∈ assignments, a.1 ∈ fields ∧ ∃ text, a.2 = "result[" ++ text) →
      IsConversions hints fields returned (fromDictSteps name returned values ++
        ([.blank 1] ++ toDictSteps hints assignments))

/-- Conversions stay at their level. -/
theorem IsConversions.nested {hints : Bool} {fields : List Field} {returned : Option String}
    {conversions : List Step} (h : IsConversions hints fields returned conversions) :
    Nested conversions := by
  cases h with
  | none => exact .nil
  | both name _ _ => exact nested_classConversions _ _ _ _ _

variable {fields : List Field} {returned : Option String}
  (hfields : ∀ f ∈ fields, IsName f.name ∧ f.name ∉ keywords)

section Functions

include hP

/-- The constructor sets the fields, if there are any. -/
theorem Spares.constructor {hints : Bool} (h : Heads P (constructorSignature hints fields)) :
    Suits P (constructorSteps hints fields) := by
  have hset (f : Field) : IsStatement ("self." ++ f.name ++ " = " ++ f.name) := by
    have hself : IsStatement "self." := isStatement_ofList (by decide)
    exact ((hself.append (c := '.') (by decide) (by decide) _).append (c := '.') (by simp)
      (by decide) _).append (c := '.') (by simp) (by decide) _
  refine h.suits ?_ ?_
  · cases fields with
    | nil => exact fills_code isStatement_pass.starts []
    | cons f fields =>
        show Fills ((_ ++ _) ++ _)
        refine Fills.append ?_ _
        split
        · exact fills_code (hset f).starts []
        · exact fills_commentSteps f.description (fills_code (hset f).starts [])
  · split
    · exact hP.statement isStatement_pass suits_nil
    · refine suits_flatMap fun f _ => Suits.append ?_ (hP.statement (hset f) suits_nil)
      split
      · exact suits_nil
      · exact suits_commentSteps f.description

/-- So does the encoding function, and what may be missing is put under a condition. -/
theorem Spares.toDict {hints : Bool} {assignments : List (Field × String)}
    (hassignments : ∀ a ∈ assignments, a.1 ∈ fields ∧ ∃ text, a.2 = "result[" ++ text)
    (h : Heads P (toDictSignature hints)) (hresult : Stands P (resultLine hints))
    (hpresence : ∀ field ∈ fields, Heads P (presenceLine field)) :
    Suits P (toDictSteps hints assignments) := by
  have hset {a : Field × String} (ha : a ∈ assignments) : IsStatement a.2 := by
    obtain ⟨-, text, htext⟩ := hassignments a ha
    have hopen : IsStatement "result[" := isStatement_ofList (by decide)
    exact htext ▸ hopen.append (c := '[') (by decide) (by decide) text
  refine h.suits (fills_code hresult.starts _) (hresult.suits ?_)
  refine Suits.append (suits_flatMap fun a ha => ?_)
    (hP.statement (isStatement_ofList (by decide)) suits_nil)
  have hline : Suits P [.line a.2] := hP.statement (hset ha) suits_nil
  split
  · exact (hpresence _ (hassignments a ha).1).suits (fills_code (hset ha).starts []) hline
  · exact hline

include hfields

/-- The decoding function of a class ends with what it returns. -/
theorem Spares.fromDict (name : String) {values : List (Field × String)}
    (hvalues : ∀ v ∈ values, v.1 ∈ fields) (hstatic : Stands P "@staticmethod")
    (h : Heads P (fromDictSignature returned)) : Suits P (fromDictSteps name returned values) := by
  have hassert : IsStatement "assert isinstance(obj, dict)" := isStatement_ofList (by decide)
  have hset {v : Field × String} (hv : v ∈ values) : IsStatement (v.1.name ++ " = " ++ v.2) := by
    obtain ⟨hname, hfree⟩ := hfields _ (hvalues v hv)
    exact (isStatement_name hname hfree (by decide) ['=', ' ']).append (c := ' ') (by simp)
      (by decide) v.2
  have hreturn : IsStatement ("return " ++ name ++ "(" ++
      ", ".intercalate (values.map fun v => v.1.name) ++ ")") := by
    have hword : IsStatement "return " := isStatement_ofList (by decide)
    exact (((hword.append (c := ' ') (by decide) (by decide) name).append (c := ' ') (by simp)
      (by decide) _).append (c := ' ') (by simp) (by decide) _).append (c := ' ') (by simp)
        (by decide) _
  have hlines : Suits P ((values.map fun v => v.1.name ++ " = " ++ v.2).map .line) :=
    hP.statements (List.forall_mem_map.2 fun v hv => hset hv)
  rw [List.map_map] at hlines
  have hbody := hP.statement hassert (hlines.append (hP.statement hreturn suits_nil))
  cases returned with
  | none => exact hstatic.suits (h.suits (fills_code hassert.starts _) hbody)
  | some hint => exact hstatic.suits (h.suits (fills_code hassert.starts _) hbody)

/-- The body of a class consists of what is in it, or of one word if nothing is. -/
theorem Spares.classBody {f : Features} (description : Option String) {conversions : List Step}
    (hconversions : IsConversions f.typeHints fields returned conversions)
    (h : SuitsClass P f fields returned) :
    Fills (classBody f description fields conversions) ∧
      Suits P (classBody f description fields conversions) := by
  let parts : List (List Step) :=
    [docSteps description ++ if f.typeHints then fieldSteps f fields else [],
      if f.dataclasses then [] else constructorSteps f.typeHints fields, conversions]
  have hparts : ∀ part ∈ parts, (part = [] ∨ Fills part) ∧ Suits P part := by
    refine List.forall_mem_cons.2 ⟨⟨?_, ?_⟩, List.forall_mem_cons.2 ⟨⟨?_, ?_⟩,
      List.forall_mem_singleton.2 ⟨?_, ?_⟩⟩⟩
    · cases description with
      | some text => exact .inr ((fills_docSteps text).append _)
      | none =>
          show (if f.typeHints then fieldSteps f fields else []) = [] ∨ Fills (if _ then _ else _)
          split
          next hhints =>
            cases fields with
            | nil => exact .inl rfl
            | cons field fields =>
                exact .inr (fills_code (h.declarations hhints field List.mem_cons_self).starts _)
          next => exact .inl rfl
    · refine (suits_docSteps description).append ?_
      split
      next hhints =>
        exact suits_flatMap fun field hfield =>
          (h.declarations hhints field hfield).suits (suits_docSteps _)
      next => exact suits_nil
    · split
      · exact .inl rfl
      · exact .inr (fills_code h.constructor.starts _)
    · split
      · exact suits_nil
      · exact hP.constructor h.constructor
    · cases hconversions with
      | none => exact .inl rfl
      | both => exact .inr (fills_code h.static.starts _)
    · cases hconversions with
      | none => exact suits_nil
      | both name hvalues hassignments =>
          exact (hP.fromDict hfields name hvalues h.static h.fromDict).append
            (.blank 1 (hP.toDict hassignments h.toDict h.result h.presence))
  have hjoined := fills_joinParts fun part hpart => (hparts part hpart).1
  have hsuits := suits_joinParts fun part hpart => (hparts part hpart).2
  unfold Code.classBody
  dsimp only
  split
  next => exact ⟨fills_code isStatement_pass.starts [], hP.statement isStatement_pass suits_nil⟩
  next hne => exact ⟨hjoined.resolve_left hne, hsuits⟩

end Functions

/-! ## Written definitions -/

/-- The cases of an enumeration have names that are no words of the language. -/
theorem isName_case {g : TypeGraph} {o : Options} {t : TypeRef} {cs : List String} {name : String}
    (h : (NameTable.assign g o).cases.lookup t = some cs) (hname : name ∈ cs) :
    IsName name ∧ name ∉ keywords := by
  have hfree := (NameTable.scoped_assign g o).caseFree h hname
  refine ⟨isName_of_isIdentifier (g := o.features.grammar) ?_ hfree, hfree⟩
  obtain ⟨e, rfl⟩ := NameTable.exists_of_lookup_cases h
  rw [NameTable.nameCases_eq] at hname
  refine Namespace.forall_run (p := fun name => o.features.grammar.IsIdentifier name.toList) ?_ _
    name hname
  intro request hrequest ns w hw
  obtain ⟨label, -, rfl⟩ := List.mem_map.1 hrequest
  exact hw.isIdentifier

/-- The case is written as a statement. -/
theorem isStatement_case {g : TypeGraph} {o : Options} {t : TypeRef} {case : String × Nat}
    (h : (do
      let caseName ← Gen.lift ((contextOf g o).names.caseName t case.2)
      return caseName ++ " = " ++ literal (contextOf g o).features.markedText case.1 :
        Gen String).Yields text) : IsStatement text := by
  obtain ⟨caseName, hlookup, h⟩ := h.bind
  have hlookup := hlookup.lift
  unfold NameTable.caseName at hlookup
  split at hlookup
  next found hfound =>
    obtain ⟨cs, hcs, hmem⟩ := Option.bind_eq_some_iff.1 hfound
    obtain rfl := Except.ok.inj hlookup
    obtain ⟨hname, hfree⟩ := isName_case hcs (List.mem_of_getElem? hmem)
    rw [h.pure]
    exact (isStatement_name hname hfree (by decide) ['=', ' ']).append (c := ' ') (by simp)
      (by decide) _
  next => cases hlookup

namespace Context

variable {ctx : Context} {o : Options} {i : Imports} {p : Part} {declared : List TypeRef}
  {t : TypeRef}

/-- The class of an enumeration is written with its name and cases, and what it is based on is
imported. -/
theorem IsEnumerationPart.written {g : TypeGraph} (h : (contextOf g o).IsEnumerationPart i t p) :
    ∃ (e : Enumeration) (name : String) (cases : List String),
      (contextOf g o).names.types.lookup t = some name ∧ i.contains "enum" "Enum" ∧
      (∀ text ∈ cases, IsStatement text) ∧
      p.body = (enumerationSteps name e.description cases).tail := by
  obtain ⟨-, e, -, h⟩ := h
  have hcases : (e.cases.zipIdx.mapM fun c => do
      let caseName ← Gen.lift ((contextOf g o).names.caseName t c.2)
      return caseName ++ " = " ++ literal (contextOf g o).features.markedText c.1 :
        Gen (List String)).KeepsImports :=
    Gen.keepsImports_mapM (fun _ => (Gen.keepsImports_lift _).bind fun _ =>
      Gen.keepsImports_pure _) _
  have hrest (name : String) := hcases.bind fun cases =>
    Gen.keepsImports_pure (enumerationSteps name e.description cases)
  obtain ⟨name, hname, h⟩ := h.bind fun name =>
    (Gen.keepsImports_addName "enum" "Enum").bind fun _ => hrest name
  obtain ⟨henum, h⟩ := h.addName (hrest name)
  obtain ⟨cases, hcases, h⟩ := h.yields.bind
  refine ⟨e, name, cases, typeName_of_yields hname.yields, henum, fun text htext => ?_,
    congrArg List.tail h.pure⟩
  obtain ⟨case, -, hcase⟩ := exists_of_forall₂ hcases.mapM htext
  exact isStatement_case hcase

/-- The fields of a class are annotated within what is imported. -/
theorem hints_of_within {r : Record} {fields : List Field} (hhints : ctx.features.typeHints)
    (h : (ctx.fields declared t r).YieldsWithin i fields) :
    ∀ f ∈ fields, (ctx.annotate ⟨declared, true⟩ f.type).YieldsWithin i f.hint := by
  have hannotated (f : Field) : (do
      if ctx.features.typeHints then
        let hint ← ctx.annotate ⟨declared, true⟩ f.type
        return { f with hint }
      else return f : Gen Field).KeepsImports := by
    rw [if_pos hhints]
    exact (keepsImports_annotate _ _).bind fun _ => Gen.keepsImports_pure _
  obtain ⟨base, -, h⟩ := h.bind fun base => Gen.keepsImports_mapM hannotated _
  intro f hf
  obtain ⟨bare, -, hbare⟩ := exists_of_forall₂ (h.mapM hannotated) hf
  rw [if_pos hhints] at hbare
  obtain ⟨hint, hhint, hbare⟩ := hbare.bind fun hint => Gen.keepsImports_pure _
  rw [hbare.pure]
  exact hhint

/-- The annotation of a type, if there are type hints. -/
def annotated (ctx : Context) (place : Place) (t : TypeRef) : Gen (Option String) :=
  if ctx.features.typeHints then do
    typing "Any"
    let hint ← ctx.annotate place t
    return some hint
  else return none

/-- It keeps what is imported. -/
theorem keepsImports_annotated (place : Place) (t : TypeRef) :
    (ctx.annotated place t).KeepsImports := by
  unfold annotated
  split
  · exact (keepsImports_typing "Any").bind fun _ => (keepsImports_annotate place t).bind fun _ =>
      Gen.keepsImports_pure _
  · exact Gen.keepsImports_pure _

/-- It is within what is imported, and so is what stands beside it. -/
theorem annotated_of_within {place : Place} {hint : Option String}
    (h : (ctx.annotated place t).YieldsWithin i hint) :
    ∀ text ∈ hint, i.contains "typing" "Any" ∧ (ctx.annotate place t).YieldsWithin i text := by
  unfold annotated at h
  split at h
  · obtain ⟨hany, h⟩ := h.addName ((keepsImports_annotate place t).bind fun _ =>
      Gen.keepsImports_pure _)
    obtain ⟨text, htext, h⟩ := h.bind fun _ => Gen.keepsImports_pure _
    rw [h.pure]
    rintro _ ⟨⟩
    exact ⟨hany, htext⟩
  · rw [h.pure]
    exact nofun

/-- The conversions of a class, with the annotation of what is returned. -/
theorem classConversions_eq (name : String) (fields : List Field) :
    ctx.classConversions declared t name fields = (do
      let values ← fields.mapM fun f => do
        let value ← ctx.convertValue .decode
          ("obj.get(" ++ literal ctx.features.markedText f.key ++ ")") f.type
        return (f, value)
      let returned ← ctx.annotated ⟨declared, true⟩ t
      let assignments ← fields.mapM fun f => do
        let value ← ctx.convertValue .encode ("self." ++ f.name) f.type
        return (f, "result[" ++ literal ctx.features.markedText f.key ++ "] = " ++ value)
      return fromDictSteps name returned values ++ [.blank 1]
        ++ toDictSteps ctx.features.typeHints assignments) := by
  unfold classConversions annotated
  cases ctx.features.typeHints <;>
    simp only [if_true, if_false, Bool.false_eq_true, bind_assoc, pure_bind]

/-- The conversions of a class are its two functions, the first of which is annotated with the class
itself. -/
theorem conversions_of_within {name : String} {fields : List Field} {conversions : List Step}
    (h : (ctx.classConversions declared t name fields).YieldsWithin i conversions) :
    ∃ returned, IsConversions ctx.features.typeHints fields returned conversions ∧
      ∀ hint ∈ returned, i.contains "typing" "Any" ∧
        (ctx.annotate ⟨declared, true⟩ t).YieldsWithin i hint := by
  have hpairs {α : Type} (d : Direction) (expression : Field → String) (g : Field → String → α) :
      (fields.mapM fun f => do
        let value ← ctx.convertValue d (expression f) f.type
        return g f value).KeepsImports :=
    Gen.keepsImports_mapM (fun _ => (keepsImports_convertValue _ _ _).bind fun _ =>
      Gen.keepsImports_pure _) _
  rw [classConversions_eq] at h
  obtain ⟨values, hvalues, h⟩ := h.bind fun values => (keepsImports_annotated _ _).bind
    fun returned => (hpairs _ _ _).bind fun _ => Gen.keepsImports_pure _
  obtain ⟨returned, hreturned, h⟩ := h.bind fun returned => (hpairs _ _ _).bind
    fun _ => Gen.keepsImports_pure _
  obtain ⟨assignments, hassignments, h⟩ := h.yields.bind
  refine ⟨returned, ?_, annotated_of_within hreturned⟩
  rw [h.pure, List.append_assoc]
  refine .both name (fun v hv => ?_) fun a ha => ?_
  · obtain ⟨f, hf, hyields⟩ := exists_of_forall₂ hvalues.yields.mapM hv
    obtain ⟨value, -, hyields⟩ := hyields.bind
    rw [hyields.pure]
    exact hf
  · obtain ⟨f, hf, hyields⟩ := exists_of_forall₂ hassignments.mapM ha
    obtain ⟨value, -, hyields⟩ := hyields.bind
    rw [hyields.pure]
    exact ⟨hf, _, by rw [String.append_assoc, String.append_assoc]⟩

/-- The class of a record is written with its name, its fields and what is returned. Their
annotations, and what decorates the class, are within what is imported. -/
structure WritesClass (ctx : Context) (i : Imports) (declared : List TypeRef) (t : TypeRef)
    (name : String) (fields : List Field) (returned : Option String) : Prop where
  name : ctx.names.types.lookup t = some name
  names : ∀ f ∈ fields, ctx.IsFieldName f.name
  hints : ctx.features.typeHints → ∀ f ∈ fields,
    (ctx.annotate ⟨declared, true⟩ f.type).YieldsWithin i f.hint
  returned : ∀ hint ∈ returned, i.contains "typing" "Any" ∧
    (ctx.annotate ⟨declared, true⟩ t).YieldsWithin i hint
  dataclass : ctx.features.dataclasses → i.contains "dataclasses" "dataclass"

/-- The first line of a class. -/
def classLine (f : Features) (name : String) : String :=
  "class " ++ name ++ (if f.objectBase then "(object)" else "") ++ ":"

/-- What is left to do for the class of a record when its name and fields are there and what
decorates it is imported. -/
def classBehind (ctx : Context) (o : Options) (declared : List TypeRef) (t : TypeRef) (r : Record)
    (name : String) (fields : List Field) : Gen (List Step) := do
  let conversions ←
    if o.justTypes then pure [] else ctx.classConversions declared t name fields
  return .enter .classes
    :: (if ctx.features.dataclasses then [.line "@dataclass"] else [])
    ++ .line (classLine ctx.features name)
    :: indented (classBody ctx.features r.description fields conversions)
    ++ [.blank 2]

/-- The class of a record goes through it. -/
theorem recordClass_eq (r : Record) : ctx.recordClass o declared t r = (do
    let name ← ctx.typeName t
    let fields ← ctx.fields declared t r
    if ctx.features.dataclasses then do
      Gen.require (·.addName "dataclasses" "dataclass")
      ctx.classBehind o declared t r name fields
    else ctx.classBehind o declared t r name fields) := by
  unfold recordClass classBehind
  cases o.justTypes <;> rfl

/-- The class of a record is written so. -/
theorem IsClassPart.written (hnames : ctx.names.Apart) (h : ctx.IsClassPart o i (declared, t) p) :
    ∃ (r : Record) (name : String) (fields : List Field) (returned : Option String)
      (conversions : List Step), ctx.WritesClass i declared t name fields returned ∧
      IsConversions ctx.features.typeHints fields returned conversions ∧
      p.body = (if ctx.features.dataclasses then [.line "@dataclass"] else [])
        ++ .line (classLine ctx.features name)
        :: indented (classBody ctx.features r.description fields conversions) ++ [.blank 2] := by
  obtain ⟨-, r, -, h⟩ := h
  have hbehind (name : String) (fields : List Field) :
      (ctx.classBehind o declared t r name fields).KeepsImports := by
    unfold classBehind
    cases o.justTypes with
    | true => exact (Gen.keepsImports_pure _).bind fun _ => Gen.keepsImports_pure _
    | false =>
        exact (keepsImports_classConversions _ _ _ _).bind fun _ => Gen.keepsImports_pure _
  rw [recordClass_eq] at h
  obtain ⟨name, hname, h⟩ := h.bind fun name => (keepsImports_fields declared t r).bind
    fun fields => .when (hbehind name fields)
  obtain ⟨fields, hfields, h⟩ := h.bind fun fields => .when (hbehind name fields)
  obtain ⟨hdataclass, h⟩ := h.when (hbehind name fields)
  have hclass {returned : Option String} (hreturned : ∀ hint ∈ returned,
      i.contains "typing" "Any" ∧ (ctx.annotate ⟨declared, true⟩ t).YieldsWithin i hint) :
      ctx.WritesClass i declared t name fields returned :=
    ⟨typeName_of_yields hname.yields, (holds_of_yields hnames hfields.yields).names,
      fun hhints => hints_of_within hhints hfields, hreturned, hdataclass⟩
  unfold classBehind at h
  cases hjust : o.justTypes with
  | true =>
      rw [hjust] at h
      obtain ⟨conversions, hconversions, h⟩ := h.bind fun _ => Gen.keepsImports_pure _
      obtain rfl := Gen.YieldsWithin.pure hconversions
      exact ⟨r, name, fields, none, [], hclass nofun, .none, congrArg List.tail h.pure⟩
  | false =>
      rw [hjust] at h
      obtain ⟨conversions, hconversions, h⟩ := h.bind fun _ => Gen.keepsImports_pure _
      obtain ⟨returned, hkind, hreturned⟩ := conversions_of_within hconversions
      exact ⟨r, name, fields, returned, conversions, hclass hreturned, hkind,
        congrArg List.tail h.pure⟩

/-- The functions of a top-level, with their annotation. -/
theorem topLevel_eq (top : TopLevel) (index : Nat) : ctx.topLevel declared top index = (do
    let names ← Gen.lift (ctx.names.functionNames index)
    let decode ← ctx.convertValue .decode "s" top.type
    let encode ← ctx.convertValue .encode "x" top.type
    let hint ← ctx.annotated ⟨declared, false⟩ top.type
    return topLevelSteps names hint decode encode) := by
  unfold topLevel annotated
  cases ctx.features.typeHints <;>
    simp only [if_true, if_false, Bool.false_eq_true, bind_assoc, pure_bind]

/-- The functions of a top-level are written with their names, and their annotation is within what
is imported. -/
theorem IsFunctionsPart.written {top : TopLevel × Nat} (h : ctx.IsFunctionsPart i top p) :
    ∃ names hint decode encode, ctx.names.functionNames top.2 = .ok names ∧
      (∀ text ∈ hint, i.contains "typing" "Any" ∧
        (ctx.annotate ⟨ctx.graph.records, false⟩ top.1.type).YieldsWithin i text) ∧
      p.body = (topLevelSteps names hint decode encode).tail := by
  obtain ⟨-, h⟩ := h
  have hannotated : (ctx.annotated ⟨ctx.graph.records, false⟩ top.1.type).KeepsImports :=
    keepsImports_annotated _ _
  have hhint (names : TopLevelNames) (decode encode : String) :=
    hannotated.bind fun hint => Gen.keepsImports_pure (topLevelSteps names hint decode encode)
  rw [topLevel_eq] at h
  obtain ⟨names, hnames, h⟩ := h.bind fun names => (keepsImports_convertValue _ _ _).bind
    fun decode => (keepsImports_convertValue _ _ _).bind fun encode => hhint names decode encode
  obtain ⟨decode, -, h⟩ := h.bind fun decode => (keepsImports_convertValue _ _ _).bind
    fun encode => hhint names decode encode
  obtain ⟨encode, -, h⟩ := h.bind fun encode => hhint names decode encode
  obtain ⟨hint, hannotated, h⟩ := h.bind fun hint => Gen.keepsImports_pure _
  exact ⟨names, hint, decode, encode, hnames.yields.lift, annotated_of_within hannotated,
    congrArg List.tail h.pure⟩

section Suits

include hP

/-- What holds of the first line of its class holds of all lines for an enumeration. -/
theorem IsEnumerationPart.suits {g : TypeGraph} (h : (contextOf g o).IsEnumerationPart i t p)
    (hclass : ∀ name, (contextOf g o).names.types.lookup t = some name → i.contains "enum" "Enum" →
      Heads P ("class " ++ name ++ "(Enum):")) : Suits P p.body := by
  obtain ⟨e, name, cases, hname, henum, hcases, hbody⟩ := h.written
  rw [hbody]
  exact hP.enumeration e.description hcases (hclass name hname henum)

/-- What holds of the outline of its class holds of all lines for a record. -/
theorem IsClassPart.suits (hnames : ctx.names.Apart) (h : ctx.IsClassPart o i (declared, t) p)
    (hclass : ∀ name fields returned, ctx.WritesClass i declared t name fields returned →
      (ctx.features.dataclasses → Stands P "@dataclass") ∧
      Heads P (classLine ctx.features name) ∧ SuitsClass P ctx.features fields returned) :
    Suits P p.body := by
  obtain ⟨r, name, fields, returned, conversions, hwrites, hconversions, hbody⟩ := h.written hnames
  obtain ⟨hdecorator, hhead, houtline⟩ := hclass name fields returned hwrites
  have hfields : ∀ f ∈ fields, IsName f.name ∧ f.name ∉ keywords := fun f hf =>
    ⟨(hwrites.names f hf).1, (not_mem_globalForbidden.1 (hwrites.names f hf).2.1).1⟩
  obtain ⟨hfills, hsuits⟩ := hP.classBody hfields r.description hconversions houtline
  rw [hbody]
  refine (Suits.append ?_ (hhead.suits hfills hsuits)).append (.blank 2 suits_nil)
  split
  next hdataclasses => exact (hdecorator hdataclasses).suits suits_nil
  next => exact suits_nil

/-- What holds of their first lines holds of all lines for a top-level. -/
theorem IsFunctionsPart.suits {top : TopLevel × Nat} (h : ctx.IsFunctionsPart i top p)
    (hheads : ∀ names hint, ctx.names.functionNames top.2 = .ok names →
      (∀ text ∈ hint, i.contains "typing" "Any" ∧
        (ctx.annotate ⟨ctx.graph.records, false⟩ top.1.type).YieldsWithin i text) →
      Heads P (topLevelSignatures names hint).1 ∧ Heads P (topLevelSignatures names hint).2) :
    Suits P p.body := by
  obtain ⟨names, hint, decode, encode, hlookup, hhint, hbody⟩ := h.written
  obtain ⟨hfirst, hsecond⟩ := hheads names hint hlookup hhint
  rw [hbody]
  exact hP.topLevel decode encode hfirst hsecond

end Suits

end Context

end TypedJson.Code
