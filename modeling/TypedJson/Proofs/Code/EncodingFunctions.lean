import TypedJson.Proofs.Code.DecodingFunctions

/-!
# Encoding functions of classes

The class of a record encodes its objects by a function that starts from an empty dict and assigns
the converted attributes one by one, those that may be missing under a test. The lines of it are read
as such a definition (`find?_toDict`), and a call of the definition makes a dict of what the
attributes are converted to, apart from missing ones, and raises if one is not converted
(`calls_toDictDefinition`).
-/

namespace TypedJson.Code

open Naming Ordered Script

/-! ## Reading -/

/-- The expression of an attribute. -/
def attributeOf (name : String) : Expr :=
  .member (.name "self") name

/-- It can be written and read. -/
theorem printable_attributeOf {name : String} (h : IsName name) : (attributeOf name).Printable :=
  .member (.name (isName_of_chars rfl rfl rfl rfl)) rfl h

/-- It is written as the generator writes it. -/
theorem chars_attributeOf (marked : Bool) (name : String) :
    (attributeOf name).chars marked = ("self." ++ name).toList := by
  rw [String.toList_append]
  rfl

/-- How an entry of the result is assigned: only if the attribute is there, or always. -/
structure Row where
  optional : Bool
  name : String
  key : String
  value : Expr

/-- The statement that assigns the entry. -/
def Row.statement (row : Row) : Statement :=
  let assign := .assignItem "result" (.text row.key) row.value
  if row.optional then .ifThen (.isNone (attributeOf row.name) true) [assign] else assign

/-- The function that encodes objects, given what is assigned. -/
def toDictDefinition (rows : List Row) : Definition :=
  ⟨"to_dict", ["self"],
    .assign "result" .emptyDict :: rows.map Row.statement ++ [.return (.name "result")]⟩

/-- A field is assigned to its key by a line. -/
structure WritesRow (marked : Bool) (a : Field × String) (row : Row) : Prop where
  optional : a.1.optional = row.optional
  name : a.1.name = row.name
  isName : IsName row.name
  printable : row.value.Printable
  chars : a.2.toList = "result".toList ++ '[' :: literalChars marked row.key.toList ++
    ']' :: ' ' :: '=' :: ' ' :: row.value.chars marked

/-- The line that tests the attribute of a field. -/
def testText (name : String) : String :=
  "if self." ++ name ++ " is not None:"

/-- The lines that assign a field, at a column. -/
def rowLines (column : Nat) (a : Field × String) : List Line :=
  if a.1.optional then [⟨column, (testText a.1.name).toList⟩, ⟨column + 4, a.2.toList⟩]
  else [⟨column, a.2.toList⟩]

/-- The steps that write them. -/
def rowSteps (a : Field × String) : List Step :=
  if a.1.optional then .line (testText a.1.name) :: indented [.line a.2] else [.line a.2]

variable {marked : Bool} {values : List (Field × String)} {rows : List Row}

/-- The line of an assignment is read as one. -/
theorem WritesRow.readsLine {a : Field × String} {row : Row} (h : WritesRow marked a row) :
    ReadsLine a.2 (.assignItem "result" (.text row.key) row.value) :=
  readsLine_assignItem marked (isName_of_chars rfl rfl rfl rfl) h.printable h.chars

/-- The line of a test is read as one. -/
theorem reads_testText {name : String} (h : IsName name) :
    ∃ test, tokens? (testText name).toList = some (.key "if" :: test) ∧
      condition? test = some (.isNone (attributeOf name) true) := by
  let behind : List Token := [.key "is", .key "not", .word "None", .mark ':']
  refine ⟨(attributeOf name).tokens ++ behind, ?_, ?_⟩
  · have hnone : Lexes ("None".toList ++ [':']) ([.word "None"] ++ [.mark ':']) :=
      (lexes_name (isName_of_chars rfl rfl rfl rfl)).append (separates_mark rfl rfl _)
        (.mark rfl lexes_nil)
    have hbehind : Lexes ("is".toList ++ ' ' :: ("not".toList ++ ' ' :: ("None".toList ++ [':'])))
        behind :=
      lexes_key rfl rfl rfl rfl (lexes_key rfl rfl rfl rfl hnone)
    have hattribute := ((printable_attributeOf h).lexes false).append (separates_mark rfl rfl _)
      hbehind.space
    have htext : (testText name).toList = "if".toList ++ ' ' :: ((attributeOf name).chars false ++
        ' ' :: ("is".toList ++ ' ' :: ("not".toList ++ ' ' :: ("None".toList ++ [':'])))) := by
      rw [chars_attributeOf]
      simp only [testText, String.toList_append, List.append_assoc]
      rfl
    rw [htext]
    exact (lexes_key rfl rfl rfl rfl hattribute).tokens?
  · rfl

/-- Lines that assign fields are read as statements one by one, in front of others. -/
theorem block?_rows (h : List.Forall₂ (WritesRow marked) values rows) (column : Nat)
    {rest : List Line} {ss : List Statement} {least : Nat} (hrest : inside column rest = [])
    (hss : ∀ n, least ≤ n → block? n column rest = some ss) {n : Nat}
    (hn : (values.flatMap (rowLines column)).length + least ≤ n) :
    inside column (values.flatMap (rowLines column) ++ rest) = [] ∧
      block? n column (values.flatMap (rowLines column) ++ rest) =
        some (rows.map Row.statement ++ ss) := by
  induction h generalizing n with
  | nil => exact ⟨hrest, hss n (by simpa using hn)⟩
  | @cons a row values rows hhead _ ih =>
      rw [List.flatMap_cons, List.length_append] at hn
      rw [List.flatMap_cons, List.append_assoc, List.map_cons, List.cons_append, Row.statement,
        ← hhead.optional, ← hhead.name]
      -- An optional field takes two lines, a test and its assignment, and so one call more.
      by_cases hoptional : a.1.optional
      · have hlines : rowLines column a =
            [⟨column, (testText a.1.name).toList⟩, ⟨column + 4, a.2.toList⟩] := if_pos hoptional
        rw [hlines, List.length_cons, List.length_singleton] at hn
        obtain ⟨n, rfl⟩ : ∃ k, n = k + 2 := ⟨n - 2, by omega⟩
        obtain ⟨hinside, hblock⟩ := ih (n := n + 1) (by omega)
        obtain ⟨test, htokens, htest⟩ := reads_testText (hhead.name ▸ hhead.isName)
        rw [hlines, if_pos hoptional]
        refine ⟨List.takeWhile_cons_of_neg (by simp), ?_⟩
        rw [List.cons_append, List.cons_append, List.nil_append,
          block?_if htokens htest hhead.readsLine hinside, hblock]
        rfl
      · have hlines : rowLines column a = [⟨column, a.2.toList⟩] := if_neg hoptional
        rw [hlines, List.length_singleton] at hn
        obtain ⟨n, rfl⟩ : ∃ k, n = k + 1 := ⟨n - 1, by omega⟩
        obtain ⟨hinside, hblock⟩ := ih (n := n) (by omega)
        rw [hlines, if_neg hoptional]
        refine ⟨List.takeWhile_cons_of_neg (by simp), ?_⟩
        rw [List.cons_append, List.nil_append, block?_cons hhead.readsLine hinside, hblock]
        rfl

/-- The lines that assign fields are written at their level. -/
theorem linesAt_rows (h : List.Forall₂ (WritesRow marked) values rows) (level : Nat)
    (rest : List Step) :
    linesAt level (values.flatMap rowSteps ++ rest) =
      values.flatMap (rowLines (4 * level)) ++ linesAt level rest := by
  induction h with
  | nil => rfl
  | @cons a row values rows hhead _ ih =>
      have htest : StartsDark (testText a.1.name) :=
        (StartsDark.append (startsDark_ofList (by decide)) a.1.name).append " is not None:"
      have hline : StartsDark a.2 := ⟨'r', _, hhead.chars, by decide⟩
      rw [List.flatMap_cons, List.flatMap_cons, List.append_assoc, List.append_assoc, ← ih]
      unfold rowSteps rowLines
      split
      · show linesAt level (.line _ :: .indent :: .line _ :: .dedent :: _) = _
        rw [linesAt_line htest]
        show _ :: linesAt (level + 1) (.line _ :: .dedent :: _) = _
        rw [linesAt_line hline]
        rfl
      · exact linesAt_line hline level _

/-- The first line of the function names it and its parameter. -/
theorem signature?_toDict (hints : Bool) :
    signature? (if hints then "def to_dict(self) -> dict:" else "def to_dict(self):").toList =
      some ("to_dict", ["self"]) := by
  cases hints <;> exact (congrArg signature? String.toList_ofList).trans rfl

/-- The lines of the body of the function. -/
def toDictLines (hints : Bool) (values : List (Field × String)) : List Line :=
  ⟨4, (if hints then "result: dict = \x7b\x7d" else "result = \x7b\x7d").toList⟩ ::
    (values.flatMap (rowLines 4) ++ [⟨4, "return result".toList⟩])

/-- The lines that are written for the function. -/
theorem linesAt_toDict (hints : Bool) (h : List.Forall₂ (WritesRow marked) values rows) :
    linesAt 0 (toDictSteps hints values) =
      ⟨0, (if hints then "def to_dict(self) -> dict:" else "def to_dict(self):").toList⟩ ::
        toDictLines hints values := by
  have hheader : StartsDark
      (if hints then "def to_dict(self) -> dict:" else "def to_dict(self):") := by
    split <;> exact startsDark_ofList (by decide)
  have hfirst : StartsDark
      (if hints then "result: dict = \x7b\x7d" else "result = \x7b\x7d") := by
    split <;> exact startsDark_ofList (by decide)
  have hlast : StartsDark "return result" := startsDark_ofList (by decide)
  show linesAt 0 (.line _ :: _) = _
  rw [linesAt_line hheader]
  show _ :: linesAt 1 (.line _ :: (values.flatMap rowSteps ++ [.line "return result"] ++
    [.dedent])) = _
  rw [linesAt_line hfirst, List.append_assoc, linesAt_rows h]
  show _ :: _ :: (_ ++ linesAt 1 (.line "return result" :: [.dedent])) = _
  rw [linesAt_line hlast]
  rfl

/-- They are read as its statements. -/
theorem block?_toDict (hints : Bool) (h : List.Forall₂ (WritesRow marked) values rows) :
    block? (toDictLines hints values).length 4 (toDictLines hints values) =
      some (toDictDefinition rows).body := by
  have hfirst : ReadsLine (if hints then "result: dict = \x7b\x7d" else "result = \x7b\x7d")
      (.assign "result" .emptyDict) := by
    cases hints <;> cbv
  have hlast : ReadsLine "return result" (.return (.name "result")) := by cbv
  have hreturn (n : Nat) (hn : 1 ≤ n) :
      block? n 4 [⟨4, "return result".toList⟩] = some [.return (.name "result")] := by
    obtain ⟨n, rfl⟩ : ∃ k, n = k + 1 := ⟨n - 1, by omega⟩
    rw [block?_cons hlast rfl]
    cases n <;> rfl
  obtain ⟨hinside, hrows⟩ := block?_rows h 4 rfl hreturn
    (n := (values.flatMap (rowLines 4)).length + 1) (Nat.le_refl _)
  rw [toDictLines, List.length_cons, List.length_append, List.length_singleton,
    block?_cons hfirst hinside, hrows]
  rfl

/-- They are indented, and none of them starts a definition. -/
theorem starts_toDict (hints : Bool) (h : List.Forall₂ (WritesRow marked) values rows) :
    ∀ line ∈ toDictLines hints values, 0 < line.column ∧ signature? line.text = none := by
  intro line hline
  rw [toDictLines, List.mem_cons, List.mem_append, List.mem_singleton] at hline
  rcases hline with rfl | hline | rfl
  · refine ⟨Nat.succ_pos 3, ?_⟩
    cases hints <;> exact (congrArg signature? String.toList_ofList).trans rfl
  · obtain ⟨a, ha, hline⟩ := List.mem_flatMap.1 hline
    obtain ⟨row, -, hrow⟩ := exists_of_forall₂ h.flip ha
    have htest : signature? (testText a.1.name).toList = none := by
      refine signature?_eq_none ?_
      rw [testText, String.toList_append, String.toList_append, List.append_assoc]
      exact fun h => by cases h
    have hassign : signature? a.2.toList = none := by
      rw [hrow.chars, List.append_assoc]
      exact signature?_of_name (isName_of_chars rfl rfl rfl rfl) rfl _
    unfold rowLines at hline
    split at hline
    · obtain rfl | hline := List.mem_cons.1 hline
      · exact ⟨Nat.succ_pos 3, htest⟩
      · obtain rfl := List.mem_singleton.1 hline
        exact ⟨Nat.succ_pos 7, hassign⟩
    · obtain rfl := List.mem_singleton.1 hline
      exact ⟨Nat.succ_pos 3, hassign⟩
  · exact ⟨Nat.succ_pos 3, (congrArg signature? String.toList_ofList).trans rfl⟩

/-- The function is read from its lines. -/
theorem find?_toDict (hints : Bool) (h : List.Forall₂ (WritesRow marked) values rows) :
    Definition.find? "to_dict" (linesAt 0 (toDictSteps hints values)) =
      some (toDictDefinition rows) := by
  have hinside : inside 0 (toDictLines hints values) = toDictLines hints values := by
    rw [inside, List.takeWhile_eq_self_iff]
    exact fun line hline => decide_eq_true (starts_toDict hints h line hline).1
  rw [linesAt_toDict hints h, Definition.find?, signature?_toDict]
  show (if "to_dict" = "to_dict" then _ else _) = _
  rw [if_pos rfl]
  show (block? (inside 0 _).length _ (inside 0 _)).map _ = _
  rw [hinside]
  show (block? (toDictLines hints values).length 4 _).map _ = _
  rw [block?_toDict hints h]
  rfl

/-- Nothing else is read from its lines. -/
theorem find?_toDict_of_ne {other : String} (hother : other ≠ "to_dict") (hints : Bool)
    (h : List.Forall₂ (WritesRow marked) values rows) :
    Definition.find? other (linesAt 0 (toDictSteps hints values)) = none := by
  rw [linesAt_toDict hints h, Definition.find?, signature?_toDict]
  show (if "to_dict" = other then _ else _) = _
  rw [if_neg hother.symm, ← List.append_nil (toDictLines hints values),
    find?_append fun line hline => (starts_toDict hints h line hline).2]
  rfl

/-! ## Running -/

variable {P : Program} {v : Value} {table : List (String × Value)} {ρ : Frame}

/-- The function hides no name of the module, `self` stands for its object, and `result` for the
dict that was made so far. -/
structure Filling (P : Program) (v : Value) (table : List (String × Value)) (ρ : Frame) : Prop where
  clear : ρ.Clear P
  object : ρ.locals.lookup "self" = some (.data v)
  result : ρ.locals.lookup "result" = some (.data (.dict table))

/-- An entry is assigned, or left out. -/
def assignEntry (ρ : Frame) (key : String) (w : Option Value) (table : List (String × Value)) :
    Frame :=
  match w with
  | none => ρ
  | some w => ρ.bind "result" (.data (.dict (insertEntry key w table)))

/-- The dict has the entry then. -/
theorem Filling.assignEntry (h : Filling P v table ρ) (hresult : P.global? "result" = none)
    (key : String) (w : Option Value) :
    Filling P v (insertIf key w table) (assignEntry ρ key w table) := by
  cases w with
  | none => exact h
  | some w =>
      exact ⟨h.clear.bind hresult _, (lookup_bind rfl _).trans h.object, List.lookup_cons_self⟩

/-- Running the row assigns what there is to assign, or raises. -/
def Row.Runs (P : Program) (v : Value) (row : Row) (r : Run (Option Value)) : Prop :=
  ∀ table ρ, Filling P v table ρ → Settles (fun n => exec P (P.callWithin n) row.statement ρ)
    (r.map fun w => (assignEntry ρ row.key w table, none))

/-- An entry is assigned what the value stands for. -/
theorem settles_assignItem {key : String} {e : Expr} {r : Run Value} (h : Filling P v table ρ)
    (hevals : Evals P ρ e (r.map .data)) :
    Settles (fun n => exec P (P.callWithin n) (.assignItem "result" (.text key) e) ρ)
      (r.map fun w => (assignEntry ρ key (some w) table, none)) := by
  have hlookup : P.lookup ρ "result" = .ok (.data (.dict table)) := by
    rw [Program.lookup, h.result]
  refine hevals.imp fun n hn => ?_
  show (eval P (P.callWithin n) e ρ >>= fun x => P.lookup ρ "result" >>= fun t =>
    (Except.ok (Entity.data (.str key)) : Run Entity) >>= fun k => _) = _
  rw [hn, hlookup]
  cases r <;> rfl

/-- A row assigns what its attribute is converted to, unless the attribute is missing and may be. -/
theorem Row.runs {row : Row} {a : Run Value} {f : Value → Run Value}
    (hattribute : ∀ table ρ, Filling P v table ρ → Evals P ρ (attributeOf row.name) (a.map .data))
    (hvalue : ∀ table ρ, Filling P v table ρ → Evals P ρ row.value ((a >>= f).map .data)) :
    row.Runs P v (a >>= fun w => if w.isNone && row.optional then .ok none else (f w).map some) := by
  intro table ρ hρ
  have hassign : Settles
      (fun n => exec P (P.callWithin n) (.assignItem "result" (.text row.key) row.value) ρ)
      ((a >>= f).map fun w => (assignEntry ρ row.key (some w) table, none)) :=
    settles_assignItem hρ (hvalue table ρ hρ)
  rw [Row.statement]
  -- Without a test the entry is assigned at once; with one, only if the attribute is not missing.
  cases row.optional with
  | false =>
      refine hassign.imp fun n hn => ?_
      show exec P (P.callWithin n) (.assignItem "result" (.text row.key) row.value) ρ = _
      rw [hn]
      cases a with
      | error stop => rfl
      | ok w =>
          show (f w).map _ = (if w.isNone && false then _ else (f w).map some : Run _).map _
          rw [Bool.and_false]
          cases f w <;> rfl
  | true =>
      refine (hattribute table ρ hρ).imp₂ hassign fun n hn hn' => ?_
      show ((eval P (P.callWithin n) (attributeOf row.name) ρ >>= fun x => _) >>= fun e =>
        Entity.truth e >>= fun b : Bool => if b then execAll P (P.callWithin n)
          [.assignItem "result" (.text row.key) row.value] ρ else pure (ρ, none)) = _
      rw [hn]
      cases a with
      | error stop => rfl
      | ok w =>
          show (if w.isNone != true then
              exec P (P.callWithin n) (.assignItem "result" (.text row.key) row.value) ρ >>= _
            else pure (ρ, none)) = (if w.isNone && true then _ else (f w).map some : Run _).map _
          rw [hn', Bool.and_true]
          cases w.isNone with
          | true => rfl
          | false =>
              show (f w).map _ >>= _ = ((f w).map some).map _
              cases f w <;> rfl

/-- Rows are run one by one, and then the dict is given back. -/
theorem settles_rows (hresult : P.global? "result" = none) {results : List (Run (Option Value))}
    (h : List.Forall₂ (Row.Runs P v) rows results) (hρ : Filling P v table ρ) :
    Settles (fun n => execAll P (P.callWithin n)
        (rows.map Row.statement ++ [.return (.name "result")]) ρ >>=
          fun behind => pure (behind.2.getD (.data .none)))
      ((results.mapM id).map fun ws => .data (.dict (((rows.map Row.key).zip ws).foldl
        (fun table entry => insertIf entry.1 entry.2 table) table))) := by
  induction h generalizing table ρ with
  | nil =>
      have hlookup : P.lookup ρ "result" = .ok (.data (.dict table)) := by
        rw [Program.lookup, hρ.result]
      refine Settles.imp (settles_const ()) fun n _ => ?_
      show ((((P.lookup ρ "result" >>= fun e => pure (ρ, some e)) >>= _) : Run (Frame × _)) >>= _)
        = _
      rw [hlookup]
      rfl
  | @cons row r rows results hrow _ ih =>
      simp only [List.map_cons, List.cons_append, execAll_cons, List.mapM_cons]
      cases r with
      | error stop =>
          refine (hrow table ρ hρ).imp fun n hn => ?_
          rw [hn]
          rfl
      | ok w =>
          -- The next row finds the dict as this one has left it.
          refine (hrow table ρ hρ).imp₂ (ih (hρ.assignEntry hresult row.key w)) fun n hn hn' => ?_
          rw [hn]
          refine Eq.trans hn' ?_
          show _ = Except.map _ (results.mapM id >>= fun ws => pure (w :: ws))
          cases results.mapM id <;> rfl

/-- The function assigns its result, and nothing else. -/
theorem assignedIn_toDictDefinition (rows : List Row) :
    assignedIn (toDictDefinition rows).body = ["result"] := by
  have hrows : assignedIn (rows.map Row.statement ++ [.return (.name "result")]) = [] := by
    induction rows with
    | nil => rfl
    | cons row rows ih =>
        have hrow : row.statement.assigned = [] := by
          rw [Row.statement]
          cases row.optional <;> rfl
        show row.statement.assigned ++ assignedIn (rows.map Row.statement ++ _) = []
        rw [hrow, ih]
        rfl
  show "result" :: assignedIn (rows.map Row.statement ++ [.return (.name "result")]) = _
  rw [hrows]

/-- A call of the function makes a dict of what the attributes are converted to. -/
theorem calls_toDictDefinition (hself : P.global? "self" = none)
    (hresult : P.global? "result" = none) {results : List (Run (Option Value))}
    (h : List.Forall₂ (Row.Runs P v) rows results) :
    Calls P (.method v (.defined (toDictDefinition rows))) []
      ((results.mapM id).map fun ws => .data (.dict (((rows.map Row.key).zip ws).foldl
        (fun table entry => insertIf entry.1 entry.2 table) []))) := by
  let ρ : Frame := ⟨[("self", .data v)], ["result"]⟩
  have hρ : ρ.Clear P := by
    refine clear_of_names ?_ (List.forall_mem_singleton.2 hresult)
    rintro _ (_ | ⟨_, ⟨⟩⟩)
    exact hself
  have hfilling : Filling P v [] (ρ.bind "result" (.data (.dict []))) :=
    ⟨hρ.bind hresult _, rfl, rfl⟩
  refine Calls.of_step ((settles_rows hresult h hfilling).imp fun n hn => ?_)
  have hstep : P.callStep (P.callWithin n) (.method v (.defined (toDictDefinition rows))) [] =
      (toDictDefinition rows).run P (P.callWithin n) [.data v] := by
    cases v <;> rfl
  have hframe : (⟨(toDictDefinition rows).parameters.zip [.data v],
      assignedIn (toDictDefinition rows).body⟩ : Frame) = ρ :=
    congrArg (Frame.mk _) (assignedIn_toDictDefinition rows)
  rw [hstep, Definition.run, if_neg (by simp [toDictDefinition])]
  dsimp only
  rw [hframe]
  exact hn

end TypedJson.Code
