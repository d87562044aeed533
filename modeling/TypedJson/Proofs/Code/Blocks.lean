import Mathlib.Data.List.DropRight
import TypedJson.Code.Layout

/-!
# The rows of a laid out module

Steps write lines and ask for blank ones at the place where writing stands: in a region, at a level
of indentation (`heldIn`). Each region becomes a block of rows, its lines with as many blank ones
between them as the largest request there (`IsBlock`). Read `layout_blocks` first: the rows of a
module are the blocks of its regions in order, two blank rows apart, and no block begins or ends
with a blank row.
-/

namespace TypedJson.Code

/-! ## Where steps write -/

/-- Where writing stands behind a step. -/
def Step.move : Step → Region × Nat → Region × Nat
  | .enter region, _ => (region, 0)
  | .indent, place => (place.1, place.2 + 1)
  | .dedent, place => (place.1, place.2 - 1)
  | .line _, place => place
  | .blank _, place => place

/-- What a step writes at a level. -/
def Step.held? (level : Nat) : Step → Option Entry
  | .line text => some (.line level text)
  | .blank count => some (.blank count)
  | _ => none

/-- Where writing stands behind steps. It starts in the header. -/
def placeAfter (steps : List Step) : Region × Nat :=
  steps.foldl (fun place step => step.move place) (.header, 0)

/-- What steps write while they stand in a region: what each of them writes at the place behind the
steps in front of it. -/
def heldIn (region : Region) (steps : List Step) : List Entry :=
  steps.zipIdx.filterMap fun s =>
    let place := placeAfter (steps.take s.2)
    if place.1 = region then s.1.held? place.2 else none

variable {steps : List Step} {region : Region} {imports : Imports}

/-- Steps behind others write from where those stand. -/
theorem entriesFrom_append (region : Region) (level : Nat) (steps others : List Step) :
    entriesFrom region level (steps ++ others) = entriesFrom region level steps ++
      entriesFrom (steps.foldl (fun place step => step.move place) (region, level)).1
        (steps.foldl (fun place step => step.move place) (region, level)).2 others := by
  induction steps generalizing region level with
  | nil => rfl
  | cons step steps ih =>
      cases step with
      | enter other => exact ih other 0
      | line text => exact congrArg (_ :: ·) (ih region level)
      | blank count => exact congrArg (_ :: ·) (ih region level)
      | indent => exact ih region (level + 1)
      | dedent => exact ih region (level - 1)

/-- One more step writes at the place behind the others. -/
theorem heldIn_concat (region : Region) (steps : List Step) (step : Step) :
    heldIn region (steps ++ [step]) = heldIn region steps ++
      (if (placeAfter steps).1 = region then step.held? (placeAfter steps).2
        else none).toList := by
  have hfront : ∀ s ∈ steps.zipIdx, (steps ++ [step]).take s.2 = steps.take s.2 := fun s hs =>
    List.take_append_of_le_length (Nat.le_of_lt (List.snd_lt_of_mem_zipIdx hs))
  have hlast : (steps ++ [step]).take steps.length = steps := List.take_left
  unfold heldIn
  rw [List.zipIdx_append, List.filterMap_append, Nat.zero_add, List.zipIdx_singleton]
  congr 1
  · exact List.filterMap_congr fun s hs => by rw [hfront s hs]
  · rw [List.filterMap_cons, hlast]
    split
    next hnone => exact (congrArg Option.toList hnone).symm
    next entry hsome => exact (congrArg Option.toList hsome).symm

/-- The entries of a region are what is written while steps stand in it. -/
theorem filter_entries (region : Region) (steps : List Step) :
    ((entries steps).filter fun e => e.1 = region).map Prod.snd = heldIn region steps := by
  induction steps using List.reverseRecOn with
  | nil => rfl
  | append_singleton steps step ih =>
      unfold entries at ih ⊢
      rw [entriesFrom_append, heldIn_concat, List.filter_append, List.map_append, ih]
      congr 1
      show _ = (if (placeAfter steps).1 = region then step.held? (placeAfter steps).2
        else none).toList
      unfold placeAfter
      generalize steps.foldl (fun place step => step.move place) (Region.header, 0) = place
      by_cases hplace : place.1 = region
      · cases step <;> simp [entriesFrom, Step.held?, hplace]
      · cases step <;> simp [entriesFrom, hplace]

/-! ## Blocks -/

/-- A line with the requests for blank ones that stand in front of it. -/
structure Stretch where
  requests : List Nat
  level : Nat
  text : String

namespace Stretch

/-- The entries of a stretch. -/
def entries (p : Stretch) : List Entry :=
  p.requests.map .blank ++ [.line p.level p.text]

/-- The line of a stretch with its indentation. -/
def row (p : Stretch) : String :=
  indentLine p.level p.text

/-- The largest of the requests. -/
def gap (p : Stretch) : Nat :=
  p.requests.foldl max 0

end Stretch

/-- The lines of stretches, with blank ones between them. -/
def spaced : List Stretch → List String
  | [] => []
  | first :: rest => first.row :: rest.flatMap fun p => List.replicate p.gap "" ++ [p.row]

/-- The block is what becomes of the entries: their lines up to the last one that is not empty, with
as many blank rows between a line and the next as the largest request between them. -/
def IsBlock (held : List Entry) (block : List String) : Prop :=
  ∃ (stretches : List Stretch) (trailing : List Nat),
    held = stretches.flatMap Stretch.entries ++ trailing.map .blank ∧
      block = spaced (stretches.rdropWhile fun p => p.text = "")

/-- Entries consist of stretches, with requests behind the last line. -/
theorem exists_stretches (held : List Entry) : ∃ (stretches : List Stretch) (trailing : List Nat),
    held = stretches.flatMap Stretch.entries ++ trailing.map .blank := by
  induction held with
  | nil => exact ⟨[], [], rfl⟩
  | cons entry held ih =>
      obtain ⟨stretches, trailing, rfl⟩ := ih
      cases entry with
      | line level text => exact ⟨⟨[], level, text⟩ :: stretches, trailing, rfl⟩
      | blank count =>
          cases stretches with
          | nil => exact ⟨[], count :: trailing, rfl⟩
          | cons p stretches =>
              exact ⟨⟨count :: p.requests, p.level, p.text⟩ :: stretches, trailing, rfl⟩

/-- The largest request is pending behind requests. -/
theorem linesFrom_requests (started : Bool) (pending : Nat) (requests : List Nat)
    (held : List Entry) : linesFrom started pending (requests.map .blank ++ held) =
      linesFrom started (requests.foldl max pending) held := by
  induction requests generalizing pending with
  | nil => rfl
  | cons count requests ih => exact ih (max pending count)

/-- Requests behind the last line are not answered. -/
theorem linesFrom_trailing (started : Bool) (pending : Nat) (trailing : List Nat) :
    linesFrom started pending (trailing.map .blank) = [] := by
  rw [← List.append_nil (trailing.map Entry.blank), linesFrom_requests]
  rfl

/-- Behind a line, each line is written behind as many blank ones as the largest request. -/
theorem linesFrom_stretches (stretches : List Stretch) (trailing : List Nat) :
    linesFrom true 0 (stretches.flatMap Stretch.entries ++ trailing.map .blank) =
      stretches.flatMap fun p => List.replicate p.gap "" ++ [p.row] := by
  induction stretches with
  | nil => exact linesFrom_trailing true 0 trailing
  | cons p stretches ih =>
      rw [List.flatMap_cons, List.flatMap_cons, List.append_assoc, Stretch.entries,
        List.append_assoc, linesFrom_requests, ← ih, List.append_assoc]
      rfl

/-- The lines of entries are those of their stretches. -/
theorem linesFrom_eq_spaced (stretches : List Stretch) (trailing : List Nat) :
    linesFrom false 0 (stretches.flatMap Stretch.entries ++ trailing.map .blank) =
      spaced stretches := by
  cases stretches with
  | nil => exact linesFrom_trailing false 0 trailing
  | cons first stretches =>
      rw [List.flatMap_cons, List.append_assoc, Stretch.entries, List.append_assoc,
        linesFrom_requests]
      exact congrArg (_ :: ·) (linesFrom_stretches stretches trailing)

/-- A line is empty with its indentation only if it is empty. -/
theorem indentLine_eq_empty {level : Nat} {text : String} :
    indentLine level text = "" ↔ text = "" := by
  unfold indentLine
  split
  next h => exact iff_of_true rfl h
  next h =>
    refine iff_of_false (fun heq => h ?_) h
    exact (String.append_eq_empty_iff.1 heq).2

/-- One more stretch is written behind the others, if there are any. -/
theorem spaced_concat (stretches : List Stretch) (p : Stretch) :
    spaced (stretches ++ [p]) =
      spaced stretches ++ List.replicate (if stretches = [] then 0 else p.gap) "" ++ [p.row] := by
  cases stretches with
  | nil => rfl
  | cons first stretches =>
      show first.row :: (stretches ++ [p]).flatMap _ = _
      rw [List.flatMap_append, List.flatMap_singleton, if_neg (List.cons_ne_nil first stretches),
        List.append_assoc]
      rfl

/-- The empty lines at the end are dropped. -/
theorem dropLastEmpty_eq (lines : List String) :
    dropLastEmpty lines = lines.rdropWhile fun line => line = "" :=
  rfl

/-- Dropping the empty lines at the end drops the stretches of empty lines. -/
theorem dropLastEmpty_spaced (stretches : List Stretch) :
    dropLastEmpty (spaced stretches) = spaced (stretches.rdropWhile fun p => p.text = "") := by
  rw [dropLastEmpty_eq]
  induction stretches using List.reverseRecOn with
  | nil => rfl
  | append_singleton stretches p ih =>
      rw [spaced_concat]
      by_cases hempty : p.text = ""
      · have hrow : p.row = "" := indentLine_eq_empty.2 hempty
        have hblank (n : Nat) : (spaced stretches ++ List.replicate n "").rdropWhile (· = "") =
            (spaced stretches).rdropWhile (· = "") := by
          induction n with
          | zero => rw [List.replicate_zero, List.append_nil]
          | succ n ihn =>
              rw [List.replicate_succ', ← List.append_assoc,
                List.rdropWhile_concat_pos _ _ _ (by simp), ihn]
        rw [List.rdropWhile_concat_pos _ _ _ (by simpa using hrow), hblank, ih,
          List.rdropWhile_concat_pos _ _ _ (by simpa using hempty)]
      · have hrow : p.row ≠ "" := fun h => hempty (indentLine_eq_empty.1 h)
        rw [List.rdropWhile_concat_neg _ _ _ (by simpa using hrow),
          List.rdropWhile_concat_neg _ _ _ (by simpa using hempty), spaced_concat]

/-- The lines of a region are laid out as a block. -/
theorem isBlock_lines (held : List Entry) :
    IsBlock held (dropLastEmpty (linesFrom false 0 held)) := by
  obtain ⟨stretches, trailing, rfl⟩ := exists_stretches held
  exact ⟨stretches, trailing, rfl, by rw [linesFrom_eq_spaced, dropLastEmpty_spaced]⟩

/-! ## The rows of a block -/

/-- The lines among entries that are not empty, each behind four spaces for each of its levels. -/
def writtenRows (held : List Entry) : List String :=
  held.filterMap fun
    | .line level text => if text = "" then none else some (indentation level ++ text)
    | .blank _ => none

/-- The text of the first line among entries, if there is one. -/
def firstLine? (held : List Entry) : Option String :=
  held.findSome? fun
    | .line _ text => some text
    | .blank _ => none

variable {held : List Entry} {block : List String}

/-- What holds of the lines of entries and of an empty line holds of all rows. -/
theorem forall_linesFrom {P : String → Prop} (hempty : P "")
    (h : ∀ level text, .line level text ∈ held → P (indentLine level text)) (started : Bool)
    (pending : Nat) : ∀ row ∈ linesFrom started pending held, P row := by
  induction held generalizing started pending with
  | nil => exact List.forall_mem_nil _
  | cons entry held ih =>
      have hheld := fun level text hmem => h level text (List.mem_cons_of_mem entry hmem)
      cases entry with
      | blank count => exact ih hheld started _
      | line level text =>
          have hline := h level text List.mem_cons_self
          refine List.forall_mem_append.2 ⟨fun row hrow => ?_,
            List.forall_mem_cons.2 ⟨hline, ih hheld true 0⟩⟩
          split at hrow
          · rwa [List.eq_of_mem_replicate hrow]
          · cases hrow

/-- The rows that are not empty are the lines that are not. -/
theorem filter_linesFrom (held : List Entry) (started : Bool) (pending : Nat) :
    (linesFrom started pending held).filter (· ≠ "") = writtenRows held := by
  induction held generalizing started pending with
  | nil => rfl
  | cons entry held ih =>
      cases entry with
      | blank count => exact ih started _
      | line level text =>
          have hblank :
              (if started then List.replicate pending "" else []).filter (· ≠ "") = [] := by
            split
            · exact List.filter_replicate_of_neg (by simp)
            · rfl
          show ((if started then List.replicate pending "" else []) ++ _ :: _).filter _ = _
          rw [List.filter_append, hblank, List.nil_append, writtenRows, List.filterMap_cons]
          by_cases hempty : text = ""
          · rw [List.filter_cons_of_neg (by simp [indentLine, hempty]), ih]
            simp only [hempty, if_true]
            rfl
          · rw [List.filter_cons_of_pos (by simpa using mt indentLine_eq_empty.1 hempty), ih]
            simp only [indentLine, hempty, if_false]
            rfl

/-- Dropping empty lines keeps the others. -/
theorem filter_dropLastEmpty (lines : List String) :
    (dropLastEmpty lines).filter (· ≠ "") = lines.filter (· ≠ "") := by
  conv_rhs => rw [← List.rdropWhile_append_rtakeWhile (p := fun line => line = "") (l := lines)]
  have hdropped : (lines.rtakeWhile fun line => line = "").filter (· ≠ "") = [] := by
    refine List.filter_eq_nil_iff.2 fun line hline => ?_
    simpa using List.mem_rtakeWhile_imp hline
  rw [List.filter_append, hdropped, List.append_nil]
  rfl

/-- The last row that is kept is not empty. -/
theorem getLast?_dropLastEmpty (lines : List String) :
    (dropLastEmpty lines).getLast? ≠ some "" := by
  rw [dropLastEmpty_eq]
  intro h
  have hne : (lines.rdropWhile fun line => line = "") ≠ [] := by
    intro hnil
    rw [hnil] at h
    cases h
  have hlast := List.rdropWhile_last_not (fun line => decide (line = "")) lines hne
  rw [List.getLast?_eq_some_getLast hne] at h
  exact hlast (decide_eq_true (Option.some.inj h))

/-- The first row is the first line, which is not empty. -/
theorem IsBlock.head? (h : IsBlock held block) (hfirst : firstLine? held ≠ some "") :
    block.head? ≠ some "" := by
  obtain ⟨stretches, trailing, rfl, rfl⟩ := h
  cases stretches with
  | nil => exact nofun
  | cons first stretches =>
      have hline : firstLine?
          ((first :: stretches).flatMap Stretch.entries ++ trailing.map .blank) =
            some first.text := by
        have hnone : (first.requests.map Entry.blank).findSome? (fun
            | .line _ text => some text
            | .blank _ => none) = (none : Option String) :=
          List.findSome?_eq_none_iff.2 (List.forall_mem_map.2 fun _ _ => rfl)
        rw [firstLine?, List.flatMap_cons, Stretch.entries, List.append_assoc, List.append_assoc,
          List.findSome?_append, hnone]
        rfl
      rw [hline] at hfirst
      obtain ⟨kept, hkept⟩ : ∃ kept,
          (first :: stretches).rdropWhile (fun p => p.text = "") = first :: kept := by
        have hlist := List.rdropWhile_prefix (fun p => decide (p.text = "")) (first :: stretches)
        cases hcase : (first :: stretches).rdropWhile (fun p => p.text = "") with
        | nil =>
            have hall := List.rdropWhile_eq_nil_iff.1 hcase first List.mem_cons_self
            exact absurd (congrArg some (of_decide_eq_true hall)) hfirst
        | cons p kept =>
            rw [hcase, List.cons_prefix_cons] at hlist
            exact ⟨kept, by rw [hlist.1]⟩
      rw [hkept]
      exact fun hrow => hfirst (congrArg some (indentLine_eq_empty.1 (Option.some.inj hrow)))

/-! ## Import statements -/

/-- Without indentation, a line is written as it is. -/
theorem indentLine_zero (text : String) : indentLine 0 text = text := by
  unfold indentLine
  split
  next h => exact h.symm
  next => exact String.empty_append

/-- No import statement is an empty line. -/
theorem importLine_ne_empty (imports : Imports) : ∀ text ∈ imports.lines, text ≠ "" := by
  refine List.forall_mem_append.2 ⟨List.forall_mem_map.2 fun entry _ => ?_,
    List.forall_mem_map.2 fun module _ => ?_⟩
  · simp [String.append_eq_empty_iff]
  · simp [String.append_eq_empty_iff]

/-- The block of the imports consists of the import statements. -/
theorem lines_imports (imports : Imports) :
    dropLastEmpty (linesFrom false 0 (imports.lines.map (.line 0))) = imports.lines := by
  have hlines (started : Bool) (texts : List String) :
      linesFrom started 0 (texts.map (.line 0)) = texts := by
    induction texts generalizing started with
    | nil => rfl
    | cons text texts ih =>
        show (if started then [] else []) ++ indentLine 0 text :: linesFrom true 0 _ = _
        rw [ite_self, List.nil_append, indentLine_zero, ih]
  rw [hlines, dropLastEmpty_eq, List.rdropWhile_eq_self_iff]
  exact fun hne => by simpa using importLine_ne_empty imports _ (List.getLast_mem hne)

/-! ## The rows of a module -/

/-- The rows of a text: what stands between its line feeds. -/
def rowsOf (text : String) : List String :=
  (text.toList.splitOn '\n').map String.ofList

/-- Rows without line feeds are read back from their text. -/
theorem rowsOf_intercalate {rows : List String} (hrows : ∀ row ∈ rows, '\n' ∉ row.toList)
    (hne : rows ≠ []) : rowsOf ("\n".intercalate rows) = rows := by
  have hmap : rows.map String.toList ≠ [] := by simpa using hne
  unfold rowsOf
  rw [String.toList_intercalate, show "\n".toList = ['\n'] from rfl,
    List.splitOn_intercalate _ (List.forall_mem_map.2 hrows) hmap, List.map_map]
  exact (List.map_congr_left fun row _ => String.ofList_toList).trans (List.map_id rows)

/-- Blocks with two blank rows between them. -/
def stacked (blocks : List (List String)) : List String :=
  ["", ""].intercalate blocks

/-- One more block stands two blank rows above the others. -/
theorem stacked_cons_cons (first second : List String) (blocks : List (List String)) :
    stacked (first :: second :: blocks) = first ++ ["", ""] ++ stacked (second :: blocks) :=
  List.intercalate_cons_cons

variable {blocks : List (List String)}

/-- A block that is not empty leaves rows. -/
theorem stacked_ne_nil {first : List String} (h : first ≠ []) :
    stacked (first :: blocks) ≠ [] := by
  cases blocks with
  | nil => rwa [stacked, List.intercalate_singleton]
  | cons second blocks =>
      rw [stacked_cons_cons]
      simp [h]

/-- Texts of blocks, two blank lines apart, are the text of the stacked blocks. -/
theorem intercalate_blocks (h : ∀ block ∈ blocks, block ≠ []) :
    "\n\n\n".intercalate (blocks.map "\n".intercalate) = "\n".intercalate (stacked blocks) := by
  induction blocks with
  | nil => rfl
  | cons first blocks ih =>
      obtain ⟨hfirst, hblocks⟩ := List.forall_mem_cons.1 h
      cases blocks with
      | nil => exact (congrArg "\n".intercalate List.intercalate_singleton).symm
      | cons second blocks =>
          have hrest : stacked (second :: blocks) ≠ [] :=
            stacked_ne_nil (hblocks second List.mem_cons_self)
          rw [stacked_cons_cons, List.append_assoc,
            String.intercalate_append_of_ne_nil hfirst (by simp),
            String.intercalate_append_of_ne_nil (by simp) hrest, ← ih hblocks, List.map_cons,
            List.map_cons, String.intercalate_cons_cons]
          simp only [String.append_assoc]
          rfl

/-- The rows of stacked blocks that are not empty are those of the blocks. -/
theorem filter_stacked (blocks : List (List String)) :
    (stacked blocks).filter (· ≠ "") = blocks.flatMap (·.filter (· ≠ "")) := by
  induction blocks with
  | nil => rfl
  | cons first blocks ih =>
      cases blocks with
      | nil => rw [stacked, List.intercalate_singleton, List.flatMap_singleton]
      | cons second blocks =>
          rw [stacked_cons_cons, List.filter_append, List.filter_append, ih, List.append_assoc]
          rfl

/-- Blocks without rows leave none. -/
theorem flatMap_filter_shown (blocks : List (List String)) (p : String → Bool) :
    (blocks.filter (· ≠ [])).flatMap (·.filter p) = blocks.flatMap (·.filter p) := by
  induction blocks with
  | nil => rfl
  | cons first blocks ih =>
      cases first with
      | nil => exact ih
      | cons row first =>
          rw [List.filter_cons_of_pos (by simp), List.flatMap_cons, List.flatMap_cons, ih]

/-- Rows that hold what an empty row does are stacked from such rows. -/
theorem forall_stacked {P : String → Prop} (hempty : P "")
    (h : ∀ block ∈ blocks, ∀ row ∈ block, P row) : ∀ row ∈ stacked blocks, P row := by
  induction blocks with
  | nil => exact List.forall_mem_nil _
  | cons first blocks ih =>
      obtain ⟨hfirst, hblocks⟩ := List.forall_mem_cons.1 h
      cases blocks with
      | nil => rwa [stacked, List.intercalate_singleton]
      | cons second blocks =>
          rw [stacked_cons_cons]
          exact List.forall_mem_append.2 ⟨List.forall_mem_append.2 ⟨hfirst, by simpa using hempty⟩,
            ih hblocks⟩

/-- The last row is that of the last block. -/
theorem getLast?_stacked (h : ∀ block ∈ blocks, block ≠ [] ∧ block.getLast? ≠ some "") :
    (stacked blocks).getLast? ≠ some "" := by
  induction blocks with
  | nil => exact nofun
  | cons first blocks ih =>
      obtain ⟨hfirst, hblocks⟩ := List.forall_mem_cons.1 h
      cases blocks with
      | nil =>
          rw [stacked, List.intercalate_singleton]
          exact hfirst.2
      | cons second blocks =>
          have hrest : stacked (second :: blocks) ≠ [] :=
            stacked_ne_nil (hblocks second List.mem_cons_self).1
          rw [stacked_cons_cons, List.getLast?_append_of_ne_nil _ hrest]
          exact ih hblocks

/-- A text of rows ends as its last row does. -/
theorem getLast?_intercalate {rows : List String} (hrows : ∀ row ∈ rows, '\n' ∉ row.toList)
    (hlast : rows.getLast? ≠ some "") : ("\n".intercalate rows).toList.getLast? ≠ some '\n' := by
  induction rows using List.reverseRecOn with
  | nil => exact nofun
  | append_singleton rows row ih =>
      have hne : row.toList ≠ [] := fun h => hlast (by
        rw [List.getLast?_concat, String.toList_eq_nil_iff.1 h])
      have hrow : row.toList.getLast? ≠ some '\n' := fun h =>
        hrows row (List.mem_append_right _ List.mem_cons_self) (List.mem_of_getLast? h)
      by_cases hrest : rows = []
      · rw [hrest, List.nil_append, String.intercalate_singleton]
        exact hrow
      · rw [String.intercalate_append_of_ne_nil hrest (by simp), String.toList_append,
          String.intercalate_singleton, List.getLast?_append_of_ne_nil _ hne]
        exact hrow

/-- A text is empty only if it has no rows, provided that the first one is not. -/
theorem intercalate_eq_empty (h : block.head? ≠ some "") :
    "\n".intercalate block = "" ↔ block = [] := by
  refine ⟨fun heq => ?_, fun heq => heq ▸ rfl⟩
  cases block with
  | nil => rfl
  | cons first block =>
      have hfirst : first = "" := by
        cases block with
        | nil => rwa [String.intercalate_singleton] at heq
        | cons second block =>
            rw [String.intercalate_cons_cons, String.append_eq_empty_iff,
              String.append_eq_empty_iff] at heq
            exact heq.1.1
      exact absurd (congrArg some hfirst) h

/-! ## The law of layout -/

/-- The rows that a region is laid out with. -/
def blockOf (steps : List Step) (imports : Imports) (region : Region) : List String :=
  dropLastEmpty (linesFrom false 0 (regionEntries imports (entries steps) region))

/-- The block of the imports consists of the import statements. -/
theorem blockOf_imports : blockOf steps imports .imports = imports.lines :=
  lines_imports imports

/-- The block of another region is laid out from what is written there. -/
theorem blockOf_of_ne (h : region ≠ .imports) :
    blockOf steps imports region = dropLastEmpty (linesFrom false 0 (heldIn region steps)) := by
  rw [blockOf, regionEntries, if_neg h, filter_entries]

/-- What is written in a region are lines of the steps. -/
theorem line_mem_of_heldIn {level : Nat} {text : String}
    (h : .line level text ∈ heldIn region steps) : .line text ∈ steps := by
  obtain ⟨⟨step, index⟩, hmem, hentry⟩ := List.mem_filterMap.1 h
  have hstep := List.fst_mem_of_mem_zipIdx hmem
  dsimp only at hentry
  split at hentry
  · cases step <;> cases hentry
    exact hstep
  · cases hentry

/-- Rows are without line feeds if lines and imports are. -/
theorem blockOf_without_feeds (hlines : ∀ text, .line text ∈ steps → '\n' ∉ text.toList)
    (himports : ∀ text ∈ imports.lines, '\n' ∉ text.toList) (region : Region) :
    ∀ row ∈ blockOf steps imports region, '\n' ∉ row.toList := by
  by_cases hregion : region = .imports
  · rw [hregion, blockOf_imports]
    exact himports
  · rw [blockOf_of_ne hregion]
    intro row hrow
    have hmem := (List.rdropWhile_prefix (fun line => decide (line = "")) _).subset hrow
    refine forall_linesFrom (P := fun row => '\n' ∉ row.toList) (by simp)
      (fun level text hline => ?_) false 0 row hmem
    unfold indentLine
    split
    · simp
    · rw [String.toList_append, List.mem_append, not_or, indentation, String.toList_ofList]
      refine ⟨fun hspace => ?_, hlines text (line_mem_of_heldIn hline)⟩
      exact absurd (List.eq_of_mem_replicate hspace) (by decide)

/-- No block begins or ends with an empty row, if no region begins with an empty line. -/
theorem blockOf_ends (hfirst : region ≠ .imports → firstLine? (heldIn region steps) ≠ some "") :
    (blockOf steps imports region).head? ≠ some "" ∧
      (blockOf steps imports region).getLast? ≠ some "" := by
  by_cases hregion : region = .imports
  · rw [hregion, blockOf_imports]
    exact ⟨fun h => importLine_ne_empty imports _ (List.mem_of_mem_head? h) rfl,
      fun h => importLine_ne_empty imports _ (List.mem_of_getLast? h) rfl⟩
  · rw [blockOf_of_ne hregion]
    exact ⟨(isBlock_lines _).head? (hfirst hregion), getLast?_dropLastEmpty _⟩

/-- The text of a module is that of its stacked blocks, and a line feed. -/
theorem layout_eq (h : ∀ region, (blockOf steps imports region).head? ≠ some "") :
    layout steps imports = "\n".intercalate
      (stacked ((Region.all.map (blockOf steps imports)).filter (· ≠ []))) ++ "\n" := by
  have htexts : (Region.all.map fun region =>
      regionText (regionEntries imports (entries steps) region)).filter (· ≠ "") =
      ((Region.all.map (blockOf steps imports)).filter (· ≠ [])).map "\n".intercalate := by
    show (Region.all.map ("\n".intercalate ∘ blockOf steps imports)).filter _ = _
    rw [← List.map_map, List.filter_map]
    refine congrArg _ (List.filter_congr fun block hblock => ?_)
    obtain ⟨region, -, rfl⟩ := List.mem_map.1 hblock
    exact decide_eq_decide.2 (not_congr (intercalate_eq_empty (h region)))
  rw [layout, htexts, intercalate_blocks]
  intro block hblock
  simpa using (List.mem_filter.1 hblock).2

/-- The rows of a module are the blocks of its regions in order, two blank rows apart. The block of
the imports consists of the import statements; any other holds the lines that are written while
steps stand in its region, up to the last one that is not empty, with as many blank rows between two
lines as the largest request between them. So every line that is not empty stands in the module
once, in order and at the level where it was written. No block begins or ends with an empty row, and
the text ends in one line feed. -/
theorem layout_blocks (hlines : ∀ text, .line text ∈ steps → '\n' ∉ text.toList)
    (himports : ∀ text ∈ imports.lines, '\n' ∉ text.toList)
    (hfirst : ∀ region, region ≠ .imports → firstLine? (heldIn region steps) ≠ some "") :
    ∃ block : Region → List String,
      block .imports = imports.lines ∧
      (∀ region, region ≠ .imports → IsBlock (heldIn region steps) (block region)) ∧
      (∀ region, (block region).head? ≠ some "" ∧ (block region).getLast? ≠ some "") ∧
      let rows := stacked ((Region.all.map block).filter (· ≠ []))
      rowsOf (layout steps imports) = (if rows = [] then [""] else rows) ++ [""] ∧
        rows.filter (· ≠ "") = Region.all.flatMap (fun region =>
          if region = .imports then imports.lines else writtenRows (heldIn region steps)) ∧
        ∃ front, layout steps imports = front ++ "\n" ∧ front.toList.getLast? ≠ some '\n' := by
  have hends (region : Region) : (blockOf steps imports region).head? ≠ some "" ∧
      (blockOf steps imports region).getLast? ≠ some "" := blockOf_ends (hfirst region)
  have hlayout := layout_eq fun region => (hends region).1
  have hrows : ∀ row ∈ stacked ((Region.all.map (blockOf steps imports)).filter (· ≠ [])),
      '\n' ∉ row.toList := by
    refine forall_stacked (P := fun row => '\n' ∉ row.toList) (by simp) fun block hblock => ?_
    obtain ⟨region, -, rfl⟩ := List.mem_map.1 (List.mem_filter.1 hblock).1
    exact blockOf_without_feeds hlines himports region
  have hlast : (stacked ((Region.all.map (blockOf steps imports)).filter (· ≠ []))).getLast? ≠
      some "" := by
    refine getLast?_stacked fun block hblock => ?_
    obtain ⟨hmem, hne⟩ := List.mem_filter.1 hblock
    obtain ⟨region, -, rfl⟩ := List.mem_map.1 hmem
    exact ⟨by simpa using hne, (hends region).2⟩
  refine ⟨blockOf steps imports, blockOf_imports, fun region hregion => ?_, hends, ?_, ?_, _,
    hlayout, getLast?_intercalate hrows hlast⟩
  · rw [blockOf_of_ne hregion]
    exact isBlock_lines _
  · rw [hlayout]
    split
    next hnil => rw [hnil]; decide +kernel
    next hne =>
      have htext := String.intercalate_append_of_ne_nil (s := "\n") hne (List.cons_ne_nil "" [])
      rw [String.intercalate_singleton, String.append_empty] at htext
      rw [← htext]
      exact rowsOf_intercalate (List.forall_mem_append.2 ⟨hrows, by simp⟩) (by simp)
  · rw [filter_stacked, flatMap_filter_shown, List.flatMap_map]
    refine List.flatMap_congr fun region _ => ?_
    split
    next himport =>
      rw [himport, blockOf_imports, List.filter_eq_self]
      exact fun row hrow => by simpa using importLine_ne_empty imports row hrow
    next hregion => rw [blockOf_of_ne hregion, filter_dropLastEmpty, filter_linesFrom]

/-- Two classes that are written in turns with a function are laid out apart from it: the first one
ends with the larger request and an empty line, the second one without any. -/
theorem layout_blocks_in_turns :
    let steps : List Step := [.blank 2, .line "# Notes", .enter .classes, .line "class A:", .indent,
      .line "pass", .blank 1, .enter .topLevels, .line "f()", .enter .classes, .blank 2, .line "",
      .line "class B:", .dedent, .indent, .line "pass", .blank 1, .line ""]
    let imports : Imports := ⟨[("typing", ["Any"])], ["json"]⟩
    (∀ text, .line text ∈ steps → '\n' ∉ text.toList) ∧
      (∀ text ∈ imports.lines, '\n' ∉ text.toList) ∧
      (∀ region, region ≠ .imports → firstLine? (heldIn region steps) ≠ some "") ∧
      layout steps imports = "# Notes\n\n\nfrom typing import Any\nimport json\n\n\n" ++
        "class A:\n    pass\n\n\n\nclass B:\n    pass\n\n\nf()\n" ∧
      ∃ block : Region → List String, IsBlock (heldIn .classes steps) (block .classes) ∧
        let rows := stacked ((Region.all.map block).filter (· ≠ []))
        rowsOf (layout steps imports) = (if rows = [] then [""] else rows) ++ [""] ∧
          rows.filter (· ≠ "") = ["# Notes", "from typing import Any", "import json", "class A:",
            "    pass", "class B:", "    pass", "f()"] := by
  intro steps imports
  have hlines : ∀ text, .line text ∈ steps → '\n' ∉ text.toList := by
    intro text htext
    have hall : steps.all fun
        | .line text => !text.toList.contains '\n'
        | _ => true := by decide +kernel
    simpa using List.all_eq_true.1 hall _ htext
  have himports : ∀ text ∈ imports.lines, '\n' ∉ text.toList := by decide +kernel
  have hfirst : ∀ region, region ≠ .imports → firstLine? (heldIn region steps) ≠ some "" := by
    intro region
    cases region <;> decide +kernel
  obtain ⟨block, -, hblocks, -, hrows, hfilter, -⟩ := layout_blocks hlines himports hfirst
  refine ⟨hlines, himports, hfirst, by decide +kernel, block, hblocks .classes (by decide), hrows,
    ?_⟩
  rw [hfilter]
  decide +kernel

end TypedJson.Code
