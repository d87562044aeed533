import TypedJson.Code.Chain
import TypedJson.Proofs.Script.Printing

/-!
# Templates as rows of symbols

A template is a row of characters and holes, however it is cut into pieces. Appending templates
appends their rows, filling a template puts a row into its holes, and putting a step behind a chain
puts the row of the chain into the holes of the step. What is written of a chain follows from its
row.

A row has one template in normal form (`Template.ofRow`), and applying a function gives it. So laws
of rows are laws of functions: they are put together in whatever order (`Function.andThen_assoc`).
-/

namespace TypedJson.Code

open Script

/-! ## Rows -/

/-- The symbols of pieces: characters and holes. -/
def symbolsOf : List Piece → List (Option Char)
  | [] => []
  | .text s :: rest => s.toList.map some ++ symbolsOf rest
  | .hole :: rest => none :: symbolsOf rest

/-- The symbols of a template. -/
def Template.symbols (t : Template) : List (Option Char) :=
  symbolsOf t.pieces

/-- Put a row into the holes of a row. -/
def fillRow (argument row : List (Option Char)) : List (Option Char) :=
  row.flatMap fun
    | none => argument
    | some c => [some c]

/-- What is written of a row: its characters, with the parameter in its holes. -/
def writtenRow (row : List (Option Char)) : List Char :=
  row.map (·.getD 'x')

/-- Filling a row is filling its parts. -/
theorem fillRow_append (argument front back : List (Option Char)) :
    fillRow argument (front ++ back) = fillRow argument front ++ fillRow argument back :=
  List.flatMap_append

/-- Characters have no holes. -/
theorem fillRow_chars (argument : List (Option Char)) (cs : List Char) :
    fillRow argument (cs.map some) = cs.map some := by
  induction cs with
  | nil => rfl
  | cons c cs ih => exact congrArg (some c :: ·) ih

/-- A hole is the parameter. -/
theorem fillRow_hole (row : List (Option Char)) : fillRow [none] row = row := by
  induction row with
  | nil => rfl
  | cons s row ih => cases s <;> exact congrArg (_ :: ·) ih

/-- Filling twice is filling with what was filled. -/
theorem fillRow_fillRow (inner outer row : List (Option Char)) :
    fillRow inner (fillRow outer row) = fillRow (fillRow inner outer) row := by
  induction row with
  | nil => rfl
  | cons s row ih =>
      cases s with
      | none =>
          show fillRow inner (outer ++ fillRow outer row) = _
          rw [fillRow_append, ih]
          rfl
      | some c => exact congrArg (some c :: ·) ih

/-- Characters are written as they are. -/
theorem writtenRow_chars (cs : List Char) : writtenRow (cs.map some) = cs := by
  rw [writtenRow, List.map_map]
  exact List.map_id cs

/-- Rows one behind the other are written one behind the other. -/
theorem writtenRow_append (front back : List (Option Char)) :
    writtenRow (front ++ back) = writtenRow front ++ writtenRow back :=
  List.map_append

/-! ## Templates -/

namespace Template

/-- A text in front of pieces gives its characters. -/
theorem symbolsOf_consText (s : String) (pieces : List Piece) :
    symbolsOf (consText s pieces) = s.toList.map some ++ symbolsOf pieces := by
  unfold consText
  split
  · rw [symbolsOf, String.toList_append, List.map_append, List.append_assoc]
    rfl
  · split
    next h =>
      subst h
      rfl
    next => rfl

/-- Joined pieces give their rows one behind the other. -/
theorem symbolsOf_joinPieces (front back : List Piece) :
    symbolsOf (joinPieces front back) = symbolsOf front ++ symbolsOf back := by
  induction front with
  | nil => rfl
  | cons piece front ih =>
      cases piece with
      | text s =>
          rw [joinPieces, symbolsOf_consText, ih, symbolsOf, List.append_assoc]
      | hole => exact congrArg (none :: ·) ih

/-- The row of a text. -/
theorem symbols_text (s : String) : (text s).symbols = s.toList.map some := by
  rw [text, symbols, symbolsOf_consText]
  exact List.append_nil _

/-- The row of the parameter is a hole. -/
theorem symbols_param : param.symbols = [none] :=
  rfl

/-- The row of two templates. -/
theorem symbols_append (front back : Template) :
    (front ++ back).symbols = front.symbols ++ back.symbols :=
  symbolsOf_joinPieces _ _

/-- The row of a filled template. -/
theorem symbols_fill (body argument : Template) :
    (body.fill argument).symbols = fillRow argument.symbols body.symbols := by
  show symbolsOf (fillPieces argument.pieces body.pieces) = fillRow _ (symbolsOf body.pieces)
  induction body.pieces with
  | nil => rfl
  | cons piece pieces ih =>
      cases piece with
      | text s =>
          rw [fillPieces, symbolsOf_consText, ih, symbolsOf, fillRow_append, fillRow_chars]
      | hole =>
          rw [fillPieces, symbolsOf_joinPieces, ih]
          rfl

/-- A template is written as its row is. -/
theorem toList_render (t : Template) : t.render.toList = writtenRow t.symbols := by
  show (String.join (t.pieces.map Piece.render)).toList = writtenRow (symbolsOf t.pieces)
  rw [String.toList_join, List.flatMap_map]
  induction t.pieces with
  | nil => rfl
  | cons piece pieces ih =>
      cases piece with
      | text s =>
          rw [List.flatMap_cons, ih, symbolsOf, writtenRow_append, writtenRow_chars]
          rfl
      | hole => exact congrArg ('x' :: ·) ih

/-- A template is the text of its row. -/
theorem render_eq (t : Template) : t.render = String.ofList (writtenRow t.symbols) := by
  rw [← toList_render, String.ofList_toList]

/-- The row of templates with commas between them. -/
theorem symbols_commaList (ts : List Template) :
    (commaList ts).symbols = separated [some ',', some ' '] (ts.map symbols) := by
  induction ts with
  | nil => rfl
  | cons first rest ih =>
      cases rest with
      | nil => rfl
      | cons second rest =>
          rw [commaList, symbols_append, symbols_append, ih, symbols_text]
          · rfl
          · rintro ⟨⟩

/-- The row of a call. -/
theorem symbols_call (callee : String) (arguments : List Template) :
    (call callee arguments).symbols = callee.toList.map some ++ some '(' ::
      separated [some ',', some ' '] (arguments.map symbols) ++ [some ')'] := by
  rw [call, symbols_append, symbols_append, symbols_text, symbols_text, symbols_commaList,
    String.toList_append, List.map_append]
  simp only [List.append_assoc]
  rfl

/-- A template that calls a name with the parameter alone has the row of that call. -/
theorem symbols_of_plainCallee {t : Template} {callee : String}
    (h : t.plainCallee? = some callee) :
    t.symbols = callee.toList.map some ++ [some '(', none, some ')'] := by
  unfold plainCallee? at h
  split at h
  next head hpieces =>
    split at h
    next reversed hhead =>
      split at h
      · cases h
        have hlist : head.toList = reversed.reverse ++ ['('] := by
          rw [← List.reverse_reverse head.toList, hhead, List.reverse_cons]
        rw [symbols, hpieces, String.toList_ofList]
        show head.toList.map some ++ _ = _
        rw [hlist, List.map_append, List.append_assoc]
        rfl
      · cases h
    · cases h
  · cases h

end Template

/-! ## Templates of rows -/

/-- The pieces of a row. Characters that stand side by side are one text. -/
def piecesOf : List (Option Char) → List Piece
  | [] => []
  | some c :: row => Template.consText (String.singleton c) (piecesOf row)
  | none :: row => .hole :: piecesOf row

namespace Template

/-- The template of a row. -/
def ofRow (row : List (Option Char)) : Template :=
  ⟨piecesOf row⟩

/-- The empty text in front of pieces changes nothing. -/
theorem consText_empty (pieces : List Piece) : consText "" pieces = pieces := by
  unfold consText
  split
  · rw [String.empty_append]
  · rfl

/-- Two texts in front of pieces are one. -/
theorem consText_consText (s t : String) (pieces : List Piece) :
    consText s (consText t pieces) = consText (s ++ t) pieces := by
  by_cases ht : t = ""
  · rw [ht, consText_empty, String.append_empty]
  · have hst : s ++ t ≠ "" := fun h => ht (String.append_eq_empty_iff.1 h).2
    cases pieces with
    | nil => simp only [consText, ht, hst, if_false]
    | cons piece pieces =>
        cases piece with
        | text r => simp only [consText, String.append_assoc]
        | hole => simp only [consText, ht, hst, if_false]

/-- A text in front of the pieces of a row is the text in front of the row. -/
theorem consText_piecesOf (s : String) (row : List (Option Char)) :
    consText s (piecesOf row) = piecesOf (s.toList.map some ++ row) := by
  have hchars (cs : List Char) :
      consText (String.ofList cs) (piecesOf row) = piecesOf (cs.map some ++ row) := by
    induction cs with
    | nil => exact consText_empty _
    | cons c cs ih =>
        show _ = consText (String.singleton c) (piecesOf (cs.map some ++ row))
        rw [← ih, consText_consText, String.ofList_cons]
  rw [← hchars, String.ofList_toList]

/-- Pieces in front of those of a row. -/
theorem joinPieces_piecesOf (front : List Piece) (row : List (Option Char)) :
    joinPieces front (piecesOf row) = piecesOf (symbolsOf front ++ row) := by
  induction front with
  | nil => rfl
  | cons piece front ih =>
      cases piece with
      | text s => rw [joinPieces, ih, consText_piecesOf, symbolsOf, List.append_assoc]
      | hole => exact congrArg (.hole :: ·) ih

/-- What stands in front of the template of a row stands in front of the row. -/
theorem append_ofRow (front : Template) (row : List (Option Char)) :
    front ++ ofRow row = ofRow (front.symbols ++ row) :=
  congrArg mk (joinPieces_piecesOf _ _)

/-- A filled template is that of its row. -/
theorem fill_eq_ofRow (body argument : Template) :
    body.fill argument = ofRow (body.fill argument).symbols := by
  have hpieces (pieces : List Piece) : fillPieces argument.pieces pieces =
      piecesOf (fillRow argument.symbols (symbolsOf pieces)) := by
    induction pieces with
    | nil => rfl
    | cons piece pieces ih =>
        cases piece with
        | text s =>
            rw [fillPieces, ih, consText_piecesOf, symbolsOf, fillRow_append, fillRow_chars]
        | hole =>
            rw [fillPieces, ih, joinPieces_piecesOf]
            rfl
  rw [symbols_fill]
  exact congrArg mk (hpieces body.pieces)

/-- A text is the template of its row. -/
theorem text_eq_ofRow (s : String) : text s = ofRow (text s).symbols := by
  rw [symbols_text, ofRow, ← List.append_nil (s.toList.map some), ← consText_piecesOf]
  rfl

/-- So is a call, since it ends in a text. -/
theorem call_eq_ofRow (callee : String) (arguments : List Template) :
    call callee arguments = ofRow (call callee arguments).symbols := by
  rw [call, symbols_append, ← append_ofRow, ← text_eq_ofRow]

end Template

/-! ## Functions and chains -/

/-- The row of a function: that of its application to the parameter. -/
def Function.symbols (f : Function) : List (Option Char) :=
  (f.apply .param).symbols

/-- The row of a name is that of its call with the parameter. -/
theorem Function.symbols_named (name : String) :
    (Function.named name).symbols = name.toList.map some ++ [some '(', none, some ')'] := by
  rw [symbols, apply, Template.symbols_call, List.append_assoc]
  rfl

/-- The row of a lambda is that of its body. -/
theorem Function.symbols_lambda (body : Template) : (Function.lambda body).symbols = body.symbols := by
  rw [symbols, apply, Template.symbols_fill, Template.symbols_param, fillRow_hole]

/-- Applying a function puts the argument into its holes. -/
theorem Function.symbols_apply (f : Function) (argument : Template) :
    (f.apply argument).symbols = fillRow argument.symbols f.symbols := by
  cases f with
  | named name =>
      rw [symbols_named, fillRow_append, fillRow_chars, apply, Template.symbols_call,
        List.append_assoc]
      rfl
  | lambda body => rw [symbols_lambda, apply, Template.symbols_fill]

/-- The row of a function behind another one. -/
theorem Function.symbols_andThen (f next : Function) :
    (f.andThen next).symbols = fillRow f.symbols next.symbols := by
  rw [andThen, symbols_lambda, symbols_apply]
  rfl

/-- Applying a function gives the template of a row. -/
theorem Function.apply_eq_ofRow (f : Function) (argument : Template) :
    f.apply argument = .ofRow (f.apply argument).symbols := by
  cases f with
  | named name => exact Template.call_eq_ofRow name [argument]
  | lambda body => exact body.fill_eq_ofRow argument

/-- Functions put together are applied one after the other. -/
theorem Function.apply_andThen (f next : Function) (argument : Template) :
    (f.andThen next).apply argument = next.apply (f.apply argument) := by
  rw [apply_eq_ofRow, apply_eq_ofRow next, symbols_apply, symbols_andThen, symbols_apply,
    symbols_apply, fillRow_fillRow]

/-- Of three functions, any two neighbours can be put together first. -/
theorem Function.andThen_assoc (f g h : Function) :
    (f.andThen g).andThen h = f.andThen (g.andThen h) := by
  show lambda (h.apply ((f.andThen g).apply .param)) =
    lambda ((g.andThen h).apply (f.apply .param))
  rw [apply_andThen, apply_andThen]

namespace Chain

/-- The row of a chain: that of its expression, with holes where it waits for its argument. -/
def symbols : Chain → List (Option Char)
  | .identity => [none]
  | .value expression => expression.symbols
  | .function f => f.symbols
  | .applied f argument => (f.apply argument).symbols

/-- A step behind a chain takes the row of the chain into its holes. -/
theorem symbols_andThen (c : Chain) (step : Function) :
    (c.andThen step).symbols = fillRow c.symbols step.symbols := by
  cases c with
  | identity => exact (fillRow_hole _).symm
  | value argument => exact step.symbols_apply argument
  | function f => exact f.symbols_andThen step
  | applied f argument =>
      show ((f.andThen step).apply argument).symbols = fillRow (f.apply argument).symbols _
      rw [Function.symbols_apply, Function.symbols_andThen, Function.symbols_apply,
        fillRow_fillRow]

/-- A step does not give a chain its argument. -/
theorem isFunction_andThen (c : Chain) (step : Function) :
    (c.andThen step).isFunction = c.isFunction := by
  cases c <;> rfl

/-- The function of a chain is written as the name that its row calls with the parameter, or as the
lambda of its row. -/
theorem render_toFunction {c : Chain} (hc : c.isFunction) :
    (c.symbols = c.toFunction.render.toList.map some ++ [some '(', none, some ')']) ∨
      c.toFunction.render.toList = "lambda x: ".toList ++ writtenRow c.symbols := by
  have hlambda (body : Template) :
      (body.symbols = (Function.lambda body).render.toList.map some ++
        [some '(', none, some ')']) ∨
        (Function.lambda body).render.toList = "lambda x: ".toList ++ writtenRow body.symbols := by
    cases h : body.plainCallee? with
    | some callee =>
        refine .inl ?_
        rw [Function.render, h]
        exact Template.symbols_of_plainCallee h
    | none =>
        refine .inr ?_
        rw [Function.render, h]
        show ("lambda " ++ Template.paramName ++ ": " ++ body.render).toList = _
        rw [String.toList_append, Template.toList_render]
        rfl
  cases c with
  | identity => exact hlambda .param
  | value => cases hc
  | applied => cases hc
  | function f =>
      cases f with
      | named name => exact .inl (Function.symbols_named name)
      | lambda body =>
          show ((Function.lambda body).symbols = _) ∨ _ = _ ++ writtenRow (Function.lambda body).symbols
          rw [Function.symbols_lambda]
          exact hlambda body

/-- The expression of a chain with an argument is written as its row is. -/
theorem toValue_eq_ok {c : Chain} (hc : c.isFunction = false) :
    c.toValue = .ok (String.ofList (writtenRow c.symbols)) := by
  cases c with
  | identity => cases hc
  | function => cases hc
  | value expression => exact congrArg Except.ok expression.render_eq
  | applied f argument => exact congrArg Except.ok (f.apply argument).render_eq

end Chain

end TypedJson.Code
