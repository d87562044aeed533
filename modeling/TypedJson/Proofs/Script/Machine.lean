import TypedJson.Proofs.Script.Reader
import TypedJson.Value.Conversion

/-!
# Running generated code

What expressions and statements of generated code do, given the definitions of a module. `eval` and
`exec` follow the syntax, with a given meaning of calls; `callWithin` gives calls their meaning, as
far as they nest within a bound. A run that raises is told apart from one that meets the bound or a
construct that is not described here, and only the first is caught by `try`.
-/

namespace TypedJson.Script

/-! ## What names stand for -/

/-- What the language and its libraries offer to conversions. -/
inductive Builtin where
  | isinstance
  | type
  | cast
  | any
  | noneType
  | bool
  | int
  | long
  | float
  | str
  | unicode
  | list
  | dict
  | datetime
  | dateutil
  | dateParser
  | parseDate
  deriving DecidableEq, Repr

/-- The builtin of a name. -/
def Builtin.ofName? : String → Option Builtin
  | "isinstance" => some .isinstance
  | "type" => some .type
  | "cast" => some .cast
  | "Any" => some .any
  | "bool" => some .bool
  | "int" => some .int
  | "long" => some .long
  | "float" => some .float
  | "str" => some .str
  | "unicode" => some .unicode
  | "list" => some .list
  | "dict" => some .dict
  | "datetime" => some .datetime
  | "dateutil" => some .dateutil
  | _ => none

/-- The constant of a name. -/
def constant? : String → Option Value
  | "None" => some .none
  | "True" => some (.bool true)
  | "False" => some (.bool false)
  | _ => none

/-- The class of a record: its name, its label, the parameters of its constructor with the keys of
the properties that they set, and the lines of its conversions. -/
structure RecordClass where
  name : String
  label : String
  fields : List (String × String)
  lines : List Line
  deriving Repr

/-- The class of an enumeration. -/
structure EnumClass where
  name : String
  enumeration : Enumeration
  deriving Repr

/-- A method of a value. -/
inductive Method where
  | get
  | items
  | isoformat
  | defined (d : Definition)
  deriving Repr

/-- What an expression stands for. -/
inductive Entity where
  | data (v : Value)
  | tuple (items : List Entity)
  /-- A list that holds something besides data. -/
  | list (items : List Entity)
  /-- The entries of a dict in order. -/
  | dictItems (entries : List (String × Value))
  | builtin (b : Builtin)
  | function (d : Definition)
  | recordClass (c : RecordClass)
  | enumClass (c : EnumClass)
  | method (receiver : Value) (m : Method)
  | closure (parameter : String) (body : Expr) (locals : List (String × Entity))
      (unassigned : List String)

/-- The value of an entity that is data. -/
def Entity.value? : Entity → Option Value
  | .data v => some v
  | _ => none

/-- The list of entities. -/
def Entity.ofItems (items : List Entity) : Entity :=
  match items.mapM Entity.value? with
  | some values => .data (.list values)
  | none => .list items

/-- The local names of a running function: the ones bound so far, latest first, and all that it
assigns anywhere. -/
structure Frame where
  locals : List (String × Entity)
  assigned : List String

/-- Bind a local name. -/
def Frame.bind (ρ : Frame) (name : String) (e : Entity) : Frame :=
  { ρ with locals := (name, e) :: ρ.locals }

/-- The definitions of a module, and how a value other than an integer is written by `str`. -/
structure Program where
  functions : List Definition
  records : List RecordClass
  enumerations : List EnumClass
  written : Value → String

/-- Why there is no result. -/
inductive Stop where
  /-- An exception was raised. -/
  | raised
  /-- The bound was met, or what happens is not described. -/
  | unknown
  deriving DecidableEq, Repr

/-- The outcome of a run. -/
abbrev Run := Except Stop

/-- What a name of the module or of the language stands for. -/
def Program.global? (P : Program) (name : String) : Option Entity :=
  ((P.functions.find? (·.name == name)).map .function)
    <|> ((P.records.find? (·.name == name)).map .recordClass)
    <|> ((P.enumerations.find? (·.name == name)).map .enumClass)
    <|> ((constant? name).map .data)
    <|> (Builtin.ofName? name).map .builtin

/-- What a name stands for. A name that the running function assigns is never one of the module. -/
def Program.lookup (P : Program) (ρ : Frame) (name : String) : Run Entity :=
  match ρ.locals.lookup name with
  | some e => .ok e
  | none =>
    if ρ.assigned.contains name then .error .raised
    else
      match P.global? name with
      | some e => .ok e
      | none => .error .raised

/-! ## Types and attributes -/

/-- The value is of the builtin type. -/
def Builtin.tests? : Builtin → Value → Option Bool
  | .noneType, v => some v.isNone
  | .bool, .bool _ => some true
  | .int, .int _ => some true
  | .int, .bool _ => some true
  | .long, .int _ => some true
  | .float, .float _ => some true
  | .str, .str _ => some true
  | .unicode, .str _ => some true
  | .list, .list _ => some true
  | .dict, .dict _ => some true
  | .datetime, .dateTime _ => some true
  | .isinstance, _ => none
  | .type, _ => none
  | .cast, _ => none
  | .any, _ => none
  | .dateutil, _ => none
  | .dateParser, _ => none
  | .parseDate, _ => none
  | _, _ => some false

/-- The value is of the type. -/
def Entity.tests? : Entity → Value → Option Bool
  | .builtin b, v => b.tests? v
  | .recordClass c, .object label _ => some (label = c.label)
  | .recordClass _, _ => some false
  | .enumClass c, .enumCase label _ => some (label = c.enumeration.name)
  | .enumClass _, _ => some false
  | _, _ => none

/-- The value is of the type, or of one of a tuple of types. -/
def isInstance? (v : Value) : Entity → Option Bool
  | .tuple types => types.foldrM (fun t found => (t.tests? v).map (· || found)) false
  | t => t.tests? v

/-- A definition of the class. -/
def RecordClass.definition? (c : RecordClass) (name : String) : Option Definition :=
  Definition.find? name c.lines

/-- An attribute of an entity. Timestamps alone are written by `isoformat`, so it is no attribute of
the object of a class that is not described either. -/
def Program.member (P : Program) : Entity → String → Run Entity
  | .data (.dict entries), "get" => .ok (.method (.dict entries) .get)
  | .data (.dict entries), "items" => .ok (.method (.dict entries) .items)
  | .data (.dateTime t), "isoformat" => .ok (.method (.dateTime t) .isoformat)
  | .data (.enumCase _ case), "value" => .ok (.data (.str case))
  | .data (.object label fields), name =>
    match P.records.find? (·.label == label) with
    | none => .error (if name = "isoformat" then .raised else .unknown)
    | some c =>
      match c.fields.lookup name with
      | some key =>
        match Ordered.find? key fields with
        | some v => .ok (.data v)
        | none => .error .raised
      | none =>
        match c.definition? name with
        | some d => .ok (.method (.object label fields) (.defined d))
        | none => .error .raised
  | .data _, "isoformat" => .error .raised
  | .recordClass c, name =>
    match c.definition? name with
    | some d => .ok (.function d)
    | none => .error .unknown
  | .builtin .dateutil, "parser" => .ok (.builtin .dateParser)
  | .builtin .dateParser, "parse" => .ok (.builtin .parseDate)
  | _, _ => .error .unknown

/-! ## Calls without a definition -/

/-- A value that is there, or a raised exception. -/
def orRaise (v : Option Value) : Run Entity :=
  match v with
  | some v => .ok (.data v)
  | none => .error .raised

/-- The text that `str` writes for a value. -/
def Program.textOf (P : Program) : Value → String
  | .int i => toString i
  | v => P.written v

/-- The call of a builtin. Integers and timestamps are parsed from texts only, and any value is
written as some text. -/
def Program.callBuiltin (P : Program) : Builtin → List Entity → Run Entity
  | .isinstance, [.data v, t] =>
    match isInstance? v t with
    | some b => .ok (.data (.bool b))
    | none => .error .unknown
  | .type, [.data .none] => .ok (.builtin .noneType)
  | .cast, [_, e] => .ok e
  | .int, [.data (.str s)] => orRaise ((Integer.parse? s).map .int)
  | .int, [.data _] => .error .raised
  | .float, [.data (.int i)] => .ok (.data (.float (Binary64.ofInt i)))
  | .float, [.data (.float x)] => .ok (.data (.float x))
  | .str, [.data v] => .ok (.data (.str (P.textOf v)))
  | .parseDate, [.data (.str s)] => orRaise ((Timestamp.parse? s).map .dateTime)
  | .parseDate, [.data _] => .error .raised
  | _, _ => .error .unknown

/-- The object that a constructor makes of its arguments. -/
def RecordClass.construct (c : RecordClass) (arguments : List Entity) : Run Entity :=
  if c.fields.length ≠ arguments.length then .error .raised
  else
    match arguments.mapM Entity.value? with
    | some values =>
      .ok (.data (.object c.label (Ordered.ofEntries ((c.fields.map Prod.snd).zip values))))
    | none => .error .unknown

/-- A tested value is of the type or not. -/
theorem Program.callBuiltin_isinstance {P : Program} {v : Value} {t : Entity} {b : Bool}
    (h : isInstance? v t = some b) :
    P.callBuiltin .isinstance [.data v, t] = .ok (.data (.bool b)) := by
  rw [callBuiltin, h]

/-- The items that a loop runs over. -/
def Entity.iterate : Entity → Run (List Entity)
  | .data (.list items) => .ok (items.map .data)
  | .list items => .ok items
  | _ => .error .unknown

/-- The truth of a test. -/
def Entity.truth : Entity → Run Bool
  | .data (.bool b) => .ok b
  | _ => .error .unknown

/-! ## Expressions and statements -/

section

variable (P : Program) (call : Entity → List Entity → Run Entity)

mutual
/-- What an expression stands for in a frame. -/
def eval : Expr → Frame → Run Entity
  | .name word, ρ => P.lookup ρ word
  | .text value, _ => .ok (.data (.str value))
  | .tuple items, ρ => (evalItems items ρ).map .tuple
  | .list items, ρ => (evalItems items ρ).map .ofItems
  | .emptyDict, _ => .ok (.data (.dict []))
  | .member object name, ρ => do
    let e ← eval object ρ
    P.member e name
  | .call callee arguments, ρ => do
    let f ← eval callee ρ
    let es ← evalItems arguments ρ
    call f es
  | .lambda parameter body, ρ => .ok (.closure parameter body ρ.locals ρ.assigned)
  | .isNone operand negated, ρ => do
    match ← eval operand ρ with
    | .data v => return .data (.bool (v.isNone != negated))
    | _ => return .data (.bool negated)
  | .not operand, ρ => do
    let b ← (← eval operand ρ).truth
    return .data (.bool !b)
  | .and left right, ρ => do
    if ← (← eval left ρ).truth then eval right ρ else return .data (.bool false)
  | .listOf element item source, ρ => do
    let es ← (← eval source ρ).iterate
    let results ← es.mapM fun e => eval element (ρ.bind item e)
    return .ofItems results
  | .dictOf key value element source, ρ => do
    match ← eval source ρ with
    | .dictItems entries => do
      let results ← entries.mapM fun entry => do
        match ← eval element ((ρ.bind key (.data (.str entry.1))).bind value (.data entry.2)) with
        | .data v => return (entry.1, v)
        | _ => .error .unknown
      return .data (.dict results)
    | _ => .error .unknown

/-- What expressions stand for, from left to right. -/
def evalItems : List Expr → Frame → Run (List Entity)
  | [], _ => .ok []
  | item :: rest, ρ => do
    let e ← eval item ρ
    let es ← evalItems rest ρ
    return e :: es
end

/-- Run a body for each item, until one returns. -/
def runEach (body : Entity → Frame → Run (Frame × Option Entity)) :
    List Entity → Frame → Run (Frame × Option Entity)
  | [], ρ => .ok (ρ, none)
  | e :: rest, ρ => do
    match ← body e ρ with
    | (ρ, some result) => return (ρ, some result)
    | (ρ, none) => runEach body rest ρ

mutual
/-- Run a statement: the frame behind it, and the result if it returns. -/
def exec : Statement → Frame → Run (Frame × Option Entity)
  | .pass, ρ => .ok (ρ, none)
  | .assert condition, ρ => do
    if ← (← eval P call condition ρ).truth then return (ρ, none) else .error .raised
  | .return result, ρ => do
    let e ← eval P call result ρ
    return (ρ, some e)
  | .assign name value, ρ => do
    let e ← eval P call value ρ
    return (ρ.bind name e, none)
  | .assignItem name key value, ρ => do
    let e ← eval P call value ρ
    match ← P.lookup ρ name, ← eval P call key ρ, e with
    | .data (.dict entries), .data (.str k), .data v =>
      return (ρ.bind name (.data (.dict (Ordered.insertEntry k v entries))), none)
    | _, _, _ => .error .unknown
  | .ifThen condition body, ρ => do
    if ← (← eval P call condition ρ).truth then execAll body ρ else return (ρ, none)
  | .forEach item source body, ρ => do
    let es ← (← eval P call source ρ).iterate
    runEach (fun e ρ => execAll body (ρ.bind item e)) es ρ
  | .tryReturn result handler, ρ =>
    match eval P call result ρ with
    | .ok e => .ok (ρ, some e)
    | .error .raised => execAll handler ρ
    | .error .unknown => .error .unknown

/-- Run statements, until one returns. -/
def execAll : List Statement → Frame → Run (Frame × Option Entity)
  | [], ρ => .ok (ρ, none)
  | s :: rest, ρ => do
    match ← exec s ρ with
    | (ρ, some result) => return (ρ, some result)
    | (ρ, none) => execAll rest ρ
end

end

/-- Statements run one after the other, until one returns. -/
theorem execAll_cons (P : Program) (call : Entity → List Entity → Run Entity) (s : Statement)
    (rest : List Statement) (ρ : Frame) :
    execAll P call (s :: rest) ρ = exec P call s ρ >>= fun behind =>
      match behind with
      | (ρ, some result) => pure (ρ, some result)
      | (ρ, none) => execAll P call rest ρ := rfl

/-! ## Calls -/

mutual
/-- The names that a statement assigns. -/
def Statement.assigned : Statement → List String
  | .assign name _ => [name]
  | .ifThen _ body => assignedIn body
  | .forEach item _ body => item :: assignedIn body
  | .tryReturn _ handler => assignedIn handler
  | _ => []

/-- The names that statements assign. -/
def assignedIn : List Statement → List String
  | [] => []
  | s :: rest => s.assigned ++ assignedIn rest
end

/-- Run the body of a definition. Without a `return` the result is `None`. -/
def Definition.run (P : Program) (call : Entity → List Entity → Run Entity) (d : Definition)
    (arguments : List Entity) : Run Entity :=
  if d.parameters.length ≠ arguments.length then .error .raised
  else do
    let ρ : Frame := ⟨d.parameters.zip arguments, assignedIn d.body⟩
    let (_, result) ← execAll P call d.body ρ
    return result.getD (.data .none)

/-- The call of an entity, given the meaning of the calls that it leads to. -/
def Program.callStep (P : Program) (call : Entity → List Entity → Run Entity) :
    Entity → List Entity → Run Entity
  | .function d, arguments => d.run P call arguments
  | .closure parameter body locals assigned, [e] =>
    eval P call body ⟨(parameter, e) :: locals, assigned⟩
  | .closure _ _ _ _, _ => .error .raised
  | .builtin b, arguments => P.callBuiltin b arguments
  | .recordClass c, arguments => c.construct arguments
  | .enumClass c, [.data v] =>
    match c.enumeration.decode v with
    | .ok w => .ok (.data w)
    | .error _ => .error .raised
  | .method (.dict entries) .get, [.data (.str key)] =>
    .ok (.data ((Ordered.find? key entries).getD .none))
  | .method (.dict entries) .items, [] => .ok (.dictItems entries)
  | .method (.dateTime t) .isoformat, [] => .ok (.data (.str t.text))
  | .method v (.defined d), arguments => d.run P call (.data v :: arguments)
  | .data _, _ => .error .raised
  | _, _ => .error .unknown

/-- The call of an entity, as far as calls nest within a bound. -/
def Program.callWithin (P : Program) : Nat → Entity → List Entity → Run Entity
  | 0, _, _ => .error .unknown
  | n + 1, f, arguments => P.callStep (callWithin P n) f arguments

end TypedJson.Script
