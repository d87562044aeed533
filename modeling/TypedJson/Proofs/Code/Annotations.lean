import TypedJson.Code.Annotation
import TypedJson.Proofs.Code.Readability
import TypedJson.Proofs.Script.Lines

/-!
# Annotations are passed over

The reader passes over what stands behind the colon of a parameter, up to the comma or parenthesis
outside of brackets that ends it. Whatever annotation is generated for a type holds no such comma
and no parenthesis, so that the names of parameters are read in front of it, and no support function
is recorded for it (`annotateWithin_of_runs`).
-/

namespace TypedJson.Script

/-- In an annotation, the text is passed over. -/
def PassedOver (text : List Char) : Prop :=
  ∀ read depth rest,
    parameters? read (some depth) (text ++ rest) = parameters? read (some depth) rest

/-- Inside brackets of an annotation, the text is passed over. -/
def PassedInside (text : List Char) : Prop :=
  ∀ read depth rest,
    parameters? read (some (depth + 1)) (text ++ rest) = parameters? read (some (depth + 1)) rest

variable {text front back : List Char}

/-- What is passed over is passed over inside brackets. -/
theorem PassedOver.inside (h : PassedOver text) : PassedInside text :=
  fun read depth rest => h read (depth + 1) rest

/-- Characters that open, close and separate nothing are passed over. -/
theorem passedOver_of_plain (h : ∀ c ∈ text, c ∉ ['[', ']', ',', ')']) : PassedOver text := by
  intro read depth rest
  induction text with
  | nil => rfl
  | cons c text ih =>
      obtain ⟨hc, htext⟩ := List.forall_mem_cons.1 h
      simp only [List.mem_cons, List.not_mem_nil, or_false, not_or] at hc
      obtain ⟨hopen, hclose, hcomma, hend⟩ := hc
      rw [← ih htext, List.cons_append, parameters?]
      simp only [hopen, hclose, hcomma, hend, and_false, if_false]

/-- So are those of words. -/
theorem passedOver_of_word (h : ∀ c ∈ text, isWordChar c) : PassedOver text := by
  refine passedOver_of_plain fun c hc hmark => ?_
  have hword := h c hc
  simp only [List.mem_cons, List.not_mem_nil, or_false] at hmark
  rcases hmark with rfl | rfl | rfl | rfl
  all_goals exact absurd hword (by decide)

/-- Text behind text is passed over. -/
theorem PassedOver.append (hfront : PassedOver front) (hback : PassedOver back) :
    PassedOver (front ++ back) := by
  intro read depth rest
  rw [List.append_assoc, hfront, hback]

/-- So is text behind text inside brackets. -/
theorem PassedInside.append (hfront : PassedInside front) (hback : PassedInside back) :
    PassedInside (front ++ back) := by
  intro read depth rest
  rw [List.append_assoc, hfront, hback]

/-- Items are passed over inside brackets, with commas between them. -/
theorem passedInside_intercalate {items : List (List Char)}
    (h : ∀ item ∈ items, PassedInside item) :
    PassedInside (", ".toList.intercalate items) := by
  rw [← separated_eq_intercalate]
  induction items with
  | nil => exact fun _ _ _ => rfl
  | cons first items ih =>
      obtain ⟨hfirst, hitems⟩ := List.forall_mem_cons.1 h
      cases items with
      | nil => exact hfirst
      | cons second items =>
          have hcomma : PassedInside ", ".toList := fun _ _ _ => rfl
          exact (hfirst.append hcomma).append (ih hitems)

/-- Brackets behind a word are passed over with what is inside of them. -/
theorem PassedInside.brackets (h : PassedInside text) (hword : PassedOver front) :
    PassedOver (front ++ '[' :: text ++ [']']) := by
  intro read depth rest
  rw [List.append_assoc, List.append_assoc, hword]
  show parameters? read (some (depth + 1)) (text ++ ']' :: rest) = _
  rw [h]
  rfl

end TypedJson.Script

namespace TypedJson.Code.Context

open Script

variable {ctx : Context} {place : Place} {t : TypeRef} {text inner : String}
  {s s' : Requirements}

/-- The text can be passed over, and no support function is recorded for it. -/
def Annotates (s : Requirements) (text : String) (s' : Requirements) : Prop :=
  PassedOver text.toList ∧ ∀ cv, s'.uses cv ↔ s.uses cv

/-- What is recorded in front of an annotation besides support functions makes no difference. -/
theorem Annotates.behind {between : Requirements} (h : Annotates between text s')
    (hsame : ∀ cv, between.uses cv ↔ s.uses cv) : Annotates s text s' :=
  ⟨h.1, fun cv => (h.2 cv).trans (hsame cv)⟩

/-- A word is passed over. -/
theorem annotates_word {word : String} (hword : word.toList.all isWordChar)
    (h : (pure word : Gen String).Runs s text s') : Annotates s text s' := by
  obtain ⟨rfl, rfl⟩ := h.pure
  exact ⟨passedOver_of_word (List.all_eq_true.1 hword), fun _ => Iff.rfl⟩

/-- A generic type is passed over with what is in its brackets. -/
theorem passedOver_generic (name : String) (hname : name.toList.all isWordChar)
    (h : PassedInside inner.toList) : PassedOver (name ++ "[" ++ inner ++ "]").toList := by
  have hbrackets := h.brackets (passedOver_of_word (List.all_eq_true.1 hname))
  rw [String.toList_append, String.toList_append, String.toList_append, List.append_assoc,
    List.append_assoc]
  rwa [List.append_assoc] at hbrackets

/-- The annotations of members are passed over. -/
theorem annotates_members {generate : TypeRef → Gen String} {members : List TypeRef}
    {texts : List String}
    (h : ∀ m s text s', (generate m).Runs s text s' → Annotates s text s')
    (hruns : (members.mapM generate).Runs s texts s') :
    (∀ text ∈ texts, PassedOver text.toList) ∧ ∀ cv, s'.uses cv ↔ s.uses cv := by
  induction members generalizing s texts with
  | nil =>
      rw [List.mapM_nil] at hruns
      obtain ⟨rfl, rfl⟩ := hruns.pure
      exact ⟨List.forall_mem_nil _, fun _ => Iff.rfl⟩
  | cons m members ih =>
      rw [List.mapM_cons] at hruns
      obtain ⟨text, between, htext, hruns⟩ := hruns.bind
      obtain ⟨texts, final, htexts, hruns⟩ := hruns.bind
      obtain ⟨rfl, rfl⟩ := hruns.pure
      obtain ⟨hpassed, hsame⟩ := h m _ _ _ htext
      obtain ⟨hpasseds, hsames⟩ := ih htexts
      exact ⟨List.forall_mem_cons.2 ⟨hpassed, hpasseds⟩, fun cv => (hsames cv).trans (hsame cv)⟩

/-- The name of a type is passed over. -/
theorem annotates_typeName (hnames : ctx.names.Apart) (h : (ctx.typeName t).Runs s text s') :
    Annotates s text s' := by
  obtain ⟨hname, -, rfl⟩ := typeName_of_runs hnames h
  exact ⟨passedOver_of_word hname.chars, fun _ => Iff.rfl⟩

/-- A name in quotes is passed over where the name is. -/
theorem passedOver_quoted (h : PassedOver text.toList) : PassedOver ("'" ++ text ++ "'").toList := by
  have hquote : PassedOver "'".toList := passedOver_of_plain (by simp)
  rw [String.toList_append, String.toList_append]
  exact (hquote.append h).append hquote

/-- The values of a map are passed over behind its keys. -/
theorem passedOver_dict (h : PassedOver inner.toList) :
    PassedOver ("Dict[str, " ++ inner ++ "]").toList := by
  have hkey : PassedInside "str, ".toList := fun _ _ _ => rfl
  have hinside := hkey.append h.inside
  rw [← String.toList_append] at hinside
  have hgeneric := passedOver_generic "Dict" rfl hinside
  rwa [← String.append_assoc] at hgeneric

/-- Members are passed over inside the brackets of a union. -/
theorem passedOver_union {texts : List String} (h : ∀ text ∈ texts, PassedOver text.toList) :
    PassedOver ("Union[" ++ ", ".intercalate texts ++ "]").toList := by
  refine passedOver_generic "Union" rfl ?_
  rw [String.toList_intercalate]
  refine passedInside_intercalate fun item hitem => ?_
  obtain ⟨text, htext, rfl⟩ := List.mem_map.1 hitem
  exact (h text htext).inside

/-- What may be missing is passed over where the rest is. -/
theorem annotates_optional (hinner : PassedOver inner.toList)
    (h : (if ctx.graph.isNullable t then do
      typing "Optional"
      return "Optional[" ++ inner ++ "]"
    else return inner : Gen String).Runs s text s') : Annotates s text s' := by
  split at h
  · obtain ⟨rfl, rfl⟩ := h.require.pure
    exact ⟨passedOver_generic "Optional" rfl hinner.inside, fun _ => Iff.rfl⟩
  · obtain ⟨rfl, rfl⟩ := h.pure
    exact ⟨hinner, fun _ => Iff.rfl⟩

/-- The annotation of a type is passed over, and no support function is recorded for it. -/
theorem annotateWithin_of_runs (hnames : ctx.names.Apart) {n : Nat}
    (h : (ctx.annotateWithin place n t).Runs s text s') : Annotates s text s' := by
  induction n generalizing t s text s' with
  | zero => exact absurd h Gen.not_runs_throw
  | succ n ih =>
      unfold annotateWithin at h
      dsimp only at h
      split at h
      next target _ => exact ih h
      next =>
        obtain ⟨k, _, hk, h⟩ := Gen.Runs.bind h
        obtain ⟨-, rfl⟩ := kind_of_runs hk
        cases k with
        | any => exact (annotates_word rfl h.require).behind fun _ => Iff.rfl
        | null | bool | integer | double | text => exact annotates_word rfl h
        | array items =>
            obtain ⟨inner, _, hinner, h⟩ := h.require.bind
            obtain ⟨rfl, rfl⟩ := h.pure
            obtain ⟨hpassed, hsame⟩ := ih hinner
            exact ⟨passedOver_generic "List" rfl hpassed.inside, hsame⟩
        | map values =>
            obtain ⟨inner, _, hinner, h⟩ := h.require.bind
            obtain ⟨rfl, rfl⟩ := h.pure
            obtain ⟨hpassed, hsame⟩ := ih hinner
            exact ⟨passedOver_dict hpassed, hsame⟩
        | record r =>
            obtain ⟨name, _, hname, h⟩ := Gen.Runs.bind h
            obtain ⟨rfl, rfl⟩ := h.pure
            obtain ⟨hpassed, hsame⟩ := annotates_typeName hnames hname
            refine ⟨?_, hsame⟩
            split
            · exact passedOver_quoted hpassed
            · exact hpassed
        | enumeration e => exact annotates_typeName hnames h
        | union members =>
            dsimp only at h
            -- Whether null is among the members decides on the last step only.
            cases hmembers : ctx.graph.nonNullMembers t with
            | nil =>
                rw [hmembers] at h
                exact annotates_word rfl h
            | cons first rest =>
                rw [hmembers] at h
                cases rest with
                | nil =>
                    obtain ⟨inner, _, hinner, h⟩ := Gen.Runs.bind h
                    obtain ⟨hpassed, hsame⟩ := ih hinner
                    exact (annotates_optional hpassed h).behind hsame
                | cons second rest =>
                    obtain ⟨texts, _, htexts, h⟩ := (Gen.Runs.require h).bind
                    obtain ⟨inner, _, hinner, h⟩ := h.bind
                    obtain ⟨rfl, rfl⟩ := hinner.pure
                    obtain ⟨hpassed, hsame⟩ := annotates_members (fun _ _ _ _ => ih) htexts
                    exact (annotates_optional (passedOver_union hpassed) h).behind hsame
        | formatted format =>
            cases format with
            | dateTime => exact (annotates_word rfl h.require).behind fun _ => Iff.rfl
            | integerText => exact annotates_word rfl h

end TypedJson.Code.Context
