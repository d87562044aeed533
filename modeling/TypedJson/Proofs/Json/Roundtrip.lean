import TypedJson.Json.Reader
import TypedJson.Json.Writer
import TypedJson.Proofs.Value.IntegerText

/-!
# Reading back JSON text

What `pretty` writes is read back by `read?`, if all numbers of the value are integers that fit a
64-bit word. Texts come first: every character is written as one that stands for itself or as an
escape, and the reader takes it back in one step. The value itself is followed by induction, in front
of any text that does not prolong a number; the reader's bound on nested calls is twice the number of
characters, since every second call takes one.
-/

namespace TypedJson.Json

open Text

/-! ## Texts -/

/-- The hexadecimal digits of a control character are those of its code. -/
theorem codeUnit?_control : ∀ n < 0x20,
    codeUnit? '0' '0' (Nat.digitChar (n / 16)) (Nat.digitChar (n % 16)) = some n := by
  decide

/-- A written character is read in one step. -/
theorem readText_escapeChar (chars : List Char) (c : Char) (cs : List Char) :
    readText ⟨chars, none, false⟩ (escapeChar c ++ cs) = readText ⟨c :: chars, none, false⟩ cs := by
  unfold escapeChar
  -- Seven characters have an escape with a letter.
  iterate 7
    split
    next h =>
      subst h
      rfl
  split
  next hcontrol =>
    have hunit : (⟨chars, none, false⟩ : TextState).pushUnit c.toNat = ⟨c :: chars, none, false⟩ := by
      have hhigh : ¬ (0xD800 ≤ c.toNat ∧ c.toNat < 0xDC00) := by omega
      have hlow : ¬ (0xDC00 ≤ c.toNat ∧ c.toNat < 0xE000) := by omega
      rw [TextState.pushUnit, if_neg hhigh, if_neg hlow, Char.ofNat_toNat]
      rfl
    show readText _ ('\\' :: 'u' :: '0' :: '0' :: _ :: _ :: cs) = _
    rw [readText, codeUnit?_control _ hcontrol, ← hunit]
  next hquote hbackslash _ _ _ _ _ hcontrol =>
    have hplain : ¬ (c.toNat < 0x20 ∨ c = '\\') := fun h => h.elim hcontrol hbackslash
    show readText _ (c :: cs) = _
    rw [readText, if_neg hplain]
    · rfl
    · exact hquote
    · rintro a b x y rest rfl
      exact absurd rfl hbackslash
    · rintro e rest rfl
      exact absurd rfl hbackslash

/-- A written text is read up to its closing quote. -/
theorem readText_written (chars text rest : List Char) :
    readText ⟨chars, none, false⟩ (text.flatMap escapeChar ++ '"' :: rest) =
      some (some (String.ofList (chars.reverse ++ text)), rest) := by
  induction text generalizing chars with
  | nil =>
      rw [List.append_nil]
      rfl
  | cons c text ih =>
      rw [List.flatMap_cons, List.append_assoc, readText_escapeChar, ih, List.reverse_cons,
        List.append_assoc]
      rfl

/-! ## Integers -/

/-- No digit, point or exponent follows, so that a number ends here. -/
def EndsNumber (rest : List Char) : Prop :=
  ∀ c ∈ rest.head?, c.isDigit = false ∧ c ≠ '.' ∧ c ≠ 'e' ∧ c ≠ 'E'

/-- The natural that a row of digits continues is no less than the one in front of it. -/
theorem le_foldl_digits (s : Nat) (ds : List Nat) : s ≤ ds.foldl (fun n d => n * 10 + d) s := by
  induction ds generalizing s with
  | nil => exact Nat.le_refl s
  | cons d ds ih => exact Nat.le_trans (by omega) (ih (s * 10 + d))

/-- Digits are taken to the last one as long as they write a natural of 64 bits. -/
theorem takeDigits_eq {s : Nat} {ds : List Nat}
    (h : ds.foldl (fun n d => n * 10 + d) s < 0x10000000000000000) :
    Numeral.takeDigits s ds = (ds.foldl (fun n d => n * 10 + d) s, []) := by
  induction ds generalizing s with
  | nil => rfl
  | cons d ds ih =>
      have hfirst : s * 10 + d < 0x10000000000000000 :=
        Nat.lt_of_le_of_lt (le_foldl_digits (s * 10 + d) ds) h
      rw [Numeral.takeDigits, if_pos hfirst]
      exact ih h

/-- The values of the decimal digits of a natural. -/
def digitValues (n : Nat) : List Nat :=
  (Nat.toDigits 10 n).map fun c => c.toNat - '0'.toNat

/-- They write the natural. -/
theorem foldl_digitValues (n : Nat) : (digitValues n).foldl (fun n d => n * 10 + d) 0 = n := by
  rw [digitValues, List.foldl_map, foldl_digits, Nat.ofDigitChars_ten_toDigits]

/-- Digits are read up to the end of the number. -/
theorem readDigits_toDigits (n : Nat) {rest : List Char} (hrest : EndsNumber rest) :
    readDigits (Nat.toDigits 10 n ++ rest) = (digitValues n, rest) := by
  have hstop : ∀ c ∈ rest.head?, c.isDigit = false := fun c hc => (hrest c hc).1
  have hdigit : ∀ c ∈ Nat.toDigits 10 n, c.isDigit := fun c hc =>
    Nat.isDigit_of_mem_toDigits (by decide) (by decide) hc
  rw [readDigits, takeWhile_append_stop hstop, dropWhile_append_stop hstop,
    List.takeWhile_eq_self_iff.2 hdigit, List.dropWhile_eq_nil_iff.2 hdigit]
  rfl

/-- Only zero starts with a zero. -/
theorem digitValues_cases (n : Nat) :
    digitValues n = [0] ∨ ∃ d ds, digitValues n = (d + 1) :: ds := by
  induction n using Nat.strongRecOn with
  | ind n ih =>
      by_cases hn : n < 10
      · have hdigit : digitValues n = [n] := by
          rw [digitValues, Nat.toDigits_of_lt_base hn, List.map_singleton,
            Nat.toNat_digitChar_of_lt_ten hn]
          exact congrArg (fun d => [d]) (Nat.add_sub_cancel_left 48 n)
        cases n with
        | zero => exact .inl hdigit
        | succ d => exact .inr ⟨d, [], hdigit⟩
      · have hlast : digitValues n = digitValues (n / 10) ++ [(n % 10).digitChar.toNat - '0'.toNat] := by
          rw [digitValues, Nat.toDigits_of_base_le (by decide) (Nat.le_of_not_lt hn), List.map_append]
          rfl
        rcases ih (n / 10) (by omega) with h | ⟨d, ds, h⟩
        · have hzero := foldl_digitValues (n / 10)
          rw [h] at hzero
          have : n / 10 = 0 := hzero.symm
          omega
        · rw [hlast, h]
          exact .inr ⟨d, _, rfl⟩

/-- The digits before the point are those of the natural. -/
theorem readWhole_toDigits (n : Nat) {rest : List Char} (hrest : EndsNumber rest) :
    readWhole (Nat.toDigits 10 n ++ rest) = some (digitValues n, rest) := by
  rw [readWhole, readDigits_toDigits n hrest]
  rcases digitValues_cases n with h | ⟨d, ds, h⟩
  · rw [h]
    rfl
  · rw [h]
    rfl

/-- Where a number ends, there is no fraction. -/
theorem EndsNumber.readFraction {rest : List Char} (hrest : EndsNumber rest) :
    readFraction rest = some (none, rest) := by
  cases rest with
  | nil => rfl
  | cons c rest =>
      have hpoint : c ≠ '.' := (hrest c rfl).2.1
      rw [Json.readFraction]
      rintro r ⟨⟩
      exact hpoint rfl

/-- There is no exponent either. -/
theorem EndsNumber.readExponent {rest : List Char} (hrest : EndsNumber rest) :
    readExponent rest = some (none, rest) := by
  cases rest with
  | nil => rfl
  | cons c rest =>
      obtain ⟨-, -, hlower, hupper⟩ := hrest c rfl
      unfold Json.readExponent
      dsimp only
      rw [if_neg (not_or.2 ⟨hlower, hupper⟩)]

/-- An integer that fits a 64-bit word is read back from its text. -/
theorem readNumeral_toString {i : Int} (hi : -0x8000000000000000 ≤ i ∧ i < 0x10000000000000000)
    {rest : List Char} (hrest : EndsNumber rest) :
    ∃ n, readNumeral ((toString i).toList ++ rest) = some (n, rest) ∧ ofNumeral n = .int i := by
  have hread : readNumeral ((toString i).toList ++ rest) =
      some (⟨decide (i < 0), digitValues i.natAbs, none, none⟩, rest) := by
    have hwhole := readWhole_toDigits i.natAbs hrest
    rw [Integer.toList_toString]
    split
    next hneg =>
      rw [List.cons_append, readNumeral]
      simp only [hwhole, hrest.readFraction, hrest.readExponent, Option.bind_eq_bind,
        Option.bind_some, hneg, decide_true]
    next hneg =>
      have hdigits {r : List Char} : Nat.toDigits 10 i.natAbs ++ rest ≠ '-' :: r := by
        obtain ⟨c, cs, hcons, hc⟩ := head_toDigits i.natAbs
        rw [hcons]
        rintro ⟨⟩
        exact absurd hc (by decide)
      rw [readNumeral]
      · simp only [hwhole, hrest.readFraction, hrest.readExponent, Option.bind_eq_bind,
          Option.bind_some, hneg, decide_false]
      · exact fun r heq => hdigits heq
  -- All digits are taken, so that the literal is an integer and needs no binary64.
  have hvalue : Numeral.takeDigits 0 (digitValues i.natAbs) = (i.natAbs, []) := by
    have hfold := foldl_digitValues i.natAbs
    rw [takeDigits_eq (by rw [hfold]; omega), hfold]
  refine ⟨_, hread, ?_⟩
  have hinteger : Numeral.integer? ⟨decide (i < 0), digitValues i.natAbs, none, none⟩ = some i := by
    rw [Numeral.integer?]
    dsimp only
    rw [hvalue]
    dsimp only
    by_cases hneg : i < 0
    · rw [if_pos (by simpa using hneg), if_pos (by omega)]
      exact congrArg some (by omega)
    · rw [if_neg (by simpa using hneg)]
      exact congrArg some (by omega)
  rw [ofNumeral, hinteger]

/-! ## Values -/

mutual
/-- All numbers of the value are integers that fit a 64-bit word, and nothing is unreadable. -/
def IsExact : Json → Prop
  | .int i => -0x8000000000000000 ≤ i ∧ i < 0x10000000000000000
  | .float _ => False
  | .unreadable => False
  | .list items => AllExact items
  | .object members => AllMembersExact members
  | _ => True

/-- Each item of a list is exact. -/
def AllExact : List Json → Prop
  | [] => True
  | item :: rest => IsExact item ∧ AllExact rest

/-- Each member of an object is exact. -/
def AllMembersExact : List (String × Json) → Prop
  | [] => True
  | (_, value) :: rest => IsExact value ∧ AllMembersExact rest
end

/-- The text of an integer starts with a digit or its sign. -/
theorem head_toString (i : Int) :
    ∃ c cs, (toString i).toList = c :: cs ∧ (c.isDigit ∨ c = '-') := by
  rw [Integer.toList_toString]
  split
  · exact ⟨'-', _, rfl, .inr rfl⟩
  · obtain ⟨c, cs, hcons, hc⟩ := head_toDigits i.natAbs
    exact ⟨c, cs, hcons, .inl hc⟩

/-- A value is written from a character on that is no space and closes nothing. -/
theorem head_prettyChars {j : Json} (hj : j.IsExact) (level : Nat) :
    ∃ c cs, prettyChars level j = c :: cs ∧ isSpace c = false ∧ c ≠ ']' ∧ c ≠ '\x7d' := by
  cases j with
  | null => exact ⟨'n', _, rfl, rfl, by decide, by decide⟩
  | bool b => cases b <;> exact ⟨_, _, rfl, rfl, by decide, by decide⟩
  | int i =>
      obtain ⟨c, cs, hcons, hc⟩ := head_toString i
      refine ⟨c, cs, hcons, ?_⟩
      rcases hc with hc | rfl
      · have hne {d : Char} (hd : d.isDigit = false) : c ≠ d := by
          rintro rfl
          rw [hd] at hc
          cases hc
        refine ⟨?_, hne (by decide), hne (by decide)⟩
        simp only [isSpace, Bool.or_eq_false_iff, beq_eq_false_iff_ne]
        exact ⟨⟨⟨hne (by decide), hne (by decide)⟩, hne (by decide)⟩, hne (by decide)⟩
      · exact ⟨by decide, by decide, by decide⟩
  | text s => exact ⟨'"', _, rfl, rfl, by decide, by decide⟩
  | list items => cases items <;> exact ⟨'[', _, rfl, rfl, by decide, by decide⟩
  | object members => cases members <;> exact ⟨'\x7b', _, rfl, rfl, by decide, by decide⟩
  | float | unreadable => exact hj.elim

/-- A new line is made of spaces. -/
theorem isSpace_newLine (level : Nat) : ∀ c ∈ newLine level, isSpace c := by
  intro c hc
  rcases List.mem_cons.1 hc with rfl | hc
  · rfl
  · rw [List.eq_of_mem_replicate hc]
    rfl

/-- Spaces are skipped up to a character that is none. -/
theorem skipSpace_append {spaces : List Char} (hspaces : ∀ c ∈ spaces, isSpace c) {c : Char}
    {cs : List Char} (hc : isSpace c = false) : skipSpace (spaces ++ c :: cs) = c :: cs := by
  rw [skipSpace, List.dropWhile_append_of_pos hspaces, List.dropWhile_cons_of_neg]
  simpa using hc

/-- Spaces are skipped up to a value. -/
theorem skipSpace_value {j : Json} (hj : j.IsExact) {spaces : List Char}
    (hspaces : ∀ c ∈ spaces, isSpace c) (level : Nat) (rest : List Char) :
    skipSpace (spaces ++ (prettyChars level j ++ rest)) = prettyChars level j ++ rest := by
  obtain ⟨c, cs, hcons, hc, -⟩ := head_prettyChars hj level
  rw [hcons, List.cons_append, skipSpace_append hspaces hc]

/-- A new line or a comma prolongs no number. -/
theorem endsNumber_cons {c : Char} (hc : c = '\n' ∨ c = ',') (rest : List Char) :
    EndsNumber (c :: rest) := by
  intro d hd
  cases hd
  rcases hc with rfl | rfl <;> decide

/-- A number is read where no other value starts. -/
theorem readValue_number {fuel : Nat} {cs : List Char} {c : Char} {tail : List Char}
    (h : skipSpace cs = c :: tail) (hc : c.isDigit ∨ c = '-') :
    readValue (fuel + 1) cs =
      (readNumeral (c :: tail)).map fun found => (ofNumeral found.1, found.2) := by
  have hne {d : Char} (hd : d.isDigit = false ∧ d ≠ '-') : c ≠ d := by
    rintro rfl
    rcases hc with hc | hc
    · rw [hd.1] at hc
      cases hc
    · exact hd.2 hc
  unfold readValue
  rw [h]
  split <;> rename_i heq <;> try cases heq
  all_goals first | exact absurd rfl (hne (by decide)) | rfl

/-- The value is read back, whatever stands behind it, unless that prolongs a number. -/
def ReadsBack (j : Json) : Prop :=
  ∀ (level fuel : Nat) (cs rest : List Char), skipSpace cs = prettyChars level j ++ rest →
    EndsNumber rest → 2 * (prettyChars level j).length + 1 ≤ fuel → readValue fuel cs = some (j, rest)

/-- It is enough to read the value within a bound that is not zero. -/
theorem readsBack_of_succ {j : Json}
    (h : ∀ (level fuel : Nat) (cs rest : List Char), skipSpace cs = prettyChars level j ++ rest →
      EndsNumber rest → 2 * (prettyChars level j).length ≤ fuel →
        readValue (fuel + 1) cs = some (j, rest)) : j.ReadsBack := by
  intro level fuel cs rest hcs hrest hfuel
  cases fuel with
  | zero => omega
  | succ fuel => exact h level fuel cs rest hcs hrest (by omega)

/-- Integers are read back. -/
theorem readsBack_int {i : Int} (hi : -0x8000000000000000 ≤ i ∧ i < 0x10000000000000000) :
    (Json.int i).ReadsBack := by
  refine readsBack_of_succ fun level fuel cs rest hcs hrest _ => ?_
  obtain ⟨c, tail, hhead, hc⟩ := head_toString i
  obtain ⟨n, hread, hn⟩ := readNumeral_toString hi hrest
  have htext : prettyChars level (.int i) ++ rest = c :: (tail ++ rest) := by
    show (toString i).toList ++ rest = _
    rw [hhead, List.cons_append]
  rw [readValue_number (hcs.trans htext) hc, ← htext]
  show (readNumeral ((toString i).toList ++ rest)).map _ = _
  rw [hread, Option.map_some, hn]

/-- Texts are read back. -/
theorem readsBack_text (s : String) : (Json.text s).ReadsBack := by
  refine readsBack_of_succ fun level fuel cs rest hcs hrest _ => ?_
  have htext : prettyChars level (.text s) ++ rest =
      '"' :: (s.toList.flatMap escapeChar ++ '"' :: rest) := by
    show '"' :: s.toList.flatMap escapeChar ++ ['"'] ++ rest = _
    simp
  rw [readValue, hcs.trans htext, TextState.start]
  simp only [readText_written, List.reverse_nil, List.nil_append, String.ofList_toList]

/-- Of several items, the first one stands in front of a comma. -/
theorem prettyItems_cons (level : Nat) (item next : Json) (rest : List Json) :
    prettyItems level (item :: next :: rest) =
      newLine level ++ (prettyChars level item ++ ',' :: prettyItems level (next :: rest)) := by
  rw [prettyItems, List.append_assoc]
  exact List.cons_ne_nil next rest

/-- Items are read back up to the closing bracket. -/
theorem readItems_written {items : List Json} (hitems : ∀ item ∈ items, item.ReadsBack)
    (hexact : AllExact items) (hne : items ≠ []) (level fuel close : Nat) (rest : List Char)
    (hfuel : 2 * (prettyItems level items).length ≤ fuel) :
    readItems fuel (prettyItems level items ++ (newLine close ++ ']' :: rest)) =
      some (items, rest) := by
  induction items generalizing fuel with
  | nil => exact absurd rfl hne
  | cons item others ih =>
      obtain ⟨hitem, hothers⟩ := List.forall_mem_cons.1 hitems
      have hskip := skipSpace_value hexact.1 (isSpace_newLine level) level
      -- The characters of the new line pay for the calls that read the item.
      have hline : (newLine level).length = 2 * level + 1 := by simp [newLine]
      cases others with
      | nil =>
          rw [prettyItems, List.length_append] at hfuel
          obtain ⟨fuel, rfl⟩ : ∃ fewer, fuel = fewer + 1 := ⟨fuel - 1, by omega⟩
          have hread := hitem level fuel _ (newLine close ++ ']' :: rest) (hskip _)
            (endsNumber_cons (.inl rfl) _) (by omega)
          rw [prettyItems, List.append_assoc, readItems, hread]
          simp only [skipSpace_append (isSpace_newLine close) (show isSpace ']' = false by decide)]
      | cons next others =>
          rw [prettyItems_cons, List.length_append, List.length_append, List.length_cons] at hfuel
          obtain ⟨fuel, rfl⟩ : ∃ fewer, fuel = fewer + 1 := ⟨fuel - 1, by omega⟩
          have hread := hitem level fuel _
            (',' :: (prettyItems level (next :: others) ++ (newLine close ++ ']' :: rest))) (hskip _)
            (endsNumber_cons (.inr rfl) _) (by omega)
          have hrest := ih hothers hexact.2 (List.cons_ne_nil _ _) fuel (by omega)
          rw [prettyItems_cons, List.append_assoc, List.append_assoc, List.cons_append, readItems,
            hread]
          show ((readItems fuel _).map _) = _
          rw [hrest]
          rfl

/-- Of several members, the first one stands in front of a comma. -/
theorem prettyMembers_cons (level : Nat) (name : String) (value : Json) (next : String × Json)
    (rest : List (String × Json)) :
    prettyMembers level ((name, value) :: next :: rest) =
      newLine level ++ (writeText name ++ ':' :: ' ' :: (prettyChars level value ++
        ',' :: prettyMembers level (next :: rest))) := by
  rw [prettyMembers]
  · simp only [List.append_assoc, List.cons_append]
  · exact List.cons_ne_nil next rest

/-- The name of a member is read, and what stands behind it up to the value. -/
theorem readMembers_name (level fuel : Nat) (name : String) (cs : List Char) :
    readMembers (fuel + 1) (newLine level ++ (writeText name ++ ':' :: ' ' :: cs)) =
      (readValue fuel (' ' :: cs)).bind fun found =>
        match skipSpace found.2 with
        | ',' :: rest =>
          (readMembers fuel rest).map fun others => ((some name, found.1) :: others.1, others.2)
        | '\x7d' :: rest => some ([(some name, found.1)], rest)
        | _ => none := by
  have hname : skipSpace (newLine level ++ (writeText name ++ ':' :: ' ' :: cs)) =
      '"' :: (name.toList.flatMap escapeChar ++ '"' :: ':' :: ' ' :: cs) := by
    rw [writeText, List.append_assoc, List.cons_append,
      skipSpace_append (isSpace_newLine level) (by decide)]
    rfl
  have hcolon : skipSpace (':' :: ' ' :: cs) = ':' :: ' ' :: cs := rfl
  rw [readMembers, hname]
  simp only [TextState.start, readText_written, List.reverse_nil, List.nil_append,
    String.ofList_toList, hcolon]
  cases readValue fuel (' ' :: cs) <;> rfl

/-- Members are read back up to the closing brace. -/
theorem readMembers_written {members : List (String × Json)}
    (hmembers : ∀ m ∈ members, m.2.ReadsBack) (hexact : AllMembersExact members)
    (hne : members ≠ []) (level fuel close : Nat) (rest : List Char)
    (hfuel : 2 * (prettyMembers level members).length ≤ fuel) :
    readMembers fuel (prettyMembers level members ++ (newLine close ++ '\x7d' :: rest)) =
      some (members.map fun m => (some m.1, m.2), rest) := by
  induction members generalizing fuel with
  | nil => exact absurd rfl hne
  | cons member others ih =>
      obtain ⟨name, value⟩ := member
      obtain ⟨hvalue, hothers⟩ : value.ReadsBack ∧ ∀ m ∈ others, m.2.ReadsBack :=
        List.forall_mem_cons.1 hmembers
      have hskip (tail : List Char) :
          skipSpace (' ' :: (prettyChars level value ++ tail)) = prettyChars level value ++ tail :=
        skipSpace_value hexact.1 (List.forall_mem_singleton.2 rfl) level tail
      -- The characters of the new line pay for the calls that read the member.
      have hline : (newLine level).length = 2 * level + 1 := by simp [newLine]
      cases others with
      | nil =>
          have hone : prettyMembers level [(name, value)] =
              newLine level ++ (writeText name ++ ':' :: ' ' :: prettyChars level value) := by
            rw [prettyMembers, List.append_assoc]
          rw [hone] at hfuel ⊢
          simp only [List.length_append, List.length_cons] at hfuel
          obtain ⟨fuel, rfl⟩ : ∃ fewer, fuel = fewer + 1 := ⟨fuel - 1, by omega⟩
          have hread := hvalue level fuel _ (newLine close ++ '\x7d' :: rest) (hskip _)
            (endsNumber_cons (.inl rfl) _) (by omega)
          simp only [List.append_assoc, List.cons_append]
          rw [readMembers_name, hread, Option.bind_some,
            skipSpace_append (isSpace_newLine close) (by decide)]
          rfl
      | cons next others =>
          rw [prettyMembers_cons] at hfuel ⊢
          simp only [List.length_append, List.length_cons] at hfuel
          obtain ⟨fuel, rfl⟩ : ∃ fewer, fuel = fewer + 1 := ⟨fuel - 1, by omega⟩
          have hread := hvalue level fuel _
            (',' :: (prettyMembers level (next :: others) ++ (newLine close ++ '\x7d' :: rest)))
            (hskip _) (endsNumber_cons (.inr rfl) _) (by omega)
          have hrest := ih hothers hexact.2 (List.cons_ne_nil _ _) fuel (by omega)
          simp only [List.append_assoc, List.cons_append]
          rw [readMembers_name, hread, Option.bind_some]
          show ((readMembers fuel _).map _) = _
          rw [hrest]
          rfl

/-- Members with readable names make an object. -/
theorem ofMembers_named (members : List (String × Json)) :
    ofMembers (members.map fun m => (some m.1, m.2)) = .object members := by
  have hnamed : ((members.map fun m => ((some m.1 : Option String), m.2)).mapM fun m =>
      m.1.map fun name => (name, m.2)) = some members := by
    induction members with
    | nil => rfl
    | cons m rest ih =>
        rw [List.map_cons, List.mapM_cons, ih]
        rfl
  rw [ofMembers, hnamed]

/-- Spaces are skipped at once. -/
theorem skipSpace_skipSpace (cs : List Char) : skipSpace (skipSpace cs) = skipSpace cs :=
  List.dropWhile_idempotent _ cs

/-- Reading skips spaces in front, so these may be skipped before. -/
theorem readItems_skipSpace (fuel : Nat) (cs : List Char) :
    readItems fuel (skipSpace cs) = readItems fuel cs := by
  have hvalue (fuel : Nat) : readValue fuel (skipSpace cs) = readValue fuel cs := by
    cases fuel with
    | zero => rfl
    | succ fuel => rw [readValue, readValue, skipSpace_skipSpace]
  cases fuel with
  | zero => rfl
  | succ fuel => rw [readItems, readItems, hvalue]

/-- So may those in front of members. -/
theorem readMembers_skipSpace (fuel : Nat) (cs : List Char) :
    readMembers fuel (skipSpace cs) = readMembers fuel cs := by
  cases fuel with
  | zero => rfl
  | succ fuel => rw [readMembers, readMembers, skipSpace_skipSpace]

/-- A bracket that is not closed at once opens a list of items. -/
theorem readValue_list {fuel : Nat} {cs tail : List Char} (hcs : skipSpace cs = '[' :: tail)
    (hne : ∀ rest, skipSpace tail ≠ ']' :: rest) :
    readValue (fuel + 1) cs = (readItems fuel tail).map fun found => (.list found.1, found.2) := by
  rw [← readItems_skipSpace, readValue, hcs]
  split
  next heq => cases heq
  next heq => cases heq
  next heq => cases heq
  next heq => cases heq
  next heq =>
    cases heq
    split
    next rest heq => exact absurd heq (hne rest)
    next => rfl
  next heq => cases heq
  next hlist _ => exact absurd rfl (hlist tail)

/-- A brace that is not closed at once opens an object with members. -/
theorem readValue_object {fuel : Nat} {cs tail : List Char} (hcs : skipSpace cs = '\x7b' :: tail)
    (hne : ∀ rest, skipSpace tail ≠ '\x7d' :: rest) :
    readValue (fuel + 1) cs = (readMembers fuel tail).map fun found => (ofMembers found.1, found.2) := by
  rw [← readMembers_skipSpace, readValue, hcs]
  split
  next heq => cases heq
  next heq => cases heq
  next heq => cases heq
  next heq => cases heq
  next heq => cases heq
  next heq =>
    cases heq
    split
    next rest heq => exact absurd heq (hne rest)
    next => rfl
  next hobject => exact absurd rfl (hobject tail)

/-- A list is read back if its items are. -/
theorem readsBack_list {items : List Json} (hitems : ∀ item ∈ items, item.ReadsBack)
    (hexact : AllExact items) : (Json.list items).ReadsBack := by
  refine readsBack_of_succ fun level fuel cs rest hcs _ hfuel => ?_
  cases items with
  | nil =>
      rw [readValue, hcs]
      rfl
  | cons item others =>
      have htext : prettyChars level (.list (item :: others)) ++ rest =
          '[' :: (prettyItems (level + 1) (item :: others) ++ (newLine level ++ ']' :: rest)) := by
        simp [prettyChars]
      have hlength : (prettyItems (level + 1) (item :: others)).length <
          (prettyChars level (.list (item :: others))).length := by
        simp [prettyChars]
      have hread := readItems_written hitems hexact (List.cons_ne_nil _ _) (level + 1) fuel level rest
        (by omega)
      obtain ⟨c, tail, hhead, hspace, hc, -⟩ := head_prettyChars hexact.1 (level + 1)
      -- The list is not read as the empty one: behind the new line stands its first item.
      have hfirst : ∃ after, prettyItems (level + 1) (item :: others) =
          newLine (level + 1) ++ c :: after := by
        cases others with
        | nil => exact ⟨tail, by rw [prettyItems, hhead]⟩
        | cons next others => exact ⟨_, by rw [prettyItems_cons, hhead, List.cons_append]⟩
      obtain ⟨after, hafter⟩ := hfirst
      rw [readValue_list (hcs.trans htext), hread]
      · rfl
      · intro r heq
        rw [hafter, List.append_assoc, List.cons_append,
          skipSpace_append (isSpace_newLine (level + 1)) hspace] at heq
        cases heq
        exact hc rfl

/-- An object is read back if its members are. -/
theorem readsBack_object {members : List (String × Json)}
    (hmembers : ∀ m ∈ members, m.2.ReadsBack) (hexact : AllMembersExact members) :
    (Json.object members).ReadsBack := by
  refine readsBack_of_succ fun level fuel cs rest hcs _ hfuel => ?_
  cases members with
  | nil =>
      rw [readValue, hcs]
      rfl
  | cons member others =>
      obtain ⟨name, value⟩ := member
      have htext : prettyChars level (.object ((name, value) :: others)) ++ rest =
          '\x7b' :: (prettyMembers (level + 1) ((name, value) :: others) ++
            (newLine level ++ '\x7d' :: rest)) := by
        simp [prettyChars]
      have hlength : (prettyMembers (level + 1) ((name, value) :: others)).length <
          (prettyChars level (.object ((name, value) :: others))).length := by
        simp [prettyChars]
      have hread := readMembers_written hmembers hexact (List.cons_ne_nil _ _) (level + 1) fuel level
        rest (by omega)
      -- The object is not read as the empty one: behind the new line stands its first name.
      have hfirst : ∃ after, prettyMembers (level + 1) ((name, value) :: others) =
          newLine (level + 1) ++ '"' :: after := by
        cases others with
        | nil => exact ⟨_, by rw [prettyMembers, writeText, List.append_assoc]; rfl⟩
        | cons next others => exact ⟨_, by rw [prettyMembers_cons, writeText]; rfl⟩
      obtain ⟨after, hafter⟩ := hfirst
      rw [readValue_object (hcs.trans htext), hread, Option.map_some, ofMembers_named]
      intro r heq
      rw [hafter, List.append_assoc, List.cons_append,
        skipSpace_append (isSpace_newLine (level + 1)) (by decide)] at heq
      cases heq

mutual
/-- An exact value is read back. -/
theorem readsBack : ∀ (j : Json), j.IsExact → j.ReadsBack
  | .null, hj => readsBack_of_succ fun level fuel cs rest hcs _ _ => by
      rw [readValue, hcs]
      rfl
  | .bool b, hj => readsBack_of_succ fun level fuel cs rest hcs _ _ => by
      rw [readValue, hcs]
      cases b <;> rfl
  | .int i, hj => readsBack_int hj
  | .text s, hj => readsBack_text s
  | .list items, hj => readsBack_list (readsBack_items items hj) hj
  | .object members, hj => readsBack_object (readsBack_members members hj) hj
  | .float _, hj => hj.elim
  | .unreadable, hj => hj.elim

/-- So are exact items. -/
theorem readsBack_items : ∀ (items : List Json), AllExact items → ∀ item ∈ items, item.ReadsBack
  | [], _ => List.forall_mem_nil _
  | item :: rest, h => List.forall_mem_cons.2 ⟨readsBack item h.1, readsBack_items rest h.2⟩

/-- So are exact members. -/
theorem readsBack_members : ∀ (members : List (String × Json)), AllMembersExact members →
    ∀ m ∈ members, m.2.ReadsBack
  | [], _ => List.forall_mem_nil _
  | (_, value) :: rest, h => List.forall_mem_cons.2 ⟨readsBack value h.1, readsBack_members rest h.2⟩
end

/-- The text of an exact value is read as that value. -/
theorem read?_pretty {j : Json} (hj : j.IsExact) : read? j.pretty = some j := by
  have hends : EndsNumber [] := by
    intro c hc
    cases hc
  obtain ⟨c, cs, hcons, hc, -⟩ := head_prettyChars hj 0
  have hskip : skipSpace (prettyChars 0 j) = prettyChars 0 j ++ [] := by
    rw [List.append_nil, hcons]
    exact skipSpace_append (List.forall_mem_nil _) hc
  have hread := readsBack j hj 0 (2 * (prettyChars 0 j).length + 2) _ [] hskip hends (by omega)
  rw [read?, pretty, String.toList_ofList]
  simp only [hread]
  rfl

end TypedJson.Json
