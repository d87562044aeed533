import TypedJson.Proofs.Script.Docstring
import TypedJson.Proofs.Script.Printing

/-!
# Literals read back

A literal is read from left to right, escapes first, up to the first quote that is not escaped. The
literal of a text consists of printable ASCII characters and is read as that text, with nothing left
behind it (`literal_denotes`). A version of the language that marks texts knows escapes of four and
eight digits in marked literals only, so that the mark is there whenever one of them is used.
-/

namespace TypedJson.Script

open Code

/-! ## Reading -/

/-- The character that a backslash and the given one stand for. -/
def escaped? : Char → Option Char
  | '\\' => some '\\'
  | '"' => some '"'
  | 'n' => some '\n'
  | 'r' => some '\r'
  | 't' => some '\t'
  | _ => none

/-- The character whose code is written in hexadecimal digits, if there is one. -/
def coded? (digits : List Char) : Option Char :=
  (hexFrom? 0 digits).bind fun n => if n.isValidChar then some (Char.ofNat n) else none

/-- Put a character, if there is one, in front of what is read behind it. -/
def readCharBehind (c : Option Char) (read : Option (List Char × List Char)) :
    Option (List Char × List Char) :=
  c.bind fun c => readBehind [c] read

/-- Read the inside of a literal: its content up to the first quote that is not escaped, and what
stands behind that. Codes of four and eight digits are escapes in `wide` literals only. -/
def readQuoted (wide : Bool) : List Char → Option (List Char × List Char)
  | [] => none
  | '"' :: rest => some ([], rest)
  | '\\' :: 'x' :: a :: b :: rest => readCharBehind (coded? [a, b]) (readQuoted wide rest)
  | '\\' :: 'u' :: a :: b :: c :: d :: rest =>
    if wide then readCharBehind (coded? [a, b, c, d]) (readQuoted wide rest) else none
  | '\\' :: 'U' :: a :: b :: c :: d :: e :: f :: g :: h :: rest =>
    if wide then readCharBehind (coded? [a, b, c, d, e, f, g, h]) (readQuoted wide rest) else none
  | '\\' :: c :: rest => readCharBehind (escaped? c) (readQuoted wide rest)
  | c :: rest =>
    if c = '\\' ∨ c = '\n' ∨ c = '\r' then none else readBehind [c] (readQuoted wide rest)

/-- The content of a literal with nothing behind it. Where texts are marked, only a marked literal
is wide. -/
def readLiteral? (marked : Bool) (cs : List Char) : Option (List Char) :=
  let read := match cs with
    | 'u' :: '"' :: body => readQuoted true body
    | '"' :: body => readQuoted (!marked) body
    | _ => none
  read.bind fun read => if read.2 = [] then some read.1 else none

variable {wide : Bool} {c : Char} {rest : List Char}

/-- A character that is no quote, no backslash and no end of a line is read as itself. -/
theorem readQuoted_plain (hback : c ≠ '\\') (hquote : c ≠ '"') (hline : c ≠ '\n')
    (hreturn : c ≠ '\r') : readQuoted wide (c :: rest) = readBehind [c] (readQuoted wide rest) := by
  rw [readQuoted]
  · rw [if_neg (by simp [hback, hline, hreturn])]
  all_goals simp_all

/-- An escaped character is read as what it stands for. -/
theorem readQuoted_escaped {mark : Char} (h : escaped? mark = some c) :
    readQuoted wide ('\\' :: mark :: rest) = readBehind [c] (readQuoted wide rest) := by
  have hcode {code : Char} (hcode : escaped? code = none) : mark ≠ code := by
    rintro rfl
    rw [hcode] at h
    cases h
  rw [readQuoted, h]
  · rfl
  · exact fun _ _ _ hmark => absurd hmark (hcode rfl)
  · exact fun _ _ _ _ _ hmark => absurd hmark (hcode rfl)
  · exact fun _ _ _ _ _ _ _ _ _ hmark => absurd hmark (hcode rfl)

/-- The digits of the code of a character give the character. -/
theorem coded?_hexDigits (width : Nat) (c : Char) : coded? (hexDigits width c.toNat) = some c := by
  have hvalid : c.toNat.isValidChar := c.valid
  rw [coded?, hexFrom?_hexDigits, Option.bind_some, if_pos hvalid, Char.ofNat_toNat]

/-- A character below 256 is read from two digits. -/
theorem readQuoted_two (h : c.toNat < Nat.pow 16 2) :
    readQuoted wide ('\\' :: 'x' :: hexDigits 2 c.toNat ++ rest) =
      readBehind [c] (readQuoted wide rest) := by
  have hcode := coded?_hexDigits 2 c
  have hlength := length_hexDigits (by decide) h
  generalize hexDigits 2 c.toNat = digits at hcode hlength ⊢
  match digits, hlength with
  | [_, _], _ => exact congrArg (readCharBehind · (readQuoted wide rest)) hcode

/-- One below 65536 is read from four digits in a wide literal. -/
theorem readQuoted_four (h : c.toNat < Nat.pow 16 4) :
    readQuoted true ('\\' :: 'u' :: hexDigits 4 c.toNat ++ rest) =
      readBehind [c] (readQuoted true rest) := by
  have hcode := coded?_hexDigits 4 c
  have hlength := length_hexDigits (by decide) h
  generalize hexDigits 4 c.toNat = digits at hcode hlength ⊢
  match digits, hlength with
  | [_, _, _, _], _ => exact congrArg (readCharBehind · (readQuoted true rest)) hcode

/-- Any character is read from eight digits there. -/
theorem readQuoted_eight : readQuoted true ('\\' :: 'U' :: hexDigits 8 c.toNat ++ rest) =
    readBehind [c] (readQuoted true rest) := by
  have hcode := coded?_hexDigits 8 c
  have hlength : (hexDigits 8 c.toNat).length = 8 :=
    length_hexDigits (by decide) (show c.toNat < 4294967296 from c.val.toNat_lt)
  generalize hexDigits 8 c.toNat = digits at hcode hlength ⊢
  match digits, hlength with
  | [_, _, _, _, _, _, _, _], _ => exact congrArg (readCharBehind · (readQuoted true rest)) hcode

/-! ## Literals -/

/-- A character as it stands in a literal is read as itself, in a wide literal if it is beyond
ASCII. -/
theorem readQuoted_literalChar (h : 0x80 ≤ c.toNat → wide) :
    readQuoted wide (literalChar c ++ rest) = readBehind [c] (readQuoted wide rest) := by
  unfold literalChar
  split
  next hc => exact readQuoted_escaped (congrArg some hc.symm)
  split
  next hc => exact readQuoted_escaped (congrArg some hc.symm)
  split
  next hc => exact readQuoted_escaped (congrArg some hc.symm)
  split
  next hc => exact readQuoted_escaped (congrArg some hc.symm)
  split
  next hc => exact readQuoted_escaped (congrArg some hc.symm)
  split
  next hc => exact readQuoted_two (show c.toNat < 256 by omega)
  split
  next hc => exact readQuoted_plain ‹_› ‹_› ‹_› ‹_›
  next hbeyond =>
    obtain rfl := h (Nat.le_of_not_lt hbeyond)
    split
    next hc => exact readQuoted_four (Nat.lt_succ_of_le hc)
    next => exact readQuoted_eight

/-- The characters of a text are read as the text, up to the closing quote. -/
theorem readQuoted_flatMap {cs : List Char} (h : ∀ c ∈ cs, 0x80 ≤ c.toNat → wide) :
    readQuoted wide (cs.flatMap literalChar ++ '"' :: rest) = some (cs, rest) := by
  induction cs with
  | nil => rfl
  | cons c cs ih =>
    obtain ⟨hc, hcs⟩ := List.forall_mem_cons.1 h
    rw [List.flatMap_cons, List.append_assoc, readQuoted_literalChar hc, ih hcs]
    rfl

/-- The literal of a text is read as the text. -/
theorem readLiteral?_literalChars (marked : Bool) (cs : List Char) :
    readLiteral? marked (literalChars marked cs) = some cs := by
  have hread {wide : Bool} (h : ∀ c ∈ cs, 0x80 ≤ c.toNat → wide) :
      (readQuoted wide (cs.flatMap literalChar ++ ['"'])).bind (fun read =>
        if read.2 = [] then some read.1 else none) = some cs := by
    rw [readQuoted_flatMap h]
    rfl
  unfold literalChars
  dsimp only
  split
  · exact hread fun _ _ _ => rfl
  next h =>
    -- Without a mark, the version knows wide escapes anyway or nothing is beyond ASCII.
    refine hread fun c hc hbeyond => ?_
    cases marked with
    | false => rfl
    | true => exact absurd (List.any_eq_true.2 ⟨c, hc, decide_eq_true hbeyond⟩) h

/-- Texts of different content have different literals. -/
theorem literal_injective (marked : Bool) : Function.Injective (literal marked) := by
  intro s t h
  have hchars : literalChars marked s.toList = literalChars marked t.toList := String.ofList_inj.1 h
  have hread := readLiteral?_literalChars marked s.toList
  rw [hchars, readLiteral?_literalChars] at hread
  exact String.toList_inj.1 (Option.some.inj hread).symm

/-! ## Characters of literals -/

/-- The character is printable and of ASCII. -/
def IsPrintable (c : Char) : Prop :=
  0x20 ≤ c.toNat ∧ c.toNat < 0x7F

/-- What holds of the sixteen digits holds of those of every number. -/
theorem forall_mem_hexDigits {p : Char → Prop} (h : ∀ d < 16, p (Nat.digitChar d))
    (width n : Nat) : ∀ c ∈ hexDigits width n, p c := by
  have hdigits : ∀ c ∈ Nat.toDigits 16 n, p c := by
    induction n using Nat.strongRecOn with
    | ind n ih =>
      rw [Nat.toDigits_eq_if (by decide)]
      split
      next hlt => exact List.forall_mem_singleton.2 (h n hlt)
      next =>
        rw [List.forall_mem_append]
        refine ⟨ih (n / 16) (by omega), List.forall_mem_singleton.2 ?_⟩
        exact h _ (Nat.mod_lt _ (by decide))
  unfold hexDigits
  rw [List.forall_mem_append]
  refine ⟨fun c hc => ?_, hdigits⟩
  rw [List.eq_of_mem_replicate hc]
  exact h 0 (by decide)

/-- Hexadecimal digits are printable. -/
theorem isPrintable_hexDigits (width n : Nat) : ∀ c ∈ hexDigits width n, IsPrintable c :=
  forall_mem_hexDigits (p := IsPrintable) (by unfold IsPrintable; decide) width n

/-- A character stands in a literal as printable ones. -/
theorem isPrintable_literalChar (c : Char) : ∀ d ∈ literalChar c, IsPrintable d := by
  have hcode (mark : Char) (hmark : IsPrintable mark) (width : Nat) :
      ∀ d ∈ '\\' :: mark :: hexDigits width c.toNat, IsPrintable d :=
    List.forall_mem_cons.2 ⟨⟨by decide, by decide⟩,
      List.forall_mem_cons.2 ⟨hmark, isPrintable_hexDigits width c.toNat⟩⟩
  have hpair (mark : Char) (hmark : IsPrintable mark) : ∀ d ∈ ['\\', mark], IsPrintable d :=
    List.forall_mem_cons.2 ⟨⟨by decide, by decide⟩, List.forall_mem_singleton.2 hmark⟩
  unfold literalChar
  split
  next => exact hpair _ ⟨by decide, by decide⟩
  split
  next => exact hpair _ ⟨by decide, by decide⟩
  split
  next => exact hpair _ ⟨by decide, by decide⟩
  split
  next => exact hpair _ ⟨by decide, by decide⟩
  split
  next => exact hpair _ ⟨by decide, by decide⟩
  split
  next => exact hcode _ ⟨by decide, by decide⟩ 2
  split
  next => exact List.forall_mem_singleton.2 (by unfold IsPrintable; omega)
  split
  next => exact hcode _ ⟨by decide, by decide⟩ 4
  next => exact hcode _ ⟨by decide, by decide⟩ 8

/-- A literal consists of printable characters. -/
theorem isPrintable_literal (marked : Bool) (s : String) :
    ∀ c ∈ (literal marked s).toList, IsPrintable c := by
  have hinside : ∀ c ∈ s.toList.flatMap literalChar, IsPrintable c := by
    intro c hc
    obtain ⟨d, -, hd⟩ := List.mem_flatMap.1 hc
    exact isPrintable_literalChar d c hd
  have hquote : IsPrintable '"' := ⟨by decide, by decide⟩
  have hquoted : ∀ c ∈ '"' :: s.toList.flatMap literalChar ++ ['"'], IsPrintable c :=
    List.forall_mem_append.2 ⟨List.forall_mem_cons.2 ⟨hquote, hinside⟩,
      List.forall_mem_singleton.2 hquote⟩
  rw [literal, String.toList_ofList, literalChars]
  split
  · exact List.forall_mem_cons.2 ⟨⟨by decide, by decide⟩, hquoted⟩
  · exact hquoted

/-- The literal of a text is of printable ASCII characters, and is one literal, marked or not, that
stands for the text. So texts of different content have different literals. -/
theorem literal_denotes (marked : Bool) :
    (∀ s, (∀ c ∈ (literal marked s).toList, IsPrintable c) ∧
      readLiteral? marked (literal marked s).toList = some s.toList) ∧
    Function.Injective (literal marked) := by
  refine ⟨fun s => ⟨isPrintable_literal marked s, ?_⟩, literal_injective marked⟩
  rw [literal, String.toList_ofList]
  exact readLiteral?_literalChars marked s.toList

example : literal true "\té" = "u\"\\t\\u00e9\"" := by decide +kernel

end TypedJson.Script
