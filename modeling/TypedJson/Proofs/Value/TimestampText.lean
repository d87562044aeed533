import Mathlib
import TypedJson.Proofs.Text.Digits
import TypedJson.Value.Timestamp

/-!
# Timestamps and their texts

What is read is a timestamp of the calendar, and the written form of such a timestamp is read back
up to the part below microseconds, which is not written. `parse?_text` is the round trip, and
`text_truncated` says that writing once more gives the same text; so texts are stable under reading
and writing (`text_stable`).
-/

namespace TypedJson.Timestamp

open Text

/-! ## Fields -/

/-- The month and the day of a date have two digits. -/
theorem isDate_lt {year : Int} {month day : Nat} (h : isDate year month day) :
    month < 100 ∧ day < 100 := by
  have hdays : daysIn year month ≤ 31 := by
    rw [daysIn]
    split
    · split <;> decide
    · split <;> decide
  simp only [isDate, Bool.and_eq_true, decide_eq_true_eq] at h
  omega

/-- The fields of a time of day have two digits. -/
theorem isTime_lt {hour minute second : Nat} (h : isTime hour minute second) :
    hour < 100 ∧ minute < 100 ∧ second < 100 := by
  simp only [isTime, Bool.and_eq_true, decide_eq_true_eq] at h
  omega

/-! ## Rows of digits -/

/-- A row of digits writes the natural that its digits have in base ten. -/
theorem ofDigits_eq_ofDigitChars (ds : List Char) : ofDigits ds = Nat.ofDigitChars 10 ds 0 :=
  foldl_digits ds

/-- As many digits as a row has bound what it writes. -/
theorem ofDigits_lt {ds : List Char} (h : ∀ c ∈ ds, c.isDigit) :
    ofDigits ds < 10 ^ ds.length := by
  rw [ofDigits_eq_ofDigitChars]
  induction ds with
  | nil => simp
  | cons c ds ih =>
      have hrest := ih fun d hd => h d (List.mem_cons_of_mem _ hd)
      obtain ⟨hfirst, hlast⟩ : 48 ≤ c.toNat ∧ c.toNat ≤ 57 :=
        Char.isDigit_iff_toNat.1 (h c List.mem_cons_self)
      have hdigit : c.toNat - '0'.toNat < 10 := by
        show c.toNat - 48 < 10
        omega
      rw [Nat.ofDigitChars_cons, Nat.ofDigitChars_eq_ofDigitChars_zero, List.length_cons,
        Nat.pow_succ, Nat.mul_zero, Nat.zero_add]
      have hscaled := Nat.mul_le_mul_left (10 ^ ds.length) (Nat.le_of_lt_succ hdigit)
      omega

/-- The digits up to a width are a whole row if the width or the row ends there. -/
theorem takeWhile_digits {most : Nat} {ds rest : List Char} (hds : ∀ c ∈ ds, c.isDigit)
    (hmost : most = ds.length ∨ ds.length ≤ most ∧ rest.takeWhile Char.isDigit = []) :
    ((ds ++ rest).take most).takeWhile Char.isDigit = ds := by
  have hstop : (rest.take (most - ds.length)).takeWhile Char.isDigit = [] := by
    obtain rfl | ⟨-, hrest⟩ := hmost
    · rw [Nat.sub_self, List.take_zero, List.takeWhile_nil]
    · cases rest with
      | nil => rw [List.take_nil, List.takeWhile_nil]
      | cons c cs =>
          have hc : ¬ c.isDigit := fun hc => by simp [hc] at hrest
          cases most - ds.length with
          | zero => rfl
          | succ k => rw [List.take_succ_cons, List.takeWhile_cons_of_neg hc]
  have hwidth : ds.length ≤ most := by omega
  rw [List.take_append, List.take_of_length_le hwidth, List.takeWhile_append_of_pos hds, hstop,
    List.append_nil]

/-- A row of digits is read as a number if it is wide enough and the reading stops behind it. -/
theorem number?_digits {least most : Nat} {ds rest : List Char} (hds : ∀ c ∈ ds, c.isDigit)
    (hleast : least ≤ ds.length)
    (hmost : most = ds.length ∨ ds.length ≤ most ∧ rest.takeWhile Char.isDigit = []) :
    number? least most (ds ++ rest) = some (ofDigits ds, rest) := by
  rw [number?, takeWhile_digits hds hmost, if_neg (Nat.not_lt.2 hleast), List.drop_left]

/-- The digits that a number is read from are digits, no more than allowed. -/
theorem digits_of_take (most : Nat) (cs : List Char) :
    (∀ c ∈ (cs.take most).takeWhile Char.isDigit, c.isDigit) ∧
      ((cs.take most).takeWhile Char.isDigit).length ≤ most := by
  refine ⟨fun c hc => ?_, ?_⟩
  · exact List.all_eq_true.1 List.all_takeWhile c hc
  · exact Nat.le_trans (List.takeWhile_prefix _).length_le (List.length_take_le _ _)

/-- A number that is read has no more digits than allowed. -/
theorem number?_lt {least most n : Nat} {cs rest : List Char}
    (h : number? least most cs = some (n, rest)) : n < 10 ^ most := by
  rw [number?] at h
  split at h
  · cases h
  · obtain ⟨rfl, -⟩ := Prod.mk.inj (Option.some.inj h)
    obtain ⟨hdigits, hwidth⟩ := digits_of_take most cs
    exact Nat.lt_of_lt_of_le (ofDigits_lt hdigits) (Nat.pow_le_pow_right (by decide) hwidth)

/-! ## Padded numbers -/

variable {w n : Nat}

/-- A padded number consists of digits. -/
theorem isDigit_of_mem_padded {c : Char} (h : c ∈ padded w n) : c.isDigit := by
  rw [padded, List.mem_append] at h
  obtain hzero | hdigit := h
  · rw [List.eq_of_mem_replicate hzero]
    decide
  · exact Nat.isDigit_of_mem_toDigits (by decide) (by decide) hdigit

/-- Padding does not change what a number's digits write. -/
theorem ofDigits_padded : ofDigits (padded w n) = n := by
  rw [ofDigits_eq_ofDigitChars, padded, Nat.ofDigitChars_append, Nat.ofDigitChars_replicate_zero,
    Nat.mul_zero, Nat.ofDigitChars_ten_toDigits]

/-- Padding fills the width. -/
theorem le_length_padded : w ≤ (padded w n).length := by
  rw [padded, List.length_append, List.length_replicate]
  omega

/-- A number that fits into the width is padded to just that width. -/
theorem length_padded (hw : 0 < w) (h : n < 10 ^ w) : (padded w n).length = w := by
  have hfits := (Nat.length_toDigits_le_iff (by decide) hw).2 h
  rw [padded, List.length_append, List.length_replicate]
  omega

/-- A padded number starts with a digit. -/
theorem padded_eq_cons (hw : 0 < w) : ∃ c cs, padded w n = c :: cs ∧ c.isDigit := by
  cases h : padded w n with
  | nil =>
      have hwidth : w ≤ (padded w n).length := le_length_padded
      rw [h, List.length_nil] at hwidth
      omega
  | cons c cs => exact ⟨c, cs, rfl, isDigit_of_mem_padded (h ▸ List.mem_cons_self)⟩

/-- A padded number is read back as a field of its width. -/
theorem number?_padded (least : Nat) (rest : List Char) (hw : 0 < w) (hleast : least ≤ w)
    (h : n < 10 ^ w) : number? least w (padded w n ++ rest) = some (n, rest) := by
  have hwidth : (padded w n).length = w := length_padded hw h
  rw [number?_digits (fun c hc => isDigit_of_mem_padded hc) (by omega) (.inl hwidth.symm),
    ofDigits_padded]

/-- No white space stands before a padded number. -/
theorem skipBlanks_padded (rest : List Char) (hw : 0 < w) :
    skipBlanks (padded w n ++ rest) = padded w n ++ rest := by
  obtain ⟨c, cs, hcons, hc⟩ := padded_eq_cons (n := n) hw
  rw [hcons, List.cons_append, skipBlanks, List.dropWhile_cons_of_neg]
  rw [isBlank_digit hc]
  decide

/-- A number of two digits is read back as a field of any width. -/
theorem field?_padded (rest : List Char) (h : n < 100) :
    field? (padded 2 n ++ rest) = some (n, rest) := by
  rw [field?, skipBlanks_padded rest (by decide), number?_padded _ rest (by decide) (by decide) h]

/-! ## Fractions, offsets and dates -/

/-- A reader goes on behind what its first part has read. -/
theorem bind_eq_of_some {α β : Type} {x : Option α} {f : α → Option β} {a : α} {r : Option β}
    (hx : x = some a) (h : f a = r) : x >>= f = r := by
  rw [hx]
  exact h

/-- A character is read where it stands. -/
theorem char?_self (c : Char) (rest : List Char) : char? c (c :: rest) = some rest :=
  if_pos rfl

/-- The written fraction of a second is read back without the part below microseconds. -/
theorem fraction?_fractionText {ns : Nat} (rest : List Char) (hns : ns < 1000000000)
    (hdigit : rest.takeWhile Char.isDigit = []) (hpoint : rest.head? ≠ some '.') :
    fraction? (fractionText ns ++ rest) = some (ns / 1000 * 1000, rest) := by
  by_cases hmicros : ns / 1000 = 0
  · rw [fractionText, if_pos hmicros, List.nil_append, hmicros]
    cases rest with
    | nil => rfl
    | cons c cs =>
        have hc : c ≠ '.' := fun hc => hpoint (hc ▸ rfl)
        rw [fraction?]
        rintro tail heq
        exact hc (List.cons.inj heq).1
  · have hdigits : ∀ c ∈ padded 6 (ns / 1000), c.isDigit := fun c hc => isDigit_of_mem_padded hc
    have hwidth : (padded 6 (ns / 1000)).length = 6 := length_padded (by decide) (by omega)
    have hne : padded 6 (ns / 1000) ≠ [] := List.length_pos_iff.1 (by omega)
    have hread : ((padded 6 (ns / 1000) ++ rest).take 9).takeWhile Char.isDigit
        = padded 6 (ns / 1000) := takeWhile_digits hdigits (.inr ⟨by omega, hdigit⟩)
    have hrest : (padded 6 (ns / 1000) ++ rest).dropWhile Char.isDigit = rest := by
      have hsplit := List.takeWhile_append_dropWhile (p := Char.isDigit) (l := rest)
      rw [hdigit, List.nil_append] at hsplit
      rw [List.dropWhile_append_of_pos hdigits, hsplit]
    rw [fractionText, if_neg hmicros, List.cons_append, fraction?, hread, if_neg hne, hwidth,
      ofDigits_padded, hrest]

/-- A written offset is read back. -/
theorem offset?_offsetText {ahead : Int} (h : ahead.natAbs < 1440) :
    offset? (offsetText (some ahead)) = some (ahead, []) := by
  have hhours : ahead.natAbs / 60 < 24 := by omega
  have hminutes : ahead.natAbs % 60 < 60 := Nat.mod_lt _ (by decide)
  have hread := number?_padded 2 (':' :: padded 2 (ahead.natAbs % 60))
    (by decide) (Nat.le_refl 2) (show ahead.natAbs / 60 < 10 ^ 2 by omega)
  have hread' := number?_padded 2 []
    (by decide) (Nat.le_refl 2) (show ahead.natAbs % 60 < 10 ^ 2 by omega)
  rw [List.append_nil] at hread'
  have hfields : ahead.natAbs / 60 < 24 ∧ ahead.natAbs % 60 < 60 := ⟨hhours, hminutes⟩
  by_cases hsign : ahead < 0
  · have hahead : -((ahead.natAbs / 60 : Nat) * 60 + (ahead.natAbs % 60 : Nat) : Int) = ahead := by
      omega
    rw [offsetText, if_pos hsign, List.cons_append, offset?, if_neg (by decide),
      if_pos (.inr (.inl rfl)), hread]
    simp only [Option.bind_eq_bind, Option.bind_some, char?_self, hread']
    rw [if_pos hfields, if_neg (by decide), hahead]
  · have hahead : ((ahead.natAbs / 60 : Nat) * 60 + (ahead.natAbs % 60 : Nat) : Int) = ahead := by
      omega
    rw [offsetText, if_neg hsign, List.cons_append, offset?, if_neg (by decide),
      if_pos (.inl rfl), hread]
    simp only [Option.bind_eq_bind, Option.bind_some, char?_self, hread']
    rw [if_pos hfields, if_pos True.intro, hahead]

/-- A written year is read back, up to what cannot belong to it. -/
theorem year?_yearText (year : Int) (rest : List Char) (h : rest.takeWhile Char.isDigit = []) :
    year? (yearText year ++ rest) = some (year, rest) := by
  by_cases hplain : 0 ≤ year ∧ year ≤ 9999
  · obtain ⟨c, cs, hcons, hc⟩ := padded_eq_cons (w := 4) (n := year.toNat) (by decide)
    have hread := number?_padded 1 rest (by decide) (by decide)
      (show year.toNat < 10 ^ 4 by omega)
    rw [yearText, if_pos hplain, year?, skipBlanks_padded rest (by decide)]
    rw [hcons, List.cons_append] at hread ⊢
    split
    · rename_i heq
      cases heq
      exact absurd hc (by decide)
    · rename_i heq
      cases heq
      exact absurd hc (by decide)
    · rw [hread, Option.map_some, Int.toNat_of_nonneg hplain.1]
  · have hdigits : ∀ c ∈ padded 4 year.natAbs, c.isDigit := fun c hc => isDigit_of_mem_padded hc
    have hread : number? 1 (padded 4 year.natAbs ++ rest).length (padded 4 year.natAbs ++ rest)
        = some (ofDigits (padded 4 year.natAbs), rest) :=
      number?_digits hdigits (Nat.le_trans (by decide) le_length_padded) (.inr ⟨by simp, h⟩)
    rw [ofDigits_padded] at hread
    rw [yearText, if_neg hplain]
    by_cases hsign : year < 0
    · have hyear : -(year.natAbs : Int) = year := by omega
      rw [if_pos hsign, List.cons_append]
      show (number? 1 _ _).map _ = _
      rw [hread, Option.map_some, hyear]
    · have hyear : (year.natAbs : Int) = year := by omega
      rw [if_neg hsign, List.cons_append]
      show (number? 1 _ _).map _ = _
      rw [hread, Option.map_some, hyear]

/-- The date of the calendar is read back, up to what cannot belong to its day. -/
theorem date?_dateText {year : Int} {month day : Nat} (rest : List Char)
    (h : isDate year month day) :
    date? (yearText year ++ '-' :: (padded 2 month ++ '-' :: (padded 2 day ++ rest)))
      = some ((year, month, day), rest) := by
  obtain ⟨hmonth, hday⟩ := isDate_lt h
  rw [date?]
  refine bind_eq_of_some (year?_yearText year _ rfl) ?_
  refine bind_eq_of_some (char?_self '-' _) ?_
  refine bind_eq_of_some (field?_padded _ hmonth) ?_
  refine bind_eq_of_some (char?_self '-' _) ?_
  refine bind_eq_of_some (field?_padded _ hday) ?_
  exact if_pos h

/-- A date that is read is one of the calendar. -/
theorem date?_isDate {cs rest : List Char} {year : Int} {month day : Nat}
    (h : date? cs = some ((year, month, day), rest)) : isDate year month day := by
  simp only [date?, Option.bind_eq_bind, Option.bind_eq_some_iff, Prod.exists] at h
  obtain ⟨year, _, -, _, -, month, _, -, _, -, day, _, -, h⟩ := h
  split at h
  · rename_i hdate
    cases h
    exact hdate
  · cases h

/-! ## The round trip -/

/-- A timestamp that reading can give: a day of the calendar, a time of day, nine digits of a
fraction, and an offset of less than a day beside a year of four digits only. -/
structure WellFormed (t : Timestamp) : Prop where
  date : isDate t.year t.month t.day
  time : isTime t.hour t.minute t.second
  nanosecond : t.nanosecond < 1000000000
  offset : ∀ ahead, t.offset = some ahead → ahead.natAbs < 1440 ∧ 0 ≤ t.year ∧ t.year ≤ 9999

/-- The timestamp without the part below microseconds. -/
def truncated (t : Timestamp) : Timestamp :=
  { t with nanosecond := t.nanosecond / 1000 * 1000 }

/-- A timestamp of the calendar is written from its fields in order. -/
theorem chars_eq (t : Timestamp) :
    t.chars = yearText t.year ++ '-' :: (padded 2 t.month ++ '-' :: (padded 2 t.day
      ++ 'T' :: (padded 2 t.hour ++ ':' :: (padded 2 t.minute ++ ':' :: (padded 2 t.second
      ++ (fractionText t.nanosecond ++ offsetText t.offset)))))) := by
  simp only [chars, List.append_assoc, List.cons_append]

/-- A fraction of a second is less than a second. -/
theorem fraction?_lt {cs rest : List Char} {ns : Nat} (h : fraction? cs = some (ns, rest)) :
    ns < 1000000000 := by
  rw [fraction?.eq_def] at h
  split at h
  · rename_i tail
    obtain ⟨hdigits, hwidth⟩ := digits_of_take 9 tail
    generalize (tail.take 9).takeWhile Char.isDigit = digits at *
    dsimp only at h
    split at h
    · cases h
    · obtain ⟨rfl, -⟩ := Prod.mk.inj (Option.some.inj h)
      calc ofDigits digits * 10 ^ (9 - digits.length)
          < 10 ^ digits.length * 10 ^ (9 - digits.length) :=
            Nat.mul_lt_mul_of_pos_right (ofDigits_lt hdigits) (Nat.pow_pos (by decide))
        _ = 10 ^ 9 := by rw [← Nat.pow_add, Nat.add_sub_cancel' hwidth]
  · obtain ⟨rfl, -⟩ := Prod.mk.inj (Option.some.inj h)
    decide

/-- An offset is less than a day. -/
theorem offset?_lt {cs rest : List Char} {ahead : Int} (h : offset? cs = some (ahead, rest)) :
    ahead.natAbs < 1440 := by
  rw [offset?.eq_def] at h
  split at h
  · cases h
  · split at h
    · obtain ⟨rfl, -⟩ := Prod.mk.inj (Option.some.inj h)
      decide
    · split at h
      · simp only [Option.bind_eq_bind, Option.bind_eq_some_iff, Prod.exists] at h
        obtain ⟨hours, _, -, _, -, minutes, _, -, h⟩ := h
        split at h
        · rename_i hfields
          obtain ⟨rfl, -⟩ := Prod.mk.inj (Option.some.inj h)
          split <;> omega
        · cases h
      · cases h

/-- What is read in the internet form is a timestamp of the calendar. -/
theorem internet?_wellFormed {cs : List Char} {t : Timestamp} (h : internet? cs = some t) :
    t.WellFormed := by
  obtain ⟨⟨year, _⟩, hyear, h⟩ := Option.bind_eq_some_iff.1 h
  obtain ⟨_, -, h⟩ := Option.bind_eq_some_iff.1 h
  obtain ⟨⟨month, _⟩, -, h⟩ := Option.bind_eq_some_iff.1 h
  obtain ⟨_, -, h⟩ := Option.bind_eq_some_iff.1 h
  obtain ⟨⟨day, _⟩, -, h⟩ := Option.bind_eq_some_iff.1 h
  -- A blank or a T stands between date and time, and the fields are checked at the end.
  dsimp only at h
  split at h
  · split at h
    · obtain ⟨_, -, h⟩ := Option.bind_eq_some_iff.1 h
      obtain ⟨⟨hour, _⟩, -, h⟩ := Option.bind_eq_some_iff.1 h
      obtain ⟨_, -, h⟩ := Option.bind_eq_some_iff.1 h
      obtain ⟨⟨minute, _⟩, -, h⟩ := Option.bind_eq_some_iff.1 h
      obtain ⟨_, -, h⟩ := Option.bind_eq_some_iff.1 h
      obtain ⟨⟨second, _⟩, -, h⟩ := Option.bind_eq_some_iff.1 h
      obtain ⟨⟨ns, _⟩, hns, h⟩ := Option.bind_eq_some_iff.1 h
      obtain ⟨⟨ahead, _⟩, hahead, h⟩ := Option.bind_eq_some_iff.1 h
      split at h
      · rename_i hfields
        obtain ⟨-, hdate, htime⟩ := hfields
        cases h
        have hyear : year < 10 ^ 4 := number?_lt hyear
        refine ⟨hdate, htime, fraction?_lt hns, ?_⟩
        intro found hfound
        cases hfound
        exact ⟨offset?_lt hahead, Int.natCast_nonneg year, Int.ofNat_le.2 (Nat.le_of_lt_succ hyear)⟩
      · cases h
    · cases h
  · cases h

/-- What is read in a form without an offset is a timestamp of the calendar. -/
theorem local?_wellFormed {between : List Char → Option (List Char)} {cs : List Char}
    {t : Timestamp} (h : local? between cs = some t) : t.WellFormed := by
  simp only [local?, Option.bind_eq_bind, Option.bind_eq_some_iff, Prod.exists] at h
  obtain ⟨year, month, day, _, hdate, _, -, hour, _, -, _, -, minute, _, -, _, -, second, _, -, ns,
    _, hns, h⟩ := h
  split at h
  · rename_i hfields
    cases h
    exact ⟨date?_isDate hdate, hfields.2, fraction?_lt hns, fun _ hahead => by cases hahead⟩
  · cases h

/-- The day at whose start a date alone begins is a day of the calendar. -/
theorem dayStart?_wellFormed {cs : List Char} {t : Timestamp} (h : dayStart? cs = some t) :
    t.WellFormed := by
  simp only [dayStart?, Option.bind_eq_bind, Option.bind_eq_some_iff, Prod.exists] at h
  obtain ⟨year, month, day, _, hdate, h⟩ := h
  split at h
  · cases h
    exact ⟨date?_isDate hdate, rfl, Nat.succ_pos _, fun _ hahead => by cases hahead⟩
  · cases h

/-- What is read is a timestamp of the calendar. -/
theorem parse?_wellFormed {s : String} {t : Timestamp} (h : parse? s = some t) :
    t.WellFormed := by
  simp only [parse?, Option.orElse_eq_or, Option.or_eq_some_iff] at h
  obtain h | ⟨-, h | ⟨-, h | ⟨-, h⟩⟩⟩ := h
  · exact internet?_wellFormed h
  · exact local?_wellFormed h
  · exact local?_wellFormed h
  · exact dayStart?_wellFormed h

/-- An offset begins with neither a digit nor a point. -/
theorem offsetText_head (offset : Option Int) :
    (offsetText offset).takeWhile Char.isDigit = [] ∧ (offsetText offset).head? ≠ some '.' := by
  cases offset with
  | none => exact ⟨rfl, nofun⟩
  | some ahead =>
      rw [offsetText]
      split
      · exact ⟨rfl, fun h => absurd (Option.some.inj h) (by decide)⟩
      · exact ⟨rfl, fun h => absurd (Option.some.inj h) (by decide)⟩

/-- A number of two digits is read back as a field of two digits. -/
theorem number?_two (rest : List Char) (h : n < 100) :
    number? 2 2 (padded 2 n ++ rest) = some (n, rest) :=
  number?_padded _ rest (by decide) (by decide) h

/-- A timestamp with an offset is read back in the internet form. -/
theorem internet?_chars {t : Timestamp} (h : t.WellFormed) {ahead : Int}
    (hoffset : t.offset = some ahead) : internet? t.chars = some t.truncated := by
  obtain ⟨hdate, htime, hns, hbound⟩ := h
  obtain ⟨hahead, hleast, hmost⟩ := hbound ahead hoffset
  obtain ⟨hmonth, hday⟩ := isDate_lt hdate
  obtain ⟨hhour, hminute, hsecond⟩ := isTime_lt htime
  obtain ⟨hdigit, hpoint⟩ := offsetText_head t.offset
  have hyear (rest : List Char) : number? 4 4 (yearText t.year ++ rest)
      = some (t.year.toNat, rest) := by
    rw [yearText, if_pos ⟨hleast, hmost⟩]
    exact number?_padded _ rest (by decide) (by decide) (show t.year.toNat < 10 ^ 4 by omega)
  have hfraction := fraction?_fractionText (offsetText t.offset) hns hdigit hpoint
  have hread := offset?_offsetText hahead
  rw [hoffset] at hfraction
  have hcast : ((t.year.toNat : Nat) : Int) = t.year := Int.toNat_of_nonneg hleast
  rw [chars_eq, hoffset, internet?]
  -- The fields are read in the order of the text, each with its mark in front.
  refine bind_eq_of_some (hyear _) ?_
  refine bind_eq_of_some (char?_self '-' _) ?_
  refine bind_eq_of_some (number?_two _ hmonth) ?_
  refine bind_eq_of_some (char?_self '-' _) ?_
  refine bind_eq_of_some (number?_two _ hday) ?_
  refine bind_eq_of_some rfl ?_
  refine bind_eq_of_some (number?_two _ hhour) ?_
  refine bind_eq_of_some (char?_self ':' _) ?_
  refine bind_eq_of_some (number?_two _ hminute) ?_
  refine bind_eq_of_some (char?_self ':' _) ?_
  refine bind_eq_of_some (number?_two _ hsecond) ?_
  refine bind_eq_of_some hfraction ?_
  refine bind_eq_of_some hread ?_
  rw [hcast, truncated, hoffset]
  exact if_pos ⟨rfl, hdate, htime⟩

/-- A text without an offset has not the internet form. -/
theorem internet?_chars_naive {t : Timestamp} (h : t.WellFormed) (hoffset : t.offset = none) :
    internet? t.chars = none := by
  obtain ⟨hdate, htime, hns, -⟩ := h
  obtain ⟨hmonth, hday⟩ := isDate_lt hdate
  obtain ⟨hhour, hminute, hsecond⟩ := isTime_lt htime
  by_cases hplain : 0 ≤ t.year ∧ t.year ≤ 9999
  · have hyear (rest : List Char) : number? 4 4 (padded 4 t.year.toNat ++ rest)
        = some (t.year.toNat, rest) :=
      number?_padded _ rest (by decide) (by decide) (show t.year.toNat < 10 ^ 4 by omega)
    have hfraction := fraction?_fractionText [] hns rfl nofun
    rw [chars_eq, yearText, if_pos hplain, hoffset, internet?]
    refine bind_eq_of_some (hyear _) ?_
    refine bind_eq_of_some (char?_self '-' _) ?_
    refine bind_eq_of_some (number?_two _ hmonth) ?_
    refine bind_eq_of_some (char?_self '-' _) ?_
    refine bind_eq_of_some (number?_two _ hday) ?_
    refine bind_eq_of_some rfl ?_
    refine bind_eq_of_some (number?_two _ hhour) ?_
    refine bind_eq_of_some (char?_self ':' _) ?_
    refine bind_eq_of_some (number?_two _ hminute) ?_
    refine bind_eq_of_some (char?_self ':' _) ?_
    refine bind_eq_of_some (number?_two _ hsecond) ?_
    exact bind_eq_of_some hfraction rfl
  -- A year with a sign is no four digits.
  · have hsign (c : Char) (cs : List Char) (hc : ¬ c.isDigit) : number? 4 4 (c :: cs) = none := by
      rw [number?, List.take_succ_cons, List.takeWhile_cons_of_neg hc]
      rfl
    have hyear (rest : List Char) : number? 4 4 (yearText t.year ++ rest) = none := by
      rw [yearText, if_neg hplain, List.cons_append]
      split
      · exact hsign _ _ (by decide)
      · exact hsign _ _ (by decide)
    rw [chars_eq, internet?, hyear]
    rfl

/-- A timestamp without an offset is read back in the form without one. -/
theorem local?_chars {t : Timestamp} (h : t.WellFormed) (hoffset : t.offset = none) :
    local? (char? 'T') t.chars = some t.truncated := by
  obtain ⟨hdate, htime, hns, -⟩ := h
  obtain ⟨hhour, hminute, hsecond⟩ := isTime_lt htime
  have hfraction := fraction?_fractionText [] hns rfl nofun
  rw [chars_eq, hoffset, local?, truncated, hoffset]
  refine bind_eq_of_some (date?_dateText _ hdate) ?_
  refine bind_eq_of_some (char?_self 'T' _) ?_
  refine bind_eq_of_some (field?_padded _ hhour) ?_
  refine bind_eq_of_some (char?_self ':' _) ?_
  refine bind_eq_of_some (field?_padded _ hminute) ?_
  refine bind_eq_of_some (char?_self ':' _) ?_
  refine bind_eq_of_some (field?_padded _ hsecond) ?_
  refine bind_eq_of_some hfraction ?_
  exact if_pos ⟨rfl, htime⟩

/-- A written timestamp ends in a number. -/
theorem padded_suffix_chars (t : Timestamp) : ∃ w n, 0 < w ∧ padded w n <:+ t.chars := by
  rw [chars]
  cases t.offset with
  | some ahead =>
      refine ⟨2, ahead.natAbs % 60, by decide, ?_⟩
      apply List.suffix_append_of_suffix
      apply List.suffix_append_of_suffix
      exact List.suffix_cons _ _
  | none =>
      rw [offsetText, List.append_nil, fractionText]
      by_cases hmicros : t.nanosecond / 1000 = 0
      · refine ⟨2, t.second, by decide, ?_⟩
        rw [if_pos hmicros, List.append_nil]
        exact List.suffix_append_of_suffix (List.suffix_cons _ _)
      · refine ⟨6, t.nanosecond / 1000, by decide, ?_⟩
        rw [if_neg hmicros]
        exact List.suffix_append_of_suffix (List.suffix_cons _ _)

/-- A written timestamp has no white space at its ends. -/
theorem trimBlanks_chars (t : Timestamp) : trimBlanks t.chars = t.chars := by
  apply trimBlanks_eq
  · intro c hc
    by_cases hplain : 0 ≤ t.year ∧ t.year ≤ 9999
    · obtain ⟨d, ds, hcons, hd⟩ := padded_eq_cons (w := 4) (n := t.year.toNat) (by decide)
      rw [chars_eq, yearText, if_pos hplain, hcons] at hc
      cases hc
      exact isBlank_digit hd
    · rw [chars_eq, yearText, if_neg hplain] at hc
      cases hc
      split <;> decide
  · intro c hc
    obtain ⟨w, n, hw, front, hchars⟩ := padded_suffix_chars t
    have hne : padded w n ≠ [] := by
      obtain ⟨d, ds, hcons, -⟩ := padded_eq_cons (n := n) hw
      exact hcons ▸ List.cons_ne_nil d ds
    rw [← hchars, List.getLast?_append, List.getLast?_eq_some_getLast hne, Option.some_or] at hc
    cases hc
    exact isBlank_digit (isDigit_of_mem_padded (List.getLast_mem hne))

/-- A written timestamp is read back without the part below microseconds. -/
theorem parse?_text {t : Timestamp} (h : t.WellFormed) : parse? t.text = some t.truncated := by
  rw [parse?, text, String.toList_ofList, trimBlanks_chars]
  cases hoffset : t.offset with
  | none => rw [internet?_chars_naive h hoffset, local?_chars h hoffset]; rfl
  | some ahead => rw [internet?_chars h hoffset]; rfl

/-- Nothing that is written is below microseconds. -/
theorem text_truncated (t : Timestamp) : t.truncated.text = t.text := by
  have hmicros : t.nanosecond / 1000 * 1000 / 1000 = t.nanosecond / 1000 :=
    Nat.mul_div_cancel _ (by decide)
  simp only [text, chars, truncated, fractionText, hmicros]

/-- Whatever is read is written as a text that is read as the same timestamp without the part below
microseconds, and is written in the same way then. -/
theorem text_stable {s : String} {t : Timestamp} (h : parse? s = some t) :
    ∃ t', parse? t.text = some t' ∧ t'.isAware = t.isAware ∧
      t' = { t with nanosecond := t.nanosecond / 1000 * 1000 } ∧ t'.text = t.text :=
  ⟨t.truncated, parse?_text (parse?_wellFormed h), rfl, rfl, text_truncated t⟩

/-- A leap second behind universal time with twelve digits of a fraction keeps six of them. -/
theorem text_stable_leap_second :
    let t : Timestamp := ⟨2016, 12, 31, 23, 59, 60, 123456789, some (-330)⟩
    parse? " 2016-12-31 23:59:60.123456789012\u221205:30" = some t ∧
      t.text = "2016-12-31T23:59:60.123456-05:30" ∧
      ∃ t', parse? t.text = some t' ∧ t' = { t with nanosecond := 123456000 } ∧
        t'.text = t.text := by
  intro t
  have hparse : parse? " 2016-12-31 23:59:60.123456789012\u221205:30" = some t := by decide +kernel
  obtain ⟨_, hread, -, rfl, htext⟩ := text_stable hparse
  exact ⟨hparse, by decide +kernel, _, hread, by decide +kernel, htext⟩

end TypedJson.Timestamp
