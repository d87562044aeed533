import TypedJson.Text.Blank

/-!
# Dates and times

A timestamp is a date of the Gregorian calendar and a time of day, with or without an offset from
universal time. `Timestamp.parse?` reads the forms in which JSON documents write it: the internet
form with an offset, the form without one, with a `T` or white space between date and time, and a
date alone. `Timestamp.text` writes one form, with as many digits of the second as microseconds
need.
-/

namespace TypedJson

open Text

/-- A date and a time of day. The second is 60 in a leap second. -/
structure Timestamp where
  year : Int
  month : Nat
  day : Nat
  hour : Nat
  minute : Nat
  second : Nat
  nanosecond : Nat
  /-- Minutes ahead of universal time. -/
  offset : Option Int
  deriving DecidableEq, Repr

namespace Timestamp

/-! ## The calendar -/

/-- The year has a day more in February. -/
def isLeapYear (year : Int) : Bool :=
  year % 4 = 0 && (year % 100 ≠ 0 || year % 400 = 0)

/-- The number of days of a month. -/
def daysIn (year : Int) (month : Nat) : Nat :=
  if month = 2 then (if isLeapYear year then 29 else 28)
  else if [4, 6, 9, 11].contains month then 30
  else 31

/-- The first year of the calendar. -/
def firstYear : Int := -262143

/-- The last year of the calendar. -/
def lastYear : Int := 262142

/-- The fields are those of a day of the calendar. -/
def isDate (year : Int) (month day : Nat) : Bool :=
  firstYear ≤ year && year ≤ lastYear && 1 ≤ month && month ≤ 12 && 1 ≤ day
    && day ≤ daysIn year month

/-- The fields are those of a time of day. -/
def isTime (hour minute second : Nat) : Bool :=
  hour < 24 && minute < 60 && second ≤ 60

/-! ## Reading -/

/-- The natural that decimal digits write. -/
def ofDigits (digits : List Char) : Nat :=
  digits.foldl (fun n c => n * 10 + (c.toNat - '0'.toNat)) 0

/-- Read at least `least` digits and no more than `most`. -/
def number? (least most : Nat) (cs : List Char) : Option (Nat × List Char) :=
  let digits := (cs.take most).takeWhile Char.isDigit
  if digits.length < least then none else some (ofDigits digits, cs.drop digits.length)

/-- Read the given character. -/
def char? (c : Char) : List Char → Option (List Char)
  | [] => none
  | d :: rest => if c = d then some rest else none

/-- Read a point and a fraction of a second, if there is a point. Nine digits count. -/
def fraction? : List Char → Option (Nat × List Char)
  | '.' :: rest => do
    let digits := (rest.take 9).takeWhile Char.isDigit
    if digits = [] then none
    else some (ofDigits digits * Nat.pow 10 (9 - digits.length), rest.dropWhile Char.isDigit)
  | cs => some (0, cs)

/-- Read an offset: the letter of universal time, or a sign, hours and minutes. -/
def offset? : List Char → Option (Int × List Char)
  | [] => none
  | c :: rest =>
    if c = 'Z' ∨ c = 'z' then some (0, rest)
    else if c = '+' ∨ c = '-' ∨ c = '\u2212' then do
      let (hours, rest) ← number? 2 2 rest
      let rest ← char? ':' rest
      let (minutes, rest) ← number? 2 2 rest
      if hours < 24 ∧ minutes < 60 then
        let ahead : Int := hours * 60 + minutes
        some (if c = '+' then ahead else -ahead, rest)
      else none
    else none

/-- Read the internet form: fields of full width, a date, a time and an offset. -/
def internet? (cs : List Char) : Option Timestamp := do
  let (year, cs) ← number? 4 4 cs
  let cs ← char? '-' cs
  let (month, cs) ← number? 2 2 cs
  let cs ← char? '-' cs
  let (day, cs) ← number? 2 2 cs
  let cs ← match cs with
    | c :: rest => if c = 'T' ∨ c = 't' ∨ c = ' ' then some rest else none
    | [] => none
  let (hour, cs) ← number? 2 2 cs
  let cs ← char? ':' cs
  let (minute, cs) ← number? 2 2 cs
  let cs ← char? ':' cs
  let (second, cs) ← number? 2 2 cs
  let (nanosecond, cs) ← fraction? cs
  let (offset, cs) ← offset? cs
  if cs = [] ∧ isDate year month day ∧ isTime hour minute second then
    some ⟨year, month, day, hour, minute, second, nanosecond, some offset⟩
  else none

/-- Read a year: up to four digits, or any number of them behind a sign. -/
def year? (cs : List Char) : Option (Int × List Char) :=
  match skipBlanks cs with
  | '-' :: rest => (number? 1 rest.length rest).map fun found => (-(found.1 : Int), found.2)
  | '+' :: rest => (number? 1 rest.length rest).map fun found => ((found.1 : Int), found.2)
  | rest => (number? 1 4 rest).map fun found => ((found.1 : Int), found.2)

/-- Read a field of one or two digits, with white space in front. -/
def field? (cs : List Char) : Option (Nat × List Char) :=
  number? 1 2 (skipBlanks cs)

/-- Read a date of any width. -/
def date? (cs : List Char) : Option ((Int × Nat × Nat) × List Char) := do
  let (year, cs) ← year? cs
  let cs ← char? '-' cs
  let (month, cs) ← field? cs
  let cs ← char? '-' cs
  let (day, cs) ← field? cs
  if isDate year month day then some ((year, month, day), cs) else none

/-- Read a date of any width, what `between` reads, and a time of any width without an offset. -/
def local? (between : List Char → Option (List Char)) (cs : List Char) : Option Timestamp := do
  let ((year, month, day), cs) ← date? cs
  let cs ← between cs
  let (hour, cs) ← field? cs
  let cs ← char? ':' cs
  let (minute, cs) ← field? cs
  let cs ← char? ':' cs
  let (second, cs) ← field? cs
  let (nanosecond, cs) ← fraction? cs
  if cs = [] ∧ isTime hour minute second then
    some ⟨year, month, day, hour, minute, second, nanosecond, none⟩
  else none

/-- Read a date alone, at whose start the day begins. -/
def dayStart? (cs : List Char) : Option Timestamp := do
  let ((year, month, day), cs) ← date? cs
  if cs = [] then some ⟨year, month, day, 0, 0, 0, 0, none⟩ else none

/-- Read a timestamp in the first form that fits, with white space around it. -/
def parse? (s : String) : Option Timestamp :=
  let cs := trimBlanks s.toList
  (internet? cs).orElse fun _ =>
  (local? (char? 'T') cs).orElse fun _ =>
  (local? (some ∘ skipBlanks) cs).orElse fun _ =>
  dayStart? cs

/-! ## Writing -/

/-- The timestamp has an offset. -/
def isAware (t : Timestamp) : Bool :=
  t.offset.isSome

/-- A natural in decimal digits, at least `width` of them. -/
def padded (width n : Nat) : List Char :=
  let digits := Nat.toDigits 10 n
  List.replicate (width - digits.length) '0' ++ digits

/-- A year in four digits, with a sign outside the range of four digits. -/
def yearText (year : Int) : List Char :=
  if 0 ≤ year ∧ year ≤ 9999 then padded 4 year.toNat
  else (if year < 0 then '-' else '+') :: padded 4 year.natAbs

/-- The microseconds behind a point, if there are any. -/
def fractionText (nanosecond : Nat) : List Char :=
  let micros := nanosecond / 1000
  if micros = 0 then [] else '.' :: padded 6 micros

/-- An offset in hours and minutes. -/
def offsetText : Option Int → List Char
  | none => []
  | some ahead =>
    (if ahead < 0 then '-' else '+') :: padded 2 (ahead.natAbs / 60)
      ++ ':' :: padded 2 (ahead.natAbs % 60)

/-- The timestamp in its written form. -/
def chars (t : Timestamp) : List Char :=
  yearText t.year ++ '-' :: padded 2 t.month ++ '-' :: padded 2 t.day
    ++ 'T' :: padded 2 t.hour ++ ':' :: padded 2 t.minute ++ ':' :: padded 2 t.second
    ++ fractionText t.nanosecond ++ offsetText t.offset

/-- The timestamp in its written form. -/
def text (t : Timestamp) : String :=
  String.ofList t.chars

end Timestamp

end TypedJson
