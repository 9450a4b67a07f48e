import TargetRegistrar.Text

/-!
# Instants

A point in time as its calendar date and time of day in UTC. A leap second is the second 60 of its
minute, whatever the minute, so that it differs from the second after it. The calendar is the
Gregorian one, extended to both sides as far as the years `firstYear` to `lastYear`.

As text an instant has the format of RFC 3339. It is written in UTC with the mark `Z`; a year of
other than four digits is written with its sign. Reading is more liberal than writing: numbers may
lack their leading zeros and have blanks around them, the zone may be any offset of less than a day,
and digits beyond the nanoseconds are dropped. The strict reader takes the format to the letter: all
numbers have all their places, nothing stands between the parts, and a leap second occurs only where
one can be inserted, at the end of a month in UTC.
-/

namespace TargetRegistrar

/-- Whether a year has a 29th of February. -/
def isLeapYear (year : Int) : Bool :=
  year % 4 = 0 && (year % 100 ≠ 0 || year % 400 = 0)

/-- The number of days in a month. -/
def daysInMonth (year : Int) (month : Nat) : Nat :=
  if month = 2 then if isLeapYear year then 29 else 28
  else if month = 4 ∨ month = 6 ∨ month = 9 ∨ month = 11 then 30
  else 31

/-- The first year of the calendar. -/
def firstYear : Int := -262143

/-- The last year of the calendar. -/
def lastYear : Int := 262142

/-- A day of the calendar. -/
structure Date where
  /-- The year; the one before year 1 is year 0. -/
  year : Int
  /-- The month, from 1. -/
  month : Nat
  /-- The day of the month, from 1. -/
  day : Nat
  valid : firstYear ≤ year ∧ year ≤ lastYear ∧ 1 ≤ month ∧ month ≤ 12 ∧ 1 ≤ day ∧
    day ≤ daysInMonth year month
  deriving DecidableEq, Repr

namespace Date

/-- The day with these numbers, if there is one. -/
def mk? (year : Int) (month day : Nat) : Option Date :=
  if h : firstYear ≤ year ∧ year ≤ lastYear ∧ 1 ≤ month ∧ month ≤ 12 ∧ 1 ≤ day ∧
      day ≤ daysInMonth year month then
    some ⟨year, month, day, h⟩
  else none

/-- The day after, unless it is the last one of the calendar. -/
def next? (d : Date) : Option Date :=
  if d.day < daysInMonth d.year d.month then mk? d.year d.month (d.day + 1)
  else if d.month < 12 then mk? d.year (d.month + 1) 1
  else mk? (d.year + 1) 1 1

/-- The day before, unless it is the first one of the calendar. -/
def previous? (d : Date) : Option Date :=
  if 1 < d.day then mk? d.year d.month (d.day - 1)
  else if 1 < d.month then mk? d.year (d.month - 1) (daysInMonth d.year (d.month - 1))
  else mk? (d.year - 1) 12 31

theorem mk?_self (d : Date) : mk? d.year d.month d.day = some d := by
  simp [mk?, d.valid]

end Date

/-- A point in time. -/
structure Timestamp where
  /-- The day, in UTC. -/
  date : Date
  hour : Nat
  minute : Nat
  /-- The second of the minute; 60 is a leap second. -/
  second : Nat
  nanos : Nat
  valid : hour < 24 ∧ minute < 60 ∧ second ≤ 60 ∧ nanos < 1000000000
  deriving DecidableEq, Repr

namespace Timestamp

/-- The instant with this date and time of day in UTC, if there is one. -/
def mk? (date : Date) (hour minute second nanos : Nat) : Option Timestamp :=
  if h : hour < 24 ∧ minute < 60 ∧ second ≤ 60 ∧ nanos < 1000000000 then
    some ⟨date, hour, minute, second, nanos, h⟩
  else none

/-- The instant at which clocks that are `offset` minutes ahead of UTC show this date and time. -/
def ofLocal? (date : Date) (hour minute second nanos : Nat) (offset : Int) : Option Timestamp :=
  let minutes := (hour * 60 + minute : Int) - offset
  let day? :=
    if minutes < 0 then date.previous?
    else if 1440 ≤ minutes then date.next?
    else some date
  day?.bind fun day =>
    mk? day ((minutes % 1440).toNat / 60) ((minutes % 1440).toNat % 60) second nanos

theorem mk?_self (t : Timestamp) : mk? t.date t.hour t.minute t.second t.nanos = some t := by
  simp [mk?, t.valid]

end Timestamp

end TargetRegistrar

namespace TargetRegistrar.Timestamp

open TargetRegistrar.Text

/-! ## Texts to the letter -/

namespace Strict

/-- A number of a fixed count of digits, and the rest. -/
def number? (places : Nat) (cs : List Char) : Option (Nat × List Char) :=
  if (cs.take places).length = places ∧ (cs.take places).all isDigit then
    some (digitsValue (cs.take places), cs.drop places)
  else none

/-- The rest after one of some marks. -/
def mark? (marks : List Char) : List Char → Option (List Char)
  | c :: cs => if c ∈ marks then some cs else none
  | [] => none

/-- A date, and the rest. -/
def date? (cs : List Char) : Option (Date × List Char) := do
  let (year, cs) ← number? 4 cs
  let (month, cs) ← number? 2 (← mark? ['-'] cs)
  let (day, cs) ← number? 2 (← mark? ['-'] cs)
  return (← Date.mk? year month day, cs)

/-- The rest after an optional fraction. -/
def fraction? : List Char → Option (List Char)
  | '.' :: c :: cs => if isDigit c then some (cs.dropWhile isDigit) else none
  | cs => some cs

/-- How many minutes the clocks of a zone are ahead of UTC. -/
def zone? : List Char → Option Int
  | ['Z'] => some 0
  | ['z'] => some 0
  | cs => do
    let (hour, rest) ← number? 2 (← mark? ['+', '-'] cs)
    let (minute, rest) ← number? 2 (← mark? [':'] rest)
    if hour < 24 ∧ minute < 60 ∧ rest = [] then
      some (if cs.head? = some '-' then -(60 * hour + minute : Int) else 60 * hour + minute)
    else none

/-- Whether this is the last minute of a month in UTC. -/
def endsMonth (t : Timestamp) : Bool :=
  t.hour = 23 && t.minute = 59 && t.date.day = daysInMonth t.date.year t.date.month

end Strict

/-- Whether a text shows an instant to the letter of the format. -/
def isStrictText (cs : List Char) : Bool :=
  Option.isSome do
    let (date, cs) ← Strict.date? cs
    let (hour, cs) ← Strict.number? 2 (← Strict.mark? ['T', 't'] cs)
    let (minute, cs) ← Strict.number? 2 (← Strict.mark? [':'] cs)
    let (second, cs) ← Strict.number? 2 (← Strict.mark? [':'] cs)
    let offset ← Strict.zone? (← Strict.fraction? cs)
    guard (hour < 24 ∧ minute < 60)
    guard (second < 60 ∨
      (second = 60 ∧ (ofLocal? date hour minute second 0 offset).any Strict.endsMonth))

example : isStrictText "2016-12-31T18:59:60.5-05:00".toList = true ∧
    isStrictText "2016-12-30T23:59:60Z".toList = false := by decide +kernel

/-! ## Texts, liberally -/

/-! ### Writing -/

/-- How much of a second is written. -/
inductive Precision where
  | seconds
  /-- As many groups of three places as the fraction needs. -/
  | exact
  deriving DecidableEq, Repr

/-- A year: four digits, or a sign and at least four digits outside the years 0 to 9999. -/
def writtenYear (year : Int) : String :=
  if 0 ≤ year ∧ year ≤ 9999 then padded 4 year.toNat
  else (if year < 0 then "-" else "+") ++ padded 4 year.natAbs

/-- The fraction of a second. -/
def writtenFraction (nanos : Nat) : String :=
  if nanos = 0 then ""
  else if nanos % 1000000 = 0 then "." ++ padded 3 (nanos / 1000000)
  else if nanos % 1000 = 0 then "." ++ padded 6 (nanos / 1000)
  else "." ++ padded 9 nanos

/-- An instant in UTC. -/
def write (precision : Precision) (t : Timestamp) : String :=
  writtenYear t.date.year ++ "-" ++ padded 2 t.date.month ++ "-" ++ padded 2 t.date.day ++ "T" ++
    padded 2 t.hour ++ ":" ++ padded 2 t.minute ++ ":" ++ padded 2 t.second ++
    (match precision with
      | .seconds => ""
      | .exact => writtenFraction t.nanos) ++ "Z"

/-! ### Reading

Each reader takes the text that is left and returns what it read together with the rest. -/

/-- One up to `most` digits. -/
def digits? (most : Nat) (cs : List Char) : Option (List Char × List Char) :=
  let ds := (cs.take most).takeWhile isDigit
  if ds.isEmpty then none else some (ds, cs.drop ds.length)

/-- A number of up to `most` digits after any blanks. -/
def numberOf? (most : Nat) (cs : List Char) : Option (Nat × List Char) :=
  (digits? most (trimStart cs)).map fun (ds, rest) => (digitsValue ds, rest)

/-- The rest after a mark that may follow blanks. -/
def mark? (c : Char) (cs : List Char) : Option (List Char) :=
  match trimStart cs with
  | d :: rest => if d = c then some rest else none
  | [] => none

/-- A year: up to four digits, or a sign and any number of them. -/
def year? (cs : List Char) : Option (Int × List Char) :=
  match trimStart cs with
  | '-' :: rest => (digits? rest.length rest).map fun (ds, rest) => (-(digitsValue ds : Int), rest)
  | '+' :: rest => (digits? rest.length rest).map fun (ds, rest) => ((digitsValue ds : Int), rest)
  | cs => (digits? 4 cs).map fun (ds, rest) => ((digitsValue ds : Int), rest)

/-- The nanoseconds of an optional fraction. -/
def fraction? : List Char → Option (Nat × List Char)
  | '.' :: cs =>
    (digits? 9 cs).map fun (ds, rest) =>
      (digitsValue ds * Nat.pow 10 (9 - ds.length), rest.dropWhile isDigit)
  | cs => some (0, cs)

/-- The minutes of an offset after its sign: two digits for the hours, then, maybe after colons and
blanks, two for the minutes. -/
def offset? : List Char → Option (Nat × List Char)
  | h :: h' :: cs =>
    if isDigit h && isDigit h' then
      match cs.dropWhile fun c => c = ':' || isBlank c with
      | m :: m' :: rest =>
        if '0' ≤ m && m ≤ '5' && isDigit m' then
          some (60 * digitsValue [h, h'] + digitsValue [m, m'], rest)
        else none
      | _ => none
    else none
  | _ => none

/-- How many minutes the clocks of a zone are ahead of UTC. -/
def zone? : List Char → Option (Int × List Char)
  | 'Z' :: rest => some (0, rest)
  | 'z' :: rest => some (0, rest)
  | '+' :: cs => (offset? cs).map fun (m, rest) => ((m : Int), rest)
  | '-' :: cs => (offset? cs).map fun (m, rest) => (-(m : Int), rest)
  | '\u2212' :: cs => (offset? cs).map fun (m, rest) => (-(m : Int), rest)
  | u :: t :: c :: rest =>
    if u.toUpper = 'U' ∧ t.toUpper = 'T' ∧ c.toUpper = 'C' then some (0, rest) else none
  | _ => none

/-- A date. -/
def date? (cs : List Char) : Option (Date × List Char) := do
  let (year, cs) ← year? cs
  let (month, cs) ← numberOf? 2 (← mark? '-' cs)
  let (day, cs) ← numberOf? 2 (← mark? '-' cs)
  let date ← Date.mk? year month day
  return (date, cs)

/-- The rest after what separates a date from a time. -/
def separator? : List Char → Option (List Char)
  | c :: rest => if c = 'T' ∨ c = 't' ∨ c = ' ' then some rest else none
  | [] => none

/-- The instant that a text shows. -/
def read? (s : String) : Option Timestamp := do
  let (date, cs) ← date? s.toList
  let (hour, cs) ← numberOf? 2 (← separator? cs)
  let (minute, cs) ← numberOf? 2 (← mark? ':' cs)
  let (second, cs) ← numberOf? 2 (← mark? ':' cs)
  let (nanos, cs) ← fraction? cs
  let (offset, cs) ← zone? (trimStart cs)
  if hour < 24 ∧ minute < 60 ∧ offset.natAbs < 1440 ∧ trimStart cs = [] then
    ofLocal? date hour minute second nanos offset
  else none

example : (read? "2024-01-01T00:30:00.5+01:00").map (write .exact) =
    some "2023-12-31T23:30:00.500Z" := by decide +kernel

end TargetRegistrar.Timestamp
