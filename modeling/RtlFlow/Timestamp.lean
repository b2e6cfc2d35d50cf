import RtlFlow.Number.Reading
import RtlFlow.Text.Blank

/-! # Points in time

A point in time is kept as the text that writes it: a date, a time of day and the distance from
universal time. The reading is lenient about blanks between the numbers. -/

namespace RtlFlow

open RtlFlow.Number RtlFlow.Text

/-- **A point in time**, as it is written. -/
structure Timestamp where
  /-- The text. -/
  text : String
  deriving DecidableEq, Repr, Inhabited

namespace Timestamp

/-- The characters behind leading blanks. -/
def skipBlanks (cs : List Char) : List Char := cs.dropWhile isBlank

/-- Reads a number of at most `width` digits. -/
def digits? (width : Nat) (cs : List Char) : Option (Nat × List Char) :=
  let ds := (cs.takeWhile Char.isDigit).take width
  if ds.isEmpty then none else some (digitsValue ds, cs.drop ds.length)

/-- Reads a number of at most two digits between two bounds, behind blanks. -/
def bounded? (low high : Nat) (cs : List Char) : Option (Nat × List Char) :=
  match digits? 2 (skipBlanks cs) with
  | some (n, rest) => if low ≤ n ∧ n ≤ high then some (n, rest) else none
  | none => none

/-- Reads a mark behind blanks. -/
def mark? (c : Char) (cs : List Char) : Option (List Char) :=
  match skipBlanks cs with
  | d :: rest => if d = c then some rest else none
  | [] => none

/-- The first year of all dates. -/
def minYear : Int := -262143

/-- The last year of all dates. -/
def maxYear : Int := 262142

/-- Reads a year: four digits at most, or a sign and any number of digits. -/
def year? (cs : List Char) : Option (Int × List Char) :=
  let signed (sign : Int) (rest : List Char) :=
    (digits? rest.length rest).map fun (n, rest) => (sign * n, rest)
  let year : Option (Int × List Char) :=
    match skipBlanks cs with
    | '-' :: rest => signed (-1) rest
    | '+' :: rest => signed 1 rest
    | rest => (digits? 4 rest).map fun p => (Int.ofNat p.1, p.2)
  year.filter fun (y, _) => minYear ≤ y && y ≤ maxYear

/-- Whether a year has a leap day. -/
def isLeap (y : Int) : Bool := y % 4 == 0 && (y % 100 != 0 || y % 400 == 0)

/-- The number of days of a month. -/
def daysIn (y : Int) (month : Nat) : Nat :=
  if month = 2 then if isLeap y then 29 else 28
  else if [4, 6, 9, 11].contains month then 30 else 31

/-- A date: the year, the month and the day. -/
abbrev Date := Int × Nat × Nat

/-- Reads a date. -/
def date? (cs : List Char) : Option (Date × List Char) := do
  let (year, cs) ← year? cs
  let (month, cs) ← bounded? 1 12 (← mark? '-' cs)
  let (day, cs) ← bounded? 1 (daysIn year month) (← mark? '-' cs)
  return ((year, month, day), cs)

/-- Reads a fraction of a second, if there is one. -/
def fraction? (cs : List Char) : Option (List Char) :=
  match cs with
  | '.' :: rest =>
    if (rest.takeWhile Char.isDigit).isEmpty then none else some (rest.dropWhile Char.isDigit)
  | _ => some cs

/-- Reads a time of day and answers its minute. A leap second is allowed. -/
def time? (cs : List Char) : Option (Nat × List Char) := do
  let (hour, cs) ← bounded? 0 23 cs
  let (minute, cs) ← bounded? 0 59 (← mark? ':' cs)
  let (_, cs) ← bounded? 0 60 (← mark? ':' cs)
  return (60 * hour + minute, ← fraction? cs)

/-- Reads hours and minutes with or without a colon or blanks between them, and answers the
minutes. -/
def hoursMinutes? : List Char → Option (Nat × List Char)
  | h :: g :: rest =>
    match rest.dropWhile fun c => c = ':' || isBlank c with
    | m :: n :: rest =>
      if [h, g, m, n].all Char.isDigit && digitsValue [h, g] < 24 && m < '6' then
        some (60 * digitsValue [h, g] + digitsValue [m, n], rest)
      else none
    | _ => none
  | _ => none

/-- Reads the distance from universal time, in minutes. -/
def offset? : List Char → Option (Int × List Char)
  | c :: rest =>
    if c = 'Z' ∨ c = 'z' then some (0, rest)
    else if c = '+' then (hoursMinutes? rest).map fun (n, rest) => ((n : Int), rest)
    else if c = '-' ∨ c = '\u2212' then
      (hoursMinutes? rest).map fun (n, rest) => (-(n : Int), rest)
    else if (String.ofList ((c :: rest).take 3)).toLower = "utc" then some (0, rest.drop 2)
    else none
  | [] => none

/-- The number of minutes in a day. -/
def minutesPerDay : Int := 1440

/-- Whether a date is within the range of all dates in universal time too: the first day may not
lie before the range there, nor the last one behind it. -/
def isInRange (date : Date) (minute : Nat) (offset : Int) : Bool :=
  let minute : Int := minute - offset
  !(date == (minYear, 1, 1) && minute < 0) &&
    !(date == (maxYear, 12, 31) && minutesPerDay ≤ minute)

/-- **The point in time that a text writes.** -/
def parse? (s : String) : Option Timestamp := do
  match ← date? s.toList with
  | (date, c :: rest) =>
    if c = 'T' ∨ c = 't' ∨ c = ' ' then
      let (minute, rest) ← time? rest
      let (offset, rest) ← offset? (skipBlanks rest)
      if isInRange date minute offset && (skipBlanks rest).isEmpty then some ⟨s⟩ else none
    else none
  | (_, []) => none

end Timestamp

end RtlFlow
