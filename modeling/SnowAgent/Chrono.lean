import SnowAgent.Text

/-! # Reading dates and times

The formats `%Y-%m-%d` and `%Y-%m-%d %H:%M:%S`, as `chrono` reads them: blanks in front of a number
are skipped, a number may have fewer digits than its place, a year with a sign may have more, the
blank of the format stands for any number of blanks, and a second may be the leap second `60`.
-/
namespace SnowAgent.Chrono

open Text

/-! ## Dates -/

/-- Whether a year has a 29th of February. -/
def isLeap (year : Int) : Bool := year % 4 = 0 && (year % 100 ≠ 0 || year % 400 = 0)

/-- The days of a month. -/
def daysInMonth (year : Int) (month : Nat) : Nat :=
  if month = 2 then if isLeap year then 29 else 28
  else if month ∈ [4, 6, 9, 11] then 30 else 31

/-- Whether there is such a date, in the range of `NaiveDate`. -/
def ValidDate (year : Int) (month day : Nat) : Prop :=
  (-262143 ≤ year ∧ year ≤ 262142) ∧ (1 ≤ month ∧ month ≤ 12) ∧
    1 ≤ day ∧ day ≤ daysInMonth year month

instance (year : Int) (month day : Nat) : Decidable (ValidDate year month day) :=
  inferInstanceAs (Decidable (_ ∧ _ ∧ _))

/-- `NaiveDate`. -/
structure NaiveDate where
  year : Int
  month : Nat
  day : Nat
  valid : ValidDate year month day
deriving DecidableEq

/-- The days of the months before one. -/
def daysBefore (year : Int) (month : Nat) : Nat :=
  ((List.range month).drop 1).foldl (fun days m => days + daysInMonth year m) 0

/-- `num_days_from_ce`: the first day of the year 1 has number 1, and is a Monday. -/
def NaiveDate.numDaysFromCe (date : NaiveDate) : Int :=
  365 * (date.year - 1) + (date.year - 1) / 4 - (date.year - 1) / 100 + (date.year - 1) / 400 +
    daysBefore date.year date.month + date.day

/-- `num_days_from_sunday` of the weekday of a day. -/
def numDaysFromSunday (day : Int) : Int := day % 7

/-! ## Numbers -/

/-- `trim_start`. -/
def trimStart (cs : List Char) : List Char := cs.dropWhile isWhitespace

/-- `scan::number`: a number of up to so many digits that fits an `i64`, and what follows it. -/
def scanNumber (width : Option Nat) (cs : List Char) : Option (Nat × List Char) :=
  let digits := ((width.map fun w => cs.take w).getD cs).takeWhile Char.isDigit
  (digitsValue digits).bind fun n =>
    if n ≤ 9223372036854775807 then some (n, cs.drop digits.length) else none

/-- `%Y`. -/
def scanYear (cs : List Char) : Option (Int × List Char) :=
  match trimStart cs with
  | '-' :: rest => (scanNumber none rest).map fun scanned => (-(scanned.1 : Int), scanned.2)
  | '+' :: rest => (scanNumber none rest).map fun scanned => (scanned.1, scanned.2)
  | rest => (scanNumber (some 4) rest).map fun scanned => (scanned.1, scanned.2)

/-- A number of two digits. -/
def scanTwo (cs : List Char) : Option (Nat × List Char) := scanNumber (some 2) (trimStart cs)

/-- A character of the format. -/
def scanLiteral (c : Char) : List Char → Option (List Char)
  | first :: rest => if first = c then some rest else none
  | [] => none

/-- `%Y-%m-%d`, and what follows it. -/
def scanDate (cs : List Char) : Option ((Int × Nat × Nat) × List Char) := do
  let (year, cs) ← scanYear cs
  let cs ← scanLiteral '-' cs
  let (month, cs) ← scanTwo cs
  let cs ← scanLiteral '-' cs
  let (day, cs) ← scanTwo cs
  return ((year, month, day), cs)

/-- The date of numbers, if there is one. -/
def NaiveDate.ofNumbers (numbers : Int × Nat × Nat) : Option NaiveDate :=
  if h : ValidDate numbers.1 numbers.2.1 numbers.2.2 then
    some ⟨numbers.1, numbers.2.1, numbers.2.2, h⟩
  else none

/-- `NaiveDate::parse_from_str` with `%Y-%m-%d`. -/
def parseDate (text : String) : Option NaiveDate := do
  let (numbers, rest) ← scanDate text.toList
  if rest = [] then NaiveDate.ofNumbers numbers else none

example : (parseDate "2026-2-9").map (fun date => (date.year, date.month, date.day)) =
    some (2026, 2, 9) := by decide

end SnowAgent.Chrono
