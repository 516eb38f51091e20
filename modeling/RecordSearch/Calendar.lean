/-! The calendar that continues the Gregorian rules to all years from 1 on. Days are counted from
the first of January of the year 1, which is day 0 and a Monday. -/
namespace RecordSearch

structure Date where
  year : Nat
  month : Nat
  day : Nat
  deriving DecidableEq, Repr

namespace Date

def isLeap (year : Nat) : Bool := year % 4 == 0 && (year % 100 != 0 || year % 400 == 0)

def daysInMonth (year month : Nat) : Nat :=
  if month == 2 then (if isLeap year then 29 else 28)
  else if month == 4 || month == 6 || month == 9 || month == 11 then 30 else 31

def daysBeforeYear (year : Nat) : Nat :=
  365 * (year - 1) + (year - 1) / 4 - (year - 1) / 100 + (year - 1) / 400

def daysBeforeMonth (year month : Nat) : Nat :=
  ((List.range (month - 1)).map fun i => daysInMonth year (i + 1)).foldr (· + ·) 0

def isValid (date : Date) : Bool :=
  1 ≤ date.year && date.year ≤ 9999 && 1 ≤ date.month && date.month ≤ 12 && 1 ≤ date.day &&
    date.day ≤ daysInMonth date.year date.month

def number (date : Date) : Nat :=
  daysBeforeYear date.year + daysBeforeMonth date.year date.month + (date.day - 1)

/-- The first month from `month` on that holds the day with `rest` days before it, looking at
`count` months. -/
def monthOf (year : Nat) : (count month rest : Nat) → Nat × Nat
  | 0, month, rest => (month, rest)
  | count + 1, month, rest =>
    if rest < daysInMonth year month then (month, rest)
    else monthOf year count (month + 1) (rest - daysInMonth year month)

/-- The year that holds a day, and the number of the day's days before it in the year. Four hundred,
one hundred, four years and one year have a fixed number of days, but for the last of each. -/
def yearOf (number : Nat) : Nat × Nat :=
  let (n400, r400) := (number / 146097, number % 146097)
  let n100 := min 3 (r400 / 36524)
  let r100 := r400 - 36524 * n100
  let (n4, r4) := (r100 / 1461, r100 % 1461)
  let n1 := min 3 (r4 / 365)
  (400 * n400 + 100 * n100 + 4 * n4 + n1 + 1, r4 - 365 * n1)

def ofNumber (number : Nat) : Date :=
  let (year, rest) := yearOf number
  let (month, before) := monthOf year 11 1 rest
  ⟨year, month, before + 1⟩

/-- The days from Monday to the day of the week of a day. -/
def weekday (number : Nat) : Nat := number % 7

/-- The number of the Monday of the first week of a year, plus seven: the week that holds the fourth
of January. -/
def firstMondayPlusWeek (year : Nat) : Nat :=
  let fourth := daysBeforeYear year + 3
  fourth - weekday fourth + 7

/-- Whether a year has 53 weeks: it begins on a Thursday, or on a Wednesday and is a leap year. -/
def hasLongWeekYear (year : Nat) : Bool :=
  let first := weekday (daysBeforeYear year)
  first == 3 || (first == 2 && isLeap year)

/-- The day with a place in a week of a year, if there is one in the years 1 to 9999. -/
def ofWeek? (year week day : Nat) : Option Date :=
  if 1 ≤ year ∧ year ≤ 9999 ∧ 1 ≤ week ∧ (week ≤ 52 ∨ (week = 53 ∧ hasLongWeekYear year)) ∧
      1 ≤ day ∧ day ≤ 7 then
    let shifted := firstMondayPlusWeek year + 7 * (week - 1) + (day - 1)
    let date := ofNumber (shifted - 7)
    if 7 ≤ shifted ∧ date.isValid then some date else none
  else none

end Date
end RecordSearch
