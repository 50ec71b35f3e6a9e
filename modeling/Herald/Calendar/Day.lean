/- Days of the proleptic Gregorian calendar.

A day has a number: the days since 1 January 1970, negative before it. Numbers are
computed over years that begin on 1 March, so that the leap day is a year's last day and
the month lengths repeat every five months. Years before year 1 are 0, -1 and so on. -/
namespace Herald
set_option autoImplicit false

/-- A calendar day. -/
structure Day where
  year : Int
  month : Nat
  day : Nat
  deriving DecidableEq, Repr

namespace Day

/-- A year with a 29 February. -/
def isLeap (year : Int) : Bool := year % 4 == 0 && (year % 100 != 0 || year % 400 == 0)

/-- The number of days of a month. -/
def monthLength (year : Int) (month : Nat) : Nat :=
  if month == 2 then (if isLeap year then 29 else 28)
  else if month == 4 || month == 6 || month == 9 || month == 11 then 30
  else 31

/-- The day exists. -/
def exists? (date : Day) : Bool :=
  1 ≤ date.month && date.month ≤ 12 && 1 ≤ date.day && date.day ≤ monthLength date.year date.month

/-- The days since 1 January 1970. -/
def number (date : Day) : Int :=
  let year := if date.month ≤ 2 then date.year - 1 else date.year
  let month := (date.month + 9) % 12
  365 * year + year / 4 - year / 100 + year / 400 + ((153 * month + 2) / 5 : Nat) + date.day - 719469

/-- The day of a number. A cycle of four hundred years has 146097 days; within it the year
is found by taking the leap days out again. -/
def ofNumber (number : Int) : Day :=
  let shifted := number + 719468
  let cycle := shifted / 146097
  let inCycle := (shifted % 146097).toNat
  let yearInCycle := (inCycle - inCycle / 1460 + inCycle / 36524 - inCycle / 146096) / 365
  let inYear := inCycle - (365 * yearInCycle + yearInCycle / 4 - yearInCycle / 100)
  let month := (5 * inYear + 2) / 153
  let day := inYear - (153 * month + 2) / 5 + 1
  let year := (yearInCycle : Int) + cycle * 400
  if month < 10 then ⟨year, month + 3, day⟩ else ⟨year + 1, month - 9, day⟩

/-- The first day that dates can lie on. -/
def first : Day := ⟨-262143, 1, 1⟩

/-- The last day that dates can lie on. -/
def last : Day := ⟨262142, 12, 31⟩

/-- A day number between the first and the last day. -/
def inRange (number : Int) : Bool := first.number ≤ number && number ≤ last.number

example : (Day.mk 1970 1 1).number = 0 ∧ (Day.mk 2024 2 29).number = 19782 := by decide
example : ofNumber 19783 = ⟨2024, 3, 1⟩ ∧ ofNumber (-1) = ⟨1969, 12, 31⟩ := by decide
example : first.number = -96465292 ∧ last.number = 95026236 := by decide

end Day
end Herald
