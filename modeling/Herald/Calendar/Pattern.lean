/- Date patterns and timestamps.

In a pattern, four letters Y stand for the year; one or two letters M, D, H, m and s stand
for month, day, hour, minute and second, two of them for the padded form. At each place the
longer form wins, and every other character stands for itself. -/
import Herald.Calendar.Moment
import Herald.Number.Shortest
namespace Herald
set_option autoImplicit false

/-- A natural number with zeros in front up to a width. -/
def padded (width value : Nat) : List Char :=
  let digits := decimalDigits value
  List.replicate (width - digits.length) '0' ++ digits

/-- An integer in decimal. -/
def integerText (value : Int) : List Char :=
  if value < 0 then '-' :: decimalDigits value.natAbs else decimalDigits value.natAbs

/-- A year in at least four characters, the sign of a negative one included. -/
def yearText (year : Int) : List Char :=
  if year < 0 then '-' :: padded 3 year.natAbs else padded 4 year.natAbs

namespace WallTime

/-- The text of a pattern at a wall-clock time. -/
def expand (time : WallTime) : List Char → List Char
  | [] => []
  | 'Y' :: 'Y' :: 'Y' :: 'Y' :: rest => yearText time.day.year ++ expand time rest
  | 'M' :: 'M' :: rest => padded 2 time.day.month ++ expand time rest
  | 'D' :: 'D' :: rest => padded 2 time.day.day ++ expand time rest
  | 'H' :: 'H' :: rest => padded 2 time.hour ++ expand time rest
  | 'm' :: 'm' :: rest => padded 2 time.minute ++ expand time rest
  | 's' :: 's' :: rest => padded 2 time.second ++ expand time rest
  | 'M' :: rest => decimalDigits time.day.month ++ expand time rest
  | 'D' :: rest => decimalDigits time.day.day ++ expand time rest
  | 'H' :: rest => decimalDigits time.hour ++ expand time rest
  | 'm' :: rest => decimalDigits time.minute ++ expand time rest
  | 's' :: rest => decimalDigits time.second ++ expand time rest
  | c :: rest => c :: expand time rest

end WallTime

/-- The fraction of a second with the fewest of 0, 3, 6 and 9 digits. -/
def fractionText (nano : Nat) : List Char :=
  if nano == 0 then []
  else if nano % 1000000 == 0 then '.' :: padded 3 (nano / 1000000)
  else if nano % 1000 == 0 then '.' :: padded 6 (nano / 1000)
  else '.' :: padded 9 nano

/-- The timestamp of an instant in UTC, with the letter Z. A leap second is second 60; a
year outside four digits carries its sign. -/
def Moment.stamp (moment : Moment) : List Char :=
  let time := moment.wallTime 0
  let leap := decide (1000000000 ≤ time.nano)
  let second := if leap then time.second + 1 else time.second
  let nano := if leap then time.nano - 1000000000 else time.nano
  let year := time.day.year
  let yearPart :=
    if year < 0 then '-' :: padded 4 year.natAbs
    else if 9999 < year then '+' :: padded 4 year.natAbs
    else padded 4 year.natAbs
  yearPart ++ '-' :: padded 2 time.day.month ++ '-' :: padded 2 time.day.day ++
    'T' :: padded 2 time.hour ++ ':' :: padded 2 time.minute ++ ':' :: padded 2 second ++
    fractionText nano ++ ['Z']

end Herald
