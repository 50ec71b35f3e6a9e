/- Fixed-point texts and digit groups.

A fixed-point text is the exact value rounded to a number of places, a tie going to the
even last digit. The sign of a negative number stays even when all digits are zero. -/
import Herald.Number.Shortest
namespace Herald
set_option autoImplicit false

/-- A natural number of `10^-places` as digits with a point before the last `places`. -/
def placeDigits (places count : Nat) : List Char :=
  let digits := decimalDigits count
  let padded := List.replicate (places + 1 - digits.length) '0' ++ digits
  let whole := padded.take (padded.length - places)
  if places == 0 then whole else whole ++ '.' :: padded.drop (padded.length - places)

namespace Binary64

/-- The text of a number with a fixed number of places. -/
def fixed (places : Nat) : Binary64 → List Char
  | .finite negative units =>
    let body := placeDigits places (roundedQuotient (units * Nat.pow 10 places) one)
    if negative then '-' :: body else body
  | .infinite negative => if negative then ['-', 'i', 'n', 'f'] else ['i', 'n', 'f']
  | .nan => ['N', 'a', 'N']

end Binary64

/-- Commas between groups of three digits, counted from the end: a comma follows a digit
when some digits remain and their number is a multiple of three. -/
def groupThrees : List Char → List Char
  | [] => []
  | digit :: rest =>
    if !rest.isEmpty && rest.length % 3 == 0 then digit :: ',' :: groupThrees rest
    else digit :: groupThrees rest

/-- A fixed-point text with commas in its integer part. -/
def groupThousands (text : List Char) : List Char :=
  groupThrees (text.takeWhile (· != '.')) ++ text.dropWhile (· != '.')

end Herald
