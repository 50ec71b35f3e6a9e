/- Shortest decimal texts of binary64 numbers.

The reals that round to a number of the format form an interval around it, ends included
exactly when the significand is even. The shortest text takes the coarsest decimal grid
with a point in that interval, and on it the point nearest to the number, a tie going to
the even point. All comparisons are exact. -/
import Herald.Number.Binary64
namespace Herald
set_option autoImplicit false

/-- The decimal digits of a natural number, most significant first. -/
def decimalDigits (value : Nat) : List Char := Nat.toDigits 10 value

namespace Binary64

/-- `point * 10^exponent` as a fraction of two natural numbers. -/
def decimalScale (exponent : Int) : Nat × Nat :=
  if exponent < 0 then (1, Nat.pow 10 exponent.natAbs) else (Nat.pow 10 exponent.natAbs, 1)

/-- Whether the decimal `point * 10^exponent` rounds to the positive count `units`.
Counted in quarter units, the lower half gap is halved at a power of two. -/
def roundsTo (units : Nat) (exponent : Int) (point : Nat) : Bool :=
  let step := spacing units
  let gapBelow := if 1 < step && units == Nat.pow 2 units.log2 then step else 2 * step
  let (up, down) := decimalScale exponent
  let place := point * up * (4 * one)
  let low := (4 * units - gapBelow) * down
  let high := (4 * units + 2 * step) * down
  if (units / step) % 2 == 0 then low ≤ place && place ≤ high else low < place && place < high

/-- The point of the grid `10^exponent` that rounds to `units` and is nearest to it, if
the grid has one. -/
def gridPoint? (units : Nat) (exponent : Int) : Option Nat :=
  let (up, down) := decimalScale exponent
  let numerator := units * down
  let denominator := one * up
  let below := numerator / denominator
  match roundsTo units exponent below, roundsTo units exponent (below + 1) with
  | true, true => some (roundedQuotient numerator denominator)
  | true, false => some below
  | false, true => some (below + 1)
  | false, false => none

/-- The exponent of the leading decimal digit of a positive count of units. -/
def leadingExponent (units : Nat) : Int :=
  ((decimalDigits (units * Nat.pow 10 330 / one)).length : Int) - 331

/-- The shortest decimal `digits * 10^exponent` that rounds to a positive count of units.
Seventeen digits always suffice. -/
def shortest (units : Nat) : Nat × Int :=
  let lead := leadingExponent units
  let found := (List.range 17).findSome? fun (further : Nat) =>
    (gridPoint? units (lead - further)).map fun point => (point, lead - (further : Int))
  match found with
  | some (point, exponent) => if point % 10 == 0 then (point / 10, exponent + 1) else (point, exponent)
  | none => (0, 0)

/-- A decimal written without an exponent; `mark` is what a whole number ends with. -/
def positional (mark : List Char) (digits : List Char) (exponent : Int) : List Char :=
  let point := (digits.length : Int) + exponent
  if 0 ≤ exponent then digits ++ List.replicate exponent.natAbs '0' ++ mark
  else if 0 < point then digits.take point.natAbs ++ '.' :: digits.drop point.natAbs
  else '0' :: '.' :: (List.replicate point.natAbs '0' ++ digits)

/-- A decimal written with one digit before the point and a signed exponent. -/
def scientific (digits : List Char) (exponent : Int) : List Char :=
  let power := (digits.length : Int) + exponent - 1
  let fraction := match digits with
    | first :: rest => if rest.isEmpty then [first] else first :: '.' :: rest
    | [] => []
  fraction ++ 'e' :: (if power < 0 then '-' else '+') :: decimalDigits power.natAbs

/-- The data text of a finite number: positional from 10^-5 up to below 10^16, whole
numbers ending in `.0`, and scientific elsewhere. -/
def dataText (negative : Bool) (units : Nat) : List Char :=
  let body :=
    if units == 0 then ['0', '.', '0']
    else
      let (point, exponent) := shortest units
      let digits := decimalDigits point
      let place := (digits.length : Int) + exponent
      if -5 < place && place ≤ 16 then positional ['.', '0'] digits exponent
      else scientific digits exponent
  if negative then '-' :: body else body

/-- The plain text of a number: its shortest digits without an exponent, whole numbers
without a point. -/
def plainText : Binary64 → List Char
  | .finite negative units =>
    let body :=
      if units == 0 then ['0']
      else
        let (point, exponent) := shortest units
        positional [] (decimalDigits point) exponent
    if negative then '-' :: body else body
  | .infinite negative => if negative then ['-', 'i', 'n', 'f'] else ['i', 'n', 'f']
  | .nan => ['N', 'a', 'N']

end Binary64
end Herald
