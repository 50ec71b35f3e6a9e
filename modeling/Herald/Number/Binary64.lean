/- Numbers of the binary64 format, held exactly.

Every finite number of the format is a whole multiple of its least positive number,
2^-1074. A finite number is therefore a sign and a count of those units, and order,
equality, truncation and printing are integer arithmetic. Rounding to the format goes
to the nearest representable count, a tie to the one whose significand is even. -/
namespace Herald
set_option autoImplicit false

/-- A number of the binary64 format; `units` counts multiples of 2^-1074. -/
inductive Binary64 where
  | finite (negative : Bool) (units : Nat)
  | infinite (negative : Bool)
  | nan
  deriving DecidableEq, Repr

namespace Binary64

/-- The number one in units. -/
def one : Nat := Nat.pow 2 1074

/-- The least count of units beyond the format: 2^1024. -/
def limit : Nat := Nat.pow 2 2098

/-- The distance in units between neighbours of the format at a magnitude: one unit up
to 2^53 units, and from there on 53 significant bits. -/
def spacing (units : Nat) : Nat :=
  if units < Nat.pow 2 53 then 1 else Nat.pow 2 (units.log2 - 52)

/-- The whole number nearest to a quotient, a tie going to the even one. -/
def roundedQuotient (numerator denominator : Nat) : Nat :=
  let quotient := numerator / denominator
  let twice := 2 * (numerator % denominator)
  if twice < denominator then quotient
  else if denominator < twice then quotient + 1
  else if quotient % 2 == 0 then quotient
  else quotient + 1

/-- The representable count nearest to a quotient of units. -/
def nearestUnits (numerator denominator : Nat) : Nat :=
  let step := spacing (numerator / denominator)
  roundedQuotient numerator (denominator * step) * step

/-- The number of the format nearest to a quotient; too large a quotient is infinite. -/
def ofRatio (negative : Bool) (numerator denominator : Nat) : Binary64 :=
  let units := nearestUnits (numerator * one) denominator
  if units < limit then .finite negative units else .infinite negative

/-- The number of the format nearest to an integer. -/
def ofInt (value : Int) : Binary64 := ofRatio (value < 0) value.natAbs 1

/-- A count of units with its sign. -/
def signed (negative : Bool) (units : Nat) : Int :=
  if negative then -(units : Int) else units

/-- The place of a number on the line of units; the infinities lie at its ends, and
nothing else is off it but the non-number. -/
def position : Binary64 → Option Int
  | .finite negative units => some (signed negative units)
  | .infinite negative => some (signed negative limit)
  | .nan => none

/-- The order of two numbers; a non-number is in no order with anything. -/
def order? (left right : Binary64) : Option Ordering :=
  match left.position, right.position with
  | some l, some r => some (compare l r)
  | _, _ => none

/-- Numeric equality: the two zeros are equal, a non-number equals nothing. -/
def same (left right : Binary64) : Bool := left.order? right == some .eq

/-- Neither zero nor a non-number. -/
def isNonzero (value : Binary64) : Bool :=
  match value.position with
  | some place => place != 0
  | none => false

/-- The number without its sign. -/
def magnitude : Binary64 → Binary64
  | .finite _ units => .finite false units
  | .infinite _ => .infinite false
  | .nan => .nan

/-- Below zero; the negative zero is not. -/
def isBelowZero (value : Binary64) : Bool :=
  match value.position with
  | some place => place < 0
  | none => false

/-- The integer towards zero, kept within `low` and `high`; a non-number gives zero. -/
def truncate (low high : Int) : Binary64 → Int
  | .finite negative units => max low (min high (signed negative (units / one)))
  | .infinite negative => if negative then low else high
  | .nan => 0

/-- The nearest integer, halves going away from zero, kept within `low` and `high`; a
non-number gives zero. -/
def roundAway (low high : Int) : Binary64 → Int
  | .finite negative units => max low (min high (signed negative ((2 * units + one) / (2 * one))))
  | .infinite negative => if negative then low else high
  | .nan => 0

end Binary64
end Herald
