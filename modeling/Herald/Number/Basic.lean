/- The numbers of a data value.

A number is either an integer or a finite binary64 number, and remembers which: `1` and
`1.0` are different numbers of equal size. The integers are those between -2^63 and
2^64 - 1. -/
import Herald.Number.Binary64
namespace Herald
set_option autoImplicit false

/-- An integer, or a finite binary64 number as a sign and a count of units of 2^-1074. -/
inductive Number where
  | int (value : Int)
  | float (negative : Bool) (units : Nat)
  deriving DecidableEq, Repr

namespace Number

/-- The least integer a number can hold. -/
def leastInt : Int := -0x8000000000000000

/-- The greatest integer a number can hold. -/
def greatestInt : Int := 0xFFFFFFFFFFFFFFFF

/-- The binary64 view of a number; a large integer is rounded. -/
def toBinary64 : Number → Binary64
  | .int value => .ofInt value
  | .float negative units => .finite negative units

/-- The number of a finite binary64 value. -/
def ofBinary64? : Binary64 → Option Number
  | .finite negative units => some (.float negative units)
  | _ => none

/-- Equality of kind and size: an integer never matches a float, and the two float zeros
match. -/
def same : Number → Number → Bool
  | .int left, .int right => left == right
  | .float leftNegative left, .float rightNegative right =>
    Binary64.signed leftNegative left == Binary64.signed rightNegative right
  | _, _ => false

end Number
end Herald
