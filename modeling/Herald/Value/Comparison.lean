/- Comparison of values.

Identity asks for one kind and one content; two numbers are identical when their binary64
views are equal. Equality lets null and undefined match each other, and compares a number or
a boolean with anything by the numeric views. Order is between two strings, numerically when
both are real texts and by characters otherwise, and between the numeric views of any other
two values; null and undefined are in no order. -/
import Herald.Value.Coercion
namespace Herald
set_option autoImplicit false
namespace Value

/-- Null or undefined. -/
def isNullish : Option Value → Bool
  | none => true
  | some .null => true
  | _ => false

/-- A number or a boolean. -/
def isNumeric : Option Value → Bool
  | some (.number _) => true
  | some (.bool _) => true
  | _ => false

/-- Identity of kind and content. -/
def identical : Option Value → Option Value → Bool
  | none, none => true
  | some (.number left), some (.number right) => left.toBinary64.same right.toBinary64
  | some left, some right => left.same right
  | _, _ => false

/-- Equality of the numeric views, where both exist. -/
def sameNumber (left right : Option Value) : Bool :=
  match toBinary64? left, toBinary64? right with
  | some l, some r => l.same r
  | _, _ => false

/-- Equality across kinds. -/
def equal (left right : Option Value) : Bool :=
  if isNullish left || isNullish right then isNullish left && isNullish right
  else match left, right with
    | some (.string l), some (.string r) => l == r
    | _, _ => if isNumeric left || isNumeric right then sameNumber left right else identical left right

/-- The order of the numeric views, where both exist and neither value is null. -/
def numberOrder? (left right : Option Value) : Option Ordering :=
  if isNullish left || isNullish right then none
  else match toBinary64? left, toBinary64? right with
    | some l, some r => l.order? r
    | _, _ => none

/-- The order of two values, if they are in one. -/
def order? (left right : Option Value) : Option Ordering :=
  match left, right with
  | some (.string l), some (.string r) =>
    match Binary64.read? (Text.trimmed l), Binary64.read? (Text.trimmed r) with
    | some x, some y => x.order? y
    | _, _ => some (compare l r)
  | _, _ => numberOrder? left right

end Value
end Herald
