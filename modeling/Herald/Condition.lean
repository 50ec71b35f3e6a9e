/- Conditions of if- and unless-blocks.

A leading exclamation mark negates all that follows it. Otherwise the first operator of a
fixed list that occurs outside quotes divides the condition; longer operators come before
their beginnings, so `===` is never read as `==`. A condition without an operator asks whether
its operand counts as true. A blank condition, a negation of nothing and an operator without
an operand on either side are malformed: they count as false and are worth a warning. -/
import Herald.Operand
import Herald.Value.Comparison
namespace Herald
set_option autoImplicit false

/-- The comparison operators. -/
inductive Operator where
  | identical
  | notIdentical
  | equal
  | notEqual
  | atLeast
  | atMost
  | greater
  | less
  deriving DecidableEq, Repr

namespace Operator

/-- How an operator is written. -/
def mark : Operator → List Char
  | .identical => ['=', '=', '=']
  | .notIdentical => ['!', '=', '=']
  | .equal => ['=', '=']
  | .notEqual => ['!', '=']
  | .atLeast => ['>', '=']
  | .atMost => ['<', '=']
  | .greater => ['>']
  | .less => ['<']

/-- The operators in the order in which they are looked for. -/
def all : List Operator :=
  [.identical, .notIdentical, .equal, .notEqual, .atLeast, .atMost, .greater, .less]

/-- Whether two values are in an operator's relation. -/
def holds (operator : Operator) (left right : Option Value) : Bool :=
  match operator with
  | .identical => Value.identical left right
  | .notIdentical => !Value.identical left right
  | .equal => Value.equal left right
  | .notEqual => !Value.equal left right
  | .atLeast => match Value.order? left right with
    | some .gt | some .eq => true
    | _ => false
  | .atMost => match Value.order? left right with
    | some .lt | some .eq => true
    | _ => false
  | .greater => Value.order? left right == some .gt
  | .less => Value.order? left right == some .lt

end Operator

/-- A condition as read. -/
inductive Condition where
  | malformed
  | negation (inner : Condition)
  | comparison (operator : Operator) (left right : List Char)
  | operand (text : List Char)
  deriving DecidableEq, Repr

namespace Condition

/-- The first operator of the list that a text holds outside quotes, and the texts around
its first occurrence. -/
def findOperator? (text : List Char) : Option (Operator × List Char × List Char) :=
  Operator.all.findSome? fun operator =>
    (Text.breakOutside operator.mark text).map fun sides => (operator, sides)

/-- A condition without a leading negation. -/
def readPlain (text : List Char) : Condition :=
  match findOperator? text with
  | some (operator, left, right) =>
    if (Text.trim left).isEmpty || (Text.trim right).isEmpty then .malformed
    else .comparison operator (Text.trim left) (Text.trim right)
  | none => .operand text

theorem length_trim_le (text : List Char) : (Text.trim text).length ≤ text.length := by
  simp only [Text.trim, Text.trimEnd, Text.trimStart, List.length_reverse]
  refine Nat.le_trans (List.dropWhile_suffix _).length_le ?_
  simpa using (List.dropWhile_suffix Text.isBlank (l := text)).length_le

/-- The condition that a text writes out. -/
def read (text : List Char) : Condition :=
  match _shape : Text.trim text with
  | [] => .malformed
  | '!' :: rest =>
    if rest.head? == some '=' then readPlain ('!' :: rest)
    else if (Text.trim rest).isEmpty then .malformed
    else .negation (read rest)
  | plain => readPlain plain
termination_by text.length
decreasing_by
  have bound := length_trim_le text
  rw [_shape, List.length_cons] at bound
  exact bound

/-- Whether a condition holds. -/
def holds (context : Context) : Condition → Bool
  | .malformed => false
  | .negation inner => !holds context inner
  | .comparison operator left right =>
    operator.holds (context.operand? left) (context.operand? right)
  | .operand text => Value.isTrue (context.operand? text)

/-- Whether reading a condition ended at a malformed one. -/
def isMalformed : Condition → Bool
  | .malformed => true
  | .negation inner => isMalformed inner
  | _ => false

end Condition
end Herald
