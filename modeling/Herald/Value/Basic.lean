/- Data values: what templates read and what functions and formatters exchange.

A value is null, a boolean, a number, a string, an array or an object; an object's fields are
a map kept in name order. A missing value (`none` at `Option Value`) is undefined, which
is told apart from null only where a rule says so. -/
import Herald.Dict
import Herald.Number.Fixed
import Herald.Number.Numeral
namespace Herald
set_option autoImplicit false

/-- A data value. -/
inductive Value where
  | null
  | bool (value : Bool)
  | number (value : Number)
  | string (value : String)
  | array (items : List Value)
  | object (fields : List (String × Value))
  deriving Repr

namespace Value

instance : Inhabited Value := ⟨.null⟩

/-- The value of an integer. -/
def int (value : Int) : Value := .number (.int value)

/-- The value of a text held as characters. -/
def ofChars (characters : List Char) : Value := .string (String.ofList characters)

/-- The name of a value's kind. -/
def kind : Value → String
  | .null => "null"
  | .bool _ => "boolean"
  | .number _ => "number"
  | .string _ => "string"
  | .array _ => "array"
  | .object _ => "object"

mutual
/-- Equality of kind and content at every depth: numbers by `Number.same`, lists item by
item, objects field by field. -/
def same : Value → Value → Bool
  | .null, .null => true
  | .bool left, .bool right => left == right
  | .number left, .number right => left.same right
  | .string left, .string right => left == right
  | .array left, .array right => sameItems left right
  | .object left, .object right => sameFields left right
  | _, _ => false

/-- Equality of two lists of values. -/
def sameItems : List Value → List Value → Bool
  | [], [] => true
  | left :: lefts, right :: rights => same left right && sameItems lefts rights
  | _, _ => false

/-- Equality of two lists of fields. -/
def sameFields : List (String × Value) → List (String × Value) → Bool
  | [], [] => true
  | (leftName, left) :: lefts, (rightName, right) :: rights =>
    leftName == rightName && same left right && sameFields lefts rights
  | _, _ => false
end

/-- The value one path segment further in: a field of an object, or an item of a list. -/
def child? (segment : List Char) : Value → Option Value
  | .object fields => Dict.find? (String.ofList segment) fields
  | .array items => (readNat? segment).bind fun index => items[index]?
  | _ => none

/-- The value at the end of a list of path segments. -/
def descend? (value : Value) (segments : List (List Char)) : Option Value :=
  segments.foldl (fun found segment => found.bind (child? segment)) (some value)

end Value
end Herald
