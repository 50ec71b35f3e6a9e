/- How values are read as conditions, texts and numbers. -/
import Herald.Value.Printer
namespace Herald
set_option autoImplicit false
namespace Value

/-- Whether a value counts as true: null and undefined do not, a number does unless it is
zero, and a string, an array or an object does unless it is empty. -/
def isTrue : Option Value → Bool
  | none => false
  | some .null => false
  | some (.bool value) => value
  | some (.number value) => value.toBinary64.isNonzero
  | some (.string value) => !value.isEmpty
  | some (.array items) => !items.isEmpty
  | some (.object fields) => !fields.isEmpty

/-- The printed text of a number: a whole float below 10^15 prints as an integer, any other
number as its data text. -/
def numberText : Number → List Char
  | .float negative units =>
    if units % Binary64.one == 0 && units < 1000000000000000 * Binary64.one then
      Number.dataText (.int (Binary64.signed negative (units / Binary64.one)))
    else Number.dataText (.float negative units)
  | .int value => Number.dataText (.int value)

/-- The printed text of a value: a string is itself, null and undefined are empty, arrays
and objects are their data text. -/
def display : Option Value → List Char
  | none => []
  | some .null => []
  | some (.string value) => value.toList
  | some (.bool value) => dataText (.bool value)
  | some (.number value) => numberText value
  | some value => value.dataText

/-- The numeric view of a value: a number is itself, a string is read as a real text, and a
boolean is one or zero. -/
def toBinary64? : Option Value → Option Binary64
  | some (.number value) => some value.toBinary64
  | some (.string value) => Binary64.read? (Text.trimmed value)
  | some (.bool value) => some (Binary64.ofInt (if value then 1 else 0))
  | _ => none

end Value
end Herald
