/- The data text of a value.

Compact JSON: no blanks, fields in name order. A string escapes the quote, the backslash
and the controls below the space, with a letter where there is one and with four
lower-case hexadecimal digits otherwise. Two values have one text exactly when they are
the same value, so the text serves as a canonical form. -/
import Herald.Value.Basic
namespace Herald
set_option autoImplicit false

/-- A hexadecimal digit in lower case. -/
def hexDigit (value : Nat) : Char := Nat.digitChar value

/-- One character inside a quoted text. -/
def escapeChar (c : Char) : List Char :=
  if c == '"' then ['\\', '"']
  else if c == '\\' then ['\\', '\\']
  else if c == '\n' then ['\\', 'n']
  else if c == '\r' then ['\\', 'r']
  else if c == '\t' then ['\\', 't']
  else if c.toNat == 8 then ['\\', 'b']
  else if c.toNat == 12 then ['\\', 'f']
  else if c.toNat < 32 then ['\\', 'u', '0', '0', hexDigit (c.toNat / 16), hexDigit (c.toNat % 16)]
  else [c]

/-- A text in quotes. -/
def quoted (text : String) : List Char := '"' :: (text.toList.flatMap escapeChar ++ ['"'])

/-- The data text of a number. -/
def Number.dataText : Number → List Char
  | .int value => if value < 0 then '-' :: decimalDigits value.natAbs else decimalDigits value.natAbs
  | .float negative units => Binary64.dataText negative units

namespace Value

mutual
/-- The data text of a value. -/
def dataText : Value → List Char
  | .null => "null".toList
  | .bool value => if value then "true".toList else "false".toList
  | .number value => value.dataText
  | .string value => quoted value
  | .array items => '[' :: (itemsText items ++ [']'])
  | .object fields => '{' :: (fieldsText fields ++ ['}'])

/-- Items between commas. -/
def itemsText : List Value → List Char
  | [] => []
  | [last] => dataText last
  | item :: rest => dataText item ++ ',' :: itemsText rest

/-- Named fields between commas. -/
def fieldsText : List (String × Value) → List Char
  | [] => []
  | [(name, last)] => quoted name ++ ':' :: dataText last
  | (name, value) :: rest => quoted name ++ ':' :: (dataText value ++ ',' :: fieldsText rest)
end

/-- The data text as a string. -/
def compact (value : Value) : String := String.ofList value.dataText

end Value
end Herald
