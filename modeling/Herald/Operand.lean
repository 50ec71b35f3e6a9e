/- Operands: literals and paths.

A literal is a quoted string, a number, or one of the words `true`, `false`, `null` and
`undefined`. A number begins, after any signs, with a digit or a point, and is an integer if
it reads as a 64-bit integer and a finite real otherwise. Any other text is a path. -/
import Herald.Context
import Herald.Text.Quotes
namespace Herald
set_option autoImplicit false

/-- What a literal denotes. -/
inductive Literal where
  | defined (value : Value)
  | undefined

namespace Literal

/-- The number that a text writes out. -/
def readNumber? (text : List Char) : Option Number :=
  match text.dropWhile (fun c => c == '-' || c == '+') with
  | [] => none
  | c :: _ =>
    if c.isDigit || c == '.' then
      match readInt64? text with
      | some value => some (.int value)
      | none => (Binary64.read? text).bind Number.ofBinary64?
    else none

/-- The literal that a text is, if it is one. -/
def read? (text : List Char) : Option Literal :=
  let text := Text.trim text
  if text.isEmpty then none
  else match Text.unquote text with
    | some inside => some (.defined (.ofChars inside))
    | none =>
      if text == "true".toList then some (.defined (.bool true))
      else if text == "false".toList then some (.defined (.bool false))
      else if text == "null".toList then some (.defined .null)
      else if text == "undefined".toList then some .undefined
      else (readNumber? text).map fun number => .defined (.number number)

/-- The value of a literal; none if it is undefined. -/
def toValue? : Literal → Option Value
  | .defined value => some value
  | .undefined => none

end Literal

/-- The value of an operand: of the literal that it is, or at the path that it is. -/
def Context.operand? (context : Context) (text : List Char) : Option Value :=
  match Literal.read? text with
  | some literal => literal.toValue?
  | none => context.resolve? text

end Herald
