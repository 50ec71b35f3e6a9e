/- Function calls.

A call is a name, an opening parenthesis, arguments between commas, and a closing
parenthesis at the very end. The name is a letter or underscore followed by letters, numbers
and underscores. Commas count outside quotes only, and a quote left open makes the text no
call. -/
import Herald.Operand
import Herald.Text.Letters
namespace Herald
set_option autoImplicit false

/-- A call as written. -/
structure Call where
  name : List Char
  arguments : List (List Char)
  deriving DecidableEq, Repr

namespace Call

/-- A function's name. -/
def isName : List Char → Bool
  | [] => false
  | first :: rest =>
    (Text.isLetter first || first == '_') && rest.all fun c => Text.isAlphanumeric c || c == '_'

/-- The trimmed arguments of a text, unless one of its quotes stays open: `argument` is the
current one and `done` the finished ones, both reversed. -/
def scanArguments (quote : Option Char) (argument : List Char) (done : List (List Char)) :
    List Char → Option (List (List Char))
  | [] =>
    match quote with
    | some _ => none
    | none => some (Text.trim argument.reverse :: done).reverse
  | c :: rest =>
    match quote with
    | some opened => scanArguments (if c == opened then none else quote) (c :: argument) done rest
    | none =>
      if Text.isQuote c then scanArguments (some c) (c :: argument) done rest
      else if c == ',' then scanArguments none [] (Text.trim argument.reverse :: done) rest
      else scanArguments none (c :: argument) done rest

/-- The arguments between a call's parentheses; a blank text has none. -/
def readArguments? (text : List Char) : Option (List (List Char)) :=
  if (Text.trim text).isEmpty then some [] else scanArguments none [] [] text

/-- The call that a text is, if it is one. -/
def read? (text : List Char) : Option Call :=
  let text := Text.trim text
  let name := Text.trim (text.takeWhile (· != '('))
  match text.dropWhile (· != '(') with
  | [] => none
  | _ :: rest =>
    if rest.getLast? == some ')' && isName name then
      (readArguments? rest.dropLast).map fun arguments => ⟨name, arguments⟩
    else none

/-- The value of an argument: a quoted text is its inside, any other one an operand, and
undefined becomes null. -/
def argumentValue (context : Context) (argument : List Char) : Value :=
  match Text.unquote argument with
  | some inside => .ofChars inside
  | none => (context.operand? argument).getD .null

/-- The values of a call's arguments. -/
def values (context : Context) (call : Call) : List Value :=
  call.arguments.map (argumentValue context)

end Call
end Herald
