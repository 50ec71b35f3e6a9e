/- The built-in formatters.

A formatter that cannot handle its value returns it unchanged. -/
import Herald.Currency
import Herald.Operand
import Herald.Text.CaseMap
import Herald.Toolbox
namespace Herald
set_option autoImplicit false
namespace Formatters

/-- The text of an argument, unless it is missing or null. -/
def textArgument? (arguments : List Value) (index : Nat) : Option (List Char) :=
  match arguments[index]? with
  | none => none
  | some .null => none
  | some value => some (Value.display (some value))

/-- The count that an argument denotes: its numeric view towards zero, unless it is
negative; at most 2^64 - 1. -/
def countArgument? (arguments : List Value) (index : Nat) : Option Nat :=
  match Value.toBinary64? arguments[index]? with
  | none => none
  | some number =>
    if number == .nan || number.isBelowZero then none
    else some (number.truncate 0 0xFFFFFFFFFFFFFFFF).toNat

/-- The amount in a value: its numeric view, unless it is a boolean. -/
def amount? : Value → Option Binary64
  | .bool _ => none
  | value => Value.toBinary64? (some value)

/-- A date by a pattern, or by a pattern of the formatter's own where none is given. -/
def dateText (fallback : String) (value : Value) (arguments : List Value) (context : Context) : Value :=
  match context.zone.readDate? value with
  | some moment =>
    let pattern := (textArgument? arguments 0).getD fallback.toList
    .ofChars ((context.zone.wallTime moment).expand pattern)
  | none => value

/-- An amount in a currency, or in the locale's own. -/
def currency (value : Value) (arguments : List Value) (context : Context) : Value :=
  match amount? value with
  | some amount =>
    let code := Currency.codeFor (textArgument? arguments 0) context.locale
    .ofChars ((Currency.ofCode code).amountText amount)
  | none => value

/-- An amount with a fixed number of places, at most twenty. -/
def number (value : Value) (arguments : List Value) (_ : Context) : Value :=
  match amount? value with
  | some amount => .ofChars (amount.fixed (min ((countArgument? arguments 0).getD 0) 20))
  | none => value

/-- The printed text of a value, changed; null stays null. -/
def mapText (change : List Char → List Char) (value : Value) (_ : List Value) (_ : Context) : Value :=
  match value with
  | .null => .null
  | other => .ofChars (change (Value.display (some other)))

/-- A string cut to a number of characters, fifty by default, with a suffix where
something was cut off. -/
def truncate (value : Value) (arguments : List Value) (_ : Context) : Value :=
  match value with
  | .string text =>
    let length := (countArgument? arguments 0).getD 50
    let suffix := (textArgument? arguments 1).getD ['.', '.', '.']
    if text.length ≤ length then value else .ofChars (text.toList.take length ++ suffix)
  | _ => value

/-- The first argument in place of null or an empty string. -/
def orDefault (value : Value) (arguments : List Value) (_ : Context) : Value :=
  let missing := match value with
    | .null => true
    | .string text => text.isEmpty
    | _ => false
  if missing then arguments.head?.getD (.string "") else value

/-- The printed items of an array with a separator between them. -/
def join (value : Value) (arguments : List Value) (_ : Context) : Value :=
  match value with
  | .array items =>
    let separator := (textArgument? arguments 0).getD [',', ' ']
    .ofChars (Text.joinWith separator (items.map fun item => Value.display (some item)))
  | _ => value

/-- The built-in formatters by name. -/
def builtins (State : Type) : Dict (Formatter State) :=
  Dict.ofList [
    ("date", Toolbox.pureFormatter (dateText "YYYY-MM-DD")),
    ("time", Toolbox.pureFormatter (dateText "HH:mm:ss")),
    ("currency", Toolbox.pureFormatter currency),
    ("number", Toolbox.pureFormatter number),
    ("upper", Toolbox.pureFormatter (mapText Text.upperCase)),
    ("lower", Toolbox.pureFormatter (mapText Text.lowerCase)),
    ("trim", Toolbox.pureFormatter (mapText Text.trim)),
    ("truncate", Toolbox.pureFormatter truncate),
    ("default", Toolbox.pureFormatter orDefault),
    ("join", Toolbox.pureFormatter join)]

end Formatters
end Herald
