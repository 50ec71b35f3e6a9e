/- Quoted stretches of an expression.

A single or double quote opens a stretch that the same character closes; the other
quote character is plain inside it, and there is no escape. A character is *outside*
when no stretch is open before it. Separators and operators act outside only. -/
import Herald.Text.Blank
namespace Herald.Text
set_option autoImplicit false

/-- The two quote characters. -/
def isQuote (c : Char) : Bool := c == '"' || c == '\''

/-- The open quote after one more character, from the open quote before it. -/
def quoteStep (quote : Option Char) (c : Char) : Option Char :=
  match quote with
  | some opened => if c == opened then none else quote
  | none => if isQuote c then some c else none

/-- The open quote at the end of a text. -/
def openQuote (text : List Char) : Option Char := text.foldl quoteStep none

/-- Every quoted stretch of the text is closed. -/
def balanced (text : List Char) : Bool := (openQuote text).isNone

/-- The pieces of a text between separators that stand outside quotes: `piece` is the
current piece and `pieces` the finished ones, both reversed. -/
def cutOutsideFrom (separator : Char) (quote : Option Char) (piece : List Char)
    (pieces : List (List Char)) : List Char → List (List Char)
  | [] => (piece.reverse :: pieces).reverse
  | c :: rest =>
    if quote.isNone && !isQuote c && c == separator then
      cutOutsideFrom separator none [] (piece.reverse :: pieces) rest
    else cutOutsideFrom separator (quoteStep quote c) (c :: piece) pieces rest

/-- The text cut at every separator that stands outside quotes. -/
def cutOutside (separator : Char) (text : List Char) : List (List Char) :=
  cutOutsideFrom separator none [] [] text

/-- The trimmed pieces between the separators that stand outside quotes. -/
def splitOutside (separator : Char) (text : List Char) : List (List Char) :=
  (cutOutside separator text).map trim

/-- Walks to the first place outside quotes where `mark` stands; `before` is the text
passed so far, reversed. -/
def breakOutsideFrom (mark : List Char) (quote : Option Char) (before : List Char) :
    List Char → Option (List Char × List Char)
  | [] => none
  | c :: rest =>
    if quote.isNone && !isQuote c && mark.isPrefixOf (c :: rest) then
      some (before.reverse, (c :: rest).drop mark.length)
    else breakOutsideFrom mark (quoteStep quote c) (c :: before) rest

/-- The texts before and after the first `mark` outside quotes. -/
def breakOutside (mark : List Char) (text : List Char) : Option (List Char × List Char) :=
  breakOutsideFrom mark none [] text

/-- The inside of a text that begins and ends with the same quote character; the
inside may hold that character too. -/
def unquote (text : List Char) : Option (List Char) :=
  match text with
  | [] => none
  | first :: rest =>
    if isQuote first && rest.getLast? == some first then some rest.dropLast else none

end Herald.Text
