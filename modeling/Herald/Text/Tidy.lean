/- Whitespace normal form of a rendered text.

Each line becomes its words with single spaces between them; runs of blank lines
become one blank line; blank lines at the beginning and at the end disappear.
Lines end at a newline; a carriage return is an ordinary blank. -/
import Herald.Text.Blank
namespace Herald.Text
set_option autoImplicit false

/-- The lines of a text as lists of words; a blank line is the empty list. -/
def wordRows (text : List Char) : List (List (List Char)) :=
  (cutAt (· == '\n') text).map words

/-- One blank row for each run of blank rows between two others, none at the end,
and at most one at the beginning. -/
def squeezeRows (rows : List (List (List Char))) : List (List (List Char)) :=
  rows.foldr (fun row below =>
    if row.isEmpty then
      match below with
      | [] => []
      | next :: _ => if next.isEmpty then below else row :: below
    else row :: below) []

/-- The text of word rows: words apart by one space, rows by one newline. -/
def printRows (rows : List (List (List Char))) : List Char :=
  joinWith ['\n'] (rows.map (joinWith [' ']))

/-- The whitespace normal form of a text. -/
def tidy (text : List Char) : List Char :=
  printRows ((squeezeRows (wordRows text)).dropWhile List.isEmpty)

end Herald.Text
