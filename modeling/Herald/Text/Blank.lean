/- White space, trimming and words.

A character is blank when it has the Unicode property White_Space: the ASCII
controls 9 to 13, the space, and eight further characters or ranges. Every
trimming and word split of the library uses this one class. -/
namespace Herald.Text
set_option autoImplicit false

/-- The Unicode White_Space characters. -/
def isBlank (c : Char) : Bool :=
  let code := c.toNat
  (9 ≤ code && code ≤ 13) || code == 0x20 || code == 0x85 || code == 0xA0 || code == 0x1680 ||
    (0x2000 ≤ code && code ≤ 0x200A) || code == 0x2028 || code == 0x2029 || code == 0x202F ||
    code == 0x205F || code == 0x3000

/-- The text without its leading blanks. -/
def trimStart (text : List Char) : List Char := text.dropWhile isBlank

/-- The text without its trailing blanks. -/
def trimEnd (text : List Char) : List Char := (text.reverse.dropWhile isBlank).reverse

/-- The text without blanks at either end. -/
def trim (text : List Char) : List Char := trimEnd (trimStart text)

/-- Cuts a text at every character of a class; the cut characters are dropped, so
a text with `n` of them gives `n + 1` pieces. -/
def cutAt (cut : Char → Bool) (text : List Char) : List (List Char) :=
  text.foldr (fun c pieces =>
    if cut c then [] :: pieces
    else match pieces with
      | [] => [[c]]
      | piece :: rest => (c :: piece) :: rest) [[]]

/-- The maximal blank-free runs of a text, in order. -/
def words (text : List Char) : List (List Char) := (cutAt isBlank text).filter (!·.isEmpty)

/-- The pieces with a separator between neighbours. -/
def joinWith (separator : List Char) (pieces : List (List Char)) : List Char :=
  (pieces.intersperse separator).flatten

/-- Trimming by way of strings. -/
def trimmed (text : String) : List Char := trim text.toList

/-- ASCII upper case to lower case; every other character is itself. -/
def asciiLower (text : List Char) : List Char := text.map Char.toLower

/-- ASCII lower case to upper case; every other character is itself. -/
def asciiUpper (text : List Char) : List Char := text.map Char.toUpper

end Herald.Text
