/- Reading a value from its data text.

The full JSON grammar: blanks between tokens, every escape, surrogate pairs for the
characters beyond the basic plane. A number without point and exponent that fits 64 bits
is an integer, every other number is the nearest finite binary64 number; `-0` is the
negative zero. Of two fields of one name the later counts. -/
import Herald.Value.Basic
namespace Herald
set_option autoImplicit false
namespace Value

/-- The four blanks between tokens. -/
def isSpace (c : Char) : Bool := c == ' ' || c == '\n' || c == '\r' || c == '\t'

/-- The text from its first token on. -/
def skipSpace (text : List Char) : List Char := text.dropWhile isSpace

/-- The value of four hexadecimal digits at the front, and the rest. -/
def readHex4? : List Char → Option (Nat × List Char)
  | a :: b :: c :: d :: rest => do
    let a ← hexValue? a
    let b ← hexValue? b
    let c ← hexValue? c
    let d ← hexValue? d
    some (((a * 16 + b) * 16 + c) * 16 + d, rest)
  | _ => none

/-- The character of a `u` escape after its letter, and the rest. -/
def readUnicode? (text : List Char) : Option (Char × List Char) := do
  let (code, rest) ← readHex4? text
  if 0xD800 ≤ code && code ≤ 0xDBFF then
    match rest with
    | '\\' :: 'u' :: more =>
      let (low, rest) ← readHex4? more
      if 0xDC00 ≤ low && low ≤ 0xDFFF then
        some (Char.ofNat (0x10000 + (code - 0xD800) * 0x400 + (low - 0xDC00)), rest)
      else none
    | _ => none
  else if 0xDC00 ≤ code && code ≤ 0xDFFF then none
  else some (Char.ofNat code, rest)

/-- The character of a single-letter escape. -/
def letterEscape? (c : Char) : Option Char :=
  if c == '"' || c == '\\' || c == '/' then some c
  else if c == 'n' then some '\n'
  else if c == 'r' then some '\r'
  else if c == 't' then some '\t'
  else if c == 'b' then some (Char.ofNat 8)
  else if c == 'f' then some (Char.ofNat 12)
  else none

/-- The inside of a quoted text after its opening quote, and what follows the closing
one; `done` is the part read so far, reversed. -/
def readQuoted? : Nat → List Char → List Char → Option (List Char × List Char)
  | 0, _, _ => none
  | _ + 1, _, [] => none
  | fuel + 1, done, c :: rest =>
    if c == '"' then some (done.reverse, rest)
    else if c == '\\' then
      match rest with
      | [] => none
      | escape :: more =>
        if escape == 'u' then
          match readUnicode? more with
          | some (character, after) => readQuoted? fuel (character :: done) after
          | none => none
        else
          match letterEscape? escape with
          | some character => readQuoted? fuel (character :: done) more
          | none => none
    else if c.toNat < 32 then none
    else readQuoted? fuel (c :: done) rest

/-- The number of a number token. -/
def numberOf? (token : List Char) : Option Number :=
  let (negative, digits) := match token with
    | '-' :: rest => (true, rest)
    | _ => (false, token)
  let whole := digits.takeWhile Char.isDigit
  let tail := digits.dropWhile Char.isDigit
  if whole.isEmpty || (whole.head? == some '0' && whole.length != 1) then none
  else if tail.isEmpty then
    let size := digitsValue whole
    if negative && size != 0 && size ≤ 0x8000000000000000 then some (.int (-(size : Int)))
    else if !negative && size ≤ 0xFFFFFFFFFFFFFFFF then some (.int size)
    else Number.ofBinary64? (Binary64.ofDecimal negative whole 0)
  else
    let (fraction, tail, pointed) := match tail with
      | '.' :: rest => (rest.takeWhile Char.isDigit, rest.dropWhile Char.isDigit, true)
      | _ => ([], tail, false)
    if pointed && fraction.isEmpty then none
    else (Binary64.readExponent? tail).bind fun exponent =>
      Number.ofBinary64? (Binary64.ofDecimal negative (whole ++ fraction) (exponent - fraction.length))

/-- A character of a number token. -/
def isNumberChar (c : Char) : Bool :=
  c.isDigit || c == '-' || c == '+' || c == '.' || c == 'e' || c == 'E'

mutual
/-- A value at the front of a text that starts with a token, and the rest. -/
def readValue? : Nat → List Char → Option (Value × List Char)
  | 0, _ => none
  | fuel + 1, text =>
    match text with
    | [] => none
    | c :: rest =>
      if c == '"' then
        (readQuoted? (rest.length + 1) [] rest).map fun (inside, after) => (.ofChars inside, after)
      else if c == '[' then
        match skipSpace rest with
        | ']' :: after => some (.array [], after)
        | items => readItems? fuel [] items
      else if c == '{' then
        match skipSpace rest with
        | '}' :: after => some (.object [], after)
        | fields => readFields? fuel [] fields
      else if isNumberChar c then
        (numberOf? (text.takeWhile isNumberChar)).map fun value =>
          (.number value, text.dropWhile isNumberChar)
      else if "null".toList.isPrefixOf text then some (.null, text.drop 4)
      else if "true".toList.isPrefixOf text then some (.bool true, text.drop 4)
      else if "false".toList.isPrefixOf text then some (.bool false, text.drop 5)
      else none

/-- The items of a list from the start of one on, after the items `done` (reversed). -/
def readItems? : Nat → List Value → List Char → Option (Value × List Char)
  | 0, _, _ => none
  | fuel + 1, done, text =>
    match readValue? fuel text with
    | none => none
    | some (item, after) =>
      match skipSpace after with
      | ',' :: more => readItems? fuel (item :: done) (skipSpace more)
      | ']' :: rest => some (.array (item :: done).reverse, rest)
      | _ => none

/-- The fields of an object from the start of one on, over the fields `done`. -/
def readFields? : Nat → List (String × Value) → List Char → Option (Value × List Char)
  | 0, _, _ => none
  | fuel + 1, done, text =>
    match text with
    | '"' :: opened =>
      match readQuoted? (opened.length + 1) [] opened with
      | none => none
      | some (name, after) =>
        match skipSpace after with
        | ':' :: more =>
          match readValue? fuel (skipSpace more) with
          | none => none
          | some (value, after) =>
            let fields := Dict.insert (String.ofList name) value done
            match skipSpace after with
            | ',' :: more => readFields? fuel fields (skipSpace more)
            | '}' :: rest => some (.object fields, rest)
            | _ => none
        | _ => none
    | _ => none
end

/-- The value of a whole text. Each call of the readers consumes a character of the text,
so its length bounds their depth. -/
def parse? (text : String) : Option Value :=
  let characters := text.toList
  match readValue? (characters.length + 1) (skipSpace characters) with
  | some (value, rest) => if (skipSpace rest).isEmpty then some value else none
  | none => none

end Value
end Herald
