/- Reading numbers from text.

An integer text is digits with an optional sign. A real text is digits with an optional
point, sign and exponent, or one of the words `inf`, `infinity` and `nan` in any case; it
denotes the nearest binary64 number, and an overflow is infinite. -/
import Herald.Number.Basic
import Herald.Text.Blank
namespace Herald
set_option autoImplicit false

/-- The value of a list of decimal digits. -/
def digitsValue (digits : List Char) : Nat :=
  digits.foldl (fun value c => value * 10 + (c.toNat - '0'.toNat)) 0

/-- The value of a hexadecimal digit. -/
def hexValue? (c : Char) : Option Nat :=
  if c.isDigit then some (c.toNat - '0'.toNat)
  else if 'a' ≤ c && c ≤ 'f' then some (c.toNat - 'a'.toNat + 10)
  else if 'A' ≤ c && c ≤ 'F' then some (c.toNat - 'A'.toNat + 10)
  else none

/-- A nonempty list of decimal digits as a number. -/
def readDigits? (text : List Char) : Option Nat :=
  if text.isEmpty || !text.all Char.isDigit then none else some (digitsValue text)

/-- Digits with an optional plus sign. -/
def readNat? : List Char → Option Nat
  | '+' :: rest => readDigits? rest
  | text => readDigits? text

/-- Digits with an optional sign, of any size. -/
def readInt? : List Char → Option Int
  | '-' :: rest => (readDigits? rest).map fun value => -(value : Int)
  | text => (readNat? text).map fun value => (value : Int)

/-- Digits with an optional sign, between -2^63 and 2^63 - 1. -/
def readInt64? (text : List Char) : Option Int :=
  (readInt? text).filter fun value => -0x8000000000000000 ≤ value && value ≤ 0x7FFFFFFFFFFFFFFF

namespace Binary64

/-- The number nearest to `digits * 10^exponent`. Beyond 10^310 every nonzero decimal
overflows and below 10^-330 every decimal is nearest to zero, whatever its digits. -/
def ofDecimal (negative : Bool) (digits : List Char) (exponent : Int) : Binary64 :=
  let significant := digits.dropWhile (· == '0')
  let size := (significant.length : Int) + exponent
  if significant.isEmpty || size < -330 then .finite negative 0
  else if 310 < size then .infinite negative
  else if exponent < 0 then ofRatio negative (digitsValue significant) (Nat.pow 10 exponent.natAbs)
  else ofRatio negative (digitsValue significant * Nat.pow 10 exponent.natAbs) 1

/-- The exponent part of a real text; nothing at all is the exponent zero. -/
def readExponent? : List Char → Option Int
  | [] => some 0
  | mark :: rest => if mark == 'e' || mark == 'E' then readInt? rest else none

/-- A real text without its sign. -/
def readUnsigned? (negative : Bool) (text : List Char) : Option Binary64 :=
  let lower := Text.asciiLower text
  if lower == ['i', 'n', 'f'] || lower == ['i', 'n', 'f', 'i', 'n', 'i', 't', 'y'] then
    some (.infinite negative)
  else if lower == ['n', 'a', 'n'] then some .nan
  else
    let whole := text.takeWhile Char.isDigit
    let afterWhole := text.dropWhile Char.isDigit
    let (fraction, tail) := match afterWhole with
      | '.' :: rest => (rest.takeWhile Char.isDigit, rest.dropWhile Char.isDigit)
      | _ => ([], afterWhole)
    if whole.isEmpty && fraction.isEmpty then none
    else (readExponent? tail).map fun exponent =>
      ofDecimal negative (whole ++ fraction) (exponent - fraction.length)

/-- A real text. -/
def read? : List Char → Option Binary64
  | '-' :: rest => readUnsigned? true rest
  | '+' :: rest => readUnsigned? false rest
  | text => readUnsigned? false text

end Binary64
end Herald
