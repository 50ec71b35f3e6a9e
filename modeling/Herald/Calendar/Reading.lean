/- Reading dates from text.

Three families of texts denote an instant: an integer counts milliseconds since 1970; a
timestamp carries its own offset; a plain date, with or without a time of day, is a
wall-clock time at an offset given from outside. Blanks may stand before every number of a
plain date, and its numbers need no padding. -/
import Herald.Calendar.Moment
import Herald.Number.Numeral
namespace Herald
set_option autoImplicit false

/-- A part of a plain date format. -/
inductive DateItem where
  | year
  | pair
  | literal (c : Char)
  | gap
  deriving DecidableEq, Repr

namespace DateItem

/-- At most `width` digits at the front, at least one, and the rest. -/
def takeUpTo? (width : Nat) (text : List Char) : Option (Nat × List Char) :=
  let digits := (text.take width).takeWhile Char.isDigit
  if digits.isEmpty then none else some (digitsValue digits, text.drop digits.length)

/-- A year: one to four digits, or a sign and any number of digits. -/
def takeYear? : List Char → Option (Int × List Char)
  | '-' :: rest => (takeUpTo? rest.length rest).map fun (value, after) => (-(value : Int), after)
  | '+' :: rest => (takeUpTo? rest.length rest).map fun (value, after) => ((value : Int), after)
  | text => (takeUpTo? 4 text).map fun (value, after) => ((value : Int), after)

/-- The numbers of a text that starts with the items, in order, and the rest. -/
def take? : List DateItem → List Char → Option (List Int × List Char)
  | [], text => some ([], text)
  | .year :: items, text => do
    let (value, rest) ← takeYear? (Text.trimStart text)
    let (values, rest) ← take? items rest
    some (value :: values, rest)
  | .pair :: items, text => do
    let (value, rest) ← takeUpTo? 2 (Text.trimStart text)
    let (values, rest) ← take? items rest
    some ((value : Int) :: values, rest)
  | .literal expected :: items, text =>
    match text with
    | c :: rest => if c == expected then take? items rest else none
    | [] => none
  | .gap :: items, text => take? items (Text.trimStart text)

theorem take?_literal_cons (expected : Char) (items : List DateItem) (c : Char) (rest : List Char) :
    take? (.literal expected :: items) (c :: rest) = if c == expected then take? items rest else none := by
  rw [take?]

/-- The numbers of a text that is the items and nothing else. -/
def read? (items : List DateItem) (text : List Char) : Option (List Int) :=
  match take? items text with
  | some (values, []) => some values
  | _ => none

/-- Year, month and day with a separator. -/
def date (separator : Char) : List DateItem :=
  [.year, .literal separator, .pair, .literal separator, .pair]

/-- Hour and minute. -/
def clock : List DateItem := [.pair, .literal ':', .pair]

/-- Hour, minute and second. -/
def clockWithSecond : List DateItem := clock ++ [.literal ':', .pair]

/-- The formats of a plain date with a time of day. -/
def timedFormats : List (List DateItem) := [
  date '-' ++ .gap :: clockWithSecond,
  date '-' ++ .literal 'T' :: clockWithSecond,
  date '-' ++ .gap :: clock,
  date '-' ++ .literal 'T' :: clock,
  date '/' ++ .gap :: clockWithSecond,
  date '/' ++ .gap :: clock]

/-- The formats of a plain date alone, which is its midnight. -/
def dayFormats : List (List DateItem) := [date '-', date '/']

/-- All formats of a plain date, in the order in which they are tried. -/
def formats : List (List DateItem) := timedFormats ++ dayFormats

end DateItem

namespace WallTime

/-- The wall-clock time of a plain date's numbers; missing ones are zero. -/
def ofPlain? : List Int → Option WallTime
  | [year, month, day] => ofNumbers? year month.toNat day.toNat 0 0 0 0
  | [year, month, day, hour, minute] => ofNumbers? year month.toNat day.toNat hour.toNat minute.toNat 0 0
  | [year, month, day, hour, minute, second] =>
    ofNumbers? year month.toNat day.toNat hour.toNat minute.toNat second.toNat 0
  | _ => none

/-- The wall-clock time that a text denotes in one plain format. -/
def readAs? (format : List DateItem) (text : List Char) : Option WallTime :=
  (DateItem.read? format text).bind ofPlain?

/-- The wall-clock time of a plain date in the first format that reads it. -/
def read? (text : List Char) : Option WallTime :=
  DateItem.formats.findSome? fun format => readAs? format text

end WallTime

namespace Moment

/-- Exactly `width` digits at the front, and the rest. -/
def takeExactly? (width : Nat) (text : List Char) : Option (Nat × List Char) :=
  let digits := text.take width
  if digits.length == width && digits.all Char.isDigit then some (digitsValue digits, text.drop width)
  else none

/-- The rest of a text that starts with a character. -/
def takeChar? (expected : Char) : List Char → Option (List Char)
  | c :: rest => if c == expected then some rest else none
  | [] => none

/-- The rest after the mark between a timestamp's date and its time. -/
def takeMark? : List Char → Option (List Char)
  | c :: rest => if c == 'T' || c == 't' || c == ' ' then some rest else none
  | [] => none

/-- An optional fraction of a second in nanoseconds; digits beyond the ninth are dropped. -/
def takeFraction? : List Char → Option (Nat × List Char)
  | '.' :: rest =>
    let digits := rest.takeWhile Char.isDigit
    if digits.isEmpty then none
    else
      let kept := digits.take 9
      some (digitsValue kept * Nat.pow 10 (9 - kept.length), rest.drop digits.length)
  | text => some (0, text)

/-- An offset in seconds: the letter Z, or a sign, two digits of hours below 24, what
`between` passes over, and two digits of minutes below 60. The minus sign may be U+2212. -/
def takeOffset? (between : List Char → Option (List Char)) :
    List Char → Option (Int × List Char)
  | [] => none
  | c :: rest =>
    if c == 'Z' || c == 'z' then some (0, rest)
    else if c == '+' || c == '-' || c == Char.ofNat 0x2212 then do
      let (hours, rest) ← takeExactly? 2 rest
      let rest ← between rest
      let (minutes, rest) ← takeExactly? 2 rest
      if hours ≤ 23 && minutes ≤ 59 then
        let size : Int := (hours * 3600 + minutes * 60 : Nat)
        some (if c == '+' then size else -size, rest)
      else none
    else none

/-- The instant of a timestamp: fixed-width date and time, an optional fraction, an offset
with a colon, and nothing else. -/
def readStamp? (text : List Char) : Option Moment := do
  let (year, rest) ← takeExactly? 4 text
  let rest ← takeChar? '-' rest
  let (month, rest) ← takeExactly? 2 rest
  let rest ← takeChar? '-' rest
  let (day, rest) ← takeExactly? 2 rest
  let rest ← takeMark? rest
  let (hour, rest) ← takeExactly? 2 rest
  let rest ← takeChar? ':' rest
  let (minute, rest) ← takeExactly? 2 rest
  let rest ← takeChar? ':' rest
  let (second, rest) ← takeExactly? 2 rest
  let (nano, rest) ← takeFraction? rest
  let (offset, rest) ← takeOffset? (takeChar? ':') rest
  if rest.isEmpty then
    let time ← WallTime.ofNumbers? year month day hour minute second nano
    time.toMoment? offset
  else none

/-- The rest after any colons and blanks. -/
def skipColons (text : List Char) : List Char :=
  text.dropWhile fun c => c == ':' || Text.isBlank c

/-- The offset at the end of a loosely written timestamp; the letters UTC are one too. -/
def takeLooseOffset? (text : List Char) : Option (Int × List Char) :=
  if Text.asciiLower (text.take 3) == ['u', 't', 'c'] then some (0, text.drop 3)
  else takeOffset? (fun rest => some (skipColons rest)) text

/-- The instant of a loosely written timestamp: as `readStamp?`, but numbers need no
padding, blanks may stand before each part, and the offset's colon may be missing. -/
def readLooseStamp? (text : List Char) : Option Moment := do
  let (date, rest) ← DateItem.take?
    [.year, .gap, .literal '-', .pair, .gap, .literal '-', .pair] text
  let rest ← takeMark? rest
  let (clock, rest) ← DateItem.take?
    [.pair, .gap, .literal ':', .pair, .gap, .literal ':', .pair] rest
  let (nano, rest) ← takeFraction? rest
  let (offset, rest) ← takeLooseOffset? (Text.trimStart rest)
  if (Text.trimStart rest).isEmpty then
    let time ← WallTime.ofPlain? (date ++ clock)
    { time with nano := time.nano + nano }.toMoment? offset
  else none

/-- The instant that a trimmed text denotes, plain dates being read at an offset. The first
family of texts that reads it decides, also when its instant lies out of range. -/
def read? (offset : Int) (text : List Char) : Option Moment :=
  match readInt64? text with
  | some millis => ofMillis? millis
  | none =>
    match readStamp? text with
    | some moment => some moment
    | none => (WallTime.read? text).bind (WallTime.toMoment? offset)

end Moment
end Herald
