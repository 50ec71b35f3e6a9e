/- Render timezones.

A zone is a name and a fixed offset from UTC. Eleven zones without daylight saving are
known by name, in any case; any other zone is written as an offset: a sign and up to four
digits, of which the last two are minutes when there are more than two. Colons in an
offset are passed over wherever they stand. -/
import Herald.Calendar.Reading
import Herald.Value.Basic
namespace Herald
set_option autoImplicit false

/-- A timezone: its name as given and its offset in seconds east of UTC. -/
structure Zone where
  name : String
  offset : Int
  deriving DecidableEq, Repr

namespace Zone

/-- The zones known by name, with their offsets. -/
def named : List (String × Int) := [
  ("Asia/Shanghai", 28800),
  ("Asia/Chongqing", 28800),
  ("Asia/Hong_Kong", 28800),
  ("Asia/Taipei", 28800),
  ("Asia/Singapore", 28800),
  ("Asia/Tokyo", 32400),
  ("Asia/Seoul", 32400),
  ("Asia/Kolkata", 19800),
  ("UTC", 0),
  ("Etc/UTC", 0),
  ("GMT", 0)]

/-- The offset of a zone known by name; case does not count. -/
def namedOffset? (name : List Char) : Option Int :=
  (named.find? fun zone => Text.asciiLower zone.1.toList == Text.asciiLower name).map Prod.snd

/-- The size in seconds of an offset's digits: hours up to 14, then minutes up to 59. -/
def offsetSize? (digits : List Char) : Option Int :=
  if digits.isEmpty || 4 < digits.length || !digits.all Char.isDigit then none
  else
    let hourDigits := if digits.length ≤ 2 then digits.length else digits.length - 2
    let hours := digitsValue (digits.take hourDigits)
    let minutes := digitsValue (digits.drop hourDigits)
    if hours ≤ 14 && minutes ≤ 59 then some (hours * 3600 + minutes * 60 : Nat) else none

/-- The offset that a text writes out. -/
def writtenOffset? : List Char → Option Int
  | '+' :: rest => offsetSize? (rest.filter (· != ':'))
  | '-' :: rest => (offsetSize? (rest.filter (· != ':'))).map fun size => -size
  | _ => none

/-- The zone of a text, blanks around it aside. -/
def read? (text : String) : Option Zone :=
  let name := Text.trimmed text
  let offset? := (namedOffset? name).or (writtenOffset? name)
  offset?.map fun offset => ⟨String.ofList name, offset⟩

/-- The wall-clock time of an instant in a zone. -/
def wallTime (zone : Zone) (moment : Moment) : WallTime := moment.wallTime zone.offset

/-- The calendar day of an instant in a zone. -/
def dayOf? (zone : Zone) (moment : Moment) : Option Day := moment.dayAt? zone.offset

/-- The instant that a value denotes. A number counts milliseconds, read through its
binary64 view and towards zero; a text is read as a date in the zone. -/
def readDate? (zone : Zone) : Value → Option Moment
  | .number value => Moment.ofMillis? (value.toBinary64.truncate (-0x8000000000000000) 0x7FFFFFFFFFFFFFFF)
  | .string value => Moment.read? zone.offset (Text.trimmed value)
  | _ => none

end Zone
end Herald
