/- Instants and wall-clock times.

An instant is a count of seconds since the start of 1970 in UTC and a count of nanoseconds
in that second. A leap second has no second of its own: it is the second before it with
nanoseconds from 10^9 on. A wall-clock time is the same instant's day and time of day at an
offset. -/
import Herald.Calendar.Day
namespace Herald
set_option autoImplicit false

/-- An instant in UTC. -/
structure Moment where
  second : Int
  nano : Nat
  deriving DecidableEq, Repr

/-- A day and a time of day. -/
structure WallTime where
  day : Day
  hour : Nat
  minute : Nat
  second : Nat
  nano : Nat
  deriving DecidableEq, Repr

namespace Moment

/-- The seconds of a day. -/
def daySeconds : Int := 86400

/-- The instant lies on a day of the calendar's range in UTC. -/
def inRange (moment : Moment) : Bool := Day.inRange (moment.second / daySeconds)

/-- The instant of a count of milliseconds since the start of 1970, if in range. -/
def ofMillis? (millis : Int) : Option Moment :=
  let moment := Moment.mk (millis / 1000) ((millis % 1000).toNat * 1000000)
  if moment.inRange then some moment else none

/-- The milliseconds since the start of 1970, rounded down. -/
def millis (moment : Moment) : Int := moment.second * 1000 + (moment.nano / 1000000 : Nat)

/-- The wall-clock time at an offset in seconds east of UTC. -/
def wallTime (offset : Int) (moment : Moment) : WallTime :=
  let shifted := moment.second + offset
  let inDay := (shifted % daySeconds).toNat
  ⟨Day.ofNumber (shifted / daySeconds), inDay / 3600, inDay / 60 % 60, inDay % 60, moment.nano⟩

/-- The calendar day at an offset; none beyond the calendar's range, which the offset can
overstep by a day. -/
def dayAt? (offset : Int) (moment : Moment) : Option Day :=
  let number := (moment.second + offset) / daySeconds
  if Day.inRange number then some (Day.ofNumber number) else none

/-- The nanoseconds from one instant to another. A leap second counts as a second of its
own for every later time of day. -/
def nanosSince (later earlier : Moment) : Int :=
  let laterInDay := later.second % daySeconds
  let earlierInDay := earlier.second % daySeconds
  let leap : Int :=
    if earlierInDay < laterInDay && 1000000000 ≤ earlier.nano then 1
    else if laterInDay < earlierInDay && 1000000000 ≤ later.nano then -1
    else 0
  (later.second - earlier.second + leap) * 1000000000 + ((later.nano : Int) - earlier.nano)

/-- The whole seconds from one instant to another, rounded towards zero. -/
def secondsSince (later earlier : Moment) : Int := (later.nanosSince earlier).tdiv 1000000000

end Moment

namespace WallTime

/-- The instant of a wall-clock time at an offset, if in range. -/
def toMoment? (offset : Int) (time : WallTime) : Option Moment :=
  let second := time.day.number * Moment.daySeconds +
    (time.hour * 3600 + time.minute * 60 + time.second : Nat) - offset
  let moment := Moment.mk second time.nano
  if moment.inRange then some moment else none

/-- The wall-clock time of its numbers, if they name one. Second 60 is the leap second. -/
def ofNumbers? (year : Int) (month day hour minute second nano : Nat) : Option WallTime :=
  let date := Day.mk year month day
  if date.exists? && Day.inRange date.number && hour ≤ 23 && minute ≤ 59 then
    if second ≤ 59 then some ⟨date, hour, minute, second, nano⟩
    else if second == 60 then some ⟨date, hour, minute, 59, nano + 1000000000⟩
    else none
  else none

end WallTime
end Herald
