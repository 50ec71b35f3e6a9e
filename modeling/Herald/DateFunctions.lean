/- The built-in functions: dates seen from the render instant.

Each takes a date as its first argument and gives null where that is no date. They speak of
calendar days in the render zone. An offset can push an instant at the very end of the
calendar's range to a day beyond it; such a day has no place in the calendar, and a function
that needs it has no answer, which is not the answer null (`ofDate?`). -/
import Herald.Toolbox
namespace Herald
set_option autoImplicit false
namespace DateFunctions

/-- The date that the first argument denotes. -/
def dateArgument? (arguments : List Value) (context : Context) : Option Moment :=
  arguments.head?.bind context.zone.readDate?

/-- How long ago an instant was, in minutes, hours or days up to a month; a later or an
earlier one is written as its day. None where that day is beyond the calendar. -/
def timeAgo? (context : Context) (date : Moment) : Option String :=
  let seconds := context.now.secondsSince date
  if seconds < 0 || 30 * 86400 ≤ seconds then
    (context.zone.dayOf? date).map fun day => String.ofList (context.locale.dateText day)
  else if seconds < 60 then some context.locale.justNow
  else if seconds < 3600 then some (context.locale.ago (seconds / 60).toNat .minute)
  else if seconds < 86400 then some (context.locale.ago (seconds / 3600).toNat .hour)
  else some (context.locale.ago (seconds / 86400).toNat .day)

/-- The day of an instant in words when it is within a week of today, and as a date
otherwise. None where either day is beyond the calendar. -/
def relativeDate? (context : Context) (date : Moment) : Option String := do
  let target ← context.zone.dayOf? date
  let today ← context.zone.dayOf? context.now
  match context.locale.nearDay? (target.number - today.number) with
  | some words => some words
  | none => some (String.ofList (context.locale.dateText target))

/-- The whole years from one day to another: the difference of the years, less one before
the birthday of the later year. -/
def yearsBetween (birth today : Day) : Int :=
  let difference := today.year - birth.year
  if today.month < birth.month || (today.month == birth.month && today.day < birth.day) then
    difference - 1
  else difference

/-- The age of someone born at an instant. None where a day is beyond the calendar. -/
def age? (context : Context) (birth : Moment) : Option Int := do
  let today ← context.zone.dayOf? context.now
  let birthday ← context.zone.dayOf? birth
  some (yearsBetween birthday today)

/-- What a function of a date answers: null where there is no date, and nothing where the function
has no answer. -/
def ofDate? (answer? : Context → Moment → Option Value) (arguments : List Value) (context : Context) :
    Option Value :=
  match dateArgument? arguments context with
  | none => some .null
  | some date => answer? context date

/-- A function of a date, with null also for a missing answer. -/
def ofDate (answer? : Context → Moment → Option Value) (arguments : List Value) (context : Context) : Value :=
  (ofDate? answer? arguments context).getD .null

/-- What the built-in functions answer to a date, by name. -/
def answers : List (String × (Context → Moment → Option Value)) := [
  ("timeAgo", fun context date => (timeAgo? context date).map .string),
  ("relativeDate", fun context date => (relativeDate? context date).map .string),
  ("age", fun context date => (age? context date).map .int)]

/-- The built-in functions, without an answer where they need a day beyond the calendar. -/
def partials (State : Type) : Dict (PartialFunction State) :=
  Dict.ofList (answers.map fun entry => (entry.1, PartialToolbox.pureFunction (ofDate? entry.2)))

/-- The built-in functions, with null for the missing answers. -/
def builtins (State : Type) : Dict (Function State) :=
  Dict.mapValues PartialToolbox.completedFunction (partials State)

end DateFunctions

end Herald
