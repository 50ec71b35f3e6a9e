/- Where the built-in functions have an answer.

A date is accepted by its place in UTC and then seen as a day of the zone, which an offset can carry
out of the calendar; a function that needs such a day has no answer, and a render call that uses it
is cut short (`PartialRenderer.attempt`). This takes a count of milliseconds, or a render instant,
within an offset of an end of the calendar (`Moment.isSome_dayAt?_iff`). A plain date names a day of the calendar in the zone itself, and
a timestamp has a year of four digits, so no other text comes near the ends
(`Moment.isSome_dayAt?_of_read?`). -/
import Herald.Proofs.Calendar.Agreement
import Herald.Proofs.DateFunctions.Elapsed
namespace Herald
set_option autoImplicit false

/-! ## What texts name -/

/-- Days of years of four digits are far from the ends of the calendar. -/
theorem Day.number_bounds {date : Day} (real : date.exists? = true) (first : 0 ≤ date.year)
    (last : date.year ≤ 9999) : -1000000 ≤ date.number ∧ date.number ≤ 5000000 := by
  obtain ⟨-, -, -, short⟩ := Day.bounds_of_exists real
  unfold Day.number
  dsimp only
  split <;> omega

namespace WallTime
variable {time : WallTime}

theorem onClock_of_ofPlain? {numbers : List Int} (found : ofPlain? numbers = some time) :
    time.OnClock := by
  unfold ofPlain? at found
  split at found
  · exact (onClock_of_ofNumbers? found).1
  · exact (onClock_of_ofNumbers? found).1
  · exact (onClock_of_ofNumbers? found).1
  · cases found

/-- A plain date names a day of the calendar. -/
theorem onClock_of_read? {text : List Char} (found : read? text = some time) : time.OnClock := by
  obtain ⟨format, -, asFormat⟩ := List.exists_of_findSome?_eq_some found
  obtain ⟨numbers, -, plain⟩ := Option.bind_eq_some_iff.mp asFormat
  exact onClock_of_ofPlain? plain

end WallTime

namespace Moment

theorem lt_of_takeExactly? {width value : Nat} {text rest : List Char}
    (taken : takeExactly? width text = some (value, rest)) : value < 10 ^ width := by
  simp only [takeExactly?] at taken
  split at taken
  · rename_i exactly
    simp only [Bool.and_eq_true, beq_iff_eq, List.all_eq_true] at exactly
    obtain ⟨rfl, -⟩ := Prod.mk.inj (Option.some.inj taken)
    have bound := digitsValue_lt exactly.2
    rwa [exactly.1] at bound
  · cases taken

theorem natAbs_of_takeOffset? {between : List Char → Option (List Char)} {text rest : List Char}
    {offset : Int} (taken : takeOffset? between text = some (offset, rest)) : offset.natAbs < 86400 := by
  unfold takeOffset? at taken
  split at taken
  · cases taken
  · split at taken
    · obtain ⟨rfl, -⟩ := Prod.mk.inj (Option.some.inj taken)
      decide
    · split at taken
      · obtain ⟨⟨hours, afterHours⟩, -, taken⟩ := Option.bind_eq_some_iff.mp taken
        obtain ⟨afterColon, -, taken⟩ := Option.bind_eq_some_iff.mp taken
        obtain ⟨⟨minutes, afterMinutes⟩, -, taken⟩ := Option.bind_eq_some_iff.mp taken
        simp only at taken
        split at taken
        · rename_i bounds
          simp only [Bool.and_eq_true, decide_eq_true_eq] at bounds
          obtain ⟨rfl, -⟩ := Prod.mk.inj (Option.some.inj taken)
          split <;> omega
        · cases taken
      · cases taken

/-- A timestamp names a day of a year of four digits, at an offset below a day. -/
theorem exists_of_readStamp? {text : List Char} {moment : Moment}
    (found : readStamp? text = some moment) :
    ∃ (time : WallTime) (offset : Int), time.OnClock ∧ 0 ≤ time.day.year ∧
      time.day.year ≤ 9999 ∧ offset.natAbs < 86400 ∧ time.toMoment? offset = some moment := by
  obtain ⟨⟨year, _⟩, years, found⟩ := Option.bind_eq_some_iff.mp found
  obtain ⟨_, -, found⟩ := Option.bind_eq_some_iff.mp found
  obtain ⟨⟨month, _⟩, -, found⟩ := Option.bind_eq_some_iff.mp found
  obtain ⟨_, -, found⟩ := Option.bind_eq_some_iff.mp found
  obtain ⟨⟨day, _⟩, -, found⟩ := Option.bind_eq_some_iff.mp found
  obtain ⟨_, -, found⟩ := Option.bind_eq_some_iff.mp found
  obtain ⟨⟨hour, _⟩, -, found⟩ := Option.bind_eq_some_iff.mp found
  obtain ⟨_, -, found⟩ := Option.bind_eq_some_iff.mp found
  obtain ⟨⟨minute, _⟩, -, found⟩ := Option.bind_eq_some_iff.mp found
  obtain ⟨_, -, found⟩ := Option.bind_eq_some_iff.mp found
  obtain ⟨⟨second, _⟩, -, found⟩ := Option.bind_eq_some_iff.mp found
  obtain ⟨⟨nano, _⟩, -, found⟩ := Option.bind_eq_some_iff.mp found
  obtain ⟨⟨offset, rest⟩, offsets, found⟩ := Option.bind_eq_some_iff.mp found
  simp only at found
  split at found
  · obtain ⟨time, named, placed⟩ := Option.bind_eq_some_iff.mp found
    obtain ⟨onClock, dayEq⟩ := WallTime.onClock_of_ofNumbers? named
    have bound := lt_of_takeExactly? years
    have yearEq : time.day.year = year := by rw [dayEq]
    exact ⟨time, offset, onClock, by omega, by omega, natAbs_of_takeOffset? offsets, placed⟩
  · cases found

section Days
variable {moment : Moment} {offset : Int} {text : List Char}

theorem isSome_dayAt?_of_readStamp? (found : readStamp? text = some moment)
    (small : offset.natAbs < 86400) : (moment.dayAt? offset).isSome = true := by
  obtain ⟨time, own, onClock, first, last, ownSmall, placed⟩ := exists_of_readStamp? found
  have days := Day.number_bounds onClock.real first last
  have place := second_of_toMoment? placed
  have hour := onClock.hour
  have minute := onClock.minute
  have second := onClock.second
  rw [isSome_dayAt?_iff, Day.number_first, Day.number_last]
  unfold daySeconds at *
  omega

/-- **A text that is no count of milliseconds has a day where it is read.** -/
theorem isSome_dayAt?_of_read? (found : read? offset text = some moment)
    (noInteger : readInt64? text = none) (small : offset.natAbs < 86400) :
    (moment.dayAt? offset).isSome = true := by
  rw [read?, noInteger] at found
  cases stamp : readStamp? text with
  | some stamped =>
      rw [stamp] at found
      obtain rfl := Option.some.inj found
      exact isSome_dayAt?_of_readStamp? stamp small
  | none =>
      rw [stamp] at found
      obtain ⟨time, plain, placed⟩ := Option.bind_eq_some_iff.mp found
      exact (WallTime.onClock_of_read? plain).isSome_dayAt? placed

end Days
end Moment

/-! ## Answers -/

namespace DateFunctions
open Moment Herald.Locale

section Answers
variable {context : Context} {date : Moment}

/-- The time that has gone by needs no day unless the date is written as one. -/
theorem isSome_timeAgo?_iff : (timeAgo? context date).isSome = true ↔
    (-secondNanos < context.now.nanosSince date ∧
      context.now.nanosSince date < Span.day.limit * Span.day.nanos) ∨
      (context.zone.dayOf? date).isSome = true := by
  by_cases far : context.now.nanosSince date ≤ -secondNanos ∨
      Span.day.limit * Span.day.nanos ≤ context.now.nanosSince date
  · rw [timeAgo?_far far, Option.isSome_map, or_iff_right]
    omega
  · have inUnits : (timeAgo? context date).isSome = true := by
      by_cases near : context.now.nanosSince date < Span.minute.nanos
      · rw [timeAgo?_near (by omega) near]
        rfl
      · obtain ⟨span, least, below⟩ : ∃ span : Span, span.nanos ≤ context.now.nanosSince date ∧
            context.now.nanosSince date < span.limit * span.nanos := by
          by_cases underHour : context.now.nanosSince date < Span.hour.nanos
          · exact ⟨.minute, by omega, underHour⟩
          · by_cases underDay : context.now.nanosSince date < Span.day.nanos
            · exact ⟨.hour, by omega, underDay⟩
            · exact ⟨.day, by omega, by omega⟩
        rw [timeAgo?_units least below]
        rfl
    rw [inUnits]
    simp only [true_iff]
    omega

theorem isSome_relativeDate?_iff : (relativeDate? context date).isSome = true ↔
    (context.zone.dayOf? context.now).isSome = true ∧ (context.zone.dayOf? date).isSome = true := by
  unfold relativeDate?
  cases context.zone.dayOf? date with
  | none => simp
  | some target =>
      cases context.zone.dayOf? context.now with
      | none => simp
      | some today =>
          simp only [bind, Option.bind]
          split <;> simp

theorem isSome_age?_iff : (age? context date).isSome = true ↔
    (context.zone.dayOf? context.now).isSome = true ∧ (context.zone.dayOf? date).isSome = true := by
  unfold age?
  cases context.zone.dayOf? context.now with
  | none => simp
  | some today => cases context.zone.dayOf? date <;> simp

/-- **Which dates the built-in functions answer for.** In a known zone, how long ago an accepted
date was has an answer for the thirty days before the render instant and wherever the date has a
day of the calendar in the zone; its nearness and an age have one exactly where the render instant
has such a day too. A day is missing exactly where the offset carries the instant over an end of
the calendar, so never for an instant a day or more inside; and a date given as a text has its day
unless the text counts milliseconds. Where there is an answer, the functions give it. -/
theorem dates_answered {name : String} (known : Zone.read? name = some context.zone) {value : Value}
    (read : context.zone.readDate? value = some date) :
    ((timeAgo? context date).isSome = true ↔
      (-secondNanos < context.now.nanosSince date ∧
        context.now.nanosSince date < Span.day.limit * Span.day.nanos) ∨
        (context.zone.dayOf? date).isSome = true) ∧
    ((relativeDate? context date).isSome = true ↔
      (context.zone.dayOf? context.now).isSome = true ∧ (context.zone.dayOf? date).isSome = true) ∧
    ((age? context date).isSome = true ↔
      (context.zone.dayOf? context.now).isSome = true ∧ (context.zone.dayOf? date).isSome = true) ∧
    (∀ moment : Moment, (context.zone.dayOf? moment).isSome = true ↔
      Day.first.number * daySeconds ≤ moment.second + context.zone.offset ∧
        moment.second + context.zone.offset < (Day.last.number + 1) * daySeconds) ∧
    (∀ moment : Moment, (Day.first.number + 1) * daySeconds ≤ moment.second →
      moment.second < Day.last.number * daySeconds → (context.zone.dayOf? moment).isSome = true) ∧
    (∀ text, value = .string text → readInt64? (Text.trimmed text) = none →
      (context.zone.dayOf? date).isSome = true) ∧
    ∀ (State : Type) (rest : List Value) (state : State), ∃ ago near age,
      Dict.find? "timeAgo" (Toolbox.builtins State).functions = some ago ∧
      Dict.find? "relativeDate" (Toolbox.builtins State).functions = some near ∧
      Dict.find? "age" (Toolbox.builtins State).functions = some age ∧
      (∀ text, timeAgo? context date = some text →
        ago (value :: rest) context state = (.string text, state)) ∧
      (∀ text, relativeDate? context date = some text →
        near (value :: rest) context state = (.string text, state)) ∧
      ∀ years, age? context date = some years →
        age (value :: rest) context state = (.int years, state) := by
  have small := Zone.natAbs_offset_lt known
  refine ⟨isSome_timeAgo?_iff, isSome_relativeDate?_iff, isSome_age?_iff,
    fun moment => isSome_dayAt?_iff, ?inside, ?texts, ?given⟩
  case inside =>
    intro moment first last
    refine isSome_dayAt?_iff.mpr ?_
    unfold daySeconds at *
    omega
  case texts =>
    rintro text rfl noInteger
    exact isSome_dayAt?_of_read? read noInteger small
  case given =>
    intro State rest state
    refine ⟨_, _, _, find?_timeAgo State, find?_relativeDate State, find?_age State, ?_, ?_, ?_⟩
    · intro text answered
      exact apply_ofDate read (congrArg (Option.map Value.string) answered) rest state
    · intro text answered
      exact apply_ofDate read (congrArg (Option.map Value.string) answered) rest state
    · intro years answered
      exact apply_ofDate read (congrArg (Option.map Value.int) answered) rest state

end Answers

/-! ## The ends of the calendar -/

namespace Example

/-- A context almost fifteen hours west of UTC. -/
def west : Context := ⟨[], .enUS, ⟨"-14:59", -53940⟩, ⟨1718424000, 0⟩⟩

/-- The first midnight of the calendar there. -/
def westernStart : Moment := ⟨-8334601174860, 0⟩

/-- The first midnight of the calendar is answered for where it is written as a date. -/
theorem dates_answered_west :
    Zone.read? "-14:59" = some west.zone ∧
      west.zone.readDate? (.string "-262143-01-01") = some westernStart ∧
      readInt64? (Text.trimmed "-262143-01-01") = none ∧
      (Day.first.number + 1) * daySeconds ≤ west.now.second ∧
      west.now.second < Day.last.number * daySeconds ∧
      (timeAgo? west westernStart).isSome = true ∧ (relativeDate? west westernStart).isSome = true ∧
      age? west westernStart = some 264167 ∧
      ∃ age, Dict.find? "age" (Toolbox.builtins Unit).functions = some age ∧
        age [.string "-262143-01-01"] west () = (.int 264167, ()) := by
  have known : Zone.read? "-14:59" = some west.zone := by decide +kernel
  have read : west.zone.readDate? (.string "-262143-01-01") = some westernStart := by decide +kernel
  have noInteger : readInt64? (Text.trimmed "-262143-01-01") = none := by decide +kernel
  have years : age? west westernStart = some 264167 := by decide +kernel
  have first : (Day.first.number + 1) * daySeconds ≤ west.now.second := by decide +kernel
  have last : west.now.second < Day.last.number * daySeconds := by decide +kernel
  obtain ⟨ago, near, -, -, inside, texts, given⟩ := dates_answered known read
  have day := texts _ rfl noInteger
  obtain ⟨-, -, age, -, -, found, -, -, applied⟩ := given Unit [] ()
  exact ⟨known, read, noInteger, first, last, ago.mpr (Or.inr day),
    near.mpr ⟨inside _ first last, day⟩, years, age, found, applied _ years⟩

/-- A context nine hours east of UTC. -/
def east : Context := ⟨[], .enUS, ⟨"Asia/Tokyo", 32400⟩, ⟨1718424000, 0⟩⟩

/-- The last millisecond that is accepted. -/
def lastMillis : Moment := ⟨8210266876799, 999000000⟩

/-- The first millisecond that is accepted. -/
def firstMillis : Moment := ⟨-8334601228800, 0⟩

/-- An accepted date does not always have an answer: in the last hours of the calendar in UTC it is
beyond the calendar in the east, and in the first ones it is in the west, as a number and as a text
of digits; and where that is so of the render instant, no date has a nearness or an age. -/
theorem dates_unanswered :
    (Zone.read? "Asia/Tokyo" = some east.zone ∧ east.now.inRange = true ∧
      east.zone.readDate? (.int 8210266876799999) = some lastMillis ∧
      timeAgo? east lastMillis = none ∧ relativeDate? east lastMillis = none ∧
      age? east lastMillis = none) ∧
    (Zone.read? "-14:59" = some west.zone ∧ west.now.inRange = true ∧
      west.zone.readDate? (.string "-8334601228800000") = some firstMillis ∧
      timeAgo? west firstMillis = none ∧ relativeDate? west firstMillis = none ∧
      age? west firstMillis = none) ∧
    lastMillis.inRange = true ∧ east.zone.readDate? (.int 0) = some ⟨0, 0⟩ ∧
      relativeDate? { east with now := lastMillis } ⟨0, 0⟩ = none ∧
      age? { east with now := lastMillis } ⟨0, 0⟩ = none := by
  decide +kernel

end Example
end DateFunctions
end Herald
