/- Instants and their wall-clock times.

An instant in a year of up to four digits is a wall-clock time that can be named by its numbers
(`Moment.WholeAt.wallTime`), and it is read back from it (`Moment.toMoment?_wallTime`). The
calendar day of an instant at an offset exists, and it has the number that the instant has there
(`Moment.dayAt?_eq_some`). -/
import Herald.Calendar.Moment
import Herald.Proofs.Calendar.Day
namespace Herald
set_option autoImplicit false

/-! ## Wall-clock times -/

/-- A wall-clock time at a whole second in a year of up to four digits. -/
structure WallTime.Whole (time : WallTime) : Prop where
  real : time.day.exists? = true
  inRange : Day.inRange time.day.number = true
  first : 0 ≤ time.day.year
  last : time.day.year ≤ 9999
  hour : time.hour ≤ 23
  minute : time.minute ≤ 59
  second : time.second ≤ 59
  nano : time.nano = 0

/-- The numbers of a whole wall-clock time name it. -/
theorem WallTime.Whole.ofNumbers? {time : WallTime} (whole : time.Whole) :
    WallTime.ofNumbers? time.day.year time.day.month time.day.day time.hour time.minute time.second 0 =
      some time := by
  obtain ⟨real, inRange, -, -, hour, minute, second, nano⟩ := whole
  rw [WallTime.ofNumbers?, if_pos (by simp [real, inRange, hour, minute]), if_pos second, ← nano]

namespace Moment

/-- An instant at a whole second whose year at an offset has up to four digits. -/
structure WholeAt (offset : Int) (moment : Moment) : Prop where
  nano : moment.nano = 0
  first : 0 ≤ (moment.wallTime offset).day.year
  last : (moment.wallTime offset).day.year ≤ 9999

section WallTime
variable {offset : Int} {moment : Moment}

theorem WholeAt.bounds (whole : WholeAt offset moment) :
    -865565 ≤ (moment.second + offset) / daySeconds ∧ (moment.second + offset) / daySeconds ≤ 2932957 :=
  Day.bounds_of_year _ whole.first whole.last

theorem WholeAt.wallTime (whole : WholeAt offset moment) : (moment.wallTime offset).Whole := by
  have bounds := whole.bounds
  have inDay : ((moment.second + offset) % daySeconds).toNat < 86400 := by
    unfold daySeconds
    omega
  exact {
    real := Day.exists?_ofNumber _
    inRange := by
      rw [Day.inRange_iff]
      show _ ≤ (Day.ofNumber _).number ∧ (Day.ofNumber _).number ≤ _
      rw [Day.number_ofNumber]
      omega
    first := whole.first
    last := whole.last
    hour := by
      show _ / 3600 ≤ 23
      omega
    minute := by
      show _ / 60 % 60 ≤ 59
      omega
    second := by
      show _ % 60 ≤ 59
      omega
    nano := whole.nano }

/-- A whole second has a whole number of milliseconds. -/
theorem WholeAt.millis_eq (whole : WholeAt offset moment) : moment.millis = moment.second * 1000 := by
  rw [Moment.millis, whole.nano]
  exact Int.add_zero _

/-- An instant in such a year lies well within the calendar, if the offset is below a day. -/
theorem WholeAt.inRange (whole : WholeAt offset moment) (small : offset.natAbs < 86400) :
    moment.inRange = true := by
  have bounds := whole.bounds
  rw [Moment.inRange, Day.inRange_iff]
  unfold daySeconds at bounds ⊢
  omega

/-- **The wall-clock time of an instant is that of no other.** -/
theorem toMoment?_wallTime (inRange : moment.inRange = true) :
    (moment.wallTime offset).toMoment? offset = some moment := by
  have second : (moment.wallTime offset).day.number * daySeconds +
      ((moment.wallTime offset).hour * 3600 + (moment.wallTime offset).minute * 60 +
        (moment.wallTime offset).second : Nat) - offset = moment.second := by
    show (Day.ofNumber _).number * daySeconds + _ - offset = moment.second
    rw [Day.number_ofNumber]
    simp only [Moment.wallTime]
    unfold daySeconds
    omega
  rw [WallTime.toMoment?, second]
  exact if_pos inRange

end WallTime

/-! ## Calendar days -/

section DayAt
variable {offset : Int} {moment : Moment}

theorem dayAt?_eq_some {day : Day} (found : moment.dayAt? offset = some day) :
    day.exists? = true ∧ day.number = (moment.second + offset) / daySeconds := by
  simp only [dayAt?] at found
  split at found
  · obtain rfl := Option.some.inj found
    exact ⟨Day.exists?_ofNumber _, Day.number_ofNumber _⟩
  · cases found

/-- **An instant has a day at an offset where that does not carry it out of the calendar.** -/
theorem isSome_dayAt?_iff : (moment.dayAt? offset).isSome = true ↔
    Day.first.number * daySeconds ≤ moment.second + offset ∧
      moment.second + offset < (Day.last.number + 1) * daySeconds := by
  rw [Day.number_first, Day.number_last]
  simp only [dayAt?]
  by_cases inside : Day.inRange ((moment.second + offset) / daySeconds) = true
  · rw [if_pos inside, Option.isSome_some]
    rw [Day.inRange_iff] at inside
    unfold daySeconds at *
    simp only [true_iff]
    omega
  · rw [if_neg inside, Option.isSome_none]
    rw [Day.inRange_iff] at inside
    unfold daySeconds at *
    simp only [Bool.false_eq_true, false_iff]
    omega

/-- The instant of a wall-clock time has its place on the clock. -/
theorem second_of_toMoment? {time : WallTime} (found : time.toMoment? offset = some moment) :
    moment.second + offset = time.day.number * daySeconds +
      (time.hour * 3600 + time.minute * 60 + time.second : Nat) := by
  simp only [WallTime.toMoment?] at found
  split at found
  · obtain rfl := Option.some.inj found
    exact Int.sub_add_cancel _ _
  · cases found

end DayAt
end Moment

/-! ## Wall-clock times of numbers -/

/-- A wall-clock time that can be on a clock, on a day of the calendar. -/
structure WallTime.OnClock (time : WallTime) : Prop where
  real : time.day.exists? = true
  inRange : Day.inRange time.day.number = true
  hour : time.hour ≤ 23
  minute : time.minute ≤ 59
  second : time.second ≤ 59

theorem WallTime.onClock_of_ofNumbers? {year : Int} {month day hour minute second nano : Nat}
    {time : WallTime} (found : ofNumbers? year month day hour minute second nano = some time) :
    time.OnClock ∧ time.day = ⟨year, month, day⟩ := by
  simp only [ofNumbers?] at found
  split at found
  · rename_i named
    simp only [Bool.and_eq_true, decide_eq_true_eq] at named
    obtain ⟨⟨⟨real, inRange⟩, hours⟩, minutes⟩ := named
    split at found
    · rename_i seconds
      obtain rfl := Option.some.inj found
      exact ⟨⟨real, inRange, hours, minutes, seconds⟩, rfl⟩
    · split at found
      · obtain rfl := Option.some.inj found
        exact ⟨⟨real, inRange, hours, minutes, Nat.le_refl 59⟩, rfl⟩
      · cases found
  · cases found

/-- A wall-clock time of the calendar has a day where it was read. -/
theorem WallTime.OnClock.isSome_dayAt? {time : WallTime} (onClock : time.OnClock) {offset : Int}
    {moment : Moment} (found : time.toMoment? offset = some moment) :
    (moment.dayAt? offset).isSome = true := by
  obtain ⟨-, inRange, hour, minute, second⟩ := onClock
  rw [Moment.isSome_dayAt?_iff, Moment.second_of_toMoment? found, Day.number_first, Day.number_last]
  rw [Day.inRange_iff] at inRange
  unfold Moment.daySeconds
  omega

end Herald
