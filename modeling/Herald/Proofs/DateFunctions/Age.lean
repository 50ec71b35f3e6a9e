/- Ages are completed birthdays.

Both instants are days of the zone first. A number of years is completed once the day is no longer
before the birth's month and day of that year (`DateFunctions.le_yearsBetween_iff`), which is to
say from the anniversary of that year on (`DateFunctions.anniversary_le_iff_le_yearsBetween`). So an
age never falls, and it grows on anniversaries only, by one (`DateFunctions.age_birthdays`). -/
import Herald.Proofs.Calendar.Moment
import Herald.Proofs.Calendar.Order
import Herald.Proofs.DateFunctions
namespace Herald.DateFunctions
set_option autoImplicit false

/-- So many years are completed: the birth's month and day of that year is reached or passed, and
that of the year after it is not. -/
def Completed (birth today : Day) (years : Int) : Prop :=
  ¬ today.Before ⟨birth.year + years, birth.month, birth.day⟩ ∧
    today.Before ⟨birth.year + years + 1, birth.month, birth.day⟩

/-! ## Years between days -/

section Years
variable {birth today after : Day} {years : Int}

theorem le_yearsBetween_iff :
    years ≤ yearsBetween birth today ↔
      ¬ today.Before ⟨birth.year + years, birth.month, birth.day⟩ := by
  unfold yearsBetween Day.Before
  simp only [Bool.or_eq_true, Bool.and_eq_true, decide_eq_true_eq, beq_iff_eq]
  split <;> omega

/-- **The years between two days are those completed, and no others are.** -/
theorem eq_yearsBetween_iff : years = yearsBetween birth today ↔ Completed birth today years := by
  have reached : years ≤ yearsBetween birth today ↔
      ¬ today.Before ⟨birth.year + years, birth.month, birth.day⟩ := le_yearsBetween_iff
  have next : today.Before ⟨birth.year + years + 1, birth.month, birth.day⟩ ↔
      ¬ years + 1 ≤ yearsBetween birth today := by
    rw [le_yearsBetween_iff, not_not, Int.add_assoc]
  rw [Completed, ← reached, next]
  omega

theorem yearsBetween_nonneg_iff : 0 ≤ yearsBetween birth today ↔ ¬ today.Before birth := by
  rw [le_yearsBetween_iff, Int.add_zero]

variable (birthReal : birth.exists? = true)
include birthReal

theorem anniversary_le_iff_le_yearsBetween (todayReal : today.exists? = true) :
    (birth.anniversary (birth.year + years)).number ≤ today.number ↔
      years ≤ yearsBetween birth today :=
  (Day.anniversary_le_iff birthReal todayReal _).trans le_yearsBetween_iff.symm

variable (todayReal : today.exists? = true) (afterReal : after.exists? = true)
include todayReal afterReal

theorem yearsBetween_mono (later : today.number ≤ after.number) :
    yearsBetween birth today ≤ yearsBetween birth after := by
  have reached := (anniversary_le_iff_le_yearsBetween birthReal todayReal).mpr (Int.le_refl _)
  exact (anniversary_le_iff_le_yearsBetween birthReal afterReal).mp (Int.le_trans reached later)

/-- **From one day to the next, an age grows by one on an anniversary and stays on other days.** -/
theorem yearsBetween_next (next : after.number = today.number + 1) :
    yearsBetween birth after =
      if after = birth.anniversary after.year then yearsBetween birth today + 1
      else yearsBetween birth today := by
  have onToday : ∀ years, (birth.anniversary (birth.year + years)).number ≤ today.number ↔
      years ≤ yearsBetween birth today :=
    fun _ => anniversary_le_iff_le_yearsBetween birthReal todayReal
  have onAfter : ∀ years, (birth.anniversary (birth.year + years)).number ≤ after.number ↔
      years ≤ yearsBetween birth after :=
    fun _ => anniversary_le_iff_le_yearsBetween birthReal afterReal
  have ahead :
      today.number < (birth.anniversary (birth.year + (yearsBetween birth today + 1))).number := by
    have notYet := not_congr (onToday (yearsBetween birth today + 1))
    omega
  -- The anniversary after the next one is at least two days away.
  have atMost : yearsBetween birth after ≤ yearsBetween birth today + 1 := by
    have further := Day.anniversary_lt birthReal (show birth.year + (yearsBetween birth today + 1) <
      birth.year + (yearsBetween birth today + 2) by omega)
    have notYet := not_congr (onAfter (yearsBetween birth today + 2))
    omega
  have atLeast := yearsBetween_mono birthReal todayReal afterReal (by omega)
  split
  · rename_i onAnniversary
    -- The anniversary of this year is after today, so its years are not completed today.
    have thisYear := onAfter (after.year - birth.year)
    have notToday := onToday (after.year - birth.year)
    rw [show birth.year + (after.year - birth.year) = after.year by omega, ← onAnniversary]
      at thisYear notToday
    omega
  · rename_i otherDay
    have notGrown : yearsBetween birth after ≠ yearsBetween birth today + 1 := by
      intro grown
      have reached := (onAfter (yearsBetween birth today + 1)).mpr (by omega)
      have same : after = birth.anniversary (birth.year + (yearsBetween birth today + 1)) :=
        Day.eq_of_number_eq afterReal (Day.exists?_anniversary birthReal _) (by omega)
      apply otherDay
      rw [same, Day.anniversary_year]
    omega

end Years

/-! ## The function -/

section Function
variable {context : Context} {value : Value} {birth : Moment} {birthday : Day}

theorem age_eq (State : Type) (read : context.zone.readDate? value = some birth)
    (born : context.zone.dayOf? birth = some birthday) :
    ∃ apply, Dict.find? "age" (Toolbox.builtins State).functions = some apply ∧
      ∀ now today rest state, context.zone.dayOf? now = some today →
        apply (value :: rest) { context with now := now } state =
          (.int (yearsBetween birthday today), state) := by
  refine ⟨_, find?_age State, fun now today rest state current => ?_⟩
  have seen : (Context.zone { context with now := now }).readDate? value = some birth := read
  have answer : age? { context with now := now } birth = some (yearsBetween birthday today) := by
    show ((context.zone.dayOf? now).bind fun today => (context.zone.dayOf? birth).bind fun birthday =>
      some (yearsBetween birthday today)) = _
    rw [current, born]
    rfl
  exact apply_ofDate seen (congrArg (Option.map Value.int) answer) rest state

/-- **An age counts completed birthdays.** Where the days of the birth and of the render instant
are in the calendar of the zone, the age is the one number of years that are completed; it is not
negative exactly when the day is not before the birthday. So many years or more have passed from
the anniversary of that year on. As the render instant advances an age does not fall, and from one
day to the next it grows by one on an anniversary and stays on any other day. -/
theorem age_birthdays (State : Type) (read : context.zone.readDate? value = some birth)
    (born : context.zone.dayOf? birth = some birthday) :
    ∃ apply, Dict.find? "age" (Toolbox.builtins State).functions = some apply ∧
      (∀ now today rest state, context.zone.dayOf? now = some today →
        ∃ age, apply (value :: rest) { context with now := now } state = (.int age, state) ∧
          (∀ years, years = age ↔ Completed birthday today years) ∧
          (0 ≤ age ↔ ¬ today.Before birthday) ∧
          ∀ years, years ≤ age ↔
            (birthday.anniversary (birthday.year + years)).number ≤ today.number) ∧
      ∀ now later today after rest state, context.zone.dayOf? now = some today →
        context.zone.dayOf? later = some after → now.second ≤ later.second →
        ∃ age older, apply (value :: rest) { context with now := now } state = (.int age, state) ∧
          apply (value :: rest) { context with now := later } state = (.int older, state) ∧
          age ≤ older ∧
          (after.number = today.number + 1 →
            older = if after = birthday.anniversary after.year then age + 1 else age) := by
  obtain ⟨apply, found, applied⟩ := age_eq State read born
  have birthReal := (Moment.dayAt?_eq_some born).1
  refine ⟨apply, found, ?_, ?_⟩
  · intro now today rest state current
    have todayReal := (Moment.dayAt?_eq_some current).1
    exact ⟨_, applied now today rest state current, fun _ => eq_yearsBetween_iff,
      yearsBetween_nonneg_iff, fun _ => (anniversary_le_iff_le_yearsBetween birthReal todayReal).symm⟩
  · intro now later today after rest state current currentLater advances
    obtain ⟨todayReal, todayNumber⟩ := Moment.dayAt?_eq_some current
    obtain ⟨afterReal, afterNumber⟩ := Moment.dayAt?_eq_some currentLater
    have days : today.number ≤ after.number := by
      rw [todayNumber, afterNumber]
      unfold Moment.daySeconds
      omega
    exact ⟨_, _, applied now today rest state current, applied later after rest state currentLater,
      yearsBetween_mono birthReal todayReal afterReal days,
      yearsBetween_next birthReal todayReal afterReal⟩

end Function

/-! ## A leap day -/

namespace Example

/-- A context eight hours east of UTC, at half past midnight of 1 March 2023. -/
def march : Context := ⟨[], .enUS, ⟨"Asia/Shanghai", 28800⟩, ⟨1677601800, 0⟩⟩

/-- Midnight of 29 February 2000 in the zone. -/
def leapBirth : Moment := ⟨951753600, 0⟩

/-- An hour earlier, which is in February. -/
def february : Moment := ⟨1677598200, 0⟩

/-- In a common year someone born on a leap day is a year older on 1 March, by the days of the zone:
at both instants it is 28 February in UTC. -/
theorem age_birthdays_leap :
    march.zone.readDate? (.string "2000-02-29") = some leapBirth ∧
      march.zone.dayOf? leapBirth = some ⟨2000, 2, 29⟩ ∧
      march.zone.dayOf? february = some ⟨2023, 2, 28⟩ ∧
      march.zone.dayOf? march.now = some ⟨2023, 3, 1⟩ ∧ february.second ≤ march.now.second ∧
      (Day.mk 2000 2 29).anniversary 2023 = ⟨2023, 3, 1⟩ ∧
      Completed ⟨2000, 2, 29⟩ ⟨2023, 2, 28⟩ 22 ∧
      ∃ apply, Dict.find? "age" (Toolbox.builtins Unit).functions = some apply ∧
        apply [.string "2000-02-29"] { march with now := february } () = (.int 22, ()) ∧
        apply [.string "2000-02-29"] march () = (.int 23, ()) := by
  have read : march.zone.readDate? (.string "2000-02-29") = some leapBirth := by decide +kernel
  have born : march.zone.dayOf? leapBirth = some ⟨2000, 2, 29⟩ := by decide +kernel
  have before : march.zone.dayOf? february = some ⟨2023, 2, 28⟩ := by decide +kernel
  have current : march.zone.dayOf? march.now = some ⟨2023, 3, 1⟩ := by decide +kernel
  have advances : february.second ≤ march.now.second := by decide
  have completed : Completed ⟨2000, 2, 29⟩ ⟨2023, 2, 28⟩ 22 := ⟨by decide, by decide⟩
  obtain ⟨apply, found, ages, growth⟩ := age_birthdays Unit read born
  obtain ⟨age, applied, unique, -⟩ := ages february _ [] () before
  obtain ⟨younger, older, earlier, later, -, grown⟩ :=
    growth february march.now _ _ [] () before current advances
  have first : 22 = age := (unique 22).mpr completed
  rw [applied] at earlier
  cases earlier
  rw [grown (by decide +kernel), if_pos (by decide), ← first] at later
  rw [← first] at applied
  exact ⟨read, born, before, current, advances, by decide, completed, apply, found, applied, later⟩

end Example
end Herald.DateFunctions
