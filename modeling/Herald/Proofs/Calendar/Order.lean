/- The order of days.

A day is before another by year, then month, then day of the month (`Day.Before`). For days that
exist this is the order of their numbers (`Day.number_lt_iff`): in years that begin on 1 March
no month reaches into the next one, and no year into the next (`Day.monthEnd_le`,
`Day.yearEnd_le`). A day of birth comes round in every year, a leap day on 1 March of a common
year (`Day.anniversary`); the days from there on are those not before the birth's month and day of
that year (`Day.anniversary_le_iff`). -/
import Herald.Proofs.Calendar.Day
import Mathlib.Tactic.IntervalCases
namespace Herald.Day
set_option autoImplicit false

/-- A day is before another in the calendar. -/
def Before (earlier later : Day) : Prop :=
  earlier.year < later.year ∨ earlier.year = later.year ∧
    (earlier.month < later.month ∨ earlier.month = later.month ∧ earlier.day < later.day)

instance (earlier later : Day) : Decidable (earlier.Before later) :=
  inferInstanceAs (Decidable (_ ∨ _))

theorem before_or_eq_or_before (left right : Day) :
    left.Before right ∨ left = right ∨ right.Before left := by
  obtain ⟨leftYear, leftMonth, leftDay⟩ := left
  obtain ⟨rightYear, rightMonth, rightDay⟩ := right
  simp only [Before, Day.mk.injEq]
  omega

/-! ## Years that begin on 1 March -/

/-- The number of days before a year. -/
def daysBefore (year : Int) : Int := 365 * year + year / 4 - year / 100 + year / 400

/-- The days of February. -/
def februaryLength (year : Int) : Nat := if isLeap year then 29 else 28

/-- The length of a month of a year that begins on 1 March. -/
def marchLength (year : Int) (month : Nat) : Nat :=
  if month = 11 then februaryLength (year + 1) else monthStart (month + 1) - monthStart month

theorem exists_ofMarch {date : Day} (real : date.exists? = true) :
    ∃ year month, month ≤ 11 ∧ date = ofMarch year month date.day := by
  obtain ⟨year, month, day⟩ := date
  obtain ⟨first, last, -, -⟩ : 1 ≤ month ∧ month ≤ 12 ∧ 1 ≤ day ∧ day ≤ 31 :=
    bounds_of_exists real
  by_cases early : month ≤ 2
  · refine ⟨year - 1, month + 9, by omega, ?_⟩
    rw [ofMarch, if_neg (by omega)]
    simp
  · refine ⟨year, month - 3, by omega, ?_⟩
    rw [ofMarch, if_pos (by omega)]
    simp only [Day.mk.injEq, true_and, and_true]
    omega

theorem exists?_ofMarch {year : Int} {month day : Nat} (within : month ≤ 11) :
    (ofMarch year month day).exists? = true ↔ 1 ≤ day ∧ day ≤ marchLength year month := by
  interval_cases month <;>
    simp [ofMarch, exists?, monthLength, marchLength, monthStart, februaryLength]

/-- The order of days is that of the years that begin on 1 March. -/
theorem ofMarch_before_iff {year other : Int} {month otherMonth : Nat} (day otherDay : Nat)
    (within : month ≤ 11) (otherWithin : otherMonth ≤ 11) :
    (ofMarch year month day).Before (ofMarch other otherMonth otherDay) ↔
      year < other ∨ year = other ∧ (month < otherMonth ∨ month = otherMonth ∧ day < otherDay) := by
  unfold ofMarch Before
  split <;> split <;> simp only <;> omega

/-- No month reaches into a later one. -/
theorem monthEnd_le {year : Int} {month later day : Nat} (before : month < later) (within : later ≤ 11)
    (inMonth : day ≤ marchLength year month) : monthStart month + day ≤ monthStart later := by
  rw [marchLength, if_neg (by omega)] at inMonth
  unfold monthStart at *
  omega

/-- No year reaches into a later one. -/
theorem yearEnd_le {year later : Int} {month day : Nat} (before : year < later) (within : month ≤ 11)
    (inMonth : day ≤ marchLength year month) :
    daysBefore year + (monthStart month + day : Nat) ≤ daysBefore later := by
  have longest : daysBefore year + (monthStart month + day : Nat) ≤ daysBefore (year + 1) := by
    by_cases last : month = 11
    · subst last
      rw [marchLength, if_pos rfl, februaryLength, isLeap] at inMonth
      unfold daysBefore monthStart
      split at inMonth
      · rename_i leap
        simp only [Bool.and_eq_true, Bool.or_eq_true, beq_iff_eq, bne_iff_ne] at leap
        omega
      · omega
    · have inYear := monthEnd_le (by omega : month < 11) (Nat.le_refl 11) inMonth
      unfold daysBefore
      unfold monthStart at *
      omega
  have further : daysBefore (year + 1) ≤ daysBefore later := by
    by_cases next : later = year + 1
    · rw [next]
    · unfold daysBefore
      omega
  exact Int.le_trans longest further

theorem number_ofMarch_eq (year : Int) {month : Nat} (within : month ≤ 11) (day : Nat) :
    (ofMarch year month day).number = daysBefore year + (monthStart month + day : Nat) - 719469 := by
  rw [number_ofMarch year within, daysBefore]
  omega

/-! ## Days and numbers -/

section Order
variable {left right : Day}

theorem Before.number_lt (before : left.Before right) (leftReal : left.exists? = true)
    (rightReal : right.exists? = true) : left.number < right.number := by
  obtain ⟨year, month, within, shape⟩ := exists_ofMarch leftReal
  obtain ⟨other, otherMonth, otherWithin, otherShape⟩ := exists_ofMarch rightReal
  generalize left.day = day at shape
  generalize right.day = otherDay at otherShape
  subst shape
  subst otherShape
  have inMonth := ((exists?_ofMarch within).mp leftReal).2
  have begins := ((exists?_ofMarch otherWithin).mp rightReal).1
  rw [number_ofMarch_eq year within, number_ofMarch_eq other otherWithin]
  rcases (ofMarch_before_iff day otherDay within otherWithin).mp before with years | ⟨rfl, months⟩
  · have yearEnd := yearEnd_le years within inMonth
    omega
  · rcases months with months | ⟨rfl, days⟩
    · have monthEnd := monthEnd_le months otherWithin inMonth
      omega
    · omega

/-- **Days that exist are in the order of their numbers.** -/
theorem number_lt_iff (leftReal : left.exists? = true) (rightReal : right.exists? = true) :
    left.number < right.number ↔ left.Before right := by
  constructor
  · intro less
    rcases before_or_eq_or_before left right with before | rfl | after
    · exact before
    · exact absurd less (Int.lt_irrefl _)
    · exact absurd (after.number_lt rightReal leftReal) (by omega)
  · exact fun before => before.number_lt leftReal rightReal

theorem eq_of_number_eq (leftReal : left.exists? = true) (rightReal : right.exists? = true)
    (same : left.number = right.number) : left = right := by
  rcases before_or_eq_or_before left right with before | equal | after
  · exact absurd (before.number_lt leftReal rightReal) (by omega)
  · exact equal
  · exact absurd (after.number_lt rightReal leftReal) (by omega)

end Order

/-! ## Anniversaries -/

/-- The day on which a day of birth comes round in a year: the same month and day, or 1 March for
a leap day in a common year. -/
def anniversary (birth : Day) (year : Int) : Day :=
  if birth.month = 2 ∧ birth.day = 29 ∧ isLeap year = false then ⟨year, 3, 1⟩
  else ⟨year, birth.month, birth.day⟩

section Anniversary
variable {birth : Day}

theorem anniversary_year (birth : Day) (year : Int) : (anniversary birth year).year = year := by
  unfold anniversary
  split <;> rfl

theorem exists?_anniversary (real : birth.exists? = true) (year : Int) :
    (anniversary birth year).exists? = true := by
  unfold anniversary
  split
  · rfl
  · rename_i ordinary
    obtain ⟨first, last, begins, -⟩ := bounds_of_exists real
    simp only [exists?, Bool.and_eq_true, decide_eq_true_eq] at real ⊢
    refine ⟨⟨⟨first, last⟩, begins⟩, ?_⟩
    have length := real.2
    simp only [monthLength] at length ⊢
    -- Only February has different lengths, and only its day 29 can be missing.
    split
    · rename_i february
      rw [if_pos february] at length
      cases leap : isLeap year with
      | true =>
          have short : (if isLeap birth.year = true then 29 else 28) ≤ 29 := by split <;> decide
          exact Nat.le_trans length short
      | false =>
          have other : birth.day ≠ 29 := fun same => ordinary ⟨by simpa using february, same, leap⟩
          have short : (if isLeap birth.year = true then 29 else 28) ≤ 29 := by split <;> decide
          show birth.day ≤ 28
          omega
    · rename_i other
      rwa [if_neg other] at length

/-- **A year's anniversary is its first day that is not before the month and day of birth.** -/
theorem anniversary_le_iff (real : birth.exists? = true) {today : Day} (todayReal : today.exists? = true)
    (year : Int) :
    (anniversary birth year).number ≤ today.number ↔
      ¬ today.Before ⟨year, birth.month, birth.day⟩ := by
  rw [← Int.not_lt, not_iff_not, number_lt_iff todayReal (exists?_anniversary real year), anniversary]
  split
  · -- A common year has no day between 28 February and 1 March.
    rename_i leapBirth
    obtain ⟨february, last, common⟩ := leapBirth
    have noLeapDay : today.year = year → today.month = 2 → today.day ≤ 28 := by
      rintro rfl month
      simp only [exists?, monthLength, month, common, Bool.and_eq_true, decide_eq_true_eq] at todayReal
      exact todayReal.2
    obtain ⟨-, -, begins, -⟩ := bounds_of_exists todayReal
    simp only [Before, february, last]
    omega
  · rfl

theorem anniversary_lt (real : birth.exists? = true) {year later : Int} (before : year < later) :
    (anniversary birth year).number < (anniversary birth later).number := by
  have years : (anniversary birth year).Before (anniversary birth later) := by
    left
    rwa [anniversary_year, anniversary_year]
  exact years.number_lt (exists?_anniversary real year) (exists?_anniversary real later)

end Anniversary
end Herald.Day
