/- Days and their numbers.

The day of a number exists, and its number is that number again (`exists?_ofNumber`,
`number_ofNumber`). The argument follows the three steps of `Day.ofNumber`: the year within a
cycle of four hundred years, the day within the year, and the month. -/
import Herald.Calendar.Day
namespace Herald.Day
set_option autoImplicit false

/-! ## The year within a cycle -/

/-- The year of a day of a cycle, years beginning on 1 March. -/
def yearInCycle (inCycle : Nat) : Nat :=
  (inCycle - inCycle / 1460 + inCycle / 36524 - inCycle / 146096) / 365

/-- The first day of a year of a cycle. -/
def yearStart (year : Nat) : Nat := 365 * year + year / 4 - year / 100

/-- A year is at most 366 days long, and only one before a leap year is that long: its last day
is that year's leap day. -/
theorem yearInCycle_spec {inCycle : Nat} (within : inCycle < 146097) :
    yearInCycle inCycle ≤ 399 ∧ yearStart (yearInCycle inCycle) ≤ inCycle ∧
      inCycle - yearStart (yearInCycle inCycle) ≤ 365 ∧
      (inCycle - yearStart (yearInCycle inCycle) = 365 →
        (yearInCycle inCycle + 1) % 4 = 0 ∧
          ((yearInCycle inCycle + 1) % 100 ≠ 0 ∨ (yearInCycle inCycle + 1) % 400 = 0)) := by
  by_cases last : inCycle = 146096
  · subst last
    decide
  · -- Before the last day the century `c` is the quotient by 36524, and the leap days taken out,
    -- the blocks of 1460 and 36500 days show the years.
    obtain ⟨q, blocks⟩ : ∃ q, q = inCycle / 1460 := ⟨_, rfl⟩
    obtain ⟨c, century⟩ : ∃ c, c = inCycle / 36524 := ⟨_, rfl⟩
    obtain ⟨s, shifted⟩ : ∃ s, s = inCycle - q + c := ⟨_, rfl⟩
    obtain ⟨y, year⟩ : ∃ y, y = s / 365 := ⟨_, rfl⟩
    have year_eq : yearInCycle inCycle = y := by
      unfold yearInCycle
      omega
    have fours : y / 4 = s / 1460 := by omega
    have hundreds : y / 100 = s / 36500 := by omega
    have few : c ≤ 3 := by omega
    have centuries : s / 36500 = c := by omega
    have blocksBelow : s / 1460 ≤ q := by omega
    have blocksAbove : q ≤ s / 1460 + 1 := by omega
    rw [year_eq, yearStart, hundreds, fours, centuries]
    refine ⟨by omega, by omega, by omega, ?_⟩
    intro longest
    have nextBlock : q = s / 1460 + 1 := by omega
    have late : 1460 * (s / 1460) + 1095 ≤ s := by omega
    constructor
    · omega
    · left
      omega

/-! ## The month within a year -/

/-- The month of a day of a year, counted from March on. -/
def monthInYear (inYear : Nat) : Nat := (5 * inYear + 2) / 153

/-- The first day of a month of a year. -/
def monthStart (month : Nat) : Nat := (153 * month + 2) / 5

theorem monthInYear_spec {inYear : Nat} (within : inYear ≤ 365) :
    monthInYear inYear ≤ 11 ∧ monthStart (monthInYear inYear) ≤ inYear ∧
      inYear - monthStart (monthInYear inYear) < 31 := by
  unfold monthStart monthInYear
  omega

theorem monthLength_le (year : Int) (month : Nat) : monthLength 1 month ≤ monthLength year month := by
  simp only [monthLength]
  split
  · cases isLeap year <;> decide
  · exact Nat.le_refl _

/-- No day lies beyond the end of its month; the last day of the longest year is a leap day. -/
theorem inMonth_le_monthLength {inYear : Nat} (within : inYear ≤ 365) (year : Int)
    (leap : inYear = 365 → isLeap (year + 1) = true) :
    inYear - monthStart (monthInYear inYear) + 1 ≤
      if monthInYear inYear < 10 then monthLength year (monthInYear inYear + 3)
      else monthLength (year + 1) (monthInYear inYear - 9) := by
  have table : ∀ day < 365, day - monthStart (monthInYear day) + 1 ≤
      if monthInYear day < 10 then monthLength 1 (monthInYear day + 3)
      else monthLength 1 (monthInYear day - 9) := by
    decide +kernel
  by_cases last : inYear = 365
  · have february : monthLength (year + 1) (monthInYear 365 - 9) = 29 := by
      show (if isLeap (year + 1) = true then 29 else 28) = 29
      rw [leap last, if_pos rfl]
    rw [last, if_neg (by decide), february]
    decide
  · have listed := table inYear (by omega)
    by_cases early : monthInYear inYear < 10
    · rw [if_pos early] at listed ⊢
      exact Nat.le_trans listed (monthLength_le year _)
    · rw [if_neg early] at listed ⊢
      exact Nat.le_trans listed (monthLength_le (year + 1) _)

/-! ## The day of a number -/

/-- The day of a year that begins on 1 March, as a day of the calendar. -/
def ofMarch (year : Int) (month day : Nat) : Day :=
  if month < 10 then ⟨year, month + 3, day⟩ else ⟨year + 1, month - 9, day⟩

theorem number_ofMarch (year : Int) {month : Nat} (within : month ≤ 11) (day : Nat) :
    (ofMarch year month day).number =
      365 * year + year / 4 - year / 100 + year / 400 + (monthStart month : Int) + day - 719469 := by
  unfold ofMarch monthStart
  split
  · have later : ¬ month + 3 ≤ 2 := by omega
    have turned : (month + 3 + 9) % 12 = month := by omega
    simp only [number, if_neg later, turned]
  · have sooner : month - 9 ≤ 2 := by omega
    have turned : (month - 9 + 9) % 12 = month := by omega
    simp only [number, if_pos sooner, turned, Int.add_sub_cancel]

section OfNumber
variable (number : Int)

/-- The day within its cycle. -/
def inCycle : Nat := ((number + 719468) % 146097).toNat

/-- The day within its year. -/
def inYear : Nat := inCycle number - yearStart (yearInCycle (inCycle number))

/-- The year, as it begins on 1 March. -/
def marchYear : Int := (yearInCycle (inCycle number) : Int) + (number + 719468) / 146097 * 400

theorem inCycle_lt : inCycle number < 146097 := by
  unfold inCycle
  omega

theorem inYear_le : inYear number ≤ 365 := (yearInCycle_spec (inCycle_lt number)).2.2.1

theorem ofNumber_eq :
    ofNumber number = ofMarch (marchYear number) (monthInYear (inYear number))
      (inYear number - monthStart (monthInYear (inYear number)) + 1) := rfl

/-- **The number of the day of a number is that number.** -/
theorem number_ofNumber : (ofNumber number).number = number := by
  obtain ⟨years, start, -, -⟩ := yearInCycle_spec (inCycle_lt number)
  obtain ⟨months, before, -⟩ := monthInYear_spec (inYear_le number)
  have cycles : (inCycle number : Int) = number + 719468 - (number + 719468) / 146097 * 146097 := by
    unfold inCycle
    omega
  have day : (inYear number : Int) = inCycle number - yearStart (yearInCycle (inCycle number)) := by
    unfold inYear
    omega
  -- A cycle of four hundred years shifts each count of leap years by a whole number.
  have fours : marchYear number / 4 = (yearInCycle (inCycle number) / 4 : Nat) +
      (number + 719468) / 146097 * 100 := by
    unfold marchYear
    omega
  have hundreds : marchYear number / 100 = (yearInCycle (inCycle number) / 100 : Nat) +
      (number + 719468) / 146097 * 4 := by
    unfold marchYear
    omega
  have cycleYears : marchYear number / 400 = (number + 719468) / 146097 := by
    unfold marchYear
    omega
  rw [ofNumber_eq, number_ofMarch _ months, fours, hundreds, cycleYears]
  unfold marchYear
  unfold yearStart at start day
  omega

/-- The last day of the longest year is a leap day. -/
theorem isLeap_of_longest (longest : inYear number = 365) : isLeap (marchYear number + 1) = true := by
  obtain ⟨-, -, -, leap⟩ := yearInCycle_spec (inCycle_lt number)
  obtain ⟨fours, centuries⟩ := leap longest
  have four : (marchYear number + 1) % 4 = 0 := by
    unfold marchYear
    omega
  have century : (marchYear number + 1) % 100 ≠ 0 ∨ (marchYear number + 1) % 400 = 0 := by
    unfold marchYear
    omega
  simpa [isLeap, four] using century

/-- **The day of a number exists.** -/
theorem exists?_ofNumber : (ofNumber number).exists? = true := by
  obtain ⟨months, before, -⟩ := monthInYear_spec (inYear_le number)
  have bound := inMonth_le_monthLength (inYear_le number) (marchYear number) (isLeap_of_longest number)
  rw [ofNumber_eq, ofMarch]
  by_cases early : monthInYear (inYear number) < 10
  · rw [if_pos early] at bound ⊢
    simp only [exists?, Bool.and_eq_true, decide_eq_true_eq]
    exact ⟨⟨⟨by omega, by omega⟩, by omega⟩, bound⟩
  · rw [if_neg early] at bound ⊢
    simp only [exists?, Bool.and_eq_true, decide_eq_true_eq]
    exact ⟨⟨⟨by omega, by omega⟩, by omega⟩, bound⟩

/-- A day of a year of up to four digits is close to the middle of the calendar. -/
theorem bounds_of_year (first : 0 ≤ (ofNumber number).year) (last : (ofNumber number).year ≤ 9999) :
    -865565 ≤ number ∧ number ≤ 2932957 := by
  obtain ⟨years, -, -, -⟩ := yearInCycle_spec (inCycle_lt number)
  have march : -1 ≤ marchYear number ∧ marchYear number ≤ 9999 := by
    rw [ofNumber_eq, ofMarch] at first last
    split at first <;> rename_i early
    · rw [if_pos early] at last
      have start : 0 ≤ marchYear number := first
      exact ⟨by omega, last⟩
    · rw [if_neg early] at last
      constructor
      · have start : 0 ≤ marchYear number + 1 := first
        omega
      · have ends : marchYear number + 1 ≤ 9999 := last
        omega
  unfold marchYear at march
  omega

end OfNumber

/-- The months and days of the calendar have two digits. -/
theorem bounds_of_exists {date : Day} (real : date.exists? = true) :
    1 ≤ date.month ∧ date.month ≤ 12 ∧ 1 ≤ date.day ∧ date.day ≤ 31 := by
  have longest : monthLength date.year date.month ≤ 31 := by
    simp only [monthLength]
    split
    · split <;> omega
    · split <;> omega
  simp only [exists?, Bool.and_eq_true, decide_eq_true_eq] at real
  exact ⟨real.1.1.1, real.1.1.2, real.1.2, Nat.le_trans real.2 longest⟩

theorem number_first : first.number = -96465292 := by decide

theorem number_last : last.number = 95026236 := by decide

theorem inRange_iff (number : Int) : inRange number = true ↔ -96465292 ≤ number ∧ number ≤ 95026236 := by
  rw [inRange, number_first, number_last]
  simp

end Herald.Day
