/- Integers in the binary64 format.

An integer up to 2^53 in size is a number of the format, so rounding leaves it alone
(`truncate_ofInt`). One of at least that size is not rounded to less than 2^53
(`border_le_natAbs_truncate_ofInt`), so no integer is rounded across that border. -/
import Herald.Number.Binary64
import Mathlib.Algebra.Group.Int.Defs
import Mathlib.Algebra.Group.Nat.Defs
namespace Herald.Binary64
set_option autoImplicit false

/-! ## Rounding a quotient -/

theorem roundedQuotient_mul {step : Nat} (positive : 0 < step) (count : Nat) :
    roundedQuotient (count * step) step = count := by
  have quotient : count * step / step = count := Nat.mul_div_cancel count positive
  have remainder : count * step % step = 0 := Nat.mul_mod_left count step
  simp only [roundedQuotient, quotient, remainder, Nat.mul_zero, if_pos positive]

theorem div_le_roundedQuotient (numerator denominator : Nat) :
    numerator / denominator ≤ roundedQuotient numerator denominator := by
  simp only [roundedQuotient]
  split
  · exact Nat.le_refl _
  · split
    · exact Nat.le_succ _
    · split
      · exact Nat.le_refl _
      · exact Nat.le_succ _

theorem roundedQuotient_le (numerator denominator : Nat) :
    roundedQuotient numerator denominator ≤ numerator / denominator + 1 := by
  simp only [roundedQuotient]
  split
  · exact Nat.le_succ _
  · split
    · exact Nat.le_refl _
    · split
      · exact Nat.le_succ _
      · exact Nat.le_refl _

/-! ## Rounding a count of units -/

/-- From 2^53 units on, 53 significant bits are kept; below, all of them. -/
theorem spacing_eq (units : Nat) : spacing units = 2 ^ (units.log2 - 52) := by
  unfold spacing
  split
  · rename_i small
    by_cases zero : units = 0
    · rw [zero]
      rfl
    · have log : units.log2 < 53 := (Nat.log2_lt zero).mpr small
      have gone : units.log2 - 52 = 0 := by omega
      rw [gone, Nat.pow_zero]
  · rfl

theorem spacing_pos (units : Nat) : 0 < spacing units := by
  rw [spacing_eq]
  exact Nat.two_pow_pos _

/-- There are at most 2^53 steps of the grid below a count of units. -/
theorem lt_mul_spacing (units : Nat) : units < 2 ^ 53 * spacing units := by
  rw [spacing_eq, ← Nat.pow_add]
  exact Nat.lt_of_lt_of_le Nat.lt_log2_self (Nat.pow_le_pow_right (by decide) (by omega))

theorem nearestUnits_one (units : Nat) :
    nearestUnits units 1 = roundedQuotient units (spacing units) * spacing units := by
  simp only [nearestUnits, Nat.div_one, Nat.one_mul]

/-- A count of units on the grid at its own size is kept. -/
theorem nearestUnits_of_dvd {units : Nat} (grid : spacing units ∣ units) : nearestUnits units 1 = units := by
  obtain ⟨count, shape⟩ := grid
  have rounded := roundedQuotient_mul (spacing_pos units) count
  rw [Nat.mul_comm, ← shape] at rounded
  rw [nearestUnits_one, rounded, Nat.mul_comm, ← shape]

/-- A whole number of up to 53 bits, or 2^53, is on the grid at every place. -/
theorem spacing_dvd {size : Nat} (small : size ≤ 2 ^ 53) (shift : Nat) :
    spacing (size * 2 ^ shift) ∣ size * 2 ^ shift := by
  by_cases zero : size = 0
  · rw [zero, Nat.zero_mul]
    exact Nat.dvd_zero _
  · rw [spacing_eq]
    by_cases border : size = 2 ^ 53
    · have log : (size * 2 ^ shift).log2 = 53 + shift := by
        rw [border, ← Nat.pow_add, Nat.log2_two_pow]
      rw [log, border, ← Nat.pow_add]
      exact Nat.pow_dvd_pow 2 (Nat.sub_le _ _)
    · have below : size * 2 ^ shift < 2 ^ (53 + shift) := by
        rw [Nat.pow_add]
        exact Nat.mul_lt_mul_of_pos_right (Nat.lt_of_le_of_ne small border) (Nat.two_pow_pos _)
      have log : (size * 2 ^ shift).log2 < 53 + shift :=
        (Nat.log2_lt (Nat.mul_ne_zero zero (Nat.ne_of_gt (Nat.two_pow_pos shift)))).mpr below
      exact Nat.dvd_trans (Nat.pow_dvd_pow 2 (by omega)) (Nat.dvd_mul_left _ _)

/-- What has been rounded is on the grid at its own size, also where it was rounded up to the
next power of two. -/
theorem spacing_nearestUnits_dvd (numerator denominator : Nat) :
    spacing (nearestUnits numerator denominator) ∣ nearestUnits numerator denominator := by
  have small : roundedQuotient numerator
      (denominator * spacing (numerator / denominator)) ≤ 2 ^ 53 := by
    refine Nat.le_trans (roundedQuotient_le _ _) ?_
    rw [← Nat.div_div_eq_div_mul]
    exact Nat.div_lt_of_lt_mul (by rw [Nat.mul_comm]; exact lt_mul_spacing _)
  rw [nearestUnits]
  generalize roundedQuotient numerator (denominator * spacing (numerator / denominator)) = size at small
  rw [spacing_eq (numerator / denominator)]
  exact spacing_dvd small _

/-- From 2^53 units on, rounding does not fall below a power of two. -/
theorem two_pow_le_nearestUnits {units power : Nat} (far : 53 ≤ power) (large : 2 ^ power ≤ units) :
    2 ^ power ≤ nearestUnits units 1 := by
  have border : 2 ^ 53 ≤ units := Nat.le_trans (Nat.pow_le_pow_right (by decide) far) large
  have nonzero : units ≠ 0 := by
    rintro rfl
    exact absurd border (by decide)
  have log : power ≤ units.log2 := (Nat.le_log2 nonzero).mpr large
  have split : 2 ^ units.log2 = 2 ^ 52 * 2 ^ (units.log2 - 52) := by
    rw [← Nat.pow_add]
    congr 1
    omega
  have quotient : 2 ^ 52 ≤ units / 2 ^ (units.log2 - 52) := by
    rw [Nat.le_div_iff_mul_le (Nat.two_pow_pos _), ← split]
    exact Nat.log2_self_le nonzero
  rw [nearestUnits_one, spacing_eq]
  calc 2 ^ power ≤ 2 ^ units.log2 := Nat.pow_le_pow_right (by decide) log
    _ = 2 ^ 52 * 2 ^ (units.log2 - 52) := split
    _ ≤ units / 2 ^ (units.log2 - 52) * 2 ^ (units.log2 - 52) := Nat.mul_le_mul_right _ quotient
    _ ≤ _ := Nat.mul_le_mul_right _ (div_le_roundedQuotient _ _)

/-! ## Integers -/

/-- The number one is a power of two, and far below the limit. -/
theorem exists_one_eq :
    ∃ shift, 53 ≤ shift ∧ one = Nat.pow 2 shift ∧ Nat.pow 2 (54 + shift) ≤ limit := by
  -- The exponents are named, so that no power of this size is evaluated.
  obtain ⟨shift, exponent⟩ : ∃ shift, 1074 = shift := ⟨_, rfl⟩
  obtain ⟨top, highest⟩ : ∃ top, 2098 = top := ⟨_, rfl⟩
  refine ⟨shift, by omega, ?_, ?_⟩
  · unfold one
    rw [exponent]
  · unfold limit
    rw [highest]
    exact Nat.pow_le_pow_right (by decide) (by omega)

theorem one_pos : 0 < one := by
  obtain ⟨shift, -, shape, -⟩ := exists_one_eq
  rw [shape]
  exact Nat.two_pow_pos shift

theorem limit_pos : 0 < limit := by
  obtain ⟨shift, -, -, room⟩ := exists_one_eq
  exact Nat.lt_of_lt_of_le (Nat.two_pow_pos _) room

/-- An integer on the grid is a number of the format. -/
theorem ofInt_of_dvd {value : Int} (grid : spacing (value.natAbs * one) ∣ value.natAbs * one)
    (fits : value.natAbs * one < limit) : ofInt value = .finite (value < 0) (value.natAbs * one) := by
  simp only [ofInt, ofRatio, nearestUnits_of_dvd grid, if_pos fits]

/-- So is an integer of at most 2^53 in size. -/
theorem ofInt_of_small {value : Int} (small : value.natAbs ≤ 2 ^ 53) :
    ofInt value = .finite (value < 0) (value.natAbs * one) := by
  obtain ⟨shift, -, shape, room⟩ := exists_one_eq
  have grid : spacing (value.natAbs * one) ∣ value.natAbs * one := by
    rw [shape]
    exact spacing_dvd small shift
  have fits : value.natAbs * one < limit :=
    calc value.natAbs * one ≤ 2 ^ 53 * 2 ^ shift := by
          rw [shape]
          exact Nat.mul_le_mul_right _ small
      _ = 2 ^ (53 + shift) := (Nat.pow_add 2 53 shift).symm
      _ < 2 ^ (54 + shift) := Nat.pow_lt_pow_right (by decide) (by omega)
      _ ≤ limit := room
  exact ofInt_of_dvd grid fits

/-- An integer of at most 2^53 in size is read back by truncation. -/
theorem truncate_ofInt {value low high : Int} (small : value.natAbs ≤ 2 ^ 53) (above : low ≤ value)
    (below : value ≤ high) : (ofInt value).truncate low high = value := by
  have size : value.natAbs * one / one = value.natAbs := Nat.mul_div_cancel _ one_pos
  rw [ofInt_of_small small]
  simp only [truncate, size, signed]
  by_cases negative : value < 0
  · simp only [negative, decide_true, if_true]
    omega
  · simp only [negative, decide_false, Bool.false_eq_true, if_false]
    omega

/-- An integer of at least 2^53 in size is not rounded to less. -/
theorem border_le_nearestUnits {size : Nat} (large : 2 ^ 53 ≤ size) :
    2 ^ 53 ≤ nearestUnits (size * one) 1 / one := by
  obtain ⟨shift, far, shape, -⟩ := exists_one_eq
  rw [Nat.le_div_iff_mul_le one_pos, shape]
  show 2 ^ 53 * 2 ^ shift ≤ nearestUnits (size * 2 ^ shift) 1
  rw [← Nat.pow_add]
  apply two_pow_le_nearestUnits (Nat.le_add_right 53 shift)
  rw [Nat.pow_add]
  exact Nat.mul_le_mul_right _ large

/-- Nor is it read as less, up or down, as far as the bounds of reading allow. -/
theorem border_le_natAbs_truncate_ofInt {value low high : Int} (large : 2 ^ 53 ≤ value.natAbs)
    (down : low ≤ -2 ^ 53) (up : 2 ^ 53 ≤ high) :
    2 ^ 53 ≤ ((ofInt value).truncate low high).natAbs := by
  have kept := border_le_nearestUnits large
  simp only [ofInt, ofRatio]
  split
  · simp only [truncate, signed]
    generalize nearestUnits (value.natAbs * one) 1 / one = size at kept
    by_cases negative : value < 0
    · simp only [negative, decide_true, if_true]
      omega
    · simp only [negative, decide_false, Bool.false_eq_true, if_false]
      omega
  · simp only [truncate]
    split
    · omega
    · omega

end Herald.Binary64
