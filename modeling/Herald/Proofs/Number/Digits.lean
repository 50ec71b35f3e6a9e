/- Decimal digits.

The decimal digits of a natural number read back as the number, also with zeros in front
(`digitsValue_decimalDigits`, `digitsValue_padded`), and the text of an integer reads back as the
integer (`readInt?_integerText`). -/
import Herald.Calendar.Pattern
import Herald.Number.Numeral
import Mathlib.Algebra.Group.Nat.Defs
import Mathlib.Data.List.Induction
namespace Herald
set_option autoImplicit false

/-! ## Digits of a natural number -/

theorem isDigit_of_mem_decimalDigits {value : Nat} {c : Char} (inside : c ∈ decimalDigits value) :
    c.isDigit = true :=
  Nat.isDigit_of_mem_toDigits (by decide) (by decide) inside

theorem decimalDigits_ne_nil (value : Nat) : decimalDigits value ≠ [] := Nat.toDigits_ne_nil

theorem decimalDigits_injective {left right : Nat}
    (same : decimalDigits left = decimalDigits right) : left = right := by
  have read := congrArg (Nat.ofDigitChars 10 · 0) same
  simpa [decimalDigits] using read

theorem digitsValue_eq (digits : List Char) : digitsValue digits = Nat.ofDigitChars 10 digits 0 := by
  simp only [digitsValue, Nat.ofDigitChars, Nat.mul_comm]

theorem digitsValue_decimalDigits (value : Nat) : digitsValue (decimalDigits value) = value := by
  rw [digitsValue_eq, decimalDigits, Nat.ofDigitChars_toDigits (by decide) (by decide)]

theorem ne_of_isDigit {c mark : Char} (digit : c.isDigit = true) (noDigit : mark.isDigit = false) :
    c ≠ mark := by
  rintro rfl
  rw [digit] at noDigit
  cases noDigit

theorem notMem_of_digits {digits : List Char} {mark : Char} (digit : ∀ c ∈ digits, c.isDigit = true)
    (noDigit : mark.isDigit = false) : mark ∉ digits :=
  fun inside => ne_of_isDigit (digit mark inside) noDigit rfl

/-- So many digits are a number of so many places. -/
theorem digitsValue_lt {digits : List Char} (all : ∀ c ∈ digits, c.isDigit = true) :
    digitsValue digits < 10 ^ digits.length := by
  induction digits using List.reverseRecOn with
  | nil => exact Nat.zero_lt_one
  | append_singleton digits c ih =>
      have front := ih fun d inside => all d (List.mem_append_left _ inside)
      have last : c.toNat - '0'.toNat ≤ 9 := by
        have digit := all c (by simp)
        simp only [Char.isDigit, Bool.and_eq_true, decide_eq_true_eq, UInt32.le_iff_toNat_le] at digit
        have upper : c.toNat ≤ 57 := digit.2
        show c.toNat - 48 ≤ 9
        omega
      have value : digitsValue (digits ++ [c]) = digitsValue digits * 10 + (c.toNat - '0'.toNat) := by
        rw [digitsValue, List.foldl_append]
        rfl
      rw [value, List.length_append, List.length_singleton, Nat.pow_succ]
      omega

/-! ## Zeros in front -/

theorem digitsValue_zeros (count : Nat) (digits : List Char) :
    digitsValue (List.replicate count '0' ++ digits) = digitsValue digits := by
  induction count with
  | zero => rfl
  | succ count ih =>
      rw [List.replicate_succ, List.cons_append, digitsValue, List.foldl_cons]
      exact ih

section Padded
variable {width value : Nat}

theorem digitsValue_padded : digitsValue (padded width value) = value := by
  rw [padded, digitsValue_zeros, digitsValue_decimalDigits]

theorem isDigit_of_mem_padded {c : Char} (inside : c ∈ padded width value) : c.isDigit = true := by
  rcases List.mem_append.mp inside with zero | digit
  · rw [List.eq_of_mem_replicate zero]
    rfl
  · exact isDigit_of_mem_decimalDigits digit

/-- A number that fits takes the whole width. -/
theorem length_padded (positive : 0 < width) (fits : value < 10 ^ width) :
    (padded width value).length = width := by
  have short : (decimalDigits value).length ≤ width :=
    (Nat.length_toDigits_le_iff (by decide) positive).mpr fits
  rw [padded, List.length_append, List.length_replicate]
  omega

end Padded

/-! ## Integers -/

theorem readDigits?_decimalDigits (value : Nat) : readDigits? (decimalDigits value) = some value := by
  have digits : (decimalDigits value).all Char.isDigit = true :=
    List.all_eq_true.mpr fun _ inside => isDigit_of_mem_decimalDigits inside
  rw [readDigits?, digits, digitsValue_decimalDigits]
  simp [decimalDigits_ne_nil]

/-- A text that begins with a digit is read without a sign. -/
theorem readInt?_of_digit {first : Char} (digit : first.isDigit = true) (rest : List Char) :
    readInt? (first :: rest) = (readDigits? (first :: rest)).map Int.ofNat := by
  have noMinus : first ≠ '-' := ne_of_isDigit digit rfl
  have noPlus : first ≠ '+' := ne_of_isDigit digit rfl
  rw [readInt?, readNat?]
  · cases readDigits? (first :: rest) <;> rfl
  · exact fun rest same => noPlus (List.cons.inj same).1
  · exact fun rest same => noMinus (List.cons.inj same).1

theorem readInt?_integerText (value : Int) : readInt? (integerText value) = some value := by
  unfold integerText
  by_cases negative : value < 0
  · rw [if_pos negative, readInt?, readDigits?_decimalDigits]
    show some (-(value.natAbs : Int)) = some value
    congr 1
    omega
  · obtain ⟨first, rest, shape⟩ := List.exists_cons_of_ne_nil (decimalDigits_ne_nil value.natAbs)
    have digit : first.isDigit = true := isDigit_of_mem_decimalDigits (by rw [shape]; simp)
    rw [if_neg negative, shape, readInt?_of_digit digit, ← shape, readDigits?_decimalDigits]
    show some (value.natAbs : Int) = some value
    congr 1
    omega

/-- The text of an integer is read where the integer fits into 64 bits. -/
theorem readInt64?_integerText (value : Int) :
    readInt64? (integerText value) =
      if -0x8000000000000000 ≤ value ∧ value ≤ 0x7FFFFFFFFFFFFFFF then some value else none := by
  rw [readInt64?, readInt?_integerText]
  simp [Option.filter]

end Herald
