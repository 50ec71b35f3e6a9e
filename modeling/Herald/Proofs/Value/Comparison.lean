/- How the comparisons of values hang together.

Identity, equality and order look at their operands in three different ways: identity at
kind and content, equality and order at numeric views, and two strings are compared in a way
of their own. Still they are coherent on all operands, whatever their kinds
(`Operator.coherent`): an operator that is turned around is its mirror image, identity is
stronger than equality, and whatever is not two strings is equal if neither is less. A string
that reads as no number at all, or as an infinite one, is no exception.

Each law comes from one of the numbers beneath it: the order of the format is antisymmetric
(`Binary64.order?_swap`), and everything but the non-number is in order with itself
(`Binary64.same_self`). -/
import Herald.Condition
namespace Herald
set_option autoImplicit false

/-! ## Numbers -/

namespace Binary64

theorem order?_swap (left right : Binary64) :
    right.order? left = (left.order? right).map Ordering.swap := by
  simp only [order?]
  cases left.position with
  | none => cases right.position <;> rfl
  | some l =>
      cases right.position with
      | none => rfl
      | some r => exact congrArg some (Int.compare_swap l r).symm

theorem same_comm (left right : Binary64) : left.same right = right.same left := by
  rw [same, same, order?_swap left right]
  cases left.order? right with
  | none => rfl
  | some order => cases order <;> rfl

/-- Two numbers are equal if they have one place. -/
theorem same_iff {left right : Binary64} :
    left.same right = true ↔ left.position.isSome = true ∧ left.position = right.position := by
  simp only [same, order?]
  cases left.position <;> cases right.position <;> simp

theorem same_self {value : Binary64} (placed : value.position.isSome = true) : value.same value = true :=
  same_iff.mpr ⟨placed, rfl⟩

end Binary64

namespace Number

/-- A number of data has a place: none of them is the non-number. -/
theorem isSome_position (value : Number) : value.toBinary64.position.isSome = true := by
  cases value with
  | int value =>
      simp only [toBinary64, Binary64.ofInt, Binary64.ofRatio]
      split <;> rfl
  | float negative units => rfl

theorem same_self (value : Number) : value.same value = true := by
  cases value <;> simp [same]

theorem same_comm (left right : Number) : left.same right = right.same left := by
  cases left <;> cases right <;> simp only [same]
  · exact Bool.beq_comm
  · exact Bool.beq_comm

end Number

/-! ## Identity -/

namespace Value

mutual
theorem same_self (value : Value) : value.same value = true := by
  match value with
  | .null => rfl
  | .bool value => simp [same]
  | .number value => exact value.same_self
  | .string text => simp [same]
  | .array items => exact sameItems_self items
  | .object fields => exact sameFields_self fields

theorem sameItems_self (items : List Value) : sameItems items items = true := by
  match items with
  | [] => rfl
  | item :: rest => rw [sameItems, same_self item, sameItems_self rest]; rfl

theorem sameFields_self (fields : List (String × Value)) : sameFields fields fields = true := by
  match fields with
  | [] => rfl
  | (name, value) :: rest => simp [sameFields, same_self value, sameFields_self rest]
end

mutual
theorem same_comm (left right : Value) : left.same right = right.same left := by
  cases left with
  | null => cases right <;> rfl
  | bool value =>
      cases right with
      | bool other => exact Bool.beq_comm
      | _ => rfl
  | number value =>
      cases right with
      | number other => exact value.same_comm other
      | _ => rfl
  | string text =>
      cases right with
      | string other => exact Bool.beq_comm
      | _ => rfl
  | array items =>
      cases right with
      | array others => exact sameItems_comm items others
      | _ => rfl
  | object fields =>
      cases right with
      | object others => exact sameFields_comm fields others
      | _ => rfl

theorem sameItems_comm (left right : List Value) : sameItems left right = sameItems right left := by
  match left, right with
  | [], [] | [], _ :: _ | _ :: _, [] => rfl
  | item :: rest, item' :: rest' =>
      rw [sameItems, sameItems, same_comm item item', sameItems_comm rest rest']

theorem sameFields_comm (left right : List (String × Value)) :
    sameFields left right = sameFields right left := by
  match left, right with
  | [], [] | [], _ :: _ | _ :: _, [] => rfl
  | (name, value) :: rest, (name', value') :: rest' =>
      rw [sameFields, sameFields, same_comm value value', sameFields_comm rest rest',
        Bool.beq_comm (a := name)]
end

theorem identical_self (operand : Option Value) : identical operand operand = true := by
  match operand with
  | none => rfl
  | some (.number value) => exact Binary64.same_self value.isSome_position
  | some .null | some (.bool _) | some (.string _) | some (.array _) | some (.object _) =>
      exact same_self _

theorem identical_comm (left right : Option Value) : identical left right = identical right left := by
  cases left with
  | none =>
      cases right with
      | none => rfl
      | some value => cases value <;> rfl
  | some left =>
      cases right with
      | none => cases left <;> rfl
      | some right =>
          cases left with
          | number value =>
              cases right with
              | number other => exact Binary64.same_comm _ _
              | _ => rfl
          | _ => cases right <;> first | rfl | exact same_comm _ _

/-! ## Equality -/

/-- Whether an operand is a string. -/
def isString : Option Value → Bool
  | some (.string _) => true
  | _ => false

theorem sameNumber_comm (left right : Option Value) : sameNumber left right = sameNumber right left := by
  simp only [sameNumber]
  cases toBinary64? left with
  | none => cases toBinary64? right <;> rfl
  | some l =>
      cases toBinary64? right with
      | none => rfl
      | some r => exact l.same_comm r

theorem equal_of_nullish {left right : Option Value}
    (absent : (isNullish left || isNullish right) = true) :
    equal left right = (isNullish left && isNullish right) := by
  unfold equal
  rw [if_pos absent]

/-- Two operands, not both strings, are compared as numbers where one is a number or a
boolean, and for identity elsewhere. -/
theorem equal_of_mixed {left right : Option Value} (present : (isNullish left || isNullish right) = false)
    (mixed : ¬ (isString left = true ∧ isString right = true)) :
    equal left right =
      if isNumeric left || isNumeric right then sameNumber left right else identical left right := by
  unfold equal
  rw [present, if_neg Bool.false_ne_true]
  split
  · exact absurd ⟨rfl, rfl⟩ mixed
  · rfl

theorem equal_self (operand : Option Value) : equal operand operand = true := by
  match operand with
  | none | some .null => rfl
  | some (.string text) => simp [equal, isNullish]
  | some (.number value) => exact Binary64.same_self value.isSome_position
  | some (.bool value) => exact Binary64.same_self (Number.int (if value then 1 else 0)).isSome_position
  | some (.array items) => exact identical_self (some (.array items))
  | some (.object fields) => exact identical_self (some (.object fields))

theorem equal_comm (left right : Option Value) : equal left right = equal right left := by
  by_cases strings : isString left = true ∧ isString right = true
  · match left, right, strings with
    | some (.string l), some (.string r), _ => exact Bool.beq_comm
  · cases absent : isNullish left || isNullish right with
    | true =>
        rw [equal_of_nullish absent, equal_of_nullish (by rwa [Bool.or_comm]), Bool.and_comm]
    | false =>
        rw [equal_of_mixed absent strings,
          equal_of_mixed (by rwa [Bool.or_comm]) (fun both => strings both.symm), Bool.or_comm,
          sameNumber_comm, identical_comm]

/-- Identical values are equal. -/
theorem equal_of_same {left right : Value} (same : identical (some left) (some right) = true) :
    equal (some left) (some right) = true := by
  cases left with
  | null => cases right <;> first | rfl | cases same
  | bool value =>
      cases right with
      | bool other =>
          obtain rfl : value = other := beq_iff_eq.mp same
          exact equal_self _
      | _ => cases same
  | number value =>
      cases right with
      | number other => exact same
      | _ => cases same
  | string text =>
      cases right with
      | string other => exact same
      | _ => cases same
  | array items =>
      cases right with
      | array others => exact same
      | _ => cases same
  | object fields =>
      cases right with
      | object others => exact same
      | _ => cases same

/-- Identical operands are equal. -/
theorem equal_of_identical {left right : Option Value} (same : identical left right = true) :
    equal left right = true := by
  cases left with
  | none =>
      cases right with
      | none => rfl
      | some value => cases value <;> cases same
  | some left =>
      cases right with
      | none => cases left <;> cases same
      | some right => exact equal_of_same same

/-! ## Order -/

theorem numberOrder?_swap (left right : Option Value) :
    numberOrder? right left = (numberOrder? left right).map Ordering.swap := by
  rw [numberOrder?, numberOrder?, Bool.or_comm]
  split
  · rfl
  · cases toBinary64? left with
    | none => cases toBinary64? right <;> rfl
    | some l =>
        cases toBinary64? right with
        | none => rfl
        | some r => exact l.order?_swap r

theorem order?_of_mixed {left right : Option Value}
    (mixed : ¬ (isString left = true ∧ isString right = true)) :
    order? left right = numberOrder? left right := by
  unfold order?
  split
  · exact absurd ⟨rfl, rfl⟩ mixed
  · rfl

/-- Two operands the other way round are in the opposite order. -/
theorem order?_swap (left right : Option Value) :
    order? right left = (order? left right).map Ordering.swap := by
  by_cases strings : isString left = true ∧ isString right = true
  · match left, right, strings with
    | some (.string l), some (.string r), _ =>
        have texts : compare r l = (compare l r).swap := Std.OrientedCmp.eq_swap
        simp only [order?]
        cases Binary64.read? (Text.trimmed l) with
        | none => cases Binary64.read? (Text.trimmed r) <;> exact congrArg some texts
        | some x =>
            cases Binary64.read? (Text.trimmed r) with
            | none => exact congrArg some texts
            | some y => exact x.order?_swap y
  · rw [order?_of_mixed strings, order?_of_mixed fun both => strings both.symm, numberOrder?_swap]

/-- What has a numeric view is a number, a boolean or a string. -/
theorem isNumeric_or_isString {operand : Option Value} (viewed : (toBinary64? operand).isSome = true) :
    (isNumeric operand || isString operand) = true := by
  match operand with
  | some (.number _) | some (.bool _) | some (.string _) => rfl

/-- Operands in level order are equal, unless both are strings. -/
theorem equal_of_level {left right : Option Value}
    (mixed : ¬ (isString left = true ∧ isString right = true))
    (level : order? left right = some .eq) : equal left right = true := by
  rw [order?_of_mixed mixed, numberOrder?] at level
  split at level
  · cases level
  · rename_i present
    cases leftView : toBinary64? left with
    | none => simp [leftView] at level
    | some l =>
        cases rightView : toBinary64? right with
        | none => simp [leftView, rightView] at level
        | some r =>
            simp only [leftView, rightView] at level
            have leftKind := @isNumeric_or_isString left (by rw [leftView]; rfl)
            have rightKind := @isNumeric_or_isString right (by rw [rightView]; rfl)
            have numeric : (isNumeric left || isNumeric right) = true := by
              rw [Bool.or_eq_true] at leftKind rightKind ⊢
              rcases leftKind with numeric | leftString
              · exact .inl numeric
              · rcases rightKind with numeric | rightString
                · exact .inr numeric
                · exact absurd ⟨leftString, rightString⟩ mixed
            rw [equal_of_mixed (by simpa using present) mixed, if_pos numeric, sameNumber, leftView, rightView]
            exact beq_iff_eq.mpr level

end Value

/-! ## The operators -/

/-- The operator that says the same of two operands the other way round. -/
def Operator.mirror : Operator → Operator
  | .less => .greater
  | .greater => .less
  | .atMost => .atLeast
  | .atLeast => .atMost
  | operator => operator

theorem Operator.holds_mirror (operator : Operator) (left right : Option Value) :
    operator.mirror.holds right left = operator.holds left right := by
  have turned := Value.order?_swap left right
  cases operator with
  | identical => exact Value.identical_comm right left
  | notIdentical => exact congrArg not (Value.identical_comm right left)
  | equal => exact Value.equal_comm right left
  | notEqual => exact congrArg not (Value.equal_comm right left)
  | less | greater | atMost | atLeast =>
      simp only [mirror, holds, turned]
      cases Value.order? left right with
      | none => rfl
      | some order => cases order <;> rfl

/-- The laws that tie the operators to each other, for two operands. -/
structure Operator.Coherent (left right : Option Value) : Prop where
  identical_self : identical.holds left left = true
  equal_self : equal.holds left left = true
  identical_comm : identical.holds left right = identical.holds right left
  equal_comm : equal.holds left right = equal.holds right left
  equal_of_identical : identical.holds left right = true → equal.holds left right = true
  notIdentical_eq : notIdentical.holds left right = !identical.holds left right
  notEqual_eq : notEqual.holds left right = !equal.holds left right
  less_eq_greater : less.holds left right = greater.holds right left
  atMost_eq_atLeast : atMost.holds left right = atLeast.holds right left
  not_both : ¬ (less.holds left right = true ∧ greater.holds left right = true)
  atMost_iff : atMost.holds left right = true ↔
    less.holds left right = true ∨ (atMost.holds left right = true ∧ atLeast.holds left right = true)
  equal_of_level : ¬ (Value.isString left = true ∧ Value.isString right = true) →
    atMost.holds left right = true → atLeast.holds left right = true → equal.holds left right = true

/-- **The operators are coherent** on all operands: on values of every kind, and on undefined
ones. -/
theorem Operator.coherent (left right : Option Value) : Coherent left right where
  identical_self := Value.identical_self left
  equal_self := Value.equal_self left
  identical_comm := (holds_mirror .identical left right).symm
  equal_comm := (holds_mirror .equal left right).symm
  equal_of_identical := Value.equal_of_identical
  notIdentical_eq := rfl
  notEqual_eq := rfl
  less_eq_greater := (holds_mirror .less left right).symm
  atMost_eq_atLeast := (holds_mirror .atMost left right).symm
  not_both := by
    simp only [holds]
    rintro ⟨below, above⟩
    rw [beq_iff_eq] at below above
    rw [below] at above
    cases above
  atMost_iff := by
    simp only [holds]
    cases Value.order? left right with
    | none => decide
    | some order => cases order <;> decide
  equal_of_level := by
    intro mixed atMost atLeast
    apply Value.equal_of_level mixed
    simp only [holds] at atMost atLeast
    cases found : Value.order? left right with
    | none => simp [found] at atMost
    | some order =>
        cases order with
        | lt => simp [found] at atLeast
        | eq => rfl
        | gt => simp [found] at atMost

/-- Two strings that read as one number are in level order without being equal. -/
example : Value.order? (some (.string "1")) (some (.string "1.0")) = some .eq ∧
    Value.equal (some (.string "1")) (some (.string "1.0")) = false := by
  decide +kernel

end Herald
