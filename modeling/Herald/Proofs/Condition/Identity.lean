/- When a comparison of two paths for identity holds.

It asks for the identity of what the paths reach, which is no question about numbers alone
(`Value.Identical`). For values that the binary64 format and the forms of numbers do not
confuse it is whether they are the same value; two numbers of one size are always told to be
identical, and other values only if they are the same (`Toolbox.decideCondition_identity`).
What is left over are two integers that round to one number, which are told to be identical,
and two lists that hold one number in two forms, which are told to differ
(`Condition.Example.decideCondition_misjudged`). -/
import Herald.Proofs.Condition.Operators
import Herald.Proofs.Quoted
import Herald.Proofs.Value.Identity
namespace Herald
set_option autoImplicit false

/-- A text that can be a side of a comparison, is no literal, and leads to a value. -/
structure Context.Reaches (context : Context) (path : List Char) (value : Value) : Prop where
  operand : Condition.IsOperand path
  noLiteral : Literal.read? path = none
  found : context.resolve? path = some value

theorem Context.Reaches.operand? {context : Context} {path : List Char} {value : Value}
    (reaches : context.Reaches path value) : context.operand? path = some value := by
  rw [Context.operand?, reaches.noLiteral]
  exact reaches.found

/-- A dotted path is such a text. -/
theorem Context.reaches_of_isPath {context : Context} {path : List Char} {value : Value}
    (isPath : Token.isPath path = true) (noLiteral : Literal.read? path = none)
    (found : context.resolve? path = some value) : context.Reaches path value where
  operand := Condition.isOperand_of_word (Token.isWord_of_isPath isPath) (Token.ne_nil_of_isPath isPath)
  noLiteral := noLiteral
  found := found

namespace Toolbox
variable {State : Type} (context : Context) {path other : List Char} {left right : Value}

/-- A comparison of two operands as it is written. -/
theorem decideCondition_identitySource (pathOperand : Condition.IsOperand path)
    (otherOperand : Condition.IsOperand other) (progress : Progress State) :
    decideCondition context (Condition.identitySource path other) progress =
      (Value.identical (context.operand? path) (context.operand? other), progress) := by
  have blank : Text.isBlank ' ' = true := by decide
  have leftOperand := (Condition.isOperand_concat_of_blank blank).mpr pathOperand
  have rightOperand := (Condition.isOperand_cons_of_blank blank).mpr otherOperand
  have leftValue : context.operand? (path ++ [' ']) = context.operand? path := by
    rw [← Context.operand?_trim, Text.trim_concat_of_blank blank, Context.operand?_trim]
  have rightValue : context.operand? (' ' :: other) = context.operand? other := by
    rw [← Context.operand?_trim, Text.trim_cons_of_blank blank, Context.operand?_trim]
  have shape : Condition.identitySource path other =
      Condition.marks [] ++ ((path ++ [' ']) ++ (Operator.identical.mark ++ ' ' :: other)) := by
    simp [Condition.identitySource, Condition.marks]
  rw [shape, decideCondition_comparison context (by simp) leftOperand rightOperand, leftValue, rightValue]
  rfl

/-- **A comparison of two paths for identity** holds if and only if the values they reach are
identical, and leaves no warning. That is whether they are of one kind and content, with numbers
equal as numbers at every depth, if the values are comparable. Of the two directions one holds
without that: from equal numbers to identity for numbers, and from identity to equal contents
for all other values. -/
theorem decideCondition_identity (held : context.WellFormed) (reaches : context.Reaches path left)
    (reaches' : context.Reaches other right) (progress : Progress State) :
    let answer := decideCondition context (Condition.identitySource path other) progress
    answer.2 = progress ∧ (answer.1 = true ↔ left.Identical right) ∧
      (left.Comparable right → (answer.1 = true ↔ left.Matches Number.SameSize right)) ∧
      (left.kind = "number" → left.Matches Number.SameSize right → answer.1 = true) ∧
      (left.kind ≠ "number" → answer.1 = true → left.Matches Number.SameSize right) := by
  have leftHeld := held.resolve reaches.found
  have rightHeld := held.resolve reaches'.found
  have identical := Value.identical_iff leftHeld rightHeld
  rw [decideCondition_identitySource context reaches.operand reaches'.operand, reaches.operand?,
    reaches'.operand?]
  refine ⟨rfl, identical, ?_, ?_, ?_⟩
  · intro comparable
    exact identical.trans (Value.identical_iff_matches comparable)
  · intro isNumber matched
    exact identical.mpr (Value.identical_of_matches leftHeld rightHeld isNumber matched)
  · intro otherKind same
    exact Value.matches_of_identical otherKind (identical.mp same)

end Toolbox

namespace Condition.Example

/-- The number one, as a float. -/
def oneFloat : Value := .number (.float false Binary64.one)

/-- Two order numbers that round to one, and two lists of one number. -/
def orders : Context :=
  ⟨Dict.ofList [("paid", .int 9007199254740993), ("due", .int 9007199254740992),
      ("sold", .array [.int 1]), ("sent", .array [oneFloat])],
    .enUS, ⟨"UTC", 0⟩, ⟨0, 0⟩⟩

theorem wellFormed_oneFloat : oneFloat.WellFormed := by
  have rounded := Binary64.inFormat_ofRatio (decide ((1 : Int) < 0)) (Int.natAbs 1) 1
  rw [← Binary64.ofInt, Binary64.ofInt_of_small (by decide)] at rounded
  exact .number (.float (by simpa using rounded))

theorem wellFormed_orders : orders.WellFormed := by
  refine Value.WellFormed.emptyObject.foldl_insert fun field inside => ?_
  simp only [List.mem_cons, List.not_mem_nil, or_false] at inside
  rcases inside with rfl | rfl | rfl | rfl
  · exact .int _
  · exact .int _
  · exact .array (List.forall_mem_singleton.mpr (.int 1))
  · exact .array (List.forall_mem_singleton.mpr wellFormed_oneFloat)

theorem reaches_paid : orders.Reaches "paid".toList (.int 9007199254740993) :=
  Context.reaches_of_isPath (by decide) (by rfl) (by rfl)

theorem reaches_due : orders.Reaches "due".toList (.int 9007199254740992) :=
  Context.reaches_of_isPath (by decide) (by rfl) (by rfl)

theorem reaches_sold : orders.Reaches "sold".toList (.array [.int 1]) :=
  Context.reaches_of_isPath (by decide) (by rfl) (by rfl)

theorem reaches_sent : orders.Reaches "sent".toList (.array [oneFloat]) :=
  Context.reaches_of_isPath (by decide) (by rfl) (by rfl)

theorem decideCondition_identity_rounded :
    let start := Progress.start ()
    orders.WellFormed ∧ orders.Reaches "paid".toList (.int 9007199254740993) ∧
      orders.Reaches "due".toList (.int 9007199254740992) ∧
      Toolbox.decideCondition orders (identitySource "paid".toList "due".toList) start = (true, start) := by
  intro start
  obtain ⟨untouched, holds, -⟩ :=
    Toolbox.decideCondition_identity orders wellFormed_orders reaches_paid reaches_due start
  have rounded : (Value.int 9007199254740993).Identical (.int 9007199254740992) := by
    show (Binary64.ofInt 9007199254740993).position = (Binary64.ofInt 9007199254740992).position
    decide +kernel
  exact ⟨wellFormed_orders, reaches_paid, reaches_due, Prod.ext (holds.mpr rounded) untouched⟩

/-- Two integers that are not the same are told to be identical, and two lists that hold the
same number are told to differ. -/
theorem decideCondition_misjudged :
    let start := Progress.start ()
    (orders.Reaches "paid".toList (.int 9007199254740993) ∧
      orders.Reaches "due".toList (.int 9007199254740992) ∧
      Toolbox.decideCondition orders (identitySource "paid".toList "due".toList) start = (true, start) ∧
      ¬ (Value.int 9007199254740993).Matches Number.SameSize (.int 9007199254740992)) ∧
    (orders.Reaches "sold".toList (.array [.int 1]) ∧ orders.Reaches "sent".toList (.array [oneFloat]) ∧
      Toolbox.decideCondition orders (identitySource "sold".toList "sent".toList) start = (false, start) ∧
      (Value.array [.int 1]).Matches Number.SameSize (.array [oneFloat])) := by
  intro start
  have decided : ∀ {path other : List Char} {left right : Value}, orders.Reaches path left →
      orders.Reaches other right → Toolbox.decideCondition orders (identitySource path other) start =
        (Value.identical (some left) (some right), start) := by
    intro path other left right reaches reaches'
    rw [Toolbox.decideCondition_identitySource orders reaches.operand reaches'.operand, reaches.operand?,
      reaches'.operand?]
  have rounded : Value.identical (some (.int 9007199254740993)) (some (.int 9007199254740992)) = true := by
    decide +kernel
  have oneSize : Number.SameSize (.int 1) (.float false Binary64.one) := by
    rw [Number.SameSize, Number.place, Number.place, Int.one_mul]
    rfl
  refine ⟨⟨reaches_paid, reaches_due, ?_, ?_⟩, reaches_sold, reaches_sent, ?_, ?_⟩
  · rw [decided reaches_paid reaches_due, rounded]
  · intro matched
    exact absurd (Number.sameSize_int.mp (Value.matches_number_iff.mp matched)) (by decide)
  · rw [decided reaches_sold reaches_sent]
    rfl
  · exact .array (.cons (.number oneSize) .nil)

end Condition.Example
end Herald
