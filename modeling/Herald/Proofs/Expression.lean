/- How expressions are read.

A double-brace marker whose inside is no block marker is rendered as the expression that it
is (`Toolbox.renderSource_expression`). An expression that shows no bar outside quotes is
evaluated as a whole, and one with a bar is cut there (`Toolbox.writeExpression_whole`,
`Toolbox.writeExpression_bar`). What a call, a pipeline segment and a condition make of their
parts depends on what these show outside quotes (`Call.read?_single`, `PipeStep.read?_single`,
`Condition.read_identical`). -/
import Herald.Proofs.Call
import Herald.Proofs.Token
import Herald.Rendering
namespace Herald
set_option autoImplicit false

/-- A trimmed text begins visibly. -/
theorem Text.visible_of_trimmed {c : Char} {rest : List Char} (trimmed : trim (c :: rest) = c :: rest) :
    isBlank c = false := by
  cases blank : isBlank c with
  | false => rfl
  | true =>
      have shorter := Condition.length_trim_le rest
      rw [← trim_cons_of_blank blank, trimmed] at shorter
      exact absurd shorter (by simp)

/-! ## Expression markers -/

namespace Token

/-- The inside of a marker around an expression. -/
def expressionInside (source : List Char) : List Char := ' ' :: (source ++ [' '])

/-- A trimmed text that between double braces is an expression, no marker of a block. -/
structure IsExpression (source : List Char) : Prop where
  trimmed : Text.trim source = source
  noOpener : source.head? ≠ some '#'
  noCloser : source.head? ≠ some '/'
  noOtherwise : source ≠ "else".toList
  noBraces : ¬ ['}', '}'] <:+: source

/-- A text that begins with a word, ends visibly and is more than the word is an expression. -/
theorem IsExpression.of_word {word : List Char} {last c : Char} (isWord : Text.IsWord word)
    (nonempty : word ≠ []) (rest : List Char) (inside : c ∈ rest) (other : Text.isWordChar c = false)
    (ends : Text.isBlank last = false) (noBraces : ¬ ['}', '}'] <:+: word ++ (rest ++ [last])) :
    IsExpression (word ++ (rest ++ [last])) where
  trimmed := Text.trim_word_append isWord nonempty ends rest
  noOpener := Text.head?_word_append isWord nonempty (by decide) _
  noCloser := Text.head?_word_append isWord nonempty (by decide) _
  noOtherwise := by
    have keyword : Text.IsWord "else".toList :=
      List.all_eq_true.mp (by decide : "else".toList.all Text.isWordChar = true)
    intro same
    have stray : c ∈ "else".toList := by
      rw [← same]
      exact List.mem_append_right _ (List.mem_append_left _ inside)
    exact Text.notMem_of_word keyword other stray
  noBraces := noBraces

variable {source : List Char}

theorem IsExpression.enclosed (expression : IsExpression source) : Enclosed (expressionInside source) := by
  have apart := braces_infix_append_cons (by decide : ' ' ≠ '}')
  have shape : expressionInside source ++ ['}'] = [] ++ ' ' :: (source ++ ' ' :: ['}']) := by
    simp [expressionInside]
  rw [Enclosed, shape, apart, apart, not_or, not_or]
  exact ⟨not_braces_of_count (by decide), expression.noBraces, not_braces_of_count (by decide)⟩

/-- An inside that is no block marker is an expression, without the blanks around it. -/
theorem ofInside_placeholder {inside : List Char} (noOpener : (Text.trim inside).head? ≠ some '#')
    (noCloser : (Text.trim inside).head? ≠ some '/') (noOtherwise : Text.trim inside ≠ "else".toList) :
    ofInside? inside = some (.placeholder (Text.trim inside) .double (marker inside)) := by
  rw [ofInside?]
  split
  · rename_i rest shape
    exact absurd (by rw [shape]; rfl) noOpener
  · rename_i rest shape
    exact absurd (by rw [shape]; rfl) noCloser
  · rw [if_neg (by simpa using noOtherwise)]
    rfl

/-- An expression without blanks around it is a placeholder, too. -/
theorem IsExpression.ofInside_bare (expression : IsExpression source) :
    ofInside? source = some (.placeholder source .double (marker source)) := by
  have read := @ofInside_placeholder source
  rw [expression.trimmed] at read
  exact read expression.noOpener expression.noCloser expression.noOtherwise

theorem IsExpression.ofInside (expression : IsExpression source) :
    ofInside? (expressionInside source) =
      some (.placeholder source .double (marker (expressionInside source))) := by
  have blank : Text.isBlank ' ' = true := by decide
  have trimmed : Text.trim (expressionInside source) = source := by
    rw [expressionInside, Text.trim_cons_of_blank blank, Text.trim_concat_of_blank blank,
      expression.trimmed]
  have read := @ofInside_placeholder (expressionInside source)
  rw [trimmed] at read
  exact read expression.noOpener expression.noCloser expression.noOtherwise

end Token

namespace Toolbox
variable {State : Type} (tools : Toolbox State) (context : Context)

/-- A marker that is read as a placeholder renders what its expression writes. -/
theorem renderSource_placeholder {inside source : List Char} (enclosed : Token.Enclosed inside)
    (read : Token.ofInside? inside = some (.placeholder source .double (Token.marker inside)))
    (state : State) :
    tools.renderSource context (Token.marker inside) state =
      tools.writeExpression context source (Token.marker inside) (Progress.start state) := by
  rw [renderSource, Node.ofSource, Token.ofSource_marker_alone enclosed read]
  rfl

/-- **A marker around an expression renders what the expression writes.** -/
theorem renderSource_expression {source : List Char} (expression : Token.IsExpression source)
    (state : State) :
    tools.renderSource context (Token.marker (Token.expressionInside source)) state =
      tools.writeExpression context source (Token.marker (Token.expressionInside source))
        (Progress.start state) :=
  renderSource_placeholder tools context expression.enclosed expression.ofInside state

/-! ## Pipelines -/

theorem writeExpression_whole {source : List Char} (absent : '|' ∉ Text.outside source)
    (raw : List Char) (progress : Progress State) :
    tools.writeExpression context source raw progress =
      match tools.evaluate context source progress with
      | (.result value, progress) => progress.write (Value.display value)
      | (.unknownFunction, progress) => progress.write raw := by
  rw [writeExpression, Text.splitOutside, Text.cutOutside_of_notMem absent]
  rfl

theorem writeExpression_bar {head segment : List Char} (closed : Text.openQuote head = none)
    (headWhole : '|' ∉ Text.outside head) (segmentWhole : '|' ∉ Text.outside segment)
    (raw : List Char) (progress : Progress State) :
    tools.writeExpression context (head ++ '|' :: segment) raw progress =
      let (outcome, progress) := tools.evaluate context (Text.trim head) progress
      let (value, progress) :=
        tools.applySegment context (outcome.orNull, progress) (Text.trim segment)
      progress.write (Value.display (some value)) := by
  rw [writeExpression, Text.splitOutside, Text.cutOutside_append (by decide) closed headWhole,
    Text.cutOutside_of_notMem segmentWhole]
  rfl

end Toolbox

/-! ## Steps of a pipeline -/

namespace PipeStep

/-- A name under which a pipeline can call a formatter. -/
structure IsName (name : List Char) : Prop where
  nonempty : name ≠ []
  trimmed : Text.trim name = name
  closed : Text.openQuote name = none
  noBar : '|' ∉ Text.outside name
  noColon : ':' ∉ Text.outside name
  noBraces : ¬ ['}', '}'] <:+: name

/-- A step's name stands in front of its argument without a blank before it. -/
theorem IsName.trim_append {name : List Char} (named : IsName name) {last : Char}
    (ends : Text.isBlank last = false) (rest : List Char) :
    Text.trim (name ++ (rest ++ [last])) = name ++ (rest ++ [last]) := by
  cases name with
  | nil => exact absurd rfl named.nonempty
  | cons first more =>
      have visible := Text.visible_of_trimmed named.trimmed
      simpa using Text.trim_of_visible_ends visible ends (more ++ rest)

/-- A segment with one argument. -/
theorem read?_single {name argument : List Char} (named : IsName name)
    (whole : ':' ∉ Text.outside argument) :
    read? (name ++ ':' :: argument) = some ⟨name, [argumentValue (Text.trim argument)]⟩ := by
  rw [read?, Text.splitOutside, Text.cutOutside_append (by decide) named.closed named.noColon,
    Text.cutOutside_of_notMem whole]
  simp [named.trimmed, named.nonempty]

end PipeStep

/-- A registered formatter is applied to one argument. -/
theorem Toolbox.applySegment_single {State : Type} (tools : Toolbox State) (context : Context)
    {name : List Char} (named : PipeStep.IsName name) (argument : List Char)
    (whole : ':' ∉ Text.outside argument) {formatter : Formatter State}
    (registered : Dict.find? (String.ofList name) tools.formatters = some formatter)
    (value : Value) (progress : Progress State) :
    tools.applySegment context (value, progress) (name ++ ':' :: argument) =
      let arguments := [PipeStep.argumentValue (Text.trim argument)]
      let (result, state) := formatter value arguments context progress.state
      (result, { progress with state := state }.record (.applied name value arguments)) := by
  simp only [applySegment, PipeStep.read?_single named whole, registered]

/-! ## Paths -/

/-- A path is evaluated as an operand, for it is no call. -/
theorem Toolbox.evaluate_path {State : Type} (tools : Toolbox State) (context : Context)
    {path : List Char} (isPath : Token.isPath path = true) (progress : Progress State) :
    tools.evaluate context path progress = (.result (context.operand? path), progress) := by
  have word := Token.isWord_of_isPath isPath
  have noCall : Call.read? path = none := by
    apply Call.read?_eq_none
    rw [Text.trim_of_visible (Text.visible_of_word word)]
    intro last
    exact Text.notMem_of_word word (by decide) (List.mem_of_getLast? last)
  rw [evaluate, noCall]

/-! ## Conditions -/

namespace Condition

theorem findOperator?_identical {left : List Char} (closed : Text.openQuote left = none)
    (absent : '=' ∉ Text.outside left) (right : List Char) :
    findOperator? (left ++ (Operator.identical.mark ++ right)) = some (.identical, left, right) := by
  have found : Text.breakOutside Operator.identical.mark (left ++ (Operator.identical.mark ++ right)) =
      some (left, right) := Text.breakOutside_append (by decide) closed absent right
  rw [findOperator?, Operator.all, List.findSome?_cons, found]
  rfl

/-- A condition that shows its first equals sign in `===` asks for identity there. -/
theorem read_identical {left right : List Char} (closed : Text.openQuote left = none)
    (absent : '=' ∉ Text.outside left) (leftSome : Text.trim left ≠ []) (rightSome : Text.trim right ≠ [])
    (noMark : left.head? ≠ some '!')
    (trimmed : Text.trim (left ++ (Operator.identical.mark ++ right)) =
      left ++ (Operator.identical.mark ++ right)) :
    read (left ++ (Operator.identical.mark ++ right)) =
      .comparison .identical (Text.trim left) (Text.trim right) := by
  have plain : readPlain (left ++ (Operator.identical.mark ++ right)) =
      .comparison .identical (Text.trim left) (Text.trim right) := by
    rw [readPlain, findOperator?_identical closed absent]
    simp [leftSome, rightSome]
  cases left with
  | nil => exact absurd rfl leftSome
  | cons first rest =>
      have other : first ≠ '!' := fun same => noMark (by rw [same]; rfl)
      rw [read, trimmed]
      split
      · rename_i shape
        cases shape
      · rename_i shape
        exact absurd (List.cons.inj shape).1 other
      · exact plain

end Condition

end Herald
