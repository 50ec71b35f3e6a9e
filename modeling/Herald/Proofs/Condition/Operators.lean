/- Where a condition is divided.

An operand is a text that is not blank, closes its quotes, and shows no sign of an operator
outside them (`Condition.IsOperand`). The search for an operator sees only the signs between
two operands: what it finds in `left`, signs and `right` is what it finds in the signs alone
(`findOperator?_between`). So of the whole order in which the operators are looked for, only
what it does on the eight operators themselves is left to check: each is found in its own
text (`findOperator?_mark`).

With the exclamation marks in front this says what every condition of this form means
(`Toolbox.decideCondition_operands`). -/
import Herald.Proofs.Condition
import Herald.Proofs.Names
import Herald.Proofs.Text.Pieces
import Mathlib.Data.List.Basic
namespace Herald
set_option autoImplicit false

/-! ## Blanks and quotes -/

namespace Text

/-- Only a quote character is ever open. -/
theorem isQuote_of_openQuote {text : List Char} {mark : Char} (opened : openQuote text = some mark) :
    isQuote mark = true := by
  induction text using List.reverseRecOn with
  | nil => cases opened
  | append_singleton rest c ih =>
      rw [openQuote, List.foldl_append, List.foldl_cons, List.foldl_nil, ← openQuote] at opened
      cases before : openQuote rest with
      | none =>
          rw [before, quoteStep] at opened
          split at opened
          · rename_i quote
            rwa [← Option.some.inj opened]
          · cases opened
      | some other =>
          rw [before, quoteStep] at opened
          split at opened
          · cases opened
          · rw [← Option.some.inj opened] at ih ⊢
            exact ih before

/-- A blank neither opens nor closes a quote. -/
theorem openQuote_concat_of_blank {c : Char} (blank : isBlank c = true) {text : List Char} :
    openQuote (text ++ [c]) = none ↔ openQuote text = none := by
  rw [openQuote, List.foldl_append, List.foldl_cons, List.foldl_nil, ← openQuote]
  cases before : openQuote text with
  | none => simp [quoteStep, unquoted_of_blank blank]
  | some mark =>
      have other : c ≠ mark := ne_of_blank blank (not_blank_of_isQuote (isQuote_of_openQuote before))
      simp [quoteStep, other]

end Text

namespace Condition

/-! ## Operands -/

/-- The characters that operators are made of. -/
def isSign (c : Char) : Bool := c == '=' || c == '!' || c == '<' || c == '>'

theorem isSign_mark (operator : Operator) : ∀ c ∈ operator.mark, isSign c = true :=
  List.all_eq_true.mp (by cases operator <;> rfl)

theorem unquoted_of_isSign {c : Char} (sign : isSign c = true) : Text.isQuote c = false := by
  simp only [isSign, Bool.or_eq_true, beq_iff_eq] at sign
  rcases sign with ((rfl | rfl) | rfl) | rfl <;> decide

/-- A text shows no sign outside quotes. -/
def ShowsNoSign (text : List Char) : Prop := ∀ c ∈ Text.outside text, isSign c = false

namespace ShowsNoSign
variable {text : List Char}

theorem of_all (shown : (Text.outside text).all (fun c => !isSign c) = true) : ShowsNoSign text := by
  intro c inside
  simpa using List.all_eq_true.mp shown c inside

theorem absent (plain : ShowsNoSign text) {c : Char} (sign : isSign c = true) :
    c ∉ Text.outside text := by
  intro shown
  rw [plain c shown] at sign
  cases sign

/-- Such a text begins with no sign. -/
theorem head (plain : ShowsNoSign text) : ∀ c ∈ text.head?, isSign c = false := by
  intro c begins
  cases text with
  | nil => cases begins
  | cons first rest =>
      obtain rfl := Option.some.inj begins
      cases sign : isSign first with
      | false => rfl
      | true =>
          have shown := Text.outside_cons (unquoted_of_isSign sign) rest
          exact absurd (by rw [shown]; exact List.mem_cons_self) (plain.absent sign)

end ShowsNoSign

/-- A text that can stand on either side of an operator. -/
structure IsOperand (text : List Char) : Prop where
  something : Text.trim text ≠ []
  closed : Text.openQuote text = none
  plain : ShowsNoSign text

/-- A word is an operand. -/
theorem isOperand_of_word {word : List Char} (isWord : Text.IsWord word) (nonempty : word ≠ []) :
    IsOperand word := by
  obtain ⟨shown, closed⟩ := Text.outside_of_unquoted (Text.unquoted_of_word isWord)
  refine ⟨?_, closed, ?_⟩
  · rwa [Text.trim_of_visible (Text.visible_of_word isWord)]
  · intro c inside
    rw [shown] at inside
    cases sign : isSign c with
    | false => rfl
    | true =>
        simp only [isSign, Bool.or_eq_true, beq_iff_eq] at sign
        rcases sign with ((rfl | rfl) | rfl) | rfl <;>
          exact absurd inside (Text.notMem_of_word isWord (by decide))

section Blanks
variable {c : Char} {text : List Char}

theorem unsigned_of_blank (blank : Text.isBlank c = true) : isSign c = false := by
  cases sign : isSign c with
  | false => rfl
  | true =>
      simp only [isSign, Bool.or_eq_true, beq_iff_eq] at sign
      rcases sign with ((rfl | rfl) | rfl) | rfl <;> cases blank

/-- A blank in front makes no difference to an operand. -/
theorem isOperand_cons_of_blank (blank : Text.isBlank c = true) :
    IsOperand (c :: text) ↔ IsOperand text := by
  have plain := Text.unquoted_of_blank blank
  have step : Text.quoteStep none c = none := by simp [Text.quoteStep, plain]
  have quotes : Text.openQuote (c :: text) = Text.openQuote text := by
    rw [Text.openQuote, List.foldl_cons, step, ← Text.openQuote]
  have signs : ShowsNoSign (c :: text) ↔ ShowsNoSign text := by
    rw [ShowsNoSign, Text.outside_cons plain, List.forall_mem_cons, ← ShowsNoSign,
      and_iff_right (unsigned_of_blank blank)]
  constructor
  · rintro ⟨something, closed, shown⟩
    exact ⟨by rwa [← Text.trim_cons_of_blank blank], by rwa [← quotes], signs.mp shown⟩
  · rintro ⟨something, closed, shown⟩
    exact ⟨by rwa [Text.trim_cons_of_blank blank], by rwa [quotes], signs.mpr shown⟩

/-- Nor does a blank at the end. -/
theorem isOperand_concat_of_blank (blank : Text.isBlank c = true) :
    IsOperand (text ++ [c]) ↔ IsOperand text := by
  have shown : Text.outside [c] = [c] := Text.outside_cons (Text.unquoted_of_blank blank) []
  have quotes : Text.openQuote (text ++ [c]) = none ↔ Text.openQuote text = none :=
    Text.openQuote_concat_of_blank blank
  have signs : Text.openQuote text = none → (ShowsNoSign (text ++ [c]) ↔ ShowsNoSign text) := by
    intro closed
    rw [ShowsNoSign, Text.outside_append closed, shown, List.forall_mem_append, ← ShowsNoSign,
      List.forall_mem_singleton, and_iff_left (unsigned_of_blank blank)]
  constructor
  · rintro ⟨something, closed, shown⟩
    have before := quotes.mp closed
    exact ⟨by rwa [← Text.trim_concat_of_blank blank], before, (signs before).mp shown⟩
  · rintro ⟨something, closed, shown⟩
    exact ⟨by rwa [Text.trim_concat_of_blank blank], quotes.mpr closed, (signs closed).mpr shown⟩

end Blanks

namespace IsOperand
variable {text : List Char}

theorem trimStart (operand : IsOperand text) : IsOperand (Text.trimStart text) := by
  induction text with
  | nil => exact operand
  | cons c rest ih =>
      by_cases blank : Text.isBlank c = true
      · rw [Text.trimStart_cons_of_blank blank]
        exact ih ((isOperand_cons_of_blank blank).mp operand)
      · rwa [Text.trimStart_cons_of_visible (by simpa using blank)]

theorem trimEnd (operand : IsOperand text) : IsOperand (Text.trimEnd text) := by
  induction text using List.reverseRecOn with
  | nil => exact operand
  | append_singleton rest c ih =>
      by_cases blank : Text.isBlank c = true
      · rw [Text.trimEnd_concat_of_blank blank]
        exact ih ((isOperand_concat_of_blank blank).mp operand)
      · rwa [Text.trimEnd_concat_of_visible (by simpa using blank)]

theorem trimStart_ne_nil (operand : IsOperand text) : Text.trimStart text ≠ [] := by
  intro gone
  apply operand.something
  rw [← Text.trim_trimStart, gone]
  rfl

theorem trimEnd_ne_nil (operand : IsOperand text) : Text.trimEnd text ≠ [] := by
  intro gone
  apply operand.something
  rw [← Text.trim_trimEnd, gone]
  rfl

end IsOperand

/-! ## The search for an operator -/

section Search
variable {mark left right signs : List Char}

/-- A mark of signs does not reach into a text that begins with none. -/
theorem isPrefixOf_append (signed : ∀ c ∈ mark, isSign c = true)
    (boundary : ∀ c ∈ right.head?, isSign c = false) (text : List Char) :
    mark.isPrefixOf (text ++ right) = mark.isPrefixOf text := by
  induction mark generalizing text with
  | nil => rfl
  | cons first more ih =>
      have later := ih fun c inside => signed c (List.mem_cons_of_mem first inside)
      match text, right with
      | [], [] => rfl
      | [], d :: rest =>
          have other : first ≠ d := by
            rintro rfl
            have sign := signed first List.mem_cons_self
            rw [boundary first rfl] at sign
            cases sign
          simp [List.isPrefixOf, other]
      | c :: text, _ => rw [List.cons_append, List.isPrefixOf_cons_cons, List.isPrefixOf_cons_cons, later]

/-- What has been passed comes out in front. -/
theorem breakOutsideFrom_before (quote : Option Char) (passed before text : List Char) :
    Text.breakOutsideFrom mark quote (before ++ passed) text =
      (Text.breakOutsideFrom mark quote before text).map fun sides =>
        (passed.reverse ++ sides.1, sides.2) := by
  induction text generalizing quote before with
  | nil => rfl
  | cons c rest ih =>
      rw [Text.breakOutsideFrom, Text.breakOutsideFrom]
      split
      · simp
      · exact ih (Text.quoteStep quote c) (c :: before)

/-- Among signs the search does not see the operand behind them. -/
theorem breakOutsideFrom_signs (nonempty : mark ≠ []) (signed : ∀ c ∈ mark, isSign c = true)
    (between : ∀ c ∈ signs, isSign c = true) (plain : ShowsNoSign right) (before : List Char) :
    Text.breakOutsideFrom mark none before (signs ++ right) =
      (Text.breakOutsideFrom mark none before signs).map fun sides => (sides.1, sides.2 ++ right) := by
  induction signs generalizing before with
  | nil =>
      obtain ⟨first, more, rfl⟩ := List.exists_cons_of_ne_nil nonempty
      have passed := @Text.breakOutsideFrom_passed first more none right
        (plain.absent (signed first List.mem_cons_self)) before []
      rw [List.append_nil] at passed
      rw [List.nil_append, passed]
      rfl
  | cons c rest ih =>
      have unquoted := unquoted_of_isSign (between c List.mem_cons_self)
      have later := ih (fun d inside => between d (List.mem_cons_of_mem c inside)) (c :: before)
      have same := isPrefixOf_append signed plain.head (c :: rest)
      have step : Text.quoteStep none c = none := by simp [Text.quoteStep, unquoted]
      rw [List.cons_append] at same
      rw [List.cons_append, Text.breakOutsideFrom, Text.breakOutsideFrom, same, step, later]
      split
      · rename_i found
        have begins := List.isPrefixOf_iff_prefix.mp (Bool.and_eq_true_iff.mp found).2
        have fits : mark.length ≤ (c :: rest).length := begins.length_le
        rw [← List.cons_append, List.drop_append_of_le_length fits]
        rfl
      · rfl

/-- The search for a mark sees only the signs between two operands. -/
theorem breakOutside_between (nonempty : mark ≠ []) (signed : ∀ c ∈ mark, isSign c = true)
    (between : ∀ c ∈ signs, isSign c = true) (leftOperand : IsOperand left)
    (rightPlain : ShowsNoSign right) :
    Text.breakOutside mark (left ++ (signs ++ right)) =
      (Text.breakOutside mark signs).map fun sides => (left ++ sides.1, sides.2 ++ right) := by
  have behind := breakOutsideFrom_signs nonempty signed between rightPlain left.reverse
  have front := @breakOutsideFrom_before mark none left.reverse [] signs
  obtain ⟨first, more, rfl⟩ := List.exists_cons_of_ne_nil nonempty
  have passed := @Text.breakOutsideFrom_passed first more none left
    (leftOperand.plain.absent (signed first List.mem_cons_self)) [] (signs ++ right)
  rw [← Text.openQuote, leftOperand.closed, List.append_nil] at passed
  rw [List.nil_append] at front
  rw [Text.breakOutside, passed, behind, front, Text.breakOutside, Option.map_map, List.reverse_reverse]
  rfl

/-- **The operator is found between the operands**: where it is found among the signs that
stand there alone. -/
theorem findOperator?_between (between : ∀ c ∈ signs, isSign c = true) (leftOperand : IsOperand left)
    (rightPlain : ShowsNoSign right) :
    findOperator? (left ++ (signs ++ right)) =
      (findOperator? signs).map fun found => (found.1, left ++ found.2.1, found.2.2 ++ right) := by
  have each : ∀ operator : Operator,
      Text.breakOutside operator.mark (left ++ (signs ++ right)) =
        (Text.breakOutside operator.mark signs).map fun sides => (left ++ sides.1, sides.2 ++ right) := by
    intro operator
    have nonempty : operator.mark ≠ [] := by cases operator <;> decide
    exact breakOutside_between nonempty (isSign_mark operator) between leftOperand rightPlain
  rw [findOperator?, findOperator?, List.map_findSome?]
  congr 1
  funext operator
  rw [each, Function.comp_apply, Option.map_map, Option.map_map]
  rfl

end Search

/-- Alone, every operator is found as what it is: none of those looked for before it begins
anywhere in its text. -/
theorem findOperator?_mark (operator : Operator) :
    findOperator? operator.mark = some (operator, [], []) := by
  cases operator <;> rfl

/-! ## Reading -/

section Reading
variable {left right : List Char}

theorem read_eq_readPlain {text : List Char} (something : Text.trim text ≠ [])
    (noMark : (Text.trim text).head? ≠ some '!') : read text = readPlain (Text.trim text) := by
  rw [read]
  split
  · rename_i shape
    exact absurd shape something
  · rename_i rest shape
    rw [shape] at noMark
    exact absurd rfl noMark
  · rfl

/-- Operands with an operator between them are its comparison. -/
theorem read_comparison (leftOperand : IsOperand left) (rightOperand : IsOperand right)
    (operator : Operator) :
    read (left ++ (operator.mark ++ right)) =
      .comparison operator (Text.trim left) (Text.trim right) := by
  have begins := leftOperand.trimStart_ne_nil
  have trimmed : Text.trim (left ++ (operator.mark ++ right)) =
      Text.trimStart left ++ (operator.mark ++ Text.trimEnd right) := by
    rw [Text.trim, Text.trimStart_append begins, ← List.append_assoc,
      Text.trimEnd_append rightOperand.trimEnd_ne_nil, List.append_assoc]
  have something : Text.trim (left ++ (operator.mark ++ right)) ≠ [] := by
    rw [trimmed]
    exact List.append_ne_nil_of_left_ne_nil begins _
  have noMark : (Text.trim (left ++ (operator.mark ++ right))).head? ≠ some '!' := by
    rw [trimmed, List.head?_append_of_ne_nil _ begins]
    intro mark
    exact absurd (leftOperand.trimStart.plain.head '!' mark) (by decide)
  have found := findOperator?_between (isSign_mark operator) leftOperand.trimStart
    rightOperand.trimEnd.plain
  rw [findOperator?_mark] at found
  rw [read_eq_readPlain something noMark, trimmed, readPlain, found]
  simp [Text.trim_trimStart, Text.trim_trimEnd, leftOperand.something, rightOperand.something]

/-- An operand alone is one. -/
theorem read_operand (operand : IsOperand left) : read left = .operand (Text.trim left) := by
  have trimmed : IsOperand (Text.trim left) := operand.trimStart.trimEnd
  have noMark : (Text.trim left).head? ≠ some '!' := by
    intro mark
    exact absurd (trimmed.plain.head '!' mark) (by decide)
  have none_between : ∀ c ∈ ([] : List Char), isSign c = true := by simp
  have nothing : ShowsNoSign [] := by
    intro c inside
    cases inside
  have found := findOperator?_between none_between trimmed nothing
  rw [List.append_nil, List.append_nil] at found
  rw [read_eq_readPlain operand.something noMark, readPlain, found]
  rfl

/-! ## Negations -/

/-- Exclamation marks, each behind some blanks. -/
def marks (gaps : List (List Char)) : List Char := gaps.flatMap (· ++ ['!'])

/-- Exclamation marks with blanks among them are as many negations. -/
theorem read_spacedMarks {gaps : List (List Char)} (blank : ∀ gap ∈ gaps, ∀ c ∈ gap, Text.isBlank c = true)
    {text : List Char} (something : Text.trim text ≠ []) (apart : text.head? ≠ some '=') :
    read (marks gaps ++ text) = (read text).negate gaps.length := by
  induction gaps with
  | nil => rfl
  | cons gap gaps ih =>
      obtain ⟨first, others⟩ := List.forall_mem_cons.mp blank
      have behind : Text.trim (marks gaps ++ text) ≠ [] := by
        cases gaps with
        | nil => exact something
        | cons next more =>
            exact List.ne_nil_of_mem (Text.mem_trim (c := '!') (by simp [marks]) (by decide))
      have noOperator : (marks gaps ++ text).head? ≠ some '=' := by
        cases gaps with
        | nil => exact apart
        | cons next more =>
            cases next with
            | nil => simp [marks]
            | cons c next =>
                intro same
                have stray := others (c :: next) List.mem_cons_self c List.mem_cons_self
                rw [Option.some.inj same] at stray
                cases stray
      have shape : marks (gap :: gaps) ++ text = gap ++ '!' :: (marks gaps ++ text) := by simp [marks]
      rw [shape, ← read_trim, Text.trim_append_of_blank first, read_trim, read_mark behind noOperator,
        ih others]
      rfl

theorem holds_negate (condition : Condition) (count : Nat) (context : Context) :
    (condition.negate count).holds context =
      if count % 2 = 1 then !condition.holds context else condition.holds context := by
  induction count with
  | zero => rfl
  | succ count ih =>
      rw [negate, holds, ih]
      by_cases odd : count % 2 = 1
      · rw [if_pos odd, if_neg (by omega), Bool.not_not]
      · rw [if_neg odd, if_pos (by omega)]

end Reading

end Condition

/-! ## The meaning of a condition -/

theorem Literal.read?_trim (text : List Char) : read? (Text.trim text) = read? text := by
  simp only [read?, Text.trim_trim]

theorem Context.operand?_trim (context : Context) (text : List Char) :
    context.operand? (Text.trim text) = context.operand? text := by
  simp only [operand?, Literal.read?_trim, resolve_trim]

namespace Toolbox
variable {State : Type} (context : Context) {gaps : List (List Char)} {left right : List Char}

theorem decideCondition_comparison (blank : ∀ gap ∈ gaps, ∀ c ∈ gap, Text.isBlank c = true)
    (leftOperand : Condition.IsOperand left) (rightOperand : Condition.IsOperand right)
    (operator : Operator) (progress : Progress State) :
    let related := operator.holds (context.operand? left) (context.operand? right)
    decideCondition context (Condition.marks gaps ++ (left ++ (operator.mark ++ right))) progress =
      (if gaps.length % 2 = 1 then !related else related, progress) := by
  have compared := Condition.read_comparison leftOperand rightOperand operator
  have something : Text.trim (left ++ (operator.mark ++ right)) ≠ [] := by
    intro gone
    rw [Condition.read, gone] at compared
    cases compared
  have nonempty : left ≠ [] := by
    rintro rfl
    exact leftOperand.something rfl
  have apart : (left ++ (operator.mark ++ right)).head? ≠ some '=' := by
    rw [List.head?_append_of_ne_nil _ nonempty]
    intro same
    exact absurd (leftOperand.plain.head '=' same) (by decide)
  simp only [decideCondition, Condition.read_spacedMarks blank something apart, compared,
    Condition.holds_negate, Condition.isMalformed_negate, Condition.holds, Condition.isMalformed,
    Context.operand?_trim, Bool.false_eq_true, if_false]

theorem decideCondition_operand (blank : ∀ gap ∈ gaps, ∀ c ∈ gap, Text.isBlank c = true)
    (operand : Condition.IsOperand left) (progress : Progress State) :
    let true? := Value.isTrue (context.operand? left)
    decideCondition context (Condition.marks gaps ++ left) progress =
      (if gaps.length % 2 = 1 then !true? else true?, progress) := by
  have apart : left.head? ≠ some '=' := by
    intro same
    exact absurd (operand.plain.head '=' same) (by decide)
  simp only [decideCondition, Condition.read_spacedMarks blank operand.something apart,
    Condition.read_operand operand, Condition.holds_negate, Condition.isMalformed_negate,
    Condition.holds, Condition.isMalformed, Context.operand?_trim, Bool.false_eq_true, if_false]

/-- **A condition is divided at the operator that is written between its operands**, whichever
of the eight it is and whatever stands in their quotes, and asks for the relation of their
values; without an operator it asks for the truth of its operand. Every exclamation mark in
front negates the whole. Blanks may stand around every part, and no warning is left. -/
theorem decideCondition_operands (blank : ∀ gap ∈ gaps, ∀ c ∈ gap, Text.isBlank c = true)
    (leftOperand : Condition.IsOperand left) (rightOperand : Condition.IsOperand right)
    (operator : Operator) (progress : Progress State) :
    let related := operator.holds (context.operand? left) (context.operand? right)
    let true? := Value.isTrue (context.operand? left)
    decideCondition context (Condition.marks gaps ++ (left ++ (operator.mark ++ right))) progress =
        (if gaps.length % 2 = 1 then !related else related, progress) ∧
      decideCondition context (Condition.marks gaps ++ left) progress =
        (if gaps.length % 2 = 1 then !true? else true?, progress) :=
  ⟨decideCondition_comparison context blank leftOperand rightOperand operator progress,
    decideCondition_operand context blank leftOperand progress⟩

end Toolbox

namespace Condition.Example

/-- A note that reads like a comparison. -/
def note : String := "a >= \"b\" === c"

def noted : Context := ⟨Dict.ofList [("note", .string note)], .enUS, ⟨"UTC", 0⟩, ⟨0, 0⟩⟩

theorem decideCondition_operands_note :
    let gaps : List (List Char) := [[], [' '], []]
    let left := " note ".toList
    let right := (Text.inQuotes '\'' note.toList) ++ ['\t']
    let start := Progress.start ()
    (∀ gap ∈ gaps, ∀ c ∈ gap, Text.isBlank c = true) ∧ IsOperand left ∧ IsOperand right ∧
      Toolbox.decideCondition noted (marks gaps ++ (left ++ (Operator.notIdentical.mark ++ right)))
          start = (true, start) ∧
      Toolbox.decideCondition noted (marks gaps ++ left) start = (false, start) := by
  intro gaps left right start
  have space : Text.isBlank ' ' = true := by decide
  have blank : ∀ gap ∈ gaps, ∀ c ∈ gap, Text.isBlank c = true := by simp [gaps, space]
  have leftOperand : IsOperand left := ⟨by decide, by decide, .of_all (by decide)⟩
  have rightOperand : IsOperand right := ⟨by decide, by decide, .of_all (by decide)⟩
  obtain ⟨compared, alone⟩ := Toolbox.decideCondition_operands noted blank leftOperand rightOperand
    .notIdentical start
  have related : Operator.notIdentical.holds (noted.operand? left) (noted.operand? right) = false := by
    decide +kernel
  have true? : Value.isTrue (noted.operand? left) = true := by decide +kernel
  have odd : gaps.length % 2 = 1 := by decide
  refine ⟨blank, leftOperand, rightOperand, ?_, ?_⟩
  · rw [compared, if_pos odd, related]
    rfl
  · rw [alone, if_pos odd, true?]
    rfl

end Condition.Example
end Herald
