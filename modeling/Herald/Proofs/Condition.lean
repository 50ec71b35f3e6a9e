/- Malformed conditions.

A malformed condition leaves one warning and counts as false where it stands. The exclamation
marks that lead it negate that false as they negate anything else (`holds_marks_iff_odd`). So
what a block makes of the whole condition depends on how many of them there are: with an even
number it takes the branch of a condition that fails, and with an odd number that of a
condition that holds (`Renderer.renderText_malformed`). -/
import Herald.Proofs.Blocks
namespace Herald
set_option autoImplicit false

namespace Condition

/-! ## Negations of a malformed condition -/

/-- How many negations stand around the part of a condition that is none. -/
def negations : Condition → Nat
  | .negation inner => negations inner + 1
  | _ => 0

/-- The condition under some more negations. -/
def negate (condition : Condition) : Nat → Condition
  | 0 => condition
  | count + 1 => .negation (negate condition count)

@[simp] theorem isMalformed_negate (condition : Condition) (count : Nat) :
    (condition.negate count).isMalformed = condition.isMalformed := by
  induction count with
  | zero => rfl
  | succ count ih => exact ih

@[simp] theorem negations_negate (condition : Condition) (count : Nat) :
    (condition.negate count).negations = count + condition.negations := by
  induction count with
  | zero => exact (Nat.zero_add _).symm
  | succ count ih => rw [negate, negations, ih, Nat.add_right_comm]

/-- The malformed part is false, and every negation around it turns the outcome over. -/
theorem holds_iff_odd_of_isMalformed {condition : Condition} (malformed : condition.isMalformed = true)
    (context : Context) : condition.holds context = true ↔ condition.negations % 2 = 1 := by
  induction condition with
  | malformed => simp [holds, negations]
  | negation inner ih =>
      have turned : (inner.negations + 1) % 2 = 1 ↔ ¬ inner.negations % 2 = 1 := by omega
      rw [holds, negations, turned, ← ih malformed, Bool.not_eq_true', Bool.not_eq_true]
  | comparison operator left right => cases malformed
  | operand text => cases malformed

/-! ## Exclamation marks -/

/-- An exclamation mark negates the condition behind it, unless it begins an operator or there
is nothing behind it. -/
theorem read_mark {text : List Char} (something : Text.trim text ≠ [])
    (apart : text.head? ≠ some '=') : read ('!' :: text) = .negation (read text) := by
  have visible : Text.isBlank '!' = false := by decide
  have kept : Text.trim ('!' :: text) = '!' :: Text.trimEnd text := by
    rw [Text.trim, Text.trimStart_cons_of_visible visible, Text.trimEnd_cons_of_visible visible]
  rw [read, kept]
  simp only [Text.head?_trimEnd something, Text.trim_trimEnd, beq_eq_false_iff_ne.mpr apart,
    List.isEmpty_iff, something, Bool.false_eq_true, if_false]
  rw [← read_trim (Text.trimEnd text), Text.trim_trimEnd, read_trim]

/-- Exclamation marks that lead a condition are as many negations of it. -/
theorem read_marks {text : List Char} (something : Text.trim text ≠ [])
    (apart : text.head? ≠ some '=') (count : Nat) :
    read (List.replicate count '!' ++ text) = (read text).negate count := by
  induction count with
  | zero => rfl
  | succ count ih =>
      have behind : Text.trim (List.replicate count '!' ++ text) ≠ [] := by
        cases count with
        | zero => exact something
        | succ fewer =>
            exact List.ne_nil_of_mem (Text.mem_trim (c := '!') (by simp) (by decide))
      have noOperator : (List.replicate count '!' ++ text).head? ≠ some '=' := by
        cases count with
        | zero => exact apart
        | succ fewer => simp [List.replicate_succ]
      rw [List.replicate_succ, List.cons_append, read_mark behind noOperator, ih, negate]

/-- An operator without its operand, or any other malformed condition, holds behind an odd
number of exclamation marks and fails behind an even one. -/
theorem holds_marks_iff_odd {text : List Char} (malformed : read text = .malformed)
    (something : Text.trim text ≠ []) (apart : text.head? ≠ some '=') (count : Nat)
    (context : Context) :
    (read (List.replicate count '!' ++ text)).holds context = true ↔ count % 2 = 1 := by
  have under := read_marks something apart count
  rw [malformed] at under
  rw [under, holds_iff_odd_of_isMalformed (isMalformed_negate .malformed count),
    negations_negate .malformed]
  rfl

end Condition

/-! ## Blocks with a malformed condition -/

/-- A malformed condition leaves one warning, and is decided by its negations alone. -/
theorem Toolbox.decideCondition_malformed {State : Type} (context : Context) {text : List Char}
    (malformed : (Condition.read text).isMalformed = true) (progress : Progress State) :
    decideCondition context text progress =
      (decide ((Condition.read text).negations % 2 = 1),
        progress.record (.warned .malformedCondition)) := by
  have outcome : (Condition.read text).holds context =
      decide ((Condition.read text).negations % 2 = 1) := by
    rw [Bool.eq_iff_iff, decide_eq_true_iff]
    exact Condition.holds_iff_odd_of_isMalformed malformed context
  simp only [decideCondition, malformed, outcome, if_true]

namespace Renderer
variable {State : Type}

/-- **What a malformed condition means.** A block with a malformed condition warns once and
looks at nothing in the data. An if-block then renders its second source if an even number of
negations leads the condition, and its first one if an odd number does; an unless-block
renders the other one. -/
theorem renderText_malformed (renderer : Renderer State)
    (raw : renderer.config.normalizeWhitespace = false) {first second condition : String}
    (firstOwn : SelfContained first.toList) (secondOwn : SelfContained second.toList)
    (closed : '}' ∉ condition.toList)
    (malformed : (Condition.read condition.toList).isMalformed = true)
    (context : Context) (state : State) :
    let warned := (Progress.start state).record (.warned .malformedCondition)
    renderer.renderText context (blockText .whenTrue condition first second) state =
        warned.andThen (renderer.renderText context
          (if (Condition.read condition.toList).negations % 2 = 1 then first else second)) ∧
      renderer.renderText context (blockText .whenFalse condition first second) state =
        warned.andThen (renderer.renderText context
          (if (Condition.read condition.toList).negations % 2 = 1 then second else first)) := by
  have block : ∀ kind : BlockKind,
      renderer.renderText context (blockText kind condition first second) state =
        renderer.tools.renderChoice context kind condition.toList first.toList second.toList state := by
    intro kind
    rw [renderText_raw renderer raw, toList_blockText,
      Toolbox.renderSource_lastBlock _ context firstOwn secondOwn closed]
  intro warned
  rw [block, block]
  simp only [Toolbox.renderChoice, Toolbox.decideCondition_malformed context malformed,
    renderText_raw renderer raw]
  by_cases odd : (Condition.read condition.toList).negations % 2 = 1
  · simp only [odd, decide_true, if_true]
    exact ⟨rfl, rfl⟩
  · simp only [odd, decide_false, Bool.false_eq_true, if_false]
    exact ⟨rfl, rfl⟩

end Renderer

/-! ## An equation without its right side -/

namespace Condition.Example

/-- A negated equation whose right side is missing. -/
def condition : String := "!a =="

theorem renderText_malformed_equation :
    let renderer := Renderer.Example.renderer
    let warned := (Progress.start ()).record (.warned .malformedCondition)
    renderer.config.normalizeWhitespace = false ∧ SelfContained "yes".toList ∧
      SelfContained "no".toList ∧ '}' ∉ condition.toList ∧
      (read condition.toList).isMalformed = true ∧
      ∀ context : Context,
        renderer.renderText context (blockText .whenTrue condition "yes" "no") () =
            warned.andThen (renderer.renderText context "yes") ∧
          renderer.renderText context (blockText .whenFalse condition "yes" "no") () =
            warned.andThen (renderer.renderText context "no") := by
  have yesOwn : SelfContained "yes".toList := by decide +kernel
  have noOwn : SelfContained "no".toList := by decide +kernel
  have closed : '}' ∉ condition.toList := by decide
  have malformed : (read condition.toList).isMalformed = true := by decide +kernel
  have odd : (read condition.toList).negations % 2 = 1 := by decide +kernel
  intro renderer warned
  refine ⟨rfl, yesOwn, noOwn, closed, malformed, fun context => ?_⟩
  obtain ⟨whenTrue, whenFalse⟩ :=
    Renderer.renderText_malformed renderer rfl yesOwn noOwn closed malformed context ()
  rw [whenTrue, whenFalse, if_pos odd, if_pos odd]
  exact ⟨rfl, rfl⟩

/-- A condition that leaves the warning can hold. -/
theorem malformed_holds :
    ¬ ∀ (context : Context) (text : String),
      let (holds, progress) := Toolbox.decideCondition context text.toList (Progress.start ())
      progress.events = #[.warned .malformedCondition] → holds = false := by
  intro fails
  have malformed : (read condition.toList).isMalformed = true := by decide +kernel
  have odd : (read condition.toList).negations % 2 = 1 := by decide +kernel
  have decided := Toolbox.decideCondition_malformed Renderer.Example.context malformed (Progress.start ())
  have failing := fails Renderer.Example.context condition
  rw [decided, decide_eq_true odd] at failing
  exact Bool.noConfusion (failing rfl)

end Condition.Example
end Herald
