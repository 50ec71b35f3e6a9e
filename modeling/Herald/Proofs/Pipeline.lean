/- A pipeline is a left fold.

A pipeline is a base and segments with bars between them. Its base gives the first value, by one
evaluation (`Toolbox.Evaluates`). Each segment writes a step out, a name and the arguments behind
it (`PipeStep.Writes`), and the steps act on the value one after another
(`Toolbox.Chain`): a registered formatter is applied once to the value before it, an unregistered
one leaves the value and one warning, and a step without a name leaves the value alone. What a
pipeline prints, records and leaves as the state is what this chain gives
(`Renderer.renderText_pipeline`). -/
import Mathlib.Data.List.Forall2
import Herald.Proofs.Literal
import Herald.Proofs.Quoted
import Herald.Proofs.Text.Pieces
namespace Herald
set_option autoImplicit false

/-! ## How a step is written -/

namespace PipeStep

/-- A segment writes a step out: the name, and behind each colon outside quotes one argument. -/
inductive Writes : List Char → PipeStep → Prop
  | intro {segment name : List Char} {arguments : List (List Char)} {values : List Value}
      (cut : Text.CutInto ':' segment (name :: arguments))
      (denote : List.Forall₂ Denotes (arguments.map Text.trim) values) :
      Writes segment ⟨Text.trim name, values⟩

theorem forall₂_denotes_iff (arguments : List (List Char)) (values : List Value) :
    List.Forall₂ Denotes (arguments.map Text.trim) values ↔
      (arguments.map Text.trim).map argumentValue = values := by
  induction arguments generalizing values with
  | nil => simp [List.forall₂_nil_left_iff, eq_comm]
  | cons argument rest ih =>
      rw [List.map_cons, List.map_cons, List.forall₂_cons_left_iff]
      constructor
      · rintro ⟨value, others, denotes, more, rfl⟩
        rw [(denotes_iff (Text.trim_trim argument) value).mp denotes, (ih others).mp more]
      · rintro rfl
        exact ⟨_, _, (denotes_iff (Text.trim_trim argument) _).mpr rfl, (ih _).mpr rfl, rfl⟩

/-- A segment writes the step out that cutting it gives. -/
theorem Writes.of_cut {segment name : List Char} {arguments : List (List Char)} {values : List Value}
    (closed : Text.openQuote segment = none) (cut : Text.cutOutside ':' segment = name :: arguments)
    (read : (arguments.map Text.trim).map argumentValue = values) :
    Writes segment ⟨Text.trim name, values⟩ :=
  .intro ((Text.cutInto_iff (by decide) closed _).mpr cut) ((forall₂_denotes_iff arguments values).mpr read)

/-- A segment with closed quotes writes a step out. -/
theorem exists_writes {segment : List Char} (closed : Text.openQuote segment = none) :
    ∃ step, Writes segment step := by
  obtain ⟨pieces, cut⟩ := Text.exists_cutInto (by decide : Text.isQuote ':' = false) closed
  cases pieces with
  | nil => exact absurd rfl cut.nonempty
  | cons name arguments => exact ⟨_, .of_cut closed (cut.cutOutside (by decide)) rfl⟩

/-- What a segment writes out is what is read from it; a step without a name is not read. -/
theorem Writes.read {segment : List Char} {step : PipeStep} (written : Writes segment step) :
    read? (Text.trim segment) = if step.name = [] then none else some step := by
  cases written with
  | intro cut denote =>
      rw [read?, Text.splitOutside_trim (by decide), Text.splitOutside, cut.cutOutside (by decide)]
      rw [forall₂_denotes_iff] at denote
      simp [denote]

theorem exists_steps {segments : List (List Char)}
    (closed : ∀ segment ∈ segments, Text.openQuote segment = none) :
    ∃ steps, List.Forall₂ Writes segments steps := by
  induction segments with
  | nil => exact ⟨[], .nil⟩
  | cons segment rest ih =>
      obtain ⟨step, written⟩ := exists_writes (closed segment List.mem_cons_self)
      obtain ⟨steps, more⟩ := ih fun other inside => closed other (List.mem_cons_of_mem segment inside)
      exact ⟨step :: steps, .cons written more⟩

end PipeStep

namespace Toolbox
variable {State : Type} (tools : Toolbox State) (context : Context)

/-! ## The base -/

/-- One evaluation of a base: its value, what it records, and the state behind it. A literal
and a path record nothing and leave the state, undefined is null, and a registered function is
called once. -/
inductive Evaluates (base : List Char) (state : State) : Value → List Event → State → Prop
  | literal {literal : Literal} (read : Literal.read? base = some literal) :
      Evaluates base state (literal.toValue?.getD .null) [] state
  | path (noCall : Call.read? base = none) (noLiteral : Literal.read? base = none) :
      Evaluates base state ((context.resolve? base).getD .null) [] state
  | call {call : Call} {function : Function State} (read : Call.read? base = some call)
      (registered : Dict.find? (String.ofList call.name) tools.functions = some function) :
      Evaluates base state (function (call.values context) context state).1
        [.called call.name (call.values context)] (function (call.values context) context state).2

/-- A base is evaluated unless it calls a function that is not registered. -/
theorem exists_evaluates (base : List Char) (state : State)
    (callable : ∀ call, Call.read? base = some call →
      (Dict.find? (String.ofList call.name) tools.functions).isSome = true) :
    ∃ value events after, tools.Evaluates context base state value events after := by
  cases called : Call.read? base with
  | some call =>
      obtain ⟨function, registered⟩ := Option.isSome_iff_exists.mp (callable call called)
      exact ⟨_, _, _, .call called registered⟩
  | none =>
      cases read : Literal.read? base with
      | none => exact ⟨_, _, _, .path called read⟩
      | some literal => exact ⟨_, _, _, .literal read⟩

variable {tools context}

theorem Evaluates.evaluate {base : List Char} {state : State} {value : Value} {events : List Event}
    {after : State} (evaluates : tools.Evaluates context base state value events after)
    (trimmed : Text.trim base = base) :
    ∃ outcome, tools.evaluate context base (Progress.start state) =
      (outcome, ⟨"", events.toArray, after⟩) ∧ outcome.orNull = value := by
  cases evaluates with
  | literal read =>
      rw [Toolbox.evaluate, Call.read?_of_literal trimmed read, Context.operand?, read]
      exact ⟨_, rfl, rfl⟩
  | path noCall noLiteral =>
      rw [Toolbox.evaluate, noCall, Context.operand?, noLiteral]
      exact ⟨_, rfl, rfl⟩
  | call read registered =>
      simp only [Toolbox.evaluate, read, registered]
      exact ⟨_, rfl, rfl⟩

/-- Evaluating a base gives no warning. -/
theorem Evaluates.countEvents {base : List Char} {state : State} {value : Value} {events : List Event}
    {after : State} (evaluates : tools.Evaluates context base state value events after)
    (tally : Tally) : tally.countEvents events.toArray = tally := by
  cases evaluates <;> rfl

/-! ## The chain of steps -/

variable (tools context)

/-- Steps act on a value one after another: the value they give, what they record, and the state
behind them. -/
inductive Chain : List PipeStep → Value → State → Value → List Event → State → Prop
  | done (value : Value) (state : State) : Chain [] value state value [] state
  | applied {step : PipeStep} {formatter : Formatter State} {steps : List PipeStep}
      {value final : Value} {state last : State} {events : List Event} (named : step.name ≠ [])
      (registered : Dict.find? (String.ofList step.name) tools.formatters = some formatter)
      (rest : Chain steps (formatter value step.arguments context state).1
        (formatter value step.arguments context state).2 final events last) :
      Chain (step :: steps) value state final (.applied step.name value step.arguments :: events) last
  | unknown {step : PipeStep} {steps : List PipeStep} {value final : Value} {state last : State}
      {events : List Event} (named : step.name ≠ [])
      (unregistered : Dict.find? (String.ofList step.name) tools.formatters = none)
      (rest : Chain steps value state final events last) :
      Chain (step :: steps) value state final (.warned .unknownFormatter :: events) last
  | nameless {step : PipeStep} {steps : List PipeStep} {value final : Value} {state last : State}
      {events : List Event} (blank : step.name = []) (rest : Chain steps value state final events last) :
      Chain (step :: steps) value state final events last

/-- A step names a formatter that is not registered. -/
def lacks (step : PipeStep) : Bool :=
  !step.name.isEmpty && (Dict.find? (String.ofList step.name) tools.formatters).isNone

theorem exists_chain (steps : List PipeStep) (value : Value) (state : State) :
    ∃ final events last, tools.Chain context steps value state final events last := by
  induction steps generalizing value state with
  | nil => exact ⟨value, [], state, .done value state⟩
  | cons step steps ih =>
      by_cases blank : step.name = []
      · obtain ⟨final, events, last, rest⟩ := ih value state
        exact ⟨_, _, _, .nameless blank rest⟩
      · cases found : Dict.find? (String.ofList step.name) tools.formatters with
        | none =>
            obtain ⟨final, events, last, rest⟩ := ih value state
            exact ⟨_, _, _, .unknown blank found rest⟩
        | some formatter =>
            obtain ⟨final, events, last, rest⟩ := ih (formatter value step.arguments context state).1
              (formatter value step.arguments context state).2
            exact ⟨_, _, _, .applied blank found rest⟩

variable {tools context}

/-- A chain warns once for each step that names no registered formatter. -/
theorem Chain.countEvents {steps : List PipeStep} {value final : Value} {state last : State}
    {events : List Event} (chain : tools.Chain context steps value state final events last)
    (tally : Tally) :
    tally.countEvents events.toArray =
      { tally with unknownFormatter := tally.unknownFormatter + steps.countP tools.lacks } := by
  rw [Tally.countEvents, List.foldl_toArray]
  induction chain generalizing tally with
  | done value state => rfl
  | applied named registered rest ih =>
      rw [List.countP_cons_of_neg (by simp [lacks, registered]), List.foldl_cons]
      exact ih tally
  | unknown named unregistered rest ih =>
      rw [List.countP_cons_of_pos (by simp [lacks, named, unregistered]), List.foldl_cons, ih]
      simp only [Tally.countEvent]
      congr 1
      omega
  | nameless blank rest ih =>
      rw [List.countP_cons_of_neg (by simp [lacks, blank])]
      exact ih tally

/-- A chain begins with what the segment of its first step does to the value. -/
theorem Chain.applySegment {step : PipeStep} {steps : List PipeStep} {value final : Value}
    {state last : State} {events : List Event}
    (chain : tools.Chain context (step :: steps) value state final events last) {segment : List Char}
    (read : PipeStep.read? segment = if step.name = [] then none else some step) (recorded : Array Event) :
    ∃ next first rest between,
      tools.applySegment context (value, ⟨"", recorded, state⟩) segment =
          (next, ⟨"", recorded ++ first.toArray, between⟩) ∧
        tools.Chain context steps next between final rest last ∧ events = first ++ rest := by
  cases chain with
  | applied named registered rest =>
      rw [if_neg named] at read
      refine ⟨_, [_], _, _, ?_, rest, rfl⟩
      simp [Toolbox.applySegment, read, registered, Progress.record]
  | unknown named unregistered rest =>
      rw [if_neg named] at read
      refine ⟨_, [_], _, _, ?_, rest, rfl⟩
      simp [Toolbox.applySegment, read, unregistered, Progress.record]
  | nameless blank rest =>
      rw [if_pos blank] at read
      refine ⟨_, [], _, _, ?_, rest, rfl⟩
      simp [Toolbox.applySegment, read]

/-- Folding the segments over a value is the chain of the steps that they write out. -/
theorem Chain.foldl_applySegment {steps : List PipeStep} {value final : Value} {state last : State}
    {events : List Event} (chain : tools.Chain context steps value state final events last)
    {segments : List (List Char)} (written : List.Forall₂ PipeStep.Writes segments steps)
    (recorded : Array Event) :
    (segments.map Text.trim).foldl (tools.applySegment context) (value, ⟨"", recorded, state⟩) =
      (final, ⟨"", recorded ++ events.toArray, last⟩) := by
  induction written generalizing value state events recorded with
  | nil =>
      cases chain
      simp
  | cons first more ih =>
      obtain ⟨next, now, later, between, applied, rest, rfl⟩ := chain.applySegment first.read recorded
      rw [List.map_cons, List.foldl_cons, applied, ih rest]
      simp

end Toolbox

/-! ## The whole pipeline -/

/-- A piece of a pipeline: its quotes are closed, it shows no bar, and it holds no closing
brace. -/
structure PipeStep.IsPiece (text : List Char) : Prop where
  closed : Text.openQuote text = none
  noBar : '|' ∉ Text.outside text
  noBrace : '}' ∉ text

/-- A text with a visible character behind it begins as it does alone. -/
theorem Text.head?_trim_append {c : Char} (visible : isBlank c = false) (first rest : List Char) :
    (trim (first ++ c :: rest)).head? = (trim first ++ [c]).head? := by
  induction first with
  | nil =>
      rw [List.nil_append, trim, trimStart_cons_of_visible visible, trimEnd_cons_of_visible visible]
      rfl
  | cons d first ih =>
      by_cases blank : isBlank d = true
      · rw [List.cons_append, trim_cons_of_blank blank, trim_cons_of_blank blank, ih]
      · have shown : isBlank d = false := by simpa using blank
        rw [List.cons_append, trim, trimStart_cons_of_visible shown, trimEnd_cons_of_visible shown, trim,
          trimStart_cons_of_visible shown, trimEnd_cons_of_visible shown]
        rfl

namespace Toolbox
variable {State : Type}

/-- A run of a pipeline: the base is evaluated, and the steps that the segments write out act on
its value one after another. The run gives the last value, what it records, and the state. -/
inductive Pipeline (tools : Toolbox State) (context : Context) (base : List Char)
    (segments : List (List Char)) (state : State) :
    List PipeStep → Value → List Event → State → Prop
  | intro {steps : List PipeStep} {value final : Value} {calls events : List Event}
      {after last : State}
      (evaluates : tools.Evaluates context (Text.trim base) state value calls after)
      (written : List.Forall₂ PipeStep.Writes segments steps)
      (chain : tools.Chain context steps value after final events last) :
      Pipeline tools context base segments state steps final (calls ++ events) last

variable {tools : Toolbox State} {context : Context}

/-- A run warns once for each step that names no registered formatter. -/
theorem Pipeline.countEvents {base : List Char} {segments : List (List Char)} {steps : List PipeStep}
    {final : Value} {trace : List Event} {state last : State}
    (run : tools.Pipeline context base segments state steps final trace last) (tally : Tally) :
    tally.countEvents trace.toArray =
      { tally with unknownFormatter := tally.unknownFormatter + steps.countP tools.lacks } := by
  cases run with
  | intro evaluates written chain =>
      have first := evaluates.countEvents tally
      have later := chain.countEvents tally
      simp only [Tally.countEvents, List.foldl_toArray] at first later ⊢
      rw [List.foldl_append, first, later]

/-- The marker of a pipeline is the placeholder of an expression. -/
theorem ofSource_pipeline {base segment : List Char} {segments : List (List Char)}
    (pieces : ∀ piece ∈ base :: segment :: segments, PipeStep.IsPiece piece)
    (noOpener : (Text.trim base).head? ≠ some '#') (noCloser : (Text.trim base).head? ≠ some '/') :
    let inside := Text.joinWith ['|'] (base :: segment :: segments)
    Node.ofSource (Token.marker inside) = [.placeholder (Text.trim inside) .double (Token.marker inside)] := by
  intro inside
  have shape : inside = base ++ '|' :: Text.joinWith ['|'] (segment :: segments) := by
    simp only [inside]
    rw [Text.joinWith_cons_cons, List.singleton_append]
  have noBrace : '}' ∉ inside := by
    intro brace
    rcases Text.mem_joinWith brace with same | ⟨piece, listed, within⟩
    · cases same
    · exact (pieces piece listed).noBrace within
  have head : (Text.trim inside).head? = (Text.trim base ++ ['|']).head? := by
    rw [shape, Text.head?_trim_append (by decide)]
  have begins : ∀ c : Char, c ≠ '|' → (Text.trim base).head? ≠ some c → (Text.trim inside).head? ≠ some c := by
    intro c other absent same
    rw [head] at same
    cases start : Text.trim base with
    | nil =>
        rw [start] at same
        exact other (Option.some.inj same).symm
    | cons d rest =>
        rw [start] at same absent
        exact absent same
  have bar : '|' ∈ Text.trim inside := by
    apply Text.mem_trim _ (by decide)
    rw [shape]
    exact List.mem_append_right base List.mem_cons_self
  have noOtherwise : Text.trim inside ≠ "else".toList := by
    intro same
    rw [same] at bar
    exact absurd bar (by decide)
  have read := Token.ofInside_placeholder (begins '#' (by decide) noOpener) (begins '/' (by decide) noCloser)
    noOtherwise
  rw [Node.ofSource, Token.ofSource_marker_alone (Token.enclosed_of_notMem noBrace) read]
  rfl

/-- The expression of a pipeline writes and records what a run of it gives. -/
theorem Pipeline.writeExpression {base segment : List Char} {segments : List (List Char)}
    (pieces : ∀ piece ∈ base :: segment :: segments, PipeStep.IsPiece piece) (raw : List Char)
    {state : State} {steps : List PipeStep} {final : Value} {trace : List Event} {last : State}
    (run : tools.Pipeline context base (segment :: segments) state steps final trace last) :
    tools.writeExpression context (Text.trim (Text.joinWith ['|'] (base :: segment :: segments))) raw
        (Progress.start state) =
      ⟨String.ofList (Value.display (some final)), trace.toArray, last⟩ := by
  have cut : Text.CutInto '|' (Text.joinWith ['|'] (base :: segment :: segments))
      (base :: segment :: segments) := {
    nonempty := List.cons_ne_nil _ _
    joined := rfl
    closed := fun piece listed => (pieces piece listed).closed
    whole := fun piece listed => (pieces piece listed).noBar }
  have split : Text.splitOutside '|' (Text.trim (Text.joinWith ['|'] (base :: segment :: segments))) =
      Text.trim base :: Text.trim segment :: segments.map Text.trim := by
    rw [Text.splitOutside_trim (by decide), Text.splitOutside, cut.cutOutside (by decide)]
    rfl
  cases run with
  | intro evaluates written chain =>
      rename_i value calls events after
      obtain ⟨outcome, evaluated, value_eq⟩ := evaluates.evaluate (Text.trim_trim base)
      have folded := chain.foldl_applySegment written calls.toArray
      rw [List.map_cons] at folded
      rw [Toolbox.writeExpression, split]
      simp only [evaluated, value_eq]
      rw [folded]
      simp [Progress.write]

/-- Wherever a render comes to a pipeline, it writes and records what a run of it gives. -/
theorem renderNodes_pipeline {base segment : List Char} {segments : List (List Char)}
    (pieces : ∀ piece ∈ base :: segment :: segments, PipeStep.IsPiece piece)
    (noOpener : (Text.trim base).head? ≠ some '#') (noCloser : (Text.trim base).head? ≠ some '/')
    (progress : Progress State) {steps : List PipeStep} {final : Value} {trace : List Event}
    {last : State}
    (run : tools.Pipeline context base (segment :: segments) progress.state steps final trace last) :
    tools.renderNodes context
        (Node.ofSource (Token.marker (Text.joinWith ['|'] (base :: segment :: segments)))) progress =
      progress.follow ⟨String.ofList (Value.display (some final)), trace.toArray, last⟩ := by
  rw [ofSource_pipeline pieces noOpener noCloser]
  show tools.writeExpression context _ _ progress = _
  conv_lhs => rw [← Progress.follow_start progress]
  rw [writeExpression_follow, run.writeExpression pieces]

end Toolbox

/-- A pipeline between double braces; its pieces bring the blanks around them. -/
def pipelineText (base : String) (segments : List String) : String :=
  "\x7b\x7b" ++ "|".intercalate (base :: segments) ++ "\x7d\x7d"

theorem toList_pipelineText (base : String) (segments : List String) :
    (pipelineText base segments).toList =
      Token.marker (Text.joinWith ['|'] ((base :: segments).map String.toList)) := by
  have openBraces : "\x7b\x7b".toList = ['{', '{'] := rfl
  have closeBraces : "\x7d\x7d".toList = ['}', '}'] := rfl
  have bar : "|".toList = ['|'] := rfl
  simp [pipelineText, openBraces, closeBraces, bar, Token.marker, String.toList_intercalate,
    List.intercalate, Text.joinWith]

namespace Renderer
variable {State : Type}

/-- **A pipeline is a left fold.** Let the pieces of a pipeline have closed quotes, no bar outside
them and no closing brace, and let its base be none of a block marker and no call of a function
that is not registered. The pipeline has a run, and whatever run it has, it prints the display
form of the last value of that run, and leaves its trace and its state. So does every render that
comes to the pipeline. The trace counts one unknown formatter for each step that names none that
is registered, and no other warning. -/
theorem renderText_pipeline (renderer : Renderer State) {base : String} {segments : List String}
    (nonempty : segments ≠ []) (pieces : ∀ piece ∈ base :: segments, PipeStep.IsPiece piece.toList)
    (noOpener : (Text.trimmed base).head? ≠ some '#') (noCloser : (Text.trimmed base).head? ≠ some '/')
    (callable : ∀ call, Call.read? (Text.trimmed base) = some call →
      (Dict.find? (String.ofList call.name) renderer.tools.functions).isSome = true)
    (context : Context) (state : State) :
    (∃ steps final trace last, renderer.tools.Pipeline context base.toList
        (segments.map String.toList) state steps final trace last) ∧
      ∀ steps final trace last, renderer.tools.Pipeline context base.toList
          (segments.map String.toList) state steps final trace last →
        let shown := String.ofList (Value.display (some final))
        renderer.renderText context (pipelineText base segments) state =
            ⟨renderer.finish shown, trace.toArray, last⟩ ∧
          (∀ progress : Progress State, progress.state = state →
            renderer.tools.renderNodes context
                (Node.ofSource (pipelineText base segments).toList) progress =
              progress.follow ⟨shown, trace.toArray, last⟩) ∧
          ∀ tally : Tally, tally.countEvents trace.toArray =
            { tally with
              unknownFormatter := tally.unknownFormatter + steps.countP renderer.tools.lacks } := by
  constructor
  · have closed : ∀ segment ∈ segments.map String.toList, Text.openQuote segment = none := by
      intro segment listed
      obtain ⟨text, inside, rfl⟩ := List.mem_map.mp listed
      exact (pieces text (List.mem_cons_of_mem base inside)).closed
    obtain ⟨value, calls, after, evaluates⟩ :=
      Toolbox.exists_evaluates renderer.tools context (Text.trimmed base) state callable
    obtain ⟨steps, written⟩ := PipeStep.exists_steps closed
    obtain ⟨final, events, last, chain⟩ := Toolbox.exists_chain renderer.tools context steps value after
    exact ⟨steps, final, _, last, .intro evaluates written chain⟩
  · intro steps final trace last run shown
    cases segments with
    | nil => exact absurd rfl nonempty
    | cons segment segments =>
        have listed : ∀ piece ∈ base.toList :: segment.toList :: segments.map String.toList,
            PipeStep.IsPiece piece := by
          intro piece inside
          rw [← List.map_cons, ← List.map_cons, List.mem_map] at inside
          obtain ⟨text, member, rfl⟩ := inside
          exact pieces text member
        have rendered : ∀ progress : Progress State, progress.state = state →
            renderer.tools.renderNodes context
                (Node.ofSource (pipelineText base (segment :: segments)).toList) progress =
              progress.follow ⟨shown, trace.toArray, last⟩ := by
          rintro progress rfl
          rw [toList_pipelineText]
          exact Toolbox.renderNodes_pipeline listed noOpener noCloser progress run
        refine ⟨?_, rendered, run.countEvents⟩
        unfold renderText Toolbox.renderSource
        rw [rendered (Progress.start state) rfl, Progress.start_follow]

end Renderer
/-! ## A call and five segments -/

namespace Renderer.Example

def pipelineBase : String := " list(\"a|b\", 2) "

/-- A step with three arguments, one that is not registered, two without a name, and a step
without arguments. -/
def pipelineSegments : List String := [" join:'x:y':true: a word ", " gone:1 ", "  ", " :7 ", " join "]

/-- What the base gives. -/
def pipelineValue : Value := .array [.string "a|b", .int 2]

/-- What the base and the first step give. -/
def pipelineJoined : Value := .array [pipelineValue, .string "x:y", .bool true, .string "a word"]

def pipelineSteps : List PipeStep := [
  ⟨"join".toList, [.string "x:y", .bool true, .string "a word"]⟩, ⟨"gone".toList, [.int 1]⟩,
  ⟨[], []⟩, ⟨[], [.int 7]⟩, ⟨"join".toList, []⟩]

def pipelineTrace : List Event := [
  .called "list".toList [.string "a|b", .int 2],
  .applied "join".toList pipelineValue [.string "x:y", .bool true, .string "a word"],
  .warned .unknownFormatter, .applied "join".toList pipelineJoined []]

theorem join_registered : Dict.find? "join" showingRenderer.tools.formatters = some joined :=
  Dict.find?_insert_self ..

theorem list_registered : Dict.find? "list" showingRenderer.tools.functions = some listed :=
  Dict.find?_insert_self ..

theorem pipelineCall_read :
    Call.read? (Text.trim pipelineBase.toList) = some ⟨"list".toList, ["\"a|b\"".toList, "2".toList]⟩ := by
  decide +kernel

theorem pipelineSteps_written :
    List.Forall₂ PipeStep.Writes (pipelineSegments.map String.toList) pipelineSteps := by
  refine .cons ?_ (.cons ?_ (.cons ?_ (.cons ?_ (.cons ?_ .nil))))
  · exact .of_cut (by decide) (by rfl : _ = [" join".toList, "'x:y'".toList, "true".toList, " a word ".toList]) rfl
  · exact .of_cut (by decide) (by rfl : _ = [" gone".toList, "1 ".toList]) rfl
  · exact .of_cut (by decide) (by rfl : _ = ["  ".toList]) rfl
  · exact .of_cut (by decide) (by rfl : _ = [" ".toList, "7 ".toList]) rfl
  · exact .of_cut (by decide) (by rfl : _ = [" join ".toList]) rfl

theorem pipeline_run :
    showingRenderer.tools.Pipeline syntaxContext pipelineBase.toList
      (pipelineSegments.map String.toList) () pipelineSteps (.array [pipelineJoined]) pipelineTrace () := by
  have gone : Dict.find? "gone" showingRenderer.tools.formatters = none := by decide +kernel
  have evaluated : showingRenderer.tools.Evaluates syntaxContext (Text.trim pipelineBase.toList) () _ _ _ :=
    .call pipelineCall_read list_registered
  refine .intro evaluated pipelineSteps_written ?_
  refine .applied (by decide) join_registered (.unknown (by decide) gone (.nameless rfl (.nameless rfl ?_)))
  exact .applied (by decide) join_registered (.done _ _)

theorem renderText_pipeline_joined :
    pipelineSegments ≠ [] ∧
      (∀ piece ∈ pipelineBase :: pipelineSegments, PipeStep.IsPiece piece.toList) ∧
      (Text.trimmed pipelineBase).head? ≠ some '#' ∧ (Text.trimmed pipelineBase).head? ≠ some '/' ∧
      (∀ call, Call.read? (Text.trimmed pipelineBase) = some call →
        (Dict.find? (String.ofList call.name) showingRenderer.tools.functions).isSome = true) ∧
      showingRenderer.renderText syntaxContext (pipelineText pipelineBase pipelineSegments) () =
        ⟨"[[[\"a|b\",2],\"x:y\",true,\"a word\"]]", pipelineTrace.toArray, ()⟩ := by
  have nonempty : pipelineSegments ≠ [] := List.cons_ne_nil _ _
  have pieces : ∀ piece ∈ pipelineBase :: pipelineSegments, PipeStep.IsPiece piece.toList := by
    have each : ∀ piece ∈ pipelineBase :: pipelineSegments, Text.openQuote piece.toList = none ∧
        '|' ∉ Text.outside piece.toList ∧ '}' ∉ piece.toList := by
      decide
    exact fun piece listed => ⟨(each piece listed).1, (each piece listed).2.1, (each piece listed).2.2⟩
  have noOpener : (Text.trimmed pipelineBase).head? ≠ some '#' := by decide
  have noCloser : (Text.trimmed pipelineBase).head? ≠ some '/' := by decide
  have callable : ∀ call, Call.read? (Text.trimmed pipelineBase) = some call →
      (Dict.find? (String.ofList call.name) showingRenderer.tools.functions).isSome = true := by
    intro call found
    rw [Text.trimmed, pipelineCall_read] at found
    cases found
    exact Option.isSome_iff_exists.mpr ⟨_, list_registered⟩
  refine ⟨nonempty, pieces, noOpener, noCloser, callable, ?_⟩
  have rendered := (renderText_pipeline showingRenderer nonempty pieces noOpener noCloser callable
    syntaxContext ()).2 _ _ _ _ pipeline_run
  rw [rendered.1]
  rfl

end Renderer.Example
end Herald
