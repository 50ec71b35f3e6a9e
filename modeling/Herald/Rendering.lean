/- Rendering a tree.

Rendering writes text and leaves a trace: every function call, every formatter application
and every warning, in the order in which they happen. Nothing in a template makes it fail. An
unknown function leaves its placeholder as it stands, or null at the head of a pipeline; an
unknown formatter leaves the value alone; a malformed condition is false. Only the branches taken
are looked at. (Tools without an answer are the concern of Attempt: here every use of a tool has
a value.) -/
import Herald.Call
import Herald.Condition
import Herald.Node
import Herald.Toolbox
namespace Herald
set_option autoImplicit false

/-- The problems of a template that are worth a warning. -/
inductive Warning where
  | unknownFormatter
  | unknownFunction
  | malformedCondition
  deriving DecidableEq, Repr

/-- A trace entry. -/
inductive Event where
  | warned (warning : Warning)
  | called (function : List Char) (arguments : List Value)
  | applied (formatter : List Char) (value : Value) (arguments : List Value)

/-- A render under way: the text written, the trace, and the state of the surrounding
program. -/
structure Progress (State : Type) where
  text : String
  events : Array Event
  state : State

namespace Progress
variable {State : Type}

/-- A render that begins. -/
def start (state : State) : Progress State := ⟨"", #[], state⟩

/-- The render with more text. -/
def write (progress : Progress State) (text : List Char) : Progress State :=
  { progress with text := progress.text ++ String.ofList text }

/-- The render with one more trace entry. -/
def record (progress : Progress State) (event : Event) : Progress State :=
  { progress with events := progress.events.push event }

end Progress

/-- A step of a pipeline: a formatter's name and its argument values. -/
structure PipeStep where
  name : List Char
  arguments : List Value

namespace PipeStep

/-- The value of a step's argument: of the literal that it is, or its own text. -/
def argumentValue (text : List Char) : Value :=
  match Literal.read? text with
  | some literal => literal.toValue?.getD .null
  | none => .ofChars text

/-- The step that a pipeline segment writes out, its parts between colons outside quotes;
none where the name is blank. -/
def read? (segment : List Char) : Option PipeStep :=
  match Text.splitOutside ':' segment with
  | [] => none
  | name :: arguments => if name.isEmpty then none else some ⟨name, arguments.map argumentValue⟩

end PipeStep

namespace Toolbox
variable {State : Type}

/-- The outcome of an expression without formatters. -/
inductive Outcome where
  | unknownFunction
  | result (value : Option Value)

/-- Evaluates a call, a literal or a path. -/
def evaluate (tools : Toolbox State) (context : Context) (source : List Char)
    (progress : Progress State) : Outcome × Progress State :=
  match Call.read? source with
  | none => (.result (context.operand? source), progress)
  | some call =>
    match Dict.find? (String.ofList call.name) tools.functions with
    | none => (.unknownFunction, progress.record (.warned .unknownFunction))
    | some function =>
      let arguments := call.values context
      let (value, state) := function arguments context progress.state
      (.result (some value), { progress with state := state }.record (.called call.name arguments))

/-- Applies the step that a pipeline segment writes out to a value. -/
def applySegment (tools : Toolbox State) (context : Context) (current : Value × Progress State)
    (segment : List Char) : Value × Progress State :=
  match PipeStep.read? segment with
  | none => current
  | some step =>
    match Dict.find? (String.ofList step.name) tools.formatters with
    | none => (current.1, current.2.record (.warned .unknownFormatter))
    | some formatter =>
      let (value, state) := formatter current.1 step.arguments context current.2.state
      (value, { current.2 with state := state }.record (.applied step.name current.1 step.arguments))

/-- The value at the head of a pipeline. -/
def Outcome.orNull : Outcome → Value
  | .unknownFunction => .null
  | .result value => value.getD .null

/-- Writes a double-brace placeholder: an expression, or a pipeline of an expression and
formatters. -/
def writeExpression (tools : Toolbox State) (context : Context) (source raw : List Char)
    (progress : Progress State) : Progress State :=
  match Text.splitOutside '|' source with
  | head :: segment :: segments =>
    let (outcome, progress) := tools.evaluate context head progress
    let (value, progress) :=
      (segment :: segments).foldl (tools.applySegment context) (outcome.orNull, progress)
    progress.write (Value.display (some value))
  | _ =>
    match tools.evaluate context source progress with
    | (.result value, progress) => progress.write (Value.display value)
    | (.unknownFunction, progress) => progress.write raw

/-- Writes a placeholder. One in single braces is a path, and stays as it is where the path
leads nowhere. -/
def writePlaceholder (tools : Toolbox State) (context : Context) (source : List Char)
    (braces : Braces) (raw : List Char) (progress : Progress State) : Progress State :=
  match braces with
  | .single =>
    match context.resolve? source with
    | some value => progress.write (Value.display (some value))
    | none => progress.write raw
  | .double => tools.writeExpression context source raw progress

/-- Decides a condition; a malformed one leaves a warning. -/
def decideCondition (context : Context) (text : List Char) (progress : Progress State) :
    Bool × Progress State :=
  let condition := Condition.read text
  (condition.holds context,
    if condition.isMalformed then progress.record (.warned .malformedCondition) else progress)

/-- The items that an each-block goes through: those of the array at its path. -/
def loopItems (context : Context) (path : List Char) : List Value :=
  match context.resolve? path with
  | some (.array items) => items
  | _ => []

mutual
/-- Renders a node. -/
def renderNode (tools : Toolbox State) (context : Context) :
    Node → Progress State → Progress State
  | .text raw, progress => progress.write raw
  | .placeholder source braces raw, progress => tools.writePlaceholder context source braces raw progress
  | .block .each argument body otherwise, progress =>
    let items := loopItems context argument
    let count := items.length
    if items.isEmpty then renderBranch tools context otherwise progress
    else items.zipIdx.foldl (fun progress (item, index) =>
      renderNodes tools (context.inLoop item index count) body progress) progress
  | .block .whenTrue argument body otherwise, progress =>
    let (holds, progress) := decideCondition context argument progress
    if holds then renderNodes tools context body progress
    else renderBranch tools context otherwise progress
  | .block .whenFalse argument body otherwise, progress =>
    let (holds, progress) := decideCondition context argument progress
    if holds then renderBranch tools context otherwise progress
    else renderNodes tools context body progress

/-- Renders nodes one after another. -/
def renderNodes (tools : Toolbox State) (context : Context) :
    List Node → Progress State → Progress State
  | [], progress => progress
  | node :: rest, progress => renderNodes tools context rest (renderNode tools context node progress)

/-- Renders an otherwise-branch, if there is one. -/
def renderBranch (tools : Toolbox State) (context : Context) :
    Option (List Node) → Progress State → Progress State
  | none, progress => progress
  | some nodes, progress => renderNodes tools context nodes progress
end

/-- Renders a template source. -/
def renderSource (tools : Toolbox State) (context : Context) (source : List Char)
    (state : State) : Progress State :=
  renderNodes tools context (Node.ofSource source) (Progress.start state)

end Toolbox
end Herald
