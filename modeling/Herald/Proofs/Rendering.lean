/- How renders compose.

A render only appends: what it writes and records, and the state it ends in, depend on the
state it begins in and on nothing written before it (`renderNodes_follow`). So the render of
nodes one after another is that of the first followed by that of the rest
(`renderNodes_append`), and joining neighbouring texts changes nothing
(`renderNodes_mergeTexts`).

A render sees the surrounding state through its tools only. So toolboxes over two kinds of state
render alike if, in related states, their tools do (`renderNodes_related`); and of one toolbox it
follows that a render keeps what every tool keeps (`Keeps.matched`). A toolbox is pure when its
functions and formatters look at their arguments and the context only; it keeps the state as it
is. -/
import Herald.Builtins
import Herald.Rendering
namespace Herald
set_option autoImplicit false

namespace Progress
variable {State : Type}

/-! ## One render followed by another -/

/-- What two renders give together, the second begun in the state in which the first
ended. -/
def follow (first second : Progress State) : Progress State :=
  ⟨first.text ++ second.text, first.events ++ second.events, second.state⟩

@[simp] theorem follow_state (first second : Progress State) :
    (first.follow second).state = second.state := rfl

@[simp] theorem start_follow (state : State) (second : Progress State) :
    (start state).follow second = second := by
  simp [follow, start]

@[simp] theorem follow_start (first : Progress State) : first.follow (start first.state) = first := by
  simp [follow, start]

@[simp] theorem follow_write (first second : Progress State) (text : List Char) :
    (first.follow second).write text = first.follow (second.write text) := by
  simp [follow, write, String.append_assoc]

@[simp] theorem follow_record (first second : Progress State) (event : Event) :
    (first.follow second).record event = first.follow (second.record event) := by
  simp [follow, record]

theorem write_write (progress : Progress State) (first second : List Char) :
    (progress.write first).write second = progress.write (first ++ second) := by
  simp [write, String.append_assoc]

/-- Steps that only append make a run that only appends. -/
theorem foldl_follow {α : Type} {step : Progress State → α → Progress State}
    (appends : ∀ (first second : Progress State) (item : α),
      step (first.follow second) item = first.follow (step second item))
    (items : List α) (first second : Progress State) :
    items.foldl step (first.follow second) = first.follow (items.foldl step second) := by
  induction items generalizing second with
  | nil => rfl
  | cons item rest ih => rw [List.foldl_cons, List.foldl_cons, appends, ih]

/-- Two renders under way that have written and recorded the same, in related states. -/
structure Related {First Second : Type} (related : First → Second → Prop) (first : Progress First)
    (second : Progress Second) : Prop where
  text : first.text = second.text
  events : first.events = second.events
  state : related first.state second.state

namespace Related
variable {First Second : Type} {related : First → Second → Prop} {first : Progress First}
  {second : Progress Second}

theorem write (same : first.Related related second) (text : List Char) :
    (first.write text).Related related (second.write text) :=
  ⟨congrArg (· ++ String.ofList text) same.text, same.events, same.state⟩

theorem record (same : first.Related related second) (event : Event) :
    (first.record event).Related related (second.record event) :=
  ⟨same.text, congrArg (·.push event) same.events, same.state⟩

/-- A use of a tool on either side. -/
theorem used (same : first.Related related second) {state : First} {state' : Second}
    (after : related state state') (event : Event) :
    ({ first with state := state }.record event).Related related
      ({ second with state := state' }.record event) :=
  ⟨same.text, congrArg (·.push event) same.events, after⟩

end Related

end Progress

namespace Toolbox
variable {State : Type} (tools : Toolbox State) (context : Context)

/-! ## Renders only append -/

theorem evaluate_follow (source : List Char) (first second : Progress State) :
    tools.evaluate context source (first.follow second) =
      ((tools.evaluate context source second).1,
        first.follow (tools.evaluate context source second).2) := by
  simp only [evaluate]
  split
  · rfl
  · split
    · simp
    · simp [Progress.follow, Progress.record]

theorem applySegment_follow (value : Value) (segment : List Char) (first second : Progress State) :
    tools.applySegment context (value, first.follow second) segment =
      ((tools.applySegment context (value, second) segment).1,
        first.follow (tools.applySegment context (value, second) segment).2) := by
  simp only [applySegment]
  split
  · rfl
  · split
    · simp
    · simp [Progress.follow, Progress.record]

theorem applySegments_follow (segments : List (List Char)) (value : Value)
    (first second : Progress State) :
    segments.foldl (tools.applySegment context) (value, first.follow second) =
      ((segments.foldl (tools.applySegment context) (value, second)).1,
        first.follow (segments.foldl (tools.applySegment context) (value, second)).2) := by
  induction segments generalizing value second with
  | nil => rfl
  | cons segment rest ih => rw [List.foldl_cons, applySegment_follow, ih, List.foldl_cons]

theorem writeExpression_follow (source raw : List Char) (first second : Progress State) :
    tools.writeExpression context source raw (first.follow second) =
      first.follow (tools.writeExpression context source raw second) := by
  simp only [writeExpression, evaluate_follow]
  split
  · simp only [applySegments_follow, Progress.follow_write]
  · generalize tools.evaluate context source second = evaluated
    obtain ⟨outcome, progress⟩ := evaluated
    cases outcome <;> simp

theorem writePlaceholder_follow (source raw : List Char) (braces : Braces)
    (first second : Progress State) :
    tools.writePlaceholder context source braces raw (first.follow second) =
      first.follow (tools.writePlaceholder context source braces raw second) := by
  cases braces with
  | single =>
      simp only [writePlaceholder]
      split <;> rw [Progress.follow_write]
  | double => exact tools.writeExpression_follow context source raw first second

theorem decideCondition_follow (text : List Char) (first second : Progress State) :
    decideCondition context text (first.follow second) =
      ((decideCondition context text second).1,
        first.follow (decideCondition context text second).2) := by
  simp only [decideCondition]
  split <;> simp

mutual
theorem renderNode_follow (context : Context) (node : Node) (first second : Progress State) :
    tools.renderNode context node (first.follow second) =
      first.follow (tools.renderNode context node second) := by
  match node with
  | .text raw => simp only [renderNode, Progress.follow_write]
  | .placeholder source braces raw =>
      simp only [renderNode, writePlaceholder_follow]
  | .block .each argument body otherwise =>
      simp only [renderNode]
      split
      · exact renderBranch_follow context otherwise first second
      · exact Progress.foldl_follow (fun first second (item, index) =>
          renderNodes_follow _ body first second) _ first second
  | .block .whenTrue argument body otherwise =>
      simp only [renderNode, decideCondition_follow]
      split
      · exact renderNodes_follow context body first _
      · exact renderBranch_follow context otherwise first _
  | .block .whenFalse argument body otherwise =>
      simp only [renderNode, decideCondition_follow]
      split
      · exact renderBranch_follow context otherwise first _
      · exact renderNodes_follow context body first _

/-- **Rendering only appends**: it neither reads nor changes what was written before it. -/
theorem renderNodes_follow (context : Context) (nodes : List Node) (first second : Progress State) :
    tools.renderNodes context nodes (first.follow second) =
      first.follow (tools.renderNodes context nodes second) := by
  match nodes with
  | [] => rfl
  | node :: rest =>
      simp only [renderNodes]
      rw [renderNode_follow context node first second]
      exact renderNodes_follow context rest first _

theorem renderBranch_follow (context : Context) (branch : Option (List Node))
    (first second : Progress State) :
    tools.renderBranch context branch (first.follow second) =
      first.follow (tools.renderBranch context branch second) := by
  match branch with
  | none => rfl
  | some nodes =>
      simp only [renderBranch]
      exact renderNodes_follow context nodes first second
end

/-- A render from anywhere is what came before, followed by the render on its own. -/
theorem renderNodes_eq_follow (nodes : List Node) (progress : Progress State) :
    tools.renderNodes context nodes progress =
      progress.follow (tools.renderNodes context nodes (Progress.start progress.state)) := by
  rw [← renderNodes_follow, Progress.follow_start]

/-! ## Nodes one after another -/

theorem renderNodes_append (first second : List Node) (progress : Progress State) :
    tools.renderNodes context (first ++ second) progress =
      tools.renderNodes context second (tools.renderNodes context first progress) := by
  induction first generalizing progress with
  | nil => simp [renderNodes]
  | cons node rest ih => simp only [List.cons_append, renderNodes, ih]

/-- Neighbouring texts render as one. -/
theorem renderNodes_mergeTexts (nodes : List Node) (progress : Progress State) :
    tools.renderNodes context (Node.mergeTexts nodes) progress =
      tools.renderNodes context nodes progress := by
  induction nodes generalizing progress with
  | nil => rfl
  | cons node rest ih =>
      simp only [Node.mergeTexts, List.foldr_cons] at ih ⊢
      split
      · rename_i raw next more joined
        simp only [renderNodes, renderNode, ← ih, joined, Progress.write_write]
      · simp only [renderNodes, ih]

/-! ## Matching toolboxes -/

/-- Two toolboxes know the same names, and what these stand for gives, in related states, the same
values and related states. -/
structure Matched {First Second : Type} (related : First → Second → Prop) (tools : Toolbox First)
    (others : Toolbox Second) : Prop where
  functions : ∀ name, Option.Rel (fun function other => ∀ arguments context state state',
      related state state' →
        (function arguments context state).1 = (other arguments context state').1 ∧
          related (function arguments context state).2 (other arguments context state').2)
    (Dict.find? name tools.functions) (Dict.find? name others.functions)
  formatters : ∀ name, Option.Rel (fun formatter other => ∀ value arguments context state state',
      related state state' →
        (formatter value arguments context state).1 = (other value arguments context state').1 ∧
          related (formatter value arguments context state).2 (other value arguments context state').2)
    (Dict.find? name tools.formatters) (Dict.find? name others.formatters)

section Matched
variable {First Second : Type} {related : First → Second → Prop} {tools : Toolbox First}
  {others : Toolbox Second} {first : Progress First} {second : Progress Second}

theorem evaluate_related (matched : Matched related tools others) (context : Context)
    (source : List Char) (same : first.Related related second) :
    (tools.evaluate context source first).1 = (others.evaluate context source second).1 ∧
      (tools.evaluate context source first).2.Related related
        (others.evaluate context source second).2 := by
  simp only [evaluate]
  split
  · exact ⟨rfl, same⟩
  · rename_i call read
    have known := matched.functions (String.ofList call.name)
    generalize Dict.find? (String.ofList call.name) tools.functions = function at known ⊢
    generalize Dict.find? (String.ofList call.name) others.functions = other at known ⊢
    cases known with
    | none => exact ⟨rfl, same.record _⟩
    | some alike =>
        obtain ⟨value, state⟩ := alike (call.values context) context _ _ same.state
        exact ⟨congrArg (Outcome.result ∘ some) value, same.used state _⟩

theorem applySegment_related (matched : Matched related tools others) (context : Context)
    (segment : List Char) {value : Value} (same : first.Related related second) :
    (tools.applySegment context (value, first) segment).1 =
        (others.applySegment context (value, second) segment).1 ∧
      (tools.applySegment context (value, first) segment).2.Related related
        (others.applySegment context (value, second) segment).2 := by
  simp only [applySegment]
  split
  · exact ⟨rfl, same⟩
  · rename_i step read
    have known := matched.formatters (String.ofList step.name)
    generalize Dict.find? (String.ofList step.name) tools.formatters = formatter at known ⊢
    generalize Dict.find? (String.ofList step.name) others.formatters = other at known ⊢
    cases known with
    | none => exact ⟨rfl, same.record _⟩
    | some alike =>
        obtain ⟨changed, state⟩ := alike value step.arguments context _ _ same.state
        exact ⟨changed, same.used state _⟩

theorem applySegments_related (matched : Matched related tools others) (context : Context)
    (segments : List (List Char)) (value : Value) (same : first.Related related second) :
    (segments.foldl (tools.applySegment context) (value, first)).1 =
        (segments.foldl (others.applySegment context) (value, second)).1 ∧
      (segments.foldl (tools.applySegment context) (value, first)).2.Related related
        (segments.foldl (others.applySegment context) (value, second)).2 := by
  refine List.foldl_rel
    (r := fun (current : Value × Progress First) (other : Value × Progress Second) =>
      current.1 = other.1 ∧ current.2.Related related other.2)
    ⟨rfl, same⟩ fun segment _ current other alike => ?_
  obtain ⟨value, progress⟩ := current
  obtain ⟨value', progress'⟩ := other
  obtain ⟨rfl, same⟩ := alike
  exact applySegment_related matched context segment same

theorem writeExpression_related (matched : Matched related tools others) (context : Context)
    (source raw : List Char) (same : first.Related related second) :
    (tools.writeExpression context source raw first).Related related
      (others.writeExpression context source raw second) := by
  simp only [writeExpression]
  split
  · rename_i head segment segments split
    obtain ⟨outcome, same⟩ := evaluate_related matched context head same
    rw [outcome]
    have applied := applySegments_related matched context (segment :: segments)
      (others.evaluate context head second).1.orNull same
    rw [applied.1]
    exact applied.2.write _
  · have evaluated := evaluate_related matched context source same
    generalize tools.evaluate context source first = given at evaluated ⊢
    generalize others.evaluate context source second = given' at evaluated ⊢
    obtain ⟨outcome, progress⟩ := given
    obtain ⟨outcome', progress'⟩ := given'
    obtain ⟨rfl, same⟩ := evaluated
    cases outcome with
    | result value => exact same.write _
    | unknownFunction => exact same.write _

theorem writePlaceholder_related (matched : Matched related tools others) (context : Context)
    (source raw : List Char) (braces : Braces) (same : first.Related related second) :
    (tools.writePlaceholder context source braces raw first).Related related
      (others.writePlaceholder context source braces raw second) := by
  cases braces with
  | single =>
      simp only [writePlaceholder]
      split
      · exact same.write _
      · exact same.write _
  | double => exact writeExpression_related matched context source raw same

theorem decideCondition_related (context : Context) (text : List Char)
    (same : first.Related related second) :
    (decideCondition context text first).1 = (decideCondition context text second).1 ∧
      (decideCondition context text first).2.Related related (decideCondition context text second).2 := by
  refine ⟨rfl, ?_⟩
  simp only [decideCondition]
  split
  · exact same.record _
  · exact same

mutual
theorem renderNode_related (matched : Matched related tools others) (context : Context) (node : Node)
    {first : Progress First} {second : Progress Second} (same : first.Related related second) :
    (tools.renderNode context node first).Related related (others.renderNode context node second) := by
  match node with
  | .text raw => exact same.write raw
  | .placeholder source braces raw =>
      exact writePlaceholder_related matched context source raw braces same
  | .block .each argument body otherwise =>
      simp only [renderNode]
      split
      · exact renderBranch_related matched context otherwise same
      · exact List.foldl_rel same fun (item, index) _ _ _ same =>
          renderNodes_related matched _ body same
  | .block .whenTrue argument body otherwise =>
      obtain ⟨holds, decided⟩ := decideCondition_related context argument same
      simp only [renderNode, holds]
      split
      · exact renderNodes_related matched context body decided
      · exact renderBranch_related matched context otherwise decided
  | .block .whenFalse argument body otherwise =>
      obtain ⟨holds, decided⟩ := decideCondition_related context argument same
      simp only [renderNode, holds]
      split
      · exact renderBranch_related matched context otherwise decided
      · exact renderNodes_related matched context body decided

/-- **Matching toolboxes render alike.** -/
theorem renderNodes_related (matched : Matched related tools others) (context : Context)
    (nodes : List Node) {first : Progress First} {second : Progress Second}
    (same : first.Related related second) :
    (tools.renderNodes context nodes first).Related related (others.renderNodes context nodes second) := by
  match nodes with
  | [] => exact same
  | node :: rest =>
      exact renderNodes_related matched context rest (renderNode_related matched context node same)

theorem renderBranch_related (matched : Matched related tools others) (context : Context)
    (branch : Option (List Node)) {first : Progress First} {second : Progress Second}
    (same : first.Related related second) :
    (tools.renderBranch context branch first).Related related
      (others.renderBranch context branch second) := by
  match branch with
  | none => exact same
  | some nodes => exact renderNodes_related matched context nodes same
end

end Matched

/-! ## What every tool keeps -/

/-- Every function and formatter of a toolbox keeps a property of the state. -/
structure Keeps (kept : State → Prop) (tools : Toolbox State) : Prop where
  functions : ∀ entry ∈ tools.functions, ∀ arguments context state,
    kept state → kept (entry.2 arguments context state).2
  formatters : ∀ entry ∈ tools.formatters, ∀ value arguments context state,
    kept state → kept (entry.2 value arguments context state).2

/-- A toolbox that keeps a property matches itself. -/
theorem Keeps.matched {kept : State → Prop} {tools : Toolbox State} (keeps : Keeps kept tools) :
    Matched (fun state other => state = other ∧ kept state) tools tools where
  functions := by
    intro name
    cases found : Dict.find? name tools.functions with
    | none => exact .none
    | some function =>
        refine .some fun arguments context state other same => ?_
        obtain ⟨rfl, holds⟩ := same
        exact ⟨rfl, rfl, keeps.functions _ (Dict.mem_of_find? found) _ _ _ holds⟩
  formatters := by
    intro name
    cases found : Dict.find? name tools.formatters with
    | none => exact .none
    | some formatter =>
        refine .some fun value arguments context state other same => ?_
        obtain ⟨rfl, holds⟩ := same
        exact ⟨rfl, rfl, keeps.formatters _ (Dict.mem_of_find? found) _ _ _ _ holds⟩

/-! ## Pure toolboxes -/

/-- Every function and formatter of a toolbox depends on its arguments and the context
only. -/
structure Pure (tools : Toolbox State) : Prop where
  functions : ∀ entry ∈ tools.functions, ∃ apply, entry.2 = pureFunction apply
  formatters : ∀ entry ∈ tools.formatters, ∃ apply, entry.2 = pureFormatter apply

/-- The built-in toolbox is pure. -/
theorem builtins_pure : (builtins State).Pure where
  functions := by
    intro entry inside
    obtain ⟨given, listed, rfl⟩ := List.mem_map.mp inside
    obtain ⟨answered, -, rfl⟩ := List.mem_map.mp (Dict.mem_ofList listed)
    exact ⟨DateFunctions.ofDate answered.2, rfl⟩
  formatters := by
    intro entry inside
    simp only [builtins, Formatters.builtins] at inside
    have listed := Dict.mem_ofList inside
    simp only [List.mem_cons, List.not_mem_nil, or_false] at listed
    rcases listed with rfl | rfl | rfl | rfl | rfl | rfl | rfl | rfl | rfl | rfl <;>
      exact ⟨_, rfl⟩

/-- **A pure toolbox leaves the surrounding state alone.** -/
theorem Pure.keeps {tools : Toolbox State} (pure : tools.Pure) (state : State) :
    Keeps (fun now => now = state) tools where
  functions := by
    intro entry inside arguments context now same
    obtain ⟨apply, isPure⟩ := pure.functions entry inside
    rw [isPure]
    exact same
  formatters := by
    intro entry inside value arguments context now same
    obtain ⟨apply, isPure⟩ := pure.formatters entry inside
    rw [isPure]
    exact same

end Toolbox
end Herald
