/- What blocks mean.

Rendering self-contained sources one after another is rendering each of them in turn
(`Toolbox.renderSource_append`), and rendering a block around them is rendering the branch
that its condition or its items choose, in the outer context or in that of the loop
(`Toolbox.renderSource_block`). What is written, what is recorded and what the state becomes
are those of the parts in order, so nothing of a branch not taken is looked at. -/
import Herald.Proofs.Rendering
import Herald.Proofs.SelfContained
import Herald.Renderer
namespace Herald
set_option autoImplicit false

theorem Condition.read_trim (text : List Char) : read (Text.trim text) = read text := by
  rw [read, Text.trim_trim, ← read]

theorem Context.resolve_trim (context : Context) (path : List Char) :
    context.resolve? (Text.trim path) = context.resolve? path := by
  simp only [resolve?, Text.trim_trim]

/-- A render followed by another one, which begins in the state in which the first ends. -/
def Progress.andThen {State : Type} (first : Progress State) (second : State → Progress State) :
    Progress State :=
  first.follow (second first.state)

@[simp] theorem Progress.start_andThen {State : Type} (state : State) (second : State → Progress State) :
    (Progress.start state).andThen second = second state :=
  Progress.start_follow state (second state)

/-- Renders for each item of a loop in turn, each in the context of its turn. -/
def Context.eachTurn {State : Type} (context : Context) (items : List Value)
    (render : Context → State → Progress State) (state : State) : Progress State :=
  items.zipIdx.foldl (fun progress (item, index) =>
    progress.andThen (render (context.inLoop item index items.length))) (Progress.start state)

namespace Toolbox
variable {State : Type} (tools : Toolbox State) (context : Context)

/-! ## Sources one after another -/

/-- The nodes of a self-contained source render as the source. -/
theorem renderNodes_ofSource {source : List Char} (own : SelfContained source)
    (progress : Progress State) :
    tools.renderNodes context (Token.nodes (Token.ofSource source)) progress =
      progress.andThen (tools.renderSource context source) := by
  rw [renderNodes_eq_follow, Progress.andThen, renderSource, Node.ofSource_nested own,
    renderNodes_mergeTexts]

theorem renderSource_append {first second : List Char} (firstOwn : SelfContained first)
    (secondOwn : SelfContained second) (state : State) :
    tools.renderSource context (first ++ second) state =
      (tools.renderSource context first state).andThen (tools.renderSource context second) := by
  rw [renderSource, (Node.ofSource_append firstOwn secondOwn).2, renderNodes_mergeTexts,
    renderNodes_append, renderNodes_ofSource tools context firstOwn,
    renderNodes_ofSource tools context secondOwn, Progress.start_andThen]

/-! ## Blocks -/

theorem decideCondition_trim (text : List Char) (progress : Progress State) :
    decideCondition context (Text.trim text) progress = decideCondition context text progress := by
  simp only [decideCondition, Condition.read_trim]

theorem loopItems_trim (path : List Char) :
    loopItems context (Text.trim path) = loopItems context path := by
  simp only [loopItems, Context.resolve_trim]

/-- The parts of a block that are rendered, by what its argument says. -/
def renderChoice (kind : BlockKind) (argument first second : List Char) (state : State) :
    Progress State :=
  match kind with
  | .whenTrue =>
    let (holds, progress) := decideCondition context argument (Progress.start state)
    progress.andThen (tools.renderSource context (if holds then first else second))
  | .whenFalse =>
    let (holds, progress) := decideCondition context argument (Progress.start state)
    progress.andThen (tools.renderSource context (if holds then second else first))
  | .each =>
    match loopItems context argument with
    | [] => tools.renderSource context second state
    | item :: rest => context.eachTurn (item :: rest) (tools.renderSource · first) state

theorem renderNode_block {first second : List Char} (firstOwn : SelfContained first)
    (secondOwn : SelfContained second) (kind : BlockKind) (argument : List Char) (state : State) :
    tools.renderNode context (.block kind (Text.trim argument) (Token.nodes (Token.ofSource first))
        (some (Token.nodes (Token.ofSource second)))) (Progress.start state) =
      tools.renderChoice context kind argument first second state := by
  cases kind with
  | whenTrue =>
      simp only [renderNode, renderChoice, decideCondition_trim]
      obtain ⟨holds, progress⟩ := decideCondition context argument (Progress.start state)
      cases holds with
      | true => exact renderNodes_ofSource tools context firstOwn progress
      | false => exact renderNodes_ofSource tools context secondOwn progress
  | whenFalse =>
      simp only [renderNode, renderChoice, decideCondition_trim]
      obtain ⟨holds, progress⟩ := decideCondition context argument (Progress.start state)
      cases holds with
      | true => exact renderNodes_ofSource tools context secondOwn progress
      | false => exact renderNodes_ofSource tools context firstOwn progress
  | each =>
      simp only [renderNode, renderChoice, loopItems_trim]
      cases loopItems context argument with
      | nil => simp [renderBranch, renderNodes_ofSource tools context secondOwn]
      | cons item rest =>
          simp only [Context.eachTurn, renderNodes_ofSource tools _ firstOwn]
          rfl

/-- **A block renders the parts that its argument chooses**, and then what is behind it. -/
theorem renderSource_block {first second third argument : List Char}
    (firstOwn : SelfContained first) (secondOwn : SelfContained second)
    (thirdOwn : SelfContained third) (closed : '}' ∉ argument) (kind : BlockKind) (state : State) :
    tools.renderSource context (blockSource kind argument first second ++ third) state =
      (tools.renderChoice context kind argument first second state).andThen
        (tools.renderSource context third) := by
  rw [renderSource, Node.ofSource_block firstOwn secondOwn thirdOwn closed, renderNodes_mergeTexts,
    renderNodes, renderNode_block tools context firstOwn secondOwn,
    renderNodes_ofSource tools context thirdOwn]

/-- A block with nothing behind it. -/
theorem renderSource_lastBlock {first second argument : List Char} (firstOwn : SelfContained first)
    (secondOwn : SelfContained second) (closed : '}' ∉ argument) (kind : BlockKind) (state : State) :
    tools.renderSource context (blockSource kind argument first second) state =
      tools.renderChoice context kind argument first second state := by
  have nothing : SelfContained [] := by decide +kernel
  have split := tools.renderSource_block context firstOwn secondOwn nothing closed kind state
  have ending : tools.renderSource context [] = Progress.start := by
    funext state
    rw [renderSource, Node.ofSource, Token.ofSource_nil]
    rfl
  rwa [List.append_nil, ending, Progress.andThen, Progress.follow_start] at split

end Toolbox

/-! ## The texts of a renderer -/

/-- A block as it is written: its opener, a text, an otherwise-marker, another text, its
closer. -/
def blockText (kind : BlockKind) (argument first second : String) : String :=
  "\x7b\x7b#" ++ kind.keyword ++ " " ++ argument ++ "\x7d\x7d" ++ first ++
    "\x7b\x7belse\x7d\x7d" ++ second ++ "\x7b\x7b/" ++ kind.keyword ++ "\x7d\x7d"

theorem toList_blockText (kind : BlockKind) (argument first second : String) :
    (blockText kind argument first second).toList =
      blockSource kind argument.toList first.toList second.toList := by
  have openBraces : "\x7b\x7b#".toList = ['{', '{', '#'] := rfl
  have blank : " ".toList = [' '] := rfl
  have closeBraces : "\x7d\x7d".toList = ['}', '}'] := rfl
  have divider : "\x7b\x7belse\x7d\x7d".toList = Token.marker "else".toList := rfl
  have slash : "\x7b\x7b/".toList = ['{', '{', '/'] := rfl
  -- The equation of `blockText` is slow to find: it is checked by running the joins.
  delta blockText
  simp only [String.toList_append, openBraces, blank, closeBraces, divider, slash]
  simp only [blockSource, Token.marker, Token.openerInside, Token.closerInside, List.append_assoc,
    List.cons_append, List.nil_append]

namespace Renderer
variable {State : Type}

theorem renderText_raw (renderer : Renderer State) (raw : renderer.config.normalizeWhitespace = false)
    (context : Context) (source : String) :
    renderer.renderText context source = renderer.tools.renderSource context source.toList := by
  funext state
  simp [renderText, finish, raw]

/-- **What blocks mean.** Without whitespace normalization, sources one after another render
one after another. An if-block renders its first source if its condition holds and its second
one if not, an unless-block as the if-block with the two exchanged. An each-block renders its
first source once for every item of a nonempty array, in the context of that item's turn, and
its second one in the outer context otherwise. What is behind a block is rendered in the
outer context, from the state in which the block ended. -/
theorem renderText_blocks (renderer : Renderer State)
    (raw : renderer.config.normalizeWhitespace = false) {first second third : String}
    (firstOwn : SelfContained first.toList) (secondOwn : SelfContained second.toList)
    (thirdOwn : SelfContained third.toList) {condition path : String}
    (conditionClosed : '}' ∉ condition.toList) (pathClosed : '}' ∉ path.toList)
    (context : Context) (state : State) :
    renderer.renderText context (first ++ third) state =
        (renderer.renderText context first state).andThen (renderer.renderText context third) ∧
      renderer.renderText context (blockText .whenTrue condition first second ++ third) state =
        (let (holds, progress) :=
          Toolbox.decideCondition context condition.toList (Progress.start state)
        (progress.andThen (renderer.renderText context (if holds then first else second))).andThen
          (renderer.renderText context third)) ∧
      renderer.renderText context (blockText .whenFalse condition first second) state =
        renderer.renderText context (blockText .whenTrue condition second first) state ∧
      renderer.renderText context (blockText .each path first second ++ third) state =
        (match context.resolve? path.toList with
          | some (.array (item :: rest)) =>
            context.eachTurn (item :: rest) (renderer.renderText · first) state
          | _ => renderer.renderText context second state).andThen
          (renderer.renderText context third) := by
  have block : ∀ (kind : BlockKind) (argument first second third : String),
      SelfContained first.toList → SelfContained second.toList → SelfContained third.toList →
      '}' ∉ argument.toList →
      renderer.renderText context (blockText kind argument first second ++ third) state =
        (renderer.tools.renderChoice context kind argument.toList first.toList second.toList
          state).andThen (renderer.renderText context third) := by
    intro kind argument first second third firstOwn secondOwn thirdOwn closed
    simp only [renderText_raw renderer raw, String.toList_append, toList_blockText]
    exact Toolbox.renderSource_block _ context firstOwn secondOwn thirdOwn closed kind state
  refine ⟨?_, ?_, ?_, ?_⟩
  · simp only [renderText_raw renderer raw, String.toList_append]
    exact Toolbox.renderSource_append _ context firstOwn thirdOwn state
  · rw [block .whenTrue condition first second third firstOwn secondOwn thirdOwn conditionClosed]
    simp only [Toolbox.renderChoice, renderText_raw renderer raw]
    obtain ⟨holds, progress⟩ :=
      Toolbox.decideCondition context condition.toList (Progress.start state)
    cases holds <;> rfl
  · have nothing : SelfContained "".toList := by decide +kernel
    have whenFalse := block .whenFalse condition first second "" firstOwn secondOwn nothing conditionClosed
    have whenTrue := block .whenTrue condition second first "" secondOwn firstOwn nothing conditionClosed
    rw [String.append_empty] at whenFalse whenTrue
    rw [whenFalse, whenTrue]
    rfl
  · rw [block .each path first second third firstOwn secondOwn thirdOwn pathClosed]
    simp only [Toolbox.renderChoice, Toolbox.loopItems, renderText_raw renderer raw]
    generalize context.resolve? path.toList = found
    cases found with
    | none => rfl
    | some value =>
        cases value with
        | array items => cases items <;> rfl
        | _ => rfl

end Renderer

/-! ## A list of names -/

namespace Renderer.Example

/-- A renderer that leaves white space alone. -/
def renderer : Renderer Unit := ⟨{ normalizeWhitespace := false }, Toolbox.builtins Unit⟩

def people : List Value := [.string "Ann", .string "Bo"]

def context : Context := ⟨Dict.ofList [("people", .array people)], .enUS, ⟨"UTC", 0⟩, ⟨0, 0⟩⟩

/-- A name, and a comma behind it unless it is the last one. -/
def entry : String := "\x7bthis\x7d\x7b\x7b#unless last\x7d\x7d, \x7b\x7belse\x7d\x7d.\x7b\x7b/unless\x7d\x7d"

theorem renderText_blocks_people :
    renderer.config.normalizeWhitespace = false ∧ SelfContained entry.toList ∧
      SelfContained "nobody".toList ∧ SelfContained " Bye".toList ∧
      '}' ∉ "people".toList ∧ '}' ∉ "!people".toList ∧
      renderer.renderText context (entry ++ " Bye") () =
        (renderer.renderText context entry ()).andThen (renderer.renderText context " Bye") ∧
      renderer.renderText context (blockText .whenTrue "!people" entry "nobody" ++ " Bye") () =
        (renderer.renderText context "nobody" ()).andThen (renderer.renderText context " Bye") ∧
      renderer.renderText context (blockText .whenFalse "!people" entry "nobody") () =
        renderer.renderText context (blockText .whenTrue "!people" "nobody" entry) () ∧
      renderer.renderText context (blockText .each "people" entry "nobody" ++ " Bye") () =
        (context.eachTurn people (renderer.renderText · entry) ()).andThen
          (renderer.renderText context " Bye") := by
  have entryOwn : SelfContained entry.toList := by decide +kernel
  have nobodyOwn : SelfContained "nobody".toList := by decide +kernel
  have byeOwn : SelfContained " Bye".toList := by decide +kernel
  have pathClosed : '}' ∉ "people".toList := by decide
  have conditionClosed : '}' ∉ "!people".toList := by decide
  obtain ⟨appended, whenTrue, whenFalse, each⟩ := renderText_blocks renderer rfl entryOwn nobodyOwn byeOwn
    conditionClosed pathClosed context ()
  refine ⟨rfl, entryOwn, nobodyOwn, byeOwn, pathClosed, conditionClosed, appended, ?_, whenFalse, each⟩
  have decided : Toolbox.decideCondition context "!people".toList (Progress.start ()) =
      (false, Progress.start ()) := by
    have holds : (Condition.read "!people".toList).holds context = false := by decide +kernel
    have malformed : (Condition.read "!people".toList).isMalformed = false := by decide +kernel
    simp only [Toolbox.decideCondition, holds, malformed, Bool.false_eq_true, if_false]
  rw [whenTrue, decided]
  simp only [Bool.false_eq_true, if_false, Progress.start_andThen]

end Renderer.Example
end Herald
