/- Calls of functions that are not registered.

Such a call leaves one warning and calls nothing. What is written depends on where it stands
between double braces: alone it stays as it is, and at the head of a pipeline it is null, which
the steps act on like on any other value. So the call is seen in the rendered text in the first
case only (`Renderer.renderText_unknownFunction`). -/
import Herald.Proofs.Pipeline
import Herald.Proofs.Placeholder
namespace Herald
set_option autoImplicit false

/-! ## The base of an expression -/

namespace Text
variable {separator : Char} {text base : List Char} {segments : List (List Char)}

/-- A text begins as its first trimmed piece does. -/
theorem head?_trim_of_splitOutside (visible : isBlank separator = false)
    (pieces : splitOutside separator text = base :: segments) (something : base ≠ []) :
    (trim text).head? = base.head? := by
  rw [splitOutside, List.map_eq_cons_iff] at pieces
  obtain ⟨first, more, cut, rfl, -⟩ := pieces
  have whole := joinWith_cutOutside separator text
  rw [cut] at whole
  cases more with
  | nil => rw [← whole, joinWith_singleton]
  | cons second more =>
      rw [← whole, joinWith_cons_cons, List.singleton_append, head?_trim_append visible]
      exact List.head?_append_of_ne_nil _ something

/-- A single trimmed piece is the trimmed text. -/
theorem eq_trim_of_splitOutside (pieces : splitOutside separator text = [base]) : base = trim text := by
  rw [splitOutside, List.map_eq_singleton_iff] at pieces
  obtain ⟨first, cut, rfl⟩ := pieces
  have whole := joinWith_cutOutside separator text
  rw [cut, joinWith_singleton] at whole
  rw [whole]

end Text

/-- Between double braces, an expression whose base is a call is a placeholder. -/
theorem Token.ofInside_call {inside base : List Char} {segments : List (List Char)} {call : Call}
    (pieces : Text.splitOutside '|' inside = base :: segments) (called : Call.read? base = some call) :
    ofInside? inside = some (.placeholder (Text.trim inside) .double (marker inside)) := by
  have trimmed : Text.trim base = base := by
    rw [Text.splitOutside, List.map_eq_cons_iff] at pieces
    obtain ⟨first, -, -, rfl, -⟩ := pieces
    exact Text.trim_trim first
  obtain ⟨first, rest, rfl, begins⟩ := Call.exists_head_of_read? trimmed called
  have head : (Text.trim inside).head? = some first :=
    Text.head?_trim_of_splitOutside (by decide) pieces (List.cons_ne_nil _ _)
  have other : ∀ c : Char, Text.isLetter c = false → c ≠ '_' → (Text.trim inside).head? ≠ some c := by
    intro c noLetter noUnderscore same
    rw [head] at same
    obtain rfl := Option.some.inj same
    rw [noLetter] at begins
    exact noUnderscore (begins.resolve_left Bool.false_ne_true)
  refine ofInside_placeholder (other '#' (by decide) (by decide)) (other '/' (by decide) (by decide)) ?_
  intro keyword
  rw [← Text.splitOutside_trim (by decide), keyword] at pieces
  obtain ⟨word, -⟩ := List.cons.inj ((by decide : _ = ["else".toList]).symm.trans pieces)
  rw [← word] at called
  cases called

/-! ## What the call gives -/

/-- A step that is read from a segment has a name. -/
theorem PipeStep.name_ne_nil {segment : List Char} {step : PipeStep} (read : read? segment = some step) :
    step.name ≠ [] := by
  rw [read?] at read
  split at read
  · cases read
  · rename_i name arguments cut
    split at read
    · cases read
    · rename_i something
      cases read
      simpa using something

namespace Toolbox
variable {State : Type} {tools : Toolbox State} {context : Context}

/-- Folding segments over a value is the chain of the steps that are read from them. -/
theorem Chain.foldl_read {segments : List (List Char)} {value final : Value} {state last : State}
    {events : List Event}
    (chain : tools.Chain context (segments.filterMap PipeStep.read?) value state final events last)
    (recorded : Array Event) :
    segments.foldl (tools.applySegment context) (value, ⟨"", recorded, state⟩) =
      (final, ⟨"", recorded ++ events.toArray, last⟩) := by
  induction segments generalizing value state events recorded with
  | nil =>
      cases chain
      simp
  | cons segment segments ih =>
      cases read : PipeStep.read? segment with
      | none =>
          have unchanged : tools.applySegment context (value, ⟨"", recorded, state⟩) segment =
              (value, ⟨"", recorded, state⟩) := by
            simp [Toolbox.applySegment, read]
          rw [List.filterMap_cons_none read] at chain
          rw [List.foldl_cons, unchanged, ih chain]
      | some step =>
          rw [List.filterMap_cons_some read] at chain
          obtain ⟨next, now, later, between, applied, rest, rfl⟩ :=
            chain.applySegment (by rw [read, if_neg (PipeStep.name_ne_nil read)]) recorded
          rw [List.foldl_cons, applied, ih rest]
          simp

variable {inside base : List Char} {segments : List (List Char)} {call : Call}

/-- Calling a function that is not registered leaves a warning and nothing else. -/
theorem evaluate_unknownFunction (called : Call.read? base = some call)
    (unregistered : Dict.find? (String.ofList call.name) tools.functions = none)
    (progress : Progress State) :
    tools.evaluate context base progress =
      (.unknownFunction, progress.record (.warned .unknownFunction)) := by
  simp only [evaluate, called, unregistered]

/-- Alone, the call stays as it is. -/
theorem renderSource_unknownFunction (enclosed : Token.Enclosed inside)
    (pieces : Text.splitOutside '|' inside = [base]) (called : Call.read? base = some call)
    (unregistered : Dict.find? (String.ofList call.name) tools.functions = none) (state : State) :
    tools.renderSource context (Token.marker inside) state =
      ⟨String.ofList (Token.marker inside), #[.warned .unknownFunction], state⟩ := by
  rw [renderSource_placeholder tools context enclosed (Token.ofInside_call pieces called), writeExpression,
    Text.splitOutside_trim (by decide), pieces]
  simp only
  rw [← Text.eq_trim_of_splitOutside pieces, evaluate_unknownFunction called unregistered]
  simp [Progress.start, Progress.record, Progress.write]

/-- At the head of a pipeline, the call is null. -/
theorem renderSource_unknownFunction_piped (enclosed : Token.Enclosed inside)
    (pieces : Text.splitOutside '|' inside = base :: segments) (piped : segments ≠ [])
    (called : Call.read? base = some call)
    (unregistered : Dict.find? (String.ofList call.name) tools.functions = none)
    {state last : State} {final : Value} {events : List Event}
    (chain : tools.Chain context (segments.filterMap PipeStep.read?) .null state final events last) :
    tools.renderSource context (Token.marker inside) state =
      ⟨String.ofList (Value.display (some final)), (.warned .unknownFunction :: events).toArray, last⟩ := by
  rw [renderSource_placeholder tools context enclosed (Token.ofInside_call pieces called), writeExpression,
    Text.splitOutside_trim (by decide), pieces]
  cases segments with
  | nil => exact absurd rfl piped
  | cons segment segments =>
      have folded := chain.foldl_read #[.warned .unknownFunction]
      simp only [evaluate_unknownFunction called unregistered, Outcome.orNull]
      rw [Progress.record, Progress.start, List.push_toArray, List.nil_append, folded]
      simp [Progress.write]

end Toolbox

namespace Renderer
variable {State : Type}

/-- **A call of a function that is not registered leaves one warning; alone it stays as it is, and
at the head of a pipeline it is null.** Let the base between double braces be such a call. Without
a pipeline the placeholder stays as it is. In a pipeline the steps that are read from the
segments act on null, and whatever they make of it is printed: the call is not seen in the text.
The trace counts the function once, and beside it only the formatters that are not registered. -/
theorem renderText_unknownFunction (renderer : Renderer State) {inside : String}
    (enclosed : Token.Enclosed inside.toList) {base : List Char} {segments : List (List Char)}
    (pieces : Text.splitOutside '|' inside.toList = base :: segments) {call : Call}
    (called : Call.read? base = some call)
    (unregistered : Dict.find? (String.ofList call.name) renderer.tools.functions = none)
    (context : Context) (state : State) :
    (segments = [] →
      renderer.Gives context (doubleText inside) state (doubleText inside) [.warned .unknownFunction]
          state ∧
        ∀ tally : Tally, tally.countEvents #[.warned .unknownFunction] =
          { tally with unknownFunction := tally.unknownFunction + 1 }) ∧
    (segments ≠ [] →
      let steps := segments.filterMap PipeStep.read?
      (∃ final events last, renderer.tools.Chain context steps .null state final events last) ∧
        ∀ final events last, renderer.tools.Chain context steps .null state final events last →
          renderer.Gives context (doubleText inside) state (Value.shown (some final))
              (.warned .unknownFunction :: events) last ∧
            ∀ tally : Tally, tally.countEvents (.warned .unknownFunction :: events).toArray =
              { tally with
                unknownFunction := tally.unknownFunction + 1
                unknownFormatter := tally.unknownFormatter + steps.countP renderer.tools.lacks }) := by
  constructor
  · rintro rfl
    have rendered : renderer.tools.renderSource context (Token.marker inside.toList) state = _ :=
      Toolbox.renderSource_unknownFunction enclosed pieces called unregistered state
    rw [← toList_doubleText, String.ofList_toList] at rendered
    exact ⟨gives_of_renderSource rendered, fun tally => rfl⟩
  · intro piped steps
    refine ⟨Toolbox.exists_chain renderer.tools context steps .null state, ?_⟩
    intro final events last chain
    have rendered := Toolbox.renderSource_unknownFunction_piped enclosed pieces piped called unregistered chain
    rw [← toList_doubleText] at rendered
    refine ⟨gives_of_renderSource rendered, ?_⟩
    intro tally
    have counted := chain.countEvents (tally.countEvent (.warned .unknownFunction))
    rw [Tally.countEvents, List.foldl_toArray] at counted ⊢
    exact counted

end Renderer

/-! ## A call alone and piped -/

namespace Renderer.Example

def unknownCall : Call := ⟨"nope".toList, ["1".toList, "'a|b'".toList]⟩

def unknownBase : String := "nope(1, 'a|b')"

/-- A pipeline with a formatter that is not registered and one that is. -/
def unknownPiped : String := " nope(1, 'a|b') | gone | join:7 "

def unknownSegments : List (List Char) := ["gone".toList, "join:7".toList]

/-- Null goes through the steps of the segments. -/
theorem unknownPiped_chain :
    showingRenderer.tools.Chain syntaxContext (unknownSegments.filterMap PipeStep.read?) .null ()
      (.array [.null, .int 7]) [.warned .unknownFormatter, .applied "join".toList .null [.int 7]] () := by
  have gone : Dict.find? "gone" showingRenderer.tools.formatters = none := by decide +kernel
  have steps : unknownSegments.filterMap PipeStep.read? =
      [⟨"gone".toList, []⟩, ⟨"join".toList, [.int 7]⟩] := rfl
  rw [steps]
  exact .unknown (by decide) gone (.applied (by decide) join_registered (.done _ _))

theorem renderText_unknownFunction_nope :
    Dict.find? (String.ofList unknownCall.name) showingRenderer.tools.functions = none ∧
      Call.read? unknownBase.toList = some unknownCall ∧
      (Token.Enclosed unknownBase.toList ∧
        Text.splitOutside '|' unknownBase.toList = [unknownBase.toList] ∧
        showingRenderer.renderText syntaxContext (doubleText unknownBase) () =
          ⟨doubleText unknownBase, #[.warned .unknownFunction], ()⟩) ∧
      Token.Enclosed unknownPiped.toList ∧
      Text.splitOutside '|' unknownPiped.toList = unknownBase.toList :: unknownSegments ∧
      unknownSegments ≠ [] ∧
      showingRenderer.renderText syntaxContext (doubleText unknownPiped) () =
        ⟨"[null,7]", #[.warned .unknownFunction, .warned .unknownFormatter,
          .applied "join".toList .null [.int 7]], ()⟩ := by
  have unregistered : Dict.find? (String.ofList unknownCall.name) showingRenderer.tools.functions = none := by
    decide +kernel
  have called : Call.read? unknownBase.toList = some unknownCall := by decide +kernel
  refine ⟨unregistered, called, ?alone, ?piped⟩
  case alone =>
    have enclosed : Token.Enclosed unknownBase.toList := Token.enclosed_of_notMem (by decide)
    have pieces : Text.splitOutside '|' unknownBase.toList = [unknownBase.toList] := by decide +kernel
    have rendered := renderText_unknownFunction showingRenderer enclosed pieces called unregistered
      syntaxContext ()
    exact ⟨enclosed, pieces, (rendered.1 rfl).1.1⟩
  case piped =>
    have enclosed : Token.Enclosed unknownPiped.toList := Token.enclosed_of_notMem (by decide)
    have pieces : Text.splitOutside '|' unknownPiped.toList = unknownBase.toList :: unknownSegments := by
      decide +kernel
    have some_segments : unknownSegments ≠ [] := List.cons_ne_nil _ _
    have rendered := renderText_unknownFunction showingRenderer enclosed pieces called unregistered
      syntaxContext ()
    have shown : Value.shown (some (.array [.null, .int 7])) = "[null,7]" := by decide +kernel
    have piped := ((rendered.2 some_segments).2 _ _ _ unknownPiped_chain).1.1
    rw [shown] at piped
    exact ⟨enclosed, pieces, some_segments, piped⟩

/-- A call of a function that is not registered vanishes at the head of a pipeline. -/
theorem unknownFunction_vanishes :
    ¬ ∀ (inside : String) (base : List Char) (segments : List (List Char)) (call : Call),
      Token.Enclosed inside.toList → Text.splitOutside '|' inside.toList = base :: segments →
      Call.read? base = some call →
      Dict.find? (String.ofList call.name) renderer.tools.functions = none →
      (renderer.renderText context (doubleText inside) ()).text = doubleText inside := by
  intro stays
  have enclosed : Token.Enclosed "nope(1) | upper".toList := Token.enclosed_of_notMem (by decide)
  have pieces : Text.splitOutside '|' "nope(1) | upper".toList = ["nope(1)".toList, "upper".toList] := by
    decide +kernel
  have called : Call.read? "nope(1)".toList = some ⟨"nope".toList, ["1".toList]⟩ := by decide +kernel
  have unregistered : Dict.find? "nope" renderer.tools.functions = none := by decide +kernel
  have same := stays "nope(1) | upper" _ _ _ enclosed pieces called unregistered
  exact absurd same (by decide +kernel)

end Renderer.Example
end Herald
