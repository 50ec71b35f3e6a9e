/- The two ways to write a placeholder.

A path in single braces is looked up and nothing else. In double braces it is read as an
expression, so it can be the keyword of otherwise-branches or a literal first. Apart from these
both placeholders print the value at the path; where the path leads nowhere, one stays as it is
and the other prints nothing (`Renderer.renderText_placeholders`). -/
import Herald.Proofs.Blocks
import Herald.Proofs.Printing
import Herald.Proofs.Text.Tidy
namespace Herald
set_option autoImplicit false

/-! ## What a source gives -/

namespace Renderer
variable {State : Type}

/-- Rendered alone, a source gives a text in its finished form, a trace and a state; and wherever
a render in that context and state comes to it, it writes and records the same. -/
def Gives (renderer : Renderer State) (context : Context) (source : String) (state : State)
    (text : String) (events : List Event) (after : State) : Prop :=
  renderer.renderText context source state = ⟨renderer.finish text, events.toArray, after⟩ ∧
    ∀ progress : Progress State, progress.state = state →
      renderer.tools.renderNodes context (Node.ofSource source.toList) progress =
        progress.follow ⟨text, events.toArray, after⟩

theorem gives_of_renderSource {renderer : Renderer State} {context : Context} {source text : String}
    {state after : State} {events : List Event}
    (rendered : renderer.tools.renderSource context source.toList state =
      ⟨text, events.toArray, after⟩) :
    renderer.Gives context source state text events after := by
  constructor
  · rw [renderText, rendered]
  · rintro progress rfl
    rw [Toolbox.renderNodes_eq_follow, ← Toolbox.renderSource, rendered]

/-- A source that only writes gives what it writes. -/
theorem gives_of_write {renderer : Renderer State} {context : Context} {source : String}
    {text : List Char} {state : State}
    (rendered : renderer.tools.renderSource context source.toList state =
      (Progress.start state).write text) :
    renderer.Gives context source state (String.ofList text) [] state :=
  gives_of_renderSource (rendered.trans (by simp [Progress.write, Progress.start]))

/-- Finishing leaves a text without blanks as it is. -/
theorem finish_of_visible (renderer : Renderer State) {text : String}
    (visible : ∀ c ∈ text.toList, Text.isBlank c = false) : renderer.finish text = text := by
  rw [finish]
  split
  · cases empty : text.toList with
    | nil =>
        rw [← String.ofList_toList (s := text), empty]
        rfl
    | cons c rest =>
        rw [← empty, Text.tidy_of_solid ⟨by simp [empty], visible⟩, String.ofList_toList]
  · rfl

end Renderer

/-! ## Paths between braces -/

namespace Token

/-- A path is an expression unless it is the keyword of otherwise-branches. -/
theorem isExpression_of_isPath {path : List Char} (dotted : isPath path = true)
    (noOtherwise : path ≠ "else".toList) : IsExpression path := by
  have word := isWord_of_isPath dotted
  have nonempty := ne_nil_of_isPath dotted
  have begins : ∀ c, Text.isWordChar c = false → path.head? ≠ some c := by
    intro c other
    have head := Text.head?_word_append word nonempty other []
    rwa [List.append_nil] at head
  exact {
    trimmed := Text.trim_of_visible (Text.visible_of_word word)
    noOpener := begins '#' (by decide)
    noCloser := begins '/' (by decide)
    noOtherwise := noOtherwise
    noBraces := not_braces_of_notMem (Text.notMem_of_word word (by decide)) }

end Token

namespace Toolbox
variable {State : Type} (tools : Toolbox State) (context : Context) {path : List Char}

/-- A path in single braces is looked up. -/
theorem renderSource_single (dotted : Token.isPath path = true) (state : State) :
    tools.renderSource context (Token.singleMarker path) state =
      (Progress.start state).write (match context.resolve? path with
        | some value => Value.display (some value)
        | none => Token.singleMarker path) := by
  have tokens := Token.ofSource_single dotted []
  rw [List.append_nil, Token.ofSource_nil] at tokens
  rw [renderSource, Node.ofSource, tokens]
  show tools.writePlaceholder context path .single (Token.singleMarker path) _ = _
  rw [writePlaceholder]
  cases context.resolve? path <;> rfl

/-- A path in double braces is an operand. -/
theorem renderSource_path (dotted : Token.isPath path = true) (noOtherwise : path ≠ "else".toList)
    (state : State) :
    tools.renderSource context (Token.marker path) state =
      (Progress.start state).write (Value.display (context.operand? path)) := by
  have word := Token.isWord_of_isPath dotted
  have enclosed : Token.Enclosed path := Token.enclosed_of_notMem (Text.notMem_of_word word (by decide))
  have read := (Token.isExpression_of_isPath dotted noOtherwise).ofInside_bare
  have noBar : '|' ∉ Text.outside path := by
    rw [(Text.outside_of_unquoted (Text.unquoted_of_word word)).1]
    exact Text.notMem_of_word word (by decide)
  rw [renderSource_placeholder tools context enclosed read, writeExpression_whole tools context noBar,
    evaluate_path tools context dotted]

/-- The keyword of otherwise-branches stays as it is outside of blocks. -/
theorem renderSource_otherwise (state : State) :
    tools.renderSource context (Token.marker "else".toList) state =
      (Progress.start state).write (Token.marker "else".toList) := by
  have enclosed : Token.Enclosed "else".toList := Token.enclosed_of_notMem (by decide)
  rw [renderSource, Node.ofSource, Token.ofSource_marker_alone enclosed Token.ofInside_otherwise]
  rfl

end Toolbox

/-! ## The two placeholders -/

/-- A placeholder in single braces. -/
def singleText (path : String) : String := "\x7b" ++ path ++ "\x7d"

/-- A placeholder in double braces. -/
def doubleText (source : String) : String := "\x7b\x7b" ++ source ++ "\x7d\x7d"

theorem toList_singleText (path : String) : (singleText path).toList = Token.singleMarker path.toList := by
  have openBrace : "\x7b".toList = ['{'] := rfl
  have closeBrace : "\x7d".toList = ['}'] := rfl
  simp [singleText, openBrace, closeBrace, Token.singleMarker]

theorem toList_doubleText (source : String) : (doubleText source).toList = Token.marker source.toList := by
  have openBraces : "\x7b\x7b".toList = ['{', '{'] := rfl
  have closeBraces : "\x7d\x7d".toList = ['}', '}'] := rfl
  simp [doubleText, openBraces, closeBraces, Token.marker]

/-- The printed text of a value. -/
def Value.shown (value : Option Value) : String := String.ofList (Value.display value)

namespace Renderer
variable {State : Type}

/-- A path in single braces is in its finished form. -/
theorem finish_singleText (renderer : Renderer State) {path : String}
    (dotted : Token.isPath path.toList = true) : renderer.finish (singleText path) = singleText path := by
  apply finish_of_visible
  intro c inside
  rw [toList_singleText, Token.singleMarker, List.mem_cons, List.mem_append, List.mem_singleton] at inside
  rcases inside with rfl | within | rfl
  · decide
  · exact Text.visible_of_word (Token.isWord_of_isPath dotted) c within
  · decide

/-- **Both ways to write a placeholder resolve alike, but for paths that mean something else
between double braces.** In single braces every path prints the value that it leads to; where it
leads nowhere, the placeholder stays as it is. In double braces a path that is neither the keyword
of otherwise-branches nor a literal prints the value that it leads to; where it leads nowhere, it
prints nothing. A path that is a literal prints the value of the literal, wherever the path leads,
and the keyword stays as it is. -/
theorem renderText_placeholders (renderer : Renderer State) {path : String}
    (dotted : Token.isPath path.toList = true) (context : Context) (state : State) :
    (∀ value, context.resolve? path.toList = some value →
      renderer.Gives context (singleText path) state (Value.shown (some value)) [] state) ∧
    (context.resolve? path.toList = none →
      renderer.Gives context (singleText path) state (singleText path) [] state ∧
        renderer.finish (singleText path) = singleText path) ∧
    (path ≠ "else" → Literal.read? path.toList = none →
      (∀ value, context.resolve? path.toList = some value →
        renderer.Gives context (doubleText path) state (Value.shown (some value)) [] state) ∧
      (context.resolve? path.toList = none →
        renderer.Gives context (doubleText path) state "" [] state ∧ renderer.finish "" = "")) ∧
    (∀ literal, Literal.read? path.toList = some literal →
      renderer.Gives context (doubleText path) state (Value.shown literal.toValue?) [] state) ∧
    (path = "else" →
      renderer.Gives context (doubleText path) state (doubleText path) [] state ∧
        renderer.finish (doubleText path) = doubleText path) := by
  have single := renderer.tools.renderSource_single context dotted state
  rw [← toList_singleText] at single
  have double : path ≠ "else" → renderer.Gives context (doubleText path) state
      (Value.shown (context.operand? path.toList)) [] state := by
    intro noOtherwise
    have other : path.toList ≠ "else".toList := fun same => noOtherwise (String.toList_inj.mp same)
    have rendered := renderer.tools.renderSource_path context dotted other state
    rw [← toList_doubleText] at rendered
    exact gives_of_write rendered
  refine ⟨?_, ?_, ?_, ?_, ?_⟩
  · intro value found
    rw [found] at single
    exact gives_of_write single
  · intro nowhere
    rw [nowhere] at single
    have stays := gives_of_write single
    rw [String.ofList_toList] at stays
    exact ⟨stays, finish_singleText renderer dotted⟩
  · intro noOtherwise noLiteral
    have operand : context.operand? path.toList = context.resolve? path.toList := by
      rw [Context.operand?, noLiteral]
    rw [operand] at double
    constructor
    · intro value found
      rw [found] at double
      exact double noOtherwise
    · intro nowhere
      rw [nowhere] at double
      exact ⟨double noOtherwise, finish_of_visible renderer (by simp)⟩
  · intro literal read
    have noOtherwise : path ≠ "else" := by
      rintro rfl
      cases read
    have operand : context.operand? path.toList = literal.toValue? := by
      rw [Context.operand?, read]
    rw [operand] at double
    exact double noOtherwise
  · rintro rfl
    have rendered := renderer.tools.renderSource_otherwise context state
    rw [← toList_doubleText] at rendered
    have stays := gives_of_write rendered
    rw [String.ofList_toList] at stays
    have visible : (doubleText "else").toList.all (!Text.isBlank ·) = true := by decide
    exact ⟨stays, finish_of_visible renderer (by simpa using List.all_eq_true.mp visible)⟩

end Renderer

/-! ## Ordinary and reserved paths -/

namespace Renderer.Example

/-- A context with fields that are called like literals and like the keyword. -/
def reserving : Context :=
  { context with data := Dict.ofList [("user", .object [("name", .string "Ann")]),
      ("true", .string "yes"), ("1", .object [("5", .string "five")]), ("else", .string "or")] }

/-- The printed text of a string is the string. -/
theorem shown_string (text : String) : Value.shown (some (.string text)) = text := by
  simp [Value.shown, Value.display]

theorem renderText_placeholders_reserved :
    (Token.isPath "user.name".toList = true ∧
      reserving.resolve? "user.name".toList = some (.string "Ann") ∧ "user.name" ≠ "else" ∧
      Literal.read? "user.name".toList = none ∧
      renderer.Gives reserving (singleText "user.name") () "Ann" [] () ∧
      renderer.Gives reserving (doubleText "user.name") () "Ann" [] ()) ∧
    (Token.isPath "gone".toList = true ∧ reserving.resolve? "gone".toList = none ∧ "gone" ≠ "else" ∧
      Literal.read? "gone".toList = none ∧
      renderer.Gives reserving (singleText "gone") () (singleText "gone") [] () ∧
      renderer.Gives reserving (doubleText "gone") () "" [] ()) ∧
    (Token.isPath "true".toList = true ∧ reserving.resolve? "true".toList = some (.string "yes") ∧
      Literal.read? "true".toList = some (.defined (.bool true)) ∧
      renderer.Gives reserving (singleText "true") () "yes" [] () ∧
      renderer.Gives reserving (doubleText "true") () "true" [] ()) ∧
    Token.isPath "else".toList = true ∧ reserving.resolve? "else".toList = some (.string "or") ∧
      renderer.Gives reserving (singleText "else") () "or" [] () ∧
      renderer.Gives reserving (doubleText "else") () (doubleText "else") [] () := by
  refine ⟨?ordinary, ?missing, ?literal, ?keyword⟩
  case ordinary =>
    have dotted : Token.isPath "user.name".toList = true := by decide
    have found : reserving.resolve? "user.name".toList = some (.string "Ann") := rfl
    have noLiteral : Literal.read? "user.name".toList = none := rfl
    have alike := renderText_placeholders renderer dotted reserving ()
    have single := alike.1 _ found
    have double := (alike.2.2.1 (by decide) noLiteral).1 _ found
    rw [shown_string] at single double
    exact ⟨dotted, found, by decide, noLiteral, single, double⟩
  case missing =>
    have dotted : Token.isPath "gone".toList = true := by decide
    have nowhere : reserving.resolve? "gone".toList = none := rfl
    have noLiteral : Literal.read? "gone".toList = none := rfl
    have alike := renderText_placeholders renderer dotted reserving ()
    exact ⟨dotted, nowhere, by decide, noLiteral, (alike.2.1 nowhere).1,
      ((alike.2.2.1 (by decide) noLiteral).2 nowhere).1⟩
  case literal =>
    have dotted : Token.isPath "true".toList = true := by decide
    have found : reserving.resolve? "true".toList = some (.string "yes") := rfl
    have read : Literal.read? "true".toList = some (.defined (.bool true)) := rfl
    have alike := renderText_placeholders renderer dotted reserving ()
    have single := alike.1 _ found
    have double := alike.2.2.2.1 _ read
    have shown_true : Value.shown (Literal.toValue? (.defined (.bool true))) = "true" := by decide
    rw [shown_string] at single
    rw [shown_true] at double
    exact ⟨dotted, found, read, single, double⟩
  case keyword =>
    have dotted : Token.isPath "else".toList = true := by decide
    have found : reserving.resolve? "else".toList = some (.string "or") := rfl
    have alike := renderText_placeholders renderer dotted reserving ()
    have single := alike.1 _ found
    rw [shown_string] at single
    exact ⟨dotted, found, single, (alike.2.2.2.2 rfl).1⟩

/-- Both placeholders of a path print the value that it leads to. -/
def PrintAlike (context : Context) (path : String) : Prop :=
  ∀ value, context.resolve? path.toList = some value →
    (renderer.renderText context (singleText path) ()).text = Value.shown (some value) ∧
      (renderer.renderText context (doubleText path) ()).text = Value.shown (some value)

/-- Fields that are called like a literal or like the keyword are found in single braces only. -/
theorem placeholders_differ :
    (Token.isPath "true".toList = true ∧ ¬ PrintAlike reserving "true") ∧
      (Token.isPath "1.5".toList = true ∧ ¬ PrintAlike reserving "1.5") ∧
      Token.isPath "else".toList = true ∧ ¬ PrintAlike reserving "else" := by
  refine ⟨⟨by decide, ?word⟩, ⟨by decide, ?number⟩, by decide, ?keyword⟩
  case word => exact fun alike => absurd (alike (.string "yes") rfl).2 (by decide +kernel)
  case number => exact fun alike => absurd (alike (.string "five") rfl).2 (by decide +kernel)
  case keyword => exact fun alike => absurd (alike (.string "or") rfl).2 (by decide +kernel)

end Renderer.Example
end Herald
