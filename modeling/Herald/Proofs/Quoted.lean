/- Quoted text is inert.

A text without its own quote character and without a double closing brace can be written
between quotes wherever a template takes a value: as an expression, as the argument of a call
or of a formatter, and as a side of a comparison. In each place the template gets exactly that
text, whatever it holds that would act there unquoted (`Renderer.renderText_quoted`). Every
scanner passes over it because it shows nothing outside its quotes (`Text.outside_inQuotes`). -/
import Herald.Proofs.Blocks
import Herald.Proofs.Expression
namespace Herald
set_option autoImplicit false

/-! ## What a quoted text denotes -/

section Quotes
variable {mark : Char} {text : List Char}

theorem Literal.read?_inQuotes (quote : Text.isQuote mark = true) :
    Literal.read? (Text.inQuotes mark text) = some (.defined (.ofChars text)) := by
  rw [Literal.read?, Text.trim_inQuotes quote, Text.unquote_inQuotes quote]
  rfl

theorem Context.operand?_inQuotes (context : Context) (quote : Text.isQuote mark = true) :
    context.operand? (Text.inQuotes mark text) = some (.ofChars text) := by
  rw [Context.operand?, Literal.read?_inQuotes quote]
  rfl

theorem Call.argumentValue_inQuotes (context : Context) (quote : Text.isQuote mark = true) :
    argumentValue context (Text.inQuotes mark text) = .ofChars text := by
  rw [argumentValue, Text.unquote_inQuotes quote]

theorem PipeStep.argumentValue_inQuotes (quote : Text.isQuote mark = true) :
    argumentValue (Text.inQuotes mark text) = .ofChars text := by
  rw [argumentValue, Literal.read?_inQuotes quote]
  rfl

/-- A quoted text is no call, for it does not end in a parenthesis. -/
theorem Call.read?_inQuotes (quote : Text.isQuote mark = true) :
    read? (Text.inQuotes mark text) = none := by
  apply read?_eq_none
  rw [Text.trim_inQuotes quote, Text.inQuotes, List.getLast?_cons, List.getLast?_concat]
  rintro ⟨⟩
  cases quote

end Quotes

/-- A value is identical to a string if and only if it is that string. -/
theorem Value.identical_string (value : Option Value) (text : String) :
    identical value (some (.string text)) = true ↔ value = some (.string text) := by
  cases value with
  | none => simp [identical]
  | some value => cases value <;> simp [identical, same]

/-! ## Sources with a quoted text -/

/-- A text that can be written between two quotes in a marker. -/
structure Text.Quotable (mark : Char) (text : List Char) : Prop where
  quote : isQuote mark = true
  absent : mark ∉ text
  noBraces : ¬ ['}', '}'] <:+: text

namespace Text.Quotable
variable {mark : Char} {text : List Char} (quotable : Quotable mark text)
include quotable

theorem openQuote : openQuote (inQuotes mark text) = none :=
  openQuote_inQuotes quotable.quote quotable.absent

theorem outside : outside (inQuotes mark text) = [] :=
  outside_inQuotes quotable.quote quotable.absent

theorem visible : isBlank mark = false := not_blank_of_isQuote quotable.quote

theorem mark_ne {c : Char} (other : isQuote c = false) : mark ≠ c := by
  rintro rfl
  rw [quotable.quote] at other
  cases other

/-- A double closing brace around a quoted text lies before or behind it. -/
theorem noBraces_around {first rest : List Char} (before : ¬ ['}', '}'] <:+: first)
    (behind : ¬ ['}', '}'] <:+: rest) : ¬ ['}', '}'] <:+: first ++ (inQuotes mark text ++ rest) := by
  have other : mark ≠ '}' := quotable.mark_ne (by decide)
  have shape : first ++ (inQuotes mark text ++ rest) = first ++ mark :: (text ++ mark :: rest) := by
    simp [inQuotes]
  rw [shape, Token.braces_infix_append_cons other, Token.braces_infix_append_cons other, not_or, not_or]
  exact ⟨before, quotable.noBraces, behind⟩

end Text.Quotable

/-- A call with one argument, as it is written. -/
def Call.source (name argument : List Char) : List Char := name ++ '(' :: (argument ++ [')'])

/-- A pipeline of a path and one formatter with one argument, as it is written. -/
def PipeStep.source (path name argument : List Char) : List Char :=
  path ++ ' ' :: '|' :: ' ' :: (name ++ ':' :: argument)

/-- A comparison of a path, as it is written. -/
def Condition.identitySource (path right : List Char) : List Char :=
  path ++ ' ' :: (Operator.identical.mark ++ ' ' :: right)

namespace Token
variable {mark : Char} {text path name : List Char}

theorem isExpression_quoted (quotable : Text.Quotable mark text) :
    IsExpression (Text.inQuotes mark text) where
  trimmed := Text.trim_inQuotes quotable.quote
  noOpener := fun same => quotable.mark_ne (by decide) (Option.some.inj same)
  noCloser := fun same => quotable.mark_ne (by decide) (Option.some.inj same)
  noOtherwise := fun same => quotable.mark_ne (by decide) (List.cons.inj same).1
  noBraces := by
    have nothing : ¬ ['}', '}'] <:+: [] := not_braces_of_notMem List.not_mem_nil
    simpa using quotable.noBraces_around nothing nothing

theorem isExpression_quotedCall (quotable : Text.Quotable mark text) (named : Call.isName name = true) :
    IsExpression (Call.source name (Text.inQuotes mark text)) := by
  have word := Call.isWord_of_isName named
  have shape : Call.source name (Text.inQuotes mark text) =
      (name ++ ['(']) ++ (Text.inQuotes mark text ++ [')']) := by simp [Call.source]
  have before : '}' ∉ name ++ ['('] := by simpa using Text.notMem_of_word word (by decide)
  have noBraces : ¬ ['}', '}'] <:+: Call.source name (Text.inQuotes mark text) := by
    rw [shape]
    exact quotable.noBraces_around (not_braces_of_notMem before) (not_braces_of_notMem (by decide))
  exact IsExpression.of_word word (Call.ne_nil_of_isName named) ('(' :: Text.inQuotes mark text)
    List.mem_cons_self (by decide) (by decide) noBraces

theorem isExpression_quotedStep (quotable : Text.Quotable mark text) (isPath : isPath path = true)
    (named : PipeStep.IsName name) :
    IsExpression (PipeStep.source path name (Text.inQuotes mark text)) := by
  have word := isWord_of_isPath isPath
  have pathOpen := not_braces_of_notMem (Text.notMem_of_word word (by decide))
  have before : ¬ ['}', '}'] <:+: path ++ ' ' :: '|' :: ' ' :: (name ++ [':']) := by
    rw [braces_infix_append_cons (by decide), braces_infix_cons (by decide),
      braces_infix_cons (by decide), braces_infix_append_cons (by decide)]
    simp [pathOpen, named.noBraces]
  have shape : PipeStep.source path name (Text.inQuotes mark text) =
      (path ++ ' ' :: '|' :: ' ' :: (name ++ [':'])) ++ (Text.inQuotes mark text ++ []) := by
    simp [PipeStep.source]
  have noBraces : ¬ ['}', '}'] <:+: PipeStep.source path name (Text.inQuotes mark text) := by
    rw [shape]
    exact quotable.noBraces_around before (not_braces_of_notMem List.not_mem_nil)
  have ending : PipeStep.source path name (Text.inQuotes mark text) =
      path ++ ((' ' :: '|' :: ' ' :: (name ++ ':' :: mark :: text)) ++ [mark]) := by
    simp [PipeStep.source, Text.inQuotes]
  rw [ending] at noBraces ⊢
  exact IsExpression.of_word word (ne_nil_of_isPath isPath) _ List.mem_cons_self (by decide)
    quotable.visible noBraces

end Token

/-! ## The four places -/

namespace Toolbox
variable {State : Type} (tools : Toolbox State) (context : Context)
variable {mark : Char} {text : List Char}

/-- A quoted text as an expression is printed as it is. -/
theorem renderSource_quoted (quotable : Text.Quotable mark text) (state : State) :
    tools.renderSource context
        (Token.marker (Token.expressionInside (Text.inQuotes mark text))) state =
      (Progress.start state).write text := by
  have whole : '|' ∉ Text.outside (Text.inQuotes mark text) := by simp [quotable.outside]
  rw [renderSource_expression tools context (Token.isExpression_quoted quotable),
    writeExpression_whole tools context whole, evaluate, Call.read?_inQuotes quotable.quote,
    Context.operand?_inQuotes context quotable.quote]
  simp [Value.ofChars, Value.display]

/-- A quoted text between the parentheses of a call is its one argument. -/
theorem renderSource_quotedCall (quotable : Text.Quotable mark text) {name : List Char}
    (named : Call.isName name = true) {function : Function State}
    (registered : Dict.find? (String.ofList name) tools.functions = some function) (state : State) :
    tools.renderSource context
        (Token.marker (Token.expressionInside (Call.source name (Text.inQuotes mark text)))) state =
      let (value, after) := function [.ofChars text] context state
      ((Progress.start after).record (.called name [.ofChars text])).write
        (Value.display (some value)) := by
  have whole : '|' ∉ Text.outside (Call.source name (Text.inQuotes mark text)) := by
    have word := Call.isWord_of_isName named
    have absent := Text.notMem_of_word word (by decide : Text.isWordChar '|' = false)
    obtain ⟨shown, closed⟩ := Text.outside_of_unquoted (Text.unquoted_of_word word)
    rw [Call.source, Text.outside_append closed, shown, Text.outside_cons (by decide),
      Text.outside_append quotable.openQuote, quotable.outside, Text.outside_cons (by decide)]
    simp [absent, Text.outside, Text.outsideFrom]
  have trimmed : Text.trim (Text.inQuotes mark text) = Text.inQuotes mark text :=
    Text.trim_inQuotes quotable.quote
  have read : Call.read? (Call.source name (Text.inQuotes mark text)) =
      some ⟨name, [Text.inQuotes mark text]⟩ := by
    have nonempty : Text.trim (Text.inQuotes mark text) ≠ [] := by
      rw [trimmed]
      exact List.cons_ne_nil _ _
    have single := Call.read?_single named quotable.openQuote (by simp [quotable.outside]) nonempty
    rwa [trimmed] at single
  rw [renderSource_expression tools context (Token.isExpression_quotedCall quotable named),
    writeExpression_whole tools context whole, evaluate, read]
  simp only [registered, Call.values, List.map_cons, List.map_nil,
    Call.argumentValue_inQuotes context quotable.quote]
  rfl

/-- A quoted text behind the colon of a pipeline step is its one argument. -/
theorem renderSource_quotedStep (quotable : Text.Quotable mark text) {path name : List Char}
    (isPath : Token.isPath path = true) (named : PipeStep.IsName name) {formatter : Formatter State}
    (registered : Dict.find? (String.ofList name) tools.formatters = some formatter) (state : State) :
    tools.renderSource context (Token.marker (Token.expressionInside
        (PipeStep.source path name (Text.inQuotes mark text)))) state =
      let value := (context.operand? path).getD .null
      let (result, after) := formatter value [.ofChars text] context state
      ((Progress.start after).record (.applied name value [.ofChars text])).write
        (Value.display (some result)) := by
  have word := Token.isWord_of_isPath isPath
  obtain ⟨headShown, headClosed⟩ := Text.outside_word_concat word (by decide : Text.isQuote ' ' = false)
  have headWhole : '|' ∉ Text.outside (path ++ [' ']) := by
    rw [headShown]
    simpa using Text.notMem_of_word word (by decide)
  have segmentWhole : '|' ∉ Text.outside (' ' :: (name ++ ':' :: Text.inQuotes mark text)) := by
    rw [Text.outside_cons (by decide), Text.outside_append named.closed, Text.outside_cons (by decide),
      quotable.outside]
    simp [named.noBar]
  have segmentTrim : Text.trim (' ' :: (name ++ ':' :: Text.inQuotes mark text)) =
      name ++ ':' :: Text.inQuotes mark text := by
    rw [Text.trim_cons_of_blank (by decide)]
    exact named.trim_append quotable.visible (':' :: mark :: text)
  have cut : PipeStep.source path name (Text.inQuotes mark text) =
      (path ++ [' ']) ++ '|' :: (' ' :: (name ++ ':' :: Text.inQuotes mark text)) := by
    simp [PipeStep.source]
  have applied := applySegment_single tools context named (Text.inQuotes mark text)
    (by simp [quotable.outside]) registered
  rw [Text.trim_inQuotes quotable.quote, PipeStep.argumentValue_inQuotes quotable.quote] at applied
  rw [renderSource_expression tools context (Token.isExpression_quotedStep quotable isPath named), cut,
    writeExpression_bar tools context headClosed headWhole segmentWhole, Text.trim_word_blank word,
    segmentTrim, evaluate_path tools context isPath]
  simp only [applied]
  rfl

/-- A quoted text is a side of a comparison as it is. -/
theorem decideCondition_quoted (quotable : Text.Quotable mark text) {path : List Char}
    (isPath : Token.isPath path = true) (noLiteral : Literal.read? path = none)
    (progress : Progress State) :
    decideCondition context (Condition.identitySource path (Text.inQuotes mark text)) progress =
      (Value.identical (context.resolve? path) (some (.ofChars text)), progress) := by
  have word := Token.isWord_of_isPath isPath
  have nonempty := Token.ne_nil_of_isPath isPath
  obtain ⟨shown, closed⟩ := Text.outside_word_concat word (by decide : Text.isQuote ' ' = false)
  have right : Text.trim (' ' :: Text.inQuotes mark text) = Text.inQuotes mark text := by
    rw [Text.trim_cons_of_blank (by decide), Text.trim_inQuotes quotable.quote]
  have shape : Condition.identitySource path (Text.inQuotes mark text) =
      (path ++ [' ']) ++ (Operator.identical.mark ++ (' ' :: Text.inQuotes mark text)) := by
    simp [Condition.identitySource]
  have trimmed := Text.trim_word_append word nonempty quotable.visible
    (' ' :: (Operator.identical.mark ++ ' ' :: mark :: text))
  have read : Condition.read (Condition.identitySource path (Text.inQuotes mark text)) =
      .comparison .identical path (Text.inQuotes mark text) := by
    rw [shape, Condition.read_identical closed, Text.trim_word_blank word, right]
    · rw [shown]
      simpa using Text.notMem_of_word word (by decide)
    · rwa [Text.trim_word_blank word]
    · rw [right]
      exact List.cons_ne_nil _ _
    · exact Text.head?_word_append word nonempty (by decide) _
    · rw [← shape]
      exact trimmed
  simp only [decideCondition, read, Condition.holds, Condition.isMalformed, Operator.holds,
    Context.operand?_inQuotes context quotable.quote, Bool.false_eq_true, if_false]
  rw [Context.operand?, noLiteral]

/-- An if-block around a literal text writes the text or nothing. -/
theorem renderSource_literalBlock {argument body : List Char}
    (closed : Token.Enclosed (Token.openerInside .whenTrue argument))
    (literal : Token.ofSource body = [.text body]) (noBrace : '{' ∉ body) (state : State) :
    tools.renderSource context (Token.marker (Token.openerInside .whenTrue argument) ++
        (body ++ Token.marker (Token.closerInside .whenTrue))) state =
      let (holds, progress) := decideCondition context argument (Progress.start state)
      if holds then progress.write body else progress := by
  have plain : Token.Plain (Token.ofSource body) := by
    intro raw inside
    rw [literal, List.mem_singleton, Token.text.injEq] at inside
    rwa [inside]
  have closer : Token.Enclosed (Token.closerInside .whenTrue) := Token.enclosed_of_notMem (by decide)
  have tokens : Token.ofSource (Token.marker (Token.openerInside .whenTrue argument) ++
      (body ++ Token.marker (Token.closerInside .whenTrue))) =
        [.opener .whenTrue (Text.trim argument) (Token.marker (Token.openerInside .whenTrue argument)),
          .text body, .closer .whenTrue (Token.marker (Token.closerInside .whenTrue))] := by
    have inner := Token.ofSource_append_marker plain closer (Token.ofInside_closer .whenTrue) []
    rw [List.append_nil, literal, Token.ofSource_nil] at inner
    rw [Token.ofSource_marker closed (Token.ofInside_opener .whenTrue argument), inner]
    rfl
  have nodes : Node.ofSource (Token.marker (Token.openerInside .whenTrue argument) ++
      (body ++ Token.marker (Token.closerInside .whenTrue))) =
        [.block .whenTrue (Text.trim argument) [.text body] none] := by
    rw [Node.ofSource, tokens]
    rfl
  rw [renderSource, nodes, renderNodes, renderNode, decideCondition_trim]
  rfl

/-- A block under a comparison with a quoted text is written if the path leads to that text. -/
theorem renderSource_quotedSide (quotable : Text.Quotable mark text) {path : List Char}
    (isPath : Token.isPath path = true) (noLiteral : Literal.read? path = none) (state : State) :
    tools.renderSource context
        (Token.marker (Token.openerInside .whenTrue
            (Condition.identitySource path (Text.inQuotes mark text))) ++
          (['Y'] ++ Token.marker (Token.closerInside .whenTrue))) state =
      if Value.identical (context.resolve? path) (some (.ofChars text)) = true
      then (Progress.start state).write ['Y'] else Progress.start state := by
  have word := Token.isWord_of_isPath isPath
  have shape : Token.openerInside .whenTrue
      (Condition.identitySource path (Text.inQuotes mark text)) ++ ['}'] =
        ('#' :: 'i' :: 'f' :: ' ' :: (path ++ [' ', '=', '=', '=', ' '])) ++
          (Text.inQuotes mark text ++ ['}']) := by
    simp [Token.openerInside, BlockKind.keyword, Condition.identitySource, Operator.mark]
  have before : '}' ∉ '#' :: 'i' :: 'f' :: ' ' :: (path ++ [' ', '=', '=', '=', ' ']) := by
    simpa using Text.notMem_of_word word (by decide)
  have closed : Token.Enclosed (Token.openerInside .whenTrue
      (Condition.identitySource path (Text.inQuotes mark text))) := by
    rw [Token.Enclosed, shape]
    exact quotable.noBraces_around (Token.not_braces_of_notMem before)
      (Token.not_braces_of_count (by decide))
  rw [renderSource_literalBlock tools context closed (by decide +kernel) (by decide) state,
    decideCondition_quoted context quotable isPath noLiteral]

end Toolbox

/-! ## The texts of a renderer -/

/-- A text between two quotes. -/
def quotedText (mark : Char) (text : String) : String :=
  String.singleton mark ++ text ++ String.singleton mark

/-- An expression between double braces. -/
def expressionText (source : String) : String := "\x7b\x7b " ++ source ++ " \x7d\x7d"

/-- An if-block without an otherwise-marker. -/
def ifText (condition body : String) : String :=
  "\x7b\x7b#if " ++ condition ++ "\x7d\x7d" ++ body ++ "\x7b\x7b/if\x7d\x7d"

theorem toList_quotedText (mark : Char) (text : String) :
    (quotedText mark text).toList = Text.inQuotes mark text.toList := by
  simp [quotedText, Text.inQuotes]

theorem toList_expressionText (source : String) :
    (expressionText source).toList = Token.marker (Token.expressionInside source.toList) := by
  have openBraces : "\x7b\x7b ".toList = ['{', '{', ' '] := rfl
  have closeBraces : " \x7d\x7d".toList = [' ', '}', '}'] := rfl
  simp [expressionText, openBraces, closeBraces, Token.marker, Token.expressionInside]

theorem toList_ifText (condition body : String) :
    (ifText condition body).toList =
      Token.marker (Token.openerInside .whenTrue condition.toList) ++
        (body.toList ++ Token.marker (Token.closerInside .whenTrue)) := by
  have opener : "\x7b\x7b#if ".toList = ['{', '{', '#', 'i', 'f', ' '] := rfl
  have closeBraces : "\x7d\x7d".toList = ['}', '}'] := rfl
  have closer : "\x7b\x7b/if\x7d\x7d".toList = Token.marker (Token.closerInside .whenTrue) := rfl
  have keyword : BlockKind.whenTrue.keyword.toList = ['i', 'f'] := rfl
  simp [ifText, opener, closeBraces, closer, Token.marker, Token.openerInside, keyword]

namespace Renderer
variable {State : Type}

/-- **Quoted text is inert in every place.** Let a text hold neither the quote character `mark`
nor a double closing brace. Between two such quotes it is printed as it is. A registered
function that is called with it, under a name that can be called at all
(`Call.isName_of_read?`), gets it as the one argument. So does a registered formatter behind a
path. And a comparison with a path asks whether the path leads to exactly that string. -/
theorem renderText_quoted (renderer : Renderer State)
    (raw : renderer.config.normalizeWhitespace = false) {mark : Char} {text : String}
    (quotable : Text.Quotable mark text.toList) (context : Context) (state : State) :
    renderer.renderText context (expressionText (quotedText mark text)) state = ⟨text, #[], state⟩ ∧
      (∀ (name : String) (function : Function State), Call.isName name.toList = true →
        Dict.find? name renderer.tools.functions = some function →
        renderer.renderText context (expressionText (name ++ "(" ++ quotedText mark text ++ ")")) state =
          let (value, after) := function [.string text] context state
          ⟨String.ofList (Value.display (some value)), #[.called name.toList [.string text]], after⟩) ∧
      (∀ (path name : String) (formatter : Formatter State), Token.isPath path.toList = true →
        PipeStep.IsName name.toList → Dict.find? name renderer.tools.formatters = some formatter →
        renderer.renderText context
            (expressionText (path ++ " | " ++ name ++ ":" ++ quotedText mark text)) state =
          let value := (context.operand? path.toList).getD .null
          let (result, after) := formatter value [.string text] context state
          ⟨String.ofList (Value.display (some result)),
            #[.applied name.toList value [.string text]], after⟩) ∧
      (∀ path : String, Token.isPath path.toList = true → Literal.read? path.toList = none →
        let source := ifText (path ++ " === " ++ quotedText mark text) "Y"
        (context.resolve? path.toList = some (.string text) →
          renderer.renderText context source state = ⟨"Y", #[], state⟩) ∧
        (context.resolve? path.toList ≠ some (.string text) →
          renderer.renderText context source state = ⟨"", #[], state⟩)) := by
  have same : Value.ofChars text.toList = .string text := by simp [Value.ofChars]
  refine ⟨?_, ?_, ?_, ?_⟩
  · rw [renderText_raw renderer raw, toList_expressionText, toList_quotedText,
      Toolbox.renderSource_quoted _ context quotable]
    simp [Progress.write, Progress.start]
  · intro name function named registered
    have source : (name ++ "(" ++ quotedText mark text ++ ")").toList =
        Call.source name.toList (Text.inQuotes mark text.toList) := by
      simp [toList_quotedText, Call.source]
    rw [renderText_raw renderer raw, toList_expressionText, source,
      Toolbox.renderSource_quotedCall _ context quotable named (by simpa using registered), same]
    simp [Progress.write, Progress.start, Progress.record]
  · intro path name formatter isPath named registered
    have source : (path ++ " | " ++ name ++ ":" ++ quotedText mark text).toList =
        PipeStep.source path.toList name.toList (Text.inQuotes mark text.toList) := by
      simp [toList_quotedText, PipeStep.source]
    rw [renderText_raw renderer raw, toList_expressionText, source,
      Toolbox.renderSource_quotedStep _ context quotable isPath named (by simpa using registered), same]
    simp [Progress.write, Progress.start, Progress.record]
  · intro path isPath noLiteral source
    have condition : (path ++ " === " ++ quotedText mark text).toList =
        Condition.identitySource path.toList (Text.inQuotes mark text.toList) := by
      simp [toList_quotedText, Condition.identitySource, Operator.mark]
    have written : renderer.renderText context source state =
        if Value.identical (context.resolve? path.toList) (some (.string text)) = true
        then (Progress.start state).write ['Y'] else Progress.start state := by
      rw [renderText_raw renderer raw, toList_ifText, condition, ← same]
      exact Toolbox.renderSource_quotedSide _ context quotable isPath noLiteral state
    rw [written]
    constructor
    · intro found
      rw [if_pos ((Value.identical_string _ _).mpr found)]
      rfl
    · intro other
      rw [if_neg (mt (Value.identical_string _ _).mp other)]
      rfl

end Renderer

/-! ## A text full of syntax -/

namespace Renderer.Example

/-- A text of characters that act outside quotes. -/
def syntaxText : String := "it's \x7b\x7b#if a|b: c\x7d, /d(e) !== <f>"

/-- A function that gives back its arguments. -/
def listed : Function Unit := Toolbox.pureFunction fun arguments _ => .array arguments

/-- A formatter that puts its value in front of its arguments. -/
def joined : Formatter Unit := Toolbox.pureFormatter fun value arguments _ => .array (value :: arguments)

/-- The example's renderer with a function and a formatter that show what they get. -/
def showingRenderer : Renderer Unit :=
  ⟨renderer.config, (renderer.tools.withFunction "list" listed).withFormatter "join" joined⟩

/-- A context in which a path leads to the text. -/
def syntaxContext : Context := { context with data := Dict.ofList [("note", .string syntaxText)] }

theorem renderText_quoted_syntax :
    let written := quotedText '"' syntaxText
    showingRenderer.config.normalizeWhitespace = false ∧ Text.Quotable '"' syntaxText.toList ∧
      Call.isName "list".toList = true ∧
      Dict.find? "list" showingRenderer.tools.functions = some listed ∧
      Token.isPath "note".toList = true ∧ PipeStep.IsName "join".toList ∧
      Dict.find? "join" showingRenderer.tools.formatters = some joined ∧
      Literal.read? "note".toList = none ∧
      syntaxContext.resolve? "note".toList = some (.string syntaxText) ∧
      showingRenderer.renderText syntaxContext (expressionText written) () = ⟨syntaxText, #[], ()⟩ ∧
      (showingRenderer.renderText syntaxContext
          (expressionText ("list" ++ "(" ++ written ++ ")")) ()).events =
        #[.called "list".toList [.string syntaxText]] ∧
      (showingRenderer.renderText syntaxContext
          (expressionText ("note" ++ " | " ++ "join" ++ ":" ++ written)) ()).events =
        #[.applied "join".toList (.string syntaxText) [.string syntaxText]] ∧
      showingRenderer.renderText syntaxContext (ifText ("note" ++ " === " ++ written) "Y") () =
        ⟨"Y", #[], ()⟩ := by
  have quotable : Text.Quotable '"' syntaxText.toList := {
    quote := by decide
    absent := by decide
    noBraces := Token.not_braces_of_count (by decide) }
  have called : Call.isName "list".toList = true := by decide
  have function : Dict.find? "list" showingRenderer.tools.functions = some listed :=
    Dict.find?_insert_self ..
  have isPath : Token.isPath "note".toList = true := by decide
  have named : PipeStep.IsName "join".toList := {
    nonempty := by decide
    trimmed := by decide
    closed := by decide
    noBar := by decide
    noColon := by decide
    noBraces := Token.not_braces_of_notMem (by decide) }
  have formatter : Dict.find? "join" showingRenderer.tools.formatters = some joined :=
    Dict.find?_insert_self ..
  have noLiteral : Literal.read? "note".toList = none := by rfl
  have found : syntaxContext.resolve? "note".toList = some (.string syntaxText) := by rfl
  obtain ⟨alone, argument, step, side⟩ :=
    renderText_quoted showingRenderer rfl quotable syntaxContext ()
  refine ⟨rfl, quotable, called, function, isPath, named, formatter, noLiteral, found, alone, ?_, ?_, ?_⟩
  · rw [argument "list" listed called function]
  · rw [step "note" "join" joined isPath named formatter, Context.operand?, noLiteral]
    rfl
  · exact (side "note" isPath noLiteral).1 found

end Renderer.Example
end Herald
