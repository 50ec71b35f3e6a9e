/- How calls are written.

The arguments of a call are the trimmed pieces of its list between the commas outside quotes,
unless a quote stays open (`readArguments?_eq`). A text that is a name with a list in parentheses
behind it, with blanks around the two, is read as a call exactly if its list can be read
(`read?_spelled`). So every list of arguments that can be written is read back, and none with an
open quote is (`read?_written`). -/
import Herald.Proofs.Names
import Herald.Proofs.Text.Pieces
namespace Herald
set_option autoImplicit false
namespace Call

/-! ## The list of arguments -/

/-- The scan ends with the trimmed pieces of what it reads, unless a quote is open then. -/
theorem scanArguments_eq (quote : Option Char) (argument : List Char) (done : List (List Char))
    (text : List Char) :
    scanArguments quote argument done text =
      if text.foldl Text.quoteStep quote = none then
        some (done.reverse ++ (Text.cutOutsideFrom ',' quote argument [] text).map Text.trim)
      else none := by
  induction text generalizing quote argument done with
  | nil =>
      cases quote with
      | none => simp [scanArguments, Text.cutOutsideFrom]
      | some opened => rfl
  | cons c text ih =>
      rw [List.foldl_cons]
      cases quote with
      | some opened => exact ih _ _ _
      | none =>
          rw [scanArguments, Text.cutOutsideFrom]
          by_cases begins : Text.isQuote c = true
          · simp [begins, Text.quoteStep, ih]
          · by_cases comma : c = ','
            · subst comma
              rw [Text.cutOutsideFrom_pieces]
              simp [begins, Text.quoteStep, ih]
            · simp [begins, comma, Text.quoteStep, ih]

/-- **A list that is not blank is read as its trimmed pieces, unless a quote stays open.** -/
theorem readArguments?_eq (list : List Char) :
    readArguments? list =
      if Text.trim list = [] then some []
      else if Text.openQuote list = none then some (Text.splitOutside ',' list) else none := by
  simp only [readArguments?, List.isEmpty_iff, scanArguments_eq]
  rfl

/-- A text that can be an argument. -/
structure IsArgument (argument : List Char) : Prop where
  nonempty : argument ≠ []
  trimmed : Text.trim argument = argument
  closed : Text.openQuote argument = none
  noComma : ',' ∉ Text.outside argument

/-- How a list of arguments is written: the arguments with blanks around them and commas between
them, and only blanks for no arguments. -/
inductive Lists : List (List Char) → List Char → Prop
  | nothing {list : List Char} (blank : ∀ c ∈ list, Text.isBlank c = true) : Lists [] list
  | joined {arguments pieces : List (List Char)} (nonempty : arguments ≠ [])
      (padded : List.Forall₂ Text.Padded arguments pieces) :
      Lists arguments (Text.joinWith [','] pieces)

/-- Padded arguments are pieces that can stand between commas. -/
theorem pieces_of_padded {arguments pieces : List (List Char)}
    (padded : List.Forall₂ Text.Padded arguments pieces)
    (each : ∀ argument ∈ arguments, IsArgument argument) :
    pieces.map Text.trim = arguments ∧
      ∀ piece ∈ pieces, Text.openQuote piece = none ∧ ',' ∉ Text.outside piece := by
  induction padded with
  | nil => exact ⟨rfl, nofun⟩
  | cons around more ih =>
      rename_i argument piece arguments pieces
      have own := each argument List.mem_cons_self
      obtain ⟨trimmed, others⟩ := ih fun other inside => each other (List.mem_cons_of_mem argument inside)
      obtain ⟨closed, shown⟩ := around.outside own.closed
      have noComma : ',' ∉ Text.outside piece := by
        intro comma
        rcases shown ',' comma with blank | within
        · exact absurd blank (by decide)
        · exact own.noComma within
      constructor
      · rw [List.map_cons, around.trim_eq, own.trimmed, trimmed]
      · exact List.forall_mem_cons.mpr ⟨⟨closed, noComma⟩, others⟩

/-- **A written list is read back.** -/
theorem Lists.read {arguments : List (List Char)} {list : List Char} (written : Lists arguments list)
    (each : ∀ argument ∈ arguments, IsArgument argument) : readArguments? list = some arguments := by
  rw [readArguments?_eq]
  cases written with
  | nothing blank =>
      rw [if_pos (Text.trim_eq_nil_iff.mpr blank)]
  | joined nonempty padded =>
      rename_i pieces
      obtain ⟨trimmed, whole⟩ := pieces_of_padded padded each
      have cut : Text.CutInto ',' (Text.joinWith [','] pieces) pieces := {
        nonempty := by
          rintro rfl
          exact nonempty trimmed.symm
        joined := rfl
        closed := fun piece listed => (whole piece listed).1
        whole := fun piece listed => (whole piece listed).2 }
      have split : Text.splitOutside ',' (Text.joinWith [','] pieces) = arguments := by
        rw [Text.splitOutside, cut.cutOutside (by decide), trimmed]
      -- A blank list has one empty piece, which is no argument.
      have something : Text.trim (Text.joinWith [','] pieces) ≠ [] := by
        intro blank
        rw [← Text.splitOutside_trim (by decide), blank] at split
        exact (each [] (by rw [← split]; exact List.mem_singleton_self _)).nonempty rfl
      rw [if_neg something, if_pos (Text.openQuote_joinWith (by decide) cut.closed), split]

/-! ## The whole call -/

/-- How a call with some list is written: the name and the list in parentheses, with blanks around
the name and around the whole. -/
def Spells (name list text : List Char) : Prop :=
  ∃ padded, Text.Padded name padded ∧ Text.Padded (padded ++ '(' :: (list ++ [')'])) text

/-- **A spelled call is read if its list is.** -/
theorem read?_spelled {name list text : List Char} (named : isName name = true)
    (spelled : Spells name list text) :
    read? text = (readArguments? list).map fun arguments => ⟨name, arguments⟩ := by
  obtain ⟨padded, ⟨before, behind, blankBefore, blankBehind, rfl⟩, around⟩ := spelled
  have word := isWord_of_isName named
  have trimmed : Text.trim text = name ++ (behind ++ '(' :: (list ++ [')'])) := by
    have ends := Text.trim_word_append word (ne_nil_of_isName named) (by decide : Text.isBlank ')' = false)
      (behind ++ '(' :: list)
    have shape : before ++ (name ++ behind) ++ '(' :: (list ++ [')']) =
        before ++ (name ++ ((behind ++ '(' :: list) ++ [')'])) := by simp
    rw [around.trim_eq, shape, Text.trim_append_of_blank blankBefore, ends]
    simp
  have noParenthesis : ∀ c ∈ name ++ behind, (c != '(') = true := by
    intro c inside
    rw [bne_iff_ne]
    rintro rfl
    rcases List.mem_append.mp inside with first | later
    · exact Text.notMem_of_word word (by decide) first
    · exact absurd (blankBehind _ later) (by decide)
  rw [← List.append_assoc] at trimmed
  have front : (Text.trim text).takeWhile (· != '(') = name ++ behind := by
    rw [trimmed, List.takeWhile_append_of_pos noParenthesis]
    simp
  have rest : (Text.trim text).dropWhile (· != '(') = '(' :: (list ++ [')']) := by
    rw [trimmed, List.dropWhile_append_of_pos noParenthesis]
    simp
  have called : Text.trim (name ++ behind) = name := by
    rw [Text.trim_append_blank blankBehind, Text.trim_of_visible (Text.visible_of_word word)]
  simp only [read?, front, rest, called]
  simp [named]

/-- A call with one argument and no blanks. -/
theorem read?_single {name argument : List Char} (named : isName name = true)
    (closed : Text.openQuote argument = none) (whole : ',' ∉ Text.outside argument)
    (nonempty : Text.trim argument ≠ []) :
    read? (name ++ '(' :: (argument ++ [')'])) = some ⟨name, [Text.trim argument]⟩ := by
  have bare : ∀ text, Text.Padded text text := fun text => ⟨[], [], nofun, nofun, by simp⟩
  rw [read?_spelled named ⟨name, bare name, bare _⟩, readArguments?_eq, if_neg nonempty, if_pos closed,
    Text.splitOutside, Text.cutOutside_of_notMem whole]
  rfl

/-- Only a function's name can be called. -/
theorem isName_of_read? {text : List Char} {call : Call} (found : read? text = some call) :
    isName call.name = true := by
  simp only [read?] at found
  split at found
  · cases found
  · split at found
    · rename_i shape
      obtain ⟨arguments, -, rfl⟩ := Option.map_eq_some_iff.mp found
      exact (Bool.and_eq_true_iff.mp shape).2
    · cases found

/-- A call ends in a parenthesis. -/
theorem read?_eq_none {text : List Char} (ends : (Text.trim text).getLast? ≠ some ')') :
    read? text = none := by
  rw [read?]
  split
  · rfl
  · rename_i c rest behind
    obtain ⟨before, whole⟩ := List.dropWhile_suffix (· != '(') (l := Text.trim text)
    rw [behind] at whole
    have other : rest.getLast? ≠ some ')' := by
      intro last
      rw [← whole, List.getLast?_append, List.getLast?_cons, last] at ends
      exact ends rfl
    rw [if_neg]
    simp [other]

/-! ## The values of arguments -/

/-- **An argument has the value of the operand that it is**, and is null where that is
undefined. -/
theorem argumentValue_eq (context : Context) {argument : List Char}
    (trimmed : Text.trim argument = argument) :
    argumentValue context argument = (context.operand? argument).getD .null := by
  rw [argumentValue]
  cases quoted : Text.unquote argument with
  | none => rfl
  | some inside =>
      have nonempty : argument.isEmpty = false := by
        cases argument with
        | nil => cases quoted
        | cons c rest => rfl
      rw [Context.operand?, Literal.read?, trimmed, quoted]
      simp only [nonempty]
      rfl

/-- **Calls receive exactly the written arguments.** Let each argument be a text that is not empty,
begins and ends visibly, closes its quotes and shows no comma outside them. A call is read from a
name and such arguments as they are written, with whatever blanks around them, and the value of
each argument is that of the operand that it is, null where that is undefined. But a list that is
not blank makes no call if one of its quotes stays open. -/
theorem read?_written {name : List Char} (named : isName name = true) :
    (∀ arguments list text, (∀ argument ∈ arguments, IsArgument argument) → Lists arguments list →
      Spells name list text →
      read? text = some ⟨name, arguments⟩ ∧
        ∀ context, values context ⟨name, arguments⟩ =
          arguments.map fun argument => (context.operand? argument).getD .null) ∧
    ∀ list text, Spells name list text → Text.trim list ≠ [] → Text.openQuote list ≠ none →
      read? text = none := by
  constructor
  · intro arguments list text each written spelled
    constructor
    · rw [read?_spelled named spelled, written.read each]
      rfl
    · intro context
      exact List.map_congr_left fun argument inside => argumentValue_eq context (each argument inside).trimmed
  · intro list text spelled something opened
    rw [read?_spelled named spelled, readArguments?_eq, if_neg something, if_neg opened]
    rfl

/-! ## A call with syntax in its arguments -/

namespace Example

def name : List Char := "list".toList

/-- A quoted text with a comma, a text with parentheses and a number. -/
def arguments : List (List Char) := ["'a, (b'".toList, "g(1)".toList, "2".toList]

def list : List Char := " 'a, (b',g(1)\n, 2".toList

def written : List Char := "\tlist ( 'a, (b',g(1)\n, 2) ".toList

/-- A list whose quote stays open. -/
def openList : List Char := "1, 'a".toList

def openWritten : List Char := "list(1, 'a)".toList

theorem isArgument_arguments : ∀ argument ∈ arguments, IsArgument argument := by
  have each : ∀ argument ∈ arguments, argument ≠ [] ∧ Text.trim argument = argument ∧
      Text.openQuote argument = none ∧ ',' ∉ Text.outside argument := by
    decide
  intro argument inside
  obtain ⟨nonempty, trimmed, closed, noComma⟩ := each argument inside
  exact ⟨nonempty, trimmed, closed, noComma⟩

theorem lists_arguments : Lists arguments list := by
  have space : ∀ c ∈ [' '], Text.isBlank c = true := List.all_eq_true.mp rfl
  have newline : ∀ c ∈ ['\n'], Text.isBlank c = true := List.all_eq_true.mp rfl
  have first : Text.Padded "'a, (b'".toList " 'a, (b'".toList := ⟨[' '], [], space, nofun, rfl⟩
  have second : Text.Padded "g(1)".toList "g(1)\n".toList := ⟨[], ['\n'], nofun, newline, rfl⟩
  have third : Text.Padded "2".toList " 2".toList := ⟨[' '], [], space, nofun, rfl⟩
  exact .joined (by decide) (.cons first (.cons second (.cons third .nil)))

theorem spells_written : Spells name list written := by
  have space : ∀ c ∈ [' '], Text.isBlank c = true := List.all_eq_true.mp rfl
  have tab : ∀ c ∈ ['\t'], Text.isBlank c = true := List.all_eq_true.mp rfl
  exact ⟨"list ".toList, ⟨[], [' '], nofun, space, rfl⟩, ['\t'], [' '], tab, space, rfl⟩

theorem spells_openWritten : Spells name openList openWritten :=
  ⟨name, ⟨[], [], nofun, nofun, rfl⟩, [], [], nofun, nofun, rfl⟩

theorem read?_written_syntax :
    isName name = true ∧ (∀ argument ∈ arguments, IsArgument argument) ∧ Lists arguments list ∧
      Spells name list written ∧ Spells name openList openWritten ∧ Text.trim openList ≠ [] ∧
      Text.openQuote openList ≠ none ∧
      read? written = some ⟨name, arguments⟩ ∧
      (∀ context : Context, values context ⟨name, arguments⟩ =
        [.string "a, (b", (context.resolve? "g(1)".toList).getD .null, .int 2]) ∧
      read? openWritten = none := by
  have named : isName name = true := by decide
  have something : Text.trim openList ≠ [] := by decide
  have opened : Text.openQuote openList ≠ none := by decide
  obtain ⟨reads, refuses⟩ := read?_written named
  obtain ⟨call, received⟩ := reads arguments list written isArgument_arguments lists_arguments spells_written
  refine ⟨named, isArgument_arguments, lists_arguments, spells_written, spells_openWritten, something,
    opened, call, ?_, refuses openList openWritten spells_openWritten something opened⟩
  intro context
  rw [received]
  rfl

end Example
end Call
end Herald
