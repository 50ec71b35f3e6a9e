/- The markers of a template source.

A source is a sequence of tokens: literal text, block markers and placeholders. Every token
keeps the text it was read from, so a marker that finds no partner can be written back as it
stood.

A double brace opens a marker that reaches to the next double closing brace. Its trimmed
inside is an opener (a hash sign, the keyword `if`, `unless` or `each`, a blank and an
argument), a closer (a slash and a keyword), the word `else`, or an expression. A hash sign
or slash with any other keyword is no marker, and its text is literal. A single brace opens
a placeholder only if its trimmed inside, up to the next closing brace, is a dotted path.
Reading never fails: what is no marker is text. -/
import Herald.Text.Blank
import Herald.Text.Letters
namespace Herald
set_option autoImplicit false

/-- The kinds of blocks. -/
inductive BlockKind where
  | whenTrue
  | whenFalse
  | each
  deriving DecidableEq, Repr

/-- The two ways to write a placeholder. -/
inductive Braces where
  | double
  | single
  deriving DecidableEq, Repr

/-- A token of a template source; `raw` is its text. -/
inductive Token where
  | text (raw : List Char)
  | opener (kind : BlockKind) (argument raw : List Char)
  | otherwise (raw : List Char)
  | closer (kind : BlockKind) (raw : List Char)
  | placeholder (source : List Char) (braces : Braces) (raw : List Char)
  deriving DecidableEq, Repr

/-- The keyword of a kind of block. -/
def BlockKind.keyword : BlockKind → String
  | .whenTrue => "if"
  | .whenFalse => "unless"
  | .each => "each"

/-- The kind of block that a keyword opens or closes. -/
def BlockKind.ofKeyword? (word : List Char) : Option BlockKind :=
  [BlockKind.whenTrue, .whenFalse, .each].find? fun kind => kind.keyword.toList == word

namespace Token

/-- The text a token was read from. -/
def raw : Token → List Char
  | .text raw => raw
  | .opener _ _ raw => raw
  | .otherwise raw => raw
  | .closer _ raw => raw
  | .placeholder _ _ raw => raw

/-- A dotted path: nonempty segments of letters, numbers, underscores and dollar signs. -/
def isPath (text : List Char) : Bool :=
  (Text.cutAt (· == '.') text).all fun segment =>
    !segment.isEmpty && segment.all fun c => Text.isAlphanumeric c || c == '_' || c == '$'

/-- Splits at the first double closing brace into the text before it and the text behind
it; `before` is the text passed so far, reversed. -/
def breakClosing (before : List Char) : List Char → Option (List Char × List Char)
  | [] => none
  | '}' :: '}' :: rest => some (before.reverse, rest)
  | c :: rest => breakClosing (c :: before) rest

/-- The token of a double-brace marker by its inside. -/
def ofInside? (inside : List Char) : Option Token :=
  let raw := '{' :: '{' :: (inside ++ ['}', '}'])
  match Text.trim inside with
  | '#' :: rest =>
    (BlockKind.ofKeyword? (rest.takeWhile (!Text.isBlank ·))).map fun kind =>
      .opener kind (Text.trim (rest.dropWhile (!Text.isBlank ·))) raw
  | '/' :: rest => (BlockKind.ofKeyword? (Text.trim rest)).map fun kind => .closer kind raw
  | source => if source == "else".toList then some (.otherwise raw) else some (.placeholder source .double raw)

/-- The placeholder at a single brace, by the text after the brace, and the rest. -/
def ofSingle? (text : List Char) : Option (Token × List Char) :=
  let inside := text.takeWhile (· != '}')
  match text.dropWhile (· != '}') with
  | [] => none
  | _ :: rest =>
    if isPath (Text.trim inside) then
      some (.placeholder (Text.trim inside) .single ('{' :: (inside ++ ['}'])), rest)
    else none

/-- The tokens with the pending literal text put in front, if there is any. `held` and
`done` are reversed. -/
def flush (held : List Char) (done : List Token) : List Token :=
  if held.isEmpty then done else .text held.reverse :: done

theorem breakClosing_shorter (before text inside rest : List Char)
    (found : breakClosing before text = some (inside, rest)) : rest.length < text.length := by
  fun_induction breakClosing before text with
  | case1 => simp at found
  | case2 before after =>
    obtain ⟨-, rfl⟩ : before.reverse = inside ∧ after = rest := by simpa using found
    exact Nat.lt_add_of_pos_right (by decide : 0 < 2)
  | case3 before c after _ ih => exact Nat.lt_succ_of_lt (ih found)

theorem ofSingle_shorter (text rest : List Char) (token : Token)
    (found : ofSingle? text = some (token, rest)) : rest.length < text.length := by
  simp only [ofSingle?] at found
  split at found
  · simp at found
  · rename_i c after split
    have bound : (c :: after).length ≤ text.length := by
      rw [← split]; exact (List.dropWhile_suffix (· != '}')).length_le
    simp only [List.length_cons] at bound
    split at found
    · simp only [Option.some.injEq, Prod.mk.injEq] at found
      rw [← found.2]; omega
    · simp at found

/-- Reads the tokens of a text, after the literal text `held` and the tokens `done`.
`closable` is false once a double brace has found no double closing brace: no later one can
find one either. -/
def scan (closable : Bool) (held : List Char) (done : List Token) (text : List Char) : List Token :=
  match text with
  | [] => (flush held done).reverse
  | '{' :: '{' :: inner =>
    match _found : (if closable then breakClosing [] inner else none) with
    | none => scan false ('{' :: '{' :: held) done inner
    | some (inside, rest) =>
      match ofInside? inside with
      | some token => scan closable [] (token :: flush held done) rest
      | none => scan closable ('}' :: '}' :: (inside.reverse ++ '{' :: '{' :: held)) done rest
  | '{' :: rest =>
    match _found : ofSingle? rest with
    | some (token, after) => scan closable [] (token :: flush held done) after
    | none => scan closable ('{' :: held) done rest
  | c :: rest => scan closable (c :: held) done rest
termination_by text.length
decreasing_by
  all_goals simp only [List.length_cons]
  · omega
  · have closing : breakClosing [] inner = some (inside, rest) := by
      split at _found
      · exact _found
      · simp at _found
    have := breakClosing_shorter [] inner inside rest closing
    omega
  · have closing : breakClosing [] inner = some (inside, rest) := by
      split at _found
      · exact _found
      · simp at _found
    have := breakClosing_shorter [] inner inside rest closing
    omega
  · have := ofSingle_shorter rest after token _found
    omega
  · omega
  · omega

/-- The tokens of a template source. -/
def ofSource (source : List Char) : List Token := scan true [] [] source

end Token
end Herald
