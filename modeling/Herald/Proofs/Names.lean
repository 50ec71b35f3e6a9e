/- The characters of paths and function names.

A dotted path and a function's name are words of letters, numbers and three further characters
(`Token.isWord_of_isPath`, `Call.isWord_of_isName`). None of these is blank or a quote character,
and whatever else acts in a template is told from them by evaluation (`notMem_of_word`). -/
import Herald.Call
import Herald.Proofs.Text.Quotes
import Herald.Proofs.Text.Words
import Herald.Token
namespace Herald
set_option autoImplicit false

namespace Text

/-! ## Letters and blanks -/

/-- The code points of the blank characters. -/
def blankCodes : List Nat :=
  List.range' 9 5 ++ [0x20, 0x85, 0xA0, 0x1680] ++ List.range' 0x2000 11 ++
    [0x2028, 0x2029, 0x202F, 0x205F, 0x3000]

theorem toNat_mem_blankCodes {c : Char} (blank : isBlank c = true) : c.toNat ∈ blankCodes := by
  simp only [isBlank, Bool.or_eq_true, Bool.and_eq_true, decide_eq_true_eq, beq_iff_eq] at blank
  simp only [blankCodes, List.mem_append, List.mem_range'_1, List.mem_cons, List.not_mem_nil, or_false]
  omega

theorem not_blank_of_isAlphanumeric {c : Char} (word : isAlphanumeric c = true) : isBlank c = false := by
  have apart : ∀ code ∈ blankCodes,
      (inRanges code letterRanges || inRanges code numericRanges) = false := by
    decide +kernel
  cases blank : isBlank c with
  | false => rfl
  | true =>
      have clash := apart c.toNat (toNat_mem_blankCodes blank)
      rw [isAlphanumeric, isLetter, isNumeric, clash] at word
      cases word

/-! ## Words -/

/-- A character of a dotted path or of a function's name. -/
def isWordChar (c : Char) : Bool := isAlphanumeric c || c == '_' || c == '$' || c == '.'

/-- A text of such characters. -/
def IsWord (text : List Char) : Prop := ∀ c ∈ text, isWordChar c = true

section Words
variable {text : List Char}

theorem notMem_of_word (word : IsWord text) {c : Char} (other : isWordChar c = false) : c ∉ text := by
  intro inside
  rw [word c inside] at other
  cases other

theorem visible_of_word (word : IsWord text) : ∀ c ∈ text, isBlank c = false := by
  intro c inside
  have kind := word c inside
  simp only [isWordChar, Bool.or_eq_true, beq_iff_eq] at kind
  rcases kind with ((letter | rfl) | rfl) | rfl
  · exact not_blank_of_isAlphanumeric letter
  · decide
  · decide
  · decide

theorem unquoted_of_word (word : IsWord text) : ∀ c ∈ text, isQuote c = false := by
  intro c inside
  cases quote : isQuote c with
  | false => rfl
  | true =>
      simp only [isQuote, Bool.or_eq_true, beq_iff_eq] at quote
      rcases quote with rfl | rfl
      · exact absurd inside (notMem_of_word word (by decide))
      · exact absurd inside (notMem_of_word word (by decide))

/-- A word and one more character stand outside quotes if that character is no quote. -/
theorem outside_word_concat (word : IsWord text) {c : Char} (other : isQuote c = false) :
    outside (text ++ [c]) = text ++ [c] ∧ openQuote (text ++ [c]) = none := by
  apply outside_of_unquoted
  intro d inside
  rcases List.mem_append.mp inside with letter | last
  · exact unquoted_of_word word d letter
  · rwa [List.mem_singleton.mp last]

/-- A blank behind a word is trimmed. -/
theorem trim_word_blank (word : IsWord text) : trim (text ++ [' ']) = text := by
  rw [trim_concat_of_blank (by decide), trim_of_visible (visible_of_word word)]

theorem head?_word_append (word : IsWord text) (nonempty : text ≠ []) {c : Char}
    (other : isWordChar c = false) (rest : List Char) : (text ++ rest).head? ≠ some c := by
  cases text with
  | nil => exact absurd rfl nonempty
  | cons first more =>
      intro same
      exact notMem_of_word word other (by rw [← Option.some.inj same]; exact List.mem_cons_self)

/-- A text that begins with a word and ends visibly has nothing to trim. -/
theorem trim_word_append (word : IsWord text) (nonempty : text ≠ []) {last : Char}
    (ends : isBlank last = false) (rest : List Char) :
    trim (text ++ (rest ++ [last])) = text ++ (rest ++ [last]) := by
  cases text with
  | nil => exact absurd rfl nonempty
  | cons first more =>
      have visible := visible_of_word word first List.mem_cons_self
      simpa using trim_of_visible_ends visible ends (more ++ rest)

end Words

end Text

/-! ## Paths and names -/

/-- A dotted path is a word. -/
theorem Token.isWord_of_isPath {text : List Char} (path : isPath text = true) : Text.IsWord text := by
  intro c inside
  by_cases dot : c = '.'
  · rw [dot]
    decide
  · have kept : c ∈ (Text.cutAt (· == '.') text).flatten := by
      rw [Text.flatten_cutAt, List.mem_filter]
      exact ⟨inside, by simpa using dot⟩
    obtain ⟨segment, listed, within⟩ := List.mem_flatten.mp kept
    have letters := (Bool.and_eq_true_iff.mp (List.all_eq_true.mp path segment listed)).2
    rw [Text.isWordChar, List.all_eq_true.mp letters c within, Bool.true_or]

theorem Token.ne_nil_of_isPath {text : List Char} (path : isPath text = true) : text ≠ [] := by
  rintro rfl
  cases path

theorem Call.ne_nil_of_isName {text : List Char} (name : isName text = true) : text ≠ [] := by
  rintro rfl
  cases name

/-- A function's name is a word. -/
theorem Call.isWord_of_isName {text : List Char} (name : isName text = true) : Text.IsWord text := by
  cases text with
  | nil => cases name
  | cons first rest =>
      obtain ⟨begins, goesOn⟩ := Bool.and_eq_true_iff.mp name
      intro c inside
      rcases List.mem_cons.mp inside with rfl | later
      · rcases Bool.or_eq_true_iff.mp begins with letter | low
        · rw [Text.isWordChar, Text.isAlphanumeric, letter]
          rfl
        · rw [beq_iff_eq.mp low]
          decide
      · rw [Text.isWordChar, List.all_eq_true.mp goesOn c later]
        rfl

end Herald
