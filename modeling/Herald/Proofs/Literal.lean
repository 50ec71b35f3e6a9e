/- How literals are written.

A literal is told by how it is written: a text in quotes, one of four words, or a number. A
step's argument that is none of these denotes its own text, so every argument denotes exactly
one value (`PipeStep.denotes_iff`). No literal is a call (`Call.read?_of_literal`). -/
import Herald.Proofs.Expression
namespace Herald
set_option autoImplicit false

/-! ## Quoted texts -/

theorem Text.unquote_eq_some {text inside : List Char} :
    unquote text = some inside ↔ ∃ mark, isQuote mark = true ∧ text = inQuotes mark inside := by
  constructor
  · intro found
    cases text with
    | nil => cases found
    | cons first rest =>
        rw [unquote] at found
        split at found
        · rename_i quoted
          obtain ⟨quote, last⟩ := Bool.and_eq_true_iff.mp quoted
          obtain ⟨front, rfl⟩ := List.getLast?_eq_some_iff.mp (beq_iff_eq.mp last)
          have same : front = inside := by simpa using found
          exact ⟨first, quote, by rw [inQuotes, same]⟩
        · cases found
  · rintro ⟨mark, quote, rfl⟩
    exact unquote_inQuotes quote

/-! ## Numbers -/

namespace Literal

/-- The words that are literals. -/
def words : List (List Char) := ["true".toList, "false".toList, "null".toList, "undefined".toList]

/-- A number begins with a sign, a point or a digit. -/
theorem exists_head_of_readNumber? {text : List Char} {number : Number}
    (read : readNumber? text = some number) :
    ∃ first rest, text = first :: rest ∧
      (first = '-' ∨ first = '+' ∨ first = '.' ∨ first.isDigit = true) := by
  cases text with
  | nil => cases read
  | cons first rest =>
      refine ⟨first, rest, rfl, ?_⟩
      by_cases sign : (first == '-' || first == '+') = true
      · simp only [Bool.or_eq_true, beq_iff_eq] at sign
        rcases sign with minus | plus
        · exact .inl minus
        · exact .inr (.inl plus)
      · by_cases numeral : (first.isDigit || first == '.') = true
        · simp only [Bool.or_eq_true, beq_iff_eq] at numeral
          rcases numeral with digit | point
          · exact .inr (.inr (.inr digit))
          · exact .inr (.inr (.inl point))
        · simp [readNumber?, sign, numeral] at read

theorem readNumber?_inQuotes {mark : Char} (quote : Text.isQuote mark = true) (text : List Char) :
    readNumber? (Text.inQuotes mark text) = none := by
  simp only [Text.isQuote, Bool.or_eq_true, beq_iff_eq] at quote
  rcases quote with rfl | rfl <;> rfl

theorem readNumber?_word {text : List Char} (word : text ∈ words) : readNumber? text = none := by
  simp only [words, List.mem_cons, List.not_mem_nil, or_false] at word
  rcases word with rfl | rfl | rfl | rfl <;> rfl

/-- What is neither quoted nor a word is read as a number, if at all. -/
theorem read?_eq_readNumber? {text : List Char} (trimmed : Text.trim text = text)
    (unquoted : Text.unquote text = none) (noWord : text ∉ words) :
    read? text = (readNumber? text).map fun number => .defined (.number number) := by
  simp only [words, List.mem_cons, List.not_mem_nil, or_false, not_or] at noWord
  obtain ⟨noTrue, noFalse, noNull, noUndefined⟩ := noWord
  rw [read?, trimmed]
  cases text with
  | nil => rfl
  | cons c rest => simp only [unquoted, beq_iff_eq, noTrue, noFalse, noNull, noUndefined,
      List.isEmpty_cons, if_false, Bool.false_eq_true]

end Literal

/-! ## Arguments of a step -/

namespace PipeStep

/-- What an argument denotes, by how it is written. -/
inductive Denotes : List Char → Value → Prop
  | quoted {mark : Char} (quote : Text.isQuote mark = true) (inside : List Char) :
      Denotes (Text.inQuotes mark inside) (.ofChars inside)
  | yes : Denotes "true".toList (.bool true)
  | no : Denotes "false".toList (.bool false)
  | null : Denotes "null".toList .null
  | undefined : Denotes "undefined".toList .null
  | number {text : List Char} {number : Number} (read : Literal.readNumber? text = some number) :
      Denotes text (.number number)
  | bare {text : List Char} (unquoted : Text.unquote text = none) (noWord : text ∉ Literal.words)
      (noNumber : Literal.readNumber? text = none) : Denotes text (.ofChars text)

/-- **Every trimmed argument denotes exactly one value.** -/
theorem denotes_iff {text : List Char} (trimmed : Text.trim text = text) (value : Value) :
    Denotes text value ↔ argumentValue text = value := by
  constructor
  · intro denotes
    cases denotes with
    | quoted quote inside =>
        rw [argumentValue, Literal.read?, trimmed, Text.unquote_inQuotes quote]
        rfl
    | yes => rfl
    | no => rfl
    | null => rfl
    | undefined => rfl
    | number read =>
        have unquoted : Text.unquote text = none := by
          cases quoted : Text.unquote text with
          | none => rfl
          | some inside =>
              obtain ⟨mark, quote, rfl⟩ := Text.unquote_eq_some.mp quoted
              rw [Literal.readNumber?_inQuotes quote] at read
              cases read
        have noWord : text ∉ Literal.words := by
          intro word
          rw [Literal.readNumber?_word word] at read
          cases read
        rw [argumentValue, Literal.read?_eq_readNumber? trimmed unquoted noWord, read]
        rfl
    | bare unquoted noWord noNumber =>
        rw [argumentValue, Literal.read?_eq_readNumber? trimmed unquoted noWord, noNumber]
        rfl
  · rintro rfl
    cases quoted : Text.unquote text with
    | some inside =>
        obtain ⟨mark, quote, rfl⟩ := Text.unquote_eq_some.mp quoted
        have value : argumentValue (Text.inQuotes mark inside) = .ofChars inside := by
          rw [argumentValue, Literal.read?, trimmed, quoted]
          rfl
        rw [value]
        exact .quoted quote inside
    | none =>
        by_cases word : text ∈ Literal.words
        · simp only [Literal.words, List.mem_cons, List.not_mem_nil, or_false] at word
          rcases word with rfl | rfl | rfl | rfl
          · exact .yes
          · exact .no
          · exact .null
          · exact .undefined
        · rw [argumentValue, Literal.read?_eq_readNumber? trimmed quoted word]
          cases read : Literal.readNumber? text with
          | none => exact .bare quoted word read
          | some number => exact .number read

end PipeStep

/-! ## Literals and calls -/

/-- A digit is no letter. -/
theorem Text.isLetter_of_isDigit {c : Char} (digit : c.isDigit = true) : isLetter c = false := by
  have apart : ∀ code ∈ List.range' 48 10, inRanges code letterRanges = false := by decide +kernel
  apply apart
  simp only [Char.isDigit, Bool.and_eq_true, decide_eq_true_eq, UInt32.le_iff_toNat_le] at digit
  rw [List.mem_range'_1]
  exact ⟨digit.1, Nat.lt_succ_of_le digit.2⟩

namespace Call

/-- A call begins with a letter or an underscore. -/
theorem exists_head_of_read? {text : List Char} {call : Call} (trimmed : Text.trim text = text)
    (found : read? text = some call) :
    ∃ first rest, text = first :: rest ∧ (Text.isLetter first = true ∨ first = '_') := by
  have named : isName (Text.trim (text.takeWhile (· != '('))) = true := by
    rw [read?, trimmed] at found
    split at found
    · cases found
    · split at found
      · rename_i shape
        exact (Bool.and_eq_true_iff.mp shape).2
      · cases found
  cases text with
  | nil => cases named
  | cons first rest =>
      have visible : Text.isBlank first = false := Text.visible_of_trimmed trimmed
      refine ⟨first, rest, rfl, ?_⟩
      by_cases other : (first != '(') = true
      · rw [List.takeWhile_cons, if_pos other, Text.trim, Text.trimStart_cons_of_visible visible,
          Text.trimEnd_cons_of_visible visible, isName] at named
        simpa using (Bool.and_eq_true_iff.mp named).1
      · rw [List.takeWhile_cons, if_neg other] at named
        cases named

/-- **No literal is a call.** -/
theorem read?_of_literal {text : List Char} {literal : Literal} (trimmed : Text.trim text = text)
    (found : Literal.read? text = some literal) : read? text = none := by
  cases called : read? text with
  | none => rfl
  | some call =>
      obtain ⟨first, rest, rfl, begins⟩ := exists_head_of_read? trimmed called
      cases quoted : Text.unquote (first :: rest) with
      | some inside =>
          obtain ⟨mark, quote, shape⟩ := Text.unquote_eq_some.mp quoted
          obtain ⟨rfl, -⟩ := List.cons.inj shape
          simp only [Text.isQuote, Bool.or_eq_true, beq_iff_eq] at quote
          rcases quote with rfl | rfl <;> exact absurd begins (by decide)
      | none =>
          by_cases word : first :: rest ∈ Literal.words
          · rw [← called]
            simp only [Literal.words, List.mem_cons, List.not_mem_nil, or_false] at word
            rcases word with shape | shape | shape | shape <;> rw [shape] <;> rfl
          · rw [Literal.read?_eq_readNumber? trimmed quoted word] at found
            obtain ⟨number, read, -⟩ := Option.map_eq_some_iff.mp found
            obtain ⟨first', rest', shape, numeral⟩ := Literal.exists_head_of_readNumber? read
            obtain ⟨rfl, rfl⟩ := List.cons.inj shape
            rcases numeral with rfl | rfl | rfl | digit
            · exact absurd begins (by decide)
            · exact absurd begins (by decide)
            · exact absurd begins (by decide)
            · rcases begins with letter | rfl
              · rw [Text.isLetter_of_isDigit digit] at letter
                cases letter
              · cases digit

end Call
end Herald
