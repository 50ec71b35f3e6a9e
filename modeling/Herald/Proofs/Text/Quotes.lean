/- What stands outside quotes.

The scanners of an expression act outside quoted stretches only. So a text whose quotes are
closed and that shows no separator outside them is passed over as a whole, whatever it holds
inside: by the cutting at a separator (`cutOutside_append`) and by the search for a mark
(`breakOutside_append`). A text in quotes shows nothing at all (`outside_inQuotes`). -/
import Herald.Proofs.Text.Trim
import Herald.Text.Quotes
namespace Herald.Text
set_option autoImplicit false

/-! ## The characters outside quotes -/

/-- The characters of a text that stand outside quotes, if the quote `quote` is open before
it. -/
def outsideFrom (quote : Option Char) : List Char → List Char
  | [] => []
  | c :: rest =>
    if quote.isNone && !isQuote c then c :: outsideFrom (quoteStep quote c) rest
    else outsideFrom (quoteStep quote c) rest

/-- The characters of a text that stand outside quotes. -/
def outside (text : List Char) : List Char := outsideFrom none text

theorem outsideFrom_append (quote : Option Char) (first second : List Char) :
    outsideFrom quote (first ++ second) =
      outsideFrom quote first ++ outsideFrom (first.foldl quoteStep quote) second := by
  induction first generalizing quote with
  | nil => rfl
  | cons c first ih =>
      simp only [List.cons_append, outsideFrom, List.foldl_cons, ih]
      split <;> rfl

theorem outside_append {first : List Char} (closed : openQuote first = none) (second : List Char) :
    outside (first ++ second) = outside first ++ outside second := by
  rw [outside, outsideFrom_append, ← openQuote, closed, ← outside, ← outside]

theorem outside_cons {c : Char} (plain : isQuote c = false) (rest : List Char) :
    outside (c :: rest) = c :: outside rest := by
  simp [outside, outsideFrom, quoteStep, plain]

/-- A text without quote characters stands outside quotes from end to end. -/
theorem outside_of_unquoted {text : List Char} (unquoted : ∀ c ∈ text, isQuote c = false) :
    outside text = text ∧ openQuote text = none := by
  induction text with
  | nil => exact ⟨rfl, rfl⟩
  | cons c rest ih =>
      obtain ⟨shown, closed⟩ := ih fun d inside => unquoted d (List.mem_cons_of_mem c inside)
      have plain := unquoted c List.mem_cons_self
      have same : quoteStep none c = none := by simp [quoteStep, plain]
      constructor
      · simpa [outside, outsideFrom, plain, same] using shown
      · rwa [openQuote, List.foldl_cons, same]

/-- A character that does not stand outside quotes is not the next one there, and not a later
one. -/
theorem notMem_outsideFrom_cons {wanted c : Char} {quote : Option Char} {rest : List Char}
    (absent : wanted ∉ outsideFrom quote (c :: rest)) :
    ((quote.isNone && !isQuote c) = true → c ≠ wanted) ∧
      wanted ∉ outsideFrom (quoteStep quote c) rest := by
  rw [outsideFrom] at absent
  split at absent
  · obtain ⟨other, later⟩ := not_or.mp (mt List.mem_cons.mpr absent)
    exact ⟨fun _ => Ne.symm other, later⟩
  · rename_i hidden
    exact ⟨fun shown => absurd shown hidden, absent⟩

/-! ## A text in quotes -/

/-- A text between two quotes. -/
def inQuotes (mark : Char) (text : List Char) : List Char := mark :: (text ++ [mark])

section InQuotes
variable {mark : Char} {text : List Char}

/-- A quote stays open until it comes again. -/
theorem outsideFrom_some (absent : mark ∉ text) :
    outsideFrom (some mark) text = [] ∧ text.foldl quoteStep (some mark) = some mark := by
  induction text with
  | nil => exact ⟨rfl, rfl⟩
  | cons c rest ih =>
      obtain ⟨other, deeper⟩ := not_or.mp (mt List.mem_cons.mpr absent)
      have same : quoteStep (some mark) c = some mark := by simp [quoteStep, Ne.symm other]
      simpa [outsideFrom, same] using ih deeper

theorem openQuote_inQuotes (quote : isQuote mark = true) (absent : mark ∉ text) :
    openQuote (inQuotes mark text) = none := by
  simp [openQuote, inQuotes, quoteStep, quote, (outsideFrom_some absent).2]

/-- A text in quotes shows nothing outside them. -/
theorem outside_inQuotes (quote : isQuote mark = true) (absent : mark ∉ text) :
    outside (inQuotes mark text) = [] := by
  obtain ⟨hidden, opened⟩ := outsideFrom_some absent
  simp [outside, inQuotes, outsideFrom, quoteStep, quote, outsideFrom_append, hidden, opened]

theorem unquote_inQuotes (quote : isQuote mark = true) : unquote (inQuotes mark text) = some text := by
  simp [unquote, inQuotes, quote]

theorem not_blank_of_isQuote (quote : isQuote mark = true) : isBlank mark = false := by
  simp only [isQuote, Bool.or_eq_true, beq_iff_eq] at quote
  rcases quote with rfl | rfl <;> decide

theorem unquoted_of_blank {c : Char} (blank : isBlank c = true) : isQuote c = false := by
  cases quote : isQuote c with
  | false => rfl
  | true => exact absurd rfl (ne_of_blank blank (not_blank_of_isQuote quote))

theorem trim_inQuotes (quote : isQuote mark = true) : trim (inQuotes mark text) = inQuotes mark text :=
  trim_of_visible_ends (not_blank_of_isQuote quote) (not_blank_of_isQuote quote) text

end InQuotes

/-! ## Blanks around a text -/

/-- Blanks around a text leave its quotes closed, and show nothing but themselves. -/
theorem Padded.outside {text padded : List Char} (around : Padded text padded)
    (closed : openQuote text = none) :
    openQuote padded = none ∧ ∀ c ∈ Text.outside padded, isBlank c = true ∨ c ∈ Text.outside text := by
  obtain ⟨before, behind, blankBefore, blankBehind, rfl⟩ := around
  obtain ⟨shownBefore, closedBefore⟩ :=
    outside_of_unquoted fun c inside => unquoted_of_blank (blankBefore c inside)
  obtain ⟨shownBehind, closedBehind⟩ :=
    outside_of_unquoted fun c inside => unquoted_of_blank (blankBehind c inside)
  constructor
  · simp only [openQuote] at closed closedBefore closedBehind ⊢
    rw [List.foldl_append, List.foldl_append, closedBefore, closed, closedBehind]
  · intro c inside
    rw [outside_append closedBefore, outside_append closed, shownBefore, shownBehind] at inside
    simp only [List.mem_append] at inside
    rcases inside with first | within | last
    · exact .inl (blankBefore c first)
    · exact .inr within
    · exact .inl (blankBehind c last)

/-! ## Cutting at a separator -/

section Cut
variable {separator : Char}

/-- A text that shows no separator goes to the current piece as a whole. -/
theorem cutOutsideFrom_passed {quote : Option Char} {text : List Char}
    (absent : separator ∉ outsideFrom quote text) (piece : List Char) (pieces : List (List Char))
    (rest : List Char) :
    cutOutsideFrom separator quote piece pieces (text ++ rest) =
      cutOutsideFrom separator (text.foldl quoteStep quote) (text.reverse ++ piece) pieces rest := by
  induction text generalizing quote piece with
  | nil => rfl
  | cons c text ih =>
      obtain ⟨other, later⟩ := notMem_outsideFrom_cons absent
      have passed : ¬ (quote.isNone && !isQuote c && c == separator) = true := by
        intro cut
        obtain ⟨shown, same⟩ := Bool.and_eq_true_iff.mp cut
        exact other shown (beq_iff_eq.mp same)
      rw [List.cons_append, cutOutsideFrom, if_neg passed, ih later, List.foldl_cons,
        List.reverse_cons, List.append_assoc, List.singleton_append]

/-- The pieces already cut come out in front. -/
theorem cutOutsideFrom_pieces (quote : Option Char) (piece : List Char) (pieces : List (List Char))
    (text : List Char) :
    cutOutsideFrom separator quote piece pieces text =
      pieces.reverse ++ cutOutsideFrom separator quote piece [] text := by
  induction text generalizing quote piece pieces with
  | nil => simp [cutOutsideFrom]
  | cons c rest ih =>
      rw [cutOutsideFrom, cutOutsideFrom]
      split
      · rw [ih, ih none [] [piece.reverse]]
        simp
      · rw [ih]

theorem cutOutside_of_notMem {text : List Char} (absent : separator ∉ outside text) :
    cutOutside separator text = [text] := by
  have passed := cutOutsideFrom_passed absent [] [] []
  rw [List.append_nil, List.append_nil] at passed
  rw [cutOutside, passed, cutOutsideFrom, List.reverse_reverse]
  rfl

/-- **Cutting ends a piece at the first separator outside quotes**, whatever stands in
quotes before it. -/
theorem cutOutside_append (plain : isQuote separator = false) {first : List Char}
    (closed : openQuote first = none) (absent : separator ∉ outside first) (rest : List Char) :
    cutOutside separator (first ++ separator :: rest) = first :: cutOutside separator rest := by
  rw [cutOutside, cutOutsideFrom_passed absent, ← openQuote, closed, cutOutsideFrom,
    if_pos (by simp [plain]), cutOutsideFrom_pieces]
  simp [cutOutside]

end Cut

/-! ## Searching for a mark -/

section Break
variable {first : Char} {more : List Char}

/-- A text that does not show how a mark begins is passed over as a whole. -/
theorem breakOutsideFrom_passed {quote : Option Char} {text : List Char}
    (absent : first ∉ outsideFrom quote text) (before rest : List Char) :
    breakOutsideFrom (first :: more) quote before (text ++ rest) =
      breakOutsideFrom (first :: more) (text.foldl quoteStep quote) (text.reverse ++ before) rest := by
  induction text generalizing quote before with
  | nil => rfl
  | cons c text ih =>
      obtain ⟨other, later⟩ := notMem_outsideFrom_cons absent
      have passed : ¬ (quote.isNone && !isQuote c &&
          (first :: more).isPrefixOf (c :: (text ++ rest))) = true := by
        intro found
        obtain ⟨shown, same⟩ := Bool.and_eq_true_iff.mp found
        rw [List.isPrefixOf_cons_cons] at same
        exact other shown (beq_iff_eq.mp (Bool.and_eq_true_iff.mp same).1).symm
      rw [List.cons_append, breakOutsideFrom, if_neg passed, ih later, List.foldl_cons,
        List.reverse_cons, List.append_assoc, List.singleton_append]

/-- **The search finds a mark behind a text that does not show how it begins.** -/
theorem breakOutside_append (plain : isQuote first = false) {left : List Char}
    (closed : openQuote left = none) (absent : first ∉ outside left) (right : List Char) :
    breakOutside (first :: more) (left ++ ((first :: more) ++ right)) = some (left, right) := by
  rw [breakOutside, breakOutsideFrom_passed absent, ← openQuote, closed, List.cons_append,
    breakOutsideFrom, if_pos (by simp [plain])]
  simp

end Break

end Herald.Text
