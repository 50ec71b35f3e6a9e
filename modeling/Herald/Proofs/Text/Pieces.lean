/- Cutting and joining.

Cutting at a separator outside quotes undoes joining: a text whose quotes are closed has exactly
one way to be the joined text of pieces that are closed themselves and show no separator, and
cutting finds it (`cutInto_iff`). Blanks around the text end up around its first and its last
piece, so the trimmed pieces do not see them (`splitOutside_trim`). -/
import Mathlib.Data.List.Induction
import Herald.Proofs.Text.Quotes
import Herald.Proofs.Text.Words
namespace Herald.Text
set_option autoImplicit false

/-! ## Pieces -/

/-- A text is its pieces with a separator between neighbours, each piece closed and without a
separator outside quotes. -/
structure CutInto (separator : Char) (text : List Char) (pieces : List (List Char)) : Prop where
  nonempty : pieces ≠ []
  joined : joinWith [separator] pieces = text
  closed : ∀ piece ∈ pieces, openQuote piece = none
  whole : ∀ piece ∈ pieces, separator ∉ outside piece

section Cut
variable {separator : Char} {text : List Char}

/-- Cutting finds the pieces of a joined text. -/
theorem CutInto.cutOutside (plain : isQuote separator = false) {pieces : List (List Char)}
    (cut : CutInto separator text pieces) : cutOutside separator text = pieces := by
  obtain ⟨nonempty, rfl, closed, whole⟩ := cut
  induction pieces with
  | nil => exact absurd rfl nonempty
  | cons first rest ih =>
      have firstClosed := closed first List.mem_cons_self
      have firstWhole := whole first List.mem_cons_self
      cases rest with
      | nil => rw [joinWith_singleton, cutOutside_of_notMem firstWhole]
      | cons second rest =>
          rw [joinWith_cons_cons, List.singleton_append, cutOutside_append plain firstClosed firstWhole,
            ih (List.cons_ne_nil _ _)]
          · exact fun piece inside => closed piece (List.mem_cons_of_mem first inside)
          · exact fun piece inside => whole piece (List.mem_cons_of_mem first inside)

/-- Pieces with closed quotes make a text with closed quotes. -/
theorem openQuote_joinWith (plain : isQuote separator = false) {pieces : List (List Char)}
    (closed : ∀ piece ∈ pieces, openQuote piece = none) :
    openQuote (joinWith [separator] pieces) = none := by
  have passed : quoteStep none separator = none := by simp [quoteStep, plain]
  induction pieces with
  | nil => rfl
  | cons first rest ih =>
      have firstClosed := closed first List.mem_cons_self
      cases rest with
      | nil => rwa [joinWith_singleton]
      | cons second rest =>
          have later := ih fun piece inside => closed piece (List.mem_cons_of_mem first inside)
          rw [openQuote] at firstClosed
          rwa [joinWith_cons_cons, List.singleton_append, openQuote, List.foldl_append, firstClosed,
            List.foldl_cons, passed]

/-- Either a text shows no separator, or it can be cut at the first one. -/
theorem exists_first_separator (plain : isQuote separator = false) (quote : Option Char)
    (text : List Char) :
    separator ∉ outsideFrom quote text ∨
      ∃ first rest, text = first ++ separator :: rest ∧ separator ∉ outsideFrom quote first ∧
        first.foldl quoteStep quote = none := by
  induction text generalizing quote with
  | nil => exact .inl List.not_mem_nil
  | cons c text ih =>
      by_cases here : (quote.isNone && !isQuote c) = true ∧ c = separator
      · obtain ⟨shown, rfl⟩ := here
        have open? : quote = none := by
          simpa using (Bool.and_eq_true_iff.mp shown).1
        exact .inr ⟨[], text, rfl, List.not_mem_nil, open?⟩
      · rcases ih (quoteStep quote c) with absent | ⟨first, rest, rfl, absent, closed⟩
        · left
          rw [outsideFrom]
          split
          · rename_i shown
            rw [List.mem_cons, not_or]
            exact ⟨fun same => here ⟨shown, same.symm⟩, absent⟩
          · exact absent
        · refine .inr ⟨c :: first, rest, rfl, ?_, closed⟩
          rw [outsideFrom]
          split
          · rename_i shown
            rw [List.mem_cons, not_or]
            exact ⟨fun same => here ⟨shown, same.symm⟩, absent⟩
          · exact absent

/-- Every closed text has pieces. -/
theorem exists_cutInto (plain : isQuote separator = false) {text : List Char}
    (closed : openQuote text = none) :
    ∃ pieces, CutInto separator text pieces := by
  have passed : quoteStep none separator = none := by simp [quoteStep, plain]
  rcases exists_first_separator plain none text with absent | ⟨first, rest, shape, absent, firstClosed⟩
  · refine ⟨[text], List.cons_ne_nil _ _, joinWith_singleton _ _, ?_, ?_⟩
    · exact fun piece inside => by rwa [List.mem_singleton.mp inside]
    · exact fun piece inside => by rwa [List.mem_singleton.mp inside]
  · have restClosed : openQuote rest = none := by
      rwa [shape, openQuote, List.foldl_append, firstClosed, List.foldl_cons, passed] at closed
    have shorter : rest.length < text.length := by
      rw [shape, List.length_append, List.length_cons]
      omega
    obtain ⟨pieces, nonempty, joined, piecesClosed, piecesWhole⟩ := exists_cutInto plain restClosed
    refine ⟨first :: pieces, List.cons_ne_nil _ _, ?_, ?_, ?_⟩
    · cases pieces with
      | nil => exact absurd rfl nonempty
      | cons second more => rw [joinWith_cons_cons, joined, shape, List.singleton_append]
    · exact List.forall_mem_cons.mpr ⟨firstClosed, piecesClosed⟩
    · exact List.forall_mem_cons.mpr ⟨absent, piecesWhole⟩
termination_by text.length

/-- **Cutting a closed text finds its pieces**, and no others are pieces of it. -/
theorem cutInto_iff (plain : isQuote separator = false) (closed : openQuote text = none)
    (pieces : List (List Char)) :
    CutInto separator text pieces ↔ Text.cutOutside separator text = pieces := by
  constructor
  · exact CutInto.cutOutside plain
  · rintro rfl
    obtain ⟨pieces, cut⟩ := exists_cutInto plain closed
    rwa [cut.cutOutside plain]

end Cut

/-! ## Blanks around the pieces -/

section Blanks
variable {separator : Char}

/-- A character in front of a text stands in front of its first piece. -/
theorem cutOutsideFrom_front (quote : Option Char) (c : Char) (piece text : List Char) :
    ∃ first rest, cutOutsideFrom separator quote piece [] text = first :: rest ∧
      cutOutsideFrom separator quote (piece ++ [c]) [] text = (c :: first) :: rest := by
  induction text generalizing quote piece with
  | nil => exact ⟨piece.reverse, [], rfl, by simp [cutOutsideFrom]⟩
  | cons d text ih =>
      rw [cutOutsideFrom, cutOutsideFrom]
      split
      · refine ⟨piece.reverse, cutOutsideFrom separator none [] [] text, ?_, ?_⟩
        · rw [cutOutsideFrom_pieces]
          rfl
        · rw [cutOutsideFrom_pieces]
          simp
      · exact ih (quoteStep quote d) (d :: piece)

/-- A character behind a text stands behind its last piece, if it is no separator. -/
theorem cutOutsideFrom_back {c : Char} (other : c ≠ separator) (quote : Option Char)
    (piece : List Char) (pieces : List (List Char)) (text : List Char) :
    ∃ front last, cutOutsideFrom separator quote piece pieces text = front ++ [last] ∧
      cutOutsideFrom separator quote piece pieces (text ++ [c]) = front ++ [last ++ [c]] := by
  induction text generalizing quote piece pieces with
  | nil =>
      refine ⟨pieces.reverse, piece.reverse, ?_, ?_⟩
      · simp [cutOutsideFrom]
      · have passed : ¬ (quote.isNone && !isQuote c && c == separator) = true := by simp [other]
        rw [List.nil_append, cutOutsideFrom, if_neg passed]
        simp [cutOutsideFrom]
  | cons d text ih =>
      rw [List.cons_append, cutOutsideFrom, cutOutsideFrom]
      split
      · exact ih none [] (piece.reverse :: pieces)
      · exact ih (quoteStep quote d) (d :: piece) pieces

/-- Joining the pieces that cutting gives undoes the cutting. -/
theorem joinWith_cutOutsideFrom (quote : Option Char) (piece text : List Char) :
    joinWith [separator] (cutOutsideFrom separator quote piece [] text) = piece.reverse ++ text := by
  induction text generalizing quote piece with
  | nil => simp [cutOutsideFrom, joinWith_singleton]
  | cons c text ih =>
      rw [cutOutsideFrom]
      split
      · rename_i cut
        obtain ⟨first, rest, pieces, -⟩ := @cutOutsideFrom_front separator none c [] text
        have later := ih none []
        rw [cutOutsideFrom_pieces, pieces, List.reverse_singleton, List.singleton_append, joinWith_cons_cons,
          ← pieces, later, beq_iff_eq.mp (Bool.and_eq_true_iff.mp cut).2]
        rfl
      · rw [ih, List.reverse_cons, List.append_assoc, List.singleton_append]

theorem joinWith_cutOutside (separator : Char) (text : List Char) :
    joinWith [separator] (cutOutside separator text) = text :=
  joinWith_cutOutsideFrom none [] text

/-- A blank in front of a text is trimmed from its first piece. -/
theorem splitOutside_cons_of_blank (visible : isBlank separator = false) {c : Char}
    (blank : isBlank c = true) (text : List Char) :
    splitOutside separator (c :: text) = splitOutside separator text := by
  have other : c ≠ separator := ne_of_blank blank visible
  have plain : isQuote c = false := unquoted_of_blank blank
  have step : cutOutside separator (c :: text) = cutOutsideFrom separator none ([] ++ [c]) [] text := by
    simp [cutOutside, cutOutsideFrom, quoteStep, other, plain]
  obtain ⟨first, rest, pieces, longer⟩ := @cutOutsideFrom_front separator none c [] text
  rw [splitOutside, step, longer, splitOutside, cutOutside, pieces, List.map_cons, List.map_cons,
    trim_cons_of_blank blank]

/-- A blank behind a text is trimmed from its last piece. -/
theorem splitOutside_concat_of_blank (visible : isBlank separator = false) {c : Char}
    (blank : isBlank c = true) (text : List Char) :
    splitOutside separator (text ++ [c]) = splitOutside separator text := by
  have other : c ≠ separator := ne_of_blank blank visible
  obtain ⟨front, last, pieces, longer⟩ := cutOutsideFrom_back other none [] [] text
  simp only [splitOutside, cutOutside, pieces, longer, List.map_append, List.map_cons, List.map_nil,
    trim_concat_of_blank blank]

/-- **Trimming a text does not change its trimmed pieces.** -/
theorem splitOutside_trim (visible : isBlank separator = false) (text : List Char) :
    splitOutside separator (trim text) = splitOutside separator text := by
  have start : ∀ text, splitOutside separator (trimStart text) = splitOutside separator text := by
    intro text
    induction text with
    | nil => rfl
    | cons c rest ih =>
        by_cases blank : isBlank c = true
        · rw [trimStart_cons_of_blank blank, ih, splitOutside_cons_of_blank visible blank]
        · rw [trimStart_cons_of_visible (by simpa using blank)]
  have ends : ∀ text, splitOutside separator (trimEnd text) = splitOutside separator text := by
    intro text
    induction text using List.reverseRecOn with
    | nil => rfl
    | append_singleton rest c ih =>
        by_cases blank : isBlank c = true
        · rw [trimEnd_concat_of_blank blank, ih, splitOutside_concat_of_blank visible blank]
        · rw [trimEnd_concat_of_visible (by simpa using blank)]
  rw [trim, ends, start]

end Blanks

end Herald.Text
