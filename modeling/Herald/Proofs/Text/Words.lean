/- Cutting and joining at single characters, and the words of a text.

A cut character ends one piece and begins the next (`cutAt_append_cons`), so a blank parts the
words of a text into those before it and those behind it (`words_append_cons`). From this it
follows that joined words are read back (`words_joinWith`), and that cutting at a wider class may
begin with a narrower one (`flatMap_cutAt`). -/
import Herald.Text.Blank
namespace Herald.Text
set_option autoImplicit false

/-! ## Cutting -/

section Cut
variable {cut : Char → Bool}

theorem cutAt_cons (cut : Char → Bool) (c : Char) (rest : List Char) :
    cutAt cut (c :: rest) =
      if cut c = true then [] :: cutAt cut rest else (cutAt cut rest).modifyHead (c :: ·) := by
  rw [cutAt, List.foldr_cons, ← cutAt]
  split
  · rfl
  · -- The fold has a case for no pieces, which never comes up.
    have pieces : cutAt cut rest ≠ [] := by
      cases rest with
      | nil => exact List.cons_ne_nil _ _
      | cons d more =>
          rw [cutAt, List.foldr_cons, ← cutAt]
          split
          · exact List.cons_ne_nil _ _
          · split <;> exact List.cons_ne_nil _ _
    obtain ⟨piece, more, shape⟩ := List.exists_cons_of_ne_nil pieces
    rw [shape]
    rfl

/-- Cutting is the library's splitting. -/
theorem cutAt_eq_splitOnP (cut : Char → Bool) (text : List Char) :
    cutAt cut text = text.splitOnP cut := by
  induction text with
  | nil => rfl
  | cons c rest ih => rw [cutAt_cons, ih, List.splitOnP_cons_eq_if_modifyHead]

theorem cutAt_ne_nil (cut : Char → Bool) (text : List Char) : cutAt cut text ≠ [] := by
  rw [cutAt_eq_splitOnP]
  exact List.splitOnP_ne_nil cut text

/-- **A cut character ends a piece.** -/
theorem cutAt_append_cons {c : Char} (dropped : cut c = true) (first rest : List Char) :
    cutAt cut (first ++ c :: rest) = cutAt cut first ++ cutAt cut rest := by
  simp only [cutAt_eq_splitOnP, List.splitOnP_append_cons first rest dropped]

theorem cutAt_of_forall {text : List Char} (kept : ∀ c ∈ text, cut c = false) :
    cutAt cut text = [text] := by
  rw [cutAt_eq_splitOnP, List.splitOnP_eq_singleton kept]

/-- Cutting drops the characters of the class and no others. -/
theorem flatten_cutAt (cut : Char → Bool) (text : List Char) :
    (cutAt cut text).flatten = text.filter (!cut ·) := by
  induction text with
  | nil => rfl
  | cons c rest ih =>
      obtain ⟨piece, pieces, shape⟩ := List.exists_cons_of_ne_nil (cutAt_ne_nil cut rest)
      rw [cutAt_cons]
      by_cases dropped : cut c = true
      · simp [dropped, ih]
      · rw [if_neg dropped, List.filter_cons_of_pos (by simpa using dropped), ← ih, shape]
        rfl

/-- No piece holds a character of the class. -/
theorem not_cut_of_mem_cutAt {text piece : List Char} (listed : piece ∈ cutAt cut text) {c : Char}
    (inside : c ∈ piece) : cut c = false := by
  have kept : c ∈ (cutAt cut text).flatten := List.mem_flatten.mpr ⟨piece, listed, inside⟩
  rw [flatten_cutAt, List.mem_filter] at kept
  simpa using kept.2

/-- **Cutting at a wider class cuts the pieces of a narrower one.** -/
theorem flatMap_cutAt {wide : Char → Bool} (wider : ∀ c, cut c = true → wide c = true)
    (text : List Char) : (cutAt cut text).flatMap (cutAt wide) = cutAt wide text := by
  induction text with
  | nil => rfl
  | cons c rest ih =>
      obtain ⟨piece, pieces, shape⟩ := List.exists_cons_of_ne_nil (cutAt_ne_nil cut rest)
      obtain ⟨first, others, inner⟩ := List.exists_cons_of_ne_nil (cutAt_ne_nil wide piece)
      rw [cutAt_cons cut, cutAt_cons wide, ← ih]
      by_cases dropped : cut c = true
      · rw [if_pos dropped, if_pos (wider c dropped)]
        rfl
      · rw [if_neg dropped, shape, List.modifyHead_cons, List.flatMap_cons, List.flatMap_cons,
          cutAt_cons wide c piece, inner]
        split <;> rfl

end Cut

/-! ## Joining -/

theorem joinWith_singleton (separator piece : List Char) : joinWith separator [piece] = piece := by
  simp [joinWith]

theorem joinWith_cons_cons (separator first second : List Char) (rest : List (List Char)) :
    joinWith separator (first :: second :: rest) =
      first ++ (separator ++ joinWith separator (second :: rest)) := by
  simp [joinWith]

/-- What is put in front of the first piece stands in front of the whole. -/
theorem joinWith_append_cons (separator front first : List Char) (rest : List (List Char)) :
    joinWith separator ((front ++ first) :: rest) = front ++ joinWith separator (first :: rest) := by
  cases rest with
  | nil => rw [joinWith_singleton, joinWith_singleton]
  | cons second rest => rw [joinWith_cons_cons, joinWith_cons_cons, List.append_assoc]

theorem mem_joinWith {separator c : Char} {pieces : List (List Char)}
    (inside : c ∈ joinWith [separator] pieces) : c = separator ∨ ∃ piece ∈ pieces, c ∈ piece := by
  induction pieces with
  | nil => cases inside
  | cons first rest ih =>
      cases rest with
      | nil =>
          rw [joinWith_singleton] at inside
          exact .inr ⟨first, List.mem_cons_self, inside⟩
      | cons second rest =>
          rw [joinWith_cons_cons] at inside
          rcases List.mem_append.mp inside with here | later
          · exact .inr ⟨first, List.mem_cons_self, here⟩
          · rcases List.mem_append.mp later with same | later
            · exact .inl (List.mem_singleton.mp same)
            · rcases ih later with same | ⟨piece, listed, within⟩
              · exact .inl same
              · exact .inr ⟨piece, List.mem_cons_of_mem first listed, within⟩

/-- Pieces without the separator are found again. -/
theorem cutAt_joinWith {separator : Char} {pieces : List (List Char)} (nonempty : pieces ≠ [])
    (absent : ∀ piece ∈ pieces, separator ∉ piece) :
    cutAt (· == separator) (joinWith [separator] pieces) = pieces := by
  rw [cutAt_eq_splitOnP]
  exact List.splitOn_intercalate separator absent nonempty

/-- Joined by a character that is in none of them, pieces are what remains without it. -/
theorem filter_joinWith {separator : Char} {pieces : List (List Char)} (nonempty : pieces ≠ [])
    (absent : ∀ piece ∈ pieces, separator ∉ piece) :
    (joinWith [separator] pieces).filter (· != separator) = pieces.flatten := by
  have cut := flatten_cutAt (· == separator) (joinWith [separator] pieces)
  rw [cutAt_joinWith nonempty absent] at cut
  exact cut.symm

theorem filter_of_notMem {text : List Char} {mark : Char} (absent : mark ∉ text) :
    text.filter (· != mark) = text := by
  apply List.filter_eq_self.mpr
  intro c inside
  have other : c ≠ mark := fun same => absent (same ▸ inside)
  simpa using other

/-! ## Words -/

/-- A text that can be a word: it is not empty, and none of it is blank. -/
structure Solid (word : List Char) : Prop where
  nonempty : word ≠ []
  visible : ∀ c ∈ word, isBlank c = false

theorem solid_of_mem_words {text word : List Char} (listed : word ∈ words text) :
    Solid word := by
  obtain ⟨piece, kept⟩ := List.mem_filter.mp listed
  exact ⟨by simpa using kept, fun c inside => not_cut_of_mem_cutAt piece inside⟩

/-- **A blank parts the words of a text.** -/
theorem words_append_cons {c : Char} (blank : isBlank c = true) (first rest : List Char) :
    words (first ++ c :: rest) = words first ++ words rest := by
  rw [words, cutAt_append_cons blank, List.filter_append, ← words, ← words]

theorem words_of_solid {word : List Char} (solid : Solid word) : words word = [word] := by
  rw [words, cutAt_of_forall solid.visible]
  simp [solid.nonempty]

/-- **Joined words are read back.** -/
theorem words_joinWith {row : List (List Char)} (solid : ∀ word ∈ row, Solid word) :
    words (joinWith [' '] row) = row := by
  induction row with
  | nil => rfl
  | cons first rest ih =>
      have begins := words_of_solid (solid first List.mem_cons_self)
      have later := ih fun word inside => solid word (List.mem_cons_of_mem first inside)
      cases rest with
      | nil => rw [joinWith_singleton, begins]
      | cons second rest =>
          rw [joinWith_cons_cons, List.singleton_append, words_append_cons (by decide), begins, later]
          rfl

end Herald.Text
