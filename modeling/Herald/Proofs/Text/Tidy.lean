/- The whitespace normal form is canonical.

What the normal form keeps of a text is an outline: its lines that are not blank, as lists of
words, each with whether a blank line stands right above it (`outline`). The normal form is the
print of the outline with one blank line for each gap (`tidy_eq`), and it has the same outline as
the text (`outline_tidy`). So the normal form is its own normal form, keeps the words, the lines
and the gaps, and two texts have one normal form exactly if they agree in these
(`tidy_canonical`).

How the normal form looks (`IsTidy`) is read off the rows that it prints: next to a blank of it
stands a visible character, unless both are newlines (`isChain_printRows`), and its rows begin and
end visibly and have no two blank ones in a row. -/
import Mathlib.Data.List.Chain
import Herald.Proofs.Text.Words
import Herald.Text.Tidy
namespace Herald.Text
set_option autoImplicit false

/-! ## Lines, words and gaps of a text -/

/-- A line as the list of its words. -/
abbrev Row := List (List Char)

/-- The rows that are not blank, each with its number; the first row has the number `start`. -/
def visibleFrom (start : Nat) (rows : List Row) : List (Row × Nat) :=
  (rows.zipIdx start).filter fun line => !line.1.isEmpty

/-- The lines of a text that are not blank, each with its number. -/
def visibleLines (text : List Char) : List (Row × Nat) := visibleFrom 0 (wordRows text)

/-- The lines of a text that are not blank. -/
def visibleRows (text : List Char) : List Row := (visibleLines text).map Prod.fst

/-- For each line that is not blank and the next such line: whether their numbers leave room for a
line between them, which then is blank. -/
def gaps (text : List Char) : List Bool :=
  let numbers := (visibleLines text).map Prod.snd
  List.zipWith (fun number next => decide (number + 1 < next)) numbers numbers.tail

/-- The words of a text in order, each with the number of its line. -/
def placedWords (text : List Char) : List (List Char × Nat) :=
  (wordRows text).zipIdx.flatMap fun line => line.1.map fun word => (word, line.2)

/-- The number of the line on which a word stands, by the word's place among all words. -/
def lineOf? (text : List Char) (place : Nat) : Option Nat := (placedWords text)[place]?.map Prod.snd

/-- A text in normal form: it has no blanks but spaces and newlines, none at its ends, no two
spaces next to each other, no space next to a newline, and no three newlines in a row. -/
structure IsTidy (text : List Char) : Prop where
  blanks : ∀ c ∈ text, isBlank c = true → c = ' ' ∨ c = '\n'
  begins : ∀ c ∈ text.head?, isBlank c = false
  ends : ∀ c ∈ text.getLast?, isBlank c = false
  noSpaces : ¬ [' ', ' '] <:+: text
  noSpaceBefore : ¬ [' ', '\n'] <:+: text
  noSpaceBehind : ¬ ['\n', ' '] <:+: text
  noNewlines : ¬ ['\n', '\n', '\n'] <:+: text

section Visible
variable {row : Row} {rows : List Row} {start : Nat}

@[simp] theorem visibleFrom_nil : visibleFrom start [] = [] := rfl

@[simp] theorem visibleFrom_blank : visibleFrom start ([] :: rows) = visibleFrom (start + 1) rows := rfl

theorem visibleFrom_cons (visible : row ≠ []) :
    visibleFrom start (row :: rows) = (row, start) :: visibleFrom (start + 1) rows := by
  simp [visibleFrom, visible]

end Visible

/-- The words of a text are those of its lines. -/
theorem flatten_wordRows (text : List Char) : (wordRows text).flatten = words text := by
  have wider : ∀ c : Char, (c == '\n') = true → isBlank c = true := by
    intro c newline
    rw [beq_iff_eq.mp newline]
    decide
  rw [words, ← flatMap_cutAt wider, List.filter_flatMap, wordRows, ← List.flatMap_def]
  rfl

theorem flatten_visibleRows (text : List Char) : (visibleRows text).flatten = words text := by
  have each : ∀ start rows, ((visibleFrom start rows).map Prod.fst).flatten = rows.flatten := by
    intro start rows
    induction rows generalizing start with
    | nil => rfl
    | cons row rows ih =>
        by_cases blank : row = []
        · rw [blank, visibleFrom_blank, ih]
          rfl
        · rw [visibleFrom_cons blank, List.map_cons, List.flatten_cons, List.flatten_cons, ih]
  rw [visibleRows, visibleLines, each, flatten_wordRows]

/-- The words with a place are the words of the text. -/
theorem map_fst_placedWords (text : List Char) : (placedWords text).map Prod.fst = words text := by
  rw [← flatten_wordRows, placedWords, List.map_flatMap]
  simp only [List.map_map, Function.comp_def, List.map_id']
  rw [List.flatMap_def, List.zipIdx_map_fst]

/-! ## Outlines -/

/-- The rows that are not blank, each with whether a blank row stands above it; `gap` says so of
the row before the first. -/
def spaced (gap : Bool) : List Row → List (Bool × Row)
  | [] => []
  | row :: rows => if row.isEmpty then spaced true rows else (gap, row) :: spaced false rows

/-- The rows that are not blank, each with whether a blank row separates it from the one before
it; what is above the first does not count. -/
def outline (rows : List Row) : List (Bool × Row) := spaced false (rows.dropWhile List.isEmpty)

/-- The rows of an outline, with one blank row for each gap. -/
def spread (entries : List (Bool × Row)) : List Row :=
  entries.flatMap fun entry => if entry.1 then [[], entry.2] else [entry.2]

section Outline
variable {row : Row} {rows : List Row}

@[simp] theorem spaced_blank (gap : Bool) : spaced gap ([] :: rows) = spaced true rows := rfl

theorem spaced_cons (visible : row ≠ []) (gap : Bool) :
    spaced gap (row :: rows) = (gap, row) :: spaced false rows := by
  simp [spaced, visible]

@[simp] theorem outline_blank : outline ([] :: rows) = outline rows := rfl

theorem outline_cons (visible : row ≠ []) : outline (row :: rows) = (false, row) :: spaced false rows := by
  rw [outline, List.dropWhile_cons_of_neg (by simp [visible]), spaced_cons visible]

/-- An outline has no blank row, and its first row has no gap above it. -/
structure IsOutline (entries : List (Bool × Row)) : Prop where
  visible : ∀ entry ∈ entries, entry.2 ≠ []
  flush : ∀ entry ∈ entries.head?, entry.1 = false

theorem map_snd_spaced (gap : Bool) (rows : List Row) (start : Nat) :
    (spaced gap rows).map Prod.snd = (visibleFrom start rows).map Prod.fst := by
  induction rows generalizing gap start with
  | nil => rfl
  | cons row rows ih =>
      by_cases blank : row = []
      · rw [blank, spaced_blank, visibleFrom_blank, ih]
      · rw [spaced_cons blank, visibleFrom_cons blank, List.map_cons, List.map_cons, ih]

theorem map_snd_outline (rows : List Row) (start : Nat) :
    (outline rows).map Prod.snd = (visibleFrom start rows).map Prod.fst := by
  induction rows generalizing start with
  | nil => rfl
  | cons row rows ih =>
      by_cases blank : row = []
      · rw [blank, outline_blank, visibleFrom_blank, ih]
      · rw [outline_cons blank, visibleFrom_cons blank, List.map_cons, List.map_cons, map_snd_spaced]

theorem isOutline_outline (rows : List Row) : IsOutline (outline rows) where
  visible := by
    intro entry inside
    have kept : entry.2 ∈ (visibleFrom 0 rows).map Prod.fst := by
      rw [← map_snd_outline]
      exact List.mem_map_of_mem inside
    obtain ⟨line, listed, same⟩ := List.mem_map.mp kept
    have visible := (List.mem_filter.mp listed).2
    rw [← same]
    simpa using visible
  flush := by
    induction rows with
    | nil => exact fun entry inside => by cases inside
    | cons row rows ih =>
        by_cases blank : row = []
        · rwa [blank, outline_blank]
        · rw [outline_cons blank]
          rintro entry ⟨⟩
          rfl

/-- A row that follows visible row number `number` after blank rows only has a gap above it if its
number is not the next one. -/
theorem zipWith_visibleFrom (number start : Nat) (before : number < start) (rows : List Row) :
    let numbers := (visibleFrom start rows).map Prod.snd
    List.zipWith (fun number next => decide (number + 1 < next)) (number :: numbers) numbers =
      (spaced (decide (number + 1 < start)) rows).map Prod.fst := by
  induction rows generalizing number start with
  | nil => rfl
  | cons row rows ih =>
      by_cases blank : row = []
      · have room : decide (number + 1 < start + 1) = true := by simpa using before
        have later := ih number (start + 1) (by omega)
        rw [room] at later
        rw [blank, spaced_blank, visibleFrom_blank]
        exact later
      · have next := ih start (start + 1) (by omega)
        rw [decide_eq_false (by omega : ¬ start + 1 < start + 1)] at next
        rw [spaced_cons blank, visibleFrom_cons blank, List.map_cons, List.map_cons, ← next]
        rfl

theorem zipWith_outline (start : Nat) (rows : List Row) :
    let numbers := (visibleFrom start rows).map Prod.snd
    List.zipWith (fun number next => decide (number + 1 < next)) numbers numbers.tail =
      ((outline rows).map Prod.fst).tail := by
  induction rows generalizing start with
  | nil => rfl
  | cons row rows ih =>
      by_cases blank : row = []
      · rw [blank, outline_blank, visibleFrom_blank]
        exact ih (start + 1)
      · have next := zipWith_visibleFrom start (start + 1) (by omega) rows
        rw [decide_eq_false (by omega : ¬ start + 1 < start + 1)] at next
        rw [outline_cons blank, visibleFrom_cons blank]
        exact next

/-- **The lines that are not blank and the gaps between them determine the outline.** -/
theorem outline_eq_iff {text other : List Char} :
    outline (wordRows text) = outline (wordRows other) ↔
      visibleRows text = visibleRows other ∧ gaps text = gaps other := by
  have rowsOf : ∀ text, visibleRows text = (outline (wordRows text)).map Prod.snd :=
    fun text => (map_snd_outline (wordRows text) 0).symm
  have gapsOf : ∀ text, gaps text = ((outline (wordRows text)).map Prod.fst).tail :=
    fun text => zipWith_outline 0 (wordRows text)
  rw [rowsOf, rowsOf, gapsOf, gapsOf]
  constructor
  · intro same
    rw [same]
    exact ⟨rfl, rfl⟩
  · rintro ⟨sameRows, sameGaps⟩
    have flush := (isOutline_outline (wordRows text)).flush
    have flush' := (isOutline_outline (wordRows other)).flush
    have sameFlags : (outline (wordRows text)).map Prod.fst = (outline (wordRows other)).map Prod.fst := by
      cases first : outline (wordRows text) with
      | nil =>
          rw [first] at sameRows
          rw [List.map_eq_nil_iff.mp sameRows.symm]
      | cons entry entries =>
          cases second : outline (wordRows other) with
          | nil =>
              rw [first, second] at sameRows
              cases sameRows
          | cons entry' entries' =>
              rw [first] at flush sameGaps
              rw [second] at flush' sameGaps
              rw [List.map_cons, List.map_cons, flush entry rfl, flush' entry' rfl]
              exact congrArg (false :: ·) sameGaps
    rw [List.zip_of_prod sameFlags sameRows]
    exact (List.zip_of_prod rfl rfl).symm

end Outline

/-! ## Rows of an outline -/

section Spread
variable {entries : List (Bool × Row)}

theorem spaced_spread (visible : ∀ entry ∈ entries, entry.2 ≠ []) : spaced false (spread entries) = entries := by
  induction entries with
  | nil => rfl
  | cons entry entries ih =>
      obtain ⟨gap, row⟩ := entry
      have here : row ≠ [] := visible (gap, row) List.mem_cons_self
      have later := ih fun other inside => visible other (List.mem_cons_of_mem _ inside)
      cases gap with
      | false =>
          show spaced false (row :: spread entries) = _
          rw [spaced_cons here, later]
      | true =>
          show spaced false ([] :: row :: spread entries) = _
          rw [spaced_blank, spaced_cons here, later]

/-- The rows of an outline have that outline. -/
theorem IsOutline.outline_spread (own : IsOutline entries) : outline (spread entries) = entries := by
  have whole : (spread entries).dropWhile List.isEmpty = spread entries := by
    cases entries with
    | nil => rfl
    | cons entry entries =>
        obtain ⟨gap, row⟩ := entry
        obtain rfl : gap = false := own.flush (gap, row) rfl
        have visible : row ≠ [] := own.visible (false, row) List.mem_cons_self
        exact List.dropWhile_cons_of_neg (by simp [visible])
  rw [outline, whole, spaced_spread own.visible]

/-- The print of an outline begins and ends with a row that is not blank, and none of its blank
rows are next to each other. -/
theorem IsOutline.head?_spread (own : IsOutline entries) : (spread entries).head? ≠ some [] := by
  cases entries with
  | nil => exact nofun
  | cons entry entries =>
      obtain ⟨gap, row⟩ := entry
      obtain rfl : gap = false := own.flush (gap, row) rfl
      intro begins
      exact own.visible (false, row) List.mem_cons_self (Option.some.inj begins)

theorem IsOutline.getLast?_spread (own : IsOutline entries) : (spread entries).getLast? ≠ some [] := by
  rcases List.eq_nil_or_concat entries with rfl | ⟨front, ⟨gap, row⟩, rfl⟩
  · exact nofun
  · have last : (spread (front.concat (gap, row))).getLast? = some row := by
      cases gap <;> simp [spread, List.getLast?_append]
    have visible : row ≠ [] := own.visible (gap, row) (by simp)
    rw [last]
    exact fun blank => visible (Option.some.inj blank)

theorem IsOutline.isChain_spread (own : IsOutline entries) :
    (spread entries).IsChain fun row next => row ≠ [] ∨ next ≠ [] := by
  have each := own.visible
  clear own
  induction entries with
  | nil => exact .nil
  | cons entry entries ih =>
      obtain ⟨gap, row⟩ := entry
      have here : row ≠ [] := each (gap, row) List.mem_cons_self
      have later := ih fun other inside => each other (List.mem_cons_of_mem _ inside)
      have chain : (row :: spread entries).IsChain fun row next => row ≠ [] ∨ next ≠ [] :=
        List.isChain_cons.mpr ⟨fun next _ => .inl here, later⟩
      cases gap with
      | false => exact chain
      | true => exact List.isChain_cons_cons.mpr ⟨.inr here, chain⟩

theorem squeezeRows_cons {row : Row} (visible : row ≠ []) (rows : List Row) :
    squeezeRows (row :: rows) = row :: squeezeRows rows := by
  simp [squeezeRows, visible]

theorem squeezeRows_blank_blank (rows : List Row) :
    squeezeRows ([] :: [] :: rows) = squeezeRows ([] :: rows) := by
  simp only [squeezeRows, List.foldr_cons]
  generalize List.foldr _ [] rows = below
  cases below with
  | nil => rfl
  | cons next more => cases next <;> rfl

/-- Squeezing leaves one blank row for each gap, and one above the first row if there was any. -/
theorem spread_spaced (rows : List Row) :
    spread (spaced false rows) = squeezeRows rows ∧ spread (spaced true rows) = squeezeRows ([] :: rows) := by
  induction rows with
  | nil => exact ⟨rfl, rfl⟩
  | cons row rows ih =>
      by_cases blank : row = []
      · rw [blank, spaced_blank, spaced_blank, squeezeRows_blank_blank]
        exact ⟨ih.2, ih.2⟩
      · have below : squeezeRows ([] :: row :: rows) = [] :: squeezeRows (row :: rows) := by
          simp [squeezeRows, blank]
        rw [spaced_cons blank, spaced_cons blank, below, squeezeRows_cons blank, ← ih.1]
        exact ⟨rfl, rfl⟩

/-- Blank rows at the beginning may go first. -/
theorem dropWhile_squeezeRows (rows : List Row) :
    (squeezeRows rows).dropWhile List.isEmpty = squeezeRows (rows.dropWhile List.isEmpty) := by
  induction rows with
  | nil => rfl
  | cons row rows ih =>
      by_cases blank : row = []
      · rw [blank, List.dropWhile_cons_of_pos rfl, ← ih, squeezeRows, List.foldr_cons, ← squeezeRows]
        cases squeezeRows rows with
        | nil => rfl
        | cons next more => cases next <;> rfl
      · have visible : ¬ row.isEmpty = true := by simpa using blank
        rw [List.dropWhile_cons_of_neg visible, squeezeRows_cons blank, List.dropWhile_cons_of_neg visible]

end Spread

/-- **The normal form prints the outline.** -/
theorem tidy_eq (text : List Char) : tidy text = printRows (spread (outline (wordRows text))) := by
  rw [tidy, dropWhile_squeezeRows, outline, (spread_spaced _).1]

/-! ## Reading a print back -/

/-- Rows of words, printed, are read back. -/
theorem wordRows_printRows {rows : List Row} (nonempty : rows ≠ [])
    (solid : ∀ row ∈ rows, ∀ word ∈ row, Solid word) : wordRows (printRows rows) = rows := by
  have noNewline : ∀ line ∈ rows.map (joinWith [' ']), '\n' ∉ line := by
    intro line listed newline
    obtain ⟨row, inside, rfl⟩ := List.mem_map.mp listed
    rcases mem_joinWith newline with space | ⟨word, member, within⟩
    · cases space
    · exact absurd ((solid row inside word member).visible _ within) (by decide)
  have cut := cutAt_joinWith (by simpa using nonempty) noNewline
  rw [wordRows, printRows, cut, List.map_map]
  refine (List.map_congr_left fun row inside => ?_).trans (List.map_id rows)
  exact words_joinWith (solid row inside)

theorem solid_of_mem_wordRows {text : List Char} {row : Row} (listed : row ∈ wordRows text) :
    ∀ word ∈ row, Solid word := by
  obtain ⟨line, -, rfl⟩ := List.mem_map.mp listed
  exact fun word inside => solid_of_mem_words inside

theorem solid_of_mem_spread {text : List Char} {row : Row}
    (listed : row ∈ spread (outline (wordRows text))) : ∀ word ∈ row, Solid word := by
  obtain ⟨entry, inside, shown⟩ := List.mem_flatMap.mp listed
  have kept : entry.2 ∈ wordRows text := by
    have among : entry.2 ∈ (visibleFrom 0 (wordRows text)).map Prod.fst := by
      rw [← map_snd_outline]
      exact List.mem_map_of_mem inside
    obtain ⟨line, visible, same⟩ := List.mem_map.mp among
    rw [← same]
    exact List.fst_mem_of_mem_zipIdx (List.mem_filter.mp visible).1
  have cases : row = [] ∨ row = entry.2 := by
    split at shown
    · simpa using shown
    · exact .inr (by simpa using shown)
  rcases cases with rfl | rfl
  · exact fun word inside => by cases inside
  · exact solid_of_mem_wordRows kept

/-- **The normal form has the rows that it prints**, unless it is empty. -/
theorem wordRows_tidy {text : List Char} (nonempty : spread (outline (wordRows text)) ≠ []) :
    wordRows (tidy text) = spread (outline (wordRows text)) := by
  rw [tidy_eq]
  exact wordRows_printRows nonempty fun row listed => solid_of_mem_spread listed

/-- **The normal form of a text has the outline of the text.** -/
theorem outline_tidy (text : List Char) : outline (wordRows (tidy text)) = outline (wordRows text) := by
  have printed := (isOutline_outline (wordRows text)).outline_spread
  by_cases nothing : spread (outline (wordRows text)) = []
  · rw [tidy_eq, nothing]
    rw [nothing] at printed
    exact printed
  · rw [wordRows_tidy nothing, printed]

/-! ## The lines of the words -/

/-- The words of some lines, each with the number of its line. -/
def place (lines : List (Row × Nat)) : List (List Char × Nat) :=
  lines.flatMap fun line => line.1.map fun word => (word, line.2)

theorem getElem?_place_cons (line : Row × Nat) (lines : List (Row × Nat)) (index : Nat) :
    (place (line :: lines))[index]?.map Prod.snd =
      if index < line.1.length then some line.2 else (place lines)[index - line.1.length]?.map Prod.snd := by
  rw [place, List.flatMap_cons, ← place, List.getElem?_append, List.length_map]
  split
  · rename_i here
    simp [List.getElem?_eq_getElem here]
  · rfl

theorem mem_numbers_of_place {lines : List (Row × Nat)} {index number : Nat}
    (found : (place lines)[index]?.map Prod.snd = some number) : number ∈ lines.map Prod.snd := by
  obtain ⟨placed, within, rfl⟩ := Option.map_eq_some_iff.mp found
  obtain ⟨line, listed, inside⟩ := List.mem_flatMap.mp (List.mem_of_getElem? within)
  obtain ⟨word, -, rfl⟩ := List.mem_map.mp inside
  exact List.mem_map_of_mem listed

/-- Lines with the same words and numbers of their own have the same words on one line. -/
theorem place_eq_iff {lines others : List (Row × Nat)} (same : lines.map Prod.fst = others.map Prod.fst)
    (apart : (lines.map Prod.snd).Nodup) (apart' : (others.map Prod.snd).Nodup) (first second : Nat) :
    (place lines)[first]?.map Prod.snd = (place lines)[second]?.map Prod.snd ↔
      (place others)[first]?.map Prod.snd = (place others)[second]?.map Prod.snd := by
  induction lines generalizing others first second with
  | nil =>
      rw [List.map_eq_nil_iff.mp same.symm]
  | cons line lines ih =>
      cases others with
      | nil => cases same
      | cons other others =>
          obtain ⟨sameRow, sameRows⟩ := List.cons.inj same
          obtain ⟨here, later⟩ := List.nodup_cons.mp apart
          obtain ⟨here', later'⟩ := List.nodup_cons.mp apart'
          have below := ih sameRows later later' (first - line.1.length) (second - line.1.length)
          simp only [getElem?_place_cons, ← sameRow]
          -- A number of the first line is not the number of a later one.
          by_cases firstHere : first < line.1.length <;> by_cases secondHere : second < line.1.length
          · simp only [firstHere, secondHere, if_true]
          · simp only [firstHere, secondHere, if_true, if_false]
            constructor
            · exact fun equal => absurd (mem_numbers_of_place equal.symm) here
            · exact fun equal => absurd (mem_numbers_of_place equal.symm) here'
          · simp only [firstHere, secondHere, if_true, if_false]
            constructor
            · exact fun equal => absurd (mem_numbers_of_place equal) here
            · exact fun equal => absurd (mem_numbers_of_place equal) here'
          · simp only [firstHere, secondHere, if_false]
            exact below

theorem place_visibleFrom (start : Nat) (rows : List Row) :
    place (visibleFrom start rows) = place (rows.zipIdx start) := by
  induction rows generalizing start with
  | nil => rfl
  | cons row rows ih =>
      by_cases blank : row = []
      · rw [blank, visibleFrom_blank, ih]
        rfl
      · rw [visibleFrom_cons blank, place, List.flatMap_cons, ← place, ih]
        rfl

/-- The same lines that are not blank have the same words on one line. -/
theorem lineOf?_eq_iff {text other : List Char} (same : visibleRows text = visibleRows other)
    (first second : Nat) :
    lineOf? text first = lineOf? text second ↔ lineOf? other first = lineOf? other second := by
  have apart : ∀ text, ((visibleLines text).map Prod.snd).Nodup := by
    intro text
    have sublist : ((visibleLines text).map Prod.snd).Sublist ((wordRows text).zipIdx.map Prod.snd) :=
      List.Sublist.map Prod.snd List.filter_sublist
    rw [List.zipIdx_map_snd] at sublist
    exact List.Nodup.sublist sublist (List.nodup_range' 1)
  have placed := place_eq_iff same (apart text) (apart other) first second
  simp only [visibleLines, place_visibleFrom] at placed
  exact placed

/-! ## How the normal form looks -/

/-- Two characters that can stand next to each other: one of them is visible, or both are
newlines. -/
def Apart (before behind : Char) : Prop :=
  isBlank before = false ∨ isBlank behind = false ∨ (before = '\n' ∧ behind = '\n')

instance (before behind : Char) : Decidable (Apart before behind) :=
  inferInstanceAs (Decidable (_ ∨ _ ∨ _ ∧ _))

/-- A joined text is a chain if each piece is one, together with what stands around it. -/
theorem isChain_joinWith {linked : Char → Char → Prop} {separator : Char} {pieces : List (List Char)}
    (nonempty : pieces ≠ []) {before behind : Char}
    (links : ∀ piece ∈ pieces, ∀ first ∈ [before, separator], ∀ last ∈ [behind, separator],
      (first :: (piece ++ [last])).IsChain linked) :
    (before :: (joinWith [separator] pieces ++ [behind])).IsChain linked := by
  induction pieces generalizing before with
  | nil => exact absurd rfl nonempty
  | cons piece pieces ih =>
      have here := links piece List.mem_cons_self before (by simp)
      cases pieces with
      | nil =>
          rw [joinWith_singleton]
          exact here behind (by simp)
      | cons next pieces =>
          have later : (separator :: (joinWith [separator] (next :: pieces) ++ [behind])).IsChain linked := by
            apply ih (List.cons_ne_nil _ _)
            intro other inside first between
            obtain rfl : first = separator := by simpa using between
            exact links other (List.mem_cons_of_mem piece inside) first (by simp)
          rw [joinWith_cons_cons, List.append_assoc, List.singleton_append, List.cons_append]
          exact List.isChain_cons_split.mpr ⟨here separator (by simp), later⟩

/-- A word stands apart from whatever is around it. -/
theorem Solid.isChain {word : List Char} (solid : Solid word) (before behind : Char) :
    (before :: (word ++ [behind])).IsChain Apart := by
  obtain ⟨nonempty, visible⟩ := solid
  induction word generalizing before with
  | nil => exact absurd rfl nonempty
  | cons c word ih =>
      have here : isBlank c = false := visible c List.mem_cons_self
      rw [List.cons_append, List.isChain_cons_cons]
      refine ⟨.inr (.inl here), ?_⟩
      cases word with
      | nil => exact List.isChain_cons_cons.mpr ⟨.inl here, .singleton behind⟩
      | cons d word =>
          exact ih c (List.cons_ne_nil _ _) fun e inside => visible e (List.mem_cons_of_mem c inside)

/-- **Next to a blank of the normal form stands a visible character**, unless both are
newlines. -/
theorem isChain_printRows {rows : List Row} (nonempty : rows ≠ [])
    (solid : ∀ row ∈ rows, ∀ word ∈ row, Solid word) :
    ('\n' :: (printRows rows ++ ['\n'])).IsChain Apart := by
  refine isChain_joinWith (by simpa using nonempty) ?_
  intro line listed first before last behind
  obtain ⟨row, inside, rfl⟩ := List.mem_map.mp listed
  obtain rfl : first = '\n' := by simpa using before
  obtain rfl : last = '\n' := by simpa using behind
  cases row with
  | nil => exact List.isChain_cons_cons.mpr ⟨.inr (.inr ⟨rfl, rfl⟩), .singleton _⟩
  | cons word words =>
      exact isChain_joinWith (List.cons_ne_nil _ _) fun other member first _ last _ =>
        (solid _ inside other member).isChain first last

/-- A print has no blanks but the spaces and newlines between its words and rows. -/
theorem blank_of_mem_printRows {rows : List Row} (solid : ∀ row ∈ rows, ∀ word ∈ row, Solid word)
    {c : Char} (inside : c ∈ printRows rows) (blank : isBlank c = true) : c = ' ' ∨ c = '\n' := by
  rcases mem_joinWith inside with newline | ⟨line, listed, within⟩
  · exact .inr newline
  · obtain ⟨row, member, rfl⟩ := List.mem_map.mp listed
    rcases mem_joinWith within with space | ⟨word, written, here⟩
    · exact .inl space
    · rw [(solid row member word written).visible c here] at blank
      cases blank

/-- A newline parts the rows of a text. -/
theorem wordRows_append_cons (first rest : List Char) :
    wordRows (first ++ '\n' :: rest) = wordRows first ++ wordRows rest := by
  have parted : cutAt (· == '\n') (first ++ '\n' :: rest) = _ := cutAt_append_cons rfl first rest
  rw [wordRows, parted, List.map_append, ← wordRows, ← wordRows]

/-- The normal form is in normal form. -/
theorem isTidy_tidy (text : List Char) : IsTidy (tidy text) := by
  have own := isOutline_outline (wordRows text)
  have solid : ∀ row ∈ spread (outline (wordRows text)), ∀ word ∈ row, Solid word :=
    fun row listed => solid_of_mem_spread listed
  by_cases nothing : spread (outline (wordRows text)) = []
  · have empty : tidy text = [] := by
      rw [tidy_eq, nothing]
      rfl
    rw [empty]
    exact ⟨nofun, nofun, nofun, by decide, by decide, by decide, by decide⟩
  · have rows := wordRows_tidy nothing
    have chain := isChain_printRows nothing solid
    rw [← tidy_eq] at chain
    have linked : ∀ first last, [first, last] <:+: '\n' :: (tidy text ++ ['\n']) → Apart first last :=
      fun first last within => List.isChain_pair.mp <| List.IsChain.infix chain within
    have inner : tidy text <:+: '\n' :: (tidy text ++ ['\n']) := ⟨['\n'], ['\n'], rfl⟩
    refine ⟨?blanks, ?begins, ?ends, ?noSpaces, ?noSpaceBefore, ?noSpaceBehind, ?noNewlines⟩
    case blanks =>
      rw [tidy_eq]
      exact fun c inside blank => blank_of_mem_printRows solid inside blank
    -- A newline at either end would be a blank row there.
    case begins =>
      intro c first
      obtain ⟨rest, shape⟩ := List.head?_eq_some_iff.mp first
      rcases linked '\n' c ⟨[], rest ++ ['\n'], by simp [shape]⟩ with newline | visible | ⟨-, rfl⟩
      · cases newline
      · exact visible
      · rw [shape, ← List.nil_append ('\n' :: rest), wordRows_append_cons] at rows
        exact absurd (congrArg List.head? rows).symm own.head?_spread
    case ends =>
      intro c last
      obtain ⟨front, shape⟩ := List.getLast?_eq_some_iff.mp last
      rcases linked c '\n' ⟨'\n' :: front, [], by simp [shape]⟩ with visible | newline | ⟨rfl, -⟩
      · exact visible
      · cases newline
      · rw [shape, wordRows_append_cons] at rows
        have blank := congrArg List.getLast? rows
        rw [show wordRows [] = [[]] from rfl, List.getLast?_concat] at blank
        exact absurd blank.symm own.getLast?_spread
    case noSpaces => exact fun spaces => absurd (linked _ _ (spaces.trans inner)) (by decide)
    case noSpaceBefore => exact fun space => absurd (linked _ _ (space.trans inner)) (by decide)
    case noSpaceBehind => exact fun space => absurd (linked _ _ (space.trans inner)) (by decide)
    case noNewlines =>
      rintro ⟨front, back, shape⟩
      have parted : wordRows (tidy text) = wordRows front ++ ([[], []] ++ wordRows back) := by
        have split : front ++ ['\n', '\n', '\n'] ++ back =
            front ++ '\n' :: ([] ++ '\n' :: ([] ++ '\n' :: back)) := by simp
        rw [← shape, split, wordRows_append_cons, wordRows_append_cons, wordRows_append_cons]
        rfl
      have within : [[], []] <:+: spread (outline (wordRows text)) :=
        ⟨wordRows front, wordRows back, by rw [← rows, parted, List.append_assoc]⟩
      have apart := List.isChain_pair.mp <| List.IsChain.infix own.isChain_spread within
      simp at apart

/-! ## The canonical form -/

/-- A text that could be a word is its own normal form. -/
theorem tidy_of_solid {word : List Char} (solid : Solid word) : tidy word = word := by
  have whole : ∀ c ∈ word, (c == '\n') = false := by
    intro c inside
    cases newline : c == '\n' with
    | false => rfl
    | true =>
        have visible := solid.visible c inside
        rw [beq_iff_eq.mp newline] at visible
        exact absurd visible (by decide)
  have rows : wordRows word = [[word]] := by
    rw [wordRows, cutAt_of_forall whole, List.map_singleton, words_of_solid solid]
  rw [tidy, rows]
  simp [squeezeRows, printRows, joinWith]

/-- **The whitespace normal form is canonical.** It is its own normal form and looks like one. It
has the words of the text. Two words are on one line of it if and only if they were on one line of
the text, and a blank line separates a line of it from the next if and only if at least one did in
the text. So two texts have one normal form exactly if they have the same lines that are not
blank, as lists of words, and the same gaps between them. -/
theorem tidy_canonical (text : List Char) :
    tidy (tidy text) = tidy text ∧ IsTidy (tidy text) ∧
      words (tidy text) = words text ∧ (placedWords text).map Prod.fst = words text ∧
      (∀ first second, lineOf? (tidy text) first = lineOf? (tidy text) second ↔
        lineOf? text first = lineOf? text second) ∧
      gaps (tidy text) = gaps text ∧
      ∀ other, tidy text = tidy other ↔ visibleRows text = visibleRows other ∧ gaps text = gaps other := by
  have kept : ∀ text, visibleRows (tidy text) = visibleRows text ∧ gaps (tidy text) = gaps text :=
    fun text => outline_eq_iff.mp (outline_tidy text)
  refine ⟨?_, isTidy_tidy text, ?_, map_fst_placedWords text, lineOf?_eq_iff (kept text).1, (kept text).2, ?_⟩
  · rw [tidy_eq (tidy text), outline_tidy, ← tidy_eq]
  · rw [← flatten_visibleRows, (kept text).1, flatten_visibleRows]
  · intro other
    constructor
    · intro same
      rw [← (kept text).1, ← (kept text).2, ← (kept other).1, ← (kept other).2, same]
      exact ⟨rfl, rfl⟩
    · intro same
      rw [tidy_eq, tidy_eq, outline_eq_iff.mpr same]

example : tidy "\t\n a \r b\u2028\n\n \r\n c\n".toList = "a b\n\nc".toList := by decide

end Herald.Text
