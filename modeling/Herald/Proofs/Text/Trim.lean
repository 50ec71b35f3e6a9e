/- Laws of trimming. -/
import Herald.Text.Blank
namespace Herald.Text
set_option autoImplicit false

/-- A character outside the class survives the dropping of the class. -/
theorem mem_dropWhile {inClass : Char → Bool} {text : List Char} {c : Char} (inside : c ∈ text)
    (outside : inClass c = false) : c ∈ text.dropWhile inClass := by
  induction text with
  | nil => exact inside
  | cons first rest ih =>
      rw [List.dropWhile_cons]
      split
      · rename_i dropped
        rcases List.mem_cons.mp inside with rfl | deeper
        · rw [outside] at dropped; cases dropped
        · exact ih deeper
      · exact inside

/-- Trimming removes blanks only. -/
theorem mem_trim {text : List Char} {c : Char} (inside : c ∈ text) (visible : isBlank c = false) :
    c ∈ trim text :=
  List.mem_reverse.mpr (mem_dropWhile (List.mem_reverse.mpr (mem_dropWhile inside visible)) visible)

theorem trimStart_cons_of_blank {c : Char} (blank : isBlank c = true) (text : List Char) :
    trimStart (c :: text) = trimStart text := by
  rw [trimStart, List.dropWhile_cons_of_pos blank]
  rfl

theorem trimStart_cons_of_visible {c : Char} (visible : isBlank c = false) (text : List Char) :
    trimStart (c :: text) = c :: text := by
  rw [trimStart, List.dropWhile_cons_of_neg (by simp [visible])]

/-- The first character is dropped from the end only after all the others. -/
theorem trimEnd_cons (c : Char) (text : List Char) :
    trimEnd (c :: text) = if trimEnd text = [] ∧ isBlank c = true then [] else c :: trimEnd text := by
  simp only [trimEnd, List.reverse_cons, List.reverse_eq_nil_iff]
  generalize text.reverse = reversed
  rw [List.dropWhile_append]
  by_cases gone : reversed.dropWhile isBlank = []
  · by_cases blank : isBlank c = true <;> simp [gone, blank]
  · simp [gone]

theorem trimEnd_cons_of_visible {c : Char} (visible : isBlank c = false) (text : List Char) :
    trimEnd (c :: text) = c :: trimEnd text := by
  simp [trimEnd_cons, visible]

/-- Dropping blanks from the end stops at a visible word. -/
theorem trimEnd_append_of_visible {word : List Char} (visible : ∀ c ∈ word, isBlank c = false)
    (text : List Char) : trimEnd (word ++ text) = word ++ trimEnd text := by
  induction word with
  | nil => rfl
  | cons c word ih =>
      rw [List.cons_append, trimEnd_cons_of_visible (visible c List.mem_cons_self),
        ih fun d inside => visible d (List.mem_cons_of_mem c inside), List.cons_append]

theorem trimEnd_concat_of_blank {c : Char} (blank : isBlank c = true) (text : List Char) :
    trimEnd (text ++ [c]) = trimEnd text := by
  rw [trimEnd, List.reverse_concat, List.dropWhile_cons_of_pos blank, ← trimEnd]

theorem trimEnd_concat_of_visible {c : Char} (visible : isBlank c = false) (text : List Char) :
    trimEnd (text ++ [c]) = text ++ [c] := by
  rw [trimEnd, List.reverse_concat, List.dropWhile_cons_of_neg (by simp [visible]),
    ← List.reverse_concat, List.reverse_reverse]

theorem trimEnd_trimEnd (text : List Char) : trimEnd (trimEnd text) = trimEnd text := by
  induction text with
  | nil => rfl
  | cons c rest ih =>
      rw [trimEnd_cons]
      split
      · rfl
      · rename_i kept
        rw [trimEnd_cons, ih, if_neg kept]

theorem trim_cons_of_blank {c : Char} (blank : isBlank c = true) (text : List Char) :
    trim (c :: text) = trim text := by
  rw [trim, trimStart_cons_of_blank blank, ← trim]

/-- Blanks at the end may go first. -/
theorem trim_trimEnd (text : List Char) : trim (trimEnd text) = trim text := by
  induction text with
  | nil => rfl
  | cons c rest ih =>
      by_cases blank : isBlank c = true
      · rw [trim_cons_of_blank blank, ← ih, trimEnd_cons]
        split
        · rename_i gone
          rw [gone.1]
        · rw [trim_cons_of_blank blank]
      · have visible : isBlank c = false := by simpa using blank
        rw [trimEnd_cons_of_visible visible, trim, trimStart_cons_of_visible visible,
          trimEnd_cons_of_visible visible, trimEnd_trimEnd, trim, trimStart_cons_of_visible visible,
          trimEnd_cons_of_visible visible]

/-- Blanks at the beginning may go first. -/
theorem trim_trimStart (text : List Char) : trim (trimStart text) = trim text := by
  induction text with
  | nil => rfl
  | cons c rest ih =>
      by_cases blank : isBlank c = true
      · rw [trimStart_cons_of_blank blank, ih, trim_cons_of_blank blank]
      · rw [trimStart_cons_of_visible (by simpa using blank)]

/-- A text that is not blank begins alike without its trailing blanks. -/
theorem head?_trimEnd {text : List Char} (something : trim text ≠ []) :
    (trimEnd text).head? = text.head? := by
  cases text with
  | nil => rfl
  | cons c rest =>
      have left : trimEnd (c :: rest) ≠ [] := fun gone =>
        something (by rw [← trim_trimEnd, gone]; rfl)
      rw [trimEnd_cons] at left ⊢
      split
      · rename_i blank
        exact absurd (if_pos blank) left
      · rfl

theorem trim_concat_of_blank {c : Char} (blank : isBlank c = true) (text : List Char) :
    trim (text ++ [c]) = trim text := by
  rw [← trim_trimEnd, trimEnd_concat_of_blank blank, trim_trimEnd]

/-- A word without blanks has nothing to trim. -/
theorem trim_of_visible {word : List Char} (visible : ∀ c ∈ word, isBlank c = false) :
    trim word = word := by
  have ends : trimEnd word = word := by
    simpa [trimEnd] using trimEnd_append_of_visible visible []
  cases word with
  | nil => rfl
  | cons c rest => rw [trim, trimStart_cons_of_visible (visible c List.mem_cons_self), ends]

/-- A text that begins and ends visibly has nothing to trim. -/
theorem trim_of_visible_ends {first last : Char} (begins : isBlank first = false)
    (ends : isBlank last = false) (text : List Char) :
    trim (first :: (text ++ [last])) = first :: (text ++ [last]) := by
  rw [trim, trimStart_cons_of_visible begins, trimEnd_cons_of_visible begins,
    trimEnd_concat_of_visible ends]

/-- A text whose first and last characters are visible has nothing to trim. -/
theorem trim_of_ends {text : List Char} (begins : ∀ c ∈ text.head?, isBlank c = false)
    (ends : ∀ c ∈ text.getLast?, isBlank c = false) : trim text = text := by
  cases text with
  | nil => rfl
  | cons first rest =>
      have visible := begins first rfl
      rw [trim, trimStart_cons_of_visible visible]
      rcases List.eq_nil_or_concat (first :: rest) with empty | ⟨front, last, shape⟩
      · cases empty
      · rw [List.concat_eq_append] at shape
        rw [shape] at ends ⊢
        exact trimEnd_concat_of_visible (ends last List.getLast?_concat) front

theorem trimStart_append {first : List Char} (something : trimStart first ≠ []) (rest : List Char) :
    trimStart (first ++ rest) = trimStart first ++ rest := by
  rw [trimStart, List.dropWhile_append, if_neg (by simpa [trimStart] using something)]
  rfl

/-- A visible character ends the blanks in front. -/
theorem trimStart_append_cons {c : Char} (visible : isBlank c = false) (first rest : List Char) :
    trimStart (first ++ c :: rest) = trimStart first ++ c :: rest := by
  induction first with
  | nil => exact trimStart_cons_of_visible visible rest
  | cons d first ih =>
      rw [List.cons_append]
      by_cases blank : isBlank d = true
      · rw [trimStart_cons_of_blank blank, trimStart_cons_of_blank blank, ih]
      · have shown : isBlank d = false := by simpa using blank
        rw [trimStart_cons_of_visible shown, trimStart_cons_of_visible shown]
        rfl

theorem trimEnd_append {rest : List Char} (something : trimEnd rest ≠ []) (first : List Char) :
    trimEnd (first ++ rest) = first ++ trimEnd rest := by
  have kept : (rest.reverse.dropWhile isBlank).isEmpty = false := by
    simpa [trimEnd] using something
  rw [trimEnd, List.reverse_append, List.dropWhile_append, kept]
  simp [trimEnd]

/-- Blanks in front are trimmed. -/
theorem trim_append_of_blank {gap : List Char} (blank : ∀ c ∈ gap, isBlank c = true) (text : List Char) :
    trim (gap ++ text) = trim text := by
  induction gap with
  | nil => rfl
  | cons c gap ih =>
      rw [List.cons_append, trim_cons_of_blank (blank c List.mem_cons_self),
        ih fun d inside => blank d (List.mem_cons_of_mem c inside)]

/-- Blanks behind are trimmed. -/
theorem trim_append_blank {gap : List Char} (blank : ∀ c ∈ gap, isBlank c = true) (text : List Char) :
    trim (text ++ gap) = trim text := by
  induction gap generalizing text with
  | nil => rw [List.append_nil]
  | cons c gap ih =>
      rw [List.append_cons text c gap, ih fun d inside => blank d (List.mem_cons_of_mem c inside),
        trim_concat_of_blank (blank c List.mem_cons_self)]

/-- Trimming leaves nothing of a blank text, and something of every other one. -/
theorem trim_eq_nil_iff {text : List Char} : trim text = [] ↔ ∀ c ∈ text, isBlank c = true := by
  constructor
  · intro gone c inside
    cases visible : isBlank c with
    | true => rfl
    | false => exact absurd (mem_trim inside visible) (by rw [gone]; exact List.not_mem_nil)
  · intro blank
    have trimmed := trim_append_of_blank blank []
    rwa [List.append_nil] at trimmed

/-- A text with blanks around it. -/
def Padded (text padded : List Char) : Prop :=
  ∃ before behind, (∀ c ∈ before, isBlank c = true) ∧ (∀ c ∈ behind, isBlank c = true) ∧
    padded = before ++ (text ++ behind)

/-- The blanks around a text are trimmed. -/
theorem Padded.trim_eq {text padded : List Char} (around : Padded text padded) :
    trim padded = trim text := by
  obtain ⟨before, behind, blankBefore, blankBehind, rfl⟩ := around
  rw [trim_append_of_blank blankBefore, trim_append_blank blankBehind]

theorem ne_of_blank {blank visible : Char} (isBlank : isBlank blank = true)
    (isVisible : Text.isBlank visible = false) : blank ≠ visible := by
  rintro rfl
  rw [isVisible] at isBlank
  cases isBlank

/-- Trimming once is enough. -/
@[simp] theorem trim_trim (text : List Char) : trim (trim text) = trim text :=
  (trim_trimEnd (trimStart text)).trans (trim_trimStart text)

end Herald.Text
