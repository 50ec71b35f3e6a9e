/- Offsets as they are written.

`Zone.Spells` is the form of an offset: a sign, one or two digits of hours and, where there are
minutes, two digits of them with or without a colon in front. Every offset in this form is read as
it is written (`Zone.writtenOffset?_of_spells`). What is read at all is in this form once its colons
are dropped (`Zone.writtenOffset?_eq_some_iff`), and only up to them: colons are passed over before
the hours are told from the minutes, so a colon that stands anywhere else neither refuses an offset
nor keeps its hours apart (`Zone.Example.misplaced_colon`). -/
import Herald.Zone
import Herald.Proofs.Number.Digits
import Herald.Proofs.Text.Words
namespace Herald
set_option autoImplicit false

namespace Zone

/-! ## The form of an offset -/

/-- One or two digits of hours, at most 14. -/
structure IsHours (digits : List Char) : Prop where
  digit : ∀ c ∈ digits, c.isDigit = true
  length : digits.length = 1 ∨ digits.length = 2
  bound : digitsValue digits ≤ 14

/-- Two digits of minutes, at most 59. -/
structure IsMinutes (digits : List Char) : Prop where
  digit : ∀ c ∈ digits, c.isDigit = true
  length : digits.length = 2
  bound : digitsValue digits ≤ 59

/-- The seconds of hours and minutes. -/
def seconds (hours minutes : Nat) : Int := (hours * 3600 + minutes * 60 : Nat)

/-- The texts of an offset's size in seconds. -/
inductive SpellsSize : List Char → Int → Prop
  | hours {hours : List Char} (isHours : IsHours hours) : SpellsSize hours (seconds (digitsValue hours) 0)
  | joined {hours minutes : List Char} (isHours : IsHours hours) (isMinutes : IsMinutes minutes) :
      SpellsSize (hours ++ minutes) (seconds (digitsValue hours) (digitsValue minutes))
  | parted {hours minutes : List Char} (isHours : IsHours hours) (isMinutes : IsMinutes minutes) :
      SpellsSize (hours ++ ':' :: minutes) (seconds (digitsValue hours) (digitsValue minutes))

/-- The texts of an offset in seconds east of UTC. -/
inductive Spells : List Char → Int → Prop
  | east {text : List Char} {size : Int} (spelled : SpellsSize text size) : Spells ('+' :: text) size
  | west {text : List Char} {size : Int} (spelled : SpellsSize text size) : Spells ('-' :: text) (-size)

/-- A text with the colons behind its first character dropped. -/
def withoutColons : List Char → List Char
  | [] => []
  | first :: rest => first :: rest.filter (· != ':')

theorem withoutColons_of_noColon {text : List Char} (noColon : ':' ∉ text) : withoutColons text = text := by
  cases text with
  | nil => rfl
  | cons first rest =>
      have later : ':' ∉ rest := fun inside => noColon (List.mem_cons_of_mem first inside)
      rw [withoutColons, Text.filter_of_notMem later]

/-! ## Reading a size -/

theorem filter_of_digits {digits : List Char} (digit : ∀ c ∈ digits, c.isDigit = true) :
    digits.filter (· != ':') = digits :=
  Text.filter_of_notMem (notMem_of_digits digit rfl)

/-- A colon has an hour and two digits of minutes beside it. -/
theorem SpellsSize.length_of_colon {text : List Char} {size : Int} (spelled : SpellsSize text size)
    (colon : ':' ∈ text) : 4 ≤ text.length := by
  cases spelled with
  | hours isHours => exact absurd colon (notMem_of_digits isHours.digit rfl)
  | joined isHours isMinutes =>
      rcases List.mem_append.mp colon with inside | inside
      · exact absurd inside (notMem_of_digits isHours.digit rfl)
      · exact absurd inside (notMem_of_digits isMinutes.digit rfl)
  | parted isHours isMinutes =>
      have hours := isHours.length
      have minutes := isMinutes.length
      rw [List.length_append, List.length_cons]
      omega

/-- The size of so many digits of hours and the others of minutes. -/
theorem offsetSize?_of_digits {digits : List Char} (nonempty : digits ≠ []) (short : digits.length ≤ 4)
    (digit : ∀ c ∈ digits, c.isDigit = true) {count : Nat}
    (counted : (if digits.length ≤ 2 then digits.length else digits.length - 2) = count) :
    offsetSize? digits =
      if digitsValue (digits.take count) ≤ 14 ∧ digitsValue (digits.drop count) ≤ 59 then
        some (seconds (digitsValue (digits.take count)) (digitsValue (digits.drop count)))
      else none := by
  have form : (digits.isEmpty || decide (4 < digits.length) || !digits.all Char.isDigit) = false := by
    rw [List.isEmpty_eq_false_iff.mpr nonempty, List.all_eq_true.mpr digit]
    simp only [Bool.false_or, Bool.not_true, Bool.or_false, decide_eq_false_iff_not]
    omega
  simp only [offsetSize?, form, Bool.false_eq_true, if_false, counted, Bool.and_eq_true,
    decide_eq_true_eq, seconds]

section Size
variable {hours minutes : List Char}

theorem IsHours.ne_nil (isHours : IsHours hours) : hours ≠ [] := by
  rintro rfl
  have length := isHours.length
  simp at length

theorem offsetSize?_hours (isHours : IsHours hours) :
    offsetSize? hours = some (seconds (digitsValue hours) 0) := by
  have length := isHours.length
  rw [offsetSize?_of_digits isHours.ne_nil (by omega) isHours.digit (if_pos (by omega)),
    List.take_length, List.drop_length]
  exact if_pos ⟨isHours.bound, Nat.zero_le 59⟩

theorem offsetSize?_joined (isHours : IsHours hours) (isMinutes : IsMinutes minutes) :
    offsetSize? (hours ++ minutes) = some (seconds (digitsValue hours) (digitsValue minutes)) := by
  have length : (hours ++ minutes).length = hours.length + 2 := by
    rw [List.length_append, isMinutes.length]
  have count := isHours.length
  have digit : ∀ c ∈ hours ++ minutes, c.isDigit = true := by
    intro c inside
    exact (List.mem_append.mp inside).elim (isHours.digit c) (isMinutes.digit c)
  have counted : (if (hours ++ minutes).length ≤ 2 then (hours ++ minutes).length
      else (hours ++ minutes).length - 2) = hours.length := by
    rw [if_neg (by omega), length, Nat.add_sub_cancel]
  rw [offsetSize?_of_digits (List.append_ne_nil_of_left_ne_nil isHours.ne_nil _) (by omega) digit counted,
    List.take_left' rfl, List.drop_left' rfl]
  exact if_pos ⟨isHours.bound, isMinutes.bound⟩

/-- A size is read as it is written. -/
theorem offsetSize?_of_spells {text : List Char} {size : Int} (spelled : SpellsSize text size) :
    offsetSize? (text.filter (· != ':')) = some size := by
  cases spelled with
  | hours isHours => rw [filter_of_digits isHours.digit, offsetSize?_hours isHours]
  | joined isHours isMinutes =>
      rw [List.filter_append, filter_of_digits isHours.digit, filter_of_digits isMinutes.digit,
        offsetSize?_joined isHours isMinutes]
  | parted isHours isMinutes =>
      rw [List.filter_append, List.filter_cons_of_neg (by decide), filter_of_digits isHours.digit,
        filter_of_digits isMinutes.digit, offsetSize?_joined isHours isMinutes]

end Size

/-- What is read as a size is one without a colon. -/
theorem spells_of_offsetSize? {digits : List Char} {size : Int}
    (read : offsetSize? digits = some size) : SpellsSize digits size := by
  by_cases form : digits ≠ [] ∧ digits.length ≤ 4 ∧ ∀ c ∈ digits, c.isDigit = true
  · obtain ⟨nonempty, short, digit⟩ := form
    have positive : 0 < digits.length := List.length_pos_iff.mpr nonempty
    by_cases few : digits.length ≤ 2
    · -- all digits are of the hours
      rw [offsetSize?_of_digits nonempty short digit (if_pos few)] at read
      split at read
      · rename_i bounds
        obtain rfl := Option.some.inj read
        rw [List.take_length, List.drop_length] at bounds ⊢
        exact .hours ⟨digit, by omega, bounds.1⟩
      · cases read
    · rw [offsetSize?_of_digits nonempty short digit (if_neg few)] at read
      split at read
      · rename_i bounds
        obtain rfl := Option.some.inj read
        have isHours : IsHours (digits.take (digits.length - 2)) := by
          refine ⟨fun c inside => digit c (List.mem_of_mem_take inside), ?_, bounds.1⟩
          rw [List.length_take]
          omega
        have isMinutes : IsMinutes (digits.drop (digits.length - 2)) := by
          refine ⟨fun c inside => digit c (List.mem_of_mem_drop inside), ?_, bounds.2⟩
          rw [List.length_drop]
          omega
        have joined := SpellsSize.joined isHours isMinutes
        rwa [List.take_append_drop] at joined
      · cases read
  · have refused : (digits.isEmpty || decide (4 < digits.length) || !digits.all Char.isDigit) = true := by
      rw [← Bool.not_eq_false]
      intro accepted
      simp only [Bool.or_eq_false_iff, List.isEmpty_eq_false_iff, decide_eq_false_iff_not,
        Bool.not_eq_false', List.all_eq_true] at accepted
      obtain ⟨⟨nonempty, short⟩, digit⟩ := accepted
      exact form ⟨nonempty, by omega, digit⟩
    rw [offsetSize?, refused] at read
    cases read

/-! ## Reading an offset -/

section Offset
variable {text : List Char} {offset : Int}

/-- **An offset is read as it is written.** -/
theorem writtenOffset?_of_spells (spelled : Spells text offset) : writtenOffset? text = some offset := by
  cases spelled with
  | east size => exact offsetSize?_of_spells size
  | west size => rw [writtenOffset?, offsetSize?_of_spells size, Option.map_some]

/-- **What is read as an offset is one without its colons.** -/
theorem writtenOffset?_eq_some_iff :
    writtenOffset? text = some offset ↔ Spells (withoutColons text) offset := by
  constructor
  · intro read
    unfold writtenOffset? at read
    split at read
    · exact .east (spells_of_offsetSize? read)
    · obtain ⟨size, sized, rfl⟩ := Option.map_eq_some_iff.mp read
      exact .west (spells_of_offsetSize? sized)
    · cases read
  · intro spelled
    cases text with
    | nil => cases spelled
    | cons first rest =>
        have once : (rest.filter (· != ':')).filter (· != ':') = rest.filter (· != ':') := by
          rw [List.filter_filter]
          simp only [Bool.and_self]
        have read := writtenOffset?_of_spells spelled
        simp only [withoutColons] at spelled read
        cases spelled with
        | east size => rwa [writtenOffset?, once] at read
        | west size => rwa [writtenOffset?, once] at read

end Offset

/-- **Which offsets name a zone.** A text that is not the name of a zone is read exactly if it is,
blanks around it aside and colons behind its sign dropped, in the form of an offset, and the zone is
at that offset. So every offset in the form is read as it is written, and without a colon nothing
else is. -/
theorem read?_offset_iff {text : String} (unnamed : namedOffset? (Text.trimmed text) = none) :
    (∀ zone, read? text = some zone ↔
      zone.name = String.ofList (Text.trimmed text) ∧
        Spells (withoutColons (Text.trimmed text)) zone.offset) ∧
    (∀ offset, Spells (Text.trimmed text) offset →
      read? text = some ⟨String.ofList (Text.trimmed text), offset⟩) ∧
    (':' ∉ Text.trimmed text → ∀ zone, read? text = some zone ↔
      zone.name = String.ofList (Text.trimmed text) ∧ Spells (Text.trimmed text) zone.offset) := by
  have shape : read? text = (writtenOffset? (Text.trimmed text)).map
      fun offset => ⟨String.ofList (Text.trimmed text), offset⟩ := by
    rw [read?, unnamed, Option.none_or]
  have exact : ∀ zone, read? text = some zone ↔
      zone.name = String.ofList (Text.trimmed text) ∧
        Spells (withoutColons (Text.trimmed text)) zone.offset := by
    intro zone
    rw [shape, Option.map_eq_some_iff]
    constructor
    · rintro ⟨offset, written, rfl⟩
      exact ⟨rfl, writtenOffset?_eq_some_iff.mp written⟩
    · rintro ⟨name, spelled⟩
      refine ⟨zone.offset, writtenOffset?_eq_some_iff.mpr spelled, ?_⟩
      rw [← name]
  refine ⟨exact, ?_, ?_⟩
  · intro offset spelled
    rw [shape, writtenOffset?_of_spells spelled, Option.map_some]
  · intro noColon
    rwa [withoutColons_of_noColon noColon] at exact

/-! ## Colons -/

namespace Example

theorem read?_offset_iff_newfoundland :
    namedOffset? (Text.trimmed " -3:30 ") = none ∧ Spells (Text.trimmed " -3:30 ") (-12600) ∧
      read? " -3:30 " = some ⟨"-3:30", -12600⟩ ∧
      namedOffset? (Text.trimmed "+530") = none ∧ ':' ∉ Text.trimmed "+530" ∧
      Spells (Text.trimmed "+530") 19800 := by
  have trimmed : Text.trimmed " -3:30 " = ['-', '3', ':', '3', '0'] := by decide +kernel
  have unnamed : namedOffset? (Text.trimmed " -3:30 ") = none := by decide +kernel
  have unnamed' : namedOffset? (Text.trimmed "+530") = none := by decide +kernel
  have hours : IsHours ['3'] := ⟨List.all_eq_true.mp rfl, by decide, by decide⟩
  have minutes : IsMinutes ['3', '0'] := ⟨List.all_eq_true.mp rfl, rfl, by decide⟩
  have size : seconds (digitsValue ['3']) (digitsValue ['3', '0']) = 12600 := by decide
  have spelled : Spells (Text.trimmed " -3:30 ") (-12600) := by
    rw [trimmed, ← size]
    exact .west (.parted hours minutes)
  have name : String.ofList (Text.trimmed " -3:30 ") = "-3:30" := by
    rw [trimmed]
  have noColon : ':' ∉ Text.trimmed "+530" := by decide +kernel
  have read : read? "+530" = some ⟨"+530", 19800⟩ := by decide +kernel
  obtain ⟨-, asWritten, -⟩ := read?_offset_iff unnamed
  obtain ⟨-, -, plain⟩ := read?_offset_iff unnamed'
  refine ⟨unnamed, spelled, ?_, unnamed', noColon, ((plain noColon _).mp read).2⟩
  rw [asWritten _ spelled, name]

/-- A colon before a single digit is no offset's, and is read as if it were not there: an hour and
two minutes as twelve hours. -/
theorem misplaced_colon :
    ¬ ∀ text : String, namedOffset? (Text.trimmed text) = none → ∀ zone, read? text = some zone ↔
      zone.name = String.ofList (Text.trimmed text) ∧ Spells (Text.trimmed text) zone.offset := by
  intro formed
  have unnamed : namedOffset? (Text.trimmed "+1:2") = none := by decide +kernel
  have read : read? "+1:2" = some ⟨"+1:2", 43200⟩ := by decide +kernel
  have spelled : Spells ['+', '1', ':', '2'] 43200 := ((formed "+1:2" unnamed _).mp read).2
  cases spelled with
  | east size => exact absurd (size.length_of_colon (by decide)) (by decide)

end Example

end Zone
end Herald
