/- One reading for every date text.

Ten readers are tried on a date text: one of integers, one of timestamps and one for each plain
format (`Moment.Reader.all`). What a text shows besides digits and blanks, its marks, tells which
of them can accept it: every part of a reader takes its own marks off the front of the text
(`DateItem.marks_of_take?`, `Moment.marks_of_readStamp?`), so an accepted text shows one of finitely
many rows of marks (`Moment.Reader.mem_shown_of_read?`), and no two readers share a row
(`Moment.Reader.eq_of_shown`). Hence at most one reader accepts a text, and any order of the
readers gives the same result (`Moment.read?_any_order`). -/
import Herald.Proofs.Calendar.Reading
namespace Herald
set_option autoImplicit false

/-! ## Marks -/

namespace Text

/-- The characters of a text that are neither digits nor blanks. -/
def marks (text : List Char) : List Char := text.filter fun c => !c.isDigit && !isBlank c

theorem marks_append (text rest : List Char) : marks (text ++ rest) = marks text ++ marks rest :=
  List.filter_append text rest

theorem marks_cons (c : Char) (rest : List Char) : marks (c :: rest) = marks [c] ++ marks rest :=
  marks_append [c] rest

theorem marks_digits {digits : List Char} (all : ∀ c ∈ digits, c.isDigit = true) : marks digits = [] := by
  apply List.filter_eq_nil_iff.mpr
  intro c inside
  simp [all c inside]

/-- Digits in front show nothing. -/
theorem marks_drop {digits text : List Char} (front : digits <+: text)
    (all : ∀ c ∈ digits, c.isDigit = true) : marks text = marks (text.drop digits.length) := by
  calc marks text = marks (digits ++ text.drop digits.length) := by
        rw [List.prefix_iff_eq_append.mp front]
    _ = marks (text.drop digits.length) := by rw [marks_append, marks_digits all, List.nil_append]

/-- Neither do blanks. -/
theorem marks_trimStart (text : List Char) : marks (trimStart text) = marks text := by
  have blanks : marks (text.takeWhile isBlank) = [] := by
    apply List.filter_eq_nil_iff.mpr
    intro c inside
    have blank := List.all_eq_true.mp List.all_takeWhile c inside
    simp [blank]
  calc marks (trimStart text) = marks (text.takeWhile isBlank) ++ marks (trimStart text) := by
        rw [blanks, List.nil_append]
    _ = marks text := by rw [← marks_append, trimStart, List.takeWhile_append_dropWhile]

end Text

/-! ## The marks of a plain date -/

namespace DateItem
open Text

/-- The signs that a number can have in front. -/
def signs : List (List Char) := [[], ['-'], ['+']]

/-- The marks among the literal characters of a format. -/
def literals : List DateItem → List Char
  | [] => []
  | .literal c :: items => marks [c] ++ literals items
  | _ :: items => literals items

theorem marks_of_takeUpTo? {width value : Nat} {text rest : List Char}
    (taken : takeUpTo? width text = some (value, rest)) : marks text = marks rest := by
  simp only [takeUpTo?] at taken
  split at taken
  · cases taken
  · obtain ⟨-, rfl⟩ := Prod.mk.inj (Option.some.inj taken)
    have front : (text.take width).takeWhile Char.isDigit <+: text :=
      (List.takeWhile_prefix Char.isDigit).trans (List.take_prefix width text)
    exact marks_drop front (List.all_eq_true.mp List.all_takeWhile)

/-- A year shows its sign. -/
theorem marks_of_takeYear? {text rest : List Char} {value : Int}
    (taken : takeYear? text = some (value, rest)) : ∃ sign ∈ signs, marks text = sign ++ marks rest := by
  unfold takeYear? at taken
  split at taken
  · obtain ⟨⟨size, after⟩, digits, same⟩ := Option.map_eq_some_iff.mp taken
    obtain ⟨-, rfl⟩ := Prod.mk.inj same
    refine ⟨['-'], by decide, ?_⟩
    rw [marks_cons, marks_of_takeUpTo? digits]
    rfl
  · obtain ⟨⟨size, after⟩, digits, same⟩ := Option.map_eq_some_iff.mp taken
    obtain ⟨-, rfl⟩ := Prod.mk.inj same
    refine ⟨['+'], by decide, ?_⟩
    rw [marks_cons, marks_of_takeUpTo? digits]
    rfl
  · obtain ⟨⟨size, after⟩, digits, same⟩ := Option.map_eq_some_iff.mp taken
    obtain ⟨-, rfl⟩ := Prod.mk.inj same
    refine ⟨[], by decide, ?_⟩
    rw [marks_of_takeUpTo? digits, List.nil_append]

/-- **A format without a year shows its literal characters.** -/
theorem marks_of_take? {items : List DateItem} (noYear : .year ∉ items) {text rest : List Char}
    {values : List Int} (taken : take? items text = some (values, rest)) :
    marks text = literals items ++ marks rest := by
  induction items generalizing text values with
  | nil =>
      obtain ⟨-, rfl⟩ := Prod.mk.inj (Option.some.inj taken)
      rfl
  | cons item items ih =>
      have later : .year ∉ items := fun inside => noYear (List.mem_cons_of_mem item inside)
      cases item with
      | year => exact absurd List.mem_cons_self noYear
      | pair =>
          obtain ⟨⟨value, afterNumber⟩, number, taken⟩ := Option.bind_eq_some_iff.mp taken
          obtain ⟨⟨others, afterItems⟩, front, same⟩ := Option.bind_eq_some_iff.mp taken
          obtain ⟨-, rfl⟩ := Prod.mk.inj (Option.some.inj same)
          rw [← marks_trimStart, marks_of_takeUpTo? number, ih later front]
          rfl
      | literal expected =>
          cases text with
          | nil => cases taken
          | cons c text =>
              rw [take?] at taken
              split at taken
              · rename_i same
                rw [marks_cons, ih later taken, ← List.append_assoc, eq_of_beq same]
                rfl
              · cases taken
      | gap =>
          rw [← marks_trimStart, ih later taken]
          rfl

/-- **A plain format shows a sign, if its year has one, and its literal characters.** -/
theorem marks_of_readAs? {items : List DateItem} (noYear : .year ∉ items) {text : List Char}
    {time : WallTime} (found : WallTime.readAs? (.year :: items) text = some time) :
    ∃ sign ∈ signs, marks text = sign ++ literals items := by
  obtain ⟨values, read, -⟩ := Option.bind_eq_some_iff.mp found
  unfold read? at read
  split at read
  · rename_i taken
    obtain ⟨⟨year, afterYear⟩, number, taken⟩ := Option.bind_eq_some_iff.mp taken
    obtain ⟨⟨others, rest⟩, front, same⟩ := Option.bind_eq_some_iff.mp taken
    obtain ⟨-, rfl⟩ := Prod.mk.inj (Option.some.inj same)
    obtain ⟨sign, listed, shown⟩ := marks_of_takeYear? number
    refine ⟨sign, listed, ?_⟩
    rw [← marks_trimStart, shown, marks_of_take? noYear front]
    simp [marks]
  · cases read

end DateItem

/-! ## The marks of an integer and of a timestamp -/

/-- An integer shows its sign. -/
theorem Text.marks_of_readInt64? {text : List Char} {value : Int}
    (found : readInt64? text = some value) : marks text ∈ DateItem.signs := by
  have number : ∀ {digits : List Char} {size : Nat}, readDigits? digits = some size → marks digits = [] := by
    intro digits size read
    rw [readDigits?] at read
    split at read
    · cases read
    · rename_i form
      simp only [Bool.or_eq_true, Bool.not_eq_true', not_or, Bool.not_eq_false, List.all_eq_true] at form
      exact marks_digits form.2
  obtain ⟨read, -⟩ := Option.filter_eq_some_iff.mp found
  unfold readInt? at read
  split at read
  · obtain ⟨_, sized, -⟩ := Option.map_eq_some_iff.mp read
    obtain ⟨size, digits, -⟩ := Option.bind_eq_some_iff.mp sized
    rw [marks_cons, number digits]
    decide
  · obtain ⟨_, sized, -⟩ := Option.map_eq_some_iff.mp read
    obtain ⟨size, natural, -⟩ := Option.bind_eq_some_iff.mp sized
    unfold readNat? at natural
    split at natural
    · rw [marks_cons, number natural]
      decide
    · rw [number natural]
      decide

namespace Moment
open Text

theorem marks_of_takeExactly? {width value : Nat} {text rest : List Char}
    (taken : takeExactly? width text = some (value, rest)) : marks text = marks rest := by
  simp only [takeExactly?] at taken
  split at taken
  · rename_i exactly
    simp only [Bool.and_eq_true, List.all_eq_true] at exactly
    obtain ⟨-, rfl⟩ := Prod.mk.inj (Option.some.inj taken)
    have shown := marks_drop (List.take_prefix width text) exactly.2
    rwa [eq_of_beq exactly.1] at shown
  · cases taken

theorem marks_of_takeChar? {expected : Char} {text rest : List Char}
    (taken : takeChar? expected text = some rest) : marks text = marks [expected] ++ marks rest := by
  unfold takeChar? at taken
  split at taken
  · split at taken
    · rename_i same
      obtain rfl := Option.some.inj taken
      rw [marks_cons, eq_of_beq same]
    · cases taken
  · cases taken

/-- What the place between a timestamp's date and its time can show. -/
def betweenMarks : List (List Char) := [[], ['T'], ['t']]

theorem marks_of_takeMark? {text rest : List Char} (taken : takeMark? text = some rest) :
    ∃ between ∈ betweenMarks, marks text = between ++ marks rest := by
  unfold takeMark? at taken
  split at taken
  · rename_i c after
    split at taken
    · rename_i mark
      obtain rfl := Option.some.inj taken
      simp only [Bool.or_eq_true, beq_iff_eq] at mark
      refine ⟨marks [c], ?_, marks_cons c _⟩
      rcases mark with (rfl | rfl) | rfl <;> decide
    · cases taken
  · cases taken

/-- What a fraction can show. -/
def fractionMarks : List (List Char) := [[], ['.']]

theorem marks_of_takeFraction? {text rest : List Char} {nano : Nat}
    (taken : takeFraction? text = some (nano, rest)) :
    ∃ point ∈ fractionMarks, marks text = point ++ marks rest := by
  unfold takeFraction? at taken
  split at taken
  · rename_i fraction
    simp only at taken
    split at taken
    · cases taken
    · obtain ⟨-, rfl⟩ := Prod.mk.inj (Option.some.inj taken)
      refine ⟨['.'], by decide, ?_⟩
      have front : fraction.takeWhile Char.isDigit <+: fraction := List.takeWhile_prefix Char.isDigit
      rw [marks_cons, marks_drop front (List.all_eq_true.mp List.all_takeWhile)]
      rfl
  · obtain ⟨-, rfl⟩ := Prod.mk.inj (Option.some.inj taken)
    exact ⟨[], by decide, rfl⟩

/-- What an offset can show. -/
def offsetMarks : List (List Char) :=
  [['Z'], ['z'], ['+', ':'], ['-', ':'], [Char.ofNat 0x2212, ':']]

theorem marks_of_takeOffset? {text rest : List Char} {offset : Int}
    (taken : takeOffset? (takeChar? ':') text = some (offset, rest)) :
    ∃ sign ∈ offsetMarks, marks text = sign ++ marks rest := by
  unfold takeOffset? at taken
  split at taken
  · cases taken
  · rename_i c after
    split at taken
    · rename_i utc
      obtain ⟨-, rfl⟩ := Prod.mk.inj (Option.some.inj taken)
      simp only [Bool.or_eq_true, beq_iff_eq] at utc
      refine ⟨marks [c], ?_, marks_cons c _⟩
      rcases utc with rfl | rfl <;> decide
    · split at taken
      · rename_i signed
        obtain ⟨⟨hours, afterHours⟩, hour, taken⟩ := Option.bind_eq_some_iff.mp taken
        obtain ⟨afterColon, colon, taken⟩ := Option.bind_eq_some_iff.mp taken
        obtain ⟨⟨minutes, afterMinutes⟩, minute, taken⟩ := Option.bind_eq_some_iff.mp taken
        simp only at taken
        split at taken
        · obtain ⟨-, rfl⟩ := Prod.mk.inj (Option.some.inj taken)
          simp only [Bool.or_eq_true, beq_iff_eq] at signed
          refine ⟨marks [c] ++ marks [':'], ?_, ?_⟩
          · rcases signed with (rfl | rfl) | rfl <;> decide
          · rw [marks_cons, marks_of_takeExactly? hour, marks_of_takeChar? colon,
              marks_of_takeExactly? minute, List.append_assoc]
        · cases taken
      · cases taken

/-- What a timestamp can show. -/
def stampMarks : List (List Char) :=
  betweenMarks.flatMap fun between => fractionMarks.flatMap fun point => offsetMarks.map fun sign =>
    ['-', '-'] ++ between ++ [':', ':'] ++ point ++ sign

/-- **A timestamp shows two dashes, what is between date and time, two colons, a point where it has a
fraction, and its offset.** -/
theorem marks_of_readStamp? {text : List Char} {moment : Moment} (found : readStamp? text = some moment) :
    marks text ∈ stampMarks := by
  obtain ⟨⟨_, _⟩, year, found⟩ := Option.bind_eq_some_iff.mp found
  obtain ⟨_, yearDash, found⟩ := Option.bind_eq_some_iff.mp found
  obtain ⟨⟨_, _⟩, month, found⟩ := Option.bind_eq_some_iff.mp found
  obtain ⟨_, monthDash, found⟩ := Option.bind_eq_some_iff.mp found
  obtain ⟨⟨_, _⟩, day, found⟩ := Option.bind_eq_some_iff.mp found
  obtain ⟨_, mark, found⟩ := Option.bind_eq_some_iff.mp found
  obtain ⟨⟨_, _⟩, hour, found⟩ := Option.bind_eq_some_iff.mp found
  obtain ⟨_, hourColon, found⟩ := Option.bind_eq_some_iff.mp found
  obtain ⟨⟨_, _⟩, minute, found⟩ := Option.bind_eq_some_iff.mp found
  obtain ⟨_, minuteColon, found⟩ := Option.bind_eq_some_iff.mp found
  obtain ⟨⟨_, _⟩, second, found⟩ := Option.bind_eq_some_iff.mp found
  obtain ⟨⟨_, _⟩, fraction, found⟩ := Option.bind_eq_some_iff.mp found
  obtain ⟨⟨_, rest⟩, offset, found⟩ := Option.bind_eq_some_iff.mp found
  obtain ⟨between, isBetween, betweenShown⟩ := marks_of_takeMark? mark
  obtain ⟨point, isPoint, pointShown⟩ := marks_of_takeFraction? fraction
  obtain ⟨sign, isSign, signShown⟩ := marks_of_takeOffset? offset
  simp only at found
  split at found
  · rename_i nothing
    have last : marks rest = [] := by
      rw [List.isEmpty_iff.mp nothing]
      rfl
    have shown : marks text = ['-', '-'] ++ between ++ [':', ':'] ++ point ++ sign := by
      rw [marks_of_takeExactly? year, marks_of_takeChar? yearDash, marks_of_takeExactly? month,
        marks_of_takeChar? monthDash, marks_of_takeExactly? day, betweenShown, marks_of_takeExactly? hour,
        marks_of_takeChar? hourColon, marks_of_takeExactly? minute, marks_of_takeChar? minuteColon,
        marks_of_takeExactly? second, pointShown, signShown, last]
      simp [marks, Text.isBlank]
    rw [shown]
    exact List.mem_flatMap.mpr ⟨between, isBetween, List.mem_flatMap.mpr
      ⟨point, isPoint, List.mem_map.mpr ⟨sign, isSign, rfl⟩⟩⟩
  · cases found

/-! ## The readers -/

/-- A reader of date texts. -/
inductive Reader where
  | integer
  | stamp
  | plain (format : List DateItem)
  deriving DecidableEq, Repr

namespace Reader

/-- The readers in the order in which they are tried. -/
def all : List Reader := .integer :: .stamp :: DateItem.formats.map .plain

/-- What a reader makes of a text: nothing where it does not accept the text, else its instant, if
that is in range. Plain dates are read at an offset. -/
def read? (offset : Int) : Reader → List Char → Option (Option Moment)
  | .integer, text => (readInt64? text).map ofMillis?
  | .stamp, text => (readStamp? text).map some
  | .plain format, text => (WallTime.readAs? format text).map (WallTime.toMoment? offset)

/-- The rows of marks that a reader's texts can show. -/
def shown : Reader → List (List Char)
  | .integer => DateItem.signs
  | .stamp => stampMarks
  | .plain format => DateItem.signs.map (· ++ DateItem.literals format.tail)

variable {offset : Int} {text : List Char}

/-- **An accepted text shows a row of its reader.** -/
theorem mem_shown_of_read? {reader : Reader} (listed : reader ∈ all)
    (accepted : (reader.read? offset text).isSome = true) : marks text ∈ reader.shown := by
  obtain ⟨moment, found⟩ := Option.isSome_iff_exists.mp accepted
  cases reader with
  | integer =>
      obtain ⟨value, read, -⟩ := Option.map_eq_some_iff.mp found
      exact marks_of_readInt64? read
  | stamp =>
      obtain ⟨stamped, read, -⟩ := Option.map_eq_some_iff.mp found
      exact marks_of_readStamp? read
  | plain format =>
      obtain ⟨time, read, -⟩ := Option.map_eq_some_iff.mp found
      have begins : ∀ format ∈ DateItem.formats,
          format = .year :: format.tail ∧ .year ∉ format.tail := by decide
      have isFormat : format ∈ DateItem.formats := by simpa [all] using listed
      obtain ⟨shape, noYear⟩ := begins format isFormat
      rw [shape] at read
      obtain ⟨sign, isSign, shown⟩ := DateItem.marks_of_readAs? noYear read
      rw [shown]
      exact List.mem_map_of_mem isSign

/-- **No two readers share a row.** -/
theorem eq_of_shown : ∀ first ∈ all, ∀ second ∈ all, ∀ row ∈ first.shown, row ∈ second.shown →
    first = second := by
  decide +kernel

/-- **At most one reader accepts a text.** -/
theorem eq_of_accepted {first second : Reader} (isFirst : first ∈ all) (isSecond : second ∈ all)
    (accepted : (first.read? offset text).isSome = true)
    (accepted' : (second.read? offset text).isSome = true) : first = second :=
  eq_of_shown first isFirst second isSecond _ (mem_shown_of_read? isFirst accepted)
    (mem_shown_of_read? isSecond accepted')

/-- In any order, what is read first is what its one reader makes of the text. -/
theorem findSome?_of_perm {order : List Reader} (perm : order.Perm all) :
    (order.findSome? fun reader => reader.read? offset text) =
      all.findSome? fun reader => reader.read? offset text := by
  cases first : order.findSome? fun reader => reader.read? offset text with
  | none =>
      rw [List.findSome?_eq_none_iff] at first
      exact (List.findSome?_eq_none_iff.mpr fun reader listed => first reader (perm.mem_iff.mpr listed)).symm
  | some reading =>
      obtain ⟨reader, inOrder, read⟩ := List.exists_of_findSome?_eq_some first
      have listed : reader ∈ all := perm.mem_iff.mp inOrder
      have accepted : (reader.read? offset text).isSome = true := Option.isSome_of_eq_some read
      have accepts : (all.findSome? fun reader => reader.read? offset text).isSome = true :=
        List.findSome?_isSome_iff.mpr ⟨reader, listed, accepted⟩
      obtain ⟨other, second⟩ := Option.isSome_iff_exists.mp accepts
      obtain ⟨reader', listed', read'⟩ := List.exists_of_findSome?_eq_some second
      obtain rfl := eq_of_accepted listed listed' accepted (Option.isSome_of_eq_some read')
      rw [second, ← read', read]

/-- A text is read by the first reader that accepts it. -/
theorem read?_eq_first : Moment.read? offset text =
    (all.findSome? fun reader => reader.read? offset text).join := by
  have plain : ((DateItem.formats.map Reader.plain).findSome? fun reader => reader.read? offset text) =
      (WallTime.read? text).map (WallTime.toMoment? offset) := by
    rw [List.findSome?_map, WallTime.read?, List.map_findSome?]
    rfl
  rw [Moment.read?, all, List.findSome?_cons, List.findSome?_cons, plain]
  cases integer : readInt64? text with
  | some value => simp [read?, integer]
  | none =>
      cases stamp : readStamp? text with
      | some moment => simp [read?, integer, stamp]
      | none =>
          simp only [read?, integer, stamp, Option.map_none]
          cases WallTime.read? text <;> rfl

end Reader

/-- **A date text has one reading.** Of the readers of integers, of timestamps and of the eight plain
formats at most one accepts a text, so whatever the order in which they are tried, the first one
that accepts the text makes the same of it. -/
theorem read?_any_order (offset : Int) (text : List Char) :
    (∀ first ∈ Reader.all, ∀ second ∈ Reader.all, (first.read? offset text).isSome = true →
      (second.read? offset text).isSome = true → first = second) ∧
    ∀ order : List Reader, order.Perm Reader.all →
      read? offset text = (order.findSome? fun reader => reader.read? offset text).join := by
  constructor
  · intro first isFirst second isSecond accepted accepted'
    exact Reader.eq_of_accepted isFirst isSecond accepted accepted'
  · intro order perm
    rw [Reader.findSome?_of_perm perm, Reader.read?_eq_first]

namespace Example

theorem read?_any_order_unpadded :
    ∃ reader ∈ Reader.all, (reader.read? 0 " +70-1- 102: 3".toList).isSome = true ∧
      (∀ other ∈ Reader.all, (other.read? 0 " +70-1- 102: 3".toList).isSome = true → other = reader) ∧
      Reader.all.reverse.Perm Reader.all ∧
      read? 0 " +70-1- 102: 3".toList =
        (Reader.all.reverse.findSome? fun reader => reader.read? 0 " +70-1- 102: 3".toList).join := by
  obtain ⟨unique, anyOrder⟩ := read?_any_order 0 " +70-1- 102: 3".toList
  have listed : Reader.plain (DateItem.date '-' ++ .gap :: DateItem.clock) ∈ Reader.all := by decide
  have accepted : ((Reader.plain (DateItem.date '-' ++ .gap :: DateItem.clock)).read? 0
      " +70-1- 102: 3".toList).isSome = true := by decide +kernel
  have backwards : Reader.all.reverse.Perm Reader.all := List.reverse_perm _
  exact ⟨_, listed, accepted, fun other isOther accepted' => unique _ isOther _ listed accepted' accepted,
    backwards, anyOrder _ backwards⟩

end Example
end Moment
end Herald
