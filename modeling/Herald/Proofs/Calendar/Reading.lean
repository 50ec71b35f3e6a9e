/- Dates read as they are written.

Each family of date texts is read by the one reader that is meant for it, for the readers tried
before it refuse it: a plain date by its format (`Moment.read?_plain`), a timestamp by its own
offset (`Moment.read?_stampAt`), and a text of digits as milliseconds or not at all
(`Moment.read?_integerText`). -/
import Herald.Calendar.Pattern
import Herald.Calendar.Reading
import Herald.Proofs.Calendar.Moment
import Herald.Proofs.Number.Digits
import Herald.Proofs.Text.Trim
namespace Herald
set_option autoImplicit false

/-! ## Numbers at the front of a text -/

theorem Text.not_blank_of_isDigit {c : Char} (digit : c.isDigit = true) : isBlank c = false := by
  have bounds : 48 ≤ c.toNat ∧ c.toNat ≤ 57 := by
    simpa [Char.isDigit, UInt32.le_iff_toNat_le] using digit
  simp only [isBlank, Bool.or_eq_false_iff, Bool.and_eq_false_iff, decide_eq_false_iff_not,
    beq_eq_false_iff_ne]
  omega

section Padded
variable {width value : Nat}

theorem exists_padded_eq (positive : 0 < width) (fits : value < 10 ^ width) :
    ∃ first more, padded width value = first :: more ∧ first.isDigit = true := by
  have length := length_padded positive fits
  cases shape : padded width value with
  | nil =>
      rw [shape] at length
      exact absurd length.symm (Nat.ne_of_gt positive)
  | cons first more => exact ⟨first, more, rfl, isDigit_of_mem_padded (by rw [shape]; simp)⟩

theorem trimStart_padded (positive : 0 < width) (fits : value < 10 ^ width) (rest : List Char) :
    Text.trimStart (padded width value ++ rest) = padded width value ++ rest := by
  obtain ⟨first, more, shape, digit⟩ := exists_padded_eq positive fits
  rw [shape, List.cons_append, Text.trimStart_cons_of_visible (Text.not_blank_of_isDigit digit)]

theorem takeExactly?_padded (positive : 0 < width) (fits : value < 10 ^ width) (rest : List Char) :
    Moment.takeExactly? width (padded width value ++ rest) = some (value, rest) := by
  have length := length_padded positive fits
  have front : (padded width value ++ rest).take width = padded width value :=
    List.take_left' length
  have back : (padded width value ++ rest).drop width = rest := List.drop_left' length
  have digits : (padded width value).all Char.isDigit = true :=
    List.all_eq_true.mpr fun _ inside => isDigit_of_mem_padded inside
  simp only [Moment.takeExactly?, front, back, length, digits, digitsValue_padded, beq_self_eq_true,
    Bool.and_self, if_true]

theorem takeUpTo?_padded (positive : 0 < width) (fits : value < 10 ^ width) (rest : List Char) :
    DateItem.takeUpTo? width (padded width value ++ rest) = some (value, rest) := by
  have length := length_padded positive fits
  have front : (padded width value ++ rest).take width = padded width value :=
    List.take_left' length
  have digits : (padded width value).takeWhile Char.isDigit = padded width value := by
    rw [← List.append_nil (padded width value),
      List.takeWhile_append_of_pos fun _ inside => isDigit_of_mem_padded inside]
    rfl
  have back : (padded width value ++ rest).drop (padded width value).length = rest :=
    List.drop_left' rfl
  have nonempty : (padded width value).isEmpty = false := by
    obtain ⟨first, more, shape, -⟩ := exists_padded_eq positive fits
    rw [shape]
    rfl
  simp only [DateItem.takeUpTo?, front, digits, back, nonempty, digitsValue_padded, Bool.false_eq_true,
    if_false]

end Padded

/-! ## The parts of a plain date -/

namespace DateItem

theorem takeYear?_of_digit {first : Char} (digit : first.isDigit = true) (rest : List Char) :
    takeYear? (first :: rest) =
      (takeUpTo? 4 (first :: rest)).map fun (value, after) => ((value : Int), after) := by
  rw [takeYear?]
  · exact fun rest same => ne_of_isDigit digit rfl (List.cons.inj same).1
  · exact fun rest same => ne_of_isDigit digit rfl (List.cons.inj same).1

theorem take?_year {year : Nat} (fits : year < 10 ^ 4) (items : List DateItem) (rest : List Char) :
    take? (.year :: items) (padded 4 year ++ rest) =
      (take? items rest).map fun (values, after) => ((year : Int) :: values, after) := by
  have read : takeYear? (padded 4 year ++ rest) = some ((year : Int), rest) := by
    obtain ⟨first, more, shape, digit⟩ := exists_padded_eq (by decide) fits
    have taken := takeUpTo?_padded (by decide) fits rest
    rw [shape, List.cons_append] at taken ⊢
    rw [takeYear?_of_digit digit, taken]
    rfl
  rw [take?, trimStart_padded (by decide) fits, read]
  cases taken : take? items rest with
  | none => simp [taken]
  | some found => simp [taken]

theorem take?_pair {value : Nat} (fits : value < 10 ^ 2) (items : List DateItem) (rest : List Char) :
    take? (.pair :: items) (padded 2 value ++ rest) =
      (take? items rest).map fun (values, after) => ((value : Int) :: values, after) := by
  rw [take?, trimStart_padded (by decide) fits, takeUpTo?_padded (by decide) fits]
  cases taken : take? items rest with
  | none => simp [taken]
  | some found => simp [taken]

theorem take?_literal (c : Char) (items : List DateItem) (rest : List Char) :
    take? (.literal c :: items) (c :: rest) = take? items rest := by
  rw [take?_literal_cons, if_pos (beq_self_eq_true c)]

theorem take?_literal_of_ne {expected c : Char} (other : c ≠ expected) (items : List DateItem)
    (rest : List Char) : take? (.literal expected :: items) (c :: rest) = none := by
  rw [take?_literal_cons, if_neg (by simpa using other)]

/-- A number does not begin with a mark. -/
theorem take?_pair_of_mark {c : Char} (visible : Text.isBlank c = false) (mark : c.isDigit = false)
    (items : List DateItem) (rest : List Char) : take? (.pair :: items) (c :: rest) = none := by
  have nothing : takeUpTo? 2 (c :: rest) = none := by
    simp [takeUpTo?, mark]
  rw [take?, Text.trimStart_cons_of_visible visible, nothing]
  rfl

end DateItem

/-! ## Plain dates -/

namespace WallTime

/-- The day of a time, with a separator. -/
def dayText (separator : Char) (time : WallTime) : List Char :=
  yearText time.day.year ++ separator :: (padded 2 time.day.month ++ separator :: padded 2 time.day.day)

/-- The time of day. -/
def clockText (time : WallTime) : List Char :=
  padded 2 time.hour ++ ':' :: (padded 2 time.minute ++ ':' :: padded 2 time.second)

/-- The patterns of a plain date with a time of day. -/
def plainPatterns : List String := ["YYYY-MM-DD HH:mm:ss", "YYYY-MM-DDTHH:mm:ss", "YYYY/MM/DD HH:mm:ss"]

/-- The texts that write a time out as a plain date with a time of day. -/
inductive PlainText (time : WallTime) : List Char → Prop
  | hyphens : PlainText time (time.dayText '-' ++ ' ' :: time.clockText)
  | hyphensT : PlainText time (time.dayText '-' ++ 'T' :: time.clockText)
  | slashes : PlainText time (time.dayText '/' ++ ' ' :: time.clockText)

theorem expand_hyphens (time : WallTime) :
    time.expand "YYYY-MM-DD HH:mm:ss".toList = time.dayText '-' ++ ' ' :: time.clockText := by
  simp [expand, dayText, clockText]

theorem expand_hyphensT (time : WallTime) :
    time.expand "YYYY-MM-DDTHH:mm:ss".toList = time.dayText '-' ++ 'T' :: time.clockText := by
  simp [expand, dayText, clockText]

theorem expand_slashes (time : WallTime) :
    time.expand "YYYY/MM/DD HH:mm:ss".toList = time.dayText '/' ++ ' ' :: time.clockText := by
  simp [expand, dayText, clockText]

/-- The patterns of a plain date write such texts. -/
theorem plainText_expand (time : WallTime) {pattern : String} (listed : pattern ∈ plainPatterns) :
    time.PlainText (time.expand pattern.toList) := by
  simp only [plainPatterns, List.mem_cons, List.not_mem_nil, or_false] at listed
  rcases listed with rfl | rfl | rfl
  · rw [expand_hyphens]
    exact .hyphens
  · rw [expand_hyphensT]
    exact .hyphensT
  · rw [expand_slashes]
    exact .slashes

section Whole
variable {time : WallTime} (whole : time.Whole)
include whole

theorem Whole.yearText_eq : yearText time.day.year = padded 4 time.day.year.natAbs := by
  have first := whole.first
  rw [yearText, if_neg (by omega)]

theorem Whole.year_lt : time.day.year.natAbs < 10 ^ 4 := by
  have first := whole.first
  have last := whole.last
  omega

theorem Whole.month_lt : time.day.month < 10 ^ 2 := by
  have bounds := Day.bounds_of_exists whole.real
  omega

theorem Whole.day_lt : time.day.day < 10 ^ 2 := by
  have bounds := Day.bounds_of_exists whole.real
  omega

theorem Whole.hour_lt : time.hour < 10 ^ 2 := by
  have bound := whole.hour
  omega

theorem Whole.minute_lt : time.minute < 10 ^ 2 := by
  have bound := whole.minute
  omega

theorem Whole.second_lt : time.second < 10 ^ 2 := by
  have bound := whole.second
  omega

/-- A written day is read with its own separator. -/
theorem Whole.take?_dayText (separator : Char) (items : List DateItem) (rest : List Char) :
    DateItem.take? (DateItem.date separator ++ items) (time.dayText separator ++ rest) =
      (DateItem.take? items rest).map fun (values, after) =>
        (time.day.year :: (time.day.month : Int) :: (time.day.day : Int) :: values, after) := by
  have year : (time.day.year.natAbs : Int) = time.day.year := Int.natAbs_of_nonneg whole.first
  simp only [DateItem.date, dayText, whole.yearText_eq, List.cons_append, List.nil_append, List.append_assoc]
  rw [DateItem.take?_year whole.year_lt, DateItem.take?_literal, DateItem.take?_pair whole.month_lt,
    DateItem.take?_literal, DateItem.take?_pair whole.day_lt, year]
  cases DateItem.take? items rest <;> rfl

/-- A written day is not read with another separator. -/
theorem Whole.take?_dayText_of_ne {separator expected : Char} (other : separator ≠ expected)
    (items : List DateItem) (rest : List Char) :
    DateItem.take? (DateItem.date expected ++ items) (time.dayText separator ++ rest) = none := by
  simp only [DateItem.date, dayText, whole.yearText_eq, List.cons_append, List.nil_append, List.append_assoc]
  rw [DateItem.take?_year whole.year_lt, DateItem.take?_literal_of_ne other]
  rfl

theorem Whole.take?_clockText :
    DateItem.take? DateItem.clockWithSecond time.clockText =
      some ([(time.hour : Int), (time.minute : Int), (time.second : Int)], []) := by
  simp only [DateItem.clockWithSecond, DateItem.clock, clockText, List.cons_append, List.nil_append]
  rw [DateItem.take?_pair whole.hour_lt, DateItem.take?_literal, DateItem.take?_pair whole.minute_lt,
    DateItem.take?_literal, ← List.append_nil (padded 2 time.second), DateItem.take?_pair whole.second_lt]
  rfl

theorem Whole.trimStart_clockText : Text.trimStart time.clockText = time.clockText :=
  trimStart_padded (by decide) whole.hour_lt _

/-- A plain date is read in the format that has its separator and passes its mark. -/
theorem Whole.readAs?_plain {separator mark : Char} {item : DateItem}
    (passes : DateItem.take? (item :: DateItem.clockWithSecond) (mark :: time.clockText) =
      DateItem.take? DateItem.clockWithSecond time.clockText) :
    readAs? (DateItem.date separator ++ item :: DateItem.clockWithSecond)
      (time.dayText separator ++ mark :: time.clockText) = some time := by
  have named := whole.ofNumbers?
  rw [readAs?, DateItem.read?, whole.take?_dayText, passes, whole.take?_clockText]
  simpa [ofPlain?] using named

/-- A format with another separator does not read a plain date. -/
theorem Whole.readAs?_of_ne {separator expected : Char} (other : separator ≠ expected)
    (items : List DateItem) (rest : List Char) :
    readAs? (DateItem.date expected ++ items) (time.dayText separator ++ rest) = none := by
  rw [readAs?, DateItem.read?, whole.take?_dayText_of_ne other]
  rfl

/-- The gap of a format is no place for a T. -/
theorem Whole.readAs?_gap_of_T :
    readAs? (DateItem.date '-' ++ .gap :: DateItem.clockWithSecond)
      (time.dayText '-' ++ 'T' :: time.clockText) = none := by
  have gap : DateItem.take? (.gap :: DateItem.clockWithSecond) ('T' :: time.clockText) = none := by
    rw [DateItem.take?, Text.trimStart_cons_of_visible (by decide)]
    exact DateItem.take?_pair_of_mark (by decide) (by decide) _ _
  rw [readAs?, DateItem.read?, whole.take?_dayText, gap]
  rfl

theorem Whole.take?_gap :
    DateItem.take? (.gap :: DateItem.clockWithSecond) (' ' :: time.clockText) =
      DateItem.take? DateItem.clockWithSecond time.clockText := by
  rw [DateItem.take?, Text.trimStart_cons_of_blank (by decide), whole.trimStart_clockText]

/-- Each of the three plain forms is read in the first format that reads it at all. -/
theorem Whole.read?_plain {text : List Char} (written : time.PlainText text) : read? text = some time := by
  rw [read?, DateItem.formats, DateItem.timedFormats]
  cases written with
  | hyphens => rw [List.cons_append, List.findSome?_cons, whole.readAs?_plain whole.take?_gap]
  | hyphensT =>
      have marked : readAs? (DateItem.date '-' ++ .literal 'T' :: DateItem.clockWithSecond)
          (time.dayText '-' ++ 'T' :: time.clockText) = some time :=
        whole.readAs?_plain (DateItem.take?_literal 'T' _ _)
      simp only [List.cons_append, List.findSome?_cons, whole.readAs?_gap_of_T, marked]
  | slashes =>
      have hyphens := fun items =>
        whole.readAs?_of_ne (by decide : '/' ≠ '-') items (' ' :: time.clockText)
      simp only [List.cons_append, List.findSome?_cons, hyphens, whole.readAs?_plain whole.take?_gap]

/-- A plain date is no integer. -/
theorem Whole.readInt64?_eq_none {separator : Char} (mark : separator.isDigit = false) (rest : List Char) :
    readInt64? (time.dayText separator ++ rest) = none := by
  obtain ⟨first, more, shape, digit⟩ := exists_padded_eq (by decide) whole.year_lt
  have stray : separator ∈ time.dayText separator ++ rest :=
    List.mem_append_left rest (List.mem_append_right _ List.mem_cons_self)
  have mixed : (time.dayText separator ++ rest).all Char.isDigit = false := by
    rw [List.all_eq_false]
    exact ⟨separator, stray, by simp [mark]⟩
  have unread : readDigits? (time.dayText separator ++ rest) = none := by
    rw [readDigits?, mixed]
    simp
  have front : time.dayText separator ++ rest = first :: (more ++
      (separator :: (padded 2 time.day.month ++ separator :: padded 2 time.day.day) ++ rest)) := by
    rw [dayText, whole.yearText_eq, shape, List.cons_append, List.cons_append, List.append_assoc]
  rw [readInt64?, front, readInt?_of_digit digit, ← front, unread]
  rfl

theorem Whole.readInt64?_plain {text : List Char} (written : time.PlainText text) : readInt64? text = none := by
  cases written with
  | hyphens => exact whole.readInt64?_eq_none (by decide) _
  | hyphensT => exact whole.readInt64?_eq_none (by decide) _
  | slashes => exact whole.readInt64?_eq_none (by decide) _

end Whole
end WallTime

/-! ## Timestamps -/

namespace Moment

/-- The offset of a timestamp as it is written: the letter Z, or hours and minutes east or west
of UTC. -/
inductive StampOffset where
  | utc
  | east (hours : Fin 24) (minutes : Fin 60)
  | west (hours : Fin 24) (minutes : Fin 60)

namespace StampOffset

/-- The offset in seconds east of UTC. -/
def seconds : StampOffset → Int
  | .utc => 0
  | .east hours minutes => (hours.val * 3600 + minutes.val * 60 : Nat)
  | .west hours minutes => -(hours.val * 3600 + minutes.val * 60 : Nat)

/-- The text of the offset. -/
def text : StampOffset → List Char
  | .utc => ['Z']
  | .east hours minutes => '+' :: (padded 2 hours.val ++ ':' :: padded 2 minutes.val)
  | .west hours minutes => '-' :: (padded 2 hours.val ++ ':' :: padded 2 minutes.val)

theorem natAbs_seconds_lt (offset : StampOffset) : offset.seconds.natAbs < 86400 := by
  cases offset with
  | utc => decide
  | east hours minutes =>
      have hour := hours.isLt
      have minute := minutes.isLt
      simp only [seconds]
      omega
  | west hours minutes =>
      have hour := hours.isLt
      have minute := minutes.isLt
      simp only [seconds]
      omega

theorem takeFraction?_text (offset : StampOffset) : takeFraction? offset.text = some (0, offset.text) := by
  cases offset <;> rfl

/-- Hours and minutes behind a sign are read. -/
theorem takeOffset?_clock {sign : Char} (signed : sign = '+' ∨ sign = '-') (hours : Fin 24)
    (minutes : Fin 60) :
    takeOffset? (takeChar? ':') (sign :: (padded 2 hours.val ++ ':' :: padded 2 minutes.val)) =
      some (if sign = '+' then ((hours.val * 3600 + minutes.val * 60 : Nat) : Int)
        else -((hours.val * 3600 + minutes.val * 60 : Nat) : Int), []) := by
  have hour := hours.isLt
  have minute := minutes.isLt
  have hoursTaken := takeExactly?_padded (by decide) (by omega : hours.val < 10 ^ 2)
    (':' :: padded 2 minutes.val)
  have minutesTaken := takeExactly?_padded (by decide) (by omega : minutes.val < 10 ^ 2) []
  rw [List.append_nil] at minutesTaken
  have within : hours.val ≤ 23 ∧ minutes.val ≤ 59 := by omega
  rcases signed with rfl | rfl
  · simp [takeOffset?, hoursTaken, takeChar?, minutesTaken, within]
  · simp [takeOffset?, hoursTaken, takeChar?, minutesTaken, within]

/-- A written offset is read. -/
theorem takeOffset?_text (offset : StampOffset) :
    takeOffset? (takeChar? ':') offset.text = some (offset.seconds, []) := by
  cases offset with
  | utc => rfl
  | east hours minutes => exact takeOffset?_clock (.inl rfl) hours minutes
  | west hours minutes => exact takeOffset?_clock (.inr rfl) hours minutes

end StampOffset

/-- The timestamp of an instant at an offset, without a fraction. -/
def stampAt (offset : StampOffset) (moment : Moment) : List Char :=
  let time := moment.wallTime offset.seconds
  time.dayText '-' ++ 'T' :: (time.clockText ++ offset.text)

theorem takeChar?_cons_self (c : Char) (rest : List Char) : takeChar? c (c :: rest) = some rest := by
  rw [takeChar?, if_pos (beq_self_eq_true c)]

/-- A timestamp has a dash behind its year. -/
theorem readStamp?_of_no_dash {text rest : List Char} {year : Nat}
    (begins : takeExactly? 4 text = some (year, rest)) (noDash : takeChar? '-' rest = none) :
    readStamp? text = none := by
  rw [readStamp?, begins]
  show (takeChar? '-' rest).bind _ = none
  rw [noDash]
  rfl

/-- Without an offset a date is no timestamp, and with one it is read up to there. -/
theorem readStamp?_dayText {time : WallTime} (whole : time.Whole) {mark : Char}
    (takes : ∀ rest, takeMark? (mark :: rest) = some rest) (rest : List Char) :
    readStamp? (time.dayText '-' ++ mark :: (time.clockText ++ rest)) =
      (takeFraction? rest).bind fun (nano, rest) =>
        (takeOffset? (takeChar? ':') rest).bind fun (offset, rest) =>
          if rest.isEmpty then
            (WallTime.ofNumbers? time.day.year time.day.month time.day.day time.hour time.minute
              time.second nano).bind (WallTime.toMoment? offset)
          else none := by
  have year := fun rest => takeExactly?_padded (by decide) whole.year_lt rest
  have month := fun rest => takeExactly?_padded (by decide) whole.month_lt rest
  have day := fun rest => takeExactly?_padded (by decide) whole.day_lt rest
  have hour := fun rest => takeExactly?_padded (by decide) whole.hour_lt rest
  have minute := fun rest => takeExactly?_padded (by decide) whole.minute_lt rest
  have second := fun rest => takeExactly?_padded (by decide) whole.second_lt rest
  have yearCast : (time.day.year.natAbs : Int) = time.day.year := Int.natAbs_of_nonneg whole.first
  rw [readStamp?, WallTime.dayText, WallTime.clockText, whole.yearText_eq]
  simp only [bind, Option.bind, List.append_assoc, List.cons_append, year, month, day, hour, minute, second,
    takes, takeChar?_cons_self, yearCast]

/-- A plain date is no timestamp. -/
theorem readStamp?_plain {time : WallTime} (whole : time.Whole) {text : List Char}
    (written : time.PlainText text) : readStamp? text = none := by
  cases written with
  | hyphens =>
      rw [← List.append_nil time.clockText, readStamp?_dayText whole fun rest => rfl]
      rfl
  | hyphensT =>
      rw [← List.append_nil time.clockText, readStamp?_dayText whole fun rest => rfl]
      rfl
  | slashes =>
      rw [WallTime.dayText, whole.yearText_eq, List.append_assoc]
      exact readStamp?_of_no_dash (takeExactly?_padded (by decide) whole.year_lt _) rfl

/-- **A plain date is read as the instant whose wall-clock time it is.** -/
theorem read?_plain {offset : Int} {moment : Moment} (whole : WholeAt offset moment)
    (small : offset.natAbs < 86400) {pattern : String}
    (listed : pattern ∈ WallTime.plainPatterns) :
    read? offset ((moment.wallTime offset).expand pattern.toList) = some moment := by
  have time := whole.wallTime
  have written := (moment.wallTime offset).plainText_expand listed
  rw [read?, time.readInt64?_plain written, readStamp?_plain time written, time.read?_plain written]
  exact toMoment?_wallTime (whole.inRange small)

/-- **A timestamp is read as its instant**, whatever offset plain dates are read at. -/
theorem read?_stampAt {offset : StampOffset} {moment : Moment} (whole : WholeAt offset.seconds moment)
    (outer : Int) : read? outer (moment.stampAt offset) = some moment := by
  have time := whole.wallTime
  have noInteger : readInt64? (moment.stampAt offset) = none := time.readInt64?_eq_none (by decide) _
  have stamp : readStamp? (moment.stampAt offset) = some moment := by
    rw [stampAt, readStamp?_dayText time fun rest => rfl]
    simp only [offset.takeFraction?_text, offset.takeOffset?_text, time.ofNumbers?, Option.bind_some,
      List.isEmpty_nil, if_true]
    exact toMoment?_wallTime (whole.inRange offset.natAbs_seconds_lt)
  rw [read?, noInteger, stamp]

/-! ## Texts of digits -/

section Digits
variable {text : List Char} (digits : ∀ c ∈ text, c.isDigit = true)
include digits

theorem readStamp?_of_digits : readStamp? text = none := by
  have noDash : takeChar? '-' (text.drop 4) = none := by
    cases rest : text.drop 4 with
    | nil => rfl
    | cons c more =>
        have digit : c.isDigit = true := by
          apply digits c (@List.mem_of_mem_drop _ c 4 text ?_)
          rw [rest]
          exact List.mem_cons_self
        have other : c ≠ '-' := ne_of_isDigit digit rfl
        rw [takeChar?, if_neg (by simpa using other)]
  cases begins : takeExactly? 4 text with
  | none => rw [readStamp?, begins]; rfl
  | some taken =>
      have after : taken.2 = text.drop 4 := by
        rw [takeExactly?] at begins
        split at begins
        · rw [← Option.some.inj begins]
        · cases begins
      rw [← after] at noDash
      exact readStamp?_of_no_dash begins noDash

theorem take?_literal_of_digits {separator : Char} (mark : separator.isDigit = false)
    (items : List DateItem) : DateItem.take? (.literal separator :: items) text = none := by
  cases text with
  | nil => rfl
  | cons c rest =>
      apply DateItem.take?_literal_of_ne
      rintro rfl
      rw [digits c List.mem_cons_self] at mark
      cases mark

/-- A format begins with a year and a separator, which digits do not show. -/
theorem readAs?_of_digits {separator : Char} (mark : separator.isDigit = false) (items : List DateItem) :
    WallTime.readAs? (.year :: .literal separator :: items) text = none := by
  have untaken : DateItem.take? (.year :: .literal separator :: items) text = none := by
    cases text with
    | nil => rfl
    | cons first rest =>
        have digit := digits first List.mem_cons_self
        rw [DateItem.take?, Text.trimStart_cons_of_visible (Text.not_blank_of_isDigit digit),
          DateItem.takeYear?_of_digit digit, DateItem.takeUpTo?]
        split
        · rfl
        · have later : ∀ width, ∀ c ∈ (first :: rest).drop width, c.isDigit = true :=
            fun width c inside => digits c (List.mem_of_mem_drop inside)
          simp [take?_literal_of_digits (later _) mark]
  rw [WallTime.readAs?, DateItem.read?, untaken]
  rfl

theorem wallTime_read?_of_digits : WallTime.read? text = none := by
  rw [WallTime.read?, List.findSome?_eq_none_iff]
  intro format listed
  simp only [DateItem.formats, DateItem.timedFormats, DateItem.dayFormats, DateItem.date, List.cons_append,
    List.nil_append, List.mem_cons, List.not_mem_nil, or_false] at listed
  rcases listed with rfl | rfl | rfl | rfl | rfl | rfl | rfl | rfl <;>
    exact readAs?_of_digits digits (by decide) _

end Digits

/-- Milliseconds beyond 2^53 lie beyond the calendar. -/
theorem ofMillis?_of_large {millis : Int} (large : 2 ^ 53 ≤ millis.natAbs) : ofMillis? millis = none := by
  have outside : (Moment.mk (millis / 1000) ((millis % 1000).toNat * 1000000)).inRange ≠ true := by
    rw [Moment.inRange, Ne, Day.inRange_iff]
    show ¬ (-96465292 ≤ millis / 1000 / 86400 ∧ millis / 1000 / 86400 ≤ 95026236)
    omega
  exact if_neg outside

/-- **The text of an integer is read as so many milliseconds.** One that needs more than 64 bits
with a sign is refused, as so many milliseconds are. -/
theorem read?_integerText {value : Int} (least : -0x8000000000000000 ≤ value) (offset : Int) :
    read? offset (integerText value) = ofMillis? value := by
  by_cases fits : value ≤ 0x7FFFFFFFFFFFFFFF
  · rw [read?, readInt64?_integerText, if_pos ⟨least, fits⟩]
  · have digits : ∀ c ∈ integerText value, c.isDigit = true := by
      intro c inside
      rw [integerText, if_neg (by omega)] at inside
      exact isDigit_of_mem_decimalDigits inside
    rw [read?, readInt64?_integerText, if_neg (fun bounds => fits bounds.2), readStamp?_of_digits digits,
      wallTime_read?_of_digits digits, ofMillis?_of_large (by omega)]
    rfl

end Moment
end Herald
