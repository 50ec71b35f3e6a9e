/- Dates agree across the ways to write them.

An instant at a whole second is written as a number of milliseconds, as the text of that number,
as a timestamp at any offset, and as a plain date in the zone (`Zone.Writes`). A known zone reads
each of them as that instant (`Zone.readDate?_of_writes`), so what formats or compares dates
cannot tell them apart. Beyond these, every integer and its text are read alike, although the
number is read through the binary64 format (`Zone.readDate?_int`, `Zone.readDate?_integerText`):
below 2^53 no rounding happens, and from there on nothing is in the calendar. -/
import Herald.Proofs.Calendar.Reading
import Herald.Proofs.DateFunctions
import Herald.Proofs.Number.Rounding
namespace Herald
set_option autoImplicit false

/-! ## Written dates have nothing to trim -/

section Trim

theorem trim_integerText (value : Int) : Text.trim (integerText value) = integerText value := by
  apply Text.trim_of_visible
  intro c inside
  have digits : ∀ c ∈ decimalDigits value.natAbs, Text.isBlank c = false :=
    fun c listed => Text.not_blank_of_isDigit (isDigit_of_mem_decimalDigits listed)
  rw [integerText] at inside
  split at inside
  · rcases List.mem_cons.mp inside with rfl | digit
    · decide
    · exact digits c digit
  · exact digits c inside

/-- Two numbers with a colon between them hold no blank. -/
theorem visible_pairs (first second : Nat) :
    ∀ c ∈ padded 2 first ++ ':' :: padded 2 second, Text.isBlank c = false := by
  intro c inside
  rcases List.mem_append.mp inside with digit | later
  · exact Text.not_blank_of_isDigit (isDigit_of_mem_padded digit)
  · rcases List.mem_cons.mp later with rfl | digit
    · decide
    · exact Text.not_blank_of_isDigit (isDigit_of_mem_padded digit)

theorem WallTime.visible_clockText (time : WallTime) :
    ∀ c ∈ time.clockText, Text.isBlank c = false := by
  intro c inside
  rcases List.mem_append.mp inside with digit | later
  · exact Text.not_blank_of_isDigit (isDigit_of_mem_padded digit)
  · rcases List.mem_cons.mp later with rfl | pairs
    · decide
    · exact visible_pairs _ _ c pairs

theorem Moment.StampOffset.visible_text (offset : StampOffset) :
    ∀ c ∈ offset.text, Text.isBlank c = false := by
  intro c inside
  cases offset with
  | utc =>
      rw [List.mem_singleton.mp inside]
      decide
  | east hours minutes =>
      rcases List.mem_cons.mp inside with rfl | pairs
      · decide
      · exact visible_pairs _ _ c pairs
  | west hours minutes =>
      rcases List.mem_cons.mp inside with rfl | pairs
      · decide
      · exact visible_pairs _ _ c pairs

/-- A written date begins with a digit and ends in what stands behind it. -/
theorem WallTime.Whole.trim_written {time : WallTime} (whole : time.Whole) (separator mark : Char)
    {rest : List Char} (visible : ∀ c ∈ rest, Text.isBlank c = false) :
    Text.trim (time.dayText separator ++ mark :: (time.clockText ++ rest)) =
      time.dayText separator ++ mark :: (time.clockText ++ rest) := by
  obtain ⟨first, more, shape, digit⟩ := exists_padded_eq (by decide) whole.year_lt
  apply Text.trim_of_ends
  · rw [WallTime.dayText, whole.yearText_eq, shape]
    rintro c ⟨⟩
    exact Text.not_blank_of_isDigit digit
  · intro c last
    have something : time.clockText ++ rest ≠ [] := by
      rw [WallTime.clockText]
      simp
    have behind : c ∈ time.clockText ++ rest := by
      rw [List.append_cons, List.getLast?_append, List.getLast?_eq_some_getLast something,
        Option.some_or] at last
      rw [← Option.some.inj last]
      exact List.getLast_mem something
    rcases List.mem_append.mp behind with clock | later
    · exact time.visible_clockText c clock
    · exact visible c later

theorem WallTime.Whole.trim_plain {time : WallTime} (whole : time.Whole) {text : List Char}
    (written : time.PlainText text) : Text.trim text = text := by
  have trimmed := fun separator mark =>
    whole.trim_written separator mark (fun c inside => absurd inside List.not_mem_nil)
  simp only [List.append_nil] at trimmed
  cases written with
  | hyphens => exact trimmed '-' ' '
  | hyphensT => exact trimmed '-' 'T'
  | slashes => exact trimmed '/' ' '

end Trim

/-! ## Numbers -/

namespace Zone

/-- **Every integer is read as so many milliseconds**, although it is read through the binary64
format. -/
theorem readDate?_int (zone : Zone) {value : Int} (least : Number.leastInt ≤ value)
    (greatest : value ≤ Number.greatestInt) : zone.readDate? (.int value) = Moment.ofMillis? value := by
  unfold Number.leastInt at least
  unfold Number.greatestInt at greatest
  show Moment.ofMillis? ((Binary64.ofInt value).truncate (-0x8000000000000000) 0x7FFFFFFFFFFFFFFF) = _
  by_cases small : value.natAbs ≤ 2 ^ 53
  · rw [Binary64.truncate_ofInt small (by omega) (by omega)]
  · have large : 2 ^ 53 ≤ value.natAbs := by omega
    rw [Moment.ofMillis?_of_large large,
      Moment.ofMillis?_of_large (Binary64.border_le_natAbs_truncate_ofInt large (by decide) (by decide))]

theorem readDate?_ofChars (zone : Zone) {text : List Char} (trimmed : Text.trim text = text) :
    zone.readDate? (.ofChars text) = Moment.read? zone.offset text := by
  rw [Value.ofChars, readDate?, Text.trimmed, String.toList_ofList, trimmed]

/-- **So is the text of every integer.** -/
theorem readDate?_integerText (zone : Zone) {value : Int} (least : Number.leastInt ≤ value) :
    zone.readDate? (.ofChars (integerText value)) = Moment.ofMillis? value := by
  rw [zone.readDate?_ofChars (trim_integerText value), Moment.read?_integerText least]

/-! ## Known zones -/

theorem offsetSize?_bounds {digits : List Char} {size : Int} (found : offsetSize? digits = some size) :
    0 ≤ size ∧ size ≤ 53940 := by
  rw [offsetSize?] at found
  split at found
  · cases found
  · dsimp only at found
    generalize (if digits.length ≤ 2 then digits.length else digits.length - 2) = hourDigits at found
    split at found
    · rename_i within
      have bounds := Bool.and_eq_true_iff.mp within
      simp only [decide_eq_true_eq] at bounds
      have same := Option.some.inj found
      omega
    · cases found

theorem writtenOffset?_bounds {text : List Char} {offset : Int}
    (found : writtenOffset? text = some offset) : offset.natAbs < 86400 := by
  unfold writtenOffset? at found
  split at found
  · have bounds := offsetSize?_bounds found
    omega
  · obtain ⟨size, sized, rfl⟩ := Option.map_eq_some_iff.mp found
    have bounds := offsetSize?_bounds sized
    omega
  · cases found

theorem namedOffset?_bounds {text : List Char} {offset : Int}
    (found : namedOffset? text = some offset) : offset.natAbs < 86400 := by
  have all : ∀ zone ∈ named, zone.2.natAbs < 86400 := by decide
  obtain ⟨zone, listed, rfl⟩ := Option.map_eq_some_iff.mp found
  exact all zone (List.mem_of_find?_eq_some listed)

/-- The offset of a known zone is below a day. -/
theorem natAbs_offset_lt {name : String} {zone : Zone} (known : read? name = some zone) :
    zone.offset.natAbs < 86400 := by
  obtain ⟨offset, found, rfl⟩ := Option.map_eq_some_iff.mp known
  rcases Option.or_eq_some_iff.mp found with listed | ⟨-, written⟩
  · exact namedOffset?_bounds listed
  · exact writtenOffset?_bounds written

/-! ## The ways to write an instant -/

/-- The values that write an instant out in a zone. -/
inductive Writes (zone : Zone) (moment : Moment) : Value → Prop
  | millis : Writes zone moment (.int moment.millis)
  | millisText : Writes zone moment (.ofChars (integerText moment.millis))
  | stamp {offset : Moment.StampOffset} (whole : moment.WholeAt offset.seconds) :
      Writes zone moment (.ofChars (moment.stampAt offset))
  | plain {pattern : String} (listed : pattern ∈ WallTime.plainPatterns) :
      Writes zone moment (.ofChars ((zone.wallTime moment).expand pattern.toList))

section Read
variable {name : String} {zone : Zone} {moment : Moment}

theorem ofMillis?_millis (known : read? name = some zone) (whole : moment.WholeAt zone.offset) :
    Moment.ofMillis? moment.millis = some moment := by
  have inRange := whole.inRange (natAbs_offset_lt known)
  have same : Moment.mk (moment.millis / 1000) ((moment.millis % 1000).toNat * 1000000) = moment := by
    have nano := whole.nano
    have millis := whole.millis_eq
    cases moment with
    | mk second fraction =>
        simp only at nano millis
        rw [millis, nano]
        congr 1 <;> omega
  rw [Moment.ofMillis?, same]
  exact if_pos inRange

/-- **A known zone reads an instant from whatever writes it out.** -/
theorem readDate?_of_writes (known : read? name = some zone) (whole : moment.WholeAt zone.offset)
    {value : Value} (writes : zone.Writes moment value) : zone.readDate? value = some moment := by
  have bounds := whole.bounds
  have small := natAbs_offset_lt known
  have millis := whole.millis_eq
  have least : Number.leastInt ≤ moment.millis := by
    unfold Number.leastInt Moment.daySeconds at *
    omega
  have greatest : moment.millis ≤ Number.greatestInt := by
    unfold Number.greatestInt Moment.daySeconds at *
    omega
  cases writes with
  | millis => rw [zone.readDate?_int least greatest, ofMillis?_millis known whole]
  | millisText => rw [zone.readDate?_integerText least, ofMillis?_millis known whole]
  | stamp years =>
      rename_i offset
      have trimmed := years.wallTime.trim_written '-' 'T' offset.visible_text
      exact (zone.readDate?_ofChars trimmed).trans (Moment.read?_stampAt years zone.offset)
  | plain listed =>
      have written := (zone.wallTime moment).plainText_expand listed
      rw [zone.readDate?_ofChars (whole.wallTime.trim_plain written)]
      exact Moment.read?_plain whole small listed

end Read

end Zone

/-! ## What formats and compares dates -/

/-- The built-in date formatters differ in the pattern that they fall back to. -/
theorem Formatters.exists_dateText (State : Type) {name : String} (listed : name ∈ ["date", "time"]) :
    ∃ fallback, Dict.find? name (Toolbox.builtins State).formatters =
      some (Toolbox.pureFormatter (dateText fallback)) := by
  simp only [List.mem_cons, List.not_mem_nil, or_false] at listed
  simp only [Toolbox.builtins, Formatters.builtins]
  rcases listed with rfl | rfl
  · refine ⟨"YYYY-MM-DD", Dict.find?_ofList ?_ ?_⟩ <;> simp
  · refine ⟨"HH:mm:ss", Dict.find?_ofList ?_ ?_⟩ <;> simp

/-- A date formatter sees the instant that its value denotes, and nothing else of the value. -/
theorem Formatters.dateText_eq {context : Context} {value : Value} {moment : Moment}
    (read : context.zone.readDate? value = some moment) (fallback : String) (arguments : List Value) :
    dateText fallback value arguments context =
      .ofChars ((context.zone.wallTime moment).expand
        ((textArgument? arguments 0).getD fallback.toList)) := by
  rw [dateText, read]

namespace Zone

/-- **Dates agree across the ways to write them.** A known zone reads an instant at a whole second
of a year of up to four digits from each value that writes it out. So the built-in date
formatters and functions give the same for any two of these values. Moreover, every integer of a
number and its text are read alike, as so many milliseconds, and refused alike. -/
theorem dates_agree {name : String} {zone : Zone} (known : read? name = some zone) :
    (∀ moment : Moment, moment.WholeAt zone.offset → ∀ value, zone.Writes moment value →
        zone.readDate? value = some moment) ∧
      (∀ moment : Moment, moment.WholeAt zone.offset →
        ∀ value other, zone.Writes moment value → zone.Writes moment other →
        ∀ (State : Type) (context : Context) (rest : List Value) (state : State), context.zone = zone →
          (∀ formatter ∈ ["date", "time"], ∃ apply,
            Dict.find? formatter (Toolbox.builtins State).formatters = some apply ∧
              apply value rest context state = apply other rest context state) ∧
          ∀ function ∈ ["timeAgo", "relativeDate", "age"], ∃ apply,
            Dict.find? function (Toolbox.builtins State).functions = some apply ∧
              apply (value :: rest) context state = apply (other :: rest) context state) ∧
      ∀ value : Int, Number.leastInt ≤ value → value ≤ Number.greatestInt →
        zone.readDate? (.int value) = Moment.ofMillis? value ∧
          zone.readDate? (.ofChars (integerText value)) = Moment.ofMillis? value := by
  refine ⟨fun moment whole value writes => readDate?_of_writes known whole writes, ?_, ?_⟩
  · intro moment whole value other writes writes' State context rest state same
    have read : context.zone.readDate? value = some moment := by
      rw [same]
      exact readDate?_of_writes known whole writes
    have read' : context.zone.readDate? other = some moment := by
      rw [same]
      exact readDate?_of_writes known whole writes'
    have formatted : ∀ fallback,
        (Toolbox.pureFormatter (Formatters.dateText fallback) : Formatter State) value rest context state =
          Toolbox.pureFormatter (Formatters.dateText fallback) other rest context state := by
      intro fallback
      simp only [Toolbox.pureFormatter, Formatters.dateText_eq read, Formatters.dateText_eq read']
    have answered : ∀ answer?,
        (Toolbox.pureFunction (DateFunctions.ofDate answer?) : Function State) (value :: rest) context state =
          Toolbox.pureFunction (DateFunctions.ofDate answer?) (other :: rest) context state := by
      intro answer?
      simp only [Toolbox.pureFunction, DateFunctions.ofDate_eq read, DateFunctions.ofDate_eq read']
    constructor
    · intro formatter listed
      obtain ⟨fallback, found⟩ := Formatters.exists_dateText State listed
      exact ⟨_, found, formatted fallback⟩
    · intro function listed
      obtain ⟨answer?, found⟩ := DateFunctions.exists_ofDate State listed
      exact ⟨_, found, answered answer?⟩
  · intro value least greatest
    exact ⟨zone.readDate?_int least greatest, zone.readDate?_integerText least⟩

/-! ## A second before 1970 -/

namespace Example

def kolkata : Zone := ⟨"Asia/Kolkata", 19800⟩

/-- The last second of 1969 in UTC, which is in 1970 in the zone. -/
def eve : Moment := ⟨-1, 0⟩

/-- A context in the zone. -/
def kolkataContext : Context := ⟨[], .enUS, kolkata, ⟨1700000000, 0⟩⟩

theorem dates_agree_eve :
    read? "Asia/Kolkata" = some kolkata ∧ eve.WholeAt kolkata.offset ∧
      eve.WholeAt (Moment.StampOffset.west 9 30).seconds ∧
      kolkata.readDate? (.int (-1000)) = some eve ∧
      kolkata.readDate? (.string "-1000") = some eve ∧
      kolkata.readDate? (.string "1969-12-31T14:29:59-09:30") = some eve ∧
      kolkata.readDate? (.string "1970/01/01 05:29:59") = some eve ∧
      (∃ age, Dict.find? "age" (Toolbox.builtins Unit).functions = some age ∧
        age [.string "1969-12-31T14:29:59-09:30"] kolkataContext () =
          age [.string "1970/01/01 05:29:59"] kolkataContext ()) ∧
      kolkata.readDate? (.int 18446744073709551615) =
        kolkata.readDate? (.string "18446744073709551615") := by
  have known : read? "Asia/Kolkata" = some kolkata := by decide +kernel
  have whole : eve.WholeAt kolkata.offset := ⟨rfl, by decide +kernel, by decide +kernel⟩
  have west : eve.WholeAt (Moment.StampOffset.west 9 30).seconds :=
    ⟨rfl, by decide +kernel, by decide +kernel⟩
  obtain ⟨reads, agree, integers⟩ := dates_agree known
  have number : kolkata.Writes eve (.int (-1000)) := .millis
  have numberText : kolkata.Writes eve (.string "-1000") := .millisText
  have stamp : kolkata.Writes eve (.string "1969-12-31T14:29:59-09:30") := .stamp west
  have plain : kolkata.Writes eve (.string "1970/01/01 05:29:59") :=
    .plain (by decide : "YYYY/MM/DD HH:mm:ss" ∈ WallTime.plainPatterns)
  refine ⟨known, whole, west, reads eve whole _ number, reads eve whole _ numberText,
    reads eve whole _ stamp, reads eve whole _ plain, ?_, ?_⟩
  · exact (agree eve whole _ _ stamp plain Unit kolkataContext [] () rfl).2 "age" (by decide)
  · obtain ⟨number, text⟩ := integers 18446744073709551615 (by decide) (by decide)
    exact number.trans text.symm

end Example

end Zone
end Herald
