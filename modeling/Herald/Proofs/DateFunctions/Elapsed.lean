/- How long ago a date was.

The time that has gone by is a count of nanoseconds (`Moment.nanosSince`), and between instants that
are no leap seconds it is the difference of their places on one scale (`Moment.nanosSince_eq`).
The function takes whole seconds of it, rounded towards zero, and whole units of these. From zero
on that is the same as whole units of the time itself (`Moment.secondsSince_div`), so the units
meet without a gap; below zero a date counts as later from a whole second on
(`Moment.secondsSince_neg_iff`), and one that is closer as just now (`DateFunctions.timeAgo_buckets`,
`DateFunctions.Example.timeAgo_ahead`). -/
import Herald.Proofs.DateFunctions
namespace Herald
set_option autoImplicit false

/-! ## Time gone by -/

namespace Moment

/-- The nanoseconds of a second. -/
def secondNanos : Int := 1000000000

/-- The nanoseconds from the start of 1970 to an instant. -/
def nanos (moment : Moment) : Int := moment.second * secondNanos + moment.nano

/-- **Between instants that are no leap seconds, time is the difference of their places.** -/
theorem nanosSince_eq {later earlier : Moment} (laterPlain : later.nano < 1000000000)
    (earlierPlain : earlier.nano < 1000000000) :
    later.nanosSince earlier = later.nanos - earlier.nanos := by
  have laterShort : decide (1000000000 ≤ later.nano) = false := by simpa using laterPlain
  have earlierShort : decide (1000000000 ≤ earlier.nano) = false := by simpa using earlierPlain
  simp only [nanosSince, laterShort, earlierShort, Bool.and_false, Bool.false_eq_true, if_false, nanos,
    secondNanos]
  omega

variable (later earlier : Moment)

/-- The whole seconds of a time, rounded towards zero. -/
theorem secondsSince_eq : later.secondsSince earlier =
    if 0 ≤ later.nanosSince earlier then later.nanosSince earlier / secondNanos
    else -(-later.nanosSince earlier / secondNanos) := by
  rw [secondsSince, ← secondNanos]
  split
  · rename_i past
    exact Int.tdiv_eq_ediv_of_nonneg past
  · rename_i ahead
    rw [← Int.tdiv_eq_ediv_of_nonneg (by omega), Int.neg_tdiv, Int.neg_neg]

/-- Rounding towards zero leaves no second of a time that is shorter than one. -/
theorem secondsSince_neg_iff :
    later.secondsSince earlier < 0 ↔ later.nanosSince earlier ≤ -secondNanos := by
  rw [secondsSince_eq, secondNanos]
  split <;> omega

/-- A positive number of seconds is reached with the time. -/
theorem le_secondsSince_iff {seconds : Int} (positive : 0 < seconds) :
    seconds ≤ later.secondsSince earlier ↔ seconds * secondNanos ≤ later.nanosSince earlier := by
  rw [secondsSince_eq, secondNanos]
  split <;> omega

/-- Whole units of whole seconds are whole units of the time. -/
theorem secondsSince_div (past : 0 ≤ later.nanosSince earlier) (seconds : Int) :
    later.secondsSince earlier / seconds = later.nanosSince earlier / (seconds * secondNanos) := by
  rw [secondsSince_eq, if_pos past, Int.mul_comm]
  exact Int.ediv_ediv_of_nonneg (by decide)

end Moment

/-! ## Units -/

namespace Locale.Span

/-- The length of a unit. -/
def nanos : Span → Int
  | .minute => 60 * Moment.secondNanos
  | .hour => 3600 * Moment.secondNanos
  | .day => 86400 * Moment.secondNanos

/-- The number of units that is no longer told in the unit. -/
def limit : Span → Nat
  | .minute => 60
  | .hour => 24
  | .day => 30

/-- The English word for a unit. -/
def word : Span → String
  | .minute => "minute"
  | .hour => "hour"
  | .day => "day"

/-- A time within the bounds of a unit is one or more of it, and fewer than the limit. -/
theorem count_bounds {span : Span} {elapsed : Int} (least : span.nanos ≤ elapsed)
    (below : elapsed < span.limit * span.nanos) :
    ∃ count : Nat, (count : Int) = elapsed / span.nanos ∧ 1 ≤ count ∧ count < span.limit := by
  refine ⟨(elapsed / span.nanos).toNat, ?_⟩
  cases span with
  | minute =>
      simp only [nanos, limit, Moment.secondNanos] at *
      omega
  | hour =>
      simp only [nanos, limit, Moment.secondNanos] at *
      omega
  | day =>
      simp only [nanos, limit, Moment.secondNanos] at *
      omega

end Locale.Span

/-- English has the singular for exactly one. -/
theorem Locale.ago_english {locale : Locale} (english : locale = .enUS ∨ locale = .enGB) (count : Nat)
    (span : Span) : locale.ago count span =
      if count = 1 then "1 " ++ span.word ++ " ago"
      else toString count ++ " " ++ span.word ++ "s ago" := by
  rcases english with rfl | rfl
  · cases span <;> simp only [ago, beq_iff_eq, Span.word]
  · cases span <;> simp only [ago, beq_iff_eq, Span.word]

/-! ## The function -/

namespace DateFunctions
open Moment Herald.Locale

section Function
variable {context : Context} {date : Moment}

/-- A date a second or more ahead, or thirty days or more ago, is written as its day. -/
theorem timeAgo?_far (far : context.now.nanosSince date ≤ -secondNanos ∨
    Span.day.limit * Span.day.nanos ≤ context.now.nanosSince date) :
    timeAgo? context date =
      (context.zone.dayOf? date).map fun day => String.ofList (context.locale.dateText day) := by
  have seconds : context.now.secondsSince date < 0 ∨ 30 * 86400 ≤ context.now.secondsSince date := by
    rw [secondsSince_neg_iff, le_secondsSince_iff _ _ (by decide)]
    exact far
  rw [timeAgo?, if_pos (by simpa using seconds)]

/-- A date less than a second ahead or less than a minute ago is just now. -/
theorem timeAgo?_near (ahead : -secondNanos < context.now.nanosSince date)
    (recent : context.now.nanosSince date < Span.minute.nanos) :
    timeAgo? context date = some context.locale.justNow := by
  have notNegative := not_congr (secondsSince_neg_iff context.now date)
  have minute := not_congr (le_secondsSince_iff context.now date (by decide : (0 : Int) < 60))
  simp only [Span.nanos] at recent
  rw [timeAgo?, if_neg (by simp only [Bool.or_eq_true, decide_eq_true_eq]; omega), if_pos (by omega)]

/-- Within the bounds of a unit, a date is told in whole units. -/
theorem timeAgo?_units {span : Span} (least : span.nanos ≤ context.now.nanosSince date)
    (below : context.now.nanosSince date < span.limit * span.nanos) :
    timeAgo? context date =
      some (context.locale.ago (context.now.nanosSince date / span.nanos).toNat span) := by
  have past : 0 ≤ context.now.nanosSince date := by
    cases span <;> simp only [Span.nanos, secondNanos] at least <;> omega
  have inUnits := secondsSince_div context.now date past
  have seconds : context.now.secondsSince date = context.now.nanosSince date / secondNanos := by
    rw [secondsSince_eq, if_pos past]
  rw [timeAgo?]
  cases span with
  | minute =>
      simp only [Span.nanos, Span.limit, secondNanos] at least below seconds ⊢
      rw [if_neg (by simp only [Bool.or_eq_true, decide_eq_true_eq]; omega), if_neg (by omega),
        if_pos (by omega), inUnits 60, secondNanos]
  | hour =>
      simp only [Span.nanos, Span.limit, secondNanos] at least below seconds ⊢
      rw [if_neg (by simp only [Bool.or_eq_true, decide_eq_true_eq]; omega), if_neg (by omega),
        if_neg (by omega), if_pos (by omega), inUnits 3600, secondNanos]
  | day =>
      simp only [Span.nanos, Span.limit, secondNanos] at least below seconds ⊢
      rw [if_neg (by simp only [Bool.or_eq_true, decide_eq_true_eq]; omega), if_neg (by omega),
        if_neg (by omega), if_neg (by omega), inUnits 86400, secondNanos]

/-- **How long ago a date was, by the time that has gone by.** A date a second or more later than
the render instant, or thirty days or more before it, is written as its day in the zone. One that
is less than a minute before it, or less than a second later, is just now. Any other is told in
whole minutes up to 59, whole hours up to 23 or whole days up to 29; English has the singular for
exactly one. Between instants that are no leap seconds the time is the difference of their places. -/
theorem timeAgo_buckets (State : Type) {value : Value} (read : context.zone.readDate? value = some date)
    (rest : List Value) (state : State) :
    ∃ apply, Dict.find? "timeAgo" (Toolbox.builtins State).functions = some apply ∧
      (context.now.nanosSince date ≤ -secondNanos ∨
          Span.day.limit * Span.day.nanos ≤ context.now.nanosSince date →
        ∀ day, context.zone.dayOf? date = some day →
          apply (value :: rest) context state = (.ofChars (context.locale.dateText day), state)) ∧
      (-secondNanos < context.now.nanosSince date → context.now.nanosSince date < Span.minute.nanos →
        apply (value :: rest) context state = (.string context.locale.justNow, state)) ∧
      (∀ span : Span, span.nanos ≤ context.now.nanosSince date →
        context.now.nanosSince date < span.limit * span.nanos →
        ∃ count : Nat, (count : Int) = context.now.nanosSince date / span.nanos ∧
          1 ≤ count ∧ count < span.limit ∧
          apply (value :: rest) context state = (.string (context.locale.ago count span), state)) ∧
      (context.locale = .enUS ∨ context.locale = .enGB → ∀ (count : Nat) (span : Span),
        context.locale.ago count span =
          if count = 1 then "1 " ++ span.word ++ " ago"
          else toString count ++ " " ++ span.word ++ "s ago") ∧
      (context.now.nano < 1000000000 → date.nano < 1000000000 →
        context.now.nanosSince date = context.now.nanos - date.nanos) := by
  have applied : ∀ {text}, timeAgo? context date = some text →
      (Toolbox.pureFunction (ofDate fun context date => (timeAgo? context date).map .string) :
        Function State) (value :: rest) context state = (.string text, state) :=
    fun answered => apply_ofDate read (congrArg (Option.map Value.string) answered) rest state
  refine ⟨_, find?_timeAgo State, ?far, ?near, ?units, ago_english, nanosSince_eq⟩
  case far =>
    intro far day inCalendar
    exact applied (by rw [timeAgo?_far far, inCalendar]; rfl)
  case near => exact fun ahead recent => applied (timeAgo?_near ahead recent)
  case units =>
    intro span least below
    obtain ⟨count, units, atLeast, atMost⟩ := Span.count_bounds least below
    refine ⟨count, units, atLeast, atMost, applied ?_⟩
    rw [timeAgo?_units least below, ← units, Int.toNat_natCast]

end Function

/-! ## A minute ago, and a millisecond ahead -/

namespace Example

/-- A context eight hours east of UTC, at noon of 15 June 2024. -/
def noon : Context := ⟨[], .enUS, ⟨"Asia/Shanghai", 28800⟩, ⟨1718424000, 0⟩⟩

/-- Two minutes before noon but for a millisecond. -/
def underTwoMinutes : Moment := ⟨1718423880, 1000000⟩

theorem timeAgo_buckets_minute :
    noon.zone.readDate? (.int 1718423880001) = some underTwoMinutes ∧
      noon.now.nanosSince underTwoMinutes = 119999000000 ∧
      ∃ apply, Dict.find? "timeAgo" (Toolbox.builtins Unit).functions = some apply ∧
        apply [.int 1718423880001] noon () = (.string "1 minute ago", ()) := by
  have read : noon.zone.readDate? (.int 1718423880001) = some underTwoMinutes := by decide +kernel
  have elapsed : noon.now.nanosSince underTwoMinutes = 119999000000 := by decide
  obtain ⟨apply, found, -, -, units, english, -⟩ := timeAgo_buckets Unit read [] ()
  obtain ⟨count, counted, -, -, applied⟩ := units .minute (by decide) (by decide)
  have one : count = 1 := by
    rw [elapsed] at counted
    simp only [Span.nanos, secondNanos] at counted
    omega
  rw [english (Or.inl rfl), if_pos one] at applied
  exact ⟨read, elapsed, apply, found, applied⟩

/-- A millisecond after noon. -/
def afterNoon : Moment := ⟨1718424000, 1000000⟩

/-- A date later than the render instant is not always written as its day: one that is a
millisecond ahead is just now. -/
theorem timeAgo_ahead :
    noon.zone.readDate? (.int 1718424000001) = some afterNoon ∧ noon.now.nanos < afterNoon.nanos ∧
      noon.zone.dayOf? afterNoon = some ⟨2024, 6, 15⟩ ∧
      noon.locale.dateText ⟨2024, 6, 15⟩ = "6/15/2024".toList ∧
      ∃ apply, Dict.find? "timeAgo" (Toolbox.builtins Unit).functions = some apply ∧
        apply [.int 1718424000001] noon () = (.string "just now", ()) ∧
        apply [.int 1718424000001] noon () ≠ (.ofChars (noon.locale.dateText ⟨2024, 6, 15⟩), ()) := by
  have read : noon.zone.readDate? (.int 1718424000001) = some afterNoon := by decide +kernel
  have answer : timeAgo? noon afterNoon = some "just now" := by decide +kernel
  have applied : (Toolbox.pureFunction (ofDate fun context date => (timeAgo? context date).map .string) :
      Function Unit) [.int 1718424000001] noon () = (.string "just now", ()) :=
    apply_ofDate read (congrArg (Option.map Value.string) answer) [] ()
  refine ⟨read, by decide, by decide +kernel, by decide +kernel, _, find?_timeAgo Unit, applied, ?_⟩
  rw [applied]
  intro same
  have texts : "just now" = String.ofList (noon.locale.dateText ⟨2024, 6, 15⟩) :=
    Value.string.inj (congrArg Prod.fst same)
  exact absurd texts (by decide +kernel)

end Example
end DateFunctions
end Herald
