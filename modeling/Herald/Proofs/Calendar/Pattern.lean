/- Date patterns run by run.

A pattern is expanded one maximal run of equal characters after another (`expand_runs`): a run of
letters for a field is that many padded fields, two letters each, and an unpadded one for a letter
left over; a run of letters for the year is that many years, four letters each, and the letters left
over; a run of any other character stays. Trying the longer form first is what makes the forms of a
run begin at its first letter, and no form reaches beyond its run, since all of its letters are
equal. -/
import Herald.Proofs.Calendar.Moment
import Herald.Proofs.Number.Digits
import Mathlib.Data.List.SplitBy
namespace Herald.WallTime
set_option autoImplicit false

/-! ## Letters -/

/-- The number that a letter of a pattern stands for; the letter of the year is not among them. -/
def field? (time : WallTime) : Char → Option Nat
  | 'M' => some time.day.month
  | 'D' => some time.day.day
  | 'H' => some time.hour
  | 'm' => some time.minute
  | 's' => some time.second
  | _ => none

/-- A character of a pattern that stands for itself. -/
def isCopied (time : WallTime) (c : Char) : Bool := c != 'Y' && (time.field? c).isNone

section Steps
variable {time : WallTime} {c : Char} {value : Nat} {rest : List Char}

theorem expand_pair (field : time.field? c = some value) (rest : List Char) :
    time.expand (c :: c :: rest) = padded 2 value ++ time.expand rest := by
  unfold field? at field
  split at field <;> cases field <;> rw [expand]

theorem expand_lone (field : time.field? c = some value) (ends : rest.head? ≠ some c) :
    time.expand (c :: rest) = decimalDigits value ++ time.expand rest := by
  have other : ∀ {more}, rest ≠ c :: more := by
    rintro more rfl
    exact ends rfl
  unfold field? at field
  split at field <;> cases field <;> rw [expand] <;> exact fun more same => other same

theorem expand_copied (field : time.field? c = none) (noYear : c ≠ 'Y') (rest : List Char) :
    time.expand (c :: rest) = c :: time.expand rest := by
  unfold field? at field
  split at field
  case h_6 => rw [expand] <;> simp_all
  all_goals cases field

theorem expand_years (time : WallTime) (rest : List Char) :
    time.expand (List.replicate 4 'Y' ++ rest) = yearText time.day.year ++ time.expand rest := rfl

/-- A letter of the year that is not the first of four stays. -/
theorem expand_lone_year (time : WallTime) (few : ¬ List.replicate 3 'Y' <+: rest) :
    time.expand ('Y' :: rest) = 'Y' :: time.expand rest := by
  rw [expand]
  case x_1 =>
    intro more _ same
    exact few ⟨more, same.symm⟩
  all_goals simp

/-- Fewer than four letters of the year stay. -/
theorem expand_few_years (time : WallTime) (ends : rest.head? ≠ some 'Y') {count : Nat}
    (few : count < 4) :
    time.expand (List.replicate count 'Y' ++ rest) = List.replicate count 'Y' ++ time.expand rest := by
  induction count with
  | zero => rfl
  | succ count ih =>
      have fewer : ¬ List.replicate 3 'Y' <+: List.replicate count 'Y' ++ rest := by
        rintro ⟨more, same⟩
        have behind : rest = (List.replicate 3 'Y' ++ more).drop count := by
          rw [same, List.drop_left' List.length_replicate]
        obtain ⟨left, shape⟩ : ∃ left, 3 - count = left + 1 := ⟨2 - count, by omega⟩
        rw [List.drop_append_of_le_length (by simp; omega), List.drop_replicate, shape] at behind
        exact ends (by rw [behind]; rfl)
      rw [List.replicate_succ, List.cons_append, expand_lone_year time fewer, ih (by omega),
        List.cons_append]

end Steps

/-! ## Runs -/

/-- The text of a run of equal characters. -/
def runText (time : WallTime) (run : List Char) : List Char :=
  match run with
  | [] => []
  | c :: _ =>
    if c = 'Y' then
      (List.replicate (run.length / 4) (yearText time.day.year)).flatten ++
        List.replicate (run.length % 4) 'Y'
    else
      match time.field? c with
      | some value =>
        (List.replicate (run.length / 2) (padded 2 value)).flatten ++
          if run.length % 2 = 1 then decimalDigits value else []
      | none => run

/-- A run is so many blocks of a size, and less than a block. -/
theorem replicate_eq_blocks (size count : Nat) (c : Char) :
    List.replicate count c =
      (List.replicate (count / size) (List.replicate size c)).flatten ++ List.replicate (count % size) c := by
  rw [List.flatten_replicate_replicate, List.replicate_append_replicate, Nat.div_add_mod']

/-- What stands for a block stands for each of several blocks. -/
theorem expand_blocks {time : WallTime} {block text : List Char}
    (single : ∀ rest, time.expand (block ++ rest) = text ++ time.expand rest) (count : Nat)
    (rest : List Char) :
    time.expand ((List.replicate count block).flatten ++ rest) =
      (List.replicate count text).flatten ++ time.expand rest := by
  induction count with
  | zero => rfl
  | succ count ih =>
      rw [List.replicate_succ, List.replicate_succ, List.flatten_cons, List.flatten_cons,
        List.append_assoc, single, ih, List.append_assoc]

/-- **A run is expanded on its own**, whatever follows it. -/
theorem expand_run (time : WallTime) {c : Char} {rest : List Char} (ends : rest.head? ≠ some c)
    (count : Nat) :
    time.expand (List.replicate (count + 1) c ++ rest) =
      time.runText (List.replicate (count + 1) c) ++ time.expand rest := by
  rw [List.replicate_succ, runText, ← List.replicate_succ, List.length_replicate]
  by_cases year : c = 'Y'
  · subst year
    rw [if_pos rfl, replicate_eq_blocks 4, List.append_assoc, expand_blocks (expand_years time),
      expand_few_years time ends (Nat.mod_lt _ (by decide)), List.append_assoc]
  · rw [if_neg year]
    cases field : time.field? c with
    | some value =>
        have lone : time.expand (List.replicate ((count + 1) % 2) c ++ rest) =
            (if (count + 1) % 2 = 1 then decimalDigits value else []) ++ time.expand rest := by
          rcases Nat.mod_two_eq_zero_or_one (count + 1) with even | odd
          · rw [even]
            rfl
          · rw [odd]
            exact expand_lone field ends
        rw [replicate_eq_blocks 2, List.append_assoc, expand_blocks (expand_pair field), lone,
          List.append_assoc]
    | none =>
        have copied := @expand_blocks time [c] [c] (expand_copied field year) (count + 1) rest
        rwa [List.flatten_replicate_singleton] at copied

/-- A pattern is one run after another. -/
@[elab_as_elim]
theorem run_induction {motive : List Char → Prop} (pattern : List Char) (nil : motive [])
    (run : ∀ c count rest, rest.head? ≠ some c → motive rest →
      motive (List.replicate (count + 1) c ++ rest)) : motive pattern := by
  cases pattern with
  | nil => exact nil
  | cons c tail =>
      have equal : tail.takeWhile (· == c) = List.replicate (tail.takeWhile (· == c)).length c :=
        List.eq_replicate_of_mem fun d inside =>
          beq_iff_eq.mp (List.all_eq_true.mp List.all_takeWhile d inside)
      have ends : (tail.dropWhile (· == c)).head? ≠ some c := by
        intro more
        have stopped := List.head?_dropWhile_not (· == c) tail
        simp [more] at stopped
      have shape : c :: tail = List.replicate ((tail.takeWhile (· == c)).length + 1) c ++
          tail.dropWhile (· == c) := by
        rw [List.replicate_succ, ← equal, List.cons_append, List.takeWhile_append_dropWhile]
      have shorter : (tail.dropWhile (· == c)).length < (c :: tail).length :=
        Nat.lt_succ_of_le (List.dropWhile_suffix _).length_le
      rw [shape]
      exact run c _ _ ends (run_induction _ nil run)
termination_by pattern.length
decreasing_by exact shorter

/-- The runs of a pattern that begins with one. -/
theorem splitBy_run {c : Char} {rest : List Char} (ends : rest.head? ≠ some c) (count : Nat) :
    (List.replicate (count + 1) c ++ rest).splitBy (· == ·) =
      List.replicate (count + 1) c :: rest.splitBy (· == ·) := by
  have equal : (List.replicate (count + 1) c).IsChain fun first second => (first == second) = true :=
    List.isChain_replicate_of_rel _ (beq_self_eq_true c)
  have apart : ∀ x ∈ (List.replicate (count + 1) c).getLast?, ∀ y ∈ rest.head?, (x == y) = false := by
    intro last isLast next isNext
    obtain rfl := List.eq_of_mem_replicate (List.mem_of_getLast? isLast)
    rw [beq_eq_false_iff_ne]
    rintro rfl
    exact ends isNext
  rw [List.splitBy_append apart, List.splitBy_of_isChain (by simp) equal, List.singleton_append]

/-- The characters that are copied are in the text of a run if they are in the run. -/
theorem filter_sublist_runText (time : WallTime) (c : Char) (count : Nat) :
    ((List.replicate (count + 1) c).filter time.isCopied).Sublist
      (time.runText (List.replicate (count + 1) c)) := by
  by_cases copied : time.isCopied c = true
  · obtain ⟨noYear, field⟩ := Bool.and_eq_true_iff.mp copied
    rw [List.replicate_succ, runText, if_neg (by simpa using noYear), Option.isNone_iff_eq_none.mp field]
    exact List.filter_sublist
  · rw [List.filter_replicate_of_neg copied]
    exact List.nil_sublist _

/-! ## Fields -/

/-- The padded fields of a time on the clock have two digits. -/
theorem OnClock.length_padded {time : WallTime} (onClock : time.OnClock) {c : Char} {value : Nat}
    (field : time.field? c = some value) : (padded 2 value).length = 2 := by
  have bounds := Day.bounds_of_exists onClock.real
  have hour := onClock.hour
  have minute := onClock.minute
  have second := onClock.second
  have fits : value < 10 ^ 2 := by
    unfold field? at field
    split at field <;> cases field <;> omega
  exact Herald.length_padded (by decide) fits

/-- A year has four characters at least. -/
theorem four_le_length_yearText (year : Int) : 4 ≤ (yearText year).length := by
  unfold yearText padded
  split <;> simp <;> omega

/-! ## The whole pattern -/

/-- **A pattern is expanded run by run.** Its text is made of the texts of its maximal runs of equal
characters. So two parts of it that do not meet within a run are expanded apart from each other, and
the characters that stand for themselves are all there, in their order. A padded field has two
digits on every clock, and a year at least four characters. -/
theorem expand_runs (time : WallTime) (pattern : List Char) :
    time.expand pattern = (pattern.splitBy (· == ·)).flatMap time.runText ∧
      (∀ first second, pattern = first ++ second → (∀ c ∈ first.getLast?, c ∉ second.head?) →
        time.expand pattern = time.expand first ++ time.expand second) ∧
      (pattern.filter time.isCopied).Sublist (time.expand pattern) ∧
      (time.OnClock → ∀ c value, time.field? c = some value → (padded 2 value).length = 2) ∧
      4 ≤ (yearText time.day.year).length := by
  have whole : ∀ pattern, time.expand pattern = (pattern.splitBy (· == ·)).flatMap time.runText := by
    intro pattern
    induction pattern using run_induction with
    | nil => rfl
    | run c count rest ends ih => rw [expand_run time ends, splitBy_run ends, List.flatMap_cons, ih]
  refine ⟨whole pattern, ?_, ?_, fun onClock c value field => onClock.length_padded field,
    four_le_length_yearText _⟩
  · rintro first second rfl apart
    have split : (first ++ second).splitBy (· == ·) =
        first.splitBy (· == ·) ++ second.splitBy (· == ·) := by
      apply List.splitBy_append
      intro last isLast next isNext
      rw [beq_eq_false_iff_ne]
      rintro rfl
      exact apart last isLast isNext
    rw [whole, whole, whole, split, List.flatMap_append]
  · induction pattern using run_induction with
    | nil => exact List.nil_sublist _
    | run c count rest ends ih =>
        rw [List.filter_append, expand_run time ends]
        exact (filter_sublist_runText time c count).append ih

namespace Example

def morning : WallTime := ⟨⟨2024, 3, 5⟩, 9, 7, 2, 0⟩

example : morning.expand "YYYYY年MMM/DDs!".toList = "2024Y年033/052!".toList := by decide

theorem expand_runs_morning :
    (∀ c ∈ "YYYYY年MMM".toList.getLast?, c ∉ "/DDs!".toList.head?) ∧ morning.OnClock ∧
      morning.field? 'M' = some 3 ∧
      morning.expand "YYYYY年MMM/DDs!".toList =
        ("YYYYY年MMM/DDs!".toList.splitBy (· == ·)).flatMap morning.runText ∧
      morning.expand "YYYYY年MMM/DDs!".toList =
        morning.expand "YYYYY年MMM".toList ++ morning.expand "/DDs!".toList ∧
      (padded 2 3).length = 2 := by
  have apart : ∀ c ∈ "YYYYY年MMM".toList.getLast?, c ∉ "/DDs!".toList.head? := by
    intro c last next
    obtain rfl : 'M' = c := Option.some.inj last
    exact absurd next (by decide)
  have onClock : morning.OnClock :=
    ⟨by decide, by decide, by decide, by decide, by decide⟩
  have march : morning.field? 'M' = some 3 := rfl
  obtain ⟨runs, parts, -, twoDigits, -⟩ := expand_runs morning "YYYYY年MMM/DDs!".toList
  exact ⟨apart, onClock, march, runs, parts _ _ rfl apart, twoDigits onClock 'M' 3 march⟩

end Example
end Herald.WallTime
