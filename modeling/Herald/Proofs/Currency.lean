/- Amounts of money, in groups of three digits.

A fixed-point text without a sign is whole digits and, where there are places, a point with so many
digits behind it (`exists_fixed`). Its whole digits are written in groups, three digits in each but
the first (`exists_groups`), and every comma stands between two digits in front of the point
(`commasParted_groupThrees`). So the commas are all that grouping adds (`groupThousands_fixed`), and
an amount is its sign, a symbol and the grouped text of its size (`Currency.amountText_finite`). -/
import Herald.Currency
import Herald.Proofs.Number.Digits
import Herald.Proofs.Text.Words
namespace Herald
set_option autoImplicit false

/-! ## Fixed-point texts -/

/-- The digits behind the point with the point in front of them, if there are any. -/
def pointed (fraction : List Char) : List Char :=
  if fraction.isEmpty then [] else '.' :: fraction

theorem comma_notMem_pointed {fraction : List Char} (digit : ∀ c ∈ fraction, c.isDigit = true) :
    ',' ∉ pointed fraction := by
  have absent : ',' ∉ fraction := notMem_of_digits digit rfl
  unfold pointed
  split <;> simp [absent]

theorem point_mem_pointed_iff {fraction : List Char} : '.' ∈ pointed fraction ↔ 0 < fraction.length := by
  cases fraction <;> simp [pointed]

/-- The two parts of a fixed-point text: the whole digits, of which there is one at least, and as
many digits behind the point as there are places. -/
structure FixedParts (places : Nat) (whole fraction : List Char) : Prop where
  nonempty : whole ≠ []
  whole_digit : ∀ c ∈ whole, c.isDigit = true
  fraction_digit : ∀ c ∈ fraction, c.isDigit = true
  places : fraction.length = places

/-- A count of `10^-places` is written with so many places, and its digits read back as the count. -/
theorem exists_placeDigits (places count : Nat) :
    ∃ whole fraction, FixedParts places whole fraction ∧
      placeDigits places count = whole ++ pointed fraction ∧
      digitsValue (whole ++ fraction) = count := by
  obtain ⟨digits, same⟩ : ∃ digits, padded (places + 1) count = digits := ⟨_, rfl⟩
  have long : places < digits.length := by
    rw [← same, padded, List.length_append, List.length_replicate]
    omega
  have digit : ∀ c ∈ digits, c.isDigit = true := by
    intro c inside
    rw [← same] at inside
    exact isDigit_of_mem_padded inside
  have parts : FixedParts places (digits.take (digits.length - places))
      (digits.drop (digits.length - places)) := by
    refine ⟨?_, fun c inside => digit c (List.mem_of_mem_take inside),
      fun c inside => digit c (List.mem_of_mem_drop inside), ?_⟩
    · apply List.ne_nil_of_length_pos
      rw [List.length_take]
      omega
    · rw [List.length_drop]
      omega
  refine ⟨_, _, parts, ?_, ?_⟩
  · have text : placeDigits places count =
        if places == 0 then digits.take (digits.length - places)
        else digits.take (digits.length - places) ++ '.' :: digits.drop (digits.length - places) := by
      rw [← same]
      rfl
    have noDigits : (digits.drop (digits.length - places)).isEmpty = (places == 0) := by
      rw [Bool.eq_iff_iff, List.isEmpty_iff_length_eq_zero, parts.places, beq_iff_eq]
    rw [text, pointed, noDigits]
    split
    · rw [List.append_nil]
    · rfl
  · rw [List.take_append_drop, ← same, digitsValue_padded]

/-- **A finite number without a sign** is written as the count of `10^-places` nearest to it. -/
theorem exists_fixed (units places : Nat) :
    ∃ whole fraction, FixedParts places whole fraction ∧
      (Binary64.finite false units).fixed places = whole ++ pointed fraction ∧
      digitsValue (whole ++ fraction) =
        Binary64.roundedQuotient (units * 10 ^ places) Binary64.one :=
  exists_placeDigits places _

/-! ## Groups -/

/-- A digit is followed by a comma if digits remain and can be grouped by three. -/
theorem groupThrees_cons (digit : Char) (rest : List Char) :
    (rest ≠ [] ∧ rest.length % 3 = 0 ∧ groupThrees (digit :: rest) = digit :: ',' :: groupThrees rest) ∨
      ((rest = [] ∨ rest.length % 3 ≠ 0) ∧ groupThrees (digit :: rest) = digit :: groupThrees rest) := by
  rw [groupThrees]
  split
  case isTrue parted =>
    obtain ⟨remain, full⟩ := Bool.and_eq_true_iff.mp parted
    exact .inl ⟨by simpa using remain, beq_iff_eq.mp full, rfl⟩
  case isFalse joined =>
    refine .inr ⟨?_, rfl⟩
    rw [Bool.and_eq_true, not_and_or] at joined
    exact joined.imp (by simp) (by simp)

/-- The first digit stays in front. -/
theorem exists_groupThrees_cons (digit : Char) (rest : List Char) :
    ∃ tail, groupThrees (digit :: rest) = digit :: tail := by
  rcases groupThrees_cons digit rest with ⟨-, -, written⟩ | ⟨-, written⟩ <;> exact ⟨_, written⟩

/-- Digits in groups: one to three of them first, and three in every group behind. -/
structure InThrees (first : List Char) (others : List (List Char)) : Prop where
  first_pos : 0 < first.length
  first_le : first.length ≤ 3
  others_eq : ∀ group ∈ others, group.length = 3

theorem InThrees.length_mod {first : List Char} {others : List (List Char)}
    (threes : InThrees first others) :
    (first ++ others.flatten).length % 3 = first.length % 3 := by
  have each : others.map List.length = List.replicate others.length 3 :=
    List.eq_replicate_iff.mpr ⟨List.length_map .., by simpa using threes.others_eq⟩
  rw [List.length_append, List.length_flatten, each, List.sum_replicate_nat]
  omega

/-- **Digits are written in groups of three**, with a comma between one group and the next. -/
theorem exists_groups {digits : List Char} (nonempty : digits ≠ []) :
    ∃ first others, InThrees first others ∧ first ++ others.flatten = digits ∧
      groupThrees digits = Text.joinWith [','] (first :: others) := by
  induction digits with
  | nil => exact absurd rfl nonempty
  | cons digit rest ih =>
      by_cases last : rest = []
      · subst last
        exact ⟨[digit], [], ⟨Nat.one_pos, by simp, by simp⟩, rfl, rfl⟩
      · obtain ⟨first, others, threes, parts, grouped⟩ := ih last
        have remainder := threes.length_mod
        have lower := threes.first_pos
        have upper := threes.first_le
        rw [parts] at remainder
        -- The digit begins a group of its own exactly if the group behind it is full.
        rcases groupThrees_cons digit rest with ⟨-, full, written⟩ | ⟨joins, written⟩
        · have three : first.length = 3 := by omega
          refine ⟨[digit], first :: others, ⟨Nat.one_pos, by simp, ?_⟩, ?_, ?_⟩
          · exact List.forall_mem_cons.mpr ⟨three, threes.others_eq⟩
          · rw [List.flatten_cons, parts, List.singleton_append]
          · rw [written, grouped, Text.joinWith_cons_cons]
            rfl
        · have short : first.length + 1 ≤ 3 := by
            have notFull := joins.resolve_left last
            omega
          refine ⟨digit :: first, others, ⟨Nat.succ_pos _, short, threes.others_eq⟩, ?_, ?_⟩
          · rw [List.cons_append, parts]
          · rw [written, grouped]
            exact (Text.joinWith_append_cons [','] [digit] first others).symm

example : groupThrees "999".toList = "999".toList ∧ groupThrees "1000".toList = "1,000".toList := by
  decide

/-! ## Commas -/

/-- Every comma of a text stands between two digits, and no point stands in front of it. -/
def CommasParted (text : List Char) : Prop :=
  ∀ before after, text = before ++ ',' :: after →
    ∃ front left right back, before = front ++ [left] ∧ after = right :: back ∧
      left.isDigit = true ∧ right.isDigit = true ∧ '.' ∉ before

namespace CommasParted
variable {text : List Char} {left right : Char}

theorem of_notMem (absent : ',' ∉ text) : CommasParted text := by
  rintro before after rfl
  exact absurd (by simp) absent

theorem cons (parted : CommasParted text) (digit : left.isDigit = true) : CommasParted (left :: text) := by
  have notPoint : '.' ≠ left := (ne_of_isDigit digit rfl).symm
  intro before after shape
  cases before with
  | nil => exact absurd (List.cons.inj shape).1 (ne_of_isDigit digit rfl)
  | cons head tail =>
      obtain ⟨rfl, behind⟩ := List.cons.inj shape
      obtain ⟨front, last, next, back, rfl, rfl, lastDigit, nextDigit, noPoint⟩ :=
        parted tail after behind
      exact ⟨left :: front, last, next, back, rfl, rfl, lastDigit, nextDigit,
        by simpa [notPoint] using noPoint⟩

/-- A comma may stand between two digits. -/
theorem cons_comma (parted : CommasParted (right :: text)) (leftDigit : left.isDigit = true)
    (rightDigit : right.isDigit = true) : CommasParted (left :: ',' :: right :: text) := by
  have notPoint : '.' ≠ left := (ne_of_isDigit leftDigit rfl).symm
  intro before after shape
  cases before with
  | nil => exact absurd (List.cons.inj shape).1 (ne_of_isDigit leftDigit rfl)
  | cons head tail =>
      obtain ⟨rfl, behind⟩ := List.cons.inj shape
      cases tail with
      | nil =>
          exact ⟨[], left, right, text, rfl, (List.cons.inj behind).2.symm, leftDigit, rightDigit,
            by simpa using notPoint⟩
      | cons mark tail =>
          obtain ⟨rfl, beyond⟩ := List.cons.inj behind
          obtain ⟨front, last, next, back, rfl, rfl, lastDigit, nextDigit, noPoint⟩ :=
            parted tail after beyond
          exact ⟨left :: ',' :: front, last, next, back, rfl, rfl, lastDigit, nextDigit,
            by simpa [notPoint] using noPoint⟩

end CommasParted

theorem commasParted_groupThrees {digits : List Char} (digit : ∀ c ∈ digits, c.isDigit = true)
    {rest : List Char} (absent : ',' ∉ rest) : CommasParted (groupThrees digits ++ rest) := by
  induction digits with
  | nil => exact .of_notMem absent
  | cons first more ih =>
      obtain ⟨firstDigit, others⟩ := List.forall_mem_cons.mp digit
      rcases groupThrees_cons first more with ⟨remain, -, written⟩ | ⟨-, written⟩
      · obtain ⟨second, most, rfl⟩ := List.exists_cons_of_ne_nil remain
        obtain ⟨tail, begins⟩ := exists_groupThrees_cons second most
        have parted := ih others
        rw [begins] at parted
        rw [written, begins]
        exact parted.cons_comma firstDigit (others second List.mem_cons_self)
      · rw [written]
        exact (ih others).cons firstDigit

/-! ## Grouped fixed-point texts -/

/-- Only the digits in front of the point are grouped. -/
theorem groupThousands_append {whole fraction : List Char} (digit : ∀ c ∈ whole, c.isDigit = true) :
    groupThousands (whole ++ pointed fraction) = groupThrees whole ++ pointed fraction := by
  have passes : ∀ c ∈ whole, (c != '.') = true :=
    fun c inside => bne_iff_ne.mpr (ne_of_isDigit (digit c inside) rfl)
  have stops : (pointed fraction).takeWhile (· != '.') = [] ∧
      (pointed fraction).dropWhile (· != '.') = pointed fraction := by
    unfold pointed
    split <;> exact ⟨rfl, rfl⟩
  rw [groupThousands, List.takeWhile_append_of_pos passes, List.dropWhile_append_of_pos passes,
    stops.1, stops.2, List.append_nil]

namespace Currency

/-- **An amount of money** is its sign, the symbol of its currency and its size in groups. -/
theorem amountText_finite (currency : Currency) (negative : Bool) (units : Nat) :
    currency.amountText (.finite negative units) =
      (if negative = true ∧ 0 < units then ['-'] else []) ++ currency.symbol.toList ++
        groupThousands ((Binary64.finite false units).fixed currency.places) := by
  have below : (Binary64.finite negative units).isBelowZero = decide (negative = true ∧ 0 < units) := by
    cases negative <;> simp [Binary64.isBelowZero, Binary64.position, Binary64.signed]
  simp only [amountText, below, Binary64.magnitude, decide_eq_true_eq]
  split
  · rfl
  · rfl

end Currency

/-- **Grouping changes nothing but commas.** Without them, the text of a finite number without a sign
is its fixed-point text: whole digits, and a point exactly if there are places, with so many digits
behind it; all of them together are the number counted in `10^-places`, to the nearest. The whole
digits are in groups, of three digits each but for the first, which has one to three; the commas are
those between the groups, so that none leads, trails, touches the point or stands behind it. An amount
of money in a currency with so many places is its sign, the symbol and this text. -/
theorem groupThousands_fixed (units places : Nat) :
    let text := (Binary64.finite false units).fixed places
    let grouped := groupThousands text
    grouped.filter (· != ',') = text ∧
      (∃ first others fraction, InThrees first others ∧
        FixedParts places (first ++ others.flatten) fraction ∧
        text = first ++ others.flatten ++ pointed fraction ∧
        grouped = Text.joinWith [','] (first :: others) ++ pointed fraction ∧
        digitsValue (first ++ others.flatten ++ fraction) =
          Binary64.roundedQuotient (units * 10 ^ places) Binary64.one) ∧
      CommasParted grouped ∧
      ('.' ∈ grouped ↔ 0 < places) ∧
      (∀ (currency : Currency) (negative : Bool), currency.places = places →
        currency.amountText (.finite negative units) =
          (if negative = true ∧ 0 < units then ['-'] else []) ++ currency.symbol.toList ++ grouped) := by
  intro text grouped
  obtain ⟨whole, fraction, parts, written, value⟩ := exists_fixed units places
  obtain ⟨first, others, threes, rfl, joined⟩ := exists_groups parts.nonempty
  have shape : grouped = groupThrees (first ++ others.flatten) ++ pointed fraction := by
    rw [← groupThousands_append parts.whole_digit, ← written]
  have noComma : ',' ∉ pointed fraction := comma_notMem_pointed parts.fraction_digit
  have plain : grouped.filter (· != ',') = text := by
    have absent : ∀ piece ∈ first :: others, ',' ∉ piece := by
      intro piece listed inside
      have among : ',' ∈ (first :: others).flatten := List.mem_flatten.mpr ⟨piece, listed, inside⟩
      exact notMem_of_digits parts.whole_digit rfl among
    rw [shape, joined, List.filter_append, Text.filter_joinWith (List.cons_ne_nil _ _) absent,
      Text.filter_of_notMem noComma, List.flatten_cons, ← written]
  refine ⟨plain, ⟨first, others, fraction, threes, parts, written, by rw [shape, joined], value⟩, ?_,
    ?_, ?_⟩
  · rw [shape]
    exact commasParted_groupThrees parts.whole_digit noComma
  · have sameMark : '.' ∈ grouped ↔ '.' ∈ text := by
      rw [← plain, List.mem_filter]
      simp
    have noPoint : '.' ∉ first ++ others.flatten := notMem_of_digits parts.whole_digit rfl
    rw [sameMark, show text = _ from written, List.mem_append, or_iff_right noPoint,
      point_mem_pointed_iff, parts.places]
  · rintro currency negative rfl
    exact currency.amountText_finite negative units

namespace Example

/-- The number nearest to 1234567.891. -/
def price : Nat := Binary64.nearestUnits (1234567891 * Binary64.one) 1000

def dollar : Currency := ⟨"$", 2⟩

theorem groupThousands_fixed_price :
    groupThousands ((Binary64.finite false price).fixed 2) = "1".toList ++ ',' :: "234,567.89".toList ∧
      (∃ front left right back, "1".toList = front ++ [left] ∧ "234,567.89".toList = right :: back ∧
        left.isDigit = true ∧ right.isDigit = true ∧ '.' ∉ "1".toList) ∧
      dollar.places = 2 ∧
      dollar.amountText (.finite true price) =
        '-' :: "$".toList ++ groupThousands ((Binary64.finite false price).fixed 2) := by
  have written : groupThousands ((Binary64.finite false price).fixed 2) =
      "1".toList ++ ',' :: "234,567.89".toList := by decide +kernel
  have owed : true = true ∧ 0 < price := ⟨rfl, by decide +kernel⟩
  obtain ⟨-, -, parted, -, amount⟩ := groupThousands_fixed price 2
  refine ⟨written, parted _ _ written, rfl, ?_⟩
  rw [amount dollar true rfl, if_pos owed]
  rfl

end Example
end Herald
