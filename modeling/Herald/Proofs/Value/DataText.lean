/- Unique decoding of data texts.

A data text ends where it ends: whatever follows it, as long as that is no character of a
number, the text determines the value and the remainder (`dataText_append_inj`). A number is
delimited by the class of its characters, a quoted text by reading it back
(`readQuoted?_quoted`), a list or an object by its commas and its closing bracket.

That two different numbers have different data texts is taken as a condition on the numbers
at hand (`PrintApart`); everything else is proved. -/
import Herald.Proofs.Number.Digits
import Herald.Value.Printer
import Herald.Value.Reader
namespace Herald
set_option autoImplicit false

/-! ## Texts of one character class -/

/-- A text whose characters are all in a class ends where the class is left. -/
theorem append_inj_of_class {inClass : Char → Bool} {left right rest rest' : List Char}
    (leftIn : ∀ c ∈ left, inClass c = true) (rightIn : ∀ c ∈ right, inClass c = true)
    (leaves : ∀ c ∈ rest.head?, inClass c = false) (leaves' : ∀ c ∈ rest'.head?, inClass c = false)
    (same : left ++ rest = right ++ rest') : left = right ∧ rest = rest' := by
  have none_taken : ∀ tail : List Char, (∀ c ∈ tail.head?, inClass c = false) →
      tail.takeWhile inClass = [] := by
    intro tail outside
    cases tail with
    | nil => rfl
    | cons c more => simp [outside c rfl]
  have taken := congrArg (List.takeWhile inClass) same
  rw [List.takeWhile_append_of_pos leftIn, List.takeWhile_append_of_pos rightIn,
    none_taken rest leaves, none_taken rest' leaves', List.append_nil, List.append_nil] at taken
  subst taken
  exact ⟨rfl, List.append_cancel_left same⟩

namespace Value

/-! ## Numbers -/

/-- Every character of a text can stand in the text of a number. -/
def NumberText (text : List Char) : Prop := ∀ c ∈ text, isNumberChar c = true

theorem isNumberChar_of_isDigit {c : Char} (digit : c.isDigit = true) : isNumberChar c = true := by
  simp [isNumberChar, digit]

theorem numberText_append {left right : List Char} (leftIn : NumberText left)
    (rightIn : NumberText right) : NumberText (left ++ right) := by
  intro c inside
  exact (List.mem_append.mp inside).elim (leftIn c) (rightIn c)

theorem numberText_cons {c : Char} {rest : List Char} (first : isNumberChar c = true)
    (restIn : NumberText rest) : NumberText (c :: rest) := by
  intro d inside
  rcases List.mem_cons.mp inside with rfl | deeper
  · exact first
  · exact restIn d deeper

theorem numberText_decimalDigits (value : Nat) : NumberText (decimalDigits value) := fun _ inside =>
  isNumberChar_of_isDigit (isDigit_of_mem_decimalDigits inside)

theorem numberText_replicate_zero (count : Nat) : NumberText (List.replicate count '0') := by
  intro c inside
  rw [List.eq_of_mem_replicate inside]
  decide

theorem numberText_positional {mark digits : List Char} (exponent : Int) (markIn : NumberText mark)
    (digitsIn : NumberText digits) : NumberText (Binary64.positional mark digits exponent) := by
  simp only [Binary64.positional]
  split
  · exact numberText_append (numberText_append digitsIn (numberText_replicate_zero _)) markIn
  · split
    · exact numberText_append (fun c inside => digitsIn c (List.mem_of_mem_take inside))
        (numberText_cons (by decide) fun c inside => digitsIn c (List.mem_of_mem_drop inside))
    · exact numberText_cons (by decide) (numberText_cons (by decide)
        (numberText_append (numberText_replicate_zero _) digitsIn))

theorem numberText_scientific {digits : List Char} (exponent : Int) (digitsIn : NumberText digits) :
    NumberText (Binary64.scientific digits exponent) := by
  refine numberText_append ?_ (numberText_cons (by decide) (numberText_cons ?_
    (numberText_decimalDigits _)))
  · cases digits with
    | nil => simp [NumberText]
    | cons first rest =>
        have firstIn : isNumberChar first = true := digitsIn first List.mem_cons_self
        have restIn : NumberText rest := fun c inside => digitsIn c (List.mem_cons_of_mem _ inside)
        by_cases single : rest.isEmpty
        · simpa [single, NumberText] using firstIn
        · simpa [single] using numberText_cons firstIn (numberText_cons (by decide) restIn)
  · split <;> decide

theorem positional_ne_nil {mark digits : List Char} (exponent : Int) (some_ : digits ≠ []) :
    Binary64.positional mark digits exponent ≠ [] := by
  simp only [Binary64.positional]
  split
  · simp [some_]
  · split <;> simp

/-- The data text of a binary64 number is a nonempty body of number characters, perhaps after
a sign. -/
theorem binary64_dataText (negative : Bool) (units : Nat) :
    ∃ body, NumberText body ∧ body ≠ [] ∧
      Binary64.dataText negative units = if negative then '-' :: body else body := by
  refine ⟨_, ?_, ?_, rfl⟩ <;> generalize Binary64.shortest units = found <;>
    obtain ⟨point, exponent⟩ := found
  · split
    · simp [NumberText, isNumberChar]
    · dsimp only
      split
      · exact numberText_positional _ (by simp [NumberText, isNumberChar])
          (numberText_decimalDigits _)
      · exact numberText_scientific _ (numberText_decimalDigits _)
  · split
    · simp
    · dsimp only
      split
      · exact positional_ne_nil _ (decimalDigits_ne_nil _)
      · simp [Binary64.scientific]

/-- The data text of a number is nonempty and made of number characters. -/
theorem number_dataText (number : Number) : NumberText number.dataText ∧ number.dataText ≠ [] := by
  cases number with
  | int value =>
      simp only [Number.dataText]
      split
      · exact ⟨numberText_cons (by decide) (numberText_decimalDigits _), by simp⟩
      · exact ⟨numberText_decimalDigits _, decimalDigits_ne_nil _⟩
  | float negative units =>
      obtain ⟨body, bodyIn, nonempty, shape⟩ := binary64_dataText negative units
      simp only [Number.dataText, shape]
      split
      · exact ⟨numberText_cons (by decide) bodyIn, by simp⟩
      · exact ⟨bodyIn, nonempty⟩

/-! ## Quoted texts -/

/-- The hexadecimal digits of a control character read back. -/
theorem readUnicode?_control (rest : List Char) : ∀ code < 32,
    readUnicode? ('0' :: '0' :: hexDigit (code / 16) :: hexDigit (code % 16) :: rest) =
      some (Char.ofNat code, rest) := by
  have digits : ∀ code < 32, hexValue? (hexDigit (code / 16)) = some (code / 16) ∧
      hexValue? (hexDigit (code % 16)) = some (code % 16) := by decide
  intro code control
  obtain ⟨high, low⟩ := digits code control
  have zero : hexValue? '0' = some 0 := by decide
  simp only [readUnicode?, readHex4?, zero, high, low, bind, Option.bind]
  have value : ((0 * 16 + 0) * 16 + code / 16) * 16 + code % 16 = code := by omega
  rw [value]
  simp [show ¬ 55296 ≤ code by omega, show ¬ 56320 ≤ code by omega]

/-- Reading one escaped character inside a quoted text gives that character back. -/
theorem readQuoted?_escapeChar (fuel : Nat) (done rest : List Char) (c : Char) :
    readQuoted? (fuel + 1) done (escapeChar c ++ rest) = readQuoted? fuel (c :: done) rest := by
  have known : ∀ code, c.toNat = code → c = Char.ofNat code := by
    rintro code rfl
    exact (Char.ofNat_toNat c).symm
  by_cases quote : c = '"'
  · subst quote; simp [escapeChar, readQuoted?, letterEscape?]
  by_cases backslash : c = '\\'
  · subst backslash; simp [escapeChar, readQuoted?, letterEscape?]
  by_cases newline : c = '\n'
  · subst newline; simp [escapeChar, readQuoted?, letterEscape?]
  by_cases carriage : c = '\r'
  · subst carriage; simp [escapeChar, readQuoted?, letterEscape?]
  by_cases tab : c = '\t'
  · subst tab; simp [escapeChar, readQuoted?, letterEscape?]
  by_cases backspace : c.toNat = 8
  · rw [known 8 backspace]; simp [escapeChar, readQuoted?, letterEscape?]
  by_cases feed : c.toNat = 12
  · rw [known 12 feed]; simp [escapeChar, readQuoted?, letterEscape?]
  by_cases control : c.toNat < 32
  · have back := readUnicode?_control rest c.toNat control
    rw [Char.ofNat_toNat] at back
    simp [escapeChar, readQuoted?, quote, backslash, newline, carriage, tab, backspace, feed,
      control, back]
  · simp [escapeChar, readQuoted?, quote, backslash, newline, carriage, tab, backspace, feed,
      control]

/-- **Reading undoes quoting**, whatever follows the closing quote. -/
theorem readQuoted?_quoted (text rest : List Char) (fuel : Nat) (done : List Char)
    (enough : text.length < fuel) :
    readQuoted? fuel done (text.flatMap escapeChar ++ '"' :: rest) =
      some (done.reverse ++ text, rest) := by
  induction text generalizing fuel done with
  | nil =>
      obtain ⟨fuel, rfl⟩ : ∃ more, fuel = more + 1 := ⟨fuel - 1, by simp at enough; omega⟩
      simp [readQuoted?]
  | cons c more ih =>
      obtain ⟨fuel, rfl⟩ : ∃ more, fuel = more + 1 := ⟨fuel - 1, by simp at enough; omega⟩
      rw [List.flatMap_cons, List.append_assoc, readQuoted?_escapeChar,
        ih fuel (c :: done) (by simpa using enough)]
      simp

/-- A quoted text ends at its closing quote. -/
theorem quoted_append_inj {left right : String} {rest rest' : List Char}
    (same : quoted left ++ rest = quoted right ++ rest') : left = right ∧ rest = rest' := by
  simp only [quoted, List.cons_append, List.append_assoc, List.cons.injEq, true_and,
    List.nil_append] at same
  have enough := Nat.lt_succ_of_le (Nat.le_max_left left.toList.length right.toList.length)
  have enough' := Nat.lt_succ_of_le (Nat.le_max_right left.toList.length right.toList.length)
  have back := readQuoted?_quoted left.toList rest _ [] enough
  rw [same, readQuoted?_quoted right.toList rest' _ [] enough'] at back
  simp only [List.reverse_nil, List.nil_append, Option.some.injEq, Prod.mk.injEq,
    String.toList_inj] at back
  exact ⟨back.1.symm, back.2.symm⟩

/-! ## Values -/

mutual
/-- The numbers in a value, at every depth. -/
def numbers : Value → List Number
  | .number value => [value]
  | .array items => itemNumbers items
  | .object fields => fieldNumbers fields
  | _ => []

/-- The numbers in a list of values. -/
def itemNumbers : List Value → List Number
  | [] => []
  | item :: rest => numbers item ++ itemNumbers rest

/-- The numbers in a list of fields. -/
def fieldNumbers : List (String × Value) → List Number
  | [] => []
  | (_, value) :: rest => numbers value ++ fieldNumbers rest
end

/-- Different numbers among these have different data texts. -/
def PrintApart (pool : List Number) : Prop :=
  ∀ left ∈ pool, ∀ right ∈ pool, left.dataText = right.dataText → left = right

instance (pool : List Number) : Decidable (PrintApart pool) := by
  unfold PrintApart; infer_instance

/-- The kind of value that a data text with this first character writes. -/
def kindAt? (c : Char) : Option String :=
  if isNumberChar c then some "number"
  else if c == '"' then some "string"
  else if c == '[' then some "array"
  else if c == '{' then some "object"
  else if c == 'n' then some "null"
  else if c == 't' || c == 'f' then some "boolean"
  else none

/-- The first character of a data text tells the kind of its value. -/
theorem dataText_head (value : Value) :
    ∃ first rest, value.dataText = first :: rest ∧ kindAt? first = some value.kind := by
  cases value with
  | null => exact ⟨'n', _, rfl, by decide⟩
  | bool value => cases value <;> exact ⟨_, _, rfl, by decide⟩
  | number value =>
      obtain ⟨inClass, nonempty⟩ := number_dataText value
      obtain ⟨first, rest, shape⟩ := List.exists_cons_of_ne_nil nonempty
      have firstIn : isNumberChar first = true := inClass first (by simp [shape])
      exact ⟨first, rest, shape, by simp [kindAt?, firstIn, kind]⟩
  | string value => exact ⟨'"', _, rfl, rfl⟩
  | array items => exact ⟨'[', _, rfl, rfl⟩
  | object fields => exact ⟨'{', _, rfl, rfl⟩

/-- Values whose texts begin alike are of one kind. -/
theorem kind_eq_of_append {left right : Value} {rest rest' : List Char}
    (same : left.dataText ++ rest = right.dataText ++ rest') : left.kind = right.kind := by
  obtain ⟨first, tail, shape, known⟩ := dataText_head left
  obtain ⟨first', tail', shape', known'⟩ := dataText_head right
  simp only [shape, shape', List.cons_append, List.cons.injEq] at same
  rw [same.1, known'] at known
  exact (Option.some.inj known).symm

/-- No data text begins with a character that leads none. -/
theorem append_ne_of_kindAt? {value : Value} {rest tail : List Char} {c : Char}
    (leads : kindAt? c = none) : c :: tail ≠ value.dataText ++ rest := by
  obtain ⟨first, more, shape, known⟩ := dataText_head value
  intro same
  simp only [shape, List.cons_append, List.cons.injEq] at same
  rw [← same.1, leads] at known
  cases known

/-- The text of the items behind the first, with the comma before them. -/
def itemsTail : List Value → List Char
  | [] => []
  | items => ',' :: itemsText items

/-- The text of the fields behind the first, with the comma before them. -/
def fieldsTail : List (String × Value) → List Char
  | [] => []
  | fields => ',' :: fieldsText fields

theorem itemsText_cons (item : Value) (rest : List Value) :
    itemsText (item :: rest) = item.dataText ++ itemsTail rest := by
  cases rest <;> simp [itemsText, itemsTail]

theorem fieldsText_cons (name : String) (value : Value) (rest : List (String × Value)) :
    fieldsText ((name, value) :: rest) = quoted name ++ ':' :: (value.dataText ++ fieldsTail rest) := by
  cases rest <;> simp [fieldsText, fieldsTail]

/-- The end of a list and a comma both end a number. -/
theorem itemsTail_leaves (items : List Value) (rest : List Char) :
    ∀ c ∈ (itemsTail items ++ ']' :: rest).head?, isNumberChar c = false := by
  cases items <;> simp [itemsTail, isNumberChar]

theorem fieldsTail_leaves (fields : List (String × Value)) (rest : List Char) :
    ∀ c ∈ (fieldsTail fields ++ '}' :: rest).head?, isNumberChar c = false := by
  cases fields <;> simp [fieldsTail, isNumberChar]

mutual
/-- **A data text determines its value**, whatever follows it that is no character of a
number. -/
theorem dataText_append_inj {pool : List Number} (apart : PrintApart pool) (left right : Value)
    {rest rest' : List Char} (leftIn : left.numbers ⊆ pool) (rightIn : right.numbers ⊆ pool)
    (leaves : ∀ c ∈ rest.head?, isNumberChar c = false)
    (leaves' : ∀ c ∈ rest'.head?, isNumberChar c = false)
    (same : left.dataText ++ rest = right.dataText ++ rest') : left = right ∧ rest = rest' := by
  have kinds := kind_eq_of_append same
  cases left with
  | null =>
      cases right <;> simp [kind] at kinds
      simpa [dataText] using same
  | bool value =>
      cases right <;> simp [kind] at kinds
      rename_i value'
      cases value <;> cases value' <;> simp [dataText] at same ⊢ <;> exact same
  | number value =>
      cases right <;> simp [kind] at kinds
      rename_i value'
      obtain ⟨texts, rests⟩ := append_inj_of_class (number_dataText value).1
        (number_dataText value').1 leaves leaves' same
      have valueIn : value ∈ pool := leftIn (by simp [numbers])
      have valueIn' : value' ∈ pool := rightIn (by simp [numbers])
      exact ⟨by rw [apart value valueIn value' valueIn' texts], rests⟩
  | string value =>
      cases right <;> simp [kind] at kinds
      obtain ⟨rfl, rests⟩ := quoted_append_inj same
      exact ⟨rfl, rests⟩
  | array items =>
      cases right <;> simp [kind] at kinds
      rename_i items'
      simp only [dataText, List.cons_append, List.append_assoc, List.cons.injEq, true_and,
        List.nil_append] at same
      obtain ⟨rfl, rests⟩ := itemsText_append_inj apart items items' leftIn rightIn same
      exact ⟨rfl, rests⟩
  | object fields =>
      cases right <;> simp [kind] at kinds
      rename_i fields'
      simp only [dataText, List.cons_append, List.append_assoc, List.cons.injEq, true_and,
        List.nil_append] at same
      obtain ⟨rfl, rests⟩ := fieldsText_append_inj apart fields fields' leftIn rightIn same
      exact ⟨rfl, rests⟩

/-- Items between commas end at the closing bracket. -/
theorem itemsText_append_inj {pool : List Number} (apart : PrintApart pool)
    (left right : List Value) {rest rest' : List Char} (leftIn : itemNumbers left ⊆ pool)
    (rightIn : itemNumbers right ⊆ pool)
    (same : itemsText left ++ ']' :: rest = itemsText right ++ ']' :: rest') :
    left = right ∧ rest = rest' := by
  match left, right with
  | [], [] => simpa [itemsText] using same
  | [], item :: more =>
      rw [itemsText_cons, List.append_assoc] at same
      exact absurd same (append_ne_of_kindAt? (by decide))
  | item :: more, [] =>
      rw [itemsText_cons, List.append_assoc] at same
      exact absurd same.symm (append_ne_of_kindAt? (by decide))
  | item :: more, item' :: more' =>
      rw [itemsText_cons, itemsText_cons, List.append_assoc, List.append_assoc] at same
      simp only [itemNumbers, List.append_subset] at leftIn rightIn
      obtain ⟨rfl, tails⟩ := dataText_append_inj apart item item' leftIn.1 rightIn.1
        (itemsTail_leaves _ _) (itemsTail_leaves _ _) same
      match more, more' with
      | [], [] => simpa [itemsTail] using tails
      | [], next :: _ => simp [itemsTail] at tails
      | next :: _, [] => simp [itemsTail] at tails
      | next :: further, next' :: further' =>
          simp only [itemsTail, List.cons_append, List.cons.injEq, true_and] at tails
          obtain ⟨items, rests⟩ := itemsText_append_inj apart (next :: further) (next' :: further')
            leftIn.2 rightIn.2 tails
          exact ⟨congrArg (item :: ·) items, rests⟩

/-- Fields between commas end at the closing brace. -/
theorem fieldsText_append_inj {pool : List Number} (apart : PrintApart pool)
    (left right : List (String × Value)) {rest rest' : List Char}
    (leftIn : fieldNumbers left ⊆ pool) (rightIn : fieldNumbers right ⊆ pool)
    (same : fieldsText left ++ '}' :: rest = fieldsText right ++ '}' :: rest') :
    left = right ∧ rest = rest' := by
  match left, right with
  | [], [] => simpa [fieldsText] using same
  | [], (name, value) :: more =>
      rw [fieldsText_cons] at same
      simp [fieldsText, quoted] at same
  | (name, value) :: more, [] =>
      rw [fieldsText_cons] at same
      simp [fieldsText, quoted] at same
  | (name, value) :: more, (name', value') :: more' =>
      rw [fieldsText_cons, fieldsText_cons] at same
      simp only [List.append_assoc, List.cons_append] at same
      simp only [fieldNumbers, List.append_subset] at leftIn rightIn
      obtain ⟨rfl, valueTexts⟩ := quoted_append_inj same
      simp only [List.cons.injEq, true_and] at valueTexts
      obtain ⟨rfl, tails⟩ := dataText_append_inj apart value value' leftIn.1 rightIn.1
        (fieldsTail_leaves _ _) (fieldsTail_leaves _ _) valueTexts
      match more, more' with
      | [], [] => simpa [fieldsTail] using tails
      | [], next :: _ => simp [fieldsTail] at tails
      | next :: _, [] => simp [fieldsTail] at tails
      | next :: further, next' :: further' =>
          simp only [fieldsTail, List.cons_append, List.cons.injEq, true_and] at tails
          obtain ⟨fields, rests⟩ := fieldsText_append_inj apart (next :: further)
            (next' :: further') leftIn.2 rightIn.2 tails
          exact ⟨congrArg ((name, value) :: ·) fields, rests⟩
end

end Value
end Herald
