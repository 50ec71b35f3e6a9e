/- Well-formed values.

Not every `Value` is data: an object names a field once, in name order, and a float is a
number of the format. Both hold of everything a program of templates meets. The reader of data
texts gives nothing else (`Value.wellFormed_of_parse?`), since an insertion keeps the order and a
rounded number is in the format. A context built over such data is well-formed, and so are the
contexts of loops in it and all that paths reach there (`Context.WellFormed.resolve`). -/
import Herald.Context
import Herald.Value.Reader
import Herald.Proofs.Number.Rounding
import Herald.Proofs.Value.Path
namespace Herald
set_option autoImplicit false

/-! ## Numbers of the format -/

namespace Binary64

/-- The numbers that the format holds: a count of units is on the grid at its own size, and
below the limit. -/
inductive InFormat : Binary64 → Prop where
  | finite (negative : Bool) {units : Nat} (grid : spacing units ∣ units) (below : units < limit) :
      InFormat (.finite negative units)
  | infinite (negative : Bool) : InFormat (.infinite negative)
  | nan : InFormat .nan

/-- Rounding gives numbers of the format. -/
theorem inFormat_ofRatio (negative : Bool) (numerator denominator : Nat) :
    (ofRatio negative numerator denominator).InFormat := by
  simp only [ofRatio]
  split
  · rename_i below
    exact .finite negative (spacing_nearestUnits_dvd _ _) below
  · exact .infinite negative

theorem inFormat_ofDecimal (negative : Bool) (digits : List Char) (exponent : Int) :
    (ofDecimal negative digits exponent).InFormat := by
  simp only [ofDecimal]
  split
  · exact .finite negative (Nat.dvd_zero _) limit_pos
  · split
    · exact .infinite negative
    · split
      · exact inFormat_ofRatio _ _ _
      · exact inFormat_ofRatio _ _ _
end Binary64

namespace Number

/-- The numbers of data: a float is a number of the format, and an integer is any. -/
inductive InFormat : Number → Prop where
  | int (value : Int) : InFormat (.int value)
  | float {negative : Bool} {units : Nat} (valid : (Binary64.finite negative units).InFormat) :
      InFormat (.float negative units)

theorem inFormat_of_ofBinary64? {value : Binary64} {number : Number} (valid : value.InFormat)
    (read : ofBinary64? value = some number) : number.InFormat := by
  cases value with
  | finite negative units =>
      obtain rfl := Option.some.inj read
      exact .float valid
  | infinite negative => cases read
  | nan => cases read

end Number

namespace Value

theorem inFormat_of_numberOf? {token : List Char} {number : Number}
    (read : numberOf? token = some number) : number.InFormat := by
  have rounded : ∀ {negative : Bool} {digits : List Char} {exponent : Int},
      Number.ofBinary64? (Binary64.ofDecimal negative digits exponent) = some number →
        number.InFormat :=
    fun found => Number.inFormat_of_ofBinary64? (Binary64.inFormat_ofDecimal _ _ _) found
  unfold numberOf? at read
  split at read
  rename_i negative digits _
  extract_lets whole tail at read
  split at read
  · cases read
  · split at read
    · split at read
      · obtain rfl := Option.some.inj read
        exact .int _
      · split at read
        · obtain rfl := Option.some.inj read
          exact .int _
        · exact rounded read
    · split at read
      split at read
      · cases read
      · obtain ⟨exponent, -, found⟩ := Option.bind_eq_some_iff.mp read
        exact rounded found

/-! ## Values -/

/-- The values that data holds. -/
inductive WellFormed : Value → Prop where
  | null : WellFormed .null
  | bool (value : Bool) : WellFormed (.bool value)
  | number {value : Number} (inFormat : value.InFormat) : WellFormed (.number value)
  | string (text : String) : WellFormed (.string text)
  | array {items : List Value} (each : ∀ item ∈ items, WellFormed item) : WellFormed (.array items)
  | object {fields : Dict Value} (ordered : Dict.Ordered fields)
      (each : ∀ field ∈ fields, WellFormed field.2) : WellFormed (.object fields)

namespace WellFormed
variable {value item : Value} {fields : Dict Value}

theorem int (value : Int) : WellFormed (.int value) := .number (.int value)

theorem ofChars (text : List Char) : WellFormed (.ofChars text) := .string _

theorem emptyObject : WellFormed (.object []) := .object Dict.ordered_nil (by simp)

theorem each (held : WellFormed (.object fields)) : ∀ field ∈ fields, WellFormed field.2 := by
  cases held with
  | object ordered each => exact each

theorem insert (held : WellFormed (.object fields)) (name : String) (added : WellFormed item) :
    WellFormed (.object (Dict.insert name item fields)) := by
  cases held with
  | object ordered each =>
      refine .object (Dict.ordered_insert ordered) ?_
      intro field inside
      rcases Dict.mem_insert inside with rfl | old
      · exact added
      · exact each field old

/-- So does any number of insertions. -/
theorem foldl_insert (held : WellFormed (.object fields)) {listed : List (String × Value)}
    (added : ∀ field ∈ listed, WellFormed field.2) :
    WellFormed (.object (listed.foldl (fun built field => Dict.insert field.1 field.2 built) fields)) := by
  induction listed generalizing fields with
  | nil => exact held
  | cons first rest ih =>
      obtain ⟨firstAdded, others⟩ := List.forall_mem_cons.mp added
      exact ih (held.insert first.1 firstAdded) others

/-- One segment further in there is again a well-formed value. -/
theorem child (held : WellFormed value) {segment : List Char} (found : child? segment value = some item) :
    WellFormed item := by
  cases held with
  | object ordered each => exact each _ (Dict.mem_of_find? found)
  | array each =>
      obtain ⟨index, -, here⟩ := Option.bind_eq_some_iff.mp found
      exact each item (List.mem_of_getElem? here)
  | null => cases found
  | bool => cases found
  | number => cases found
  | string => cases found

theorem descend (held : WellFormed value) {segments : List (List Char)}
    (found : value.descend? segments = some item) : WellFormed item := by
  induction segments generalizing value with
  | nil =>
      obtain rfl := Option.some.inj found
      exact held
  | cons segment segments ih =>
      rw [descend?_cons] at found
      obtain ⟨inner, step, further⟩ := Option.bind_eq_some_iff.mp found
      exact ih (held.child step) further

end WellFormed

/-! ## The reader -/

section Readers
variable {fuel : Nat} {text rest : List Char} {value : Value}

/-- What the readers give with so many steps is well-formed, provided the items and the fields
read so far are. -/
structure ReadsWell (fuel : Nat) : Prop where
  value : ∀ {text rest value}, readValue? fuel text = some (value, rest) → value.WellFormed
  items : ∀ {done text rest value}, (∀ item ∈ done, WellFormed item) →
    readItems? fuel done text = some (value, rest) → value.WellFormed
  fields : ∀ {done text rest value}, WellFormed (.object done) →
    readFields? fuel done text = some (value, rest) → value.WellFormed

theorem wellFormed_of_readValue? (deeper : ReadsWell fuel)
    (found : readValue? (fuel + 1) text = some (value, rest)) : value.WellFormed := by
  unfold readValue? at found
  split at found
  · cases found
  · split at found
    · obtain ⟨⟨inside, after⟩, -, same⟩ := Option.map_eq_some_iff.mp found
      cases same
      exact .ofChars inside
    · split at found
      · split at found
        · cases found
          exact .array (by simp)
        · exact deeper.items (by simp) found
      · split at found
        · split at found
          · cases found
            exact .emptyObject
          · exact deeper.fields .emptyObject found
        · split at found
          · obtain ⟨number, read, same⟩ := Option.map_eq_some_iff.mp found
            cases same
            exact .number (inFormat_of_numberOf? read)
          · split at found
            · cases found
              exact .null
            · split at found
              · cases found
                exact .bool true
              · split at found
                · cases found
                  exact .bool false
                · cases found

theorem wellFormed_of_readItems? (deeper : ReadsWell fuel) {done : List Value}
    (held : ∀ item ∈ done, WellFormed item)
    (found : readItems? (fuel + 1) done text = some (value, rest)) : value.WellFormed := by
  unfold readItems? at found
  split at found
  · cases found
  · rename_i item after read
    have all : ∀ other ∈ item :: done, WellFormed other :=
      List.forall_mem_cons.mpr ⟨deeper.value read, held⟩
    split at found
    · exact deeper.items all found
    · cases found
      exact .array fun other inside => all other (List.mem_reverse.mp inside)
    · cases found

theorem wellFormed_of_readFields? (deeper : ReadsWell fuel) {done : List (String × Value)}
    (held : WellFormed (.object done))
    (found : readFields? (fuel + 1) done text = some (value, rest)) : value.WellFormed := by
  unfold readFields? at found
  split at found
  · split at found
    · cases found
    · rename_i name _ _
      split at found
      · split at found
        · cases found
        · rename_i read
          have all := held.insert (String.ofList name) (deeper.value read)
          extract_lets fields at found
          split at found
          · exact deeper.fields all found
          · cases found
            exact all
          · cases found
      · cases found
  · cases found

theorem readsWell (fuel : Nat) : ReadsWell fuel := by
  induction fuel with
  | zero =>
      refine ⟨fun found => ?_, fun _ found => ?_, fun _ found => ?_⟩
      · simp [readValue?] at found
      · simp [readItems?] at found
      · simp [readFields?] at found
  | succ fuel deeper =>
      exact ⟨wellFormed_of_readValue? deeper, wellFormed_of_readItems? deeper,
        wellFormed_of_readFields? deeper⟩

end Readers

/-- **Every value read from a data text is well-formed.** -/
theorem wellFormed_of_parse? {text : String} {value : Value} (read : parse? text = some value) :
    value.WellFormed := by
  simp only [parse?] at read
  split at read
  · rename_i found
    split at read
    · obtain rfl := Option.some.inj read
      exact (readsWell _).value found
    · cases read
  · cases read

end Value

/-! ## Contexts -/

/-- The data of a context are well-formed. -/
def Context.WellFormed (context : Context) : Prop := (Value.object context.data).WellFormed

namespace Context

theorem wellFormed_systemFields (zone : Zone) (now : Moment) :
    (Value.object (systemFields zone now)).WellFormed :=
  Value.WellFormed.emptyObject.foldl_insert fun field inside => by
    simp only [List.mem_cons, List.not_mem_nil, or_false] at inside
    rcases inside with rfl | rfl | rfl | rfl | rfl | rfl
    · exact .ofChars _
    · exact .ofChars _
    · exact .int _
    · exact .int _
    · exact .int _
    · exact .int _

theorem wellFormed_callerFields {data : Value} (held : data.WellFormed) {fields : Dict Value}
    (given : callerFields data = .ok fields) : (Value.object fields).WellFormed := by
  cases data with
  | object own =>
      cases given
      exact held
  | null =>
      cases given
      exact .emptyObject
  | _ => cases given

/-- A context over well-formed data is well-formed. -/
theorem wellFormed_build {data : Value} (held : data.WellFormed) {locale zone : String} {now : Moment}
    {context : Context} (built : build data locale zone now = .ok context) : context.WellFormed := by
  simp only [build] at built
  cases given : callerFields data with
  | error refusal =>
      rw [given] at built
      cases built
  | ok fields =>
      rw [given] at built
      simp only [bind, Except.bind] at built
      split at built
      · cases built
      · split at built
        · cases built
        · cases built
          have own := wellFormed_callerFields held given
          exact (wellFormed_systemFields _ now).foldl_insert own.each

/-- So is the context of a turn of a loop over a well-formed item. -/
theorem WellFormed.inLoop {context : Context} (held : context.WellFormed) {item : Value}
    (itemHeld : item.WellFormed) (index count : Nat) : (context.inLoop item index count).WellFormed :=
  (((Value.WellFormed.insert held "this" itemHeld).insert "index" (.int _)).insert "first" (.bool _)).insert
    "last" (.bool _)

/-- What a path reaches in a well-formed context is well-formed. -/
theorem WellFormed.resolve {context : Context} (held : context.WellFormed) {path : List Char}
    {value : Value} (found : context.resolve? path = some value) : value.WellFormed := by
  simp only [resolve?] at found
  split at found
  · cases found
  · exact Value.WellFormed.descend held found

end Context
end Herald
