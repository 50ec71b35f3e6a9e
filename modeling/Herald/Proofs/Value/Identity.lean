/- What identity of values compares.

Data match when they are of one kind and have one content: lists item by item, objects name by
name, and numbers as some relation of numbers says (`Value.Matches`). Read by the letter that
relation is to denote one and the same number, whatever the form (`Number.SameSize`).

Identity asks for something else, and not for the same at every depth (`Value.Identical`): two
numbers are compared by their binary64 views, and the numbers inside of lists and objects by
size and form. So a number can be identical to another one that rounding takes to the same
place, but never differs from one of its own size; and a list can differ from another one of
the same sizes, but is never identical to a list of others. Where views are exact and forms do
not mix, identity is the matching of sizes (`Value.identical_iff_matches`). -/
import Herald.Proofs.Value.Comparison
import Herald.Proofs.Value.DataText
import Herald.Proofs.Value.WellFormed
import Mathlib.Data.List.Forall2
import Mathlib.Data.Option.Defs
namespace Herald
set_option autoImplicit false

/-! ## Numbers -/

namespace Number

/-- The place of a number on the line of units. -/
def place : Number → Int
  | .int value => value * Binary64.one
  | .float negative units => Binary64.signed negative units

def isInteger : Number → Bool
  | .int _ => true
  | .float _ _ => false

/-- To denote the same number. -/
def SameSize (left right : Number) : Prop := left.place = right.place

/-- To denote the same number in the same form. -/
def SameForm (left right : Number) : Prop := left.isInteger = right.isInteger ∧ left.SameSize right

theorem sameSize_int {left right : Int} : SameSize (.int left) (.int right) ↔ left = right := by
  have apart : (Binary64.one : Int) ≠ 0 := Int.natCast_ne_zero.mpr (Nat.ne_of_gt Binary64.one_pos)
  simp only [SameSize, place]
  exact Int.mul_eq_mul_right_iff apart

theorem same_iff {left right : Number} : left.same right = true ↔ left.SameForm right := by
  cases left with
  | int l =>
      cases right with
      | int r => simp [same, SameForm, isInteger, sameSize_int]
      | float _ _ => simp [same, SameForm, isInteger]
  | float _ _ =>
      cases right with
      | int _ => simp [same, SameForm, isInteger]
      | float _ _ => simp [same, SameForm, isInteger, SameSize, place]

/-! ### Exact views -/

/-- The binary64 view of the number is where the number is. -/
def Exact (value : Number) : Prop := value.toBinary64.position = some value.place

theorem natAbs_signed (negative : Bool) (units : Nat) : (Binary64.signed negative units).natAbs = units := by
  cases negative with
  | false => exact Int.natAbs_natCast units
  | true => exact (Int.natAbs_neg _).trans (Int.natAbs_natCast units)

theorem signed_natAbs (value : Int) (step : Nat) :
    Binary64.signed (decide (value < 0)) (value.natAbs * step) = value * step := by
  unfold Binary64.signed
  by_cases negative : value < 0
  · have size : (value.natAbs : Int) = -value := by omega
    rw [decide_eq_true negative, if_pos rfl, Int.natCast_mul, size, Int.neg_mul, Int.neg_neg]
  · have size : (value.natAbs : Int) = value := by omega
    rw [decide_eq_false negative, if_neg Bool.false_ne_true, Int.natCast_mul, size]

/-- An integer that is of the size of a float has an exact view. -/
theorem exact_int_of_float {value : Int} {negative : Bool} {units : Nat}
    (valid : InFormat (.float negative units)) (same : SameSize (.int value) (.float negative units)) :
    Exact (.int value) := by
  obtain ⟨grid, below⟩ : Binary64.spacing units ∣ units ∧ units < Binary64.limit := by
    cases valid with
    | float held =>
        cases held with
        | finite _ grid below => exact ⟨grid, below⟩
  have size : value.natAbs * Binary64.one = units := by
    have sizes := congrArg Int.natAbs same
    rwa [place, place, natAbs_signed, Int.natAbs_mul, Int.natAbs_natCast] at sizes
  rw [← size] at grid below
  simp only [Exact, toBinary64, Binary64.ofInt_of_dvd grid below]
  exact congrArg some (signed_natAbs value _)

/-- Numbers of one size have one view. -/
theorem position_eq_of_sameSize {left right : Number} (leftValid : left.InFormat)
    (rightValid : right.InFormat) (same : left.SameSize right) :
    left.toBinary64.position = right.toBinary64.position := by
  cases left with
  | int l =>
      cases right with
      | int r => rw [sameSize_int.mp same]
      | float negative units =>
          exact (exact_int_of_float rightValid same).trans (congrArg some same)
  | float negative units =>
      cases right with
      | int r =>
          exact (congrArg some same).trans (exact_int_of_float leftValid same.symm).symm
      | float _ _ => exact congrArg some same

theorem position_eq_iff {left right : Number} (leftExact : left.Exact) (rightExact : right.Exact) :
    left.toBinary64.position = right.toBinary64.position ↔ left.SameSize right := by
  rw [leftExact, rightExact, Option.some.injEq]
  rfl

end Number

/-! ## Matching -/

namespace Dict
variable {α : Type} {related : α → α → Prop} {name name' : String} {value value' : α} {left right : Dict α}

theorem find?_cons_self : find? name ((name, value) :: left) = some value := if_pos rfl

theorem find?_cons_of_ne {key : String} (other : name ≠ key) :
    find? key ((name, value) :: left) = find? key left := if_neg other

/-- The first name of an ordered dictionary is not among the rest. -/
theorem find?_of_ordered_cons (ordered : Ordered ((name, value) :: left)) : find? name left = none := by
  refine Option.eq_none_iff_forall_ne_some.mpr fun held found => ?_
  exact String.lt_irrefl name ((List.pairwise_cons.mp ordered).1 _ (mem_of_find? found))

/-- Nor is any name before it. -/
theorem le_of_find? {key : String} {held : α} (ordered : Ordered ((name, value) :: left))
    (found : find? key ((name, value) :: left) = some held) : name ≤ key := by
  rcases List.mem_cons.mp (mem_of_find? found) with same | later
  · cases same
    exact String.le_refl _
  · exact Std.le_of_lt ((List.pairwise_cons.mp ordered).1 _ later)

/-- Two dictionaries are in a relation name by name if and only if their first entries are, and
so are the rest: in name order there is one place for a name. -/
theorem forall_rel_cons (leftOrdered : Ordered ((name, value) :: left))
    (rightOrdered : Ordered ((name', value') :: right)) :
    (∀ key, Option.Rel related (find? key ((name, value) :: left)) (find? key ((name', value') :: right))) ↔
      name = name' ∧ related value value' ∧
        ∀ key, Option.Rel related (find? key left) (find? key right) := by
  constructor
  · intro each
    have above : name' ≤ name := by
      have here := each name
      rw [find?_cons_self] at here
      generalize found : find? name ((name', value') :: right) = held at here
      cases here with
      | some _ => exact le_of_find? rightOrdered found
    have below : name ≤ name' := by
      have here := each name'
      rw [find?_cons_self] at here
      generalize found : find? name' ((name, value) :: left) = held at here
      cases here with
      | some _ => exact le_of_find? leftOrdered found
    obtain rfl : name = name' := String.le_antisymm below above
    refine ⟨rfl, ?_, fun key => ?_⟩
    · have here := each name
      rw [find?_cons_self, find?_cons_self] at here
      cases here with
      | some firsts => exact firsts
    · by_cases here : name = key
      · rw [← here, find?_of_ordered_cons leftOrdered, find?_of_ordered_cons rightOrdered]
        exact .none
      · have later := each key
        rwa [find?_cons_of_ne here, find?_cons_of_ne here] at later
  · rintro ⟨rfl, firsts, rests⟩ key
    by_cases here : name = key
    · rw [← here, find?_cons_self, find?_cons_self]
      exact .some firsts
    · rw [find?_cons_of_ne here, find?_cons_of_ne here]
      exact rests key

end Dict

namespace Value

/-- One kind and one content, at every depth, with numbers compared by a relation of their own. -/
inductive Matches (alike : Number → Number → Prop) : Value → Value → Prop where
  | null : Matches alike .null .null
  | bool (value : Bool) : Matches alike (.bool value) (.bool value)
  | number {left right : Number} (related : alike left right) :
      Matches alike (.number left) (.number right)
  | string (text : String) : Matches alike (.string text) (.string text)
  | array {left right : List Value} (items : List.Forall₂ (Matches alike) left right) :
      Matches alike (.array left) (.array right)
  | object {left right : Dict Value}
      (fields : ∀ name, Option.Rel (Matches alike) (Dict.find? name left) (Dict.find? name right)) :
      Matches alike (.object left) (.object right)

section Wider
variable {alike alike' : Number → Number → Prop}

theorem numbers_subset_of_find? {fields : Dict Value} {name : String} {value : Value}
    (found : Dict.find? name fields = some value) : value.numbers ⊆ fieldNumbers fields := by
  induction fields with
  | nil => cases found
  | cons field rest ih =>
      obtain ⟨key, held⟩ := field
      rw [fieldNumbers]
      by_cases here : key = name
      · rw [Dict.find?, if_pos here] at found
        obtain rfl := Option.some.inj found
        exact List.subset_append_left _ _
      · rw [Dict.find?, if_neg here] at found
        exact List.subset_append_of_subset_right _ (ih found)

mutual
/-- Values that match by one relation match by another one that is as wide on their numbers. -/
theorem Matches.mono (left right : Value)
    (wider : ∀ m ∈ left.numbers, ∀ n ∈ right.numbers, alike m n → alike' m n)
    (matched : left.Matches alike right) : left.Matches alike' right := by
  cases left with
  | null =>
      cases matched
      exact .null
  | bool value =>
      cases matched
      exact .bool value
  | number value =>
      cases matched with
      | number related => exact .number (wider _ (by simp [numbers]) _ (by simp [numbers]) related)
  | string text =>
      cases matched
      exact .string text
  | array items =>
      cases matched with
      | array each => exact .array (Matches.mono_items items _ wider each)
  | object fields =>
      cases matched with
      | @object _ others each =>
          refine .object fun name => ?_
          have here := each name
          generalize found : Dict.find? name fields = held at here
          generalize found' : Dict.find? name others = held' at here
          cases here with
          | none => exact .none
          | some inside =>
              have known := numbers_subset_of_find? found'
              exact .some (Matches.mono_found fields found _
                (fun m first n second => wider m first n (known second)) inside)

theorem Matches.mono_items (left right : List Value)
    (wider : ∀ m ∈ itemNumbers left, ∀ n ∈ itemNumbers right, alike m n → alike' m n)
    (matched : List.Forall₂ (Matches alike) left right) : List.Forall₂ (Matches alike') left right := by
  match left, right, matched with
  | [], [], _ => exact .nil
  | item :: rest, item' :: rest', .cons first others =>
      simp only [itemNumbers, List.mem_append] at wider
      exact .cons (Matches.mono item item' (fun m inside n inside' => wider m (.inl inside) n (.inl inside')) first)
        (Matches.mono_items rest rest' (fun m inside n inside' => wider m (.inr inside) n (.inr inside')) others)

theorem Matches.mono_found (fields : List (String × Value)) {name : String} {value : Value}
    (found : Dict.find? name fields = some value) (other : Value)
    (wider : ∀ m ∈ fieldNumbers fields, ∀ n ∈ other.numbers, alike m n → alike' m n)
    (matched : value.Matches alike other) : value.Matches alike' other := by
  match fields with
  | [] => cases found
  | (key, held) :: rest =>
      simp only [fieldNumbers, List.mem_append] at wider
      by_cases here : key = name
      · rw [Dict.find?, if_pos here] at found
        rw [← Option.some.inj found] at matched ⊢
        exact Matches.mono held other (fun m inside => wider m (.inl inside)) matched
      · rw [Dict.find?, if_neg here] at found
        exact Matches.mono_found rest found other (fun m inside => wider m (.inr inside)) matched
end

end Wider

/-! ## Identity -/

mutual
/-- Inside of lists and objects, identity is to match in size and form. -/
theorem same_iff (left right : Value) (leftHeld : left.WellFormed) (rightHeld : right.WellFormed) :
    left.same right = true ↔ left.Matches Number.SameForm right := by
  cases left with
  | null =>
      cases right with
      | null => exact ⟨fun _ => .null, fun _ => rfl⟩
      | _ => exact iff_of_false nofun nofun
  | bool value =>
      cases right with
      | bool other =>
          refine beq_iff_eq.trans ⟨?_, fun matched => by cases matched; rfl⟩
          rintro rfl
          exact .bool value
      | _ => exact iff_of_false nofun nofun
  | number value =>
      cases right with
      | number other =>
          refine Number.same_iff.trans ⟨.number, ?_⟩
          rintro ⟨⟩
          assumption
      | _ => exact iff_of_false nofun nofun
  | string text =>
      cases right with
      | string other =>
          refine beq_iff_eq.trans ⟨?_, fun matched => by cases matched; rfl⟩
          rintro rfl
          exact .string text
      | _ => exact iff_of_false nofun nofun
  | array items =>
      cases right with
      | array others =>
          cases leftHeld with
          | array held =>
              cases rightHeld with
              | array held' =>
                  refine (sameItems_iff items others held held').trans ⟨.array, ?_⟩
                  rintro ⟨⟩
                  assumption
      | _ => exact iff_of_false nofun nofun
  | object fields =>
      cases right with
      | object others =>
          cases leftHeld with
          | object ordered held =>
              cases rightHeld with
              | object ordered' held' =>
                  refine (sameFields_iff fields others ordered ordered' held held').trans ⟨.object, ?_⟩
                  rintro ⟨⟩
                  assumption
      | _ => exact iff_of_false nofun nofun

theorem sameItems_iff (left right : List Value) (leftHeld : ∀ item ∈ left, item.WellFormed)
    (rightHeld : ∀ item ∈ right, item.WellFormed) :
    sameItems left right = true ↔ List.Forall₂ (Matches Number.SameForm) left right := by
  match left, right with
  | [], [] => exact ⟨fun _ => .nil, fun _ => rfl⟩
  | [], _ :: _ => exact iff_of_false nofun nofun
  | _ :: _, [] => exact iff_of_false nofun nofun
  | item :: rest, item' :: rest' =>
      obtain ⟨first, others⟩ := List.forall_mem_cons.mp leftHeld
      obtain ⟨first', others'⟩ := List.forall_mem_cons.mp rightHeld
      rw [sameItems, Bool.and_eq_true, same_iff item item' first first',
        sameItems_iff rest rest' others others', List.forall₂_cons]

theorem sameFields_iff (left right : List (String × Value)) (leftOrdered : Dict.Ordered left)
    (rightOrdered : Dict.Ordered right) (leftHeld : ∀ field ∈ left, field.2.WellFormed)
    (rightHeld : ∀ field ∈ right, field.2.WellFormed) :
    sameFields left right = true ↔
      ∀ name, Option.Rel (Matches Number.SameForm) (Dict.find? name left) (Dict.find? name right) := by
  match left, right with
  | [], [] => exact ⟨fun _ _ => .none, fun _ => rfl⟩
  | [], (name, value) :: _ =>
      refine ⟨nofun, fun matched => ?_⟩
      have here := matched name
      rw [Dict.find?_cons_self] at here
      cases here
  | (name, value) :: _, [] =>
      refine ⟨nofun, fun matched => ?_⟩
      have here := matched name
      rw [Dict.find?_cons_self] at here
      cases here
  | (name, value) :: rest, (name', value') :: rest' =>
      obtain ⟨first, others⟩ := List.forall_mem_cons.mp leftHeld
      obtain ⟨first', others'⟩ := List.forall_mem_cons.mp rightHeld
      rw [sameFields, Bool.and_eq_true, Bool.and_eq_true, beq_iff_eq, same_iff value value' first first',
        sameFields_iff rest rest' (List.pairwise_cons.mp leftOrdered).2 (List.pairwise_cons.mp rightOrdered).2
          others others', Dict.forall_rel_cons leftOrdered rightOrdered, and_assoc]
end

/-- What identity compares: two numbers by their binary64 views, and all other values by kind
and content, with the numbers inside of them compared by size and form. -/
def Identical : Value → Value → Prop
  | .number left, .number right => left.toBinary64.position = right.toBinary64.position
  | left, right => left.Matches Number.SameForm right

/-- **Identity of values**, as it is decided. -/
theorem identical_iff {left right : Value} (leftHeld : left.WellFormed) (rightHeld : right.WellFormed) :
    identical (some left) (some right) = true ↔ left.Identical right := by
  cases left with
  | number value =>
      cases right with
      | number other => exact Binary64.same_iff.trans (and_iff_right value.isSome_position)
      | _ => exact same_iff _ _ leftHeld rightHeld
  | _ => exact same_iff _ _ leftHeld rightHeld

/-- Two values whose numbers identity does not confuse: two numbers with exact views, or values
whose numbers are all of one form. -/
def Comparable : Value → Value → Prop
  | .number left, .number right => left.Exact ∧ right.Exact
  | left, right => ∀ m ∈ left.numbers, ∀ n ∈ right.numbers, m.isInteger = n.isInteger

theorem matches_sameForm_iff {left right : Value}
    (uniform : ∀ m ∈ left.numbers, ∀ n ∈ right.numbers, m.isInteger = n.isInteger) :
    left.Matches Number.SameForm right ↔ left.Matches Number.SameSize right :=
  ⟨Matches.mono _ _ fun _ _ _ _ same => same.2,
    Matches.mono _ _ fun m inside n inside' same => ⟨uniform m inside n inside', same⟩⟩

theorem matches_number_iff {alike : Number → Number → Prop} {left right : Number} :
    (Value.number left).Matches alike (.number right) ↔ alike left right :=
  ⟨fun matched => by cases matched; assumption, .number⟩

/-- Between such values identity is to match in size. -/
theorem identical_iff_matches {left right : Value} (comparable : left.Comparable right) :
    left.Identical right ↔ left.Matches Number.SameSize right := by
  cases left with
  | number value =>
      cases right with
      | number other =>
          exact (Number.position_eq_iff comparable.1 comparable.2).trans matches_number_iff.symm
      | _ => exact matches_sameForm_iff comparable
  | _ => exact matches_sameForm_iff comparable

/-- No number differs from one of its own size. -/
theorem identical_of_matches {left right : Value} (leftHeld : left.WellFormed)
    (rightHeld : right.WellFormed) (isNumber : left.kind = "number")
    (matched : left.Matches Number.SameSize right) : left.Identical right := by
  cases matched with
  | number same =>
      cases leftHeld with
      | number leftValid =>
          cases rightHeld with
          | number rightValid => exact Number.position_eq_of_sameSize leftValid rightValid same
  | _ => exact absurd isNumber (by simp [kind])

/-- No other value is identical to one of other sizes. -/
theorem matches_of_identical {left right : Value} (otherKind : left.kind ≠ "number")
    (identical : left.Identical right) : left.Matches Number.SameSize right := by
  have inForm : left.Matches Number.SameForm right := by
    cases left with
    | number value => exact absurd rfl otherKind
    | _ => exact identical
  exact Matches.mono _ _ (fun _ _ _ _ same => same.2) inForm

end Value
end Herald
