/- Reading typed records from values.

A record is written as an object, whose fields go by their names, or as an array, whose items
go by their places: the first item is the first field that the record declares, and so on. An
array may leave off fields at its end, as far as they have defaults, and holds no more items
than there are fields. Unknown fields of an object are passed over.

A required field has to be there; an optional one may be missing or null; a field with a
default may be missing but not null; and a change tells a missing field, which keeps what
there was, from null, which clears it. A field of the wrong kind makes the record unreadable. -/
import Herald.Value.Basic
namespace Herald
set_option autoImplicit false

/-- A change to an optional field. -/
inductive Change (α : Type) where
  | keep
  | clear
  | set (value : α)
  deriving DecidableEq, Repr

/-- The field after a change. -/
def Change.apply {α : Type} (change : Change α) (held : Option α) : Option α :=
  match change with
  | .keep => held
  | .clear => none
  | .set value => some value

namespace Value

/-- The fields of an object. -/
def fields? : Value → Option (Dict Value)
  | .object fields => some fields
  | _ => none

/-- The content of a string. -/
def string? : Value → Option String
  | .string value => some value
  | _ => none

/-- The content of a boolean. -/
def bool? : Value → Option Bool
  | .bool value => some value
  | _ => none

/-- An integer from zero on. -/
def natural? : Value → Option Nat
  | .number (.int value) => if 0 ≤ value then some value.toNat else none
  | _ => none

end Value

namespace Record
variable {α : Type}

/-- The fields of a record that declares the given names in this order and, written as an
array, has at least `least` items. -/
def fieldsOf? (names : List String) (least : Nat) : Value → Option (Dict Value)
  | .object fields => some fields
  | .array items =>
    if least ≤ items.length && items.length ≤ names.length then some (Dict.ofList (names.zip items))
    else none
  | _ => none

/-- A field that has to be there. -/
def required (read : Value → Option α) (name : String) (fields : Dict Value) : Option α :=
  (Dict.find? name fields).bind read

/-- A field that may be missing or null. -/
def optional (read : Value → Option α) (name : String) (fields : Dict Value) : Option (Option α) :=
  match Dict.find? name fields with
  | none => some none
  | some .null => some none
  | some value => (read value).map some

/-- A field that may be missing. -/
def withDefault (read : Value → Option α) (name : String) (default : α) (fields : Dict Value) : Option α :=
  match Dict.find? name fields with
  | none => some default
  | some value => read value

/-- A change to a field. -/
def change (read : Value → Option α) (name : String) (fields : Dict Value) : Option (Change α) :=
  match Dict.find? name fields with
  | none => some .keep
  | some .null => some .clear
  | some value => (read value).map .set

end Record
end Herald
