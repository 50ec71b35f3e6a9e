/- Paths through values.

A path is followed one segment at a time (`Value.descend?_cons`). What it leads to is told by the
relation `Value.Leads`: into an object by the name of a field, into an array by a position, and
nowhere else (`Value.descend?_eq_some_iff`). A dotted path is cut at its dots
(`Context.segments_append_dot`), and blanks around it do not count (`Context.segments_trim`), so
what a path with more segments behind it leads to is what these lead to from the value of the path
(`Context.resolve?_append_dot`). -/
import Herald.Context
import Herald.Proofs.Text.Trim
import Herald.Proofs.Text.Words
namespace Herald
set_option autoImplicit false

/-! ## Segments -/

namespace Value
variable {value target : Value} {segments : List (List Char)}

theorem descendFrom_none (segments : List (List Char)) :
    segments.foldl (fun found segment => found.bind (child? segment)) none = none := by
  induction segments with
  | nil => rfl
  | cons segment segments ih => exact ih

@[simp] theorem descend?_nil (value : Value) : value.descend? [] = some value := rfl

theorem descend?_cons (value : Value) (segment : List Char) (rest : List (List Char)) :
    value.descend? (segment :: rest) = (child? segment value).bind (descend? · rest) := by
  simp only [descend?, List.foldl_cons, Option.bind_some]
  cases child? segment value with
  | none => exact descendFrom_none rest
  | some inner => rfl

theorem descend?_append (value : Value) (first second : List (List Char)) :
    value.descend? (first ++ second) = (value.descend? first).bind (descend? · second) := by
  induction first generalizing value with
  | nil => rfl
  | cons segment rest ih =>
      rw [List.cons_append, descend?_cons, descend?_cons]
      cases child? segment value with
      | none => rfl
      | some inner => exact ih inner

/-- Segments lead from one value to another: no segment stays, the name of a field of an object
leads into it, and the position of an item of an array leads into that. -/
inductive Leads : Value → List (List Char) → Value → Prop
  | here (value : Value) : Leads value [] value
  | field {fields : Dict Value} {name : List Char} {inner target : Value} {rest : List (List Char)}
      (found : Dict.find? (String.ofList name) fields = some inner)
      (further : Leads inner rest target) : Leads (.object fields) (name :: rest) target
  | item {items : List Value} {position : List Char} {index : Nat} {inner target : Value}
      {rest : List (List Char)} (read : readNat? position = some index)
      (listed : items[index]? = some inner) (further : Leads inner rest target) :
      Leads (.array items) (position :: rest) target

/-- **Following segments gives what they lead to**, and nothing where one is missing. -/
theorem descend?_eq_some_iff : value.descend? segments = some target ↔ value.Leads segments target := by
  induction segments generalizing value with
  | nil =>
      constructor
      · intro found
        obtain rfl := Option.some.inj found
        exact .here _
      · rintro ⟨⟩
        rfl
  | cons segment rest ih =>
      rw [descend?_cons, Option.bind_eq_some_iff]
      constructor
      · rintro ⟨inner, step, found⟩
        have further := ih.mp found
        cases value with
        | object fields => exact .field step further
        | array items =>
            obtain ⟨index, read, listed⟩ := Option.bind_eq_some_iff.mp step
            exact .item read listed further
        | null => cases step
        | bool => cases step
        | number => cases step
        | string => cases step
      · intro leads
        cases leads with
        | field found further => exact ⟨_, found, ih.mpr further⟩
        | item read listed further =>
            exact ⟨_, Option.bind_eq_some_iff.mpr ⟨_, read, listed⟩, ih.mpr further⟩

end Value

/-! ## Dotted paths -/

namespace Context

theorem segments_append_dot (first rest : List Char) :
    segments (first ++ '.' :: rest) = segments first ++ segments rest := by
  rw [segments, Text.cutAt_append_cons rfl, List.map_append]
  rfl

theorem segments_of_noDot {text : List Char} (absent : '.' ∉ text) : segments text = [Text.trim text] := by
  have kept : ∀ c ∈ text, (c == '.') = false := by
    intro c inside
    simpa using ne_of_mem_of_not_mem inside absent
  rw [segments, Text.cutAt_of_forall kept]
  rfl

/-- Blanks belong to the segment beside them, so trimming goes no further than to a dot. -/
theorem segments_trimStart (text : List Char) : segments (Text.trimStart text) = segments text := by
  have trimmed : ∀ {piece : List Char}, '.' ∉ piece →
      segments (Text.trimStart piece) = segments piece := by
    intro piece absent
    have stillAbsent : '.' ∉ Text.trimStart piece :=
      fun inside => absent ((List.dropWhile_sublist _).subset inside)
    rw [segments_of_noDot stillAbsent, segments_of_noDot absent, Text.trim_trimStart]
  by_cases dotted : '.' ∈ text
  · obtain ⟨piece, rest, rfl, absent⟩ := List.eq_append_cons_of_mem dotted
    rw [Text.trimStart_append_cons (by decide), segments_append_dot, segments_append_dot,
      trimmed absent]
  · exact trimmed dotted

theorem segments_trimEnd (text : List Char) : segments (Text.trimEnd text) = segments text := by
  by_cases dotted : '.' ∈ text
  · obtain ⟨piece, rest, rfl, -⟩ := List.eq_append_cons_of_mem dotted
    have visible := Text.trimEnd_cons_of_visible (c := '.') (by decide) rest
    rw [Text.trimEnd_append (by simp [visible]), visible, segments_append_dot, segments_append_dot,
      segments_trimEnd rest]
  · have stillAbsent : '.' ∉ Text.trimEnd text := by
      intro inside
      have reversed := (List.dropWhile_sublist _).subset (List.mem_reverse.mp inside)
      exact dotted (List.mem_reverse.mp reversed)
    rw [segments_of_noDot stillAbsent, segments_of_noDot dotted, Text.trim_trimEnd]
termination_by text.length
decreasing_by
  subst_vars
  simp only [List.length_append, List.length_cons]
  omega

/-- Blanks around a path do not count. -/
theorem segments_trim (path : List Char) : segments (Text.trim path) = segments path := by
  rw [Text.trim, segments_trimEnd, segments_trimStart]

variable {context other : Context} {path : List Char} {value : Value}

theorem resolve?_eq (context : Context) (path : List Char) :
    context.resolve? path =
      if (Text.trim path).isEmpty then none else (Value.object context.data).descend? (segments path) := by
  simp only [resolve?, segments_trim]

/-- **A path with segments behind it leads on from the value of the path.** -/
theorem resolve?_append_dot (found : context.resolve? path = some value) (further : List Char) :
    context.resolve? (path ++ '.' :: further) = value.descend? (segments further) := by
  rw [resolve?_eq] at found
  split at found
  · cases found
  · have something : (Text.trim (path ++ '.' :: further)).isEmpty = false := by
      have dot : '.' ∈ Text.trim (path ++ '.' :: further) := Text.mem_trim (by simp) (by decide)
      simpa using List.ne_nil_of_mem dot
    rw [resolve?_eq, something, segments_append_dot, Value.descend?_append, found]
    rfl

end Context
end Herald
