/- Functions and formatters by name.

A function takes argument values and the context and gives a value; a formatter also takes
the value it changes. Either may read and change a state of the program around the renderer,
of any type. Functions and formatters are looked up by name; registering a name again
replaces what it stood for.

A partial tool may leave a use of it without an answer, which is not the answer null: the
program then gives up the render at hand (`PartialRenderer.attempt`). A toolbox of partial tools
is completed with null in the place of the answers that are missing. -/
import Herald.Context
namespace Herald
set_option autoImplicit false

/-- A function of templates over a surrounding state. -/
abbrev Function (State : Type) := List Value → Context → State → Value × State

/-- A formatter of templates over a surrounding state. -/
abbrev Formatter (State : Type) := Value → List Value → Context → State → Value × State

/-- The functions and formatters that templates can use. -/
structure Toolbox (State : Type) where
  functions : Dict (Function State)
  formatters : Dict (Formatter State)

/-- A function that may have no answer. -/
abbrev PartialFunction (State : Type) := List Value → Context → State → Option Value × State

/-- A formatter that may have no answer. -/
abbrev PartialFormatter (State : Type) := Value → List Value → Context → State → Option Value × State

/-- Functions and formatters that may have no answer. -/
structure PartialToolbox (State : Type) where
  functions : Dict (PartialFunction State)
  formatters : Dict (PartialFormatter State)

namespace Toolbox
variable {State : Type}

/-- A function that leaves the surrounding state alone. -/
def pureFunction (apply : List Value → Context → Value) : Function State :=
  fun arguments context state => (apply arguments context, state)

/-- A formatter that leaves the surrounding state alone. -/
def pureFormatter (apply : Value → List Value → Context → Value) : Formatter State :=
  fun value arguments context state => (apply value arguments context, state)

/-- The toolbox with one more function. -/
def withFunction (tools : Toolbox State) (name : String) (function : Function State) : Toolbox State :=
  { tools with functions := Dict.insert name function tools.functions }

/-- The toolbox with one more formatter. -/
def withFormatter (tools : Toolbox State) (name : String) (formatter : Formatter State) : Toolbox State :=
  { tools with formatters := Dict.insert name formatter tools.formatters }

/-- A listing of names under a title. -/
def listing (title heading : String) (names : List String) : String :=
  title ++ " \x7b " ++ heading ++ ": [" ++
    String.ofList (Text.joinWith [',', ' '] (names.map quoted)) ++ "] \x7d"

/-- The listing of the registered formatters. -/
def describeFormatters (tools : Toolbox State) : String :=
  listing "FormatterRegistry" "formatters" (Dict.names tools.formatters)

/-- The listing of the registered functions. -/
def describeFunctions (tools : Toolbox State) : String :=
  listing "FunctionRegistry" "functions" (Dict.names tools.functions)

end Toolbox

namespace PartialToolbox
variable {State : Type}

/-- A function that leaves the surrounding state alone. -/
def pureFunction (answer? : List Value → Context → Option Value) : PartialFunction State :=
  fun arguments context state => (answer? arguments context, state)

/-- A function that has all answers. -/
def ofFunction (function : Function State) : PartialFunction State :=
  fun arguments context state => (function arguments context state).map some id

/-- A formatter that has all answers. -/
def ofFormatter (formatter : Formatter State) : PartialFormatter State :=
  fun value arguments context state => (formatter value arguments context state).map some id

/-- Tools that have all answers. -/
def ofToolbox (tools : Toolbox State) : PartialToolbox State :=
  ⟨Dict.mapValues ofFunction tools.functions, Dict.mapValues ofFormatter tools.formatters⟩

/-- A use of a tool, with null for a missing answer. -/
def orNull (use : State → Option Value × State) (state : State) : Value × State :=
  (use state).map (·.getD .null) id

/-- A function with null for its missing answers. -/
def completedFunction (function : PartialFunction State) : Function State :=
  fun arguments context => orNull (function arguments context)

/-- A formatter with null for its missing answers. -/
def completedFormatter (formatter : PartialFormatter State) : Formatter State :=
  fun value arguments context => orNull (formatter value arguments context)

/-- The toolbox with null for the missing answers. -/
def completed (tools : PartialToolbox State) : Toolbox State :=
  ⟨Dict.mapValues completedFunction tools.functions, Dict.mapValues completedFormatter tools.formatters⟩

/-- Every function and every formatter has an answer to every use. -/
structure Answers (tools : PartialToolbox State) : Prop where
  functions : ∀ entry ∈ tools.functions, ∀ arguments context state,
    (entry.2 arguments context state).1.isSome = true
  formatters : ∀ entry ∈ tools.formatters, ∀ value arguments context state,
    (entry.2 value arguments context state).1.isSome = true

/-- Where no answer is missing, completing changes nothing. -/
@[simp] theorem completed_ofToolbox (tools : Toolbox State) : (ofToolbox tools).completed = tools := by
  rw [completed, ofToolbox, Dict.mapValues_cancel fun _ => rfl, Dict.mapValues_cancel fun _ => rfl]

theorem answers_ofToolbox (tools : Toolbox State) : (ofToolbox tools).Answers where
  functions := by
    intro entry inside arguments context state
    obtain ⟨given, -, rfl⟩ := List.mem_map.mp inside
    rfl
  formatters := by
    intro entry inside value arguments context state
    obtain ⟨given, -, rfl⟩ := List.mem_map.mp inside
    rfl

end PartialToolbox
end Herald
