/- The built-in functions where templates find them.

Each of the three is a function of a date by its name, and sees the instant that its first
argument denotes and nothing else of it (`DateFunctions.ofDate_eq`). -/
import Herald.Builtins
namespace Herald.DateFunctions
set_option autoImplicit false

section Lookup
variable (State : Type)

/-- Each built-in function stands under its name. -/
theorem find?_builtins {name : String} {answer? : Context → Moment → Option Value}
    (listed : (name, answer?) ∈ answers) :
    Dict.find? name (Toolbox.builtins State).functions = some (Toolbox.pureFunction (ofDate answer?)) := by
  have found : Dict.find? name (partials State) = some (PartialToolbox.pureFunction (ofDate? answer?)) := by
    refine Dict.find?_ofList ?_ (List.mem_map.mpr ⟨_, listed, rfl⟩)
    simp [answers]
  rw [Toolbox.builtins, builtins, Dict.find?_mapValues, found]
  rfl

theorem find?_timeAgo :
    Dict.find? "timeAgo" (Toolbox.builtins State).functions =
      some (Toolbox.pureFunction (ofDate fun context date => (timeAgo? context date).map .string)) :=
  find?_builtins State (.head _)

theorem find?_relativeDate :
    Dict.find? "relativeDate" (Toolbox.builtins State).functions =
      some (Toolbox.pureFunction (ofDate fun context date => (relativeDate? context date).map .string)) :=
  find?_builtins State (.tail _ (.head _))

theorem find?_age :
    Dict.find? "age" (Toolbox.builtins State).functions =
      some (Toolbox.pureFunction (ofDate fun context date => (age? context date).map .int)) :=
  find?_builtins State (.tail _ (.tail _ (.head _)))

/-- The built-in functions are functions of a date. -/
theorem exists_ofDate {name : String} (listed : name ∈ ["timeAgo", "relativeDate", "age"]) :
    ∃ answer?, Dict.find? name (Toolbox.builtins State).functions =
      some (Toolbox.pureFunction (ofDate answer?)) := by
  simp only [List.mem_cons, List.not_mem_nil, or_false] at listed
  rcases listed with rfl | rfl | rfl
  · exact ⟨_, find?_timeAgo State⟩
  · exact ⟨_, find?_relativeDate State⟩
  · exact ⟨_, find?_age State⟩

end Lookup

/-- A function of a date sees the instant that its first argument denotes. -/
theorem ofDate_eq {context : Context} {value : Value} {moment : Moment}
    (read : context.zone.readDate? value = some moment) (answer? : Context → Moment → Option Value)
    (rest : List Value) :
    ofDate answer? (value :: rest) context = (answer? context moment).getD .null := by
  have date : dateArgument? (value :: rest) context = some moment := by
    rw [dateArgument?, List.head?_cons, Option.bind_some, read]
  rw [ofDate, ofDate?, date]

/-- An answer is what the function gives. -/
theorem apply_ofDate {State : Type} {context : Context} {value result : Value} {moment : Moment}
    (read : context.zone.readDate? value = some moment) {answer? : Context → Moment → Option Value}
    (answered : answer? context moment = some result) (rest : List Value) (state : State) :
    (Toolbox.pureFunction (ofDate answer?) : Function State) (value :: rest) context state =
      (result, state) := by
  rw [Toolbox.pureFunction, ofDate_eq read, answered]
  rfl

end Herald.DateFunctions
