/- The toolbox that every renderer starts from. -/
import Herald.DateFunctions
import Herald.Formatters
namespace Herald
set_option autoImplicit false

/-- The built-in functions and formatters, with null for the missing answers. -/
def Toolbox.builtins (State : Type) : Toolbox State :=
  ⟨DateFunctions.builtins State, Formatters.builtins State⟩

namespace PartialToolbox

/-- The built-in functions and formatters; the formatters have all answers. -/
def builtins (State : Type) : PartialToolbox State :=
  ⟨DateFunctions.partials State, Dict.mapValues ofFormatter (Formatters.builtins State)⟩

/-- Completed, they are the toolbox that every renderer starts from. -/
@[simp] theorem completed_builtins (State : Type) : (builtins State).completed = Toolbox.builtins State := by
  rw [completed, builtins, Dict.mapValues_cancel fun _ => rfl]
  rfl

end PartialToolbox

end Herald
