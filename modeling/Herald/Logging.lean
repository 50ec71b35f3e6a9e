/- Logging: the form of log lines, and its set-up from settings. -/
import Herald.LogFilter
import Herald.Settings
namespace Herald
set_option autoImplicit false

/-- The forms of log lines. -/
inductive LogFormat where
  | pretty
  | json
  deriving DecidableEq, Repr

/-- Why logging cannot be set up. -/
inductive LoggingError where
  | invalidFilter
  | unknownFormat (given : String)
  deriving DecidableEq, Repr

/-- The wording of a failure. -/
def LoggingError.message : LoggingError → String
  | .invalidFilter => "Invalid log filter"
  | .unknownFormat given => "Unknown log format: " ++ given

namespace LogFormat

/-- The name of a form. -/
def name : LogFormat → String
  | .pretty => "Pretty"
  | .json => "Json"

/-- The form that a text names, blanks around it and case aside. -/
def read (text : String) : Except LoggingError LogFormat :=
  let name := String.ofList (Text.asciiLower (Text.trimmed text))
  if name == "pretty" || name == "text" then .ok .pretty
  else if name == "json" then .ok .json
  else .error (.unknownFormat name)

end LogFormat

/-- The form of the log lines that settings ask for. The filter is looked at first. -/
def LoggingSettings.setup (settings : LoggingSettings) : Except LoggingError LogFormat :=
  if LogFilter.isValid settings.level then LogFormat.read settings.format
  else .error .invalidFilter

end Herald
