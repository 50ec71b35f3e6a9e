/- Render contexts.

A context is the data that a template reads, the locale and zone of the render, and the
render instant. It starts as six system fields, computed from the instant, with the caller's
fields over them. A loop body is rendered in a context of its own, in which `this`, `index`,
`first` and `last` lie over the outer data. -/
import Herald.Locale
import Herald.Value.Coercion
import Herald.Zone
namespace Herald
set_option autoImplicit false

/-- What a template is rendered against. -/
structure Context where
  data : Dict Value
  locale : Locale
  zone : Zone
  now : Moment

/-- Why a render is refused. -/
inductive RenderError where
  | unsupportedLocale (given : String)
  | unknownTimezone (given : String)
  | invalidData (kind : String)
  deriving DecidableEq, Repr

/-- The wording of a refusal. -/
def RenderError.message : RenderError → String
  | .unsupportedLocale given => "Unsupported locale: " ++ given
  | .unknownTimezone given => "Unknown timezone: " ++ given
  | .invalidData kind => "Invalid render data: data must be an object, got " ++ kind

namespace Context

/-- The names of the system fields. -/
def systemNames : List String :=
  ["currentDate", "currentTime", "currentYear", "currentMonth", "currentDay", "timestamp"]

/-- The system fields of an instant in a zone. -/
def systemFields (zone : Zone) (now : Moment) : Dict Value :=
  let time := zone.wallTime now
  Dict.ofList [
    ("currentDate", .ofChars (time.expand "YYYY-MM-DD".toList)),
    ("currentTime", .ofChars (time.expand "HH:mm:ss".toList)),
    ("currentYear", .int time.day.year),
    ("currentMonth", .int time.day.month),
    ("currentDay", .int time.day.day),
    ("timestamp", .int now.millis)]

/-- The fields of caller data: an object's own, and none for null. -/
def callerFields : Value → Except RenderError (Dict Value)
  | .object fields => .ok fields
  | .null => .ok []
  | other => .error (.invalidData other.kind)

/-- The context of caller data and a named locale and zone at an instant. The data is
checked first, then the locale, then the zone. -/
def build (data : Value) (locale zone : String) (now : Moment) : Except RenderError Context := do
  let fields ← callerFields data
  match Locale.read? locale with
  | none => .error (.unsupportedLocale locale)
  | some locale =>
    match Zone.read? zone with
    | none => .error (.unknownTimezone zone)
    | some zone => .ok ⟨Dict.overlay (systemFields zone now) fields, locale, zone, now⟩

/-- The context of one turn of a loop. -/
def inLoop (context : Context) (item : Value) (index count : Nat) : Context :=
  let data := Dict.insert "this" item context.data
  let data := Dict.insert "index" (.int index) data
  let data := Dict.insert "first" (.bool (index == 0)) data
  { context with data := Dict.insert "last" (.bool (index + 1 == count)) data }

/-- The trimmed segments of a dotted path. -/
def segments (path : List Char) : List (List Char) :=
  (Text.cutAt (· == '.') path).map Text.trim

/-- The value at a dotted path; none as soon as a segment is missing. The first segment
names a field of the data. -/
def resolve? (context : Context) (path : List Char) : Option Value :=
  let path := Text.trim path
  if path.isEmpty then none else (Value.object context.data).descend? (segments path)

end Context
end Herald
