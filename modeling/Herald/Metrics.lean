/- What a renderer counts, and the text in which it is published. -/
import Herald.Rendering
namespace Herald
set_option autoImplicit false

/-- The counters of a renderer: renders by result, look-ups in the cache by result, and
warnings by kind. -/
structure Tally where
  ok : Nat := 0
  error : Nat := 0
  cached : Nat := 0
  hits : Nat := 0
  misses : Nat := 0
  unknownFormatter : Nat := 0
  unknownFunction : Nat := 0
  malformedCondition : Nat := 0
  deriving DecidableEq, Repr

namespace Tally

/-- One more render that went through. -/
def countOk (tally : Tally) : Tally := { tally with ok := tally.ok + 1 }

/-- One more render that was refused. -/
def countError (tally : Tally) : Tally := { tally with error := tally.error + 1 }

/-- One more render served from the cache. -/
def countHit (tally : Tally) : Tally :=
  { tally with cached := tally.cached + 1, hits := tally.hits + 1 }

/-- One more look-up without an entry. -/
def countMiss (tally : Tally) : Tally := { tally with misses := tally.misses + 1 }

/-- One more trace entry; only warnings are counted. -/
def countEvent (tally : Tally) : Event → Tally
  | .warned .unknownFormatter => { tally with unknownFormatter := tally.unknownFormatter + 1 }
  | .warned .unknownFunction => { tally with unknownFunction := tally.unknownFunction + 1 }
  | .warned .malformedCondition => { tally with malformedCondition := tally.malformedCondition + 1 }
  | .called _ _ => tally
  | .applied _ _ _ => tally

/-- The tally after a trace. -/
def countEvents (tally : Tally) (events : Array Event) : Tally := events.foldl countEvent tally

/-- The counters by name. -/
def counters (tally : Tally) : List (String × Nat) := [
  ("cached", tally.cached), ("error", tally.error), ("hits", tally.hits),
  ("malformed_condition", tally.malformedCondition), ("misses", tally.misses), ("ok", tally.ok),
  ("unknown_formatter", tally.unknownFormatter), ("unknown_function", tally.unknownFunction)]

/-- By how much each counter grew since an earlier tally; counters that stood still are
left out. -/
def growth (later earlier : Tally) : List (String × Nat) :=
  ((later.counters.zip earlier.counters).map fun (now, before) => (now.1, now.2 - before.2)).filter
    fun counter => counter.2 != 0

end Tally

/-- The kinds of published metrics. -/
inductive MetricKind where
  | counter
  | gauge
  | histogram (bounds : List String)

/-- A published metric: its name, a sentence on it, its kind, and the label with whose
values its samples are told apart, if there is one. -/
structure Metric where
  name : String
  help : String
  kind : MetricKind
  label : Option (String × List String)

namespace Metric

/-- The metrics of a renderer. -/
def all : List Metric := [
  ⟨"renders_total", "Total template renders", .counter, some ("result", ["ok", "error", "cached"])⟩,
  ⟨"render_duration_seconds", "Render pipeline duration in seconds",
    .histogram ["0.00001", "0.00005", "0.0001", "0.0005", "0.001", "0.005", "0.01", "0.05", "+Inf"], none⟩,
  ⟨"cache_hits_total", "Total render cache hits", .counter, none⟩,
  ⟨"cache_misses_total", "Total render cache misses", .counter, none⟩,
  ⟨"cache_entries", "Entries currently held by the render cache", .gauge, none⟩,
  ⟨"warnings_total", "Non-fatal template problems", .counter,
    some ("kind", ["unknown_formatter", "unknown_function", "malformed_condition"])⟩]

/-- The published name of a metric. -/
def fullName (metric : Metric) : String := "template_renderer_" ++ metric.name

/-- The word for a metric's kind. -/
def kindWord (metric : Metric) : String :=
  match metric.kind with
  | .counter => "counter"
  | .gauge => "gauge"
  | .histogram _ => "histogram"

/-- A sample's name with a label. -/
def labelled (name label value : String) : String :=
  name ++ "\x7b" ++ label ++ "=\"" ++ value ++ "\"\x7d"

/-- The names of a metric's samples. -/
def sampleNames (metric : Metric) : List String :=
  match metric.kind with
  | .histogram bounds =>
    bounds.map (labelled (metric.fullName ++ "_bucket") "le") ++
      [metric.fullName ++ "_sum", metric.fullName ++ "_count"]
  | _ =>
    match metric.label with
    | some (label, values) => values.map (labelled metric.fullName label)
    | none => [metric.fullName]

/-- The lines in which a metric is published, the sample lines without their values. -/
def lines (metric : Metric) : List String :=
  ("# HELP " ++ metric.fullName ++ " " ++ metric.help) ::
    ("# TYPE " ++ metric.fullName ++ " " ++ metric.kindWord) :: metric.sampleNames

end Metric
end Herald
