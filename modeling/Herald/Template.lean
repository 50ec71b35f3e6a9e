/- Templates, the options of a render, and its result. -/
import Herald.Calendar.Moment
import Herald.Record
namespace Herald
set_option autoImplicit false

/-- The sources of a notification: its title, its body and the link that it opens. -/
structure Template where
  title : Option String
  content : String
  link : Option String
  deriving DecidableEq, Repr

/-- The options of one render. -/
structure RenderOptions where
  enableCache : Bool := true
  cacheKey : Option String := none
  locale : String := "zh-CN"
  timezone : String := "Asia/Shanghai"
  deriving DecidableEq, Repr

/-- A rendered notification: its texts, the instant of the render, and the data that it was
rendered against. -/
structure Rendered where
  title : Option String
  content : String
  link : Option String
  renderedAt : Moment
  data : Dict Value

/-- The template in a record. -/
def Template.ofFields? (fields : Dict Value) : Option Template := do
  let title ← Record.optional Value.string? "title" fields
  let content ← Record.required Value.string? "content" fields
  let link ← Record.optional Value.string? "link" fields
  some ⟨title, content, link⟩

/-- The template that a value records. -/
def Template.ofValue? (value : Value) : Option Template :=
  (Record.fieldsOf? ["title", "content", "link"] 2 value).bind ofFields?

namespace RenderOptions

/-- The options that a value records. -/
def ofValue? (value : Value) : Option RenderOptions := do
  let fields ← Record.fieldsOf? ["enable_cache", "cache_key", "locale", "timezone"] 0 value
  let standard : RenderOptions := {}
  let enableCache ← Record.withDefault Value.bool? "enable_cache" standard.enableCache fields
  let cacheKey ← Record.optional Value.string? "cache_key" fields
  let locale ← Record.withDefault Value.string? "locale" standard.locale fields
  let timezone ← Record.withDefault Value.string? "timezone" standard.timezone fields
  some ⟨enableCache, cacheKey, locale, timezone⟩

/-- The record of options; a missing cache key is left out. -/
def toValue (options : RenderOptions) : Value :=
  let fields := [
    ("enable_cache", Value.bool options.enableCache),
    ("locale", .string options.locale),
    ("timezone", .string options.timezone)]
  .object (match options.cacheKey with
    | some key => ("cache_key", .string key) :: fields
    | none => fields)

end RenderOptions
end Herald
