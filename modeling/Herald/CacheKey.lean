/- Cache keys.

A render's key names everything its result depends on: the template's fields, each with its
length so that neighbouring fields cannot be confused, and the data with the locale and the
zone as given. Both parts are digests. An explicit key takes their place. -/
import Herald.Digest
import Herald.Template
import Herald.Value.Printer
namespace Herald
set_option autoImplicit false
namespace CacheKey

/-- A field with its length in bytes in front, or a dash for a missing field. -/
def fieldText : Option String → String
  | some text => toString text.utf8ByteSize ++ ":" ++ text ++ "|"
  | none => "-|"

/-- The text of a template's fields. -/
def templateText (template : Template) : String :=
  fieldText template.title ++ fieldText (some template.content) ++ fieldText template.link

/-- The text of a render's data, locale and zone. -/
def dataText (data : Value) (locale zone : String) : String :=
  data.compact ++ "|" ++ locale ++ "|" ++ zone

/-- The computed key of a render. -/
def computed (template : Template) (data : Value) (locale zone : String) : String :=
  Digest.ofText (templateText template) ++ "_" ++ Digest.ofText (dataText data locale zone)

/-- The key of a render. -/
def ofRender (template : Template) (data : Value) (options : RenderOptions) : String :=
  options.cacheKey.getD (computed template data options.locale options.timezone)

end CacheKey
end Herald
