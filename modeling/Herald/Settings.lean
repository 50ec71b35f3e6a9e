/- The settings of a program that embeds a renderer, and where they come from.

Settings have a section for the renderer and one for logging, and a default for each. The
environment overrides the defaults: a variable whose name begins with `template_`, in any
case, sets what the rest of its name says: a path whose steps are names after points, two
underscores being a point, and indices in brackets. An index makes a list of what it steps
into, and a section written as a list has its settings in the order in which they are
declared. A variable's text is taken for a boolean, else for a 64-bit integer, else for a real
number, else for itself, and is converted to what its setting needs. Unknown settings are
passed over; a setting that cannot be converted makes the settings unreadable. -/
import Herald.Renderer
import Herald.Text.CaseMap
namespace Herald
set_option autoImplicit false

/-- The renderer's section. -/
structure RendererSettings where
  cacheEnabled : Bool := true
  cacheSeconds : Nat := 300
  cacheEntries : Nat := 10000
  locale : String := "zh-CN"
  timezone : String := "Asia/Shanghai"
  normalizeWhitespace : Bool := true
  deriving DecidableEq, Repr

/-- The logging section. -/
structure LoggingSettings where
  level : String := "info"
  format : String := "pretty"
  deriving DecidableEq, Repr

/-- All settings. -/
structure Settings where
  renderer : RendererSettings := {}
  logging : LoggingSettings := {}
  deriving DecidableEq, Repr

namespace RendererSettings

/-- The set-up of a renderer with these settings. -/
def config (settings : RendererSettings) : RendererConfig :=
  ⟨settings.cacheEnabled, settings.cacheSeconds * 1000000000, settings.cacheEntries,
    settings.normalizeWhitespace⟩

/-- The lifetime of a set-up is that of its settings. -/
@[simp] theorem cacheLifetime_config (settings : RendererSettings) :
    settings.config.cacheLifetime = settings.cacheSeconds :=
  Nat.mul_div_cancel _ (by decide)

/-- The options of a render that gives none. -/
def defaultOptions (settings : RendererSettings) : RenderOptions :=
  ⟨settings.cacheEnabled, none, settings.locale, settings.timezone⟩

/-- The settings in the order in which they are declared. -/
def fieldNames : List String :=
  ["cache_enabled", "cache_ttl_seconds", "cache_max_entries", "default_locale", "default_timezone",
    "normalize_whitespace"]

/-- The renderer's section that a value records. -/
def ofValue? (value : Value) : Option RendererSettings := do
  let fields ← Record.fieldsOf? fieldNames 0 value
  let standard : RendererSettings := {}
  let cacheEnabled ← Record.withDefault Value.bool? "cache_enabled" standard.cacheEnabled fields
  let cacheSeconds ← Record.withDefault Value.natural? "cache_ttl_seconds" standard.cacheSeconds fields
  let cacheEntries ← Record.withDefault Value.natural? "cache_max_entries" standard.cacheEntries fields
  let locale ← Record.withDefault Value.string? "default_locale" standard.locale fields
  let timezone ← Record.withDefault Value.string? "default_timezone" standard.timezone fields
  let normalizeWhitespace ←
    Record.withDefault Value.bool? "normalize_whitespace" standard.normalizeWhitespace fields
  some ⟨cacheEnabled, cacheSeconds, cacheEntries, locale, timezone, normalizeWhitespace⟩

end RendererSettings

namespace LoggingSettings

/-- The settings in the order in which they are declared. -/
def fieldNames : List String := ["level", "format"]

/-- The logging section that a value records. -/
def ofValue? (value : Value) : Option LoggingSettings := do
  let fields ← Record.fieldsOf? fieldNames 0 value
  let standard : LoggingSettings := {}
  let level ← Record.withDefault Value.string? "level" standard.level fields
  let format ← Record.withDefault Value.string? "format" standard.format fields
  some ⟨level, format⟩

end LoggingSettings

/-- A setting before it is converted: a scalar read from a text, a section, a list, or a place
in a list that nothing was put at. -/
inductive Setting where
  | absent
  | bool (value : Bool)
  | int (value : Int)
  | real (value : Binary64)
  | text (value : String)
  | list (items : List Setting)
  | table (entries : List (String × Setting))

/-- A step of the path to a setting: to the entry of a name, or to the item at an index. An
index below zero counts from the end. -/
inductive SettingStep where
  | entry (name : String)
  | item (index : Int)
  deriving DecidableEq, Repr

namespace Setting

/-- The scalar that a text is taken for. -/
def ofText (written : String) : Setting :=
  let characters := written.toList
  let lower := Text.lowerCase characters
  if lower == "true".toList then .bool true
  else if lower == "false".toList then .bool false
  else match readInt64? characters with
    | some value => .int value
    | none =>
      match Binary64.read? characters with
      | some value => .real value
      | none => .text written

/-- The entries of a section; another setting has none. -/
def entries : Setting → Dict Setting
  | .table entries => entries
  | _ => []

/-- The items of a list; another setting has none. -/
def items : Setting → List Setting
  | .list items => items
  | _ => []

/-- A list with absent items added where it lacks them, at its end or before its start, so
that it has an item at an index; and the place of that item. -/
def reaching (index : Int) (items : List Setting) : List Setting × Nat :=
  let count := index.natAbs
  if 0 ≤ index then (items ++ List.replicate (count + 1 - items.length) .absent, count)
  else (List.replicate (count - items.length) .absent ++ items, items.length - count)

/-- The setting with a scalar put at the end of a path. What is on the way and cannot be
stepped into gives place to an empty section or list. -/
def put (value : Setting) : List SettingStep → Setting → Setting
  | [], _ => value
  | .entry name :: path, setting =>
    let entries := setting.entries
    .table (Dict.insert name (put value path ((Dict.find? name entries).getD .absent)) entries)
  | .item index :: path, setting =>
    let (items, place) := reaching index setting.items
    .list (items.set place (put value path (items.getD place .absent)))

/-- The words for true and false, besides the digits. -/
def wordValue? (written : String) : Option Bool :=
  let lower := String.ofList (Text.lowerCase written.toList)
  if lower == "true" || lower == "on" || lower == "yes" then some true
  else if lower == "false" || lower == "off" || lower == "no" then some false
  else none

/-- A setting as a boolean. -/
def toBool? : Setting → Option Bool
  | .bool value => some value
  | .int value => some (value != 0)
  | .real value => some (!value.same (.finite false 0))
  | .text written => wordValue? written
  | _ => none

/-- A setting as a natural number below 2^64; a real number is rounded, halves upwards. -/
def toNat? : Setting → Option Nat
  | .bool value => some (if value then 1 else 0)
  | .int value => if 0 ≤ value then some value.toNat else none
  | .real value => some (value.roundAway 0 0xFFFFFFFFFFFFFFFF).toNat
  | .text written => (wordValue? written).map fun value => if value then 1 else 0
  | _ => none

/-- A setting as a text. -/
def toText? : Setting → Option String
  | .bool value => some (if value then "true" else "false")
  | .int value => some (String.ofList (integerText value))
  | .real value => some (String.ofList value.plainText)
  | .text written => some written
  | _ => none

/-- The settings of the section of a name, which declares the given settings in this order. A
missing section is empty; what is neither a section nor a list is none. -/
def section? (name : String) (declared : List String) (setting : Setting) : Option (Dict Setting) :=
  match Dict.find? name setting.entries with
  | none => some []
  | some (.table entries) => some entries
  | some (.list items) => some (Dict.ofList (declared.zip items))
  | some _ => none

/-- A converted entry of a section, or its default. -/
def entry {α : Type} (convert : Setting → Option α) (name : String) (default : α)
    (entries : Dict Setting) : Option α :=
  match Dict.find? name entries with
  | none => some default
  | some setting => convert setting

end Setting

namespace Settings

/-- A text with each pair of underscores made a point, from left to right. -/
def dotted : List Char → List Char
  | '_' :: '_' :: rest => '.' :: dotted rest
  | c :: rest => c :: dotted rest
  | [] => []

/-- A character of a setting's name. -/
def isNameChar (c : Char) : Bool :=
  c.isAlphanum || c == ' ' || c == '_' || c == '-'

/-- The index that stands between brackets, spaces and tabs around it aside: digits, with a
minus sign before them or without. -/
def indexOf? (written : List Char) : Option Int :=
  let isSpace (c : Char) : Bool := c == ' ' || c == '\t'
  match ((written.dropWhile isSpace).reverse.dropWhile isSpace).reverse with
  | '+' :: _ => none
  | digits => readInt64? digits

/-- The steps that a text writes out: a name after each point, an index in each pair of
brackets. -/
def stepsOf? : List Char → Option (List SettingStep)
  | [] => some []
  | '.' :: rest =>
    let name := rest.takeWhile isNameChar
    if name.isEmpty then none
    else (stepsOf? (rest.dropWhile isNameChar)).map (.entry (String.ofList name) :: ·)
  | '[' :: rest =>
    match _closing : rest.dropWhile (· != ']') with
    | [] => none
    | _ :: after =>
      (indexOf? (rest.takeWhile (· != ']'))).bind fun index => (stepsOf? after).map (.item index :: ·)
  | _ => none
termination_by text => text.length
decreasing_by
  · have shorter := (List.dropWhile_sublist isNameChar (l := rest)).length_le
    simp only [List.length_cons]
    omega
  · have shorter := (List.dropWhile_sublist (· != ']') (l := rest)).length_le
    rw [_closing] at shorter
    simp only [List.length_cons] at shorter ⊢
    omega

/-- The path that a variable sets, if its name begins as it has to. What is no path is one
name, which no setting has. -/
def pathOf? (variableName : String) : Option (List SettingStep) :=
  let lower := Text.lowerCase variableName.toList
  let opening := "template_".toList
  if opening.isPrefixOf lower then
    let rest := dotted (lower.drop opening.length)
    some ((stepsOf? ('.' :: rest)).getD [.entry (String.ofList rest)])
  else none

/-- The settings that environment variables write out, a later one over an earlier. -/
def written (bindings : List (String × String)) : Setting :=
  bindings.foldl (fun setting (name, text) =>
    match pathOf? name with
    | some path => Setting.put (Setting.ofText text) path setting
    | none => setting) (.table [])

/-- The settings that a tree of settings gives. -/
def ofSetting? (setting : Setting) : Option Settings := do
  let standard : Settings := {}
  let renderer ← setting.section? "renderer" RendererSettings.fieldNames
  let logging ← setting.section? "logging" LoggingSettings.fieldNames
  let cacheEnabled ← Setting.entry Setting.toBool? "cache_enabled" standard.renderer.cacheEnabled renderer
  let cacheSeconds ← Setting.entry Setting.toNat? "cache_ttl_seconds" standard.renderer.cacheSeconds renderer
  let cacheEntries ← Setting.entry Setting.toNat? "cache_max_entries" standard.renderer.cacheEntries renderer
  let locale ← Setting.entry Setting.toText? "default_locale" standard.renderer.locale renderer
  let timezone ← Setting.entry Setting.toText? "default_timezone" standard.renderer.timezone renderer
  let normalizeWhitespace ←
    Setting.entry Setting.toBool? "normalize_whitespace" standard.renderer.normalizeWhitespace renderer
  let level ← Setting.entry Setting.toText? "level" standard.logging.level logging
  let format ← Setting.entry Setting.toText? "format" standard.logging.format logging
  some ⟨⟨cacheEnabled, cacheSeconds, cacheEntries, locale, timezone, normalizeWhitespace⟩, ⟨level, format⟩⟩

/-- The settings of an environment. -/
def ofEnvironment? (bindings : List (String × String)) : Option Settings :=
  ofSetting? (written bindings)

end Settings
end Herald
