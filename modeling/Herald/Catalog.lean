/- A catalogue of stored templates.

Templates are kept by id. A template is stored only if it is valid: its id has 1 to 64 bytes,
each character a letter, a number, a hyphen or an underscore; its name has 1 to 256 bytes; and
its content is not empty. A step that fails changes nothing. -/
import Herald.Calendar.Reading
import Herald.Renderer
namespace Herald
set_option autoImplicit false

/-- A template with its id, its name, a description, and the instants at which it was created
and last changed. -/
structure StoredTemplate where
  id : String
  name : String
  description : Option String
  template : Template
  createdAt : Moment
  updatedAt : Moment
  deriving DecidableEq, Repr

/-- What makes an id invalid. -/
inductive IdFault where
  | length
  | characters
  deriving DecidableEq, Repr

/-- What else makes a template invalid. -/
inductive TemplateFault where
  | nameLength
  | emptyContent
  deriving DecidableEq, Repr

/-- Why a step on a catalogue fails. -/
inductive CatalogError where
  | notFound (id : String)
  | alreadyExists (id : String)
  | invalidId (fault : IdFault)
  | invalidTemplate (fault : TemplateFault)
  | render (refusal : RenderError)
  deriving DecidableEq, Repr

/-- The wording of a failure. -/
def CatalogError.message : CatalogError → String
  | .notFound id => "Template not found: " ++ id
  | .alreadyExists id => "Template already exists: " ++ id
  | .invalidId .length => "Invalid template ID: ID must be 1-64 characters"
  | .invalidId .characters =>
    "Invalid template ID: ID must contain only alphanumeric, dash, or underscore"
  | .invalidTemplate .nameLength => "Invalid template: Name must be 1-256 characters"
  | .invalidTemplate .emptyContent => "Invalid template: Content must not be empty"
  | .render refusal => "Render failed: " ++ refusal.message

/-- Changes to a stored template. Name and content can be replaced only; the other fields
can be cleared as well. -/
structure TemplateUpdate where
  name : Option String
  description : Change String
  title : Change String
  content : Option String
  link : Change String
  deriving DecidableEq, Repr

namespace StoredTemplate

/-- A character of an id. -/
def isIdChar (c : Char) : Bool := Text.isAlphanumeric c || c == '-' || c == '_'

/-- The first fault of a template, if it has one. -/
def fault? (stored : StoredTemplate) : Option CatalogError :=
  if stored.id.isEmpty || 64 < stored.id.utf8ByteSize then some (.invalidId .length)
  else if !stored.id.toList.all isIdChar then some (.invalidId .characters)
  else if stored.name.isEmpty || 256 < stored.name.utf8ByteSize then some (.invalidTemplate .nameLength)
  else if stored.template.content.isEmpty then some (.invalidTemplate .emptyContent)
  else none

/-- The template that a creation request records, created at an instant. -/
def ofRequest? (now : Moment) (value : Value) : Option StoredTemplate := do
  let fields ← Record.fieldsOf? ["id", "name", "description", "title", "content", "link"] 6 value
  let id ← Record.required Value.string? "id" fields
  let name ← Record.required Value.string? "name" fields
  let description ← Record.optional Value.string? "description" fields
  let template ← Template.ofFields? fields
  some ⟨id, name, description, template, now, now⟩

/-- The instant that a string records. -/
def stamp? (value : Value) : Option Moment :=
  value.string?.bind fun text => Moment.readLooseStamp? text.toList

/-- The stored template that an object records; a missing instant is the present one. -/
def ofValue? (now : Moment) (value : Value) : Option StoredTemplate := do
  let fields ← value.fields?
  let id ← Record.required Value.string? "id" fields
  let name ← Record.required Value.string? "name" fields
  let description ← Record.optional Value.string? "description" fields
  let template ← Template.ofFields? fields
  let createdAt ← Record.withDefault stamp? "created_at" now fields
  let updatedAt ← Record.withDefault stamp? "updated_at" now fields
  some ⟨id, name, description, template, createdAt, updatedAt⟩

/-- The template with changes applied at an instant. -/
def updated (stored : StoredTemplate) (update : TemplateUpdate) (now : Moment) : StoredTemplate :=
  { stored with
    name := update.name.getD stored.name
    description := update.description.apply stored.description
    template := {
      title := update.title.apply stored.template.title
      content := update.content.getD stored.template.content
      link := update.link.apply stored.template.link }
    updatedAt := now }

end StoredTemplate

/-- The changes that a value records. -/
def TemplateUpdate.ofValue? (value : Value) : Option TemplateUpdate := do
  let fields ← Record.fieldsOf? ["name", "description", "title", "content", "link"] 4 value
  let name ← Record.optional Value.string? "name" fields
  let description ← Record.change Value.string? "description" fields
  let title ← Record.change Value.string? "title" fields
  let content ← Record.optional Value.string? "content" fields
  let link ← Record.change Value.string? "link" fields
  some ⟨name, description, title, content, link⟩

/-- Stored templates by id. -/
structure Catalog where
  templates : Dict StoredTemplate

namespace Catalog

/-- A catalogue without templates. -/
def empty : Catalog := ⟨[]⟩

/-- The number of templates. -/
def count (catalog : Catalog) : Nat := catalog.templates.length

/-- The templates in the order of their ids. -/
def list (catalog : Catalog) : List StoredTemplate := catalog.templates.map Prod.snd

/-- Whether an id has a template. -/
def has (catalog : Catalog) (id : String) : Bool := Dict.contains id catalog.templates

/-- The template of an id. -/
def get (catalog : Catalog) (id : String) : Except CatalogError StoredTemplate :=
  match Dict.find? id catalog.templates with
  | some stored => .ok stored
  | none => .error (.notFound id)

/-- Stores a new template. Its faults come before its presence. -/
def create (catalog : Catalog) (stored : StoredTemplate) : Except CatalogError StoredTemplate × Catalog :=
  match stored.fault? with
  | some fault => (.error fault, catalog)
  | none =>
    if catalog.has stored.id then (.error (.alreadyExists stored.id), catalog)
    else (.ok stored, ⟨Dict.insert stored.id stored catalog.templates⟩)

/-- Changes the template of an id. The changed template has to be valid. -/
def update (catalog : Catalog) (id : String) (changes : TemplateUpdate) (now : Moment) :
    Except CatalogError StoredTemplate × Catalog :=
  match catalog.get id with
  | .error absent => (.error absent, catalog)
  | .ok stored =>
    let changed := stored.updated changes now
    match changed.fault? with
    | some fault => (.error fault, catalog)
    | none => (.ok changed, ⟨Dict.insert id changed catalog.templates⟩)

/-- Removes the template of an id. -/
def delete (catalog : Catalog) (id : String) : Except CatalogError Unit × Catalog :=
  if catalog.has id then (.ok (), ⟨Dict.erase id catalog.templates⟩)
  else (.error (.notFound id), catalog)

/-- Renders the template of an id. -/
def render {State : Type} (catalog : Catalog) (renderer : Renderer State) (clock : Clock) (id : String)
    (data : Value) (options : RenderOptions) (session : Session State) :
    Except CatalogError Rendered × Session State :=
  match catalog.get id with
  | .error absent => (.error absent, session)
  | .ok stored =>
    let delivery := renderer.render clock stored.template data options session
    (delivery.result.mapError .render, delivery.session)

end Catalog
end Herald
