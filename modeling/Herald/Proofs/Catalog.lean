/- What a catalogue keeps through every run of commands.

`Turn` says once what a command can come to: which reply it gets and which catalogue it leaves,
with everything that was checked on the way (`perform_turn`). The rest is read off it by cases:
what a command may do (`Turn.lawful`), that a consistent catalogue stays consistent
(`Turn.consistent`), and by how many templates it grows (`Turn.count`). An induction over the
commands carries the last two through a run (`run_spec`), and `run_consistent_lawful` states all
of it for the catalogue that any run leaves and for any command that comes next. -/
import Herald.Proofs.Transparency
namespace Herald
set_option autoImplicit false

namespace Catalog

/-! ## Commands -/

/-- Where a template to be created comes from: it is given, or it is recorded, as a creation
request or as a stored template. -/
inductive Origin where
  | given (stored : StoredTemplate)
  | request (value : Value) (now : Moment)
  | record (value : Value) (now : Moment)

/-- The template to be created; none where its record cannot be read. -/
def Origin.template? : Origin → Option StoredTemplate
  | .given stored => some stored
  | .request value now => StoredTemplate.ofRequest? now value
  | .record value now => StoredTemplate.ofValue? now value

/-- What a catalogue can be asked to do. -/
inductive Command where
  | create (origin : Origin)
  | get (id : String)
  | update (id : String) (changes : TemplateUpdate) (now : Moment)
  | delete (id : String)
  | has (id : String)
  | list
  | count
  | render (clock : Clock) (id : String) (data : Value) (options : RenderOptions)

/-- What a command replies. -/
inductive Reply where
  | unreadable
  | template (result : Except CatalogError StoredTemplate)
  | removed (result : Except CatalogError Unit)
  | rendered (result : Except CatalogError Rendered)
  | answer (present : Bool)
  | templates (listed : List StoredTemplate)
  | number (count : Nat)

namespace Command

/-- The template that a command would create. -/
def creation? : Command → Option StoredTemplate
  | .create origin => origin.template?
  | _ => none

/-- The id whose entry a command may write. -/
def target? : Command → Option String
  | .create origin => origin.template?.map StoredTemplate.id
  | .update id _ _ => some id
  | .delete id => some id
  | _ => none

/-- The id that has to have a template. -/
def needs? : Command → Option String
  | .get id => some id
  | .update id _ _ => some id
  | .delete id => some id
  | .render _ id _ _ => some id
  | _ => none

/-- Whether a command creates a template. -/
def creates : Command → Bool
  | .create _ => true
  | _ => false

/-- Whether a command deletes a template. -/
def deletes : Command → Bool
  | .delete _ => true
  | _ => false

/-- The reply to a command, and the service after it. -/
def perform {State : Type} (renderer : Renderer State) (service : Service State) :
    Command → Reply × Service State
  | .create origin =>
    match origin.template? with
    | none => (.unreadable, service)
    | some stored =>
      let (result, catalog) := service.catalog.create stored
      (.template result, { service with catalog := catalog })
  | .get id => (.template (service.catalog.get id), service)
  | .update id changes now =>
    let (result, catalog) := service.catalog.update id changes now
    (.template result, { service with catalog := catalog })
  | .delete id =>
    let (result, catalog) := service.catalog.delete id
    (.removed result, { service with catalog := catalog })
  | .has id => (.answer (service.catalog.has id), service)
  | .list => (.templates service.catalog.list, service)
  | .count => (.number service.catalog.count, service)
  | .render clock id data options =>
    let (result, session) := service.catalog.render renderer clock id data options service.session
    (.rendered result, { service with session := session })

end Command

namespace Command
variable {command : Command}

/-- A creation needs no template. -/
theorem creation?_of_needs? {id : String} (needed : command.needs? = some id) :
    command.creation? = none := by
  cases command with
  | create origin => cases needed
  | _ => rfl

theorem creation?_of_creates (other : command.creates = false) : command.creation? = none := by
  cases command with
  | create origin => cases other
  | _ => rfl

theorem deletes_of_target? (reading : command.target? = none) : command.deletes = false := by
  cases command with
  | delete id => cases reading
  | _ => rfl

end Command

namespace Reply

/-- The failure that a reply reports. -/
def error? : Reply → Option CatalogError
  | .template (.error error) => some error
  | .removed (.error error) => some error
  | .rendered (.error error) => some error
  | _ => none

/-- Whether the command failed. -/
def failed : Reply → Bool
  | .unreadable => true
  | reply => reply.error?.isSome

theorem failed_of_error? {reply : Reply} {error : CatalogError} (reported : reply.error? = some error) :
    reply.failed = true := by
  cases reply with
  | unreadable => rfl
  | _ => simp only [failed, reported, Option.isSome_some]

theorem error?_of_fine {reply : Reply} (fine : reply.failed = false) : reply.error? = none := by
  cases reply with
  | unreadable => rfl
  | _ => simpa [failed] using fine

end Reply

/-- The commands of a run with their replies, and the service after them. -/
def run {State : Type} (renderer : Renderer State) (service : Service State) :
    List Command → List (Command × Reply) × Service State
  | [] => ([], service)
  | command :: rest =>
    let (reply, next) := command.perform renderer service
    let (log, last) := run renderer next rest
    ((command, reply) :: log, last)

/-- The successful creations of a run. -/
def creations (log : List (Command × Reply)) : Nat :=
  log.countP fun entry => entry.1.creates && !entry.2.failed

/-- The successful deletions of a run. -/
def deletions (log : List (Command × Reply)) : Nat :=
  log.countP fun entry => entry.1.deletes && !entry.2.failed

/-! ## What one command can come to -/

/-- Presence is the success of a look-up. -/
theorem has_iff_get (catalog : Catalog) (id : String) :
    catalog.has id = true ↔ ∃ stored, catalog.get id = .ok stored := by
  simp only [has, Dict.contains, get]
  cases Dict.find? id catalog.templates <;> simp

theorem get_eq_ok_iff {catalog : Catalog} {id : String} {stored : StoredTemplate} :
    catalog.get id = .ok stored ↔ Dict.find? id catalog.templates = some stored := by
  simp only [get]
  cases Dict.find? id catalog.templates <;> simp

theorem get_of_absent {catalog : Catalog} {id : String} (absent : catalog.has id = false) :
    catalog.get id = .error (.notFound id) := by
  have missing : Dict.find? id catalog.templates = none := by simpa [has, Dict.contains] using absent
  simp only [get, missing]

/-- The turns that a command can take: its reply and the catalogue after it. -/
inductive Turn (before : Catalog) : Command → Reply → Catalog → Prop where
  | unreadable {origin : Origin} (unread : origin.template? = none) :
      Turn before (.create origin) .unreadable before
  | invalid {origin : Origin} {stored : StoredTemplate} {fault : CatalogError}
      (read : origin.template? = some stored) (faulty : stored.fault? = some fault) :
      Turn before (.create origin) (.template (.error fault)) before
  | occupied {origin : Origin} {stored : StoredTemplate} (read : origin.template? = some stored)
      (valid : stored.fault? = none) (present : before.has stored.id = true) :
      Turn before (.create origin) (.template (.error (.alreadyExists stored.id))) before
  | created {origin : Origin} {stored : StoredTemplate} (read : origin.template? = some stored)
      (valid : stored.fault? = none) (absent : before.has stored.id = false) :
      Turn before (.create origin) (.template (.ok stored))
        ⟨Dict.insert stored.id stored before.templates⟩
  | missing {command : Command} {reply : Reply} {id : String} (needed : command.needs? = some id)
      (absent : before.has id = false) (error : reply.error? = some (.notFound id)) :
      Turn before command reply before
  | spoilt {id : String} {changes : TemplateUpdate} {now : Moment} {stored : StoredTemplate}
      {fault : CatalogError} (found : before.get id = .ok stored)
      (faulty : (stored.updated changes now).fault? = some fault) :
      Turn before (.update id changes now) (.template (.error fault)) before
  | updated {id : String} {changes : TemplateUpdate} {now : Moment} {stored : StoredTemplate}
      (found : before.get id = .ok stored) (valid : (stored.updated changes now).fault? = none) :
      Turn before (.update id changes now) (.template (.ok (stored.updated changes now)))
        ⟨Dict.insert id (stored.updated changes now) before.templates⟩
  | deleted {id : String} (present : before.has id = true) :
      Turn before (.delete id) (.removed (.ok ())) ⟨Dict.erase id before.templates⟩
  | refused {clock : Clock} {id : String} {data : Value} {options : RenderOptions}
      {refusal : RenderError} (present : before.has id = true) :
      Turn before (.render clock id data options) (.rendered (.error (.render refusal))) before
  | answered {command : Command} {reply : Reply} (reading : command.target? = none)
      (created : command.creates = false)
      (present : ∀ id, command.needs? = some id → before.has id = true)
      (fine : reply.failed = false) : Turn before command reply before

section Turns
variable {State : Type} (renderer : Renderer State) (service : Service State)

theorem turn_create (origin : Origin) :
    Turn service.catalog (.create origin) (Command.perform renderer service (.create origin)).1
      (Command.perform renderer service (.create origin)).2.catalog := by
  simp only [Command.perform]
  cases read : origin.template? with
  | none => exact .unreadable read
  | some stored =>
      simp only [create]
      cases faulty : stored.fault? with
      | some fault => exact .invalid read faulty
      | none =>
          by_cases present : service.catalog.has stored.id = true
          · simp only [present, if_true]
            exact .occupied read faulty present
          · have absent : service.catalog.has stored.id = false := by simpa using present
            simp only [absent, Bool.false_eq_true, if_false]
            exact .created read faulty absent

theorem turn_update (id : String) (changes : TemplateUpdate) (now : Moment) :
    Turn service.catalog (.update id changes now)
      (Command.perform renderer service (.update id changes now)).1
      (Command.perform renderer service (.update id changes now)).2.catalog := by
  by_cases present : service.catalog.has id = true
  · obtain ⟨stored, found⟩ := (has_iff_get _ id).mp present
    simp only [Command.perform, update, found]
    cases faulty : (stored.updated changes now).fault? with
    | some fault => exact .spoilt found faulty
    | none => exact .updated found faulty
  · have absent : service.catalog.has id = false := by simpa using present
    simp only [Command.perform, update, get_of_absent absent]
    exact .missing rfl absent rfl

theorem turn_render (clock : Clock) (id : String) (data : Value) (options : RenderOptions) :
    Turn service.catalog (.render clock id data options)
      (Command.perform renderer service (.render clock id data options)).1 service.catalog := by
  by_cases present : service.catalog.has id = true
  · obtain ⟨stored, found⟩ := (has_iff_get _ id).mp present
    simp only [Command.perform, render, found]
    cases (renderer.render clock stored.template data options service.session).result with
    | error refusal => exact .refused present
    | ok rendered => exact .answered rfl rfl (fun _ same => Option.some.inj same ▸ present) rfl
  · have absent : service.catalog.has id = false := by simpa using present
    simp only [Command.perform, render, get_of_absent absent]
    exact .missing rfl absent rfl

/-- **Every command takes one of the turns.** -/
theorem perform_turn (command : Command) :
    Turn service.catalog command (command.perform renderer service).1
      (command.perform renderer service).2.catalog := by
  cases command with
  | create origin => exact turn_create renderer service origin
  | update id changes now => exact turn_update renderer service id changes now
  | render clock id data options => exact turn_render renderer service clock id data options
  | get id =>
      by_cases present : service.catalog.has id = true
      · obtain ⟨stored, found⟩ := (has_iff_get _ id).mp present
        simp only [Command.perform, found]
        exact .answered rfl rfl (fun _ same => Option.some.inj same ▸ present) rfl
      · have absent : service.catalog.has id = false := by simpa using present
        simp only [Command.perform, get_of_absent absent]
        exact .missing rfl absent rfl
  | delete id =>
      by_cases present : service.catalog.has id = true
      · simp only [Command.perform, delete, present, if_true]
        exact .deleted present
      · have absent : service.catalog.has id = false := by simpa using present
        simp only [Command.perform, delete, absent, Bool.false_eq_true, if_false]
        exact .missing rfl absent rfl
  | has id => exact .answered rfl rfl nofun rfl
  | list => exact .answered rfl rfl nofun rfl
  | count => exact .answered rfl rfl nofun rfl

end Turns

/-! ## What a command may do -/

/-- A fault of a template is neither of the failures that depend on the catalogue. -/
theorem fault_ne {stored : StoredTemplate} {fault : CatalogError} (faulty : stored.fault? = some fault)
    (id : String) : fault ≠ .alreadyExists id ∧ fault ≠ .notFound id := by
  simp only [StoredTemplate.fault?] at faulty
  split at faulty
  · cases faulty; simp
  · split at faulty
    · cases faulty; simp
    · split at faulty
      · cases faulty; simp
      · split at faulty
        · cases faulty; simp
        · cases faulty

/-- The law of one command: what its reply tells about the catalogue before it, and what it
leaves of that catalogue. -/
structure Lawful (before : Catalog) (command : Command) (reply : Reply) (after : Catalog) : Prop where
  /-- A command that fails leaves the catalogue as it was. -/
  atomic : reply.failed = true → after = before
  /-- A command that only reads leaves the catalogue as it was. -/
  reading : command.target? = none → after = before
  /-- Only the entry of the command's own id can change. -/
  frame : ∀ id, command.target? ≠ some id →
    Dict.find? id after.templates = Dict.find? id before.templates
  /-- A creation finds its id taken exactly if its template is valid and the id is present. -/
  alreadyExists : ∀ id, reply.error? = some (.alreadyExists id) ↔
    ∃ stored, command.creation? = some stored ∧ stored.fault? = none ∧ stored.id = id ∧
      before.has id = true
  /-- A command finds no template exactly if the id that it needs is absent. -/
  notFound : ∀ id, reply.error? = some (.notFound id) ↔
    command.needs? = some id ∧ before.has id = false
  /-- A successful creation leaves its template under the template's id, which was free. -/
  created : ∀ stored, command.creation? = some stored → reply.failed = false →
    before.has stored.id = false ∧ after.get stored.id = .ok stored
  /-- A successful change leaves the changed template, its id and creation instant kept. -/
  updated : ∀ id changes now, command = .update id changes now → reply.failed = false →
    ∃ stored changed, before.get id = .ok stored ∧ after.get id = .ok changed ∧
      changed = stored.updated changes now ∧ changed.id = stored.id ∧
      changed.createdAt = stored.createdAt
  /-- A successful deletion leaves no template under an id that had one. -/
  deleted : ∀ id, command = .delete id → reply.failed = false →
    before.has id = true ∧ after.has id = false

namespace Turn
variable {before after : Catalog} {command : Command} {reply : Reply}

theorem atomic (turn : Turn before command reply after) (failed : reply.failed = true) :
    after = before := by
  cases turn with
  | created read valid absent => cases failed
  | updated found valid => cases failed
  | deleted present => cases failed
  | _ => rfl

theorem of_reading (turn : Turn before command reply after) (reading : command.target? = none) :
    after = before := by
  cases turn with
  | created read valid absent => simp [Command.target?, read] at reading
  | updated found valid => cases reading
  | deleted present => cases reading
  | _ => rfl

theorem frame (turn : Turn before command reply after) {id : String}
    (other : command.target? ≠ some id) :
    Dict.find? id after.templates = Dict.find? id before.templates := by
  cases turn with
  | @created origin stored read valid absent =>
      have different : id ≠ stored.id := fun same => other (by simp [Command.target?, read, same])
      exact Dict.find?_insert_of_ne different
  | updated found valid => exact Dict.find?_insert_of_ne fun same => other (congrArg some same.symm)
  | deleted present => exact Dict.find?_erase_of_ne fun same => other (congrArg some same.symm)
  | _ => rfl

theorem alreadyExists_iff (turn : Turn before command reply after) (id : String) :
    reply.error? = some (.alreadyExists id) ↔
      ∃ stored, command.creation? = some stored ∧ stored.fault? = none ∧ stored.id = id ∧
        before.has id = true := by
  cases turn with
  | unreadable unread => simp [Reply.error?, Command.creation?, unread]
  | invalid read faulty => simp [Reply.error?, Command.creation?, read, faulty, fault_ne faulty id]
  | occupied read valid present =>
      simp only [Reply.error?, Command.creation?, read, Option.some.injEq,
        CatalogError.alreadyExists.injEq, exists_eq_left', valid, true_and]
      exact ⟨fun same => ⟨same, same ▸ present⟩, And.left⟩
  | created read valid absent =>
      simp only [Reply.error?, Command.creation?, read, Option.some.injEq, reduceCtorEq,
        exists_eq_left', valid, true_and, false_iff, not_and]
      rintro rfl
      simp [absent]
  | missing needed absent error => simp [error, Command.creation?_of_needs? needed]
  | spoilt found faulty => simp [Reply.error?, Command.creation?, fault_ne faulty id]
  | updated found valid => simp [Reply.error?, Command.creation?]
  | deleted present => simp [Reply.error?, Command.creation?]
  | refused present => simp [Reply.error?, Command.creation?]
  | answered reading other present fine =>
      simp [Reply.error?_of_fine fine, Command.creation?_of_creates other]

theorem notFound_iff (turn : Turn before command reply after) (id : String) :
    reply.error? = some (.notFound id) ↔ command.needs? = some id ∧ before.has id = false := by
  cases turn with
  | unreadable unread => simp [Reply.error?, Command.needs?]
  | invalid read faulty => simp [Reply.error?, Command.needs?, fault_ne faulty id]
  | occupied read valid present => simp [Reply.error?, Command.needs?]
  | created read valid absent => simp [Reply.error?, Command.needs?]
  | missing needed absent error =>
      simp only [error, needed, Option.some.injEq, CatalogError.notFound.injEq]
      exact ⟨fun same => ⟨same, same ▸ absent⟩, And.left⟩
  | spoilt found faulty =>
      have present := (has_iff_get _ _).mpr ⟨_, found⟩
      simp only [Reply.error?, Command.needs?, Option.some.injEq, (fault_ne faulty id).2, false_iff,
        not_and]
      rintro rfl
      simp [present]
  | updated found valid =>
      have present := (has_iff_get _ _).mpr ⟨_, found⟩
      simp only [Reply.error?, Command.needs?, Option.some.injEq, reduceCtorEq, false_iff, not_and]
      rintro rfl
      simp [present]
  | deleted present =>
      simp only [Reply.error?, Command.needs?, Option.some.injEq, reduceCtorEq, false_iff, not_and]
      rintro rfl
      simp [present]
  | refused present =>
      simp only [Reply.error?, Command.needs?, Option.some.injEq, reduceCtorEq, false_iff, not_and]
      rintro rfl
      simp [present]
  | answered reading other present fine =>
      simp only [Reply.error?_of_fine fine, reduceCtorEq, false_iff, not_and]
      intro needed
      simp [present id needed]

/-- **A turn is lawful.** -/
theorem lawful (turn : Turn before command reply after) : Lawful before command reply after where
  atomic := turn.atomic
  reading := turn.of_reading
  frame _ := turn.frame
  alreadyExists := turn.alreadyExists_iff
  notFound := turn.notFound_iff
  created := by
    intro stored creation fine
    cases turn with
    | created read valid absent =>
        obtain rfl : _ = stored := Option.some.inj (read.symm.trans creation)
        exact ⟨absent, get_eq_ok_iff.mpr Dict.find?_insert_self⟩
    | unreadable unread => cases fine
    | invalid read faulty => cases fine
    | occupied read valid present => cases fine
    | missing needed absent error =>
        rw [Reply.failed_of_error? error] at fine
        cases fine
    | answered reading other present _ =>
        rw [Command.creation?_of_creates other] at creation
        cases creation
    | _ => cases creation
  updated := by
    rintro id changes now rfl fine
    cases turn with
    | updated found valid =>
        exact ⟨_, _, found, get_eq_ok_iff.mpr Dict.find?_insert_self, rfl, rfl, rfl⟩
    | missing needed absent error =>
        rw [Reply.failed_of_error? error] at fine
        cases fine
    | spoilt found faulty => cases fine
    | answered reading other present _ => cases reading
  deleted := by
    rintro id rfl fine
    cases turn with
    | deleted present => exact ⟨present, by simp [has, Dict.contains]⟩
    | missing needed absent error =>
        rw [Reply.failed_of_error? error] at fine
        cases fine
    | answered reading other present _ => cases reading

end Turn

/-! ## What a run keeps -/

/-- A catalogue holds one valid template for an id, and that template has this id. -/
structure Consistent (catalog : Catalog) : Prop where
  ordered : Dict.Ordered catalog.templates
  ownId : ∀ entry ∈ catalog.templates, entry.2.id = entry.1
  valid : ∀ entry ∈ catalog.templates, entry.2.fault? = none

namespace Consistent
variable {catalog : Catalog}

theorem empty : Catalog.empty.Consistent := ⟨Dict.ordered_nil, nofun, nofun⟩

/-- A valid template may be put under its own id. -/
theorem insert (consistent : catalog.Consistent) {id : String} {stored : StoredTemplate}
    (own : stored.id = id) (valid : stored.fault? = none) :
    Consistent ⟨Dict.insert id stored catalog.templates⟩ where
  ordered := Dict.ordered_insert consistent.ordered
  ownId entry inside := by
    rcases Dict.mem_insert inside with rfl | old
    · exact own
    · exact consistent.ownId entry old
  valid entry inside := by
    rcases Dict.mem_insert inside with rfl | old
    · exact valid
    · exact consistent.valid entry old

theorem erase (consistent : catalog.Consistent) (id : String) :
    Consistent ⟨Dict.erase id catalog.templates⟩ where
  ordered := Dict.ordered_erase consistent.ordered
  ownId entry inside := consistent.ownId entry (List.mem_filter.mp inside).1
  valid entry inside := consistent.valid entry (List.mem_filter.mp inside).1

/-- The ids of the listed templates are the names under which they are kept. -/
theorem ids_list (consistent : catalog.Consistent) :
    catalog.list.map StoredTemplate.id = Dict.names catalog.templates := by
  rw [list, List.map_map, Dict.names]
  exact List.map_congr_left consistent.ownId

end Consistent

namespace Turn
variable {before after : Catalog} {command : Command} {reply : Reply}

/-- **A turn keeps a catalogue consistent.** A change writes under the id it was asked for,
which is the id of the changed template because it was so before. -/
theorem consistent (turn : Turn before command reply after) (kept : before.Consistent) :
    after.Consistent := by
  cases turn with
  | created read valid absent => exact kept.insert rfl valid
  | updated found valid =>
      have own := kept.ownId _ (Dict.mem_of_find? (get_eq_ok_iff.mp found))
      exact kept.insert own valid
  | deleted present => exact kept.erase _
  | _ => exact kept

/-- By how much a turn changes the number of templates. -/
theorem count (turn : Turn before command reply after) (kept : before.Consistent) :
    after.count + deletions [(command, reply)] = before.count + creations [(command, reply)] := by
  cases turn with
  | @created origin stored read valid absent =>
      have free : Dict.find? stored.id before.templates = none := by
        simpa [has, Dict.contains] using absent
      exact Dict.length_insert_of_absent free
  | updated found valid =>
      exact Dict.length_insert_of_present kept.ordered ((has_iff_get _ _).mpr ⟨_, found⟩)
  | deleted present => exact Dict.length_erase_of_present kept.ordered present
  | missing needed absent error =>
      have failed := Reply.failed_of_error? error
      simp [creations, deletions, failed]
  | answered reading other present fine =>
      simp [creations, deletions, other, Command.deletes_of_target? reading]
  | _ => rfl

end Turn

section Runs
variable {State : Type} (renderer : Renderer State)

/-- A run keeps a catalogue consistent, and its catalogue grows by its successful creations and
shrinks by its successful deletions. -/
theorem run_spec (commands : List Command) (service : Service State)
    (consistent : service.catalog.Consistent) :
    (run renderer service commands).2.catalog.Consistent ∧
      (run renderer service commands).2.catalog.count + deletions (run renderer service commands).1 =
        service.catalog.count + creations (run renderer service commands).1 := by
  induction commands generalizing service with
  | nil => exact ⟨consistent, rfl⟩
  | cons command rest ih =>
      have turn := perform_turn renderer service command
      obtain ⟨kept, counted⟩ := ih (command.perform renderer service).2 (turn.consistent consistent)
      have first := turn.count consistent
      simp only [run]
      refine ⟨kept, ?_⟩
      simp only [creations, deletions, List.countP_cons, List.countP_nil] at first counted ⊢
      omega

/-- **What a catalogue keeps through every run.** After any commands every template of the
catalogue is valid and stands under its own id, there are as many templates as creations
succeeded less the deletions that did, the listing holds each present id once, and presence is
the success of a look-up. Whatever command comes next is lawful. -/
theorem run_consistent_lawful (session : Session State) (commands : List Command)
    (command : Command) :
    let ran := run renderer ⟨Catalog.empty, session⟩ commands
    let catalog := ran.2.catalog
    let next := command.perform renderer ran.2
    catalog.Consistent ∧ Lawful catalog command next.1 next.2.catalog ∧
      catalog.count + deletions ran.1 = creations ran.1 ∧ catalog.list.length = catalog.count ∧
      (catalog.list.map StoredTemplate.id).Nodup ∧
      ∀ id, (id ∈ catalog.list.map StoredTemplate.id ↔ catalog.has id = true) ∧
        (catalog.has id = true ↔ ∃ stored, catalog.get id = .ok stored) := by
  intro ran catalog next
  obtain ⟨consistent, grown⟩ := run_spec renderer commands ⟨Catalog.empty, session⟩ .empty
  have counted : catalog.count + deletions ran.1 = creations ran.1 := grown.trans (Nat.zero_add _)
  have listed : catalog.list.length = catalog.count := by simp [list, count]
  refine ⟨consistent, (perform_turn renderer ran.2 command).lawful, counted, listed, ?_,
    fun id => ⟨?_, has_iff_get catalog id⟩⟩
  · rw [consistent.ids_list]
    exact Dict.names_nodup consistent.ordered
  · rw [consistent.ids_list]
    exact Dict.contains_iff_mem_names.symm

end Runs
end Catalog
end Herald
