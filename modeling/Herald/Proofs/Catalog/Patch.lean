/- What an update makes of a stored template.

An update is an object, and each of its fields speaks of one field of the template: where it is
missing the template keeps what it has, a string takes its place, and null clears what may be
missing and keeps what has to be there (`Patches`). `Patched` says this of the whole template. An
update that can be read has one such result for every template (`patched_iff`); it succeeds exactly
if the template is there and the result is valid, and a second time it finds nothing left to change
(`update_patches`). -/
import Herald.Proofs.Catalog
namespace Herald
set_option autoImplicit false

/-- A change made again changes nothing. -/
theorem Change.apply_apply {α : Type} (change : Change α) (held : Option α) :
    change.apply (change.apply held) = change.apply held := by
  cases change <;> rfl

namespace StoredTemplate

/-- What a field of an update makes of what is held: a missing field keeps it, null leaves `nulled`,
and a string leaves what stands for its content. -/
def Patches {α : Type} (fields : Dict Value) (name : String) (held nulled : α) (ofText : String → α)
    (after : α) : Prop :=
  match Dict.find? name fields with
  | none => after = held
  | some .null => after = nulled
  | some (.string text) => after = ofText text
  | some _ => False

/-- One template is the other with an update's fields in place. Description, title and link can be
cleared; name and content cannot, and id and creation instant stay. -/
structure Patched (fields : Dict Value) (before after : StoredTemplate) : Prop where
  id : after.id = before.id
  name : Patches fields "name" before.name before.name (fun text => text) after.name
  description : Patches fields "description" before.description none some after.description
  title : Patches fields "title" before.template.title none some after.template.title
  content : Patches fields "content" before.template.content before.template.content
    (fun text => text) after.template.content
  link : Patches fields "link" before.template.link none some after.template.link
  createdAt : after.createdAt = before.createdAt

/-! ## One field -/

section Field
variable {fields : Dict Value} {name : String}

/-- Whatever reads a field in three states puts in place what the update says. -/
theorem patches_iff_of_read {α β : Type} {missing null found : β} {string : String → β}
    (read : (match Dict.find? name fields with
      | none => some missing
      | some .null => some null
      | some value => (Value.string? value).map string) = some found)
    (place : β → α) {held nulled after : α} {ofText : String → α} (onMissing : place missing = held)
    (onNull : place null = nulled) (onString : ∀ text, place (string text) = ofText text) :
    Patches fields name held nulled ofText after ↔ after = place found := by
  unfold Patches
  cases given : Dict.find? name fields with
  | none =>
      rw [given] at read
      obtain rfl := Option.some.inj read
      rw [onMissing]
  | some value =>
      rw [given] at read
      cases value with
      | null =>
          obtain rfl := Option.some.inj read
          rw [onNull]
      | string text =>
          obtain rfl := Option.some.inj read
          rw [onString]
      | _ => cases read

theorem patches_change_iff {change : Change String}
    (read : Record.change Value.string? name fields = some change) {held after : Option String} :
    Patches fields name held none some after ↔ after = change.apply held :=
  patches_iff_of_read read (fun change => change.apply held) rfl rfl fun _ => rfl

theorem patches_optional_iff {replacement : Option String}
    (read : Record.optional Value.string? name fields = some replacement) {held after : String} :
    Patches fields name held held (fun text => text) after ↔ after = replacement.getD held :=
  patches_iff_of_read read (fun replacement => replacement.getD held) rfl rfl fun _ => rfl

end Field

/-! ## The whole template -/

section Whole
variable {fields : Dict Value} {changes : TemplateUpdate} {before after : StoredTemplate} {now : Moment}

/-- **An update that can be read has one result.** -/
theorem patched_iff (read : TemplateUpdate.ofValue? (.object fields) = some changes) :
    Patched fields before after ∧ after.updatedAt = now ↔ after = before.updated changes now := by
  obtain ⟨name, names, read⟩ := Option.bind_eq_some_iff.mp read
  obtain ⟨description, descriptions, read⟩ := Option.bind_eq_some_iff.mp read
  obtain ⟨title, titles, read⟩ := Option.bind_eq_some_iff.mp read
  obtain ⟨content, contents, read⟩ := Option.bind_eq_some_iff.mp read
  obtain ⟨link, links, read⟩ := Option.bind_eq_some_iff.mp read
  obtain rfl := Option.some.inj read
  constructor
  · rintro ⟨patched, rfl⟩
    have idEq := patched.id
    have nameEq := (patches_optional_iff names).mp patched.name
    have descriptionEq := (patches_change_iff descriptions).mp patched.description
    have titleEq := (patches_change_iff titles).mp patched.title
    have contentEq := (patches_optional_iff contents).mp patched.content
    have linkEq := (patches_change_iff links).mp patched.link
    have createdAtEq := patched.createdAt
    cases after with
    | mk id name description template createdAt updatedAt =>
        cases template
        simp only at idEq nameEq descriptionEq titleEq contentEq linkEq createdAtEq
        simp only [updated, idEq, nameEq, descriptionEq, titleEq, contentEq, linkEq, createdAtEq]
  · rintro rfl
    refine ⟨⟨rfl, ?_, ?_, ?_, ?_, ?_, rfl⟩, rfl⟩
    · exact (patches_optional_iff names).mpr rfl
    · exact (patches_change_iff descriptions).mpr rfl
    · exact (patches_change_iff titles).mpr rfl
    · exact (patches_optional_iff contents).mpr rfl
    · exact (patches_change_iff links).mpr rfl

/-- Changes made again leave only a later instant. -/
theorem updated_updated (stored : StoredTemplate) (changes : TemplateUpdate) (now later : Moment) :
    (stored.updated changes now).updated changes later =
      { stored.updated changes now with updatedAt := later } := by
  have again : ∀ (replacement : Option String) (held : String),
      replacement.getD (replacement.getD held) = replacement.getD held := by
    intro replacement held
    cases replacement <;> rfl
  simp only [updated, Change.apply_apply, again]

end Whole
end StoredTemplate

namespace Catalog

/-! ## The update in a catalogue -/

section Update
variable {catalog : Catalog} {id : String} {changes : TemplateUpdate} {now : Moment}
  {after : StoredTemplate}

/-- An update succeeds with the changed template if that has no fault. -/
theorem update_eq_ok_iff :
    (catalog.update id changes now).1 = .ok after ↔
      ∃ before, catalog.get id = .ok before ∧ after = before.updated changes now ∧
        after.fault? = none := by
  cases found : catalog.get id with
  | error absent => simp [update, found]
  | ok before =>
      cases faulty : (before.updated changes now).fault? with
      | some fault =>
          simp only [update, found, faulty, reduceCtorEq, Except.ok.injEq, exists_eq_left', false_iff]
          rintro ⟨rfl, valid⟩
          rw [faulty] at valid
          cases valid
      | none =>
          simp only [update, found, faulty, Except.ok.injEq, exists_eq_left']
          constructor
          · rintro rfl
            exact ⟨rfl, faulty⟩
          · rintro ⟨rfl, -⟩
            rfl

/-- The changed template is kept under the id. -/
theorem get_update (succeeds : (catalog.update id changes now).1 = .ok after) :
    (catalog.update id changes now).2.get id = .ok after := by
  obtain ⟨before, found, rfl, valid⟩ := update_eq_ok_iff.mp succeeds
  simp only [update, found, valid]
  exact get_eq_ok_iff.mpr Dict.find?_insert_self

end Update

/-- **An update is a patch in three states.** An update that can be read gives every template one
patched template: description, title and link stay without their field, are cleared by null and
replaced by a string; name and content stay without their field and by null and are replaced by a
string; id and creation instant stay. It succeeds exactly if the id has a template and the patched
one is valid, which is then what the catalogue has; and the same update succeeds again at any later
instant and leaves the same template but for the instant of the change. -/
theorem update_patches {fields : Dict Value} {changes : TemplateUpdate}
    (read : TemplateUpdate.ofValue? (.object fields) = some changes) (catalog : Catalog) (id : String)
    (now : Moment) :
    (∀ before : StoredTemplate, ∃! after, before.Patched fields after ∧ after.updatedAt = now) ∧
    (∀ after, (catalog.update id changes now).1 = .ok after ↔
      ∃ before, catalog.get id = .ok before ∧ before.Patched fields after ∧ after.updatedAt = now ∧
        after.fault? = none) ∧
    ∀ after, (catalog.update id changes now).1 = .ok after →
      (catalog.update id changes now).2.get id = .ok after ∧
        ∀ later, ((catalog.update id changes now).2.update id changes later).1 =
          .ok { after with updatedAt := later } := by
  refine ⟨?_, ?_, ?_⟩
  · intro before
    refine ⟨before.updated changes now, (StoredTemplate.patched_iff read).mpr rfl, ?_⟩
    intro after patched
    exact (StoredTemplate.patched_iff read).mp patched
  · intro after
    rw [update_eq_ok_iff]
    simp only [← StoredTemplate.patched_iff read, and_assoc]
  · intro after succeeds
    have kept := get_update succeeds
    refine ⟨kept, fun later => update_eq_ok_iff.mpr ⟨after, kept, ?_⟩⟩
    obtain ⟨before, -, rfl, valid⟩ := update_eq_ok_iff.mp succeeds
    exact ⟨(StoredTemplate.updated_updated before changes now later).symm, valid⟩

namespace Example

/-- A catalogue with one template. -/
def welcome : Catalog :=
  ⟨[("welcome", ⟨"welcome", "Welcome", some "greets", ⟨some "Hi", "Hello", some "/home"⟩, ⟨0, 0⟩, ⟨0, 0⟩⟩)]⟩

/-- An update with a field in each of the states. -/
def fields : Dict Value :=
  [("content", .null), ("description", .null), ("name", .string "Hello"), ("title", .string "Hi there")]

def changes : TemplateUpdate := ⟨some "Hello", .clear, .set "Hi there", none, .keep⟩

def welcomed : StoredTemplate :=
  ⟨"welcome", "Hello", none, ⟨some "Hi there", "Hello", some "/home"⟩, ⟨0, 0⟩, ⟨60, 0⟩⟩

theorem update_patches_welcome :
    TemplateUpdate.ofValue? (.object fields) = some changes ∧
      (welcome.update "welcome" changes ⟨60, 0⟩).1 = .ok welcomed ∧
      (welcome.update "welcome" changes ⟨60, 0⟩).2.get "welcome" = .ok welcomed ∧
      ((welcome.update "welcome" changes ⟨60, 0⟩).2.update "welcome" changes ⟨120, 0⟩).1 =
        .ok { welcomed with updatedAt := ⟨120, 0⟩ } := by
  have read : TemplateUpdate.ofValue? (.object fields) = some changes := by decide +kernel
  have succeeds : (welcome.update "welcome" changes ⟨60, 0⟩).1 = .ok welcomed := by decide +kernel
  obtain ⟨-, -, again⟩ := update_patches read welcome "welcome" ⟨60, 0⟩
  obtain ⟨kept, repeated⟩ := again welcomed succeeds
  exact ⟨read, succeeds, kept, repeated ⟨120, 0⟩⟩

end Example
end Catalog
end Herald
