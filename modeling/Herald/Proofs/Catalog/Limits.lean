/- Which templates a catalogue takes.

The limits of a template are `StoredTemplate.Within`, whatever its texts are measured by. A
catalogue measures in bytes (`fault?_eq_none_iff`). A character takes one to four bytes, so what is
within the limits in bytes is within them in characters, and the two agree for ASCII texts and for
texts of a quarter of the limit (`Within.characters`, `Within.bytes`). Between these, templates in
other scripts are refused that are within the limits in characters
(`Catalog.Example.create_refuses_script`). -/
import Herald.Proofs.Catalog
namespace Herald
set_option autoImplicit false

/-! ## Characters and bytes -/

namespace Text

/-- Every character is an ASCII one. -/
def IsAscii (text : String) : Prop := ∀ c ∈ text.toList, c.toNat < 128

theorem length_le_byteLength (text : List Char) : text.length ≤ byteLength text := by
  induction text with
  | nil => exact Nat.le_refl 0
  | cons c rest ih =>
      have size := c.utf8Size_pos
      rw [List.length_cons, byteLength]
      omega

theorem byteLength_le (text : List Char) : byteLength text ≤ 4 * text.length := by
  induction text with
  | nil => exact Nat.le_refl 0
  | cons c rest ih =>
      have size := c.utf8Size_le_four
      rw [List.length_cons, byteLength]
      omega

theorem byteLength_of_ascii {text : List Char} (ascii : ∀ c ∈ text, c.toNat < 128) :
    byteLength text = text.length := by
  induction text with
  | nil => rfl
  | cons c rest ih =>
      have small : c.val ≤ 127 := by
        have below := ascii c List.mem_cons_self
        rw [UInt32.le_iff_toNat_le]
        show c.toNat ≤ 127
        omega
      rw [List.length_cons, byteLength, Char.utf8Size_eq_one_iff.mpr small,
        ih fun d inside => ascii d (List.mem_cons_of_mem c inside), Nat.add_comm]

theorem length_le_utf8ByteSize (text : String) : text.length ≤ text.utf8ByteSize := by
  rw [← byteLength_toList, ← String.length_toList]
  exact length_le_byteLength text.toList

/-- A text keeps within a limit in bytes that it keeps in characters, if it is ASCII or so short
that four bytes for each character keep it. -/
theorem utf8ByteSize_le {text : String} {limit : Nat} (within : text.length ≤ limit)
    (narrow : IsAscii text ∨ 4 * text.length ≤ limit) : text.utf8ByteSize ≤ limit := by
  rw [← byteLength_toList]
  rw [← String.length_toList] at within narrow
  rcases narrow with ascii | short
  · rwa [byteLength_of_ascii ascii]
  · exact Nat.le_trans (byteLength_le text.toList) short

end Text

/-! ## The limits -/

namespace StoredTemplate

/-- The limits of a template whose texts are measured by `size`: an id of 1 to 64, each character
of it a letter, a number, a hyphen or an underscore, a name of 1 to 256, and some content. -/
structure Within (size : String → Nat) (stored : StoredTemplate) : Prop where
  id : 1 ≤ size stored.id ∧ size stored.id ≤ 64
  idChars : ∀ c ∈ stored.id.toList, Text.isAlphanumeric c = true ∨ c = '-' ∨ c = '_'
  name : 1 ≤ size stored.name ∧ size stored.name ≤ 256
  content : stored.template.content ≠ ""

variable {stored : StoredTemplate}

theorem isEmpty_eq_false_iff {text : String} : text.isEmpty = false ↔ 1 ≤ text.utf8ByteSize := by
  rw [Nat.one_le_iff_ne_zero, ← Bool.not_eq_true, String.isEmpty_iff_utf8ByteSize_eq_zero]

theorem all_isIdChar_iff {text : List Char} : text.all isIdChar = true ↔
    ∀ c ∈ text, Text.isAlphanumeric c = true ∨ c = '-' ∨ c = '_' := by
  simp only [List.all_eq_true, isIdChar, Bool.or_eq_true, beq_iff_eq, or_assoc]

/-- **A template without a fault is one within the limits in bytes.** -/
theorem fault?_eq_none_iff : stored.fault? = none ↔ stored.Within String.utf8ByteSize := by
  have refused : ∀ (condition : Bool) (fault : CatalogError) (others : Option CatalogError),
      (if condition then some fault else others) = none ↔ condition = false ∧ others = none := by
    intro condition fault others
    cases condition <;> simp
  have filled : 1 ≤ stored.template.content.utf8ByteSize ↔ stored.template.content ≠ "" := by
    rw [Nat.one_le_iff_ne_zero, Ne, String.utf8ByteSize_eq_zero_iff]
  simp only [fault?, refused, Bool.or_eq_false_iff, isEmpty_eq_false_iff, decide_eq_false_iff_not,
    Nat.not_lt, Bool.not_eq_false', all_isIdChar_iff, filled]
  constructor
  · rintro ⟨id, idChars, name, content, -⟩
    exact ⟨id, idChars, name, content⟩
  · rintro ⟨id, idChars, name, content⟩
    exact ⟨id, idChars, name, content, trivial⟩

/-- A text is empty in characters where it is in bytes. -/
theorem one_le_length_iff {text : String} : 1 ≤ text.length ↔ 1 ≤ text.utf8ByteSize := by
  rw [Nat.one_le_iff_ne_zero, Nat.one_le_iff_ne_zero, Ne, Ne, String.utf8ByteSize_eq_zero_iff,
    String.length_eq_zero_iff]

/-- What is within the limits in bytes is within them in characters. -/
theorem Within.characters (within : stored.Within String.utf8ByteSize) :
    stored.Within String.length where
  id := ⟨one_le_length_iff.mpr within.id.1,
    Nat.le_trans (Text.length_le_utf8ByteSize stored.id) within.id.2⟩
  idChars := within.idChars
  name := ⟨one_le_length_iff.mpr within.name.1,
    Nat.le_trans (Text.length_le_utf8ByteSize stored.name) within.name.2⟩
  content := within.content

/-- What is within the limits in characters is within them in bytes, if it is ASCII or of a quarter
of the limit. -/
theorem Within.bytes (within : stored.Within String.length)
    (id : Text.IsAscii stored.id ∨ stored.id.length ≤ 16)
    (name : Text.IsAscii stored.name ∨ stored.name.length ≤ 64) :
    stored.Within String.utf8ByteSize where
  id := ⟨one_le_length_iff.mp within.id.1,
    Text.utf8ByteSize_le within.id.2 (id.imp_right fun short => by omega)⟩
  idChars := within.idChars
  name := ⟨one_le_length_iff.mp within.name.1,
    Text.utf8ByteSize_le within.name.2 (name.imp_right fun short => by omega)⟩
  content := within.content

end StoredTemplate

/-- The update that gives a template another name. -/
def TemplateUpdate.rename (name : String) : TemplateUpdate := ⟨some name, .keep, .keep, none, .keep⟩

example : TemplateUpdate.ofValue? (.object [("name", .string "Hello")]) = some (.rename "Hello") := rfl

namespace Catalog

theorem create_eq_ok_iff {catalog : Catalog} {stored kept : StoredTemplate}
    (absent : catalog.has stored.id = false) :
    (catalog.create stored).1 = .ok kept ↔ kept = stored ∧ stored.fault? = none := by
  cases faulty : stored.fault? with
  | some fault => simp [create, faulty]
  | none => simp [create, faulty, absent, eq_comm]

/-- A valid template with another name is valid if the name is within its limits. -/
theorem fault?_renamed_iff {stored : StoredTemplate} (valid : stored.fault? = none) (name : String)
    (now : Moment) :
    (stored.updated (.rename name) now).fault? = none ↔ 1 ≤ name.utf8ByteSize ∧ name.utf8ByteSize ≤ 256 := by
  rw [StoredTemplate.fault?_eq_none_iff] at valid ⊢
  constructor
  · intro renamed
    exact renamed.name
  · intro within
    exact ⟨valid.id, valid.idChars, within, valid.content⟩

section Runs
variable {State : Type} (renderer : Renderer State)

/-- **Which templates a catalogue takes.** A template whose id is not present is created exactly if
it is within the limits in bytes. In the catalogue that any run leaves, a template is given another
name exactly if the name has 1 to 256 bytes. What is within the limits in bytes is within them in
characters. The converse holds for ASCII texts, and in every script for an id of up to 16 characters
and a name of up to 64. -/
theorem accepts_iff_within_bytes (session : Session State) (commands : List Command) :
    (∀ (catalog : Catalog) (stored : StoredTemplate), catalog.has stored.id = false →
      ∀ kept, (catalog.create stored).1 = .ok kept ↔
        kept = stored ∧ stored.Within String.utf8ByteSize) ∧
    (let catalog := (run renderer ⟨Catalog.empty, session⟩ commands).2.catalog
      ∀ id, catalog.has id = true → ∀ name now,
        (∃ renamed, (catalog.update id (.rename name) now).1 = .ok renamed) ↔
          1 ≤ name.utf8ByteSize ∧ name.utf8ByteSize ≤ 256) ∧
    (∀ stored : StoredTemplate, stored.Within String.utf8ByteSize → stored.Within String.length) ∧
    ∀ stored : StoredTemplate, stored.Within String.length →
      Text.IsAscii stored.id ∨ stored.id.length ≤ 16 →
      Text.IsAscii stored.name ∨ stored.name.length ≤ 64 → stored.Within String.utf8ByteSize := by
  refine ⟨?created, ?renamed, fun stored within => within.characters,
    fun stored within id name => within.bytes id name⟩
  case created =>
    intro catalog stored absent kept
    rw [create_eq_ok_iff absent, StoredTemplate.fault?_eq_none_iff]
  case renamed =>
    intro catalog id present name now
    have consistent : catalog.Consistent := (run_spec renderer commands ⟨Catalog.empty, session⟩ .empty).1
    obtain ⟨stored, found⟩ := (has_iff_get catalog id).mp present
    have valid := consistent.valid _ (Dict.mem_of_find? (get_eq_ok_iff.mp found))
    rw [← fault?_renamed_iff valid name now]
    cases faulty : (stored.updated (.rename name) now).fault? with
    | some fault => simp [update, found, faulty]
    | none => simp [update, found, faulty]

end Runs

/-! ## Other scripts -/

namespace Example

/-- A template of an id and a name. -/
def named (id name : String) : StoredTemplate := ⟨id, name, none, ⟨none, "Hello", none⟩, ⟨0, 0⟩, ⟨0, 0⟩⟩

/-- A renderer, which no creation asks. -/
def silent : Renderer Unit := ⟨{}, Toolbox.builtins Unit⟩

/-- The catalogue after one creation. -/
def greeted : Catalog :=
  (run silent ⟨Catalog.empty, silent.newSession ()⟩ [.create (.given (named "welcome" "Welcome"))]).2.catalog

theorem accepts_iff_within_bytes_script :
    greeted.has "通知" = false ∧ greeted.has "welcome" = true ∧
      (named "通知" "お知らせ").Within String.length ∧
      (named "通知" "お知らせ").Within String.utf8ByteSize ∧
      (greeted.create (named "通知" "お知らせ")).1 = .ok (named "通知" "お知らせ") ∧
      ∃ renamed, (greeted.update "welcome" (.rename "ようこそ") ⟨60, 0⟩).1 = .ok renamed := by
  have absent : greeted.has "通知" = false := by decide +kernel
  have present : greeted.has "welcome" = true := by decide +kernel
  have characters : (named "通知" "お知らせ").Within String.length :=
    ⟨by decide +kernel, StoredTemplate.all_isIdChar_iff.mp (by decide +kernel), by decide +kernel,
      by decide +kernel⟩
  obtain ⟨created, renamed, -, bytes⟩ :=
    accepts_iff_within_bytes silent (silent.newSession ())
      [.create (.given (named "welcome" "Welcome"))]
  have within := bytes _ characters (.inr (by decide +kernel)) (.inr (by decide +kernel))
  exact ⟨absent, present, characters, within, (created greeted _ absent _).mpr ⟨rfl, within⟩,
    (renamed "welcome" present _ _).mpr (by decide +kernel)⟩

/-- An id of 22 characters. -/
def long : String := "日日日日日日日日日日日日日日日日日日日日日日"

/-- A template within the limits in characters may be refused: 22 characters of another script have
66 bytes. -/
theorem create_refuses_script :
    ¬ ∀ (catalog : Catalog) (stored : StoredTemplate), catalog.has stored.id = false →
      ((∃ kept, (catalog.create stored).1 = .ok kept) ↔ stored.Within String.length) := by
  intro documented
  have within : (named long "N").Within String.length :=
    ⟨by decide +kernel, StoredTemplate.all_isIdChar_iff.mp (by decide +kernel), by decide +kernel,
      by decide +kernel⟩
  obtain ⟨kept, created⟩ := (documented Catalog.empty (named long "N") rfl).mpr within
  have refused : (Catalog.empty.create (named long "N")).1 = .error (.invalidId .length) := by
    decide +kernel
  rw [refused] at created
  cases created

end Example
end Catalog
end Herald
