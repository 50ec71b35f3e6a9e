/- What a cache key tells apart.

A computed key is two digests with an underscore between them. Digests all have one length,
so a key determines both (`digests_of_computed_eq`). The text of a template's fields
determines the template (`templateText_injective`): each field carries its length. The text
of data, locale and zone determines the data, and determines locale and zone as soon as one
of the two pairs holds no bar (`dataText_inj`), which every locale and zone that can be read
satisfies.

That the digest has no collisions among the texts at hand is taken as a condition on these
texts (`CollisionFree`). -/
import Herald.CacheKey
import Herald.Locale
import Herald.Proofs.Text.Trim
import Herald.Proofs.Value.DataText
import Herald.Text.Offset
import Herald.Zone
namespace Herald
set_option autoImplicit false

/-! ## Digests -/

namespace Digest

theorem length_bigEndian (width value : Nat) : (bigEndian width value).length = width := by
  simp [bigEndian]

theorem length_hex (bytes : List UInt8) : (hex bytes).toList.length = 2 * bytes.length := by
  simp only [hex, String.toList_ofList]
  induction bytes with
  | nil => rfl
  | cons byte rest ih =>
      simp only [List.flatMap_cons, List.length_append, List.length_cons, List.length_nil, ih]
      omega

/-- Digests have one length. -/
theorem length_ofText (text : String) : (ofText text).toList.length = 64 := by
  simp [ofText, length_hex, sha256, length_bigEndian]

/-- Different texts among these have different digests. -/
def CollisionFree (texts : List String) : Prop :=
  ∀ left ∈ texts, ∀ right ∈ texts, ofText left = ofText right → left = right

instance (texts : List String) : Decidable (CollisionFree texts) := by
  unfold CollisionFree; infer_instance

end Digest

/-! ## Separators -/

/-- The size of a string in bytes is that of its characters. -/
theorem Text.byteLength_toList (text : String) : byteLength text.toList = text.utf8ByteSize := by
  have ofChars : ∀ characters : List Char,
      (String.ofList characters).utf8ByteSize = byteLength characters := by
    intro characters
    induction characters with
    | nil => rfl
    | cons c rest ih =>
        rw [String.ofList_cons, String.utf8ByteSize_append, String.utf8ByteSize_singleton, ih]
        rfl
  rw [← ofChars, String.ofList_toList]

/-- Texts of one size in bytes end at the same place. -/
theorem Text.append_inj_of_byteLength {left right rest rest' : List Char}
    (sizes : byteLength left = byteLength right) (same : left ++ rest = right ++ rest') :
    left = right ∧ rest = rest' := by
  have cut := cutAtOffset?_append left rest
  rw [same, sizes, cutAtOffset?_append] at cut
  simp only [Option.some.injEq, Prod.mk.injEq] at cut
  exact ⟨cut.1.symm, cut.2.symm⟩

/-- A text with exactly one separator splits there in one way only. -/
theorem Text.append_inj_of_notMem {bar : Char} {left right left' right' : List Char}
    (absent : bar ∉ left) (absent' : bar ∉ right)
    (same : left ++ bar :: right = left' ++ bar :: right') : left = left' ∧ right = right' := by
  have counts := congrArg (List.count bar) same
  simp only [List.count_append, List.count_cons_self, List.count_eq_zero_of_not_mem absent,
    List.count_eq_zero_of_not_mem absent'] at counts
  have absentLeft : bar ∉ left' := List.count_eq_zero.mp (by omega)
  have outside : ∀ text : List Char, bar ∉ text → ∀ c ∈ text, (c != bar) = true := by
    intro text missing c inside
    simpa using fun hit : c = bar => missing (hit ▸ inside)
  obtain ⟨lefts, rights⟩ := append_inj_of_class (outside left absent) (outside left' absentLeft)
    (by simp) (by simp) same
  exact ⟨lefts, (List.cons.inj rights).2⟩

namespace CacheKey

/-! ## Fields of a template -/

theorem fieldText_some (text : String) : (fieldText (some text)).toList =
    decimalDigits text.utf8ByteSize ++ ':' :: (text.toList ++ ['|']) := by
  simp [fieldText, decimalDigits, String.toList_append]

/-- No digits begin with a dash. -/
theorem decimalDigits_append_ne_dash (size : Nat) (tail tail' : List Char) :
    decimalDigits size ++ tail ≠ '-' :: tail' := by
  intro clash
  obtain ⟨first, more, shape⟩ := List.exists_cons_of_ne_nil (decimalDigits_ne_nil size)
  have digit : first.isDigit = true := isDigit_of_mem_decimalDigits (by rw [shape]; simp)
  rw [shape, List.cons_append] at clash
  rw [(List.cons.inj clash).1] at digit
  exact absurd digit (by decide)

/-- A field's text ends where the field ends, and tells a missing field from an empty one. -/
theorem fieldText_append_inj {left right : Option String} {rest rest' : List Char}
    (same : (fieldText left).toList ++ rest = (fieldText right).toList ++ rest') :
    left = right ∧ rest = rest' := by
  have missing : (fieldText none).toList = ['-', '|'] := by decide
  cases left with
  | none =>
      cases right with
      | none => exact ⟨rfl, List.append_cancel_left same⟩
      | some text =>
          rw [missing, fieldText_some, List.append_assoc] at same
          exact absurd same.symm (decimalDigits_append_ne_dash _ _ _)
  | some text =>
      cases right with
      | none =>
          rw [missing, fieldText_some, List.append_assoc] at same
          exact absurd same (decimalDigits_append_ne_dash _ _ _)
      | some text' =>
          rw [fieldText_some, fieldText_some, List.append_assoc, List.append_assoc] at same
          obtain ⟨sizes, bodies⟩ := append_inj_of_class
            (fun _ inside => isDigit_of_mem_decimalDigits inside)
            (fun _ inside => isDigit_of_mem_decimalDigits inside) (by simp) (by simp) same
          simp only [List.cons_append, List.append_assoc, List.cons.injEq, true_and] at bodies
          obtain ⟨texts, rests⟩ := Text.append_inj_of_byteLength
            (by rw [Text.byteLength_toList, Text.byteLength_toList, decimalDigits_injective sizes])
            bodies
          exact ⟨congrArg some (String.toList_inj.mp texts), (List.cons.inj rests).2⟩

/-- **The text of a template's fields determines the template.** -/
theorem templateText_injective {left right : Template}
    (same : templateText left = templateText right) : left = right := by
  have texts := congrArg String.toList same
  simp only [templateText, String.toList_append, List.append_assoc] at texts
  obtain ⟨titles, contents⟩ := fieldText_append_inj texts
  obtain ⟨content, links⟩ := fieldText_append_inj contents
  have ended : (fieldText left.link).toList ++ [] = (fieldText right.link).toList ++ [] := by
    simpa using links
  obtain ⟨link, -⟩ := fieldText_append_inj ended
  cases left; cases right
  simp_all

/-! ## Data, locale and zone -/

/-- The text of data, locale and zone determines the data, and locale and zone with the bar
between them. -/
theorem dataText_split {pool : List Number} (apart : Value.PrintApart pool) {data data' : Value}
    {locale locale' zone zone' : String} (dataIn : data.numbers ⊆ pool)
    (dataIn' : data'.numbers ⊆ pool)
    (same : dataText data locale zone = dataText data' locale' zone') :
    data = data' ∧ locale.toList ++ '|' :: zone.toList = locale'.toList ++ '|' :: zone'.toList := by
  have texts := congrArg String.toList same
  have bar : "|".toList = ['|'] := by decide
  simp only [dataText, Value.compact, String.toList_append, String.toList_ofList, bar,
    List.append_assoc, List.singleton_append] at texts
  obtain ⟨rfl, rests⟩ := Value.dataText_append_inj apart data data' dataIn dataIn'
    (by simp [Value.isNumberChar]) (by simp [Value.isNumberChar]) texts
  exact ⟨rfl, (List.cons.inj rests).2⟩

/-- **The text of data, locale and zone determines all three**, as soon as one of the locales
and zones holds no bar. -/
theorem dataText_inj {pool : List Number} (apart : Value.PrintApart pool) {data data' : Value}
    {locale locale' zone zone' : String} (dataIn : data.numbers ⊆ pool)
    (dataIn' : data'.numbers ⊆ pool) (noBar : '|' ∉ locale.toList) (noBar' : '|' ∉ zone.toList)
    (same : dataText data locale zone = dataText data' locale' zone') :
    data = data' ∧ locale = locale' ∧ zone = zone' := by
  obtain ⟨rfl, rests⟩ := dataText_split apart dataIn dataIn' same
  obtain ⟨locales, zones⟩ := Text.append_inj_of_notMem noBar noBar' rests
  exact ⟨rfl, String.toList_inj.mp locales, String.toList_inj.mp zones⟩

/-- A computed key determines the digests of its two texts. -/
theorem digests_of_computed_eq {template template' : Template} {data data' : Value}
    {locale locale' zone zone' : String}
    (same : computed template data locale zone = computed template' data' locale' zone') :
    Digest.ofText (templateText template) = Digest.ofText (templateText template') ∧
      Digest.ofText (dataText data locale zone) = Digest.ofText (dataText data' locale' zone') := by
  have texts := congrArg String.toList same
  simp only [computed, String.toList_append, List.append_assoc] at texts
  obtain ⟨first, second⟩ := List.append_inj texts
    ((Digest.length_ofText _).trans (Digest.length_ofText _).symm)
  exact ⟨String.toList_inj.mp first, String.toList_inj.mp (List.append_cancel_left second)⟩

end CacheKey

/-! ## Locales and zones that can be read -/

theorem Text.bar_mem_asciiLower {text : List Char} (bar : '|' ∈ text) : '|' ∈ asciiLower text :=
  List.mem_map.mpr ⟨'|', bar, by decide⟩

/-- A locale that can be read holds no bar. -/
theorem Locale.noBar_of_read? {text : String} {locale : Locale} (known : read? text = some locale) :
    '|' ∉ text.toList := by
  intro bar
  have replaced : '|' ∈ (Text.trimmed text).map fun c => if c == '_' then '-' else c :=
    List.mem_map.mpr ⟨'|', Text.mem_trim bar (by decide), by decide⟩
  obtain ⟨before, after, split, -⟩ := List.lookup_eq_some_iff.mp known
  have listed := List.mem_map_of_mem (f := fun entry => entry.1.toList)
    (split ▸ List.mem_append_right before List.mem_cons_self)
  have barless : ∀ name ∈ aliases.map fun entry => entry.1.toList, '|' ∉ name := by decide
  exact barless _ listed (by simpa using Text.bar_mem_asciiLower replaced)

/-- The digits of an offset hold no bar. -/
theorem Zone.noBar_of_offsetSize? {digits : List Char} {size : Int}
    (known : offsetSize? (digits.filter (· != ':')) = some size) : '|' ∉ digits := by
  intro bar
  simp only [offsetSize?] at known
  split at known
  · cases known
  · rename_i wellFormed
    have digitsOnly : (digits.filter (· != ':')).all Char.isDigit = true := by
      cases all : (digits.filter (· != ':')).all Char.isDigit with
      | true => rfl
      | false => exact absurd (by rw [all]; simp) wellFormed
    have digit := List.all_eq_true.mp digitsOnly '|' (List.mem_filter.mpr ⟨bar, by decide⟩)
    exact absurd digit (by decide)

/-- A zone that can be read holds no bar. -/
theorem Zone.noBar_of_read? {text : String} {zone : Zone} (known : read? text = some zone) :
    '|' ∉ text.toList := by
  intro bar
  have trimmedBar : '|' ∈ Text.trimmed text := Text.mem_trim bar (by decide)
  obtain ⟨offset, found, -⟩ := Option.map_eq_some_iff.mp known
  rcases Option.or_eq_some_iff.mp found with byName | ⟨-, written⟩
  · obtain ⟨entry, listed, -⟩ := Option.map_eq_some_iff.mp byName
    have sameName := List.find?_some listed
    have barless : ∀ entry ∈ named, '|' ∉ Text.asciiLower entry.1.toList := by decide
    refine barless entry (List.mem_of_find?_eq_some listed) ?_
    rw [eq_of_beq sameName]
    exact Text.bar_mem_asciiLower trimmedBar
  · simp only [writtenOffset?] at written
    split at written
    · rename_i rest shape
      rw [shape] at trimmedBar
      exact noBar_of_offsetSize? written (by simpa using trimmedBar)
    · rename_i rest shape
      rw [shape] at trimmedBar
      obtain ⟨size, known, -⟩ := Option.map_eq_some_iff.mp written
      exact noBar_of_offsetSize? known (by simpa using trimmedBar)
    · cases written

end Herald
