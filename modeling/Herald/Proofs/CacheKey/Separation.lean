/- Which requests share a key.

The two digests of a computed key determine the texts under them, these determine template and
data, and locale and zone up to the place of the bar between them. So two requests share a key
exactly if they agree in template and data and in locale and zone joined by a bar
(`Request.key_eq_iff`). A bar in a locale or a zone can take the place of that bar
(`Request.Example.keys_shift_bar`); a locale or a zone that can be read holds none
(`Locale.noBar_of_read?`, `Zone.noBar_of_read?`). -/
import Herald.Proofs.Transparency
namespace Herald
set_option autoImplicit false

namespace Request

/-- The locale and the zone of a request as its key sees them. -/
def joinedZone (request : Request) : String :=
  request.options.locale ++ "|" ++ request.options.timezone

/-- Two requests agree in template and data, and in locale and zone with the bar between
them. -/
def Alike (left right : Request) : Prop :=
  left.template = right.template ∧ left.data = right.data ∧ left.joinedZone = right.joinedZone

/-- Two requests agree in template, data, locale and zone. -/
def Agree (left right : Request) : Prop :=
  left.template = right.template ∧ left.data = right.data ∧
    left.options.locale = right.options.locale ∧ left.options.timezone = right.options.timezone

section Keys
variable {left right : Request}

/-- The text of data, locale and zone by way of the joined ones. -/
theorem dataText_eq (request : Request) :
    CacheKey.dataText request.data request.options.locale request.options.timezone =
      request.data.compact ++ "|" ++ request.joinedZone := by
  simp only [CacheKey.dataText, joinedZone, String.append_assoc]

/-- Requests that are alike have one key. -/
theorem Alike.key_eq (alike : Alike left right) (own : left.options.cacheKey = none)
    (own' : right.options.cacheKey = none) : left.key = right.key := by
  obtain ⟨template, data, zones⟩ := alike
  have texts : CacheKey.dataText left.data left.options.locale left.options.timezone =
      CacheKey.dataText right.data right.options.locale right.options.timezone := by
    rw [dataText_eq, dataText_eq, data, zones]
  simp only [key, CacheKey.ofRender, own, own', Option.getD_none, CacheKey.computed, texts, template]

/-- Requests of one computed key are alike. -/
theorem alike_of_key_eq (own : left.options.cacheKey = none) (own' : right.options.cacheKey = none)
    (collisionFree : Digest.CollisionFree (left.hashedTexts ++ right.hashedTexts))
    (apart : Value.PrintApart (left.data.numbers ++ right.data.numbers))
    (keys : left.key = right.key) : Alike left right := by
  simp only [key, CacheKey.ofRender, own, own', Option.getD_none] at keys
  obtain ⟨templateDigests, dataDigests⟩ := CacheKey.digests_of_computed_eq keys
  have templateTexts := collisionFree _ (by simp [hashedTexts]) _ (by simp [hashedTexts]) templateDigests
  have dataTexts := collisionFree _ (by simp [hashedTexts]) _ (by simp [hashedTexts]) dataDigests
  obtain ⟨data, zones⟩ := CacheKey.dataText_split apart (by simp) (by simp) dataTexts
  refine ⟨CacheKey.templateText_injective templateTexts, data, ?_⟩
  have bar : "|".toList = ['|'] := by decide
  rw [← String.toList_inj]
  simpa [joinedZone, bar] using zones

/-- Where the bar is the only one, requests that are alike agree. -/
theorem Alike.agree (alike : Alike left right) (noBar : '|' ∉ left.options.locale.toList)
    (noBar' : '|' ∉ left.options.timezone.toList) : Agree left right := by
  obtain ⟨template, data, zones⟩ := alike
  have bar : "|".toList = ['|'] := by decide
  have texts := congrArg String.toList zones
  simp only [joinedZone, String.toList_append, bar, List.append_assoc, List.singleton_append] at texts
  obtain ⟨locales, timezones⟩ := Text.append_inj_of_notMem noBar noBar' texts
  exact ⟨template, data, String.toList_inj.mp locales, String.toList_inj.mp timezones⟩

theorem Agree.alike (agree : Agree left right) : Alike left right := by
  obtain ⟨template, data, locale, timezone⟩ := agree
  exact ⟨template, data, by simp only [joinedZone, locale, timezone]⟩

end Keys

/-- **Which requests share a key.** Let two requests bring no keys of their own, let the digest
have no collision among the texts hashed for them, and let the numbers in their data print
apart. They share a key exactly if they agree in template, in data, and in locale and zone with
a bar between them. If one of them has no further bar in its locale and its zone, they share a
key exactly if they agree in all four. -/
theorem key_eq_iff (left right : Request) (own : left.options.cacheKey = none)
    (own' : right.options.cacheKey = none)
    (collisionFree : Digest.CollisionFree (left.hashedTexts ++ right.hashedTexts))
    (apart : Value.PrintApart (left.data.numbers ++ right.data.numbers)) :
    (left.key = right.key ↔ Alike left right) ∧
      ('|' ∉ left.options.locale.toList → '|' ∉ left.options.timezone.toList →
        (left.key = right.key ↔ Agree left right)) := by
  have shared : left.key = right.key ↔ Alike left right :=
    ⟨alike_of_key_eq own own' collisionFree apart, fun alike => alike.key_eq own own'⟩
  refine ⟨shared, fun noBar noBar' => shared.trans ⟨fun alike => ?_, Agree.alike⟩⟩
  exact alike.agree noBar noBar'

/-! ## A bar that moves -/

namespace Example

/-- A request with a locale and a zone. -/
def placed (locale timezone : String) : Request :=
  ⟨⟨none, "Hello", none⟩, .object [("n", .number (.int 1))], { locale := locale, timezone := timezone }⟩

theorem placed_collisionFree :
    Digest.CollisionFree ((placed "a|b" "c").hashedTexts ++ (placed "a" "b|c").hashedTexts) := by
  decide +kernel

theorem placed_apart :
    Value.PrintApart ((placed "a|b" "c").data.numbers ++ (placed "a" "b|c").data.numbers) := by
  decide

theorem key_eq_iff_placed :
    (placed "a|b" "c").options.cacheKey = none ∧ (placed "a" "b|c").options.cacheKey = none ∧
      Digest.CollisionFree ((placed "a|b" "c").hashedTexts ++ (placed "a" "b|c").hashedTexts) ∧
      Value.PrintApart ((placed "a|b" "c").data.numbers ++ (placed "a" "b|c").data.numbers) ∧
      (placed "a|b" "c").key = (placed "a" "b|c").key ∧ ¬ Agree (placed "a|b" "c") (placed "a" "b|c") := by
  have shared := (key_eq_iff (placed "a|b" "c") (placed "a" "b|c") rfl rfl placed_collisionFree
    placed_apart).1
  refine ⟨rfl, rfl, placed_collisionFree, placed_apart, shared.mpr ⟨rfl, rfl, by decide⟩, ?_⟩
  exact fun agree => absurd agree.2.2.1 (by decide)

/-- Locale and zone are not told apart where one of them holds a bar. -/
theorem keys_shift_bar :
    ¬ ∀ left right : Request, left.options.cacheKey = none → right.options.cacheKey = none →
      Digest.CollisionFree (left.hashedTexts ++ right.hashedTexts) →
      Value.PrintApart (left.data.numbers ++ right.data.numbers) →
      (left.key = right.key ↔ Agree left right) := by
  intro separates
  have alike : Alike (placed "a|b" "c") (placed "a" "b|c") := ⟨rfl, rfl, by decide⟩
  have agree := (separates _ _ rfl rfl placed_collisionFree placed_apart).mp (alike.key_eq rfl rfl)
  exact absurd agree.2.2.1 (by decide)

end Example

end Request
end Herald
