/- What the operations of a cache leave in it.

An insertion adds the entry that it is asked to add, and nothing else ever enters a cache:
every other entry was there before. -/
import Herald.Cache
namespace Herald
set_option autoImplicit false
namespace Cache
variable {α : Type} {cache : Cache α} {time : Nat} {key : String}

theorem mem_purge {entry : String × CacheEntry α} (inside : entry ∈ (cache.purge time).2.entries) :
    entry ∈ cache.entries :=
  (List.mem_filter.mp inside).1

theorem mem_get {entry : String × CacheEntry α} (inside : entry ∈ (cache.get time key).2.entries) :
    entry ∈ cache.entries := by
  simp only [get] at inside
  split at inside
  · exact inside
  · split at inside
    · exact (List.mem_filter.mp inside).1
    · exact inside

/-- A value that is found is that of an entry of the key. -/
theorem get_eq_some {value : α} (found : (cache.get time key).1 = some value) :
    ∃ entry, (key, entry) ∈ cache.entries ∧ entry.value = value := by
  simp only [get] at found
  split at found
  · cases found
  · rename_i entry present
    split at found
    · cases found
    · exact ⟨entry, Dict.mem_of_find? present, Option.some.inj found⟩

theorem mem_insert {value : α} {entry : String × CacheEntry α}
    (inside : entry ∈ (cache.insert time key value).2.entries) :
    entry = (key, ⟨value, time⟩) ∨ entry ∈ cache.entries := by
  simp only [insert] at inside
  split at inside
  · exact Dict.mem_insert inside
  · split at inside
    · exact (Dict.mem_insert inside).imp id mem_purge
    · exact Or.inr (mem_purge inside)

end Cache
end Herald
