/- What a cache loses and what it is given.

A look-up, a purge and a clearing only lose entries (`Shrinks`). An insertion gives its own key
the value inserted or nothing at all (`find?_insert_key`), and gives nothing to another key
(`find?_insert_of_ne`). -/
import Herald.Proofs.Cache.History
namespace Herald
set_option autoImplicit false
namespace Cache
variable {α : Type} {cache : Cache α} {time : Nat} {key other : String} {value : α} {entry : CacheEntry α}

/-- What the later cache holds for a key, the earlier one holds for it too. -/
structure Shrinks (earlier later : Cache α) : Prop where
  ordered : Dict.Ordered later.entries
  held : ∀ key entry, Dict.find? key later.entries = some entry →
    Dict.find? key earlier.entries = some entry

namespace Shrinks

theorem refl (ordered : Dict.Ordered cache.entries) : Shrinks cache cache := ⟨ordered, fun _ _ => id⟩

theorem filter (ordered : Dict.Ordered cache.entries) (keep : String × CacheEntry α → Bool) :
    Shrinks cache (cache.withEntries (cache.entries.filter keep)) where
  ordered := List.Pairwise.filter _ ordered
  held key entry found := by
    simp only [withEntries, Dict.find?_filter ordered, Option.filter_eq_some_iff] at found
    exact found.1

theorem purge (ordered : Dict.Ordered cache.entries) : Shrinks cache (cache.purge time).2 :=
  filter ordered _

theorem get (ordered : Dict.Ordered cache.entries) : Shrinks cache (cache.get time key).2 := by
  simp only [Cache.get]
  split
  · exact refl ordered
  · split
    · exact filter ordered _
    · exact refl ordered

theorem clear : Shrinks cache cache.clear := ⟨Dict.ordered_nil, fun _ _ found => nomatch found⟩

/-- A cache that shrinks gets no new entry. -/
theorem mem {earlier later : Cache α} (shrinks : Shrinks earlier later)
    {entry : String × CacheEntry α} (inside : entry ∈ later.entries) : entry ∈ earlier.entries :=
  Dict.mem_of_find? (shrinks.held _ _ ((Dict.find?_eq_some_iff shrinks.ordered).mpr inside))

end Shrinks

/-- A look-up that finds something leaves the cache alone. -/
theorem get_of_found (found : (cache.get time key).1 = some value) : (cache.get time key).2 = cache := by
  simp only [get] at found ⊢
  split at found
  · cases found
  · split at found
    · cases found
    · rename_i live
      rw [if_neg live]

theorem ordered_insert (ordered : Dict.Ordered cache.entries) :
    Dict.Ordered (cache.insert time key value).2.entries := by
  simp only [insert]
  split
  · exact Dict.ordered_insert ordered
  · split
    · exact Dict.ordered_insert (Shrinks.purge ordered).ordered
    · exact (Shrinks.purge ordered).ordered

/-- After an insertion its key holds the value inserted, or nothing. -/
theorem find?_insert_key (found : Dict.find? key (cache.insert time key value).2.entries = some entry) :
    entry = ⟨value, time⟩ := by
  simp only [insert] at found
  split at found
  · exact (Option.some.inj (find?_store_self.symm.trans found)).symm
  · rename_i full
    split at found
    · exact (Option.some.inj (find?_store_self.symm.trans found)).symm
    · have listed := List.mem_map_of_mem (f := Prod.fst) (mem_purge (Dict.mem_of_find? found))
      exact absurd (Dict.contains_iff_mem_names.mpr listed) (by simp_all)

/-- An insertion gives nothing to another key. -/
theorem find?_insert_of_ne (ordered : Dict.Ordered cache.entries) (different : other ≠ key)
    (found : Dict.find? other (cache.insert time key value).2.entries = some entry) :
    Dict.find? other cache.entries = some entry := by
  have purged : Shrinks cache (cache.purge time).2 := .purge ordered
  simp only [insert] at found
  split at found
  · rwa [find?_store_of_ne different] at found
  · split at found
    · rw [find?_store_of_ne different] at found
      exact purged.held other entry found
    · exact purged.held other entry found

end Cache
end Herald
