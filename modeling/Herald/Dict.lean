/- Finite maps from names, kept as association lists in name order.

Names are ordered by their characters' code points. `insert` keeps the order and holds one
entry for a name, so a map has one form and its entries are read off in name order. A map is
seen through `find?`; the laws below say what each operation does to that view and to the number
of entries, and that each keeps the order. -/
namespace Herald
set_option autoImplicit false

/-- A finite map from names: entries in strictly increasing name order. -/
abbrev Dict (α : Type) := List (String × α)

namespace Dict
variable {α : Type}

/-- The names are strictly increasing. -/
def Ordered (entries : Dict α) : Prop := entries.Pairwise (fun earlier later => earlier.1 < later.1)

/-- The entry of a name. -/
def find? (name : String) : Dict α → Option α
  | [] => none
  | (key, value) :: rest => if key = name then some value else find? name rest

/-- The map with a new or replaced entry. -/
def insert (name : String) (value : α) : Dict α → Dict α
  | [] => [(name, value)]
  | (key, held) :: rest =>
    if name < key then (name, value) :: (key, held) :: rest
    else if key = name then (name, value) :: rest
    else (key, held) :: insert name value rest

/-- The map without the entry of a name. -/
def erase (name : String) (entries : Dict α) : Dict α := entries.filter (fun entry => entry.1 != name)

/-- Whether a name has an entry. -/
def contains (name : String) (entries : Dict α) : Bool := (find? name entries).isSome

/-- The names in order. -/
def names (entries : Dict α) : List String := entries.map Prod.fst

/-- The map of a list of entries; of two entries for one name the later counts. -/
def ofList (entries : List (String × α)) : Dict α :=
  entries.foldl (fun built entry => insert entry.1 entry.2 built) []

/-- The map with every entry changed. -/
def mapValues {β : Type} (change : α → β) (entries : Dict α) : Dict β :=
  entries.map fun entry => (entry.1, change entry.2)

/-- The first map with every entry of the second put over it. -/
def overlay (below above : Dict α) : Dict α :=
  above.foldl (fun built entry => insert entry.1 entry.2 built) below

variable {entries : Dict α} {name other : String} {value : α}

@[simp] theorem find?_nil : find? name ([] : Dict α) = none := rfl

/-- An entry is found under its name. -/
@[simp] theorem find?_insert_self : find? name (insert name value entries) = some value := by
  induction entries with
  | nil => simp [insert, find?]
  | cons entry rest ih =>
    obtain ⟨key, held⟩ := entry
    by_cases before : name < key
    · simp [insert, find?, before]
    · by_cases hit : key = name <;> simp [insert, find?, before, hit, ih]

/-- An insertion leaves the other names alone. -/
theorem find?_insert_of_ne (different : other ≠ name) :
    find? other (insert name value entries) = find? other entries := by
  induction entries with
  | nil => simp [insert, find?, different.symm]
  | cons entry rest ih =>
    obtain ⟨key, held⟩ := entry
    by_cases before : name < key
    · simp [insert, find?, before, different.symm]
    · by_cases hit : key = name
      · subst hit
        simp [insert, find?, different.symm]
      · simp [insert, find?, before, hit, ih]

/-- A name's entry in a changed map is its entry, changed. -/
@[simp] theorem find?_mapValues {β : Type} {change : α → β} :
    find? name (mapValues change entries) = (find? name entries).map change := by
  induction entries with
  | nil => rfl
  | cons entry rest ih =>
    obtain ⟨key, held⟩ := entry
    by_cases hit : key = name
    · simp [mapValues, find?, hit]
    · simpa [mapValues, find?, hit] using ih

/-- A change that can be taken back. -/
theorem mapValues_cancel {β : Type} {change : α → β} {back : β → α}
    (cancel : ∀ value, back (change value) = value) (entries : Dict α) :
    mapValues back (mapValues change entries) = entries := by
  rw [mapValues, mapValues, List.map_map]
  exact List.map_id'' (fun entry => congrArg (Prod.mk entry.1) (cancel entry.2)) entries

/-- A removed name is not found. -/
@[simp] theorem find?_erase_self : find? name (erase name entries) = none := by
  induction entries with
  | nil => rfl
  | cons entry rest ih =>
    by_cases hit : entry.1 = name <;> simp_all [erase, find?]

/-- A removal leaves the other names alone. -/
theorem find?_erase_of_ne (different : other ≠ name) :
    find? other (erase name entries) = find? other entries := by
  induction entries with
  | nil => rfl
  | cons entry rest ih =>
    obtain ⟨key, held⟩ := entry
    by_cases hit : key = name
    · subst hit
      simpa [erase, find?, different.symm] using ih
    · have kept : erase name ((key, held) :: rest) = (key, held) :: erase name rest := by
        simp [erase, hit]
      simp only [kept, find?, ih]

/-- The entries of an insertion are the new one and old ones. -/
theorem mem_insert {entry : String × α} (inside : entry ∈ insert name value entries) :
    entry = (name, value) ∨ entry ∈ entries := by
  induction entries with
  | nil => exact Or.inl (by simpa [insert] using inside)
  | cons first rest ih =>
    obtain ⟨key, held⟩ := first
    simp only [insert] at inside
    split at inside
    · simpa using inside
    · split at inside
      · rcases List.mem_cons.mp inside with new | old
        · exact Or.inl new
        · exact Or.inr (List.mem_cons_of_mem _ old)
      · rcases List.mem_cons.mp inside with same | deeper
        · exact Or.inr (by simp [same])
        · exact (ih deeper).imp id (List.mem_cons_of_mem _)

/-- What is found under a name is an entry of that name. -/
theorem mem_of_find? (found : find? name entries = some value) : (name, value) ∈ entries := by
  induction entries with
  | nil => cases found
  | cons entry rest ih =>
    obtain ⟨key, held⟩ := entry
    by_cases hit : key = name
    · simp only [find?, hit, if_true, Option.some.injEq] at found
      simp [hit, found]
    · simp only [find?, hit, if_false] at found
      exact List.mem_cons_of_mem _ (ih found)

/-- Every entry of the map of a list is in the list. -/
theorem mem_ofList {listed : List (String × α)} {entry : String × α} (inside : entry ∈ ofList listed) :
    entry ∈ listed := by
  have kept : ∀ (rest : List (String × α)) (built : Dict α),
      entry ∈ rest.foldl (fun built entry => insert entry.1 entry.2 built) built →
        entry ∈ built ∨ entry ∈ rest := by
    intro rest
    induction rest with
    | nil => exact fun _ => Or.inl
    | cons next more ih =>
      intro built deep
      rcases ih _ deep with early | late
      · rcases mem_insert early with new | old
        · exact Or.inr (by simp [new])
        · exact Or.inl old
      · exact Or.inr (List.mem_cons_of_mem _ late)
  simpa using kept listed [] inside

/-- Entries for other names leave a name alone. -/
theorem find?_foldl_insert {listed : List (String × α)} (absent : name ∉ listed.map Prod.fst) :
    ∀ built : Dict α, find? name (listed.foldl (fun built entry => insert entry.1 entry.2 built) built) =
      find? name built := by
  induction listed with
  | nil => exact fun _ => rfl
  | cons entry rest ih =>
    intro built
    obtain ⟨different, later⟩ := not_or.mp (mt List.mem_cons.mpr absent)
    rw [List.foldl_cons, ih later, find?_insert_of_ne different]

/-- In the map of a list that holds a name once, the name has its entry. -/
theorem find?_ofList {listed : List (String × α)} (distinct : (listed.map Prod.fst).Nodup)
    (inside : (name, value) ∈ listed) : find? name (ofList listed) = some value := by
  have found : ∀ built : Dict α,
      find? name (listed.foldl (fun built entry => insert entry.1 entry.2 built) built) = some value := by
    induction listed with
    | nil => cases inside
    | cons entry rest ih =>
      intro built
      obtain ⟨absent, others⟩ := List.nodup_cons.mp distinct
      rw [List.foldl_cons]
      rcases List.mem_cons.mp inside with same | later
      · subst same
        rw [find?_foldl_insert absent, find?_insert_self]
      · exact ih others later _
  exact found []

/-- The empty map is in order. -/
theorem ordered_nil : Ordered ([] : Dict α) := List.Pairwise.nil

/-- An insertion keeps the order. -/
theorem ordered_insert (ordered : Ordered entries) : Ordered (insert name value entries) := by
  induction entries with
  | nil => exact List.pairwise_singleton _ _
  | cons first rest ih =>
    obtain ⟨key, held⟩ := first
    have later : ∀ entry ∈ rest, key < entry.1 := (List.pairwise_cons.mp ordered).1
    have tail : Ordered rest := (List.pairwise_cons.mp ordered).2
    simp only [insert]
    split
    · rename_i before
      refine List.pairwise_cons.mpr ⟨fun entry inside => ?_, ordered⟩
      rcases List.mem_cons.mp inside with rfl | inside
      · exact before
      · exact String.lt_trans before (later entry inside)
    · rename_i notBefore
      split
      · rename_i hit
        exact List.pairwise_cons.mpr ⟨fun entry inside => hit ▸ later entry inside, tail⟩
      · rename_i miss
        refine List.pairwise_cons.mpr ⟨fun entry inside => ?_, ih tail⟩
        rcases mem_insert inside with rfl | inside
        · exact Std.lt_of_le_of_ne (String.not_lt.mp notBefore) miss
        · exact later entry inside

/-- A removal keeps the order. -/
theorem ordered_erase (ordered : Ordered entries) : Ordered (erase name entries) :=
  List.Pairwise.filter _ ordered

/-- No name has two entries. -/
theorem names_nodup (ordered : Ordered entries) : (names entries).Nodup :=
  (List.pairwise_map.mpr ordered).imp String.ne_of_lt

/-- A name is found when it is one of the names. -/
theorem contains_iff_mem_names : contains name entries = true ↔ name ∈ names entries := by
  induction entries with
  | nil => simp [contains, find?, names]
  | cons entry rest ih =>
    obtain ⟨key, held⟩ := entry
    by_cases hit : key = name
    · simp [contains, find?, names, hit]
    · simpa [contains, find?, names, hit, Ne.symm hit] using ih

/-- An entry of an ordered map is the one found under its name. -/
theorem find?_eq_some_iff (ordered : Ordered entries) :
    find? name entries = some value ↔ (name, value) ∈ entries := by
  refine ⟨mem_of_find?, fun inside => ?_⟩
  induction entries with
  | nil => cases inside
  | cons entry rest ih =>
    obtain ⟨key, held⟩ := entry
    obtain ⟨later, tail⟩ := List.pairwise_cons.mp ordered
    rcases List.mem_cons.mp inside with same | deeper
    · cases same
      simp [find?]
    · have behind : key ≠ name := String.ne_of_lt (later _ deeper)
      simpa [find?, behind] using ih tail deeper

/-- What is left of an ordered map by a test on its entries. -/
theorem find?_filter (ordered : Ordered entries) (keep : String × α → Bool) :
    find? name (entries.filter keep) = (find? name entries).filter fun value => keep (name, value) := by
  have kept : Ordered (entries.filter keep) := List.Pairwise.filter _ ordered
  refine Option.ext fun value => ?_
  rw [find?_eq_some_iff kept, List.mem_filter, Option.filter_eq_some_iff, find?_eq_some_iff ordered]

/-- A new name adds an entry. -/
theorem length_insert_of_absent (absent : find? name entries = none) :
    (insert name value entries).length = entries.length + 1 := by
  induction entries with
  | nil => rfl
  | cons entry rest ih =>
    obtain ⟨key, held⟩ := entry
    by_cases hit : key = name
    · simp [find?, hit] at absent
    · by_cases before : name < key
      · simp [insert, before]
      · simpa [insert, before, hit] using ih (by simpa [find?, hit] using absent)

/-- A known name keeps the number of entries. -/
theorem length_insert_of_present (ordered : Ordered entries) (present : contains name entries = true) :
    (insert name value entries).length = entries.length := by
  induction entries with
  | nil => cases present
  | cons entry rest ih =>
    obtain ⟨key, held⟩ := entry
    obtain ⟨later, tail⟩ := List.pairwise_cons.mp ordered
    by_cases hit : key = name
    · simp [insert, hit]
    · have deeper : contains name rest = true := by simpa [contains, find?, hit] using present
      obtain ⟨⟨other, found⟩, inside, rfl⟩ := List.mem_map.mp (contains_iff_mem_names.mp deeper)
      have notBefore : ¬ other < key := String.lt_asymm (later _ inside)
      simpa [insert, hit, notBefore] using ih tail deeper

/-- A name that is not there is not removed. -/
theorem erase_of_absent (absent : find? name entries = none) : erase name entries = entries := by
  refine List.filter_eq_self.mpr fun entry inside => ?_
  have notFound : name ∉ names entries := by
    rw [← contains_iff_mem_names, contains, absent]
    exact Bool.false_ne_true
  have other : entry.1 ≠ name := fun same => notFound (same ▸ List.mem_map_of_mem inside)
  simpa using other

/-- A known name takes one entry with it. -/
theorem length_erase_of_present (ordered : Ordered entries) (present : contains name entries = true) :
    (erase name entries).length + 1 = entries.length := by
  induction entries with
  | nil => cases present
  | cons entry rest ih =>
    obtain ⟨key, held⟩ := entry
    obtain ⟨later, tail⟩ := List.pairwise_cons.mp ordered
    by_cases hit : key = name
    · subst hit
      have absent : find? key rest = none := by
        refine Option.eq_none_iff_forall_ne_some.mpr fun value found => ?_
        exact String.lt_irrefl key (later (key, value) (mem_of_find? found))
      have rest_kept := erase_of_absent absent
      simp only [erase] at rest_kept
      simp [erase, rest_kept]
    · have deeper : contains name rest = true := by simpa [contains, find?, hit] using present
      have shorter := ih tail deeper
      simp only [erase] at shorter
      simpa [erase, hit] using shorter

end Dict
end Herald
