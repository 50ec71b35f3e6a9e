/- A cache as a bounded map whose entries live for a time.

The history of a cache tells what each key was last given: by the latest accepted insertion of
the key, unless the cache was cleared since (`lastStored?`). A cache `Tracks` its history when
it is within its capacity, its gauge is right, every entry that it holds is what its key was
last given, and everything last given that is still alive is held. What is lost is lost by
growing old: a look-up, a purge and a refused insertion all leave out expired entries only
(`Tracks.filter`). `Tracks.perform` carries the invariant through one call on a clock that does
not go back, `Tracks.run` through any number of calls, and `run_bounded` says what follows for
the answers of a cache after any run. -/
import Herald.Proofs.Cache
namespace Herald
set_option autoImplicit false
namespace Cache
variable {α : Type}

/-! ## Runs -/

/-- What a cache can be asked to do. -/
inductive Operation (α : Type) where
  | insert (key : String) (value : α)
  | get (key : String)
  | purge
  | clear

/-- An operation at a time. -/
structure Call (α : Type) where
  time : Nat
  operation : Operation α

/-- What an operation answers. -/
inductive Outcome (α : Type) where
  | inserted (accepted : Bool)
  | found (value : Option α)
  | purged (removed : Nat)
  | cleared

/-- The outcome of a call, and the cache after it. -/
def perform (cache : Cache α) (call : Call α) : Outcome α × Cache α :=
  match call.operation with
  | .insert key value =>
    let (accepted, next) := cache.insert call.time key value
    (.inserted accepted, next)
  | .get key =>
    let (value, next) := cache.get call.time key
    (.found value, next)
  | .purge =>
    let (removed, next) := cache.purge call.time
    (.purged removed, next)
  | .clear => (.cleared, cache.clear)

/-- Calls with their outcomes, the latest first. -/
abbrev History (α : Type) := List (Call α × Outcome α)

/-- A history and the cache after it, after one more call. -/
def follow (past : History α × Cache α) (call : Call α) : History α × Cache α :=
  let (outcome, next) := past.2.perform call
  ((call, outcome) :: past.1, next)

/-- The history of a run of calls, and the cache after it. -/
def run (cache : Cache α) (calls : List (Call α)) : History α × Cache α :=
  calls.foldl follow ([], cache)

/-- What a key was last given, and when: by its latest accepted insertion since the cache was
last cleared. -/
def lastStored? (key : String) : History α → Option (CacheEntry α)
  | [] => none
  | (⟨time, .insert other value⟩, .inserted true) :: earlier =>
    if other = key then some ⟨value, time⟩ else lastStored? key earlier
  | (⟨_, .clear⟩, _) :: _ => none
  | _ :: earlier => lastStored? key earlier

/-- The entries that have not outlived their time. -/
def liveEntries (cache : Cache α) (time : Nat) : Dict (CacheEntry α) :=
  cache.entries.filter fun entry => !cache.expired time entry.2

section Storing
variable {cache : Cache α} {time : Nat} {key other : String} {value : α} {history : History α}

theorem find?_store_self :
    Dict.find? key (cache.store time key value).entries = some ⟨value, time⟩ :=
  Dict.find?_insert_self

theorem find?_store_of_ne (different : other ≠ key) :
    Dict.find? other (cache.store time key value).entries = Dict.find? other cache.entries :=
  Dict.find?_insert_of_ne different

theorem lastStored?_insert_self :
    lastStored? key ((⟨time, .insert key value⟩, .inserted true) :: history) = some ⟨value, time⟩ :=
  if_pos rfl

theorem lastStored?_insert_of_ne (different : other ≠ key) :
    lastStored? other ((⟨time, .insert key value⟩, .inserted true) :: history) =
      lastStored? other history :=
  if_neg different.symm

end Storing

/-! ## The invariant -/

/-- What an entry that grew old once stays. -/
theorem expired_later {cache : Cache α} {time later : Nat} (order : time ≤ later) {entry : CacheEntry α}
    (expired : cache.expired time entry = true) : cache.expired later entry = true := by
  simp only [Cache.expired, decide_eq_true_eq] at expired ⊢
  omega

/-- A cache that agrees with its history. -/
structure Tracks (lifetime capacity : Nat) (history : History α) (time : Nat) (cache : Cache α) :
    Prop where
  lifetime_eq : cache.lifetime = lifetime
  capacity_eq : cache.capacity = capacity
  ordered : Dict.Ordered cache.entries
  bounded : cache.size ≤ capacity
  reported : cache.gauge = cache.size
  held : ∀ key entry, Dict.find? key cache.entries = some entry → lastStored? key history = some entry
  alive : ∀ key entry, lastStored? key history = some entry → cache.expired time entry = false →
    Dict.find? key cache.entries = some entry
  past : ∀ key entry, lastStored? key history = some entry → entry.storedAt ≤ time

namespace Tracks
variable {lifetime capacity time now : Nat} {history : History α} {cache : Cache α}

theorem empty : Tracks lifetime capacity ([] : History α) time (Cache.empty lifetime capacity) where
  lifetime_eq := rfl
  capacity_eq := rfl
  ordered := Dict.ordered_nil
  bounded := Nat.zero_le _
  reported := rfl
  held _ _ found := nomatch found
  alive _ _ given := nomatch given
  past _ _ given := nomatch given

/-- Time may pass. -/
theorem later (tracks : Tracks lifetime capacity history time cache) (order : time ≤ now) :
    Tracks lifetime capacity history now cache :=
  { tracks with
    alive := fun key entry given alive => by
      refine tracks.alive key entry given (Bool.eq_false_iff.mpr fun expired => ?_)
      rw [expired_later order expired] at alive
      cases alive
    past := fun key entry given => Nat.le_trans (tracks.past key entry given) order }

/-- Calls that give no key anything may be added to the history. -/
theorem of_lastStored?_eq (tracks : Tracks lifetime capacity history time cache) {longer : History α}
    (same : ∀ key, lastStored? key longer = lastStored? key history) :
    Tracks lifetime capacity longer time cache :=
  { tracks with
    held := fun key entry found => (same key).trans (tracks.held key entry found)
    alive := fun key entry given => tracks.alive key entry ((same key).symm.trans given)
    past := fun key entry given => tracks.past key entry ((same key).symm.trans given) }

/-- **Expired entries may be left out.** -/
theorem filter (tracks : Tracks lifetime capacity history time cache)
    {keep : String × CacheEntry α → Bool}
    (live : ∀ key entry, Dict.find? key cache.entries = some entry → cache.expired time entry = false →
      keep (key, entry) = true) :
    Tracks lifetime capacity history time (cache.withEntries (cache.entries.filter keep)) where
  lifetime_eq := tracks.lifetime_eq
  capacity_eq := tracks.capacity_eq
  ordered := List.Pairwise.filter _ tracks.ordered
  bounded := Nat.le_trans (List.length_filter_le _ _) tracks.bounded
  reported := rfl
  held key entry found := by
    refine tracks.held key entry ?_
    simp only [withEntries, Dict.find?_filter tracks.ordered, Option.filter_eq_some_iff] at found
    exact found.1
  alive key entry given alive := by
    have present := tracks.alive key entry given alive
    simp only [withEntries, Dict.find?_filter tracks.ordered, Option.filter_eq_some_iff]
    exact ⟨present, live key entry present alive⟩
  past := tracks.past

/-- **A key may be given a value** where there is room for it. -/
theorem store (tracks : Tracks lifetime capacity history time cache) {key : String} {value : α}
    (room : cache.size < capacity ∨ Dict.contains key cache.entries = true) :
    Tracks lifetime capacity ((⟨time, .insert key value⟩, .inserted true) :: history) time
      (cache.store time key value) where
  lifetime_eq := tracks.lifetime_eq
  capacity_eq := tracks.capacity_eq
  ordered := Dict.ordered_insert tracks.ordered
  bounded := by
    show (Dict.insert key ⟨value, time⟩ cache.entries).length ≤ capacity
    have within := tracks.bounded
    simp only [size] at room within
    by_cases present : Dict.contains key cache.entries = true
    · rw [Dict.length_insert_of_present tracks.ordered present]
      exact within
    · have absent : Dict.find? key cache.entries = none := by simpa [Dict.contains] using present
      rw [Dict.length_insert_of_absent absent]
      exact room.resolve_right present
  reported := rfl
  held other entry found := by
    by_cases same : other = key
    · subst same
      rw [find?_store_self] at found
      rw [lastStored?_insert_self, found]
    · rw [find?_store_of_ne same] at found
      rw [lastStored?_insert_of_ne same]
      exact tracks.held other entry found
  alive other entry given alive := by
    by_cases same : other = key
    · subst same
      rw [lastStored?_insert_self] at given
      rw [find?_store_self, given]
    · rw [lastStored?_insert_of_ne same] at given
      rw [find?_store_of_ne same]
      exact tracks.alive other entry given alive
  past other entry given := by
    by_cases same : other = key
    · subst same
      rw [lastStored?_insert_self] at given
      cases given
      exact Nat.le_refl time
    · rw [lastStored?_insert_of_ne same] at given
      exact tracks.past other entry given

theorem clear (tracks : Tracks lifetime capacity history time cache) :
    Tracks lifetime capacity ((⟨time, .clear⟩, .cleared) :: history) time cache.clear where
  lifetime_eq := tracks.lifetime_eq
  capacity_eq := tracks.capacity_eq
  ordered := Dict.ordered_nil
  bounded := Nat.zero_le _
  reported := rfl
  held _ _ found := nomatch found
  alive _ _ given := nomatch given
  past _ _ given := nomatch given

theorem purge (tracks : Tracks lifetime capacity history time cache) :
    Tracks lifetime capacity history time (cache.purge time).2 :=
  tracks.filter fun _ _ _ alive => by simp [alive]

theorem get (tracks : Tracks lifetime capacity history time cache) (key : String) :
    Tracks lifetime capacity history time (cache.get time key).2 := by
  simp only [Cache.get]
  split
  · exact tracks
  · rename_i entry present
    split
    · rename_i expired
      refine tracks.filter fun other kept found alive => ?_
      have different : other ≠ key := by
        rintro rfl
        rw [present] at found
        rw [← Option.some.inj found, expired] at alive
        cases alive
      simpa using different
    · exact tracks

theorem insert (tracks : Tracks lifetime capacity history time cache) (key : String) (value : α) :
    Tracks lifetime capacity
      ((⟨time, .insert key value⟩, .inserted (cache.insert time key value).1) :: history) time
      (cache.insert time key value).2 := by
  simp only [Cache.insert]
  split
  · rename_i room
    have room : cache.size < capacity ∨ Dict.contains key cache.entries = true := by
      simpa [tracks.capacity_eq] using room
    exact tracks.store room
  · split
    · rename_i room
      have room : (cache.purge time).2.size < capacity := by
        rwa [tracks.purge.capacity_eq] at room
      exact tracks.purge.store (.inl room)
    · exact tracks.purge.of_lastStored?_eq fun _ => rfl

/-- **A call keeps a cache in agreement with its history.** -/
theorem perform {call : Call α} (tracks : Tracks lifetime capacity history call.time cache) :
    Tracks lifetime capacity ((call, (cache.perform call).1) :: history) call.time
      (cache.perform call).2 := by
  obtain ⟨time, operation⟩ := call
  cases operation with
  | insert key value => exact tracks.insert key value
  | get key => exact (tracks.get key).of_lastStored?_eq fun _ => rfl
  | purge => exact tracks.purge.of_lastStored?_eq fun _ => rfl
  | clear => exact tracks.clear

/-- **A run keeps a cache in agreement with its history**, as long as the clock does not go
back. -/
theorem run (tracks : Tracks lifetime capacity history time cache) (calls : List (Call α))
    (clock : (time :: (calls.map Call.time ++ [now])).Pairwise (· ≤ ·)) :
    Tracks lifetime capacity (calls.foldl follow (history, cache)).1 now
      (calls.foldl follow (history, cache)).2 := by
  induction calls generalizing history time cache with
  | nil =>
      have order : time ≤ now := (List.pairwise_cons.mp clock).1 now (by simp)
      exact tracks.later order
  | cons call rest ih =>
      obtain ⟨soonest, others⟩ := List.pairwise_cons.mp clock
      have order : time ≤ call.time := soonest call.time (by simp)
      exact ih (tracks.later order).perform others

end Tracks

/-! ## What a cache answers -/

section Answers
variable {cache : Cache α} {time : Nat} {key : String} {value : α}

/-- A look-up finds what a live entry of the key holds. -/
theorem get_eq_some_iff : (cache.get time key).1 = some value ↔
    ∃ entry, Dict.find? key cache.entries = some entry ∧ cache.expired time entry = false ∧
      entry.value = value := by
  simp only [get]
  cases Dict.find? key cache.entries with
  | none => simp
  | some entry => by_cases expired : cache.expired time entry = true <;> simp [expired]

/-- A new key is refused when the live entries fill the cache. -/
theorem insert_eq_false_iff : (cache.insert time key value).1 = false ↔
    Dict.contains key cache.entries = false ∧ cache.capacity ≤ (cache.liveEntries time).length := by
  have fewer : (cache.liveEntries time).length ≤ cache.size := List.length_filter_le _ _
  have purged : (cache.purge time).2.size = (cache.liveEntries time).length := rfl
  have sameCapacity : (cache.purge time).2.capacity = cache.capacity := rfl
  simp only [insert, Bool.or_eq_true, decide_eq_true_eq, purged, sameCapacity]
  by_cases present : Dict.contains key cache.entries = true
  · simp [present]
  · by_cases room : cache.size < cache.capacity
    · simp only [room, true_or, if_true, Bool.true_eq_false, false_iff, not_and, Nat.not_le]
      exact fun _ => Nat.lt_of_le_of_lt fewer room
    · by_cases freed : (cache.liveEntries time).length < cache.capacity
      · simp [present, room, freed, Nat.not_le.mpr freed]
      · simp [present, room, freed, Nat.not_lt.mp freed]

/-- A refused insertion leaves the live entries. -/
theorem entries_of_refused (refused : (cache.insert time key value).1 = false) :
    (cache.insert time key value).2.entries = cache.liveEntries time := by
  simp only [insert] at refused ⊢
  split at refused
  · cases refused
  · rename_i full
    rw [if_neg full]
    split at refused
    · cases refused
    · rename_i stillFull
      rw [if_neg stillFull]
      rfl

/-- A purge removes as many entries as had outlived their time. -/
theorem purge_count :
    (cache.purge time).1 = cache.entries.countP fun entry => cache.expired time entry.2 := by
  have parts := List.length_eq_countP_add_countP
    (fun entry : String × CacheEntry α => cache.expired time entry.2) (l := cache.entries)
  simp only [Bool.not_eq_true, Bool.decide_eq_false] at parts
  simp only [purge, size, ← List.countP_eq_length_filter]
  omega

/-- **A cache is a bounded map whose entries live for a time.** On a clock that does not go back,
after any run of calls on a new cache: there are no more entries than its capacity, and the gauge
is their number. A key is answered with a value exactly if the latest accepted insertion of the
key since the last clearing stored it less than the lifetime ago. An insertion is refused exactly
if its key has no entry and the live entries fill the cache, and then exactly the live entries
are left; a key that has an entry, be it expired, is never refused. A purge leaves the live
entries, and tells the number of the others. -/
theorem run_bounded (lifetime capacity : Nat) (calls : List (Call α)) (time : Nat)
    (clock : (calls.map Call.time ++ [time]).Pairwise (· ≤ ·)) :
    let ran := run (Cache.empty lifetime capacity) calls
    let cache := ran.2
    cache.size ≤ capacity ∧ cache.gauge = cache.size ∧
      (∀ key value, (cache.get time key).1 = some value ↔
        ∃ storedAt, lastStored? key ran.1 = some ⟨value, storedAt⟩ ∧ time < storedAt + lifetime) ∧
      (∀ key value, (cache.insert time key value).1 = false ↔
        Dict.contains key cache.entries = false ∧ capacity ≤ (cache.liveEntries time).length) ∧
      (∀ key value, (cache.insert time key value).1 = false →
        (cache.insert time key value).2.entries = cache.liveEntries time) ∧
      (∀ key value, Dict.contains key cache.entries = true → (cache.insert time key value).1 = true) ∧
      (cache.purge time).2.entries = cache.liveEntries time ∧
      (cache.purge time).1 = cache.entries.countP fun entry => cache.expired time entry.2 := by
  intro ran cache
  have started : (0 :: (calls.map Call.time ++ [time])).Pairwise (· ≤ ·) :=
    List.pairwise_cons.mpr ⟨fun _ _ => Nat.zero_le _, clock⟩
  have tracks : Tracks lifetime capacity ran.1 time cache := Tracks.empty.run calls started
  have refusal : ∀ key value, (cache.insert time key value).1 = false ↔
      Dict.contains key cache.entries = false ∧ capacity ≤ (cache.liveEntries time).length := by
    intro key value
    rw [insert_eq_false_iff, tracks.capacity_eq]
  refine ⟨tracks.bounded, tracks.reported, fun key value => ?_, refusal,
    fun key value => entries_of_refused, fun key value present => ?_, rfl, purge_count⟩
  · rw [get_eq_some_iff]
    constructor
    · rintro ⟨⟨value, storedAt⟩, found, alive, rfl⟩
      have given := tracks.held key _ found
      have past : storedAt ≤ time := tracks.past key _ given
      simp only [expired, decide_eq_false_iff_not, tracks.lifetime_eq] at alive
      exact ⟨storedAt, given, by omega⟩
    · rintro ⟨storedAt, given, recent⟩
      have past : storedAt ≤ time := tracks.past key _ given
      have alive : cache.expired time ⟨value, storedAt⟩ = false := by
        simp only [expired, decide_eq_false_iff_not, tracks.lifetime_eq]
        omega
      exact ⟨_, tracks.alive key _ given alive, alive, rfl⟩
  · cases answered : (cache.insert time key value).1 with
    | true => rfl
    | false =>
        rw [((refusal key value).mp answered).1] at present
        cases present

end Answers

/-! ## A cache with room for one -/

namespace Example

/-- The second key is refused while the first one is alive, and stored once that has grown old. -/
def calls : List (Call String) := [
  ⟨0, .insert "first" "old"⟩,
  ⟨5, .insert "second" "early"⟩,
  ⟨12, .insert "second" "late"⟩,
  ⟨13, .get "first"⟩]

def ran : History String × Cache String := run (Cache.empty 10 1) calls

theorem run_bounded_one : (calls.map Call.time ++ [21]).Pairwise (· ≤ ·) ∧
    ran.2.size ≤ 1 ∧ ran.2.gauge = ran.2.size ∧
    (ran.2.get 21 "second").1 = some "late" ∧
    (ran.2.insert 21 "third" "refused").1 = false ∧
    (ran.2.insert 21 "third" "refused").2.entries = ran.2.liveEntries 21 ∧
    (ran.2.insert 21 "second" "again").1 = true ∧
    (ran.2.purge 21).1 = 0 := by
  have clock : (calls.map Call.time ++ [21]).Pairwise (· ≤ ·) := by decide
  obtain ⟨bounded, reported, get, insert, refused, present, -, purged⟩ := run_bounded 10 1 calls 21 clock
  have third := (insert "third" "refused").mpr ⟨by decide +kernel, by decide +kernel⟩
  exact ⟨clock, bounded, reported, (get "second" "late").mpr ⟨12, rfl, by decide⟩, third,
    refused "third" "refused" third, present "second" "again" (by decide +kernel),
    purged.trans (by decide +kernel)⟩

end Example
end Cache
end Herald
