/- A bounded cache whose entries expire.

An entry is live for less than the time to live after it was stored. Looking up an expired
entry removes it. A new key is refused only while the cache is full of live entries: a full
cache first drops its expired entries. A key that is present, even with an expired entry,
can always be stored again. The gauge is the number of entries as last reported; every
operation that can change that number reports it. Times are nanoseconds on one clock. -/
import Herald.Dict
namespace Herald
set_option autoImplicit false

/-- A stored value and the time at which it was stored. -/
structure CacheEntry (α : Type) where
  value : α
  storedAt : Nat

/-- A cache of values by key. -/
structure Cache (α : Type) where
  lifetime : Nat
  capacity : Nat
  entries : Dict (CacheEntry α)
  gauge : Nat

namespace Cache
variable {α : Type}

/-- A cache without entries. -/
def empty (lifetime capacity : Nat) : Cache α := ⟨lifetime, capacity, [], 0⟩

/-- The number of entries, expired ones included. -/
def size (cache : Cache α) : Nat := cache.entries.length

/-- Whether an entry has outlived its time. -/
def expired (cache : Cache α) (time : Nat) (entry : CacheEntry α) : Bool :=
  cache.lifetime ≤ time - entry.storedAt

/-- The cache with other entries, their number reported. -/
def withEntries (cache : Cache α) (entries : Dict (CacheEntry α)) : Cache α :=
  { cache with entries := entries, gauge := entries.length }

/-- The live value of a key. -/
def get (cache : Cache α) (time : Nat) (key : String) : Option α × Cache α :=
  match Dict.find? key cache.entries with
  | none => (none, cache)
  | some entry =>
    if cache.expired time entry then (none, cache.withEntries (Dict.erase key cache.entries))
    else (some entry.value, cache)

/-- The cache without its expired entries, and their number. -/
def purge (cache : Cache α) (time : Nat) : Nat × Cache α :=
  let live := cache.entries.filter fun entry => !cache.expired time entry.2
  (cache.size - live.length, cache.withEntries live)

/-- The cache with a key's entry put in place, whatever its size. -/
def store (cache : Cache α) (time : Nat) (key : String) (value : α) : Cache α :=
  cache.withEntries (Dict.insert key ⟨value, time⟩ cache.entries)

/-- Stores a value; the flag tells whether there was room. -/
def insert (cache : Cache α) (time : Nat) (key : String) (value : α) : Bool × Cache α :=
  if cache.size < cache.capacity || Dict.contains key cache.entries then
    (true, cache.store time key value)
  else
    let purged := (cache.purge time).2
    if purged.size < purged.capacity then (true, purged.store time key value) else (false, purged)

/-- The cache without any entry. -/
def clear (cache : Cache α) : Cache α := cache.withEntries []

end Cache
end Herald
