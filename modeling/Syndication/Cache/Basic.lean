import Std.Data.ExtTreeMap

/-!
# The code cache

The cache holds the texts that order creation looks up by code. An entry is written
only where there is none, so a value once seen is not overwritten; it has to be
deleted first. Time does not pass inside a cache value: an entry lives until it is
deleted, except that one written with no time to live is expired from the start.

An expired entry has no value any more and does not stand in the way of a write, which
counts as done but does not bring it back. It takes room until it is deleted, and
deleting it counts as a removal.
-/

namespace Syndication

/-- The live entries of the cache, and the keys of the expired ones. -/
structure Cache where
  entries : Std.ExtTreeMap String String
  expired : Std.ExtTreeMap String Unit

/-- Why a cache operation fails. -/
inductive CacheError where
  | unavailable (reason : String)
  deriving DecidableEq, Repr

/-- The message of a cache error. -/
def CacheError.message : CacheError → String
  | .unavailable reason => "cache unavailable: " ++ reason

namespace Cache

/-- A cache without entries. -/
def empty : Cache := ⟨∅, ∅⟩

/-- The value of a key. -/
def get? (cache : Cache) (key : String) : Option String := cache.entries[key]?

/-- True when a key has a value. -/
def contains (cache : Cache) (key : String) : Bool := cache.entries.contains key

/-- Writes a value unless the key has one, and says whether it wrote. -/
def setIfAbsent (cache : Cache) (key value : String) (ttlSeconds : Nat) : Bool × Cache :=
  if cache.contains key then (false, cache)
  else if ttlSeconds = 0 ∨ cache.expired.contains key then
    (true, { cache with expired := cache.expired.insert key () })
  else (true, { cache with entries := cache.entries.insert key value })

/-- Removes the entry of a key and says whether there was one. -/
def delete (cache : Cache) (key : String) : Bool × Cache :=
  (cache.contains key || cache.expired.contains key,
    ⟨cache.entries.erase key, cache.expired.erase key⟩)

end Cache

end Syndication
