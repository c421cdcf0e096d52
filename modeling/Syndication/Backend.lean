import Syndication.Attempt
import Syndication.Cache.Basic
import Syndication.Store.Basic

/-!
# Store and cache behind an outage

Both services can be out of reach. An outage says, for every single operation and
its arguments, whether it fails and for what reason; an operation that fails does
so before it has acted. The attempts below are the operations of the two services
under an outage, and everything the pipeline does to them goes through here.
-/

namespace Syndication

/-- An operation of the document store with the arguments that tell it from others. -/
inductive StoreCall where
  | findProducts (stage : Stage) (value : Bool)
  | getProduct (id : Int64)
  | upsertProduct (id : Int64)
  | completeStage (id : Int64) (stage : Stage)
  | upsertView (id : Int64)
  | mergeHashes (id : Int64)
  | replaceHashes (id : Int64)
  | loadRecords
  | queuedImages (id : Int64)
  | insertImages
  | upsertContent (id : Int64)
  deriving DecidableEq, Repr

/-- An operation of the cache on a key. -/
inductive CacheCall where
  | setIfAbsent (key : String)
  | contains (key : String)
  | get (key : String)
  | delete (key : String)
  deriving DecidableEq, Repr

/-- Which operations fail, each with the reason it gives. -/
structure Outage where
  store : StoreCall → Option String
  cache : CacheCall → Option String

/-- Nothing fails. -/
def Outage.none : Outage := ⟨fun _ => .none, fun _ => .none⟩

namespace Outage

variable {α : Type}

/-- A store operation, unless it fails. -/
def onStore (outage : Outage) (call : StoreCall) (act : Store → Except StoreError α × Store) :
    Attempt Store StoreError α :=
  match outage.store call with
  | some reason => throw (.unavailable reason)
  | .none => Attempt.ofRun act

/-- A cache operation, unless it fails. -/
def onCache (outage : Outage) (call : CacheCall) (act : Cache → α × Cache) :
    Attempt Cache CacheError α :=
  match outage.cache call with
  | some reason => throw (.unavailable reason)
  | .none => Attempt.ofRun fun cache => (.ok (act cache).1, (act cache).2)

/-- The products whose completion flag for a stage has a given value. -/
def findProducts (outage : Outage) (stage : Stage) (value : Bool) :
    Attempt Store StoreError (List Product) :=
  outage.onStore (.findProducts stage value) fun store => (.ok (store.withFlag stage value), store)

/-- A product, if it is stored. -/
def getProduct (outage : Outage) (id : Int64) : Attempt Store StoreError (Option Product) :=
  outage.onStore (.getProduct id) fun store => (.ok store.products[id]?, store)

/-- Takes in a product from the catalog. -/
def upsertProduct (outage : Outage) (product : Product) : Attempt Store StoreError SyncStatus :=
  outage.onStore (.upsertProduct product.id) fun store =>
    (.ok (store.upsertProduct product).1, (store.upsertProduct product).2)

/-- Marks a stage complete on a product that is still at the expected version. -/
def completeStage (outage : Outage) (id : Int64) (expected : Int32) (stage : Stage) :
    Attempt Store StoreError SyncStatus :=
  outage.onStore (.completeStage id stage) fun store =>
    match store.completeStage id expected stage with
    | .ok (status, after) => (.ok status, after)
    | .error error => (.error error, store)

/-- Stores a view. -/
def upsertView (outage : Outage) (view : ProductView) : Attempt Store StoreError Unit :=
  outage.onStore (.upsertView view.productId) fun store => (.ok (), store.upsertView view)

/-- Adds to the texts published for a product. -/
def mergeHashes (outage : Outage) (id : Int64) (hashes : PluHashes) :
    Attempt Store StoreError Nat :=
  outage.onStore (.mergeHashes id) fun store =>
    (.ok (store.mergeHashes id hashes).1, (store.mergeHashes id hashes).2)

/-- Replaces the texts published for a product. -/
def replaceHashes (outage : Outage) (id : Int64) (hashes : PluHashes) :
    Attempt Store StoreError PluHashes :=
  outage.onStore (.replaceHashes id) fun store =>
    (.ok (store.replaceHashes id hashes).1, (store.replaceHashes id hashes).2)

/-- The texts published for every product. -/
def loadRecords (outage : Outage) : Attempt Store StoreError (List (Int64 × PluHashes)) :=
  outage.onStore .loadRecords fun store => (.ok store.records.toList, store)

/-- The queued images of a product. -/
def queuedImages (outage : Outage) (id : Int64) : Attempt Store StoreError (List ImageRecord) :=
  outage.onStore (.queuedImages id) fun store => (.ok (store.queuedImages id), store)

/-- Queues images. -/
def insertImages (outage : Outage) (records : List ImageRecord) : Attempt Store StoreError Unit :=
  outage.onStore .insertImages fun store => (.ok (), store.insertImages records)

/-- Stores what is syndicated for a product. -/
def upsertContent (outage : Outage) (payload : Payload) : Attempt Store StoreError Unit :=
  outage.onStore (.upsertContent payload.1.productId) fun store =>
    (.ok (), store.upsertContent payload)

/-- Writes a cache entry unless there is one. -/
def setIfAbsent (outage : Outage) (key value : String) (ttlSeconds : Nat) :
    Attempt Cache CacheError Bool :=
  outage.onCache (.setIfAbsent key) fun cache => cache.setIfAbsent key value ttlSeconds

/-- True when a key is cached. -/
def cacheContains (outage : Outage) (key : String) : Attempt Cache CacheError Bool :=
  outage.onCache (.contains key) fun cache => (cache.contains key, cache)

/-- The cached value of a key. -/
def cacheGet (outage : Outage) (key : String) : Attempt Cache CacheError (Option String) :=
  outage.onCache (.get key) fun cache => (cache.get? key, cache)

/-- Removes a cache entry. -/
def cacheDelete (outage : Outage) (key : String) : Attempt Cache CacheError Bool :=
  outage.onCache (.delete key) fun cache => cache.delete key

end Outage

/-- The two services together. -/
structure Backend where
  store : Store
  cache : Cache

namespace Backend

variable {ε α : Type}

/-- Empty services. -/
def empty : Backend := ⟨Store.empty, Cache.empty⟩

/-- The store as a part of the services. -/
def storePart : Part Backend Store where
  get := Backend.store
  set backend store := { backend with store }

/-- The cache as a part of the services. -/
def cachePart : Part Backend Cache where
  get := Backend.cache
  set backend cache := { backend with cache }

/-- An attempt on the store alone. -/
def onStore (attempt : Attempt Store ε α) : Attempt Backend ε α := attempt.focus storePart

/-- An attempt on the cache alone. -/
def onCache (attempt : Attempt Cache ε α) : Attempt Backend ε α := attempt.focus cachePart

end Backend

end Syndication
