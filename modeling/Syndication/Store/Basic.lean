import Syndication.Content.Basic
import Syndication.Image.Basic
import Syndication.View.Basic

/-!
# The document store

Products are the source of truth. Views, published codes, queued images and
syndicated content are derived from them, and each is written by one stage. The
operations below are total functions on the store's value; whether the store can be
reached at all is decided elsewhere.

Products and published codes are listed in increasing order of product, images in
the order in which they were queued.
-/

namespace Syndication

/-- The documents held. -/
structure Store where
  products : Std.ExtTreeMap Int64 Product
  views : Std.ExtTreeMap Int64 ProductView
  /-- The published texts by code, for each product. -/
  records : Std.ExtTreeMap Int64 PluHashes
  images : List ImageRecord
  contents : Std.ExtTreeMap Int64 Payload

/-- Why a store operation fails. -/
inductive StoreError where
  | productNotFound (id : Int64)
  | versionConflict (id : Int64) (expected actual : Int32)
  | transition (cause : TransitionError)
  | unavailable (reason : String)
  deriving DecidableEq, Repr

/-- The message of a store error. -/
def StoreError.message : StoreError → String
  | .productNotFound id => "product " ++ toString id.toInt ++ " not found"
  | .versionConflict id expected actual =>
    "product " ++ toString id.toInt ++ " is at version " ++ toString actual.toInt ++
      ", expected " ++ toString expected.toInt
  | .transition cause => "invalid status change: " ++ cause.message
  | .unavailable reason => "document store unavailable: " ++ reason

namespace Store

/-- A store without documents. -/
def empty : Store := ⟨∅, ∅, ∅, [], ∅⟩

/-- A store that holds products as they are given. Of two with one identifier the later
is kept. -/
def ofProducts (products : List Product) : Store :=
  { empty with
    products := products.foldl (fun held product => held.insert product.id product) ∅ }

/-- The products whose completion flag for a stage has a given value, in order. -/
def withFlag (store : Store) (stage : Stage) (value : Bool) : List Product :=
  (store.products.toList.map (·.2)).filter fun product => product.status.isComplete stage == value

/-- The status under which a product that comes in from the catalog is stored. A new
product brings its own; a known one keeps its status while the content is the same and
is to be published again when it differs. -/
def ingestedStatus (store : Store) (product : Product) : SyncStatus :=
  match store.products[product.id]? with
  | none => product.status
  | some existing =>
    if product.sameContent existing then existing.status
    else existing.status.resync existing.version

/-- Takes in a product from the catalog. -/
def upsertProduct (store : Store) (product : Product) : SyncStatus × Store :=
  let status := store.ingestedStatus product
  (status, { store with products := store.products.insert product.id { product with status } })

/-- Marks a stage complete on a product that is still at the expected version. -/
def completeStage (store : Store) (id : Int64) (expected : Int32) (stage : Stage) :
    Except StoreError (SyncStatus × Store) :=
  match store.products[id]? with
  | none => .error (.productNotFound id)
  | some product =>
    if product.version = expected then
      match product.status.complete stage with
      | .ok status =>
        .ok (status,
          { store with products := store.products.insert id { product with status } })
      | .error cause => .error (.transition cause)
    else .error (.versionConflict id expected product.version)

/-- Stores a view in place of the product's earlier one. -/
def upsertView (store : Store) (view : ProductView) : Store :=
  { store with views := store.views.insert view.productId view }

/-- The published texts of a product; none if nothing was ever published. -/
def record (store : Store) (id : Int64) : PluHashes := store.records.getD id ∅

/-- Adds texts to those published for a product and counts the codes that are new. A code
that is given again takes the text given. -/
def mergeHashes (store : Store) (id : Int64) (hashes : PluHashes) : Nat × Store :=
  let merged := store.record id ∪ hashes
  (merged.size - (store.record id).size, { store with records := store.records.insert id merged })

/-- Replaces the texts published for a product and gives back those whose codes are gone. -/
def replaceHashes (store : Store) (id : Int64) (hashes : PluHashes) : PluHashes × Store :=
  (store.record id \ hashes, { store with records := store.records.insert id hashes })

/-- The queued images of a product, in order. -/
def queuedImages (store : Store) (id : Int64) : List ImageRecord :=
  store.images.filter fun record => record.productId == id

/-- Queues the records whose key was not queued before. Records of one call are compared
with the queue only, not with each other. -/
def insertImages (store : Store) (records : List ImageRecord) : Store :=
  let queued := store.images.map ImageRecord.key
  { store with images := store.images ++ records.filter fun record => !queued.contains record.key }

/-- Gives every queued image of a product with an address the identifier that the image
processor assigned, and says whether there was one. -/
def assignImage (store : Store) (id : Int64) (url tripImageId : String) : Bool × Store :=
  (store.images.any fun record => record.isAt id url,
    { store with images := store.images.map fun record =>
        if record.isAt id url then { record with tripImageId := some tripImageId } else record })

/-- Stores what is syndicated for a product in place of what was stored before. -/
def upsertContent (store : Store) (payload : Payload) : Store :=
  { store with contents := store.contents.insert payload.1.productId payload }

end Store

end Syndication
