import Syndication.Json.Reader
import Syndication.Product.Json
import Syndication.Store.Basic

/-!
# Seeding the store

A catalog is the text of a JSON array of products. Each product is stored as it is
described, status included, so a catalog can continue where an earlier run stopped.
-/

namespace Syndication

/-- Why a catalog cannot be loaded. -/
inductive CatalogError where
  /-- The file could not be read. -/
  | unreadable
  /-- The file is no catalog. -/
  | malformed
  deriving DecidableEq, Repr

/-- The message of a catalog error. -/
def CatalogError.message : CatalogError → String
  | .unreadable => "I/O error"
  | .malformed => "catalog decode error"

namespace Store

/-- The store that a catalog describes, unless the text is no catalog. -/
def ofCatalog? (text : String) : Option Store := do
  let value ← Json.read? text
  let products ← Source.listOf? Product.ofJson? value
  some (ofProducts products)

/-- The store to start with: the one that the catalog in a file describes, or an empty one
without a catalog. -/
def load (contents : String → Option String) : Option String → Except CatalogError Store
  | none => .ok empty
  | some path =>
    match contents path with
    | none => .error .unreadable
    | some text =>
      match ofCatalog? text with
      | none => .error .malformed
      | some store => .ok store

end Store

end Syndication
