import Syndication.Number.Binary64
import Syndication.Product.Status

/-!
# Products

A product is the catalog's record of what a supplier sells. Its options come in
groups; an option has items, an item has variants, and the departures and time
slots of an item, together with the option's type, say which sellable units each
variant has. The walk over the variants is fixed once, in `Product.variants`, and
every derivation follows it.

Two products have the same content when they agree in everything but their status,
coordinates being compared as numbers.
-/

namespace Syndication

/-- How the sellable units of an option are formed. -/
inductive OptionType where
  /-- One unit for each departure. -/
  | schedule
  /-- One unit for each time slot of each departure. -/
  | round
  /-- One unit without departure and slot. -/
  | list
  deriving DecidableEq, Repr, Inhabited

/-- The code of an option type. -/
def OptionType.code : OptionType → String
  | .schedule => "SCHEDULE"
  | .round => "ROUND"
  | .list => "LIST"

/-- The option type with a code. -/
def OptionType.ofCode? (code : String) : Option OptionType :=
  [OptionType.schedule, .round, .list].find? fun type => type.code == code

/-- A supplier's category, possibly narrowed to a sub category. -/
structure CategoryFilter where
  category : String
  subCategory : Option String
  deriving DecidableEq, Repr

/-- An image by its address and the role it plays. -/
structure ProductImage where
  url : String
  typeCode : String
  deriving DecidableEq, Repr

/-- A place that belongs to a product. -/
structure Facility where
  name : String
  latitude : Binary64
  longitude : Binary64
  deriving DecidableEq, Repr

/-- A variant of an item, such as a ticket for one age group. -/
structure Variant where
  id : Int64
  name : String
  refundable : Bool
  approved : Bool
  images : List ProductImage
  deriving DecidableEq, Repr

/-- An item of an option: its variants, departures and time slots. -/
structure OptionItem where
  id : Int64
  name : String
  variants : List Variant
  schedules : List String
  rounds : List String
  deriving DecidableEq, Repr

/-- An option of a product. -/
structure ProductOption where
  id : Int64
  name : String
  type : OptionType
  items : List OptionItem
  deriving DecidableEq, Repr

/-- A group of options. -/
structure OptionGroup where
  id : Int64
  name : String
  options : List ProductOption
  deriving DecidableEq, Repr

/-- A product as the catalog describes it, with the status of its publication. -/
structure Product where
  id : Int64
  version : Int32
  title : String
  categories : List CategoryFilter
  groups : List OptionGroup
  facilities : List Facility
  images : List ProductImage
  status : SyncStatus
  deriving DecidableEq, Repr

/-- A variant together with the group, option and item that it belongs to. -/
structure PlacedVariant where
  group : OptionGroup
  option : ProductOption
  item : OptionItem
  variant : Variant
  deriving DecidableEq, Repr

/-- The variants of a product in walking order: groups, their options, the options' items,
the items' variants. -/
def Product.variants (product : Product) : List PlacedVariant :=
  product.groups.flatMap fun group =>
    group.options.flatMap fun option =>
      option.items.flatMap fun item =>
        item.variants.map fun variant => ⟨group, option, item, variant⟩

/-- Equality of facilities, with coordinates compared as numbers. -/
def Facility.same (left right : Facility) : Bool :=
  left.name == right.name && left.latitude.sameNumber right.latitude &&
    left.longitude.sameNumber right.longitude

/-- Pairwise equality of two lists of facilities. -/
def Facility.sameAll : List Facility → List Facility → Bool
  | [], [] => true
  | left :: lefts, right :: rights => left.same right && sameAll lefts rights
  | _, _ => false

/-- True when two products agree in everything but their status. -/
def Product.sameContent (left right : Product) : Bool :=
  left.id == right.id && left.version == right.version && left.title == right.title &&
    left.categories == right.categories && left.groups == right.groups &&
    Facility.sameAll left.facilities right.facilities && left.images == right.images

end Syndication
