import Std.Data.ExtTreeMap
import Syndication.Collaborator.Basic
import Syndication.Sequence.OrderedSet

/-!
# Partner categories from a table

The table maps a category, or a category and a sub category joined by a slash, to
the partner's categories. The narrower key is preferred where it exists, even if its
list is empty. Each partner category appears once in the answer, at its first place.
-/

namespace Syndication

/-- Partner categories by category, or by category and sub category. -/
abbrev CategoryTable := Std.ExtTreeMap String (List String)

namespace CategoryTable

/-- The entry under the narrower key of a filter, if the filter has one and it exists. -/
def specific? (table : CategoryTable) (filter : CategoryFilter) : Option (List String) :=
  match filter.subCategory with
  | some subCategory => table[filter.category ++ "/" ++ subCategory]?
  | none => none

/-- The entry for a filter, if there is one: that under its narrower key, or else that under its
category. -/
def partners? (table : CategoryTable) (filter : CategoryFilter) : Option (List String) :=
  (table.specific? filter).or table[filter.category]?

/-- What has been found, with the partner categories for one more filter. -/
def collect (table : CategoryTable) (found : OrderedSet String) (filter : CategoryFilter) :
    OrderedSet String :=
  match table.partners? filter with
  | some partners => found.extend partners
  | none => found

/-- The partner categories for several filters. -/
def lookup (table : CategoryTable) (filters : List CategoryFilter) : List String :=
  (filters.foldl table.collect OrderedSet.empty).entries

/-- The table as a collaborator. It never fails and keeps no state. -/
def mapper {γ : Type} (table : CategoryTable) : CategoryMapper γ :=
  fun codes => return table.lookup codes

end CategoryTable

end Syndication
