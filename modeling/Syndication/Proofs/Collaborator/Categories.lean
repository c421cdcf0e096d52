import Syndication.Collaborator.CategoryTable
import Syndication.Collaborator.Remote
import Syndication.Proofs.Attempt.Services
import Syndication.Proofs.Collaborator.Repetition
import Syndication.Proofs.Document.Fields
import Syndication.Proofs.Sequence.Insertion

/-!
# Partner categories united

A table assigns a list of partner categories to each filter. A look-up unites the lists of its
filters: it keeps the first places of all of them joined. So looking up two lists of filters in turn
adds what the second brings anew behind what the first has brought, and whether a category is found
depends neither on how often nor in which order the filters are given.

A mapper over a network does the same with the one list that comes back.
-/

namespace Syndication

namespace CategoryTable

/-- The list under the narrower key of a filter if the filter has one and the table knows it, or
else the list under its category, or else nothing. -/
def assigned (table : CategoryTable) (filter : CategoryFilter) : List String :=
  match filter.subCategory with
  | some subCategory =>
    if filter.category ++ "/" ++ subCategory ∈ table then
      table.getD (filter.category ++ "/" ++ subCategory) []
    else table.getD filter.category []
  | none => table.getD filter.category []

/-- The entry for a filter is the list that is assigned to it. -/
theorem getD_partners? (table : CategoryTable) (filter : CategoryFilter) :
    (table.partners? filter).getD [] = table.assigned filter := by
  rw [partners?, specific?, assigned]
  cases filter.subCategory with
  | none => exact Std.ExtTreeMap.getD_eq_getD_getElem?.symm
  | some subCategory =>
    dsimp only
    split
    case isTrue known =>
      rw [Std.ExtTreeMap.getElem?_eq_some_getElem known, Option.some_or, Option.getD_some,
        Std.ExtTreeMap.getElem_eq_getD]
    case isFalse unknown =>
      rw [Std.ExtTreeMap.getElem?_eq_none unknown, Option.none_or,
        Std.ExtTreeMap.getD_eq_getD_getElem?]

/-- Each filter adds the list that is assigned to it. -/
theorem collect_eq (table : CategoryTable) (found : OrderedSet String) (filter : CategoryFilter) :
    table.collect found filter = found.extend (table.assigned filter) := by
  rw [← getD_partners?, collect]
  cases table.partners? filter <;> rfl

/-- A look-up fills a set from the assigned lists joined. -/
theorem lookup_eq_ofList (table : CategoryTable) (filters : List CategoryFilter) :
    table.lookup filters = (OrderedSet.ofList (filters.flatMap table.assigned)).entries := by
  rw [OrderedSet.ofList, OrderedSet.extend_flatMap, lookup]
  congr 2
  funext found filter
  exact table.collect_eq found filter

/-- A category is found exactly if it is assigned to one of the filters. -/
theorem mem_lookup_iff (table : CategoryTable) (filters : List CategoryFilter) (category : String) :
    category ∈ table.lookup filters ↔ ∃ filter ∈ filters, category ∈ table.assigned filter := by
  rw [lookup_eq_ofList, (OrderedSet.firstPlaces_ofList _).complete, List.mem_flatMap]

/-- No category is found twice. -/
theorem nodup_lookup (table : CategoryTable) (filters : List CategoryFilter) :
    (table.lookup filters).Nodup := (filters.foldl table.collect .empty).distinct

/-- Filters that come later add what has not been found before them. -/
theorem lookup_append (table : CategoryTable) (first second : List CategoryFilter) :
    table.lookup (first ++ second) =
      table.lookup first ++
        (table.lookup second).filter fun category => category ∉ table.lookup first := by
  simp only [lookup_eq_ofList]
  rw [List.flatMap_append, OrderedSet.ofList, OrderedSet.extend_append, ← OrderedSet.ofList,
    OrderedSet.entries_extend]

/-- The same filters find the same categories, however often and in which order they are given. -/
theorem lookup_perm (table : CategoryTable) {first second : List CategoryFilter}
    (same : ∀ filter, filter ∈ first ↔ filter ∈ second) :
    (table.lookup first).Perm (table.lookup second) := by
  rw [List.perm_ext_iff_of_nodup (table.nodup_lookup first) (table.nodup_lookup second)]
  intro category
  simp only [mem_lookup_iff, same]

end CategoryTable

namespace CategoryMapper

variable {τ : Type} {network : Network τ} {retries : Nat} {endpoint : Url}

/-- Without categories nobody is asked. -/
theorem runOn_remote_nil (state : τ) :
    (remote network retries endpoint []).runOn state = (.ok [], state) := rfl

/-- A reply stands for the first places of the list in it. -/
theorem categoriesOfReply_ok_iff {reply : HttpReply} {answer : List String} :
    categoriesOfReply reply = .ok answer ↔
      ∃ listed, listedCategories? reply = some listed ∧ FirstPlaces listed answer := by
  rw [categoriesOfReply]
  cases listedCategories? reply with
  | none => simp
  | some listed => simp [firstPlaces_iff, OrderedSet.entries_ofList, eq_comm]

/-- Asked for some categories, a mapper succeeds exactly if it is sent a list, and its answer are
the first places of that list. -/
theorem runOn_remote_ok_iff {codes : List CategoryFilter} (asked : codes ≠ []) {state after : τ}
    {answer : List String} :
    (remote network retries endpoint codes).runOn state = (.ok answer, after) ↔
      ∃ reply listed,
        (network.send (.ofNat retries) (categoryRequest endpoint codes)).runOn state =
          (.ok reply, after) ∧
        listedCategories? reply = some listed ∧ FirstPlaces listed answer := by
  have isAsked : ¬ codes.isEmpty = true := by simpa using asked
  rw [remote, if_neg isAsked, Attempt.runOn_mapError_ok_iff, Attempt.runOn_bind_ok_iff]
  constructor
  · rintro ⟨reply, between, sent, answered⟩
    obtain ⟨understood, rfl⟩ := Prod.mk.inj answered
    obtain ⟨listed, found, places⟩ := categoriesOfReply_ok_iff.mp understood
    exact ⟨reply, listed, sent, found, places⟩
  · rintro ⟨reply, listed, sent, found, places⟩
    refine ⟨reply, after, sent, ?_⟩
    rw [Attempt.runOn_ofExcept, categoriesOfReply_ok_iff.mpr ⟨listed, found, places⟩]

end CategoryMapper

/-- Looking partner categories up unites what is assigned to the filters, each category at its first
place. Joined filters find what the first ones find and then what only the others find, and filters
that are repeated or in another order find the same categories in some order.

A mapper over a network that is asked for some categories answers with the first places of the list
that it is sent, and does not answer otherwise. -/
theorem category_lookups_united {τ γ : Type} (table : CategoryTable) (network : Network τ)
    (retries : Nat) (endpoint : Url) :
    (∀ (codes : List CategoryFilter) (state : γ),
      (table.mapper codes).runOn state = (.ok (table.lookup codes), state)) ∧
    (∀ filters, FirstPlaces (filters.flatMap table.assigned) (table.lookup filters) ∧
      (table.lookup filters).Nodup) ∧
    (∀ first second, table.lookup (first ++ second) =
      table.lookup first ++
        (table.lookup second).filter fun category => category ∉ table.lookup first) ∧
    (∀ first second : List CategoryFilter, (∀ filter, filter ∈ first ↔ filter ∈ second) →
      (table.lookup first).Perm (table.lookup second)) ∧
    (∀ state, (CategoryMapper.remote network retries endpoint []).runOn state = (.ok [], state)) ∧
    (∀ codes ≠ [], ∀ state answer after,
      (CategoryMapper.remote network retries endpoint codes).runOn state = (.ok answer, after) ↔
        ∃ reply listed,
          (network.send (.ofNat retries) (categoryRequest endpoint codes)).runOn state =
            (.ok reply, after) ∧
          listedCategories? reply = some listed ∧ FirstPlaces listed answer) := by
  refine ⟨fun _ _ => rfl, ?_, table.lookup_append, fun _ _ => table.lookup_perm,
    CategoryMapper.runOn_remote_nil, ?_⟩
  · intro filters
    refine ⟨?_, table.nodup_lookup filters⟩
    rw [table.lookup_eq_ofList]
    exact OrderedSet.firstPlaces_ofList _
  · intro codes asked state answer after
    exact CategoryMapper.runOn_remote_ok_iff asked

namespace Tour

/-- City tours are a partner category of their own. -/
def partnerTable : CategoryTable :=
  ((∅ : CategoryTable).insert "TOUR" ["tours"] |>.insert "TOUR/CITY" ["city-tours"]).insert "FOOD"
    ["food", "tours"]

/-- The address that partner categories are asked at. -/
def mapperAddress : Url := ⟨"http", none, .segments ["category-mappings"], none, none⟩

/-- A reply that lists tours twice. -/
def repetitiveReply : HttpReply := ⟨200, "\x7b\"categories\": [\"tours\", \"food\", \"tours\"]\x7d"⟩

/-- Tours are found once, whether the table knows the sub category or not, and whoever lists
them. -/
theorem tours_found_once :
    let city : CategoryFilter := ⟨"TOUR", some "CITY"⟩
    let boat : CategoryFilter := ⟨"TOUR", some "BOAT"⟩
    let food : CategoryFilter := ⟨"FOOD", none⟩
    let network := Network.scripted fun _ => some repetitiveReply
    partnerTable.lookup [city, boat, food] = ["city-tours", "tours", "food"] ∧
    (partnerTable.lookup [food, boat, city, food]).Perm ["city-tours", "tours", "food"] ∧
    ∃ after, (CategoryMapper.remote network 0 mapperAddress [food]).runOn .empty =
      (.ok ["tours", "food"], after) := by
  intro city boat food network
  have found : partnerTable.lookup [city, boat, food] = ["city-tours", "tours", "food"] := by
    cbv
  have listed : listedCategories? repetitiveReply = some ["tours", "food", "tours"] := by
    decide +kernel
  have sent : (network.send 0 (categoryRequest mapperAddress [food])).runOn .empty =
      (.ok repetitiveReply,
        Network.Transcript.empty.asked (categoryRequest mapperAddress [food])) := by
    rw [Network.send, Attempt.runOn_ofRun]
    exact Network.sendAgain_last (.inl (.inl (by decide)))
  obtain ⟨-, -, -, rearranged, -, answered⟩ :=
    category_lookups_united (γ := Unit) partnerTable network 0 mapperAddress
  refine ⟨found, ?_, Network.Transcript.empty.asked (categoryRequest mapperAddress [food]), ?_⟩
  · rw [← found]
    apply rearranged
    intro filter
    grind
  · rw [answered [food] (by decide)]
    exact ⟨repetitiveReply, _, sent, listed, firstPlaces_iff.mpr (by decide)⟩

end Tour

end Syndication
