import Syndication.Content.Json
import Syndication.Image.Json
import Syndication.Proofs.Document.Fields
import Syndication.View.Json

/-!
# Stored documents read back

Products, views, queued images and syndicated contents are kept as JSON. What is read from that
JSON is the document that was written, record by record and list by list, whatever is missing in
it: a category without sub category, an image without identifier, a unit without departure or slot.

The only values without a JSON form are coordinates that are not finite numbers. So a product is
read back exactly when the coordinates of all its facilities are finite, and what a partner is told
about it exactly when those of all its points of interest are.
-/

namespace Syndication

/-! ## Statuses -/

/-- A version that a status remembers is read back from the status taken as a whole. -/
theorem Whole.int32?_ofInt (version : Int32) : int32? (ofInt version.toInt) = some version := by
  have whole : (ofInt version.toInt).integer? = some version.toInt := by
    unfold ofInt
    split
    case isTrue nonnegative => exact congrArg some (Int.toNat_of_nonneg nonnegative)
    case isFalse negative =>
      show some (-((version.toInt.natAbs : Nat) : Int)) = _
      congr 1
      omega
  rw [int32?, whole, Option.bind_some, Text.int32?,
    if_pos ⟨version.minValue_le_toInt, version.toInt_le⟩, Int32.ofInt_toInt]

/-- A status is read back, with the version that it remembers. -/
@[simp] theorem SyncStatus.ofJson?_toJson (status : SyncStatus) :
    ofJson? status.toJson = some status := by
  cases status with
  | pending => rfl
  | viewReady => rfl
  | imageReady => rfl
  | contentSynced => rfl
  | needsResync version =>
    -- The tag is taken out of the whole, and what is left is read as a structure.
    let left : Whole := .mapping [(.text "previous_version", .ofInt version.toInt)]
    have whole : (toJson (.needsResync version)).whole? =
        some (.mapping [(.text "state", .text "needs_resync"),
          (.text "previous_version", .ofInt version.toInt)]) := by
      simp [toJson, Json.whole?, Json.wholeMembers?]
    have kind : (Whole.mapping [(.text "state", .text "needs_resync"),
        (.text "previous_version", .ofInt version.toInt)]).kind? "state" =
          some ("needs_resync", left) := by
      simp [Whole.kind?, Whole.text?, left]
    have fields : Fields.read? ["previous_version"] left =
        some ⟨[("previous_version", .ofInt version.toInt)]⟩ := rfl
    simp [ofJson?, whole, kind, fields, Whole.int32?_ofInt]

/-! ## Products -/

/-- An option type is read back from its code. -/
@[simp] theorem OptionType.ofJson?_toJson (type : OptionType) :
    ofJson? type.toJson = some type := by
  cases type <;> rfl

/-- A category is read back, with or without sub category. -/
theorem CategoryFilter.ofJson?_toJson (filter : CategoryFilter) :
    ofJson? filter.toJson = some filter := by
  obtain ⟨category, subCategory⟩ := filter
  rw [toJson, ofJson?, Fields.read?_obj (by simp) (by simp)]
  cases subCategory <;> simp

/-- An image is read back. -/
theorem ProductImage.ofJson?_toJson (image : ProductImage) : ofJson? image.toJson = some image := by
  rw [toJson, ofJson?, Fields.read?_obj (by simp) (by simp)]
  simp

/-- The coordinates of a facility are finite numbers. -/
def Facility.Located (facility : Facility) : Prop :=
  facility.latitude.isFinite = true ∧ facility.longitude.isFinite = true

/-- A facility is read back exactly when its coordinates are finite. -/
theorem Facility.ofJson?_toJson_iff (facility : Facility) :
    ofJson? facility.toJson = some facility ↔ facility.Located := by
  rw [toJson, ofJson?, Fields.read?_obj (by simp) (by simp), Located]
  cases latitude : facility.latitude.isFinite <;> cases longitude : facility.longitude.isFinite <;>
    simp [Json.float?_ofFloat, latitude, longitude]

/-- A variant is read back. -/
theorem Variant.ofJson?_toJson (variant : Variant) : ofJson? variant.toJson = some variant := by
  rw [toJson, ofJson?, Fields.read?_obj (by simp) (by simp)]
  simp [Source.listOf?_arr ProductImage.ofJson?_toJson]

/-- An item is read back, with its departures and time slots. -/
theorem OptionItem.ofJson?_toJson (item : OptionItem) : ofJson? item.toJson = some item := by
  rw [toJson, ofJson?, Fields.read?_obj (by simp) (by simp)]
  simp [Source.listOf?_arr Variant.ofJson?_toJson, Source.listOf?_texts]

/-- An option is read back. -/
theorem ProductOption.ofJson?_toJson (option : ProductOption) :
    ofJson? option.toJson = some option := by
  rw [toJson, ofJson?, Fields.read?_obj (by simp) (by simp)]
  simp [Source.listOf?_arr OptionItem.ofJson?_toJson]

/-- A group of options is read back. -/
theorem OptionGroup.ofJson?_toJson (group : OptionGroup) : ofJson? group.toJson = some group := by
  rw [toJson, ofJson?, Fields.read?_obj (by simp) (by simp)]
  simp [Source.listOf?_arr ProductOption.ofJson?_toJson]

/-- A product is read back exactly when the coordinates of all its facilities are finite. -/
theorem Product.ofJson?_toJson_iff (product : Product) :
    ofJson? product.toJson = some product ↔ ∀ facility ∈ product.facilities, facility.Located := by
  obtain ⟨id, version, title, categories, groups, facilities, images, status⟩ := product
  rw [toJson, ofJson?, Fields.read?_obj (by simp [fieldNames]) (by simp)]
  simp [Source.listOf?_arr CategoryFilter.ofJson?_toJson,
    Source.listOf?_arr OptionGroup.ofJson?_toJson, Source.listOf?_arr ProductImage.ofJson?_toJson,
    Option.bind_eq_some_iff, Source.listOf?_arr_iff, Facility.ofJson?_toJson_iff]

/-! ## Views -/

/-- A row of a view is read back. -/
theorem ViewVariant.ofJson?_toJson (row : ViewVariant) : ofJson? row.toJson = some row := by
  rw [toJson, ofJson?, Fields.read?_obj (by simp [fieldNames]) (by simp)]
  simp

namespace PluHashes

/-- The entries of a map make the map again. -/
theorem ofEntries_toList (hashes : PluHashes) : ofEntries hashes.toList = hashes := by
  have built : ofEntries hashes.toList = Std.ExtTreeMap.ofList hashes.toList :=
    Std.ExtTreeMap.ofList_eq_foldl.symm
  rw [built]
  apply Std.ExtTreeMap.ext_getElem?
  intro code
  cases found : hashes[code]? with
  | some text =>
    exact Std.ExtTreeMap.getElem?_ofList_of_mem Std.ReflCmp.compare_self
      Std.ExtTreeMap.distinct_keys_toList
      (Std.ExtTreeMap.mem_toList_iff_getElem?_eq_some.mpr found)
  | none =>
    have absent : code ∉ hashes := by simpa using found
    apply Std.ExtTreeMap.getElem?_ofList_of_contains_eq_false
    simpa using absent

/-- Texts by code are read back. -/
theorem ofJson?_toJson (hashes : PluHashes) : ofJson? (toJson hashes) = some hashes := by
  have entries : (hashes.toList.map fun entry => (entry.1, Json.str entry.2)).mapM textMember? =
      some hashes.toList := Source.mapM_map_iff.mpr fun _ _ => rfl
  show ((hashes.toList.map fun entry => (entry.1, Json.str entry.2)).mapM textMember?).bind
    (fun entries => some (ofEntries entries)) = _
  rw [entries, Option.bind_some, ofEntries_toList]

end PluHashes

/-- The units of an option are read back. -/
theorem PluDetail.ofJson?_toJson (detail : PluDetail) : ofJson? detail.toJson = some detail := by
  rw [toJson, ofJson?, Fields.read?_obj (by simp) (by simp)]
  simp [Source.listOf?_texts, PluHashes.ofJson?_toJson]

/-- A view is read back. -/
theorem ProductView.ofJson?_toJson (view : ProductView) : ofJson? view.toJson = some view := by
  rw [toJson, ofJson?, Fields.read?_obj (by simp) (by simp)]
  simp [Source.listOf?_arr ViewVariant.ofJson?_toJson, Source.listOf?_arr PluDetail.ofJson?_toJson]

/-! ## Images and contents -/

/-- A queued image is read back, with or without identifier. -/
theorem ImageRecord.ofJson?_toJson (record : ImageRecord) :
    ofJson? record.toJson = some record := by
  obtain ⟨productId, url, typeCode, tripImageId⟩ := record
  rw [toJson, ofJson?, Fields.read?_obj (by simp) (by simp)]
  cases tripImageId <;> simp

/-- A cancellation policy is read back from its code. -/
@[simp] theorem CancellationPolicy.ofJson?_toJson (policy : CancellationPolicy) :
    ofJson? policy.toJson = some policy := by
  cases policy <;> rfl

/-- The coordinates of a point of interest are finite numbers. -/
def PointOfInterest.Located (point : PointOfInterest) : Prop :=
  point.latitude.isFinite = true ∧ point.longitude.isFinite = true

/-- A point of interest is read back exactly when its coordinates are finite. -/
theorem PointOfInterest.ofJson?_toJson_iff (point : PointOfInterest) :
    ofJson? point.toJson = some point ↔ point.Located := by
  rw [toJson, ofJson?, Fields.read?_obj (by simp) (by simp), Located]
  cases latitude : point.latitude.isFinite <;> cases longitude : point.longitude.isFinite <;>
    simp [Json.float?_ofFloat, latitude, longitude]

/-- What a partner is told about a product is read back exactly when the coordinates of all points
of interest are finite. -/
theorem ProductContent.ofJson?_toJson_iff (content : ProductContent) :
    ofJson? content.toJson = some content ↔ ∀ point ∈ content.pointsOfInterest, point.Located := by
  obtain ⟨productId, version, title, categories, points, policy, imageIds⟩ := content
  rw [toJson, ofJson?, Fields.read?_obj (by simp [fieldNames]) (by simp)]
  simp [Source.listOf?_texts, Option.bind_eq_some_iff, Source.listOf?_arr_iff,
    PointOfInterest.ofJson?_toJson_iff]

/-- A sellable unit is read back, with or without departure and time slot. -/
theorem PackageUnit.ofJson?_toJson (unit : PackageUnit) : ofJson? unit.toJson = some unit := by
  obtain ⟨code, plu, variantId, variantName, schedule, round⟩ := unit
  rw [toJson, ofJson?]
  cases schedule <;> cases round <;>
    rw [Fields.readAtLeast?_obj 6 (by simp [fieldNames, optionalMember])
      (by simp [optionalMember])] <;>
    simp [optionalMember]

/-- The sellable units of a product are read back. -/
theorem PackageContent.ofJson?_toJson (content : PackageContent) :
    ofJson? content.toJson = some content := by
  rw [toJson, ofJson?, Fields.read?_obj (by simp) (by simp)]
  simp [Source.listOf?_arr PackageUnit.ofJson?_toJson]

/-- Every stored document is read back from its JSON, as far as its coordinates are finite: no
other value of a field, present or missing, keeps it from being the same. -/
theorem stored_documents_read_back :
    (∀ product : Product, Product.ofJson? product.toJson = some product ↔
      ∀ facility ∈ product.facilities, facility.Located) ∧
    (∀ view : ProductView, ProductView.ofJson? view.toJson = some view) ∧
    (∀ record : ImageRecord, ImageRecord.ofJson? record.toJson = some record) ∧
    (∀ content : ProductContent, ProductContent.ofJson? content.toJson = some content ↔
      ∀ point ∈ content.pointsOfInterest, point.Located) ∧
    ∀ content : PackageContent, PackageContent.ofJson? content.toJson = some content :=
  ⟨Product.ofJson?_toJson_iff, ProductView.ofJson?_toJson, ImageRecord.ofJson?_toJson,
    ProductContent.ofJson?_toJson_iff, PackageContent.ofJson?_toJson⟩

end Syndication
