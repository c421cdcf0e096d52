import Syndication.Proofs.Product.Offer
import Syndication.Proofs.Product.Progress
import Syndication.Store.Basic

/-!
# Agreement of stage outputs with the products

A stage marks a product complete after it has written its output, and the output stays in
the store when the product is edited. `Store.Shows` says what the output of a stage looks
like when it was derived from a given product, and `Store.Agrees` says that wherever a flag
is set, the output was derived from a product like the stored one. What counts as alike is a
parameter: products with the same offer when nobody edits during a pass, and products with
the same identifier and version when somebody may.

Records have a history that agreement does not tell. `Store.Issued` says where a published
text comes from.

An output may be rewritten only while the flag is not set. That is what the operations below
preserve, and what one pass promises to the others, `Store.Spares`.
-/

namespace Syndication

/-- A payload tells identifier, version, title and cancellation policy of a product, and its
units carry the product's texts in order of emission. The categories, places and images of a
payload have other sources. -/
structure Payload.Describes (coding : Coding) (payload : Payload) (product : Product) : Prop where
  id : payload.1.productId = product.id
  version : payload.1.version = product.version
  title : payload.1.title = product.title
  policy : payload.1.policy = .of product
  owner : payload.2.productId = product.id
  units : ∃ details, product.expand coding = .ok details ∧
    payload.2.units.map PackageUnit.plu = details.flatMap PluDetail.plus

/-- A payload that describes a product describes every product with the same view. -/
theorem Payload.Describes.of_sameView {coding : Coding} {payload : Payload}
    {product source : Product} {materialized : Materialized}
    (describes : payload.Describes coding source)
    (formed : product.materialize coding = .ok materialized)
    (formedSource : source.materialize coding = .ok materialized) :
    payload.Describes coding product := by
  obtain ⟨details, expanded, viewed, _⟩ := product.view_of_materialize formed
  obtain ⟨detailsSource, expandedSource, viewedSource, _⟩ := source.view_of_materialize formedSource
  rw [viewed] at viewedSource
  injection viewedSource with id version title rows listed
  exact {
    id := describes.id.trans id.symm
    version := describes.version.trans version.symm
    title := describes.title.trans title.symm
    policy := describes.policy.trans (CancellationPolicy.of_eq_of_rows rows).symm
    owner := describes.owner.trans id.symm
    units := by
      obtain ⟨found, expandedFound, units⟩ := describes.units
      cases expandedSource.symm.trans expandedFound
      exact ⟨details, expanded, listed ▸ units⟩ }

namespace Store

/-- The store has the output of a stage as it is derived from a product: its view, with all
its texts published; its images queued; or a payload that describes it. -/
def Shows (coding : Coding) (store : Store) (product : Product) : Stage → Prop
  | .view => ∃ materialized, product.materialize coding = .ok materialized ∧
      store.views[product.id]? = some materialized.view ∧
      ∀ code text : String, materialized.hashes[code]? = some text →
        (store.record product.id)[code]? = some text
  | .image => ∀ image ∈ product.imageRecords, image.key ∈ store.images.map ImageRecord.key
  | .content => ∃ payload, store.contents[product.id]? = some payload ∧
      payload.Describes coding product

/-- The output of a stage is as it was before; images may have been added to the queue. -/
def Retains (before after : Store) : Stage → Prop
  | .view => after.views = before.views ∧ after.records = before.records
  | .image => ∀ key ∈ before.images.map ImageRecord.key, key ∈ after.images.map ImageRecord.key
  | .content => after.contents = before.contents

/-- The product with an identifier, if there is one, has not completed a stage. -/
def Incomplete (store : Store) (stage : Stage) (id : Int64) : Prop :=
  ∀ product, store.products[id]? = some product → product.status.isComplete stage = false

/-- There is a product with an identifier, and it has completed a stage. -/
def Complete (store : Store) (stage : Stage) (id : Int64) : Prop :=
  ∃ product, store.products[id]? = some product ∧ product.status.isComplete stage = true

/-- What happened to a store left the output of a stage alone and set none of its flags. -/
structure Spares (before after : Store) (stage : Stage) : Prop where
  retained : before.Retains after stage
  incomplete : ∀ id, before.Incomplete stage id → after.Incomplete stage id

variable {coding : Coding} {alike : Product → Product → Prop} {store before after : Store}
  {product : Product} {stage : Stage} {id : Int64}

/-- The output of a stage is retained when the documents that it is made of are the same. -/
theorem Retains.of_eq
    (views : stage = .view → after.views = before.views ∧ after.records = before.records)
    (images : stage = .image → after.images = before.images)
    (contents : stage = .content → after.contents = before.contents) :
    before.Retains after stage := by
  cases stage with
  | view => exact views rfl
  | image =>
    intro key member
    rwa [images rfl]
  | content => exact contents rfl

/-- Nothing changes the output of a stage by doing nothing. -/
theorem Retains.refl (store : Store) (stage : Stage) : store.Retains store stage :=
  .of_eq (fun _ => ⟨rfl, rfl⟩) (fun _ => rfl) fun _ => rfl

/-- What is shown before is shown as long as the output is retained. -/
theorem Shows.retained (shown : before.Shows coding product stage)
    (retains : before.Retains after stage) : after.Shows coding product stage := by
  cases stage with
  | view =>
    obtain ⟨materialized, formed, viewed, published⟩ := shown
    refine ⟨materialized, formed, retains.1 ▸ viewed, fun code text assigned => ?_⟩
    rw [record, retains.2]
    exact published code text assigned
  | image => exact fun image member => retains image.key (shown image member)
  | content =>
    obtain ⟨payload, stored, describes⟩ := shown
    exact ⟨payload, (congrArg (·[product.id]?) retains).trans stored, describes⟩

/-- Products with the same offer are shown by the same output. -/
theorem Shows.of_sameOffer {source : Product} (same : product.SameOffer source)
    (shown : store.Shows coding source stage) : store.Shows coding product stage := by
  cases stage with
  | view =>
    obtain ⟨materialized, formed, viewed, published⟩ := shown
    rw [← same.id] at viewed published
    exact ⟨materialized, same.materialize_eq.trans formed, viewed, published⟩
  | image => exact fun image member => shown image (same.imageRecords_eq ▸ member)
  | content =>
    obtain ⟨payload, stored, describes⟩ := shown
    refine ⟨payload, same.id ▸ stored, ?_⟩
    exact {
      id := describes.id.trans same.id.symm
      version := describes.version.trans same.version.symm
      title := describes.title.trans same.title.symm
      policy := describes.policy.trans same.policy_eq.symm
      owner := describes.owner.trans same.id.symm
      units := by
        rw [same.expand_eq]
        exact describes.units }

/-- Doing nothing spares every stage. -/
theorem Spares.refl (store : Store) (stage : Stage) : store.Spares store stage :=
  ⟨Retains.refl store stage, fun _ still => still⟩

/-- Sparing a stage twice in a row spares it. -/
theorem Spares.trans {middle : Store} (first : before.Spares middle stage)
    (second : middle.Spares after stage) : before.Spares after stage where
  retained := by
    cases stage with
    | view =>
      exact ⟨second.retained.1.trans first.retained.1, second.retained.2.trans first.retained.2⟩
    | image => exact fun key member => second.retained key (first.retained key member)
    | content => exact Eq.trans second.retained first.retained
  incomplete id still := second.incomplete id (first.incomplete id still)

/-- A store spares every stage whose output is retained when no product changes. -/
theorem Spares.of_products_eq (same : after.products = before.products)
    (retains : before.Retains after stage) : before.Spares after stage :=
  ⟨retains, fun _ still stored found => still stored (same ▸ found)⟩

end Store

/-- What is required of a comparison of products. It compares identifiers at least, does not
look at the status, and does not tell an edited product from the one before when the content
is the same. -/
structure Likeness (alike : Product → Product → Prop) : Prop where
  id : ∀ left right, alike left right → left.id = right.id
  status : ∀ left right, alike left right → ∀ first second,
    alike { left with status := first } { right with status := second }
  edited : ∀ edited existing source, edited.sameContent existing = true →
    alike edited edited → alike existing source → alike edited source

/-- Having the same offer is a likeness. -/
theorem Product.SameOffer.likeness : Likeness Product.SameOffer where
  id _ _ same := same.id
  status left right same first second :=
    ((Product.SameOffer.withStatus left first).trans same).trans
      (Product.SameOffer.withStatus right second).symm
  edited _ _ _ same _ like := (Product.SameOffer.of_sameContent same).trans like

namespace Store

/-- Every product is stored under its identifier and like itself, and wherever the flag of a
stage is set, the store shows the output derived from a product like the stored one. -/
structure Agrees (coding : Coding) (alike : Product → Product → Prop) (store : Store) : Prop where
  placed : ∀ (id : Int64) (product : Product), store.products[id]? = some product → product.id = id
  own : ∀ (id : Int64) (product : Product), store.products[id]? = some product →
    alike product product
  shown : ∀ (id : Int64) (product : Product) stage, store.products[id]? = some product →
    product.status.isComplete stage = true →
      ∃ source, alike product source ∧ store.Shows coding source stage

/-- A candidate of a stage waits to be processed: it is one of the products that the
comparison knows, the product stored under its identifier has not completed the stage, and
as long as their versions are the same they are alike. -/
structure Awaits (alike : Product → Product → Prop) (stage : Stage) (candidate : Product)
    (store : Store) : Prop where
  own : alike candidate candidate
  incomplete : store.Incomplete stage candidate.id
  same : ∀ product, store.products[candidate.id]? = some product →
    product.version = candidate.version → alike product candidate

/-- A text was issued under a code for an identifier: some product that the comparison knows
materializes with the text under the code. -/
def Issued (coding : Coding) (alike : Product → Product → Prop) (id : Int64) (code text : String) :
    Prop :=
  ∃ source materialized, alike source source ∧ source.id = id ∧
    source.materialize coding = .ok materialized ∧ materialized.hashes[code]? = some text

variable {coding : Coding} {alike : Product → Product → Prop} {store before after : Store}
  {product candidate : Product} {stage : Stage} {id : Int64}

/-- Agreement begins with an empty store. -/
theorem agrees_empty : Store.empty.Agrees coding alike := by
  constructor <;> simp [empty]

/-- Agreement survives a change of outputs that nobody relies on: the products are the same,
and only the output of one stage for one identifier, whose flag is not set, may be different.
Nothing shown for another product or by another stage is lost. -/
theorem Agrees.rewritten (agrees : before.Agrees coding alike) (likeness : Likeness alike)
    (same : after.products = before.products) (incomplete : before.Incomplete stage id)
    (still : ∀ source other, (source.id = id → other ≠ stage) →
      before.Shows coding source other → after.Shows coding source other) :
    after.Agrees coding alike where
  placed key stored found := agrees.placed key stored (same ▸ found)
  own key stored found := agrees.own key stored (same ▸ found)
  shown key stored other found complete := by
    rw [same] at found
    obtain ⟨source, like, shown⟩ := agrees.shown key stored other found complete
    refine ⟨source, like, still source other ?_ shown⟩
    rintro sourceId rfl
    have key_eq : key = id := by
      rw [← agrees.placed key stored found, likeness.id stored source like, sourceId]
    subst key_eq
    rw [incomplete stored found] at complete
    exact Bool.noConfusion complete

/-- Agreement survives when the outputs of all stages are retained. -/
theorem Agrees.retained (agrees : before.Agrees coding alike)
    (same : after.products = before.products) (retains : ∀ stage, before.Retains after stage) :
    after.Agrees coding alike where
  placed key stored found := agrees.placed key stored (same ▸ found)
  own key stored found := agrees.own key stored (same ▸ found)
  shown key stored other found complete := by
    rw [same] at found
    obtain ⟨source, like, shown⟩ := agrees.shown key stored other found complete
    exact ⟨source, like, shown.retained (retains other)⟩

/-! ## Records -/

/-- The records after texts were added to one of them. -/
theorem record_mergeHashes (store : Store) (hashes : PluHashes) (id key : Int64) :
    (store.mergeHashes id hashes).2.record key =
      if key = id then store.record id ∪ hashes else store.record key := by
  by_cases current : key = id
  · subst current
    simp [record, mergeHashes]
  · simp [record, mergeHashes, Std.ExtTreeMap.getD_insert, current, Ne.symm current]

/-- The records after one of them was replaced. -/
theorem record_replaceHashes (store : Store) (hashes : PluHashes) (id key : Int64) :
    (store.replaceHashes id hashes).2.record key =
      if key = id then hashes else store.record key := by
  by_cases current : key = id
  · subst current
    simp [record, replaceHashes]
  · simp [record, replaceHashes, Std.ExtTreeMap.getD_insert, current, Ne.symm current]

/-! ## Listings -/

/-- The products that are ready for a stage, in order. -/
def readyFor (store : Store) (stage : Stage) : List Product :=
  (store.withFlag stage false).filter fun product => product.status.isReadyFor stage

/-- A stored product that has not completed a stage waits for it. -/
theorem Agrees.awaits (agrees : store.Agrees coding alike)
    (stored : store.products[product.id]? = some product)
    (incomplete : product.status.isComplete stage = false) :
    store.Awaits alike stage product where
  own := agrees.own product.id product stored
  incomplete other found := by
    cases stored.symm.trans found
    exact incomplete
  same other found _ := by
    cases stored.symm.trans found
    exact agrees.own product.id product stored

/-- A listed product is stored under its identifier, and its flag has the value asked for. -/
theorem Agrees.of_mem_withFlag (agrees : store.Agrees coding alike) {value : Bool}
    (listed : product ∈ store.withFlag stage value) :
    store.products[product.id]? = some product ∧ product.status.isComplete stage = value := by
  rw [withFlag, List.mem_filter, List.mem_map, beq_iff_eq] at listed
  obtain ⟨⟨⟨key, stored⟩, member, rfl⟩, flag⟩ := listed
  have found := Std.ExtTreeMap.mem_toList_iff_getElem?_eq_some.mp member
  exact ⟨agrees.placed key stored found ▸ found, flag⟩

/-- No two listed products have the same identifier. -/
theorem Agrees.distinct_withFlag (agrees : store.Agrees coding alike) {value : Bool} :
    (store.withFlag stage value).Pairwise fun first second => first.id ≠ second.id := by
  refine List.Pairwise.sublist List.filter_sublist (List.pairwise_map.mpr ?_)
  refine List.Pairwise.imp_of_mem ?_ Std.ExtTreeMap.distinct_keys_toList
  intro first second firstIn secondIn different same
  have firstId := agrees.placed _ _ (Std.ExtTreeMap.mem_toList_iff_getElem?_eq_some.mp firstIn)
  have secondId := agrees.placed _ _ (Std.ExtTreeMap.mem_toList_iff_getElem?_eq_some.mp secondIn)
  exact different (Std.compare_eq_iff_eq.mpr (firstId.symm.trans (same.trans secondId)))

/-- Stored products are ready as their status says. -/
theorem Agrees.mem_readyFor_iff
    (agrees : store.Agrees coding alike) : product ∈ store.readyFor stage ↔
      store.products[product.id]? = some product ∧ product.status.isReadyFor stage = true := by
  rw [readyFor, List.mem_filter]
  refine and_congr_left fun ready => ⟨fun listed => (agrees.of_mem_withFlag listed).1, ?_⟩
  intro stored
  rw [withFlag, List.mem_filter, List.mem_map]
  refine ⟨⟨(product.id, product), ?_, rfl⟩, ?_⟩
  · exact Std.ExtTreeMap.mem_toList_iff_getElem?_eq_some.mpr stored
  · simp [SyncStatus.isComplete_of_isReadyFor ready]

/-! ## Catalog entries coming in -/

/-- The products after an entry came in: the entry under its identifier, the rest as before. -/
theorem products_upsertProduct (store : Store) (product : Product) (key : Int64) :
    (store.upsertProduct product).2.products[key]? =
      if product.id = key then some { product with status := store.ingestedStatus product }
      else store.products[key]? := by
  simp [upsertProduct, Std.ExtTreeMap.getElem?_insert]

/-- An entry that comes in has completed a stage only if it was stored before with the same
content and had completed the stage then. A new one comes in as pending. -/
theorem existing_of_ingested (pending : store.products[product.id]? = none →
      product.status = .pending)
    (complete : (store.ingestedStatus product).isComplete stage = true) :
    ∃ existing, store.products[product.id]? = some existing ∧
      product.sameContent existing = true ∧ existing.status.isComplete stage = true := by
  unfold ingestedStatus at complete
  split at complete
  case h_1 absent =>
    rw [pending absent] at complete
    cases stage <;> cases complete
  case h_2 existing found =>
    split at complete
    case isTrue same => exact ⟨existing, found, same, complete⟩
    case isFalse =>
      rw [SyncStatus.isComplete_resync] at complete
      exact Bool.noConfusion complete

/-- A catalog entry that comes in spares every stage: it changes no output, and an edit can
only clear flags. -/
theorem spares_upsertProduct (stage : Stage)
    (pending : store.products[product.id]? = none → product.status = .pending) :
    store.Spares (store.upsertProduct product).2 stage where
  retained := .of_eq (fun _ => ⟨rfl, rfl⟩) (fun _ => rfl) fun _ => rfl
  incomplete id still stored found := by
    rw [products_upsertProduct] at found
    split at found
    case isTrue same =>
      cases found
      show (store.ingestedStatus product).isComplete stage = false
      cases flagged : (store.ingestedStatus product).isComplete stage with
      | false => rfl
      | true =>
        obtain ⟨existing, existed, _, complete⟩ := existing_of_ingested pending flagged
        rw [still existing (same ▸ existed)] at complete
        exact complete.symm
    case isFalse => exact still stored found

/-- Agreement survives a catalog entry that comes in. -/
theorem Agrees.upsertProduct (agrees : store.Agrees coding alike) (likeness : Likeness alike)
    (known : alike product product)
    (pending : store.products[product.id]? = none → product.status = .pending) :
    (store.upsertProduct product).2.Agrees coding alike where
  placed key stored found := by
    rw [products_upsertProduct] at found
    split at found
    case isTrue same => cases found; exact same
    case isFalse => exact agrees.placed key stored found
  own key stored found := by
    rw [products_upsertProduct] at found
    split at found
    case isTrue => cases found; exact likeness.status product product known _ _
    case isFalse => exact agrees.own key stored found
  shown key stored stage found complete := by
    have retains := (spares_upsertProduct stage pending).retained
    rw [products_upsertProduct] at found
    split at found
    case isTrue =>
      cases found
      obtain ⟨existing, existed, same, completeBefore⟩ := existing_of_ingested pending complete
      obtain ⟨source, like, shown⟩ := agrees.shown _ existing stage existed completeBefore
      have likeSource := likeness.edited product existing source same known like
      exact ⟨source, likeness.status product source likeSource _ source.status,
        shown.retained retains⟩
    case isFalse =>
      obtain ⟨source, like, shown⟩ := agrees.shown key stored stage found complete
      exact ⟨source, like, shown.retained retains⟩

/-! ## Flags being set -/

/-- A stage is marked complete on a stored product of the expected version, whose status then
has the flag; nothing else in the store is different. -/
theorem completeStage_ok {version : Int32} {reached : SyncStatus × Store}
    (completed : store.completeStage id version stage = .ok reached) :
    ∃ product, store.products[id]? = some product ∧ product.version = version ∧
      product.status.complete stage = .ok reached.1 ∧
      reached.2 = { store with
        products := store.products.insert id { product with status := reached.1 } } := by
  unfold completeStage at completed
  split at completed
  case h_1 => cases completed
  case h_2 product found =>
    split at completed
    case isTrue same =>
      split at completed
      case h_1 status advanced =>
        cases completed
        exact ⟨product, found, same, advanced, rfl⟩
      case h_2 => cases completed
    case isFalse => cases completed

/-- Marking a stage complete changes nothing under other identifiers. -/
theorem products_completeStage {version : Int32} {reached : SyncStatus × Store}
    (completed : store.completeStage id version stage = .ok reached) {key : Int64}
    (different : key ≠ id) : reached.2.products[key]? = store.products[key]? := by
  obtain ⟨product, _, _, _, stored⟩ := completeStage_ok completed
  rw [stored]
  simp [Std.ExtTreeMap.getElem?_insert, Ne.symm different]

/-- Marking a stage complete changes no record. -/
theorem record_completeStage {version : Int32} {reached : SyncStatus × Store}
    (completed : store.completeStage id version stage = .ok reached) (key : Int64) :
    reached.2.record key = store.record key := by
  obtain ⟨product, _, _, _, stored⟩ := completeStage_ok completed
  rw [stored]
  rfl

/-- Marking a stage complete retains the outputs of all stages. -/
theorem retains_completeStage {version : Int32} {reached : SyncStatus × Store}
    (completed : store.completeStage id version stage = .ok reached) (other : Stage) :
    store.Retains reached.2 other := by
  obtain ⟨product, _, _, _, stored⟩ := completeStage_ok completed
  rw [stored]
  exact .of_eq (fun _ => ⟨rfl, rfl⟩) (fun _ => rfl) fun _ => rfl

/-- Marking a stage complete spares the other stages. -/
theorem spares_completeStage {version : Int32} {reached : SyncStatus × Store}
    (completed : store.completeStage id version stage = .ok reached) {other : Stage}
    (different : other ≠ stage) : store.Spares reached.2 other where
  retained := retains_completeStage completed other
  incomplete key still stored found := by
    by_cases same : key = id
    · subst same
      obtain ⟨product, existed, _, advanced, after⟩ := completeStage_ok completed
      rw [after] at found
      simp only [Std.ExtTreeMap.getElem?_insert_self, Option.some.injEq] at found
      subst found
      show reached.1.isComplete other = false
      rw [SyncStatus.isComplete_other_of_complete different advanced]
      exact still product existed
    · rw [products_completeStage completed same] at found
      exact still stored found

/-- Agreement survives the completion of a stage whose output is there, derived from a product
like the stored one. -/
theorem Agrees.completeStage {version : Int32} {reached : SyncStatus × Store}
    (agrees : store.Agrees coding alike) (likeness : Likeness alike)
    (completed : store.completeStage id version stage = .ok reached)
    (written : ∀ product, store.products[id]? = some product → product.version = version →
      ∃ source, alike product source ∧ store.Shows coding source stage) :
    reached.2.Agrees coding alike := by
  obtain ⟨product, existed, version_eq, advanced, after⟩ := completeStage_ok completed
  have stored : reached.2.products[id]? = some { product with status := reached.1 } := by
    rw [after]
    simp
  have elsewhere : ∀ key, key ≠ id → reached.2.products[key]? = store.products[key]? :=
    fun key different => products_completeStage completed different
  constructor
  case placed =>
    intro key other found
    by_cases same : key = id
    · subst same
      cases stored.symm.trans found
      exact agrees.placed key product existed
    · exact agrees.placed key other (elsewhere key same ▸ found)
  case own =>
    intro key other found
    by_cases same : key = id
    · subst same
      cases stored.symm.trans found
      exact likeness.status product product (agrees.own key product existed) _ _
    · exact agrees.own key other (elsewhere key same ▸ found)
  case shown =>
    intro key other shownStage found complete
    have retains := retains_completeStage completed shownStage
    by_cases same : key = id
    · subst same
      cases stored.symm.trans found
      by_cases current : shownStage = stage
      · subst current
        obtain ⟨source, like, shown⟩ := written product existed version_eq
        exact ⟨source, likeness.status product source like _ source.status,
          shown.retained retains⟩
      · have completeBefore : product.status.isComplete shownStage = true :=
          SyncStatus.isComplete_other_of_complete current advanced ▸ complete
        obtain ⟨source, like, shown⟩ :=
          agrees.shown key product shownStage existed completeBefore
        exact ⟨source, likeness.status product source like _ source.status,
          shown.retained retains⟩
    · obtain ⟨source, like, shown⟩ :=
        agrees.shown key other shownStage (elsewhere key same ▸ found) complete
      exact ⟨source, like, shown.retained retains⟩

end Store

end Syndication
