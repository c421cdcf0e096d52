import Syndication.Proofs.Cache.Copying
import Syndication.Proofs.Plu.Digest
import Syndication.Proofs.Run.Soundness
import Syndication.Proofs.Stage.Completion

/-!
# Recovery

From every reachable world, however much went wrong on the way, a sync pass, a reconciliation
pass and another sync pass publish everything that can be published, as soon as nothing fails
any more. The first sync pass brings every product that can be expanded to complete views and
images, the reconciliation pass then copies the codes of all of them, and the second sync pass
finds every unit confirmed. Products that cannot be expanded stay as they are and are in
nobody's way.

The codes have to tell the texts of the catalog apart. Then what the cache holds for a code can
only be the text that has it, and no code is contested.
-/

namespace Syndication

open Attempt

/-- No two texts of well-formed contents that the catalog has share a code. -/
def Coding.Separates (coding : Coding) (catalog : Product → Prop) : Prop :=
  ∀ first second, catalog first → catalog second → first.WellFormed → second.WellFormed →
    ∀ text ∈ first.texts, ∀ other ∈ second.texts, ∀ code,
      coding.code text = .ok code → coding.code other = .ok code → text = other

variable {coding : Coding} {ttlSeconds : Nat} {catalog : Product → Prop} {cache : Cache}

/-- What products are well-formed is a matter of their offers. -/
theorem Product.SameOffer.wellFormed_iff {left right : Product} (same : left.SameOffer right) :
    left.WellFormed ↔ right.WellFormed := by
  rw [Product.WellFormed, Product.WellFormed, same.units_eq]

/-- An issued text is a text of a well-formed content that the catalog has. -/
theorem Coding.Issues.source {id : Int64} {code text : String}
    (issued : coding.Issues catalog id code text) :
    coding.code text = .ok code ∧ ∃ source, catalog source ∧ source.WellFormed ∧
      text ∈ source.texts := by
  obtain ⟨product, materialized, ⟨_, source, offered, same⟩, _, formed, assigned⟩ := issued
  obtain ⟨expanded, _, assigns⟩ := product.materialize_ok formed
  obtain ⟨textIn, coded⟩ := (assigns code text).mp assigned
  have wellFormed := (product.expand_ok expanded).1.wellFormed
  exact ⟨coded, source, offered, same.wellFormed_iff.mp wellFormed, same.texts_eq ▸ textIn⟩

/-- Where the codes tell texts apart, only one text is issued under a code. -/
theorem Coding.Separates.unique (separates : coding.Separates catalog) {first second : Int64}
    {code text other : String} (issued : coding.Issues catalog first code text)
    (issuedOther : coding.Issues catalog second code other) : text = other := by
  obtain ⟨coded, source, offered, wellFormed, textIn⟩ := issued.source
  obtain ⟨codedOther, sourceOther, offeredOther, wellFormedOther, otherIn⟩ := issuedOther.source
  exact separates source sourceOther offered offeredOther wellFormed wellFormedOther text textIn
    other otherIn code coded codedOther

/-! ## Copying -/

/-- Where codes tell texts apart, the records agree on every published text. -/
theorem Store.Sound.flattened {store : Store} (sound : store.Sound coding catalog)
    (separates : coding.Separates catalog) {id : Int64} {code text : String}
    (assigned : (store.record id)[code]? = some text) :
    (flattenRecords store.records.toList).1[code]? = some text := by
  apply Store.flattened_iff.mpr
  constructor
  · exact ⟨id, assigned⟩
  · intro owner other published
    exact separates.unique (sound.recorded owner code other published)
      (sound.recorded id code text assigned)

/-- What a code has in the cache is then the published text, if it has anything. -/
theorem Backend.Sound.copied {backend : Backend}
    (sound : backend.Sound coding ttlSeconds catalog) (separates : coding.Separates catalog)
    {id : Int64} {code text : String} (assigned : (backend.store.record id)[code]? = some text) :
    (backend.cache.get? code).or (flattenRecords backend.store.records.toList).1[code]? =
      some text := by
  rw [sound.store.flattened separates assigned]
  cases found : backend.cache.get? code with
  | none => rfl
  | some owner =>
    obtain ⟨other, issued⟩ := sound.cache.cached code owner found
    rw [separates.unique (sound.store.recorded id code text assigned) issued]
    rfl

/-! ## Recovering -/

/-- Where codes are total and tell texts apart, the well-formed products can be expanded. -/
theorem Coding.Separates.codable (separates : coding.Separates catalog)
    (total : ∀ text, ∃ code, coding.code text = .ok code) {product : Product}
    (offered : product.OfferedBy catalog) (wellFormed : product.WellFormed) :
    product.Codable coding where
  wellFormed := wellFormed
  coded text _ := total text
  injective := by
    obtain ⟨source, inCatalog, same⟩ := offered
    have sourceWellFormed := same.wellFormed_iff.mp wellFormed
    rw [same.texts_eq]
    exact fun text textIn other otherIn code => separates source source inCatalog inCatalog
      sourceWellFormed sourceWellFormed text textIn other otherIn code

/-- When the view is done, a cache with all published texts covers every stored product that can
be expanded. -/
theorem Store.Sound.covers {store : Store} (sound : store.Sound coding catalog)
    (done : store.Done coding .view) (published : ∀ (id : Int64) (code text : String),
      (store.record id)[code]? = some text → cache.get? code = some text) {id : Int64}
    {product : Product} (stored : store.products[id]? = some product)
    (codable : product.Codable coding) : cache.Covers coding product := by
  intro text member code coded
  have viewed := done id product stored codable
  obtain ⟨source, like, shown⟩ := sound.agrees.shown id product .view stored viewed
  obtain ⟨materialized, formed, _, recorded⟩ := shown.of_sameOffer like.1
  obtain ⟨_, _, assigns⟩ := product.materialize_ok formed
  have assigned := (assigns code text).mpr ⟨member, coded⟩
  exact published product.id code text (recorded code text assigned)

namespace Pipeline

variable {γ : Type} {pipeline : Pipeline γ} {world : World γ}

/-- Everything that can be published is: the services are sound, every product that can be
expanded has completed the content, and the cache covers it. -/
structure Recovered (pipeline : Pipeline γ) (catalog : Product → Prop) (world : World γ) :
    Prop where
  sound : world.backend.Sound pipeline.coding pipeline.ttlSeconds catalog
  done : world.store.Done pipeline.coding .content
  covered : ∀ (id : Int64) (product : Product), world.store.products[id]? = some product →
    product.Codable pipeline.coding → world.cache.Covers pipeline.coding product

/-- A sync pass, a reconciliation pass and another sync pass, without outage. -/
def recover (pipeline : Pipeline γ) : Attempt (World γ) PipelineError Unit := do
  let _ ← pipeline.runSync fun _ => Outage.none.throughout
  let _ ← pipeline.runReconcile Outage.none
  let _ ← pipeline.runSync fun _ => Outage.none.throughout

/-- A sync pass without outage leaves the services sound and the cache as it is, completes the
images for every product that can be expanded, and the content too if the collaborators
answer and the cache covers those products. -/
theorem syncs (sound : world.backend.Sound pipeline.coding pipeline.ttlSeconds catalog) :
    (pipeline.runSync fun _ => Outage.none.throughout).Succeeds
      (fun _ later => later.backend.Sound pipeline.coding pipeline.ttlSeconds catalog ∧
        later.cache = world.cache ∧ world.store.Promotes later.store ∧
        later.store.Done pipeline.coding .image ∧
        (pipeline.collaborators.Answer →
          (∀ (id : Int64) (product : Product), world.store.products[id]? = some product →
            product.Codable pipeline.coding → world.cache.Covers pipeline.coding product) →
          later.store.Done pipeline.coding .content)) world := by
  have likeness := Product.SameOffered.likeness catalog
  have synced := passes_runSync likeness sound.store.agrees
  refine (synced.ensured (pipeline.sound_runSync sound)).weaken ?_
  rintro report later ⟨soundLater, viewed, imaged, passedView, passedImage, passedContent⟩
  have viewDone : viewed.store.Done pipeline.coding .view :=
    passedView.done sound.store.agrees nofun fun _ _ _ codable => ⟨codable, nofun⟩
  have imageDone : imaged.store.Done pipeline.coding .image := by
    refine passedImage.done passedView.agrees ?_ fun _ _ _ codable => ⟨codable, nofun⟩
    rintro _ ⟨rfl⟩
    exact viewDone
  have promotes := passedView.promotes.trans passedImage.promotes
  have cache := passedImage.cache.trans passedView.cache
  refine ⟨soundLater, passedContent.cache.trans cache, promotes.trans passedContent.promotes,
    passedContent.promotes.done imageDone, fun answers covered => ?_⟩
  refine passedContent.done passedImage.agrees ?_ fun id product stored codable => ?_
  · rintro _ ⟨rfl⟩
    exact imageDone
  · obtain ⟨earlier, found, same, _⟩ := promotes.origin stored
    refine ⟨codable, fun _ => ⟨answers, ?_⟩⟩
    rw [cache, Cache.Covers, same.texts_eq]
    exact covered id earlier found (same.codable_iff.mp codable)

/-- A reconciliation pass without outage leaves the services sound and the store as it is, and
puts every published text into the cache. -/
theorem reconciles (separates : pipeline.coding.Separates catalog)
    (positive : pipeline.ttlSeconds ≠ 0)
    (sound : world.backend.Sound pipeline.coding pipeline.ttlSeconds catalog) :
    (pipeline.runReconcile Outage.none).Succeeds
      (fun _ later => later.backend.Sound pipeline.coding pipeline.ttlSeconds catalog ∧
        later.store = world.store ∧ ∀ (id : Int64) (code text : String),
          (world.store.record id)[code]? = some text → later.cache.get? code = some text)
      world := by
  refine Succeeds.ensured ?_ (pipeline.sound_runReconcile sound)
  refine (succeeds_runReconcile positive (sound.cache.live positive)).weaken ?_
  intro _ later ⟨store, values⟩
  exact ⟨store, fun id code text assigned =>
    (values code).trans (sound.copied separates assigned)⟩

/-- Recovery leads from sound services to a recovered world. -/
theorem succeeds_recover (separates : pipeline.coding.Separates catalog)
    (positive : pipeline.ttlSeconds ≠ 0) (answers : pipeline.collaborators.Answer)
    (sound : world.backend.Sound pipeline.coding pipeline.ttlSeconds catalog) :
    pipeline.recover.Succeeds (fun _ later => pipeline.Recovered catalog later ∧
      world.store.Promotes later.store) world := by
  unfold recover
  refine (syncs sound).followed fun _ synced ⟨sound, _, promotesFirst, imageDone, _⟩ => ?_
  refine (reconciles separates positive sound).followed ?_
  intro _ copied ⟨soundCopied, store, published⟩
  have viewDone : synced.store.Done pipeline.coding .view := fun id product stored codable =>
    SyncStatus.isComplete_prerequisite rfl (imageDone id product stored codable)
  have covered : ∀ (id : Int64) (product : Product), copied.store.products[id]? = some product →
      product.Codable pipeline.coding → copied.cache.Covers pipeline.coding product := by
    intro id product stored codable
    rw [store] at stored
    exact sound.store.covers viewDone published stored codable
  refine (syncs soundCopied).followed ?_
  intro _ later ⟨soundLater, cache, promotesSecond, _, contentDone⟩
  refine succeeds_pure ⟨⟨soundLater, contentDone answers covered, ?_⟩, ?_⟩
  · intro id product stored codable
    obtain ⟨earlier, found, same, _⟩ := promotesSecond.origin stored
    rw [cache, Cache.Covers, same.texts_eq]
    exact covered id earlier found (same.codable_iff.mp codable)
  · exact promotesFirst.trans (store ▸ promotesSecond)

namespace Recovered

/-- In a recovered world a text of a product that can be expanded is what its code resolves to,
where codes are accepted by resolution. -/
theorem resolves (recovered : pipeline.Recovered catalog world) {id : Int64} {product : Product}
    (stored : world.store.products[id]? = some product) (codable : product.Codable pipeline.coding)
    {text code : String} (member : text ∈ product.texts)
    (coded : pipeline.coding.code text = .ok code) (wellFormed : isWellFormedCode code = true) :
    ((Pipeline.resolve Outage.none code).runOn world).1 = .ok text := by
  rw [result_resolve, resolvePlu_ok_iff]
  exact ⟨wellFormed, rfl, recovered.covered id product stored codable text member code coded⟩

/-- A sync pass in a recovered world has no candidates but the products that cannot be expanded,
which it tries to publish in vain. -/
theorem settled (recovered : pipeline.Recovered catalog world) :
    (∀ product ∈ world.store.readyFor .view, ¬product.Codable pipeline.coding) ∧
      (pipeline.runSync fun _ => Outage.none.throughout).Succeeds
        (fun report _ => report.view.candidates = (world.store.readyFor .view).length ∧
          report.image.candidates = 0 ∧ report.content.candidates = 0) world := by
  have likeness := Product.SameOffered.likeness catalog
  have agrees := recovered.sound.store.agrees
  have offer : ∀ left right, Product.SameOffered catalog left right → left.SameOffer right :=
    fun _ _ like => like.1
  refine ⟨fun product listed => agrees.not_codable_of_readyFor recovered.done listed, ?_⟩
  refine (passes_runSync likeness agrees).weaken ?_
  rintro report later ⟨viewed, imaged, passedView, passedImage, passedContent⟩
  have doneViewed := passedView.promotes.done recovered.done
  have doneImaged := passedImage.promotes.done doneViewed
  have noImages : viewed.store.readyFor .image = [] :=
    passedView.agrees.readyFor_eq_nil offer doneViewed nofun
  have noContent : imaged.store.readyFor .content = [] :=
    passedImage.agrees.readyFor_eq_nil offer doneImaged nofun
  refine ⟨passedView.counted, ?_, ?_⟩
  · rw [passedImage.counted, noImages, List.length_nil]
  · rw [passedContent.counted, noContent, List.length_nil]

end Recovered

end Pipeline

/-- From every reachable world recovery publishes everything that can be published. Codes are
digests of an allowed length that tell the catalog's texts apart, cache entries have a time to
live, and the collaborators answer.

The three passes run to the end and lose no product. Afterwards every stored product whose
units are well-formed is synchronized, and the code of each of its texts resolves to the text.
One more sync pass finds no candidate but products that cannot be expanded. -/
theorem Reachable.recovers {γ : Type} {pipeline : Pipeline γ} {outside : γ} {world : World γ}
    {length : Nat} (digest : pipeline.coding = ⟨digestCode, length⟩)
    (bounded : 1 ≤ length ∧ length ≤ maxCodeLength) (positive : pipeline.ttlSeconds ≠ 0)
    (separates : pipeline.coding.Separates catalog) (answers : pipeline.collaborators.Answer)
    (reachable : Reachable pipeline catalog outside world) :
    ∃ recovered, pipeline.recover.runOn world = (.ok (), recovered) ∧
      world.store.Promotes recovered.store ∧
      (∀ (id : Int64) (product : Product), recovered.store.products[id]? = some product →
        product.WellFormed → product.status = .contentSynced ∧
          ∀ text ∈ product.texts, ∃ code, pipeline.coding.code text = .ok code ∧
            ((Pipeline.resolve Outage.none code).runOn recovered).1 = .ok text) ∧
      (∀ product ∈ recovered.store.readyFor .view, ∀ details,
        product.expand pipeline.coding ≠ .ok details) ∧
      ∃ report later,
        (pipeline.runSync fun _ => Outage.none.throughout).runOn recovered = (.ok report, later) ∧
          report.view.candidates = (recovered.store.readyFor .view).length ∧
          report.image.candidates = 0 ∧ report.content.candidates = 0 := by
  obtain ⟨_, world', ran, recovered, promotes⟩ :=
    (Pipeline.succeeds_recover separates positive answers reachable.sound).runs
  have total : ∀ text, ∃ code, pipeline.coding.code text = .ok code := by
    rw [digest]
    exact fun text => digestCode_ok_iff.mpr bounded
  obtain ⟨unexpandable, settles⟩ := recovered.settled
  refine ⟨world', ran, promotes, fun id product stored wellFormed => ?_, ?_, settles.runs⟩
  · have offered := (recovered.sound.store.agrees.own id product stored).2
    have codable := separates.codable total offered wellFormed
    have complete := recovered.done id product stored codable
    refine ⟨SyncStatus.eq_contentSynced_of_isComplete complete, ?_⟩
    intro text member
    obtain ⟨code, coded⟩ := total text
    refine ⟨code, coded, recovered.resolves stored codable member coded ?_⟩
    rw [digest] at coded
    exact isWellFormedCode_of_digestCode coded
  · intro product listed details expanded
    exact unexpandable product listed (product.expand_ok expanded).1

/-- The tour that has come in, and of which nothing is published yet, is synchronized by a
recovery. -/
theorem Tour.ingested_recovers : ∃ recovered,
    (pipeline ⟨digestCode, 12⟩).recover.runOn (ingested ⟨digestCode, 12⟩) = (.ok (), recovered) ∧
      ∃ product : Product, recovered.store.products[(7 : Int64)]? = some product ∧
        product.status = .contentSynced := by
  have texts : product.texts = ["7|1|4||"] := by decide +kernel
  have separates : Coding.Separates ⟨digestCode, 12⟩ (· = product) := by
    rintro _ _ rfl rfl _ _ text member other otherMember _ _ _
    rw [texts, List.mem_singleton] at member otherMember
    rw [member, otherMember]
  have wellFormed : product.WellFormed := by
    have units : product.units = [⟨7, 1, 4, "", ""⟩] := by decide +kernel
    rintro unit member
    rw [units, List.mem_singleton] at member
    subst member
    exact ⟨rfl, rfl⟩
  have stored : (ingested ⟨digestCode, 12⟩).store.products[(7 : Int64)]? = some product := by
    decide +kernel
  obtain ⟨recovered, ran, promotes, synced, _⟩ := Reachable.recovers rfl (by decide) (by decide)
    separates ⟨fun _ _ _ => ⟨"place", rfl⟩, fun _ _ => ⟨[], rfl⟩⟩
    (reachable_ingested ⟨digestCode, 12⟩)
  refine ⟨recovered, ran, ?_⟩
  obtain ⟨absent, _⟩ | ⟨earlier, status, found, present, _⟩ := promotes 7
  · rw [stored] at absent
    cases absent
  · cases stored.symm.trans found
    have same := Product.SameOffer.withStatus product status
    exact ⟨_, present, (synced 7 _ present (same.wellFormed_iff.mpr wellFormed)).1⟩

end Syndication
