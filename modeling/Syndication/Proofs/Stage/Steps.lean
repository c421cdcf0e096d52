import Syndication.Proofs.Attempt.Services
import Syndication.Proofs.Content.Units
import Syndication.Proofs.Image.Queueing
import Syndication.Proofs.Stage.Agreement
import Syndication.View.Publish

/-!
# One stage on one product

The three stages write in different ways, but each serves its candidate by the same rules.
What it does keeps agreement, leaves the outputs and flags of the other stages alone, changes
no product except by setting the candidate's flag, and publishes only texts that were issued;
`Store.Advances` collects this. Others may act in between, as long
as they keep agreement, retain the output of the stage, and let the candidate wait.

The flag is set last, after the output of the candidate has been written. At that moment the
stored product has the candidate's version or the flag is refused, and by what candidates
wait for it is then like the candidate, whatever happened to it meanwhile.
-/

namespace Syndication

open Attempt

/-- What an operation of a stage does to the store when it serves the product with an
identifier: agreement is kept, no other product is touched and this one at most has the stage
completed, the other stages are spared, and what is in a record afterwards was there before
or has been issued. -/
structure Store.Advances (coding : Coding) (alike : Product → Product → Prop) (stage : Stage)
    (id : Int64) (before after : Store) : Prop where
  agrees : before.Agrees coding alike → after.Agrees coding alike
  elsewhere : ∀ key, key ≠ id → after.products[key]? = before.products[key]?
  here : after.products[id]? = before.products[id]? ∨ ∃ product status,
    before.products[id]? = some product ∧ product.status.complete stage = .ok status ∧
      after.products[id]? = some { product with status }
  spares : ∀ other, other ≠ stage → before.Spares after other
  issued : ∀ (key : Int64) (code text : String), (after.record key)[code]? = some text →
    (before.record key)[code]? = some text ∨ Store.Issued coding alike key code text

/-- Doing nothing advances nothing. -/
theorem Store.Advances.refl {coding : Coding} {alike : Product → Product → Prop} {stage : Stage}
    {id : Int64} (store : Store) : store.Advances coding alike stage id store :=
  ⟨fun agrees => agrees, fun _ _ => rfl, Or.inl rfl, fun other _ => .refl store other,
    fun _ _ _ => Or.inl⟩

/-- What others may do to the store while a stage is under way: they keep agreement, retain the
output of the stage and let its candidates wait. -/
structure Harmless (coding : Coding) (alike : Product → Product → Prop) (stage : Stage)
    (others : Store → Store → Prop) : Prop where
  likeness : Likeness alike
  agrees : ∀ before after, others before after → before.Agrees coding alike →
    after.Agrees coding alike
  retained : ∀ before after, others before after → before.Retains after stage
  awaited : ∀ before after candidate, others before after → before.Agrees coding alike →
    before.Awaits alike stage candidate → after.Awaits alike stage candidate

/-- Nobody is harmless. -/
theorem Harmless.alone {coding : Coding} {alike : Product → Product → Prop} {stage : Stage}
    (likeness : Likeness alike) : Harmless coding alike stage Alone where
  likeness := likeness
  agrees _ _ nothing agrees := nothing ▸ agrees
  retained before _ nothing := nothing ▸ .refl before stage
  awaited _ _ _ nothing _ awaits := nothing ▸ awaits

namespace Harmless

/-- An attempt on the store serves a candidate: others being harmless, its operations advance
the stage for the candidate, agreement holds at the end, and after a success something more. -/
abbrev Serves {ε α : Type} (coding : Coding) (alike : Product → Product → Prop) (stage : Stage)
    (candidate : Product) (others : Store → Store → Prop) (attempt : Attempt Store ε α)
    (success : α → Store → Prop) (store : Store) : Prop :=
  attempt.Meets others (Store.Advances coding alike stage candidate.id)
    (Outcome (Store.Agrees coding alike) success) store

variable {coding : Coding} {alike : Product → Product → Prop} {stage : Stage}
  {candidate : Product} {others : Store → Store → Prop} {store : Store} {outage : Outage}
  {α : Type} {success : α → Store → Prop} {call : StoreCall}

/-- A candidate waits as long as the products are the same. -/
theorem awaits_of_products_eq {after : Store} (same : after.products = store.products)
    (awaits : store.Awaits alike stage candidate) : after.Awaits alike stage candidate where
  own := awaits.own
  incomplete product found := awaits.incomplete product (same ▸ found)
  same product found := awaits.same product (same ▸ found)

/-- Reading serves a candidate. -/
theorem serves_read (harmless : Harmless coding alike stage others)
    (agrees : store.Agrees coding alike) (awaits : store.Awaits alike stage candidate)
    {read : Store → α}
    (seen : ∀ found, others store found → found.Awaits alike stage candidate →
      success (read found) found) :
    Serves coding alike stage candidate others
      (outage.onStore call fun found => (.ok (read found), found)) success store := by
  refine Outage.meets_onStore (fun _ => ⟨agrees, nofun⟩) fun found acted => ?_
  refine ⟨.refl found, harmless.agrees store found acted agrees, fun value same => ?_⟩
  cases same
  exact seen found acted (harmless.awaited store found candidate acted agrees awaits)

/-- Writing an output serves a candidate when the products stay as they are, the outputs of the
other stages are retained, nothing that the stage shows for other products is lost, and no
text comes into a record that was not issued. -/
theorem serves_write (harmless : Harmless coding alike stage others)
    (agrees : store.Agrees coding alike) (awaits : store.Awaits alike stage candidate)
    {tell : Store → α} {write : Store → Store}
    (same : ∀ found, (write found).products = found.products)
    (retained : ∀ (found : Store) other, other ≠ stage → found.Retains (write found) other)
    (still : ∀ (found : Store) (source : Product), source.id ≠ candidate.id →
      found.Shows coding source stage → (write found).Shows coding source stage)
    (issued : ∀ (found : Store) (key : Int64) (code text : String),
      ((write found).record key)[code]? = some text →
        (found.record key)[code]? = some text ∨ Store.Issued coding alike key code text)
    (written : ∀ found, others store found → (write found).Awaits alike stage candidate →
      success (tell found) (write found)) :
    Serves coding alike stage candidate others
      (outage.onStore call fun found => (.ok (tell found), write found)) success store := by
  refine Outage.meets_onStore (fun _ => ⟨agrees, nofun⟩) fun found acted => ?_
  have agreesFound := harmless.agrees store found acted agrees
  have awaitsFound := harmless.awaited store found candidate acted agrees awaits
  have agreesAfter : (write found).Agrees coding alike := by
    refine agreesFound.rewritten harmless.likeness (same found) awaitsFound.incomplete ?_
    intro source other apart shown
    by_cases current : other = stage
    · subst current
      exact still found source (fun sourceId => apart sourceId rfl) shown
    · exact shown.retained (retained found other current)
  refine ⟨⟨fun _ => agreesAfter, fun _ _ => by rw [same], Or.inl (by rw [same]),
    fun other different => .of_products_eq (same found) (retained found other different),
    issued found⟩, agreesAfter, ?_⟩
  intro value told
  cases told
  exact written found acted (awaits_of_products_eq (same found) awaitsFound)

/-- Setting the flag serves a candidate whose output is there. -/
theorem serves_completeStage (harmless : Harmless coding alike stage others)
    (agrees : store.Agrees coding alike) (awaits : store.Awaits alike stage candidate)
    (shown : store.Shows coding candidate stage) :
    Serves coding alike stage candidate others
      (outage.completeStage candidate.id candidate.version stage)
      (fun _ later => later.Complete stage candidate.id) store := by
  refine Outage.meets_onStore (fun _ => ⟨agrees, nofun⟩) fun found acted => ?_
  have agreesFound := harmless.agrees store found acted agrees
  have awaitsFound := harmless.awaited store found candidate acted agrees awaits
  cases completed : found.completeStage candidate.id candidate.version stage with
  | error cause => exact ⟨.refl found, agreesFound, nofun⟩
  | ok reached =>
    have agreesAfter : reached.2.Agrees coding alike := by
      refine agreesFound.completeStage harmless.likeness completed fun product stored version => ?_
      exact ⟨candidate, awaitsFound.same product stored version,
        shown.retained (harmless.retained store found acted)⟩
    obtain ⟨product, existed, _, advanced, stored⟩ := Store.completeStage_ok completed
    have here : reached.2.products[candidate.id]? = some { product with status := reached.1 } := by
      rw [stored]
      simp
    refine ⟨{
      agrees := fun _ => agreesAfter
      elsewhere := fun key different => Store.products_completeStage completed different
      here := Or.inr ⟨product, reached.1, existed, advanced, here⟩
      spares := fun other different => Store.spares_completeStage completed different
      issued := fun key code text => Store.record_completeStage completed key ▸ Or.inl
    }, agreesAfter, fun _ _ => ⟨_, here, SyncStatus.isComplete_of_complete advanced⟩⟩

/-! ## View -/

/-- Storing the view of a candidate serves it. -/
theorem serves_upsertView (harmless : Harmless coding alike .view others)
    (agrees : store.Agrees coding alike) (awaits : store.Awaits alike .view candidate)
    {view : ProductView} (owner : view.productId = candidate.id) :
    Serves coding alike .view candidate others (outage.upsertView view)
      (fun _ later => later.Awaits alike .view candidate ∧
        later.views[candidate.id]? = some view) store := by
  refine harmless.serves_write agrees awaits ?same ?retained ?still ?issued ?written
  case same => exact fun _ => rfl
  case retained =>
    exact fun found other different =>
      .of_eq (fun same => absurd same different) (fun _ => rfl) fun _ => rfl
  case still =>
    rintro found source apart ⟨shown, formed, viewed, published⟩
    refine ⟨shown, formed, ?_, published⟩
    simp [Store.upsertView, Std.ExtTreeMap.getElem?_insert, owner, Ne.symm apart, viewed]
  case issued => exact fun _ _ _ _ => Or.inl
  case written =>
    intro found _ awaitsAfter
    exact ⟨awaitsAfter, by simp [Store.upsertView, owner]⟩

/-- Adding the texts of a candidate to its record serves it. With its view stored before, the
output of the view is there then. -/
theorem serves_mergeHashes (harmless : Harmless coding alike .view others)
    (agrees : store.Agrees coding alike) (awaits : store.Awaits alike .view candidate)
    {materialized : Materialized} (formed : candidate.materialize coding = .ok materialized)
    (viewed : store.views[candidate.id]? = some materialized.view) :
    Serves coding alike .view candidate others
      (outage.mergeHashes candidate.id materialized.hashes)
      (fun _ later => later.Awaits alike .view candidate ∧ later.Shows coding candidate .view)
      store := by
  refine harmless.serves_write agrees awaits ?same ?retained ?still ?issued ?written
  case same => exact fun _ => rfl
  case retained =>
    exact fun found other different =>
      .of_eq (fun same => absurd same different) (fun _ => rfl) fun _ => rfl
  case still =>
    rintro found source apart ⟨shown, formedSource, viewedSource, published⟩
    refine ⟨shown, formedSource, viewedSource, fun code text assigned => ?_⟩
    rw [Store.record_mergeHashes, if_neg apart]
    exact published code text assigned
  case issued =>
    intro found key code text assigned
    rw [Store.record_mergeHashes] at assigned
    split at assigned
    case isTrue same =>
      rw [Std.ExtTreeMap.getElem?_union, Option.or_eq_some_iff] at assigned
      rcases assigned with added | ⟨_, kept⟩
      · exact Or.inr ⟨candidate, materialized, awaits.own, same.symm, formed, added⟩
      · exact Or.inl (same ▸ kept)
    case isFalse => exact Or.inl assigned
  case written =>
    intro found acted awaitsAfter
    refine ⟨awaitsAfter, materialized, formed, ?_, fun code text assigned => ?_⟩
    · exact (harmless.retained store found acted).1 ▸ viewed
    · rw [Store.record_mergeHashes, if_pos rfl, Std.ExtTreeMap.getElem?_union, assigned]
      rfl

/-- Publishing serves a candidate of the view stage.

Once the view is written it is retained, and so is the record with the candidate's texts, so
both are there when the flag is set. -/
theorem serves_publish (harmless : Harmless coding alike .view others)
    (agrees : store.Agrees coding alike) (awaits : store.Awaits alike .view candidate) :
    Serves coding alike .view candidate others (publish coding outage candidate)
      (fun _ later => later.Complete .view candidate.id) store := by
  have formed : Serves coding alike .view candidate others
      ((ofExcept (candidate.materialize coding)).mapError ViewError.integrity)
      (fun materialized later => candidate.materialize coding = .ok materialized ∧
        later.Awaits alike .view candidate) store :=
    (meets_ofExcept agrees fun _ formed => ⟨formed, awaits⟩).wrapped
  refine formed.followed ?_
  rintro materialized later agrees ⟨formed, awaits⟩
  have owner : materialized.view.productId = candidate.id := (candidate.materialize_ok formed).2.1
  refine Meets.followed (harmless.serves_upsertView agrees awaits owner).wrapped ?_
  rintro _ later agrees ⟨awaits, viewed⟩
  refine Meets.followed (harmless.serves_mergeHashes agrees awaits formed viewed).wrapped ?_
  rintro _ later agrees ⟨awaits, shown⟩
  refine Meets.followed (harmless.serves_completeStage agrees awaits shown).wrapped ?_
  exact fun _ _ agrees complete => meets_pure agrees complete

/-! ## Images -/

/-- Queueing what is missing serves a candidate. With the keys of its other images queued
before, the keys of all its images are queued then. -/
theorem serves_queueMissing (harmless : Harmless coding alike .image others)
    (agrees : store.Agrees coding alike) (awaits : store.Awaits alike .image candidate)
    {missing : List ImageRecord} (covers : ∀ image ∈ candidate.imageRecords,
      image ∈ missing ∨ image.key ∈ store.images.map ImageRecord.key) :
    Serves coding alike .image candidate others (queueMissing outage missing)
      (fun _ later => later.Awaits alike .image candidate ∧ later.Shows coding candidate .image)
      store := by
  unfold queueMissing
  split
  case isTrue empty =>
    rw [List.isEmpty_iff] at empty
    subst empty
    refine meets_pure agrees ⟨awaits, fun image member => ?_⟩
    exact (covers image member).resolve_left List.not_mem_nil
  case isFalse =>
    apply Meets.wrapped
    refine harmless.serves_write agrees awaits ?same ?retained ?still ?issued ?written
    case same => exact fun _ => rfl
    case retained =>
      exact fun found other different =>
        .of_eq (fun _ => ⟨rfl, rfl⟩) (fun same => absurd same different) fun _ => rfl
    case still =>
      exact fun found source _ shown image member =>
        Store.mem_keys_insertImages (shown image member)
    case issued => exact fun _ _ _ _ => Or.inl
    case written =>
      intro found acted awaitsAfter
      refine ⟨awaitsAfter, fun image member => ?_⟩
      rcases covers image member with added | queued
      · exact Store.key_mem_insertImages added
      · exact Store.mem_keys_insertImages (harmless.retained store found acted _ queued)

/-- Queueing serves a candidate of the image stage. What was queued when the queue was read is
still there when the flag is set, and what was missing has been added. -/
theorem serves_queueImages (harmless : Harmless coding alike .image others)
    (agrees : store.Agrees coding alike) (awaits : store.Awaits alike .image candidate) :
    Serves coding alike .image candidate others (queueImages outage candidate)
      (fun _ later => later.Complete .image candidate.id) store := by
  rw [queueImages_eq]
  have listed : Serves coding alike .image candidate others
      ((outage.queuedImages candidate.id).mapError ImageError.store)
      (fun queued later => later.Awaits alike .image candidate ∧
        ∀ image ∈ queued, image.key ∈ later.images.map ImageRecord.key) store :=
    (harmless.serves_read agrees awaits fun found _ awaitsFound =>
      ⟨awaitsFound, fun image member =>
        List.mem_map_of_mem (List.mem_filter.mp member).1⟩).wrapped
  refine listed.followed ?_
  rintro queued later agrees ⟨awaits, present⟩
  have covers : ∀ image ∈ candidate.imageRecords, image ∈ (candidate.splitImages queued).1 ∨
      image.key ∈ later.images.map ImageRecord.key := by
    intro image member
    refine (Product.missing_or_mem_keys member).imp_right fun read => ?_
    obtain ⟨other, otherIn, same⟩ := List.mem_map.mp read
    exact same ▸ present other otherIn
  refine Meets.followed (harmless.serves_queueMissing agrees awaits covers) ?_
  rintro _ later agrees ⟨awaits, shown⟩
  refine Meets.followed (harmless.serves_completeStage agrees awaits shown).wrapped ?_
  exact fun _ _ agrees complete => meets_pure agrees complete

/-! ## Content -/

/-- Storing a payload that describes a candidate of the content stage serves it. -/
theorem serves_storePayload (harmless : Harmless coding alike .content others)
    (agrees : store.Agrees coding alike) (awaits : store.Awaits alike .content candidate)
    {payload : Payload} (describes : payload.Describes coding candidate) :
    Serves coding alike .content candidate others (storePayload outage candidate payload)
      (fun _ later => later.Complete .content candidate.id) store := by
  have stored : Serves coding alike .content candidate others
      ((outage.upsertContent payload).mapError ContentError.store)
      (fun _ later => later.Awaits alike .content candidate ∧
        later.Shows coding candidate .content) store := by
    apply Meets.wrapped
    refine harmless.serves_write agrees awaits ?same ?retained ?still ?issued ?written
    case same => exact fun _ => rfl
    case retained =>
      exact fun found other different =>
        .of_eq (fun _ => ⟨rfl, rfl⟩) (fun _ => rfl) fun same => absurd same different
    case still =>
      rintro found source apart ⟨shown, storedSource, describesSource⟩
      refine ⟨shown, ?_, describesSource⟩
      simp [Store.upsertContent, Std.ExtTreeMap.getElem?_insert, describes.id, Ne.symm apart,
        storedSource]
    case issued => exact fun _ _ _ _ => Or.inl
    case written =>
      intro found _ awaitsAfter
      exact ⟨awaitsAfter, payload, by simp [Store.upsertContent, describes.id], describes⟩
  refine stored.followed ?_
  rintro _ later agrees ⟨awaits, shown⟩
  refine Meets.followed (harmless.serves_completeStage agrees awaits shown).wrapped ?_
  exact fun _ _ agrees complete => meets_pure agrees complete

end Harmless

end Syndication
