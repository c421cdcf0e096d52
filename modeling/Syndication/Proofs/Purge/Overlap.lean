import Syndication.Proofs.Purge.Retirement

/-!
# A purge in the middle of a reconciliation pass

A pass of reconciliation loads and flattens the records first and writes what it has loaded key by
key. Purges and passes exclude their own kind only, so a purge can run to its end between two keys,
`Pipeline.reconcileAround`. The pass does not notice that a record was replaced: it goes on with the
texts that it has loaded.

The purge has removed the codes that its product has lost, which makes them free. So such a code is
cached again at the end exactly when the pass had it among the keys that it still had to write.
-/

namespace Syndication

open Attempt

namespace Pipeline

variable {γ α : Type}

/-- The part of a pass that copies some entries. -/
abbrev copies (pipeline : Pipeline γ) (outage : Outage) (entries : List (String × String))
    (report : ReconcileReport) : Attempt Cache ReconcileError ReconcileReport :=
  reconcileEntries outage pipeline.ttlSeconds entries report

/-- A reconciliation pass during which something else happens, when so many keys are written. The
pass goes on whatever the result of that is. -/
def reconcileAround (pipeline : Pipeline γ) (outage : Outage) (position : Nat)
    (between : Attempt (World γ) PipelineError α) :
    Attempt (World γ) PipelineError (Except PipelineError α × ReconcileReport) := do
  let (hashes, contested) ← World.onStore ((loadHashes outage).mapError .reconcile)
  let begun ← World.onCache ((pipeline.copies outage (hashes.toList.take position)
    (.before hashes contested)).mapError .reconcile)
  let result ← between.settle
  let report ← World.onCache ((pipeline.copies outage (hashes.toList.drop position)
    begun).mapError .reconcile)
  World.measure (Metrics.afterReconcile report)
  return (result, report)

variable {pipeline : Pipeline γ} {outage : Outage} {position : Nat} {world : World γ}

/-- The world at the moment at which something else happens: the first keys are written. -/
def copiedUpTo (pipeline : Pipeline γ) (outage : Outage) (position : Nat) (world : World γ) :
    World γ :=
  World.cachePart.set world
    (world.cache.filled pipeline.ttlSeconds (outage.writable (world.backend.agreed.take position)))

/-- Entries are copied in the world before anything else goes on. -/
theorem runOn_copies_bind {entries : List (String × String)} {begun report : ReconcileReport}
    {cache : Cache} (next : ReconcileReport → Attempt (World γ) PipelineError α)
    (copied : (pipeline.copies outage entries begun).runOn world.cache = (.ok report, cache)) :
    (World.onCache ((pipeline.copies outage entries begun).mapError .reconcile) >>= next).runOn
      world = (next report).runOn (World.cachePart.set world cache) := by
  rw [runOn_bind, World.runOn_onCache, runOn_mapError, copied]
  rfl

/-- A pass with something else in between ends as its two halves do. The other thing finds the world
with the first keys written, and the other keys are written to what it leaves. -/
theorem runOn_reconcileAround {between : Attempt (World γ) PipelineError α}
    {begun report : ReconcileReport} {middle : World γ} {result : Except PipelineError α}
    {cache : Cache} (inReach : outage.store .loadRecords = none)
    (first : (pipeline.copies outage (world.backend.agreed.take position)
      world.backend.uncopied).runOn world.cache =
        (.ok begun, (pipeline.copiedUpTo outage position world).cache))
    (happened : between.runOn (pipeline.copiedUpTo outage position world) = (result, middle))
    (second : (pipeline.copies outage (world.backend.agreed.drop position) begun).runOn
      middle.cache = (.ok report, cache)) :
    (pipeline.reconcileAround outage position between).runOn world =
      (.ok (result, report), { World.cachePart.set middle cache with
        metrics := middle.metrics.afterReconcile report }) := by
  rw [reconcileAround, runOn_bind, World.runOn_onStore, runOn_mapError, runOn_loadHashes, inReach]
  refine (runOn_copies_bind _ first).trans ?_
  have settled : (between.settle : Attempt (World γ) PipelineError _).runOn
      (pipeline.copiedUpTo outage position world) = (.ok result, middle) := by
    rw [runOn_settle, happened]
  show ((between.settle : Attempt (World γ) PipelineError _) >>= _).runOn
    (pipeline.copiedUpTo outage position world) = _
  rw [runOn_bind, settled]
  exact runOn_copies_bind _ second

/-- A pass with something else in between that succeeds has filled the cache before and after. -/
theorem filled_around {between : Attempt (World γ) PipelineError α}
    {result : Except PipelineError α} {report : ReconcileReport} {later : World γ}
    (ran : (pipeline.reconcileAround outage position between).runOn world =
      (.ok (result, report), later)) :
    ∃ middle, between.runOn (pipeline.copiedUpTo outage position world) = (result, middle) ∧
      later.store = middle.store ∧
      later.cache = middle.cache.filled pipeline.ttlSeconds
        (outage.writable (world.backend.agreed.drop position)) := by
  cases inReach : outage.store .loadRecords with
  | some reason =>
    rw [reconcileAround, runOn_bind, World.runOn_onStore, runOn_mapError, runOn_loadHashes,
      inReach] at ran
    cases ran
  | none =>
    obtain ⟨begun, first, _⟩ := runOn_reconcileEntries ReconcileError outage pipeline.ttlSeconds
      (world.backend.agreed.take position) world.backend.uncopied world.cache
    obtain ⟨finished, second, _⟩ := runOn_reconcileEntries ReconcileError outage
      pipeline.ttlSeconds (world.backend.agreed.drop position) begun
      (between.runOn (pipeline.copiedUpTo outage position world)).2.cache
    cases ran.symm.trans (runOn_reconcileAround inReach first rfl second)
    exact ⟨_, rfl, rfl, rfl⟩

/-- With nothing in between this is the pass, wherever nothing happens. -/
theorem runOn_reconcileAround_idle (pipeline : Pipeline γ) (outage : Outage) (position : Nat)
    (world : World γ) :
    (pipeline.reconcileAround outage position (pure ())).runOn world =
      (((pipeline.runReconcile outage).runOn world).1.map fun report => (.ok (), report),
        ((pipeline.runReconcile outage).runOn world).2) := by
  rw [runReconcile, runOn_bind, World.runOn_onBackend, runOn_mapError]
  cases inReach : outage.store .loadRecords with
  | some reason =>
    rw [reconcileAround, runOn_bind, World.runOn_onStore, runOn_mapError, runOn_loadHashes, inReach,
      runOn_reconcile_of_fails inReach]
    rfl
  | none =>
    obtain ⟨begun, first, _⟩ := runOn_reconcileEntries ReconcileError outage pipeline.ttlSeconds
      (world.backend.agreed.take position) world.backend.uncopied world.cache
    obtain ⟨report, second, _⟩ := runOn_reconcileEntries ReconcileError outage
      pipeline.ttlSeconds (world.backend.agreed.drop position) begun
      (pipeline.copiedUpTo outage position world).cache
    have whole := runOn_reconcileEntries_append ReconcileError outage pipeline.ttlSeconds
      (world.backend.agreed.take position) (world.backend.agreed.drop position)
      world.backend.uncopied world.cache
    rw [List.take_append_drop, runOn_bind, first] at whole
    have nothing : (pure () : Attempt (World γ) PipelineError Unit).runOn
        (pipeline.copiedUpTo outage position world) =
          (.ok (), pipeline.copiedUpTo outage position world) := rfl
    rw [runOn_reconcileAround inReach first nothing second, runOn_reconcile _ _ inReach,
      Backend.runOn_onCache, ← World.cache, whole.trans second]
    rfl

/-- A purge lets no entry expire. -/
theorem live_of_purge (pipeline : Pipeline γ) (outage : Outage) (id : Int64)
    (live : ∀ code, world.cache.expired.contains code = false) (code : String) :
    ((pipeline.purge outage id).runOn world).2.cache.expired.contains code = false := by
  have outcome := purgeRetired_outcome pipeline.coding outage id world.backend
  rw [runOn_purge]
  generalize (purgeRetired pipeline.coding outage id).runOn world.backend = result at outcome
  cases outcome with
  | refused => exact live code
  | interrupted | finished => exact Cache.live_without live _ code

end Pipeline

/-- After a purge in the middle of a reconciliation pass, a code that the purge has retired is
cached exactly when the pass still had to write it: with the text that the records agreed on when
the pass loaded them, given that its write works and that entries have a time to live. -/
theorem Reachable.retired_after_overlap {γ : Type} {pipeline : Pipeline γ}
    {catalog : Product → Prop} {outside : γ} {world later : World γ} {outage purgeOutage : Outage}
    {position : Nat} {id : Int64} {purged : PurgeReport} {report : ReconcileReport}
    (reachable : Reachable pipeline catalog outside world)
    (ran : (pipeline.reconcileAround outage position (pipeline.purge purgeOutage id)).runOn world =
      (.ok (.ok purged, report), later)) :
    ∃ product current, world.store.products[id]? = some product ∧
      product.materialize pipeline.coding = .ok current ∧
      ∀ code ∈ world.store.record id, code ∉ current.hashes → ∀ text : String,
        later.cache.get? code = some text ↔ pipeline.ttlSeconds ≠ 0 ∧
          (code, text) ∈ outage.writable (world.backend.agreed.drop position) := by
  obtain ⟨middle, happened, _, filled⟩ := Pipeline.filled_around ran
  obtain ⟨product, current, stored, formed, evicted⟩ := Pipeline.cache_of_purge_ok happened
  refine ⟨product, current, stored, formed, fun code before gone text => ?_⟩
  have free : middle.cache.get? code = none := by
    rw [evicted]
    exact if_pos ⟨before, gone⟩
  rw [filled]
  by_cases zero : pipeline.ttlSeconds = 0
  · rw [zero, Cache.get?_filled_zero, free]
    exact iff_of_false nofun fun held => held.1 rfl
  · have live := reachable.sound.cache.live zero
    have liveUpTo : ∀ code,
        (pipeline.copiedUpTo outage position world).cache.expired.contains code = false :=
      Cache.expired_filled zero world.cache _ ▸ live
    have liveMiddle : ∀ code, middle.cache.expired.contains code = false := by
      have purgedLive := pipeline.live_of_purge purgeOutage id liveUpTo
      rw [happened] at purgedLive
      exact purgedLive
    have distinct := outage.pairwise_writable
      (world.backend.pairwise_agreed.sublist (List.drop_sublist position _))
    rw [Cache.get?_filled_iff zero distinct, free]
    simp [zero, liveMiddle code]

namespace Tour

/-- When the second version has come in, the code of the first is in the record and is not produced
any more. -/
theorem overtaken_loses_code : ∃ product current,
    (overtaken ⟨digestCode, 12⟩ 2).store.products[(7 : Int64)]? = some product ∧
      product.materialize ⟨digestCode, 12⟩ = .ok current ∧
      "HX3GDJSA6ZH1" ∈ (overtaken ⟨digestCode, 12⟩ 2).store.record 7 ∧
      "HX3GDJSA6ZH1" ∉ current.hashes := by
  have recorded : "HX3GDJSA6ZH1" ∈ (overtaken ⟨digestCode, 12⟩ 2).store.record 7 := by
    decide +kernel
  have produced : (overtaken ⟨digestCode, 12⟩ 2).store.products[(7 : Int64)]?.map (fun product =>
      (product.materialize ⟨digestCode, 12⟩).map fun current =>
        decide ("HX3GDJSA6ZH1" ∈ current.hashes)) = some (.ok false) := by decide +kernel
  obtain ⟨product, current, stored, formed, lost⟩ := exists_of_evaluated produced
  exact ⟨product, current, stored, formed, recorded, lost⟩

/-- A purge behind the only key of a pass leaves that code gone. -/
theorem retired_behind_last_key :
    (((pipeline ⟨digestCode, 12⟩).reconcileAround Outage.none 1
      ((pipeline ⟨digestCode, 12⟩).purge Outage.none 7)).runOn
        (overtaken ⟨digestCode, 12⟩ 2)).2.cache.get? "HX3GDJSA6ZH1" = none := by
  have ran : (((pipeline ⟨digestCode, 12⟩).reconcileAround Outage.none 1
      ((pipeline ⟨digestCode, 12⟩).purge Outage.none 7)).runOn
        (overtaken ⟨digestCode, 12⟩ 2)).1 = .ok (.ok ⟨1, 1⟩, ⟨1, 0, 1, 0, 0⟩) := by decide +kernel
  have written : (overtaken ⟨digestCode, 12⟩ 2).backend.agreed.drop 1 = [] := by decide +kernel
  obtain ⟨product, current, stored, formed, recorded, lost⟩ := overtaken_loses_code
  obtain ⟨_, _, storedThen, formedThen, retired⟩ :=
    (reachable_overtaken ⟨digestCode, 12⟩ 2).retired_after_overlap (Prod.ext ran rfl)
  cases stored.symm.trans storedThen
  cases formed.symm.trans formedThen
  rw [Option.eq_none_iff_forall_ne_some]
  intro text cached
  have late := ((retired _ recorded lost text).mp cached).2
  rw [written] at late
  cases late

/-- A purge before that key does not: the pass brings the code back. -/
theorem retired_code_returns :
    ¬ ∀ (world later : World Unit) (outage purgeOutage : Outage) (position : Nat)
        (purged : PurgeReport) (report : ReconcileReport) (product : Product)
        (current : Materialized) (code : String),
      Reachable (pipeline ⟨digestCode, 12⟩) editions () world →
      ((pipeline ⟨digestCode, 12⟩).reconcileAround outage position
        ((pipeline ⟨digestCode, 12⟩).purge purgeOutage 7)).runOn world =
          (.ok (.ok purged, report), later) →
      world.store.products[(7 : Int64)]? = some product →
      product.materialize ⟨digestCode, 12⟩ = .ok current →
      code ∈ world.store.record 7 → code ∉ current.hashes → later.cache.get? code = none := by
  intro evicted
  obtain ⟨product, current, stored, formed, recorded, lost⟩ := overtaken_loses_code
  have ran : (((pipeline ⟨digestCode, 12⟩).reconcileAround Outage.none 0
      ((pipeline ⟨digestCode, 12⟩).purge Outage.none 7)).runOn
        (overtaken ⟨digestCode, 12⟩ 2)).1 = .ok (.ok ⟨1, 1⟩, ⟨1, 1, 0, 0, 0⟩) := by decide +kernel
  have absent := evicted (overtaken ⟨digestCode, 12⟩ 2) _ Outage.none Outage.none 0 _ _ product
    current "HX3GDJSA6ZH1" (reachable_overtaken _ 2) (Prod.ext ran rfl) stored formed recorded lost
  have cached : (((pipeline ⟨digestCode, 12⟩).reconcileAround Outage.none 0
      ((pipeline ⟨digestCode, 12⟩).purge Outage.none 7)).runOn
        (overtaken ⟨digestCode, 12⟩ 2)).2.cache.get? "HX3GDJSA6ZH1" = some "7|1|4||" := by
    decide +kernel
  cases absent.symm.trans cached

end Tour

end Syndication
