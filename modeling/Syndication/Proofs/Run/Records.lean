import Syndication.Proofs.Image.Growth
import Syndication.Proofs.Stage.Isolation
import Syndication.Proofs.Store.Merging

/-!
# Who writes a record

The record of a product is written in two places only: by the view stage, when the product is one of
its candidates, and by a purge of the product. Every other operation leaves the record alone,
whether it succeeds or not.

So what is not in the record stays out of it during any run in which neither happens.
`Pipeline.Leads` are the runs in which no operation happens that has been excluded.
-/

namespace Syndication

open Attempt

variable {γ ε α β : Type} {pipeline : Pipeline γ} {outage : Outage} {product : Product}
  {stage : Stage} {world : World γ} {id : Int64}

/-- What is recorded for a product. -/
def World.recorded (id : Int64) (world : World γ) : Option PluHashes := world.store.records[id]?

/-- A product is among the candidates that a pass of a stage lists. -/
def PassOutage.Lists (outage : PassOutage) (stage : Stage) (store : Store) (id : Int64) : Prop :=
  ∃ listed, ((candidates outage.listing stage).runOn store).1 = .ok listed ∧
    ∃ candidate ∈ listed, candidate.id = id

/-- An operation publishes a product: the view stage runs, and the product is among its
candidates. -/
def Operation.Publishes (id : Int64) (world : World γ) : Operation γ → Prop
  | .pass stage _ outage => stage = .view ∧ outage.Lists .view world.store id
  | .sync _ outage => (outage .view).Lists .view world.store id
  | _ => False

/-! ## Stages -/

/-- Writing and flagging leaves the records alone when the writing does. -/
theorem records_flagging {writes : Attempt Store StoreError α} (kept : writes.Leaves Store.records)
    (make : α → SyncStatus → β) :
    (outage.flagging stage product writes make).Leaves Store.records := by
  apply kept.bind
  intro written _
  apply Leaves.bind
  · exact Store.records_completeStage outage product.id product.version stage
  · exact fun _ _ => leaves_ofExcept _ (.ok _)

namespace Pipeline

/-- Stages other than the view stage leave the records alone. -/
theorem records_process (pipeline : Pipeline γ) (outage : Outage) (product : Product)
    (other : stage ≠ .view) (world : World γ) :
    ((pipeline.process outage stage product).runOn world).2.store.records =
      world.store.records := by
  have effect := pipeline.stageEffect_process outage stage product world
  generalize ((pipeline.process outage stage product).runOn world).2.store = after at effect
  cases effect with
  | idle => rfl
  | view => exact absurd rfl other
  | image =>
    refine records_flagging (fun store => ?_) _ world.store
    have records := congrArg Store.records (outage.leaves_writeImages product store)
    exact records
  | content payload =>
    refine records_flagging (fun store => ?_) _ world.store
    have records := congrArg Store.records (outage.leaves_upsertContent payload store)
    exact records

/-- Processing a product leaves the record of another product alone, and in a stage other than the
view stage its own as well. -/
theorem recorded_process (pipeline : Pipeline γ) (outage : Outage)
    (apart : stage = .view → product.id ≠ id) :
    (pipeline.process outage stage product).Leaves (World.recorded id) := by
  by_cases view : stage = .view
  · subst view
    have published := confined_publish pipeline.coding outage product
    apply Leaves.bind
    · intro world
      have kept := (World.confined_onStore (published.mapError StageError.view)).elsewhere id
        (apart rfl).symm world
      exact congrArg (Dossier.record? ∘ Prod.fst) kept
    · exact fun _ _ => leaves_ofExcept _ (.ok ())
  · intro world
    exact congrArg (·[id]?) (pipeline.records_process outage product view world)

/-- A stage pass leaves a record alone, unless it is a pass of the view stage that lists the
product. -/
theorem recorded_runStage (pipeline : Pipeline γ) {outage : PassOutage}
    (apart : stage = .view → ¬outage.Lists .view world.store id) :
    ((pipeline.runStage outage stage).runOn world).2.recorded id = world.recorded id := by
  cases listing : ((candidates outage.listing stage).runOn world.store).1 with
  | error cause =>
    have kept : (candidates outage.listing stage).Leaves Store.records := by
      apply Leaves.bind
      · exact Outage.leaves_onStore fun _ => rfl
      · exact fun _ _ => leaves_ofExcept _ (.ok _)
    rw [runStage_eq_serveAll, runOn_bind, World.runOn_onStore, runOn_mapError, listing]
    exact congrArg (·[id]?) (kept world.store)
  | ok listed =>
    rw [runOn_runStage_of_listed listing]
    have served : (processAll (pipeline.serve outage.processing stage) listed .empty :
        Attempt (World γ) PipelineError PassTally).Leaves (World.recorded id) := by
      apply leaves_processAll
      intro candidate member
      refine pipeline.recorded_process (outage.processing candidate) fun view own => ?_
      subst view
      exact apart rfl ⟨listed, listing, candidate, member, own⟩
    have whole : (pipeline.serveAll outage.processing stage listed).Leaves (World.recorded id) := by
      apply served.bind
      intro tally _
      apply Leaves.bind
      · exact fun _ => rfl
      · exact fun _ _ => leaves_ofExcept _ (.ok _)
    exact whole world

/-- A sync pass leaves a record alone unless its view stage lists the product. -/
theorem recorded_runSync (pipeline : Pipeline γ) {outage : Stage → PassOutage}
    (apart : ¬(outage .view).Lists .view world.store id) :
    ((pipeline.runSync outage).runOn world).2.recorded id = world.recorded id := by
  have others : ∀ stage ≠ .view,
      (pipeline.runStage (outage stage) stage).Leaves (World.recorded id) := by
    intro stage other world
    exact pipeline.recorded_runStage fun view => absurd view other
  have viewed := pipeline.recorded_runStage fun _ : Stage.view = .view => apart
  rw [runSync, runOn_bind]
  rcases ran : (pipeline.runStage (outage .view) .view).runOn world with ⟨cause | report, middle⟩
  · rw [ran] at viewed
    exact viewed
  · rw [ran] at viewed
    refine Eq.trans ?_ viewed
    refine Leaves.bind (others .image nofun) (fun _ _ => ?_) middle
    refine (others .content nofun).bind fun _ _ => ?_
    exact leaves_ofExcept _ (.ok _)

/-! ## Purges -/

/-- A purge leaves the records of other products alone. -/
theorem recorded_purge_of_ne (pipeline : Pipeline γ) (outage : Outage) {other : Int64}
    (different : other ≠ id) (world : World γ) :
    ((pipeline.purge outage other).runOn world).2.recorded id = world.recorded id := by
  have outcome := purgeRetired_outcome pipeline.coding outage other world.backend
  rw [runOn_purge]
  generalize (purgeRetired pipeline.coding outage other).runOn world.backend = ended at outcome
  cases outcome with
  | refused => rfl
  | interrupted | finished =>
    show (world.store.records.insert other _)[id]? = world.store.records[id]?
    simp [Std.ExtTreeMap.getElem?_insert, different]

/-- A purge leaves the record of its product alone, or replaces it by what the product produces. -/
theorem record_purge (pipeline : Pipeline γ) (outage : Outage) (id : Int64) (world : World γ) :
    ((pipeline.purge outage id).runOn world).2.store.record id = world.store.record id ∨
      ∃ product current, world.store.products[id]? = some product ∧
        product.materialize pipeline.coding = .ok current ∧
        ((pipeline.purge outage id).runOn world).2.store.record id = current.hashes := by
  have outcome := purgeRetired_outcome pipeline.coding outage id world.backend
  rw [runOn_purge]
  generalize (purgeRetired pipeline.coding outage id).runOn world.backend = ended at outcome
  cases outcome with
  | refused => exact Or.inl rfl
  | interrupted product current _ stored formed | finished product current stored formed =>
    refine Or.inr ⟨product, current, stored, formed, ?_⟩
    show (world.store.replaceHashes id current.hashes).2.record id = current.hashes
    rw [Store.record_replaceHashes, if_pos rfl]

end Pipeline

/-! ## Runs -/

namespace Operation

/-- An operation that neither publishes nor purges a product leaves its record alone. -/
theorem recorded_perform (operation : Operation γ) (unpublished : ¬operation.Publishes id world)
    (unpurged : ∀ outage, operation ≠ .purge id outage) :
    (operation.perform pipeline world).recorded id = world.recorded id := by
  cases operation with
  | ingest product outage =>
    rw [perform, World.runOn_onStore, Outage.upsertProduct, Outage.runOn_onStore]
    cases outage.store (.upsertProduct product.id) <;> rfl
  | pass stage collaborators outage =>
    exact Pipeline.recorded_runStage { pipeline with collaborators } fun view listed =>
      unpublished ⟨view, listed⟩
  | sync collaborators outage =>
    exact Pipeline.recorded_runSync { pipeline with collaborators } unpublished
  | reconcile outage =>
    exact congrArg (fun store : Store => store.records[id]?)
      (pipeline.store_runReconcile outage world)
  | purge other outage =>
    refine pipeline.recorded_purge_of_ne outage (fun same => ?_) world
    subst same
    exact unpurged outage rfl
  | evict code outage =>
    rw [perform, World.runOn_onCache]
    rfl
  | assign => rfl

end Operation

/-- A world leads to another by operations none of which is excluded in the world that it is
performed in. -/
inductive Pipeline.Leads (pipeline : Pipeline γ) (excluded : World γ → Operation γ → Prop)
    (start : World γ) : World γ → Prop
  | start : Leads pipeline excluded start start
  | next {world : World γ} (operation : Operation γ) (led : Leads pipeline excluded start world)
      (admitted : ¬excluded world operation) :
      Leads pipeline excluded start (operation.perform pipeline world)

/-- An operation can bring a code into the record of a product: it publishes the product, or it
purges it while the product produces the code. -/
def Operation.Renews (pipeline : Pipeline γ) (id : Int64) (code : String) (world : World γ)
    (operation : Operation γ) : Prop :=
  operation.Publishes id world ∨ (∃ outage, operation = .purge id outage) ∧
    ∃ product current, world.store.products[id]? = some product ∧
      product.materialize pipeline.coding = .ok current ∧ code ∈ current.hashes

variable {start : World γ} {code : String}

/-- A code that is not in the record stays out of it when an operation does not bring it in. -/
theorem Operation.not_mem_record (operation : Operation γ) (absent : code ∉ world.store.record id)
    (admitted : ¬operation.Renews pipeline id code world) :
    code ∉ (operation.perform pipeline world).store.record id := by
  by_cases purges : ∃ outage, operation = .purge id outage
  · obtain ⟨outage, rfl⟩ := purges
    rcases pipeline.record_purge outage id world with
      same | ⟨product, current, stored, formed, same⟩
    · show code ∉ ((pipeline.purge outage id).runOn world).2.store.record id
      rwa [same]
    · intro renewed
      have produced : code ∈ current.hashes := same ▸ renewed
      exact admitted (Or.inr ⟨⟨outage, rfl⟩, product, current, stored, formed, produced⟩)
  · have same : (operation.perform pipeline world).recorded id = world.recorded id :=
      operation.recorded_perform (fun published => admitted (Or.inl published))
        fun outage purge => purges ⟨outage, purge⟩
    have records : (operation.perform pipeline world).store.record id = world.store.record id := by
      rw [Store.record, Store.record, Std.ExtTreeMap.getD_eq_getD_getElem?,
        Std.ExtTreeMap.getD_eq_getD_getElem?]
      exact congrArg (·.getD ∅) same
    rwa [records]

/-- So it stays out of it during a run without such operations. -/
theorem Pipeline.Leads.not_mem_record
    (led : pipeline.Leads (fun world operation => operation.Renews pipeline id code world) start
      world) (absent : code ∉ start.store.record id) : code ∉ world.store.record id := by
  induction led with
  | start => exact absent
  | next operation _ admitted inductionHypothesis =>
    exact operation.not_mem_record inductionHypothesis admitted

end Syndication
