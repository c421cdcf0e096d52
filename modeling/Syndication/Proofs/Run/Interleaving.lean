import Mathlib.Logic.Function.Basic
import Syndication.Proofs.Stage.Passes

/-!
# Passes under way while the catalog changes

A pass takes time: it lists its candidates, and until it has processed the last of them catalog
entries may come in, passes of the other stages may run, and cache, collaborators and
measurements may change in any way. `Situation` has the world together with what is left of
every pass, so that the operations of all parties can be put into any order. At most one pass of
each stage is under way.

A pass sets a flag by comparing versions, so it cannot tell an edit that keeps the version.
Agreement up to such edits is what every interleaving preserves: the output of a stage whose
flag is set was derived from some content of the stored product's version that the catalog has.
-/

namespace Syndication

open Attempt

/-- A world, and what is left of the pass of each stage that is under way. -/
structure Situation (γ : Type) where
  world : World γ
  passes : Stage → Option (Attempt (World γ) PipelineError StageReport)

namespace Situation

variable {γ : Type}

/-- Empty services, and no pass under way. -/
def initial (outside : γ) : Situation γ := ⟨World.initial outside, fun _ => none⟩

/-- The situation after the turn of a stage, which leaves a world and something to do. -/
def afterTurn (situation : Situation γ) (stage : Stage) (world : World γ)
    (rest : Option (Attempt (World γ) PipelineError StageReport)) : Situation γ :=
  ⟨world, Function.update situation.passes stage rest⟩

section afterTurn

variable {stage : Stage} {world : World γ}
  {rest : Option (Attempt (World γ) PipelineError StageReport)}

/-- What is left of the stage. -/
theorem passes_afterTurn (situation : Situation γ) :
    (situation.afterTurn stage world rest).passes stage = rest := Function.update_self ..

/-- What is left of the other stages is the same. -/
theorem passes_afterTurn_of_ne {situation : Situation γ} {other : Stage}
    (different : other ≠ stage) :
    (situation.afterTurn stage world rest).passes other = situation.passes other :=
  Function.update_of_ne different ..

/-- Of two turns of a stage in a row the second counts. -/
theorem afterTurn_afterTurn (situation : Situation γ) (first : World γ)
    (restThen : Option (Attempt (World γ) PipelineError StageReport)) :
    (situation.afterTurn stage first restThen).afterTurn stage world rest =
      situation.afterTurn stage world rest :=
  congrArg (Situation.mk world) (Function.update_idem ..)

/-- After its last turn a stage that had no pass under way has none again. -/
theorem afterTurn_idle {situation : Situation γ} (idle : situation.passes stage = none) :
    situation.afterTurn stage world none = { situation with world } :=
  congrArg (Situation.mk world) (Function.update_eq_self_iff.mpr idle.symm)

end afterTurn

/-- What can happen next. -/
inductive Step (pipeline : Pipeline γ) (catalog : Product → Prop) :
    Situation γ → Situation γ → Prop
  /-- An entry of the catalog comes in, or the store is out of reach for it. One that is not
  stored yet comes in as pending. -/
  | edit {situation : Situation γ} (product : Product) (status : SyncStatus) (outage : Outage)
      (inCatalog : catalog product)
      (pending : situation.world.store.products[product.id]? = none → status = .pending) :
      Step pipeline catalog situation { situation with
        world := ((World.onStore (outage.upsertProduct { product with status })).runOn
          situation.world).2 }
  /-- A pass of a stage that has none under way begins, with collaborators of its own. -/
  | begin {situation : Situation γ} (stage : Stage) (collaborators : Collaborators γ)
      (outage : PassOutage) (idle : situation.passes stage = none) :
      Step pipeline catalog situation
        (situation.afterTurn stage situation.world
          (some ({ pipeline with collaborators }.runStage outage stage)))
  /-- A pass performs its next operation. -/
  | advance {situation : Situation γ} (stage : Stage) (effect : World γ → World γ)
      (next : World γ → Attempt (World γ) PipelineError StageReport)
      (running : situation.passes stage = some (.act effect next)) :
      Step pipeline catalog situation
        (situation.afterTurn stage (effect situation.world) (some (next situation.world)))
  /-- A pass is over. -/
  | finish {situation : Situation γ} (stage : Stage) (result : Except PipelineError StageReport)
      (ended : situation.passes stage = some (.done result)) :
      Step pipeline catalog situation (situation.afterTurn stage situation.world none)
  /-- Something changes that is not the store. -/
  | elsewhere {situation : Situation γ} (world : World γ)
      (same : world.store = situation.world.store) :
      Step pipeline catalog situation { situation with world }

/-- The situations that can be reached from empty services, whoever acts when. -/
def Reached (pipeline : Pipeline γ) (catalog : Product → Prop) (outside : γ)
    (situation : Situation γ) : Prop :=
  Relation.ReflTransGen (Step pipeline catalog) (initial outside) situation

end Situation

/-- Two products have the same identifier and version, and the catalog has contents that make
the offers of both. -/
structure Product.SameVersion (catalog : Product → Prop) (left right : Product) : Prop where
  id : left.id = right.id
  version : left.version = right.version
  left : left.OfferedBy catalog
  right : right.OfferedBy catalog

/-- What the catalog has is of its own version. -/
theorem Product.SameVersion.refl {catalog : Product → Prop} {product : Product}
    (offered : product.OfferedBy catalog) : product.SameVersion catalog product :=
  ⟨rfl, rfl, offered, offered⟩

/-- The order of the two products does not matter. -/
theorem Product.SameVersion.symm {catalog : Product → Prop} {left right : Product}
    (like : left.SameVersion catalog right) : right.SameVersion catalog left :=
  ⟨like.id.symm, like.version.symm, like.right, like.left⟩

/-- Having the same version is a likeness. -/
theorem Product.SameVersion.likeness (catalog : Product → Prop) :
    Likeness (Product.SameVersion catalog) where
  id _ _ like := like.id
  status _ _ like first second :=
    ⟨like.id, like.version, like.left.withStatus first, like.right.withStatus second⟩
  edited _ _ _ same own like :=
    have offer := Product.SameOffer.of_sameContent same
    ⟨offer.id.trans like.id, offer.version.trans like.version, own.left, like.right⟩

/-! ## What one step preserves -/

namespace Store

variable {coding : Coding} {catalog : Product → Prop} {stage : Stage} {before after : Store}

/-- What the others do while a stage is under way: they keep agreement and spare the stage. -/
structure Tolerates (coding : Coding) (catalog : Product → Prop) (stage : Stage)
    (before after : Store) : Prop where
  agrees : before.Agrees coding (Product.SameVersion catalog) →
    after.Agrees coding (Product.SameVersion catalog)
  spares : before.Spares after stage

/-- Doing nothing is tolerated. -/
theorem Tolerates.refl (store : Store) : store.Tolerates coding catalog stage store :=
  ⟨fun agrees => agrees, .refl store stage⟩

/-- Two tolerated doings in a row are one. -/
theorem Tolerates.trans {middle : Store} (first : before.Tolerates coding catalog stage middle)
    (second : middle.Tolerates coding catalog stage after) :
    before.Tolerates coding catalog stage after :=
  ⟨fun agrees => second.agrees (first.agrees agrees), first.spares.trans second.spares⟩

/-- Whoever keeps agreement and spares a stage does it no harm. In particular its candidates
wait on: whatever is stored under the candidate's identifier, if it is of the candidate's
version then it is like the candidate. -/
theorem harmless_tolerates (coding : Coding) (catalog : Product → Prop) (stage : Stage) :
    Harmless coding (Product.SameVersion catalog) stage (Tolerates coding catalog stage) where
  likeness := Product.SameVersion.likeness catalog
  agrees _ _ tolerated agrees := tolerated.agrees agrees
  retained _ _ tolerated := tolerated.spares.retained
  awaited _ after candidate tolerated agrees awaits := by
    have agreesAfter := tolerated.agrees agrees
    refine ⟨awaits.own, tolerated.spares.incomplete _ awaits.incomplete, ?_⟩
    intro product stored version
    exact {
      id := agreesAfter.placed candidate.id product stored
      version := version
      left := (agreesAfter.own candidate.id product stored).left
      right := awaits.own.right }

/-- An operation of one stage is tolerated by the others. -/
theorem Advances.tolerates {other : Stage} {id : Int64} (different : other ≠ stage)
    (advanced : before.Advances coding (Product.SameVersion catalog) stage id after) :
    before.Tolerates coding catalog other after :=
  ⟨advanced.agrees, advanced.spares other different⟩

/-- An entry of the catalog that comes in is tolerated by all stages. -/
theorem tolerates_upsertProduct {product : Product} {status : SyncStatus}
    (inCatalog : catalog product)
    (pending : before.products[product.id]? = none → status = .pending) :
    before.Tolerates coding catalog stage (before.upsertProduct { product with status }).2 where
  agrees agrees := by
    have offered : product.OfferedBy catalog := ⟨product, inCatalog, .refl product⟩
    exact agrees.upsertProduct (Product.SameVersion.likeness catalog)
      (.refl (offered.withStatus status)) pending
  spares := spares_upsertProduct stage pending

end Store

namespace Situation

variable {γ : Type} {pipeline : Pipeline γ} {catalog : Product → Prop} {outside : γ}
  {before after situation : Situation γ} {stage : Stage}

/-- The store agrees with its products up to edits that keep the version, and every pass that is
under way serves its stage from here on. -/
structure Kept (pipeline : Pipeline γ) (catalog : Product → Prop) (situation : Situation γ) :
    Prop where
  agrees : situation.world.store.Agrees pipeline.coding (Product.SameVersion catalog)
  serves : ∀ stage rest, situation.passes stage = some rest →
    pipeline.ServesStage (Product.SameVersion catalog) stage
      (Store.Tolerates pipeline.coding catalog stage) rest (fun _ _ => True) situation.world

/-- A pass goes on to serve its stage when others do what it tolerates. -/
theorem serves_of_tolerates {world : World γ}
    {rest : Attempt (World γ) PipelineError StageReport}
    (tolerated : situation.world.store.Tolerates pipeline.coding catalog stage world.store)
    (serves : pipeline.ServesStage (Product.SameVersion catalog) stage
      (Store.Tolerates pipeline.coding catalog stage) rest (fun _ _ => True) situation.world) :
    pipeline.ServesStage (Product.SameVersion catalog) stage
      (Store.Tolerates pipeline.coding catalog stage) rest (fun _ _ => True) world :=
  serves.interfered (fun _ _ _ first second => Store.Tolerates.trans first second)
    (fun _ _ _ reached acted => ⟨acted.agrees reached.1, fun _ _ => trivial⟩) tolerated

/-- What all stages tolerate keeps a situation. -/
theorem Kept.of_tolerates {world : World γ} (kept : before.Kept pipeline catalog)
    (tolerated : ∀ stage,
      before.world.store.Tolerates pipeline.coding catalog stage world.store) :
    Kept pipeline catalog { before with world } where
  agrees := (tolerated .view).agrees kept.agrees
  serves stage rest running :=
    serves_of_tolerates (tolerated stage) (kept.serves stage rest running)

/-- A stage acts and has something else left to do: that keeps a situation when the other stages
tolerate what it did, and what is left serves it. -/
theorem Kept.afterTurn {world : World γ}
    {rest : Option (Attempt (World γ) PipelineError StageReport)}
    (kept : before.Kept pipeline catalog)
    (agrees : world.store.Agrees pipeline.coding (Product.SameVersion catalog))
    (tolerated : ∀ other, other ≠ stage →
      before.world.store.Tolerates pipeline.coding catalog other world.store)
    (serves : ∀ attempt, rest = some attempt →
      pipeline.ServesStage (Product.SameVersion catalog) stage
        (Store.Tolerates pipeline.coding catalog stage) attempt (fun _ _ => True) world) :
    (before.afterTurn stage world rest).Kept pipeline catalog where
  agrees := agrees
  serves other attempt running := by
    by_cases same : other = stage
    · subst same
      rw [passes_afterTurn] at running
      exact serves attempt running
    · rw [passes_afterTurn_of_ne same] at running
      exact serves_of_tolerates (tolerated other same) (kept.serves other attempt running)

/-- Every step keeps a situation. -/
theorem Step.kept (step : Step pipeline catalog before after)
    (kept : before.Kept pipeline catalog) : after.Kept pipeline catalog := by
  cases step with
  | edit product status outage inCatalog pending =>
    refine kept.of_tolerates fun stage => ?_
    have taken : (outage.upsertProduct { product with status }).Ensures
        (before.world.store.Tolerates pipeline.coding catalog stage) (fun _ _ => True)
        before.world.store := by
      refine Outage.ensures_onStore (.refl _) ⟨?_, fun _ _ => trivial⟩
      exact Store.tolerates_upsertProduct inCatalog pending
    have inWorld : (World.onStore (outage.upsertProduct { product with status })).Ensures
        (fun later : World γ =>
          before.world.store.Tolerates pipeline.coding catalog stage later.store) _ before.world :=
      World.ensures_onStore taken fun _ tolerated => tolerated
    exact (meets_alone_iff.mp inWorld).1
  | begin stage collaborators outage idle =>
    refine kept.afterTurn kept.agrees (fun _ _ => .refl _) ?_
    rintro _ ⟨rfl⟩
    have harmless := Store.harmless_tolerates pipeline.coding catalog stage
    exact { pipeline with collaborators }.serves_runStage harmless kept.agrees
  | advance stage effect next running =>
    -- Nobody acted since the last operation, which is among what others may have done.
    have acted := kept.serves stage _ running before.world (Store.Tolerates.refl _)
    obtain ⟨⟨⟨id, advanced⟩, _⟩, continued⟩ := acted
    refine kept.afterTurn (advanced.agrees kept.agrees) ?_ ?_
    · exact fun other different => advanced.tolerates different
    · rintro _ ⟨rfl⟩
      exact continued
  | finish stage result ended => exact kept.afterTurn kept.agrees (fun _ _ => .refl _) nofun
  | elsewhere world same =>
    refine kept.of_tolerates fun stage => ?_
    rw [same]
    exact .refl _

/-- Every situation that can be reached is kept. -/
theorem Reached.kept (reached : situation.Reached pipeline catalog outside) :
    situation.Kept pipeline catalog := by
  induction reached with
  | refl => exact ⟨Store.agrees_empty, nofun⟩
  | tail _ step inductionHypothesis => exact step.kept inductionHypothesis

end Situation

end Syndication
