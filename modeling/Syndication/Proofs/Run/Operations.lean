import Syndication.Pipeline

/-!
# Runs of operations

A run starts with empty services and performs operations one after the other: catalog
entries come in, passes run, codes are purged, cache entries are removed, and the image
processor reports what it imported. Each operation has an outage of its own, so any of the
service operations in it may fail, and each pass asks collaborators of its own, which may
answer, fail or crash as they like.

What can come in is a parameter. An entry that is not stored yet comes in as pending.
-/

namespace Syndication

/-- An operation on the pipeline, with what is out of reach while it is performed. -/
inductive Operation (γ : Type) where
  | ingest (product : Product) (outage : Outage)
  | pass (stage : Stage) (collaborators : Collaborators γ) (outage : PassOutage)
  | sync (collaborators : Collaborators γ) (outage : Stage → PassOutage)
  | reconcile (outage : Outage)
  | purge (id : Int64) (outage : Outage)
  | evict (code : String) (outage : Outage)
  | assign (id : Int64) (url tripImageId : String)

namespace Operation

variable {γ : Type}

/-- The world after an operation, whether it succeeded or failed. -/
def perform (pipeline : Pipeline γ) (operation : Operation γ) (world : World γ) : World γ :=
  match operation with
  | .ingest product outage => ((World.onStore (outage.upsertProduct product)).runOn world).2
  | .pass stage collaborators outage =>
    (({ pipeline with collaborators }.runStage outage stage).runOn world).2
  | .sync collaborators outage => (({ pipeline with collaborators }.runSync outage).runOn world).2
  | .reconcile outage => ((pipeline.runReconcile outage).runOn world).2
  | .purge id outage => ((pipeline.purge outage id).runOn world).2
  | .evict code outage => ((World.onCache (outage.cacheDelete code)).runOn world).2
  | .assign id url tripImageId =>
    World.storePart.set world (world.store.assignImage id url tripImageId).2

/-- True of every operation but the ingestion of an entry that the catalog does not have, or
that is new and not pending. -/
def Admissible (catalog : Product → Prop) (world : World γ) : Operation γ → Prop
  | .ingest product _ => catalog product ∧
      (world.store.products[product.id]? = none → product.status = .pending)
  | _ => True

end Operation

/-- The worlds that admissible operations reach from empty services. The collaborators of the
pipeline are not asked; every pass has its own. -/
inductive Reachable {γ : Type} (pipeline : Pipeline γ) (catalog : Product → Prop) (outside : γ) :
    World γ → Prop
  | start : Reachable pipeline catalog outside (World.initial outside)
  | next {world : World γ} (operation : Operation γ)
      (reachable : Reachable pipeline catalog outside world)
      (admissible : operation.Admissible catalog world) :
      Reachable pipeline catalog outside (operation.perform pipeline world)

/-- What a catalog reaches, a catalog that has more reaches too. -/
theorem Reachable.mono {γ : Type} {pipeline : Pipeline γ} {smaller larger : Product → Prop}
    {outside : γ} {world : World γ} (more : ∀ product, smaller product → larger product)
    (reachable : Reachable pipeline smaller outside world) :
    Reachable pipeline larger outside world := by
  induction reachable with
  | start => exact .start
  | next operation _ admissible inductionHypothesis =>
    refine .next operation inductionHypothesis ?_
    cases operation with
    | ingest product outage => exact ⟨more product admissible.1, admissible.2⟩
    | pass | sync | reconcile | purge | evict | assign => trivial

/-! ## A small run -/

namespace Tour

/-- A tour with one kind of ticket, sold without departure and time slot. -/
def product : Product where
  id := 7
  version := 1
  title := "Tour"
  categories := []
  groups := [⟨1, "Tickets", [⟨2, "Entry", .list,
    [⟨3, "Day", [⟨4, "Adult", true, true, []⟩], [], []⟩]⟩]⟩]
  facilities := []
  images := [⟨"https://images.example/7", "MAIN"⟩]
  status := .pending

/-- A version of the tour. -/
def edition (version : Int32) : Product := { product with version }

/-- The versions of the tour. -/
def editions (entry : Product) : Prop := ∃ version, entry = edition version

/-- Collaborators that always answer. -/
def collaborators : Collaborators Unit := ⟨fun _ _ => pure "place", fun _ => pure []⟩

/-- A pipeline with codes from a hasher. -/
def pipeline (coding : Coding) : Pipeline Unit := ⟨coding, 60, collaborators⟩

/-- A coding that takes the texts themselves as codes. -/
def plainCoding : Coding := ⟨fun canonical _ => .ok canonical, 1⟩

/-- The tour has come in. -/
def ingested (coding : Coding) : World Unit :=
  (Operation.ingest product Outage.none).perform (pipeline coding) (World.initial ())

/-- A sync pass without outage. -/
def sync : Operation Unit := .sync collaborators fun _ => Outage.none.throughout

/-- The tour is published: it was synced, its codes were copied, and it was synced again. -/
def published (coding : Coding) : World Unit :=
  sync.perform (pipeline coding) ((Operation.reconcile Outage.none).perform (pipeline coding)
    (sync.perform (pipeline coding) (ingested coding)))

/-- The tour is published, and another version of it has come in since. -/
def overtaken (coding : Coding) (version : Int32) : World Unit :=
  (Operation.ingest (edition version) Outage.none).perform (pipeline coding) (published coding)

/-- What is found and what is made of it exist when they evaluate to something without a
property. -/
theorem exists_of_evaluated {α β ε : Type} {found : Option α} {make : α → Except ε β}
    {property : β → Prop} [DecidablePred property]
    (evaluated : (found.map fun source => (make source).map fun made => decide (property made)) =
      some (.ok false)) :
    ∃ source made, found = some source ∧ make source = .ok made ∧ ¬property made := by
  obtain ⟨source, here, formed⟩ := Option.map_eq_some_iff.mp evaluated
  cases made : make source with
  | error cause =>
    rw [made] at formed
    cases formed
  | ok value =>
    rw [made] at formed
    exact ⟨source, value, here, made, of_decide_eq_false (Except.ok.inj formed)⟩

/-- The world with the tour can be reached. -/
theorem reachable_ingested (coding : Coding) :
    Reachable (pipeline coding) (· = product) () (ingested coding) :=
  .next (.ingest product Outage.none) .start ⟨rfl, fun _ => rfl⟩

/-- So can the world in which it is published. -/
theorem reachable_published (coding : Coding) :
    Reachable (pipeline coding) (· = product) () (published coding) :=
  .next sync (.next (.reconcile Outage.none) (.next sync (reachable_ingested coding) trivial)
    trivial) trivial

/-- And the world in which another version has come in. -/
theorem reachable_overtaken (coding : Coding) (version : Int32) :
    Reachable (pipeline coding) editions () (overtaken coding version) := by
  have initial : ∀ entry, entry = product → editions entry := by
    rintro _ rfl
    exact ⟨1, rfl⟩
  have before := (reachable_published coding).mono initial
  exact .next (.ingest (edition version) Outage.none) before ⟨⟨version, rfl⟩, fun _ => rfl⟩

end Tour

end Syndication
