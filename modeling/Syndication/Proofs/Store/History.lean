import Syndication.Proofs.Attempt.Services
import Syndication.Proofs.Run.Operations
import Syndication.Proofs.Stage.Agreement

/-!
# The status as a history

What the status of a product says can be read off what happened to the product: when its content
changed, and which stages were marked complete on which version. `History` lists that, the latest
first, and every run of store operations writes one for each identifier.

A stage is complete when it was marked complete since the last change of the content. A product is
pending as long as no stage was ever marked complete, and it waits to be published again when that
happened before the last change only. The version that it remembers then is the one that was marked
last. What carries this through a run is that all marks since the last change are on the version
that is stored now.

The other operations of the store leave products alone, and so does a mark that is refused.
-/

namespace Syndication

open Attempt

/-- What the status of a product depends on. -/
inductive Milestone where
  /-- The product came in with a content that was not stored. -/
  | edited
  /-- A stage was marked complete on the version expected. -/
  | completed (stage : Stage) (version : Int32)
  deriving DecidableEq, Repr

/-- The version of a mark. -/
def Milestone.version? : Milestone → Option Int32
  | .edited => none
  | .completed _ version => some version

/-- What happened to a product, the latest first. -/
abbrev History := List Milestone

namespace History

/-- What happened since the content changed last. -/
def sinceEdit (history : History) : History := history.takeWhile fun event => event != .edited

/-- The version of the latest mark. -/
def latestVersion? (history : History) : Option Int32 := history.findSome? Milestone.version?

/-- Some mark on a stage is listed. -/
def Marks (history : History) (stage : Stage) : Prop :=
  ∃ version, Milestone.completed stage version ∈ history

/-- The status of a product is as its history says, and the marks since the last change are on the
version of the product. -/
structure Tells (history : History) (product : Product) : Prop where
  flags : ∀ stage, product.status.isComplete stage = true ↔ history.sinceEdit.Marks stage
  current : ∀ stage version, .completed stage version ∈ history.sinceEdit →
    version = product.version
  pending : product.status = .pending ↔ ∀ stage, ¬history.Marks stage
  resync : ∀ version, product.status = .needsResync version →
    history.latestVersion? = some version

variable {history : History} {product existing : Product} {stage : Stage}

/-! ## What a milestone does to a history -/

/-- A change of the content is the last one. -/
@[simp] theorem sinceEdit_edited (history : History) :
    sinceEdit (.edited :: history) = [] := by
  simp [sinceEdit]

/-- A mark comes after the last change. -/
@[simp] theorem sinceEdit_completed (stage : Stage) (version : Int32) (history : History) :
    sinceEdit (.completed stage version :: history) =
      .completed stage version :: history.sinceEdit := by
  simp [sinceEdit]

/-- Nothing is marked in an empty history. -/
@[simp] theorem not_marks_nil (stage : Stage) : ¬Marks [] stage := by
  rintro ⟨version, member⟩
  cases member

/-- A change of the content marks no stage. -/
@[simp] theorem marks_edited : Marks (.edited :: history) stage ↔ history.Marks stage := by
  simp [Marks]

/-- A mark is on its stage. -/
@[simp] theorem marks_completed {other : Stage} {version : Int32} :
    Marks (.completed other version :: history) stage ↔ stage = other ∨ history.Marks stage := by
  simp [Marks, exists_or]

/-- When a stage was marked since the last change, the latest version is that of a mark since
then: the latest milestone is a mark. -/
theorem latestVersion?_of_marks (marked : history.sinceEdit.Marks stage) :
    ∃ other version, .completed other version ∈ history.sinceEdit ∧
      history.latestVersion? = some version := by
  cases history with
  | nil => simp [sinceEdit] at marked
  | cons latest rest =>
    cases latest with
    | edited => simp at marked
    | completed other version => exact ⟨other, version, by simp, rfl⟩

/-! ## What a milestone does to the status -/

/-- A product that has come in for the first time is pending. -/
theorem tells_first (pending : product.status = .pending) : Tells [.edited] product := by
  constructor
  case flags =>
    intro stage
    rw [pending]
    cases stage <;> simp [SyncStatus.isComplete, SyncStatus.completed, Stage.position]
  case current => simp
  case pending => simp [pending]
  case resync =>
    intro version waiting
    rw [pending] at waiting
    cases waiting

/-- The history of a product tells of every product with its status and version. -/
theorem Tells.of_eq (tells : history.Tells existing) (status : product.status = existing.status)
    (version : product.version = existing.version) : history.Tells product := by
  constructor
  case flags => rw [status]; exact tells.flags
  case current => rw [version]; exact tells.current
  case pending => rw [status]; exact tells.pending
  case resync => rw [status]; exact tells.resync

/-- A product with another content has no flags. If it was published before, it remembers the
version of the latest mark: it keeps the one that it waits with, and otherwise a stage was marked
since the last change, on the version stored until now. -/
theorem Tells.edited (tells : history.Tells existing)
    (status : product.status = existing.status.resync existing.version) :
    Tells (.edited :: history) product := by
  constructor
  case flags =>
    intro stage
    simp [status, SyncStatus.isComplete_resync]
  case current => simp
  case pending =>
    rw [status]
    simp only [marks_edited]
    rw [← tells.pending]
    cases existing.status <;> simp [SyncStatus.resync]
  case resync =>
    intro version waiting
    have remembered : history.latestVersion? = some version := by
      rw [status] at waiting
      by_cases published : existing.status.isComplete .view = true
      · obtain ⟨stage, latest, member, same⟩ :=
          latestVersion?_of_marks ((tells.flags .view).mp published)
        rw [same, tells.current stage latest member]
        cases reached : existing.status with
        | pending | needsResync => rw [reached] at published; cases published
        | viewReady | imageReady | contentSynced =>
          rw [reached] at waiting
          cases waiting
          rfl
      · apply tells.resync
        cases reached : existing.status with
        | pending => rw [reached] at waiting; cases waiting
        | needsResync earlier => rw [reached] at waiting; exact waiting
        | viewReady | imageReady | contentSynced =>
          rw [reached] at published
          exact absurd rfl published
    exact remembered

/-- A stage that is marked complete has its flag, and the other flags stay. -/
theorem Tells.completed {status : SyncStatus} (tells : history.Tells existing)
    (advanced : existing.status.complete stage = .ok status) :
    Tells (.completed stage existing.version :: history) { existing with status } := by
  have flagged : status.isComplete stage = true := SyncStatus.isComplete_of_complete advanced
  constructor
  case flags =>
    intro other
    rw [sinceEdit_completed, marks_completed]
    by_cases same : other = stage
    · subst same
      simp [flagged]
    · rw [SyncStatus.isComplete_other_of_complete same advanced, tells.flags other]
      simp [same]
  case current =>
    intro other marked member
    rw [sinceEdit_completed, List.mem_cons] at member
    rcases member with latest | earlier
    · cases latest
      rfl
    · exact tells.current other marked earlier
  case pending =>
    constructor
    · rintro rfl
      cases stage <;> cases flagged
    · intro unmarked
      exact absurd (marks_completed.mpr (Or.inl rfl)) (unmarked stage)
  case resync =>
    rintro waits rfl
    cases stage <;> cases flagged

/-- A product waits to be published again when it was marked before, and not since the last change.
It remembers the version of the latest mark. -/
theorem Tells.needsResync_iff (tells : history.Tells product) {version : Int32} :
    product.status = .needsResync version ↔
      (∃ stage, history.Marks stage) ∧ (∀ stage, ¬history.sinceEdit.Marks stage) ∧
        history.latestVersion? = some version := by
  constructor
  · intro waiting
    have marked : ¬∀ stage, ¬history.Marks stage := by
      rw [← tells.pending, waiting]
      nofun
    have unmarked : ∀ stage, ¬history.sinceEdit.Marks stage := by
      intro stage
      rw [← tells.flags, waiting]
      cases stage <;> nofun
    exact ⟨Classical.not_forall_not.mp marked, unmarked, tells.resync version waiting⟩
  · rintro ⟨⟨stage, marked⟩, unmarked, latest⟩
    have incomplete : product.status.isComplete .view = false := by
      rw [← Bool.not_eq_true, tells.flags]
      exact unmarked .view
    rcases SyncStatus.eq_pending_or_needsResync incomplete with pending | ⟨remembered, waiting⟩
    · exact absurd marked (tells.pending.mp pending stage)
    · have same := (tells.resync remembered waiting).symm.trans latest
      rw [waiting, Option.some.inj same]

end History

/-! ## Runs of store operations -/

/-- An operation of the document store with its arguments. -/
inductive StoreOperation where
  | findProducts (stage : Stage) (value : Bool)
  | getProduct (id : Int64)
  | upsertProduct (product : Product)
  | completeStage (id : Int64) (expected : Int32) (stage : Stage)
  | upsertView (view : ProductView)
  | mergeHashes (id : Int64) (hashes : PluHashes)
  | replaceHashes (id : Int64) (hashes : PluHashes)
  | loadRecords
  | queuedImages (id : Int64)
  | insertImages (records : List ImageRecord)
  | upsertContent (payload : Payload)
  | assignImage (id : Int64) (url tripImageId : String)

namespace StoreOperation

/-- The store after an operation, whether it succeeded or failed. -/
def perform (outage : Outage) (store : Store) : StoreOperation → Store
  | .findProducts stage value => ((outage.findProducts stage value).runOn store).2
  | .getProduct id => ((outage.getProduct id).runOn store).2
  | .upsertProduct product => ((outage.upsertProduct product).runOn store).2
  | .completeStage id expected stage => ((outage.completeStage id expected stage).runOn store).2
  | .upsertView view => ((outage.upsertView view).runOn store).2
  | .mergeHashes id hashes => ((outage.mergeHashes id hashes).runOn store).2
  | .replaceHashes id hashes => ((outage.replaceHashes id hashes).runOn store).2
  | .loadRecords => (outage.loadRecords.runOn store).2
  | .queuedImages id => ((outage.queuedImages id).runOn store).2
  | .insertImages records => ((outage.insertImages records).runOn store).2
  | .upsertContent payload => ((outage.upsertContent payload).runOn store).2
  | .assignImage id url tripImageId => (store.assignImage id url tripImageId).2

/-- What an operation on a store adds to the history of an identifier: a change when it brings in
a content that is not stored, and a mark when it marks a stage complete with success. -/
def milestones (outage : Outage) (store : Store) (id : Int64) : StoreOperation → History
  | .upsertProduct product =>
    if product.id = id ∧ ((outage.upsertProduct product).runOn store).1.isOk = true ∧
        store.products[id]?.any product.sameContent = false then [.edited]
    else []
  | .completeStage key expected stage =>
    if key = id ∧ ((outage.completeStage key expected stage).runOn store).1.isOk = true then
      [.completed stage expected]
    else []
  | _ => []

/-- True of every operation but one that brings in an identifier for the first time with another
status than pending. -/
def Introduces (store : Store) (id : Int64) : StoreOperation → Prop
  | .upsertProduct product =>
    product.id = id → store.products[id]? = none → product.status = .pending
  | _ => True

end StoreOperation

/-- The stores that operations reach from an empty one, each with the history of an identifier. Any
operation may be out of reach. -/
inductive Chronicle (id : Int64) : History → Store → Prop
  | start : Chronicle id [] .empty
  | next {history : History} {store : Store} (operation : StoreOperation) (outage : Outage)
      (chronicle : Chronicle id history store) (introduces : operation.Introduces store id) :
      Chronicle id (operation.milestones outage store id ++ history)
        (operation.perform outage store)

namespace Outage

variable {outage : Outage} {store : Store}

/-- An operation that leaves the products alone does so under every outage. -/
theorem products_onStore {α : Type} {call : StoreCall}
    {act : Store → Except StoreError α × Store}
    (same : (act store).2.products = store.products) :
    ((outage.onStore call act).runOn store).2.products = store.products := by
  rw [runOn_onStore]
  cases outage.store call with
  | some reason => rfl
  | none => exact same

/-- A mark that is refused leaves the store as it is, whatever the reason: the store is out of
reach, the product is missing, its version is another one, or the stage before is not complete. -/
theorem store_of_completeStage_refused {id : Int64} {expected : Int32} {stage : Stage}
    {cause : StoreError}
    (refused : ((outage.completeStage id expected stage).runOn store).1 = .error cause) :
    ((outage.completeStage id expected stage).runOn store).2 = store := by
  rw [completeStage, runOn_onStore] at refused ⊢
  revert refused
  cases outage.store (.completeStage id stage) with
  | some reason => exact fun _ => rfl
  | none =>
    cases store.completeStage id expected stage with
    | error cause => exact fun _ => rfl
    | ok reached => nofun

end Outage

namespace Store

variable {store : Store} {id : Int64} {history : History} {outage : Outage}

/-- The history of an identifier tells of the product stored under it, and it is empty when there
is none. -/
structure Remembers (store : Store) (id : Int64) (history : History) : Prop where
  stored : ∀ product, store.products[id]? = some product → history.Tells product
  absent : store.products[id]? = none → history = []

/-- What a store remembers depends on the product under the identifier only. -/
theorem Remembers.of_eq {after : Store} (remembers : store.Remembers id history)
    (same : after.products[id]? = store.products[id]?) : after.Remembers id history := by
  constructor
  · intro product found
    exact remembers.stored product (same ▸ found)
  · intro missing
    exact remembers.absent (same ▸ missing)

/-- A product that comes in under the identifier leaves a change in the history, unless its content
is stored already. -/
theorem Remembers.upsertProduct {product : Product} (remembers : store.Remembers product.id history)
    (pending : store.products[product.id]? = none → product.status = .pending) :
    (store.upsertProduct product).2.Remembers product.id
      ((if store.products[product.id]?.any product.sameContent = false then [.edited] else []) ++
        history) := by
  have found : (store.upsertProduct product).2.products[product.id]? =
      some { product with status := store.ingestedStatus product } := by
    rw [products_upsertProduct, if_pos rfl]
  constructor
  case absent =>
    intro missing
    rw [found] at missing
    cases missing
  case stored =>
    rintro entry present
    cases found.symm.trans present
    cases before : store.products[product.id]? with
    | none =>
      have status : store.ingestedStatus product = .pending := by
        simpa [ingestedStatus, before] using pending before
      rw [remembers.absent before]
      exact History.tells_first status
    | some existing =>
      have tells := remembers.stored existing before
      by_cases same : product.sameContent existing = true
      · have status : store.ingestedStatus product = existing.status := by
          simp [ingestedStatus, before, same]
        simp only [Option.any_some, same, Bool.true_eq_false, if_false, List.nil_append]
        exact tells.of_eq status (Product.SameOffer.of_sameContent same).version
      · have status : store.ingestedStatus product =
            existing.status.resync existing.version := by
          simp [ingestedStatus, before, same]
        simp only [Option.any_some, same, if_true, List.singleton_append]
        exact tells.edited status

/-- A stage that is marked complete under the identifier leaves a mark in the history. -/
theorem Remembers.completeStage {expected : Int32} {stage : Stage} {reached : SyncStatus × Store}
    (remembers : store.Remembers id history)
    (marked : store.completeStage id expected stage = .ok reached) :
    reached.2.Remembers id (.completed stage expected :: history) := by
  obtain ⟨existing, before, rfl, advanced, after⟩ := completeStage_ok marked
  have found : reached.2.products[id]? = some { existing with status := reached.1 } := by
    simp [after]
  constructor
  case absent =>
    intro missing
    rw [found] at missing
    cases missing
  case stored =>
    rintro entry present
    cases found.symm.trans present
    exact (remembers.stored existing before).completed advanced

/-- Every operation adds to the history what it does to the product. -/
theorem Remembers.perform (remembers : store.Remembers id history) (operation : StoreOperation)
    (outage : Outage) (introduces : operation.Introduces store id) :
    (operation.perform outage store).Remembers id
      (operation.milestones outage store id ++ history) := by
  cases operation with
  | upsertProduct product =>
    simp only [StoreOperation.perform, StoreOperation.milestones, Outage.upsertProduct,
      Outage.runOn_onStore]
    cases outage.store (.upsertProduct product.id) with
    | some reason => simpa [Except.isOk, Except.toBool] using remembers
    | none =>
      by_cases own : product.id = id
      · subst own
        simpa [Except.isOk, Except.toBool] using remembers.upsertProduct (introduces rfl)
      · have elsewhere : (store.upsertProduct product).2.products[id]? = store.products[id]? := by
          rw [products_upsertProduct, if_neg own]
        simpa [own] using remembers.of_eq elsewhere
  | completeStage key expected stage =>
    simp only [StoreOperation.perform, StoreOperation.milestones, Outage.completeStage,
      Outage.runOn_onStore]
    cases outage.store (.completeStage key stage) with
    | some reason => simpa [Except.isOk, Except.toBool] using remembers
    | none =>
      cases marked : store.completeStage key expected stage with
      | error cause => simpa [Except.isOk, Except.toBool] using remembers
      | ok reached =>
        by_cases own : key = id
        · subst own
          simpa [Except.isOk, Except.toBool] using remembers.completeStage marked
        · have elsewhere : reached.2.products[id]? = store.products[id]? :=
            products_completeStage marked (Ne.symm own)
          simpa [own] using remembers.of_eq elsewhere
  | assignImage => exact remembers.of_eq rfl
  | findProducts | getProduct | upsertView | mergeHashes | replaceHashes | loadRecords
  | queuedImages | insertImages | upsertContent =>
    exact remembers.of_eq (congrArg (·[id]?) (Outage.products_onStore rfl))

end Store

/-- Along every run the store remembers the history of the identifier. -/
theorem Chronicle.remembers {id : Int64} {history : History} {store : Store}
    (chronicle : Chronicle id history store) : store.Remembers id history := by
  induction chronicle with
  | start =>
    constructor
    · intro product found
      simp [Store.empty] at found
    · intro _
      rfl
  | next operation outage _ introduces inductionHypothesis =>
    exact inductionHypothesis.perform operation outage introduces

/-- Along every run of store operations the status of a product is its history.

A stage is complete exactly when it was marked since the last change of the content, and the
complete stages come before the others. The product is pending exactly when no stage was ever
marked. It waits to be published again, with the version of the latest mark, exactly when some
stage was marked but none since the last change. Marks that are refused change nothing. -/
theorem Chronicle.status_tells_history {id : Int64} {history : History} {store : Store}
    (chronicle : Chronicle id history store) :
    (∀ product, store.products[id]? = some product →
      (∀ stage, product.status.isComplete stage = true ↔ history.sinceEdit.Marks stage) ∧
      Stage.all.filter product.status.isComplete <+: Stage.all ∧
      (product.status = .pending ↔ ∀ stage, ¬history.Marks stage) ∧
      ∀ version, product.status = .needsResync version ↔
        (∃ stage, history.Marks stage) ∧ (∀ stage, ¬history.sinceEdit.Marks stage) ∧
          history.latestVersion? = some version) ∧
    ∀ (outage : Outage) (key : Int64) (expected : Int32) (stage : Stage) (cause : StoreError),
      ((outage.completeStage key expected stage).runOn store).1 = .error cause →
        ((outage.completeStage key expected stage).runOn store).2 = store := by
  constructor
  · intro product stored
    have tells := chronicle.remembers.stored product stored
    exact ⟨tells.flags, product.status.filter_isComplete_prefix, tells.pending,
      fun _ => tells.needsResync_iff⟩
  · intro outage key expected stage cause refused
    exact Outage.store_of_completeStage_refused refused

namespace Tour

/-- The tour came in and its view was marked complete. Two other versions came in after that. -/
def editedTwice : Store :=
  [.upsertProduct product, .completeStage 7 1 .view, .upsertProduct (edition 2),
    .upsertProduct (edition 3)].foldl (StoreOperation.perform Outage.none) .empty

/-- What happened to it is what its history lists. -/
theorem chronicle_editedTwice :
    Chronicle 7 [.edited, .edited, .completed .view 1, .edited] editedTwice := by
  have unknown : Chronicle 7 [] .empty := .start
  have cameIn := unknown.next (.upsertProduct product) Outage.none fun _ _ => rfl
  have marked := cameIn.next (.completeStage 7 1 .view) Outage.none trivial
  have second := marked.next (.upsertProduct (edition 2)) Outage.none fun _ _ => rfl
  have third := second.next (.upsertProduct (edition 3)) Outage.none fun _ _ => rfl
  exact third

/-- The tour waits with the version that was marked, whatever came in since. -/
theorem editedTwice_remembers_first : ∃ product, editedTwice.products[(7 : Int64)]? = some product ∧
    product.status = .needsResync 1 := by
  have stored : editedTwice.products[(7 : Int64)]? =
      some { edition 3 with status := .needsResync 1 } := by decide +kernel
  have tells := (chronicle_editedTwice.status_tells_history).1 _ stored
  have waits := (tells.2.2.2 1).mpr ⟨⟨.view, 1, by simp⟩, by simp, rfl⟩
  exact ⟨_, stored, waits⟩

end Tour

end Syndication
