import Syndication.Pipeline
import Syndication.Proofs.Attempt.Success
import Syndication.Proofs.Cache.Flattening

/-!
# Copying codes into the cache

A reconciliation pass writes every code that the records agree on, whatever becomes of the single
writes. `Outage.writable` lists the entries whose writes work, and `Cache.filled` is the cache after
conditional writes of a list of entries. A pass leaves the cache filled with what is writable and
counts the other entries as failed, so a pass without failures has copied everything.

As long as entries have a time to live, filling gives the codes that have no value yet the texts of
the entries, except those that the cache withholds: an expired entry is still there, and a write
does not bring it back. A code that has a value keeps it. A cache all of whose entries have a time
to live is lasting and withholds nothing.
-/

namespace Syndication

open Attempt

/-- The entries that can be written, in order. -/
def Outage.writable (outage : Outage) (entries : List (String × String)) :
    List (String × String) :=
  entries.filter fun entry => (outage.cache (.setIfAbsent entry.1)).isNone

/-- Every entry of the cache was written with a time to live, so none has expired. -/
def Cache.Lasting (cache : Cache) : Prop := ∀ code, cache.expired.contains code = false

/-- What the cache has under a code: a value, and whether an expired entry is in its place. -/
def Cache.slot (cache : Cache) (code : String) : Option String × Bool :=
  (cache.get? code, cache.expired.contains code)

/-- A cache to which entries were written one after the other, each unless its code had a value. -/
def Cache.filled (cache : Cache) (ttlSeconds : Nat) (entries : List (String × String)) : Cache :=
  entries.foldl (fun cache entry => (cache.setIfAbsent entry.1 entry.2 ttlSeconds).2) cache

variable {ttlSeconds : Nat} {cache : Cache} {outage : Outage}
  {entries first second : List (String × String)}

namespace Outage

/-- What can be written of two lists is written of each. -/
theorem writable_append (outage : Outage) (first second : List (String × String)) :
    outage.writable (first ++ second) = outage.writable first ++ outage.writable second :=
  List.filter_append ..

/-- Without outage all entries can be written. -/
theorem writable_none (entries : List (String × String)) :
    Outage.none.writable entries = entries :=
  List.filter_eq_self.mpr fun _ _ => rfl

/-- Entries that can be written keep their order and stay different. -/
theorem pairwise_writable (outage : Outage) {relation : String × String → String × String → Prop}
    (pairwise : entries.Pairwise relation) : (outage.writable entries).Pairwise relation :=
  pairwise.filter _

end Outage

namespace Cache

variable {code text : String}

/-- A code has a value when it is contained. -/
theorem contains_eq_isSome (cache : Cache) (code : String) :
    cache.contains code = (cache.get? code).isSome :=
  Std.ExtTreeMap.contains_eq_isSome_getElem?

/-- A conditional write is done when its code has no value. -/
theorem setIfAbsent_fst (cache : Cache) (code text : String) (ttlSeconds : Nat) :
    (cache.setIfAbsent code text ttlSeconds).1 = (cache.get? code).isNone := by
  rw [setIfAbsent, contains_eq_isSome]
  cases cache.get? code with
  | some owner => rfl
  | none =>
    simp only [Option.isSome_none, Bool.false_eq_true, if_false, Option.isNone_none]
    split <;> rfl

/-- A conditional write leaves a code that has a value as it is. -/
theorem setIfAbsent_of_present {owner : String} (present : cache.get? code = some owner)
    (text : String) (ttlSeconds : Nat) : (cache.setIfAbsent code text ttlSeconds).2 = cache := by
  rw [setIfAbsent, contains_eq_isSome, present]
  rfl

/-- A conditional write changes no slot but that of its code. -/
theorem slot_setIfAbsent {other : String} (different : code ≠ other) :
    (cache.setIfAbsent code text ttlSeconds).2.slot other = cache.slot other := by
  unfold setIfAbsent
  split
  case isTrue => rfl
  case isFalse =>
    split <;> simp [slot, get?, Std.ExtTreeMap.contains_insert, Std.ExtTreeMap.getElem?_insert,
      different]

/-- A conditional write gives a value to its code, unless it has one or an expired entry stands in
the way, and to no other. -/
theorem get?_setIfAbsent (positive : ttlSeconds ≠ 0) (cache : Cache) (code text other : String) :
    (cache.setIfAbsent code text ttlSeconds).2.get? other =
      if code = other ∧ cache.expired.contains code = false then
        some ((cache.get? code).getD text)
      else cache.get? other := by
  cases found : cache.get? code with
  | some owner =>
    rw [setIfAbsent_of_present found]
    split
    next own =>
      rw [← own.1]
      exact found
    next => rfl
  | none =>
    unfold setIfAbsent
    rw [contains_eq_isSome, found]
    cases held : cache.expired.contains code with
    | true => simp [get?]
    | false => simp [positive, get?, Std.ExtTreeMap.getElem?_insert]

/-- A conditional write lets no entry expire. -/
theorem expired_setIfAbsent (positive : ttlSeconds ≠ 0) (cache : Cache) (code text : String) :
    (cache.setIfAbsent code text ttlSeconds).2.expired = cache.expired := by
  unfold setIfAbsent
  cases cache.contains code with
  | true => rfl
  | false =>
    cases held : cache.expired.contains code with
    | false => simp [positive]
    | true =>
      have there : cache.expired[code]? = some () :=
        Std.ExtTreeMap.getElem?_eq_some_getElem held
      simp only [Bool.false_eq_true, if_false, or_true, if_true]
      ext other
      simp only [Std.ExtTreeMap.getElem?_insert, Std.compare_eq_iff_eq]
      split
      next same => rw [← same, there]
      next => rfl

/-- Filling with two lists is filling with one after the other. -/
theorem filled_append : cache.filled ttlSeconds (first ++ second) =
    (cache.filled ttlSeconds first).filled ttlSeconds second :=
  List.foldl_append ..

/-- Filling changes no slot but those of the codes of its entries. -/
theorem slot_filled (absent : ∀ entry ∈ entries, entry.1 ≠ code) :
    (cache.filled ttlSeconds entries).slot code = cache.slot code := by
  induction entries generalizing cache with
  | nil => rfl
  | cons entry rest inductionHypothesis =>
    rw [List.forall_mem_cons] at absent
    exact (inductionHypothesis absent.2).trans (slot_setIfAbsent absent.1)

/-- Filling lets no entry expire. -/
theorem expired_filled (positive : ttlSeconds ≠ 0) (cache : Cache)
    (entries : List (String × String)) :
    (cache.filled ttlSeconds entries).expired = cache.expired := by
  induction entries generalizing cache with
  | nil => rfl
  | cons entry rest inductionHypothesis =>
    exact (inductionHypothesis _).trans (expired_setIfAbsent positive cache entry.1 entry.2)

/-- Filling with entries of different codes gives their texts to the codes that have no value and
are not withheld.

Induct over the entries. The write of the first settles its code, which no other entry has. -/
theorem get?_filled_iff (positive : ttlSeconds ≠ 0)
    (distinct : entries.Pairwise fun first second => first.1 ≠ second.1) :
    (cache.filled ttlSeconds entries).get? code = some text ↔
      cache.get? code = some text ∨ cache.get? code = none ∧
        cache.expired.contains code = false ∧ (code, text) ∈ entries := by
  induction entries generalizing cache with
  | nil => simp [filled]
  | cons entry rest inductionHypothesis =>
    obtain ⟨own, owner⟩ := entry
    rw [List.pairwise_cons] at distinct
    show ((cache.setIfAbsent own owner ttlSeconds).2.filled ttlSeconds rest).get? code = _ ↔ _
    rw [inductionHypothesis distinct.2, get?_setIfAbsent positive, expired_setIfAbsent positive]
    by_cases same : own = code
    · subst same
      have settled : (own, text) ∉ rest := fun member => distinct.1 _ member rfl
      cases cache.get? own <;> cases cache.expired.contains own <;> simp [settled, eq_comm]
    · simp [same, Ne.symm same]

/-- Entries without a time to live give no code a value. -/
theorem get?_filled_zero (cache : Cache) (entries : List (String × String)) (code : String) :
    (cache.filled 0 entries).get? code = cache.get? code := by
  induction entries generalizing cache with
  | nil => rfl
  | cons entry rest inductionHypothesis =>
    have same : (cache.setIfAbsent entry.1 entry.2 0).2.entries = cache.entries := by
      unfold setIfAbsent
      cases cache.contains entry.1 <;> simp
    exact (inductionHypothesis _).trans (congrArg (·[code]?) same)

end Cache

variable {ε : Type}

/-- What becomes of an entry that a pass copies. -/
inductive Fate where
  /-- Its code had no value, and a write was done. -/
  | created
  /-- Its code had a value; another text than the entry's may have been read there. -/
  | existing (conflict : Bool)
  /-- It could not be written. -/
  | failed
  deriving DecidableEq, Repr

/-- What becomes of an entry, given what is in reach and what the cache holds. -/
def Outage.fate (outage : Outage) (cache : Cache) (entry : String × String) : Fate :=
  match outage.cache (.setIfAbsent entry.1), cache.get? entry.1 with
  | some _, _ => .failed
  | .none, .none => .created
  | .none, some cached =>
    .existing ((outage.cache (.get entry.1)).isNone && cached != entry.2)

/-- Counts what became of an entry. -/
def ReconcileReport.note (report : ReconcileReport) : Fate → ReconcileReport
  | .created => { report with created := report.created + 1 }
  | .existing conflict =>
    { report with
      existing := report.existing + 1
      conflicts := report.conflicts + if conflict then 1 else 0 }
  | .failed => { report with failed := report.failed + 1 }

/-- Copying an entry counts its fate, and fills the cache with it if it can be written. -/
theorem runOn_reconcileEntry (ε : Type) (outage : Outage) (ttlSeconds : Nat)
    (entry : String × String) (report : ReconcileReport) (cache : Cache) :
    (reconcileEntry outage ttlSeconds entry report : Attempt Cache ε ReconcileReport).runOn cache =
      (.ok (report.note (outage.fate cache entry)),
        cache.filled ttlSeconds (outage.writable [entry])) := by
  rw [reconcileEntry, runOn_bind, runOn_settle, Outage.setIfAbsent, Outage.runOn_onCache,
    Outage.fate]
  cases works : outage.cache (.setIfAbsent entry.1) with
  | some reason =>
    have none : outage.writable [entry] = [] := by simp [Outage.writable, works]
    rw [none]
    rfl
  | none =>
    have single : outage.writable [entry] = [entry] := by simp [Outage.writable, works]
    rw [single]
    have wrote := cache.setIfAbsent_fst entry.1 entry.2 ttlSeconds
    have filled : cache.filled ttlSeconds [entry] =
        (cache.setIfAbsent entry.1 entry.2 ttlSeconds).2 := rfl
    cases found : cache.get? entry.1 with
    | none =>
      rw [found, Option.isNone_none] at wrote
      simp only [wrote, filled]
      rfl
    | some cached =>
      rw [found, Option.isNone_some] at wrote
      simp only [wrote, filled, Cache.setIfAbsent_of_present found, runOn_bind_pure, runOn_settle,
        Outage.cacheGet, Outage.runOn_onCache, found]
      cases outage.cache (.get entry.1) <;> rfl

/-- An entry that cannot be written is counted as a failure. -/
theorem failed_note (outage : Outage) (cache : Cache) (entry : String × String)
    (report : ReconcileReport) :
    (report.note (outage.fate cache entry)).failed + (outage.writable [entry]).length =
      report.failed + 1 := by
  rw [Outage.fate, Outage.writable]
  cases works : outage.cache (.setIfAbsent entry.1) with
  | some reason => simp [works, ReconcileReport.note]
  | none => cases cache.get? entry.1 <;> simp [works, ReconcileReport.note]

/-- Copying entries fills the cache with those that can be written, and counts the others as
failures.

Induct over the entries: what the first leaves is what the others start from. -/
theorem runOn_reconcileEntries (ε : Type) (outage : Outage) (ttlSeconds : Nat)
    (entries : List (String × String)) (report : ReconcileReport) (cache : Cache) :
    ∃ reached : ReconcileReport,
      (reconcileEntries outage ttlSeconds entries report :
          Attempt Cache ε ReconcileReport).runOn cache =
          (.ok reached, cache.filled ttlSeconds (outage.writable entries)) ∧
        reached.failed + (outage.writable entries).length = report.failed + entries.length := by
  induction entries generalizing report cache with
  | nil => exact ⟨report, rfl, rfl⟩
  | cons entry rest inductionHypothesis =>
    have failedFirst := failed_note outage cache entry report
    obtain ⟨reached, ranRest, failedRest⟩ :=
      inductionHypothesis (report.note (outage.fate cache entry))
        (cache.filled ttlSeconds (outage.writable [entry]))
    have split : outage.writable (entry :: rest) =
        outage.writable [entry] ++ outage.writable rest :=
      outage.writable_append [entry] rest
    refine ⟨reached, ?_, ?_⟩
    · rw [reconcileEntries, runOn_bind, runOn_reconcileEntry, split, Cache.filled_append]
      exact ranRest
    · rw [split, List.length_append, List.length_cons]
      omega

/-- Copying two lists of entries is copying one after the other. -/
theorem runOn_reconcileEntries_append (ε : Type) (outage : Outage) (ttlSeconds : Nat)
    (first second : List (String × String)) (report : ReconcileReport) (cache : Cache) :
    (reconcileEntries outage ttlSeconds (first ++ second) report :
        Attempt Cache ε ReconcileReport).runOn cache =
      (reconcileEntries outage ttlSeconds first report >>=
        reconcileEntries outage ttlSeconds second).runOn cache := by
  induction first generalizing report cache with
  | nil => rfl
  | cons entry rest inductionHypothesis =>
    have continued := inductionHypothesis (report.note (outage.fate cache entry))
      (cache.filled ttlSeconds (outage.writable [entry]))
    rw [runOn_bind] at continued ⊢
    rw [List.cons_append, reconcileEntries, reconcileEntries, runOn_bind, runOn_bind,
      runOn_reconcileEntry]
    exact continued

/-- The records of all products are loaded and flattened, unless they are out of reach. -/
theorem runOn_loadHashes (outage : Outage) (store : Store) :
    (loadHashes outage).runOn store =
      match outage.store .loadRecords with
      | some reason => (.error (.store (.unavailable reason)), store)
      | none => (.ok (flattenRecords store.records.toList), store) := by
  rw [loadHashes, runOn_bind_pure, runOn_mapError, Outage.loadRecords, Outage.runOn_onStore]
  cases outage.store .loadRecords <;> rfl

namespace Backend

/-- The texts that the records of all products agree on, with their codes. -/
def agreed (backend : Backend) : List (String × String) :=
  (flattenRecords backend.store.records.toList).1.toList

/-- The services after a pass: the cache is filled with what can be written. -/
def copied (backend : Backend) (outage : Outage) (ttlSeconds : Nat) : Backend :=
  { backend with cache := backend.cache.filled ttlSeconds (outage.writable backend.agreed) }

variable {backend : Backend}

/-- No two texts that the records agree on have the same code. -/
theorem pairwise_agreed (backend : Backend) :
    backend.agreed.Pairwise fun first second => first.1 ≠ second.1 :=
  Std.ExtTreeMap.distinct_keys_toList.imp fun apart same =>
    apart (Std.compare_eq_iff_eq.mpr same)

/-- The records agree on a text when some record has it and no record has another one. -/
theorem mem_agreed_iff {code text : String} : (code, text) ∈ backend.agreed ↔
    (flattenRecords backend.store.records.toList).1[code]? = some text :=
  Std.ExtTreeMap.mem_toList_iff_getElem?_eq_some

/-- Filling with what the records agree on gives it to the codes that have no value. -/
theorem get?_filled_agreed {code : String} (positive : ttlSeconds ≠ 0)
    (lasting : backend.cache.Lasting) :
    (backend.cache.filled ttlSeconds backend.agreed).get? code =
      (backend.cache.get? code).or (flattenRecords backend.store.records.toList).1[code]? := by
  apply Option.ext
  intro text
  rw [Cache.get?_filled_iff positive backend.pairwise_agreed, lasting code, mem_agreed_iff,
    Option.or_eq_some_iff]
  simp

end Backend

/-- The report of a pass before it copies what the records agree on. -/
def Backend.uncopied (backend : Backend) : ReconcileReport :=
  .before (flattenRecords backend.store.records.toList).1
    (flattenRecords backend.store.records.toList).2

/-- A pass whose records are in reach copies what they agree on. -/
theorem runOn_reconcile (ttlSeconds : Nat) (backend : Backend)
    (inReach : outage.store .loadRecords = none) :
    (reconcile outage ttlSeconds).runOn backend =
      (Backend.onCache (reconcileEntries outage ttlSeconds backend.agreed
        backend.uncopied)).runOn backend := by
  have loaded : (Backend.onStore (loadHashes outage)).runOn backend =
      (.ok (flattenRecords backend.store.records.toList), backend) := by
    rw [Backend.runOn_onStore, runOn_loadHashes, inReach]
  rw [reconcile, runOn_bind, loaded]
  rfl

/-- It fills the cache with what can be written, and counts the other texts as failures. -/
theorem copied_of_reconcile (ttlSeconds : Nat) (backend : Backend)
    (inReach : outage.store .loadRecords = none) :
    ∃ report : ReconcileReport, (reconcile outage ttlSeconds).runOn backend =
        (.ok report, backend.copied outage ttlSeconds) ∧
      report.failed + (outage.writable backend.agreed).length = backend.agreed.length := by
  obtain ⟨report, ran, counted⟩ := runOn_reconcileEntries ReconcileError outage ttlSeconds
    backend.agreed backend.uncopied backend.cache
  refine ⟨report, ?_, counted.trans (Nat.zero_add _)⟩
  rw [runOn_reconcile ttlSeconds backend inReach, Backend.runOn_onCache, ran]
  rfl

/-- A pass whose records are out of reach does nothing. -/
theorem runOn_reconcile_of_fails {backend : Backend} {reason : String}
    (fails : outage.store .loadRecords = some reason) :
    (reconcile outage ttlSeconds).runOn backend =
      (.error (.store (.unavailable reason)), backend) := by
  rw [reconcile, runOn_bind, Backend.runOn_onStore, runOn_loadHashes, fails]

namespace Pipeline

variable {γ : Type} {pipeline : Pipeline γ} {world : World γ}

/-- In the world, too, a pass whose records are in reach fills the cache. -/
theorem runOn_runReconcile (pipeline : Pipeline γ) (world : World γ)
    (inReach : outage.store .loadRecords = none) :
    ∃ report later, (pipeline.runReconcile outage).runOn world = (.ok report, later) ∧
      later.backend = world.backend.copied outage pipeline.ttlSeconds ∧
      report.failed + (outage.writable world.backend.agreed).length =
        world.backend.agreed.length := by
  obtain ⟨report, ran, counted⟩ :=
    copied_of_reconcile pipeline.ttlSeconds world.backend inReach
  rw [runReconcile, runOn_bind, World.runOn_onBackend, runOn_mapError, ran]
  exact ⟨report, _, rfl, rfl, counted⟩

/-- A pass that succeeds without failures has filled the cache with everything that the records
agree on. -/
theorem copied_of_runReconcile {report : ReconcileReport} {later : World γ}
    (ran : (pipeline.runReconcile outage).runOn world = (.ok report, later))
    (complete : report.failed = 0) :
    later.store = world.store ∧
      later.cache = world.cache.filled pipeline.ttlSeconds world.backend.agreed := by
  cases inReach : outage.store .loadRecords with
  | some reason =>
    rw [runReconcile, runOn_bind, World.runOn_onBackend, runOn_mapError,
      runOn_reconcile_of_fails inReach] at ran
    cases ran
  | none =>
    obtain ⟨reached, after, ranThen, left, counted⟩ := runOn_runReconcile pipeline world inReach
    cases ran.symm.trans ranThen
    have all : outage.writable world.backend.agreed = world.backend.agreed := by
      apply List.Sublist.eq_of_length List.filter_sublist
      rw [complete, Nat.zero_add] at counted
      exact counted
    constructor
    · rw [World.store, left]
      rfl
    · rw [World.cache, left, Backend.copied, all]
      rfl

/-- A pass without outage leaves the store as it is and gives the codes that have no value in the
cache the texts that the records agree on. -/
theorem succeeds_runReconcile (positive : pipeline.ttlSeconds ≠ 0)
    (lasting : world.cache.Lasting) :
    (pipeline.runReconcile Outage.none).Succeeds
      (fun _ later => later.store = world.store ∧ ∀ code, later.cache.get? code =
        (world.cache.get? code).or (flattenRecords world.store.records.toList).1[code]?) world := by
  have inReach : Outage.none.store .loadRecords = none := rfl
  obtain ⟨report, later, ran, left, _⟩ := runOn_runReconcile pipeline world inReach
  apply meets_alone_iff.mpr
  rw [ran]
  refine ⟨report, rfl, ?_, ?_⟩
  · rw [World.store, left]
    rfl
  · intro code
    rw [World.cache, left, Backend.copied, Outage.writable_none]
    exact Backend.get?_filled_agreed positive lasting

end Pipeline

end Syndication
