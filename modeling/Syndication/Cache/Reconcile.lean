import Syndication.Backend

/-!
# Reconciling the cache with the published codes

A pass flattens the texts published for all products into one map and copies it into
the cache. A code that two products claim for different texts is contested: it is
left out and counted as a conflict. Existing entries are never overwritten, so a
slow pass cannot replace a value that an order relies on; a cached value that
differs from the published text is counted as a conflict as well.

Failures of single cache operations are counted and do not end the pass. Only a
failure to load the published texts does.
-/

namespace Syndication

/-- Why a reconciliation pass could not run. -/
inductive ReconcileError where
  | store (cause : StoreError)
  deriving DecidableEq, Repr

/-- The message of a reconciliation error. -/
def ReconcileError.message : ReconcileError → String
  | .store cause => "could not load PLU hashes: " ++ cause.message

/-- What a pass did: the uncontested codes it tried to copy, and how that went. -/
structure ReconcileReport where
  total : Nat
  created : Nat
  existing : Nat
  conflicts : Nat
  failed : Nat
  deriving DecidableEq, Repr

/-- Codes claimed so far: the text that claimed each code first, and the codes for which a
different text was met later. -/
structure CodeClaims where
  owners : PluHashes
  contested : Std.ExtTreeMap String Unit

namespace CodeClaims

/-- No code is claimed. -/
def empty : CodeClaims := ⟨∅, ∅⟩

/-- Adds the claim of a text on a code. -/
def add (claims : CodeClaims) (entry : String × String) : CodeClaims :=
  match claims.owners[entry.1]? with
  | none => { claims with owners := claims.owners.insert entry.1 entry.2 }
  | some owner =>
    if owner = entry.2 then claims
    else { claims with contested := claims.contested.insert entry.1 () }

/-- The codes that only one text claims. -/
def uncontested (claims : CodeClaims) : PluHashes :=
  claims.owners.filter fun code _ => !claims.contested.contains code

end CodeClaims

/-- The uncontested codes of all products, and the number of contested ones. -/
def flattenRecords (records : List (Int64 × PluHashes)) : PluHashes × Nat :=
  let claims := (records.flatMap fun record => record.2.toList).foldl CodeClaims.add .empty
  (claims.uncontested, claims.contested.size)

/-- Loads and flattens the published texts. -/
def loadHashes (outage : Outage) : Attempt Store ReconcileError (PluHashes × Nat) := do
  let records ← outage.loadRecords.mapError .store
  return flattenRecords records

/-- True when a read from the cache shows another text than the published one. A failed
read shows nothing. -/
def showsConflict (text : String) : Except CacheError (Option String) → Bool
  | .ok (some cached) => cached != text
  | _ => false

variable {ε : Type}

/-- Copies one entry into the cache and counts the outcome. -/
def reconcileEntry (outage : Outage) (ttlSeconds : Nat) (entry : String × String)
    (report : ReconcileReport) : Attempt Cache ε ReconcileReport := do
  match ← (outage.setIfAbsent entry.1 entry.2 ttlSeconds).settle with
  | .ok true => return { report with created := report.created + 1 }
  | .ok false =>
    let found ← (outage.cacheGet entry.1).settle
    let conflict := if showsConflict entry.2 found then 1 else 0
    return { report with
      existing := report.existing + 1, conflicts := report.conflicts + conflict }
  | .error _ => return { report with failed := report.failed + 1 }

/-- Copies entries in order. -/
def reconcileEntries (outage : Outage) (ttlSeconds : Nat) :
    List (String × String) → ReconcileReport → Attempt Cache ε ReconcileReport
  | [], report => return report
  | entry :: rest, report => do
    let report ← reconcileEntry outage ttlSeconds entry report
    reconcileEntries outage ttlSeconds rest report

/-- The report before the first entry is copied. -/
def ReconcileReport.before (hashes : PluHashes) (contested : Nat) : ReconcileReport :=
  ⟨hashes.size, 0, 0, contested, 0⟩

/-- Copies a flattened map into the cache, in the order of the codes. -/
def writeHashes (outage : Outage) (ttlSeconds : Nat) (hashes : PluHashes) (contested : Nat) :
    Attempt Cache ε ReconcileReport :=
  reconcileEntries outage ttlSeconds hashes.toList (.before hashes contested)

/-- One reconciliation pass. -/
def reconcile (outage : Outage) (ttlSeconds : Nat) :
    Attempt Backend ReconcileError ReconcileReport := do
  let (hashes, contested) ← Backend.onStore (loadHashes outage)
  Backend.onCache (writeHashes outage ttlSeconds hashes contested)

end Syndication
