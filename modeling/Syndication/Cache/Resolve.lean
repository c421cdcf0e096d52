import Syndication.Backend
import Syndication.Plu.Code

/-!
# Resolving codes

Order creation turns a code back into the text of a sellable unit by looking it up
in the cache. A text that cannot be a code is refused before the cache is asked. A
miss is an error of its own: filling the cache is the business of reconciliation.
-/

namespace Syndication

/-- Why a code does not resolve. -/
inductive ResolveError where
  | notFound
  | invalidCode
  | cache (cause : CacheError)
  deriving DecidableEq, Repr

/-- The message of a resolution error. -/
def ResolveError.message : ResolveError → String
  | .notFound => "unknown PLU hash"
  | .invalidCode => "malformed PLU hash"
  | .cache cause => "cache error: " ++ cause.message

/-- The text of a code. -/
def resolvePlu (outage : Outage) (code : String) : Attempt Cache ResolveError String :=
  if isWellFormedCode code then do
    match ← (outage.cacheGet code).mapError .cache with
    | some text => return text
    | none => throw .notFound
  else throw .invalidCode

/-- How a resolution ended, as measurements are labelled. -/
def resolutionLabel : Except ResolveError String → String
  | .ok _ => "hit"
  | .error .notFound => "not_found"
  | .error .invalidCode => "invalid"
  | .error (.cache _) => "error"

end Syndication
