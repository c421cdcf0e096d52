import Syndication.Proofs.Attempt.Interference
import Syndication.World

/-!
# Operations of the services under interference

An operation behind an outage fails before it acts or acts in one go. What an attempt on
the store, the cache or the collaborators guarantees carries over to the world: it leaves
the rest of the world as it found it. What others do to the store is read as a relation on
worlds through `InvImage`; they may do anything to the rest. Attempts that write to the
store only read the cache, which `World.WithinStore` adds to what they do to the store.
-/

namespace Syndication

open Attempt

namespace Attempt

variable {σ τ ε ε' α β : Type}

/-- What is made of the value of an attempt is its value, and the state is the same. -/
theorem runOn_bind_pure (first : Attempt σ ε α) (make : α → β) (state : σ) :
    (first >>= fun value => pure (make value)).runOn state =
      ((first.runOn state).1.map make, (first.runOn state).2) := by
  rw [runOn_bind]
  rcases first.runOn state with ⟨cause | value, later⟩ <;> rfl

/-- A sequence succeeds when its first part does and the rest does from there. -/
theorem runOn_bind_ok_iff {first : Attempt σ ε α} {next : α → Attempt σ ε β} {state later : σ}
    {made : β} :
    (first >>= next).runOn state = (.ok made, later) ↔ ∃ value between,
      first.runOn state = (.ok value, between) ∧
        (next value).runOn between = (.ok made, later) := by
  rw [runOn_bind]
  rcases first.runOn state with ⟨cause | value, between⟩
  · simp
  · constructor
    · intro ran
      exact ⟨value, between, rfl, ran⟩
    · rintro ⟨_, _, same, ran⟩
      cases same
      exact ran

/-- Changing the error of a sequence is changing it in both parts. -/
theorem mapError_bind (wrap : ε → ε') (first : Attempt σ ε α) (next : α → Attempt σ ε β) :
    (first >>= next).mapError wrap =
      first.mapError wrap >>= fun value => (next value).mapError wrap := by
  show (first.andThen next).mapError wrap = (first.mapError wrap).andThen _
  induction first with
  | done result => cases result <;> rfl
  | act effect rest inductionHypothesis =>
    exact congrArg (act effect) (funext inductionHypothesis)

/-- A sequence on a part is the sequence of its parts there. -/
theorem focus_bind (part : Part τ σ) (first : Attempt σ ε α) (next : α → Attempt σ ε β) :
    (first >>= next).focus part = first.focus part >>= fun value => (next value).focus part := by
  show (first.andThen next).focus part = (first.focus part).andThen _
  induction first with
  | done result => cases result <;> rfl
  | act effect rest inductionHypothesis =>
    exact congrArg (act _) (funext fun state => inductionHypothesis (part.get state))

/-- Changing the error of an attempt does not change its successes. -/
theorem runOn_mapError_ok_iff {attempt : Attempt σ ε α} {wrap : ε → ε'} {state later : σ}
    {value : α} : (attempt.mapError wrap).runOn state = (.ok value, later) ↔
      attempt.runOn state = (.ok value, later) := by
  rw [runOn_mapError]
  rcases attempt.runOn state with ⟨cause | found, after⟩
  · constructor <;> intro ran <;> cases ran
  · constructor <;> intro ran <;> cases ran <;> rfl

end Attempt

namespace Outage

variable {α : Type} {outage : Outage}

/-- A store operation that is out of reach fails, and any other is run. -/
theorem runOn_onStore (outage : Outage) (call : StoreCall)
    (act : Store → Except StoreError α × Store) (store : Store) :
    (outage.onStore call act).runOn store =
      match outage.store call with
      | some reason => (.error (.unavailable reason), store)
      | .none => act store := by
  unfold onStore
  cases outage.store call <;> rfl

/-- A cache operation that is out of reach fails, and any other is run. -/
theorem runOn_onCache (outage : Outage) (call : CacheCall) (act : Cache → α × Cache)
    (cache : Cache) :
    (outage.onCache call act).runOn cache =
      match outage.cache call with
      | some reason => (.error (.unavailable reason), cache)
      | .none => (.ok (act cache).1, (act cache).2) := by
  unfold onCache
  cases outage.cache call <;> rfl

/-- A store operation succeeds when it is in reach and what it does succeeds. -/
theorem runOn_onStore_ok_iff {call : StoreCall} {act : Store → Except StoreError α × Store}
    {store after : Store} {value : α} :
    (outage.onStore call act).runOn store = (.ok value, after) ↔
      outage.store call = .none ∧ act store = (.ok value, after) := by
  rw [runOn_onStore]
  cases outage.store call <;> simp

/-- A store operation either fails where the attempt stands, or acts. -/
theorem meets_onStore {others own : Store → Store → Prop}
    {goal : Except StoreError α → Store → Prop} {call : StoreCall}
    {act : Store → Except StoreError α × Store} {store : Store}
    (fails : ∀ reason, goal (.error (.unavailable reason)) store)
    (acts : ∀ found, others store found →
      own found (act found).2 ∧ goal (act found).1 (act found).2) :
    (outage.onStore call act).Meets others own goal store := by
  unfold onStore
  split
  case h_1 reason _ => exact fails reason
  case h_2 => exact meets_ofRun acts

/-- A cache operation either fails where the attempt stands, or acts. -/
theorem meets_onCache {others own : Cache → Cache → Prop}
    {goal : Except CacheError α → Cache → Prop} {call : CacheCall} {act : Cache → α × Cache}
    {cache : Cache} (fails : ∀ reason, goal (.error (.unavailable reason)) cache)
    (acts : ∀ found, others cache found →
      own found (act found).2 ∧ goal (.ok (act found).1) (act found).2) :
    (outage.onCache call act).Meets others own goal cache := by
  unfold onCache
  split
  case h_1 reason _ => exact fails reason
  case h_2 => exact meets_ofRun acts

/-- Reading from the cache changes nothing, whatever is read. -/
theorem meets_cacheGet {others : Cache → Cache → Prop} {cache : Cache} (key : String) :
    (outage.cacheGet key).Meets others (fun before after => after = before)
      (Outcome (fun _ => True) fun _ _ => True) cache :=
  meets_onCache (fun _ => ⟨trivial, nofun⟩) fun _ _ => ⟨rfl, trivial, fun _ _ => trivial⟩

/-- With nobody else around, a store operation ensures what it does unless it fails. -/
theorem ensures_onStore {always : Store → Prop} {success : α → Store → Prop} {call : StoreCall}
    {act : Store → Except StoreError α × Store} {store : Store} (idle : always store)
    (acts : Outcome always success (act store).1 (act store).2) :
    (outage.onStore call act).Ensures always success store := by
  refine meets_onStore (fun _ => ⟨idle, nofun⟩) ?_
  rintro _ rfl
  exact ⟨trivial, acts⟩

/-- With nobody else around, a cache operation ensures what it does unless it fails. -/
theorem ensures_onCache {always : Cache → Prop} {success : α → Cache → Prop} {call : CacheCall}
    {act : Cache → α × Cache} {cache : Cache} (idle : always cache) (after : always (act cache).2)
    (acts : success (act cache).1 (act cache).2) :
    (outage.onCache call act).Ensures always success cache := by
  refine meets_onCache (fun _ => ⟨idle, nofun⟩) ?_
  rintro _ rfl
  exact ⟨trivial, after, fun value same => by cases same; exact acts⟩

end Outage

namespace Backend

variable {ε α : Type} {backend : Backend} {kept : Backend → Prop}

/-- The store is worked on with the cache beside it. -/
theorem runOn_onStore (attempt : Attempt Store ε α) (backend : Backend) :
    (onStore attempt).runOn backend = ((attempt.runOn backend.store).1,
      { backend with store := (attempt.runOn backend.store).2 }) :=
  runOn_focus storePart attempt backend

/-- The cache is worked on with the store beside it. -/
theorem runOn_onCache (attempt : Attempt Cache ε α) (backend : Backend) :
    (onCache attempt).runOn backend = ((attempt.runOn backend.cache).1,
      { backend with cache := (attempt.runOn backend.cache).2 }) :=
  runOn_focus cachePart attempt backend

/-- An attempt on the store that nobody interferes with, with the cache beside it. -/
theorem ensures_onStore {always : Store → Prop} {success : α → Store → Prop}
    {attempt : Attempt Store ε α} (ensured : attempt.Ensures always success backend.store)
    (putBack : ∀ changed, always changed → kept { backend with store := changed }) :
    (onStore attempt).Ensures kept (fun value later => success value later.store) backend := by
  show (attempt.focus storePart).Ensures kept
    (fun value later => success value (storePart.get later)) backend
  exact ensured.focus putBack

/-- An attempt on the cache that nobody interferes with, with the store beside it. -/
theorem ensures_onCache {always : Cache → Prop} {success : α → Cache → Prop}
    {attempt : Attempt Cache ε α} (ensured : attempt.Ensures always success backend.cache)
    (putBack : ∀ changed, always changed → kept { backend with cache := changed }) :
    (onCache attempt).Ensures kept (fun value later => success value later.cache) backend := by
  show (attempt.focus cachePart).Ensures kept
    (fun value later => success value (cachePart.get later)) backend
  exact ensured.focus putBack

end Backend

namespace World

variable {γ ε α : Type} {others own : Store → Store → Prop} {world : World γ}

/-- What happened to a world is what happened to its store; the cache is as before. -/
def WithinStore (own : Store → Store → Prop) (before after : World γ) : Prop :=
  own before.store after.store ∧ after.cache = before.cache

/-- Collaborators are asked with the services beside them. -/
theorem runOn_onOutside (attempt : Attempt γ ε α) (world : World γ) :
    (onOutside attempt).runOn world = ((attempt.runOn world.outside).1,
      { world with outside := (attempt.runOn world.outside).2 }) :=
  runOn_focus outsidePart attempt world

/-- The services are worked on with the collaborators and the measures beside them. -/
theorem runOn_onBackend (attempt : Attempt Backend ε α) (world : World γ) :
    (onBackend attempt).runOn world = ((attempt.runOn world.backend).1,
      { world with backend := (attempt.runOn world.backend).2 }) :=
  runOn_focus backendPart attempt world

/-- The store is worked on with the rest of the world beside it. -/
theorem runOn_onStore (attempt : Attempt Store ε α) (world : World γ) :
    (onStore attempt).runOn world = ((attempt.runOn world.store).1,
      { world with backend := { world.backend with store := (attempt.runOn world.store).2 } }) :=
  runOn_focus storePart attempt world

/-- The cache is worked on with the rest of the world beside it. -/
theorem runOn_onCache (attempt : Attempt Cache ε α) (world : World γ) :
    (onCache attempt).runOn world = ((attempt.runOn world.cache).1,
      { world with backend := { world.backend with cache := (attempt.runOn world.cache).2 } }) :=
  runOn_focus cachePart attempt world

/-- An attempt on the store guarantees on the world what it guarantees on the store. -/
theorem meets_onStore {goal : Except ε α → Store → Prop} {attempt : Attempt Store ε α}
    (met : attempt.Meets others own goal world.store) :
    (onStore attempt).Meets (InvImage others store) (WithinStore own)
      (fun result later => goal result later.store) world := by
  show (attempt.focus storePart).Meets (InvImage others store) (WithinStore own)
    (fun result later => goal result (storePart.get later)) world
  exact met.focus (fun _ _ acted => acted) fun _ _ _ _ done => ⟨done, rfl⟩

/-- An attempt on a part of the world that the store is no part of keeps what holds of the
store, as long as others do. It must not change the cache. -/
theorem meets_besideStore {σ : Type} {part : Part (World γ) σ} {change : σ → σ → Prop}
    {success : α → Prop} {attempt : Attempt σ ε α} {kept : Store → Prop}
    (apart : ∀ (world : World γ) (changed : σ), (part.set world changed).store = world.store)
    (readOnly : ∀ (world : World γ) (changed : σ), change (part.get world) changed →
      (part.set world changed).cache = world.cache)
    (byOthers : ∀ before after, kept before → others before after → kept after)
    (idle : ∀ store, own store store) (begun : kept world.store)
    (met : attempt.Meets (fun _ _ => True) change
      (Outcome (fun _ => True) fun value _ => success value) (part.get world)) :
    (attempt.focus part).Meets (InvImage others store) (WithinStore own)
      (Outcome (fun later => kept later.store) fun value _ => success value) world := by
  have untouched : (attempt.focus part).Meets (InvImage others store)
      (WithinStore fun found after => after = found)
      (fun result later => Outcome (fun _ => True) (fun value _ => success value) result
        (part.get later)) world :=
    met.focus (fun _ _ _ => trivial) fun _ found changed _ done =>
      ⟨apart found changed, readOnly found changed done⟩
  have framed := untouched.frame (fun later => kept later.store)
    (fun before after holds acted => byOthers before.store after.store holds acted)
    (fun before after holds same => show kept after.store from same.1 ▸ holds) begun
  refine framed.weaken (fun _ _ same => same) ?_ fun _ _ reached => ⟨reached.2, reached.1.2⟩
  intro found after same
  refine ⟨?_, same.2⟩
  rw [same.1]
  exact idle found.store

variable {kept : World γ → Prop}

/-- An attempt on the store that nobody interferes with, in the world. -/
theorem ensures_onStore {always : Store → Prop} {success : α → Store → Prop}
    {attempt : Attempt Store ε α} (ensured : attempt.Ensures always success world.store)
    (putBack : ∀ changed, always changed → kept (storePart.set world changed)) :
    (onStore attempt).Ensures kept (fun value later => success value later.store) world := by
  show (attempt.focus storePart).Ensures kept
    (fun value later => success value (storePart.get later)) world
  exact ensured.focus putBack

/-- An attempt on the cache that nobody interferes with, in the world. -/
theorem ensures_onCache {always : Cache → Prop} {success : α → Cache → Prop}
    {attempt : Attempt Cache ε α} (ensured : attempt.Ensures always success world.cache)
    (putBack : ∀ changed, always changed → kept (cachePart.set world changed)) :
    (onCache attempt).Ensures kept (fun value later => success value later.cache) world := by
  show (attempt.focus cachePart).Ensures kept
    (fun value later => success value (cachePart.get later)) world
  exact ensured.focus putBack

/-- An attempt on both services that nobody interferes with, in the world. -/
theorem ensures_onBackend {always : Backend → Prop} {success : α → Backend → Prop}
    {attempt : Attempt Backend ε α} (ensured : attempt.Ensures always success world.backend)
    (putBack : ∀ changed, always changed → kept (backendPart.set world changed)) :
    (onBackend attempt).Ensures kept (fun value later => success value later.backend) world := by
  show (attempt.focus backendPart).Ensures kept
    (fun value later => success value (backendPart.get later)) world
  exact ensured.focus putBack

/-- Measuring keeps what holds whatever is measured. -/
theorem ensures_measure {change : Metrics → Metrics}
    (measured : kept { world with metrics := change world.metrics }) :
    (measure change : Attempt (World γ) ε Unit).Ensures kept (fun _ _ => True) world := by
  refine meets_update ?_
  rintro _ rfl
  exact ⟨trivial, measured, fun _ _ => trivial⟩

end World

end Syndication
