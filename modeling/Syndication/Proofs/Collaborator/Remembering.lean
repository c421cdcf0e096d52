import Mathlib.Data.List.Nodup
import Syndication.Collaborator.PlaceMemo

/-!
# A geocoder behind a memo

A geocoder is asked for places one after the other, and a memo stands in front of it. To tell what
comes through to the geocoder, it is given a log of its own exchanges. Whatever state it keeps and
however often it fails, the memo passes on exactly the questions whose key has had no success yet,
and answers the others with the first success.

So a geocoder that answers by the key gives the same answers with and without the memo, and it never
succeeds twice for one key.
-/

namespace Syndication

open Attempt

/-- A coordinate that is not a number has the key of the coordinate zero. -/
theorem microdegrees_of_isNaN {coordinate : Binary64} (notANumber : coordinate.isNaN = true) :
    microdegrees coordinate = 0 := by
  have product : coordinate.mul (.ofNat 1000000) = .nan := by simp [Binary64.mul, notANumber]
  rw [microdegrees, product]
  decide +kernel

/-- A question for a place, by its coordinates, and the answer to it. -/
structure PlaceExchange where
  question : Binary64 × Binary64
  answer : Except Setback String

/-- The key of the coordinates that were asked for. -/
def PlaceExchange.key (exchange : PlaceExchange) : PlaceKey :=
  placeKey exchange.question.1 exchange.question.2

/-- The place of an exchange, if it was successful. -/
def PlaceExchange.place? (exchange : PlaceExchange) : Option String := exchange.answer.toOption

/-- The place of the first successful exchange for a key. -/
def firstPlace? (exchanges : List PlaceExchange) (key : PlaceKey) : Option String :=
  exchanges.findSome? fun exchange => if exchange.key = key then exchange.place? else none

namespace Geocoder

variable {γ : Type}

/-- A geocoder that keeps a log of its exchanges. -/
def logged (inner : Geocoder γ) : Geocoder (List PlaceExchange × γ) :=
  fun latitude longitude => Attempt.ofRun fun (log, state) =>
    let (answer, after) := (inner latitude longitude).runOn state
    (answer, log ++ [⟨(latitude, longitude), answer⟩], after)

/-- The exchanges with a geocoder that is asked some questions one after the other, and the state
that they leave. -/
def askAll (geocoder : Geocoder γ) :
    List (Binary64 × Binary64) → γ → List PlaceExchange × γ
  | [], state => ([], state)
  | question :: rest, state =>
    let (answer, after) := (geocoder question.1 question.2).runOn state
    let (exchanges, last) := askAll geocoder rest after
    (⟨question, answer⟩ :: exchanges, last)

/-- Two lists of questions are asked in turn. -/
theorem askAll_append (geocoder : Geocoder γ) (first second : List (Binary64 × Binary64))
    (state : γ) :
    geocoder.askAll (first ++ second) state =
      let middle := (geocoder.askAll first state).2
      ((geocoder.askAll first state).1 ++ (geocoder.askAll second middle).1,
        (geocoder.askAll second middle).2) := by
  induction first generalizing state with
  | nil => rfl
  | cons question rest inductionHypothesis =>
    simp only [List.cons_append, askAll, inductionHypothesis]

/-- What holds at first and is kept by each question holds after any questions. -/
theorem askAll_induction (geocoder : Geocoder γ) {motive : List PlaceExchange → γ → Prop}
    (start : γ) (first : motive [] start)
    (next : ∀ past question state answer after, motive past state →
      (geocoder question.1 question.2).runOn state = (answer, after) →
      motive (past ++ [⟨question, answer⟩]) after)
    (questions : List (Binary64 × Binary64)) :
    motive (geocoder.askAll questions start).1 (geocoder.askAll questions start).2 := by
  suffices onward : ∀ past state, motive past state →
      motive (past ++ (geocoder.askAll questions state).1) (geocoder.askAll questions state).2 from
    onward [] start first
  induction questions with
  | nil =>
    intro past state holds
    simpa [askAll] using holds
  | cons question rest inductionHypothesis =>
    intro past state holds
    simpa [askAll] using inductionHypothesis _ _ (next past question state _ _ holds rfl)

/-- The exchanges are about the questions that were asked. -/
theorem questions_askAll (geocoder : Geocoder γ) (questions : List (Binary64 × Binary64))
    (state : γ) :
    (geocoder.askAll questions state).1.map PlaceExchange.question = questions := by
  induction questions generalizing state with
  | nil => rfl
  | cons question rest inductionHypothesis => simp [askAll, inductionHypothesis]

/-- Exchanges whose answers are told by their keys depend on the questions only. -/
theorem askAll_eq_map {geocoder : Geocoder γ} {questions : List (Binary64 × Binary64)} {state : γ}
    {answer : PlaceKey → Except Setback String}
    (told : ∀ exchange ∈ (geocoder.askAll questions state).1,
      exchange.answer = answer exchange.key) :
    (geocoder.askAll questions state).1 =
      questions.map fun question => ⟨question, answer (placeKey question.1 question.2)⟩ := by
  calc (geocoder.askAll questions state).1
    _ = (geocoder.askAll questions state).1.map
          fun exchange => ⟨exchange.question, answer exchange.key⟩ := by
      conv_lhs => rw [← List.map_id (geocoder.askAll questions state).1]
      refine List.map_congr_left fun exchange member => ?_
      rw [← told exchange member]
      rfl
    _ = _ := by
      conv_rhs => rw [← geocoder.questions_askAll questions state, List.map_map]
      rfl

/-- A geocoder whose answer is told by the key gives such answers one after the other. -/
theorem askAll_answers (geocoder : Geocoder γ) {answer : PlaceKey → Except Setback String}
    (byKey : ∀ latitude longitude state,
      ((geocoder latitude longitude).runOn state).1 = answer (placeKey latitude longitude))
    (questions : List (Binary64 × Binary64)) (start : γ) :
    ∀ exchange ∈ (geocoder.askAll questions start).1, exchange.answer = answer exchange.key := by
  refine geocoder.askAll_induction start
    (motive := fun past _ => ∀ exchange ∈ past, exchange.answer = answer exchange.key)
    nofun ?_ questions
  intro past question state given after told ran
  have toldNow := byKey question.1 question.2 state
  rw [ran] at toldNow
  exact List.forall_mem_append.mpr ⟨told, List.forall_mem_singleton.mpr toldNow⟩

/-- The log changes nothing for those who ask behind a memo. -/
theorem askAll_memoized_logged (inner : Geocoder γ) (questions : List (Binary64 × Binary64))
    (memo : PlaceMemo) (log : List PlaceExchange) (state : γ) :
    inner.memoized.askAll questions (memo, state) =
      let (exchanges, later, _, after) :=
        inner.logged.memoized.askAll questions (memo, log, state)
      (exchanges, later, after) := by
  induction questions generalizing memo log state with
  | nil => rfl
  | cons question rest inductionHypothesis =>
    have asked : ∃ answer later logLater after,
        (inner.memoized question.1 question.2).runOn (memo, state) = (answer, later, after) ∧
        (inner.logged.memoized question.1 question.2).runOn (memo, log, state) =
          (answer, later, logLater, after) := by
      simp only [memoized, logged, runOn_ofRun]
      cases memo.find? (placeKey question.1 question.2) with
      | some placeId => exact ⟨_, _, _, _, rfl, rfl⟩
      | none =>
        rcases (inner question.1 question.2).runOn state with ⟨setback | placeId, after⟩
        · exact ⟨_, _, _, _, rfl, rfl⟩
        · exact ⟨_, _, _, _, rfl, rfl⟩
    obtain ⟨answer, later, logLater, after, ran, ran'⟩ := asked
    simp only [askAll, ran, ran', inductionHypothesis later logLater after]

end Geocoder

/-! ## First successes -/

section FirstPlace

variable {past : List PlaceExchange} {exchange : PlaceExchange} {key : PlaceKey} {placeId : String}

/-- There is no first success where no exchange for the key succeeded. -/
theorem firstPlace?_eq_none_iff : firstPlace? past key = none ↔
    ∀ exchange ∈ past, exchange.key = key → ∀ placeId, exchange.answer ≠ .ok placeId := by
  rw [firstPlace?, List.findSome?_eq_none_iff]
  refine forall₂_congr fun exchange _ => ?_
  by_cases same : exchange.key = key
  · simp only [same, if_true, PlaceExchange.place?, forall_const]
    cases exchange.answer <;> simp [Except.toOption]
  · simp [same]

/-- A first success is the answer of an exchange for the key. -/
theorem mem_of_firstPlace? (found : firstPlace? past key = some placeId) :
    ∃ exchange ∈ past, exchange.key = key ∧ exchange.answer = .ok placeId := by
  obtain ⟨exchange, member, place⟩ := List.exists_of_findSome?_eq_some found
  split at place
  case isTrue same =>
    refine ⟨exchange, member, same, ?_⟩
    cases answered : exchange.answer with
    | error => simp [PlaceExchange.place?, answered, Except.toOption] at place
    | ok =>
      rw [PlaceExchange.place?, answered] at place
      exact congrArg Except.ok (Option.some.inj place)
  case isFalse => exact nomatch place

/-- One more exchange makes a difference to its own key only, and only if there was no success for
it before. -/
theorem firstPlace?_append : firstPlace? (past ++ [exchange]) key =
    (firstPlace? past key).or (if exchange.key = key then exchange.place? else none) := by
  rw [firstPlace?, List.findSome?_append]
  simp [firstPlace?]

/-- A success that repeats the first one changes nothing. -/
theorem firstPlace?_again (found : firstPlace? past exchange.key = some placeId)
    (again : exchange.answer = .ok placeId) :
    firstPlace? (past ++ [exchange]) key = firstPlace? past key := by
  rw [firstPlace?_append]
  split
  case isTrue same =>
    rw [← same, found, PlaceExchange.place?, again]
    rfl
  case isFalse => rw [Option.or_none]

end FirstPlace

/-! ## One question -/

section Question

variable {γ : Type} {inner : Geocoder γ} {question : Binary64 × Binary64} {memo : PlaceMemo}
  {state : γ}

/-- What asking a geocoder behind a memo can lead to: an answer, and the memo and state left. -/
inductive MemoOutcome (inner : Geocoder γ) (question : Binary64 × Binary64) (memo : PlaceMemo)
    (state : γ) : Except Setback String × PlaceMemo × γ → Prop
  /-- The memo has the place, and nobody is asked. -/
  | remembered (placeId : String) (later : PlaceMemo)
      (found : memo.find? (placeKey question.1 question.2) = some placeId)
      (same : ∀ key, later.find? key = memo.find? key) :
      MemoOutcome inner question memo state (.ok placeId, later, state)
  /-- The geocoder is asked. A place that it finds is remembered under its key. -/
  | asked (answer : Except Setback String) (later : PlaceMemo) (after : γ)
      (unknown : memo.find? (placeKey question.1 question.2) = none)
      (ran : (inner question.1 question.2).runOn state = (answer, after))
      (learned : ∀ key, later.find? key = (memo.find? key).or
        (if placeKey question.1 question.2 = key then answer.toOption else none)) :
      MemoOutcome inner question memo state (answer, later, after)

/-- What is remembered answers for its own key, and for others what was there answers. -/
theorem PlaceMemo.find?_remember (memo : PlaceMemo) (key other : PlaceKey) (placeId : String) :
    (memo.remember key placeId).find? other =
      if key = other then some placeId else memo.find? other := by
  rw [remember, find?, List.lookup_cons]
  by_cases same : key = other
  · simp [same]
  · simp [beq_false_of_ne (Ne.symm same), same, find?]

/-- A question has one of these outcomes. -/
theorem memo_outcome (inner : Geocoder γ) (question : Binary64 × Binary64) (memo : PlaceMemo)
    (state : γ) : MemoOutcome inner question memo state
      ((inner.memoized question.1 question.2).runOn (memo, state)) := by
  rw [Geocoder.memoized, runOn_ofRun]
  cases found : memo.find? (placeKey question.1 question.2) with
  | some placeId =>
    simp only [found]
    exact .remembered placeId _ found fun _ => rfl
  | none =>
    simp only [found]
    rcases ran : (inner question.1 question.2).runOn state with ⟨setback | placeId, after⟩
    · refine .asked _ _ after found ran fun key => ?_
      show memo.find? key = _
      simp [Except.toOption]
    · refine .asked _ _ after found ran fun key => ?_
      rw [PlaceMemo.find?_remember]
      show (if _ then _ else memo.find? key) = _
      split
      case isTrue same => simp [← same, found, Except.toOption]
      case isFalse => simp

end Question

/-! ## Any questions -/

section Questions

variable {γ : Type} {inner : Geocoder γ} {start state : γ} {past log : List PlaceExchange}
  {memo : PlaceMemo}

/-- What a memo and the geocoder behind it stand for after some exchanges: the memo has the first
success for each key, the geocoder has been asked what is in its log and nothing else, and its
successes have different keys, all of them with a first success. -/
structure Remembers (inner : Geocoder γ) (start : γ) (past : List PlaceExchange)
    (memo : PlaceMemo) (log : List PlaceExchange) (state : γ) : Prop where
  first : ∀ key, memo.find? key = firstPlace? past key
  own : inner.askAll (log.map PlaceExchange.question) start = (log, state)
  once : ((log.filter fun exchange => exchange.place?.isSome).map PlaceExchange.key).Nodup
  known : ∀ exchange ∈ log, exchange.place?.isSome = true →
    (firstPlace? past exchange.key).isSome = true

/-- Nothing is known at first. -/
theorem remembers_nothing : Remembers inner start [] PlaceMemo.empty [] start where
  first _ := rfl
  own := rfl
  once := List.nodup_nil
  known := nofun

/-- A question that the memo answers leaves everything as it is. -/
theorem Remembers.hit (remembers : Remembers inner start past memo log state)
    {question : Binary64 × Binary64} {placeId : String} {later : PlaceMemo}
    (found : firstPlace? past (placeKey question.1 question.2) = some placeId)
    (same : ∀ key, later.find? key = memo.find? key) :
    Remembers inner start (past ++ [⟨question, .ok placeId⟩]) later log state := by
  have unchanged : ∀ key, firstPlace? (past ++ [⟨question, .ok placeId⟩]) key =
      firstPlace? past key := fun _ => firstPlace?_again found rfl
  exact {
    first := fun key => by rw [same, remembers.first, unchanged]
    own := remembers.own
    once := remembers.once
    known := fun exchange member success => by
      rw [unchanged]
      exact remembers.known exchange member success }

/-- A question that the memo passes on is logged, and a success is remembered. It is the only one
for its key, as any other would be known. -/
theorem Remembers.miss (remembers : Remembers inner start past memo log state)
    {question : Binary64 × Binary64} {answer : Except Setback String} {later : PlaceMemo}
    {after : γ} (unknown : firstPlace? past (placeKey question.1 question.2) = none)
    (answered : (inner question.1 question.2).runOn state = (answer, after))
    (learned : ∀ key, later.find? key = (memo.find? key).or
      (if placeKey question.1 question.2 = key then answer.toOption else none)) :
    Remembers inner start (past ++ [⟨question, answer⟩]) later (log ++ [⟨question, answer⟩])
      after := by
  have apart : ∀ exchange ∈ log, exchange.place?.isSome = true →
      exchange.key ≠ placeKey question.1 question.2 := by
    intro exchange member success same
    have known := remembers.known exchange member success
    rw [same, unknown] at known
    exact nomatch known
  constructor
  case first =>
    intro key
    rw [learned, remembers.first, firstPlace?_append]
    rfl
  case own =>
    rw [List.map_append, Geocoder.askAll_append, remembers.own]
    simp [Geocoder.askAll, answered]
  case once =>
    rw [List.filter_append, List.map_append, List.nodup_append]
    refine ⟨remembers.once, ?_, ?_⟩
    · cases answer <;> simp [PlaceExchange.place?, Except.toOption]
    · rintro key earlier _ new rfl
      obtain ⟨exchange, member, same⟩ := List.mem_map.mp earlier
      obtain ⟨member, success⟩ := List.mem_filter.mp member
      obtain ⟨newest, newIn, rfl⟩ := List.mem_map.mp new
      obtain rfl := List.mem_singleton.mp (List.mem_of_mem_filter newIn)
      exact apart exchange member success same
  case known =>
    refine List.forall_mem_append.mpr ⟨?_, List.forall_mem_singleton.mpr ?_⟩
    · intro exchange earlier success
      rw [firstPlace?_append, Option.isSome_or, remembers.known exchange earlier success,
        Bool.true_or]
    · intro success
      rw [firstPlace?_append, Option.isSome_or, if_pos rfl, success, Bool.or_true]

/-- What the next question leads to. One whose key has had a success is answered with the first
place, and any other is passed on and answered by the geocoder. -/
theorem Remembers.next (remembers : Remembers inner start past memo log state)
    (question : Binary64 × Binary64) {answer : Except Setback String} {later : PlaceMemo}
    {logLater : List PlaceExchange} {after : γ}
    (ran : (inner.logged.memoized question.1 question.2).runOn (memo, log, state) =
      (answer, later, logLater, after)) :
    Remembers inner start (past ++ [⟨question, answer⟩]) later logLater after ∧
      ((∃ placeId, firstPlace? past (placeKey question.1 question.2) = some placeId ∧
          answer = .ok placeId ∧ logLater = log ∧ after = state) ∨
        firstPlace? past (placeKey question.1 question.2) = none ∧
          (inner question.1 question.2).runOn state = (answer, after) ∧
          logLater = log ++ [⟨question, answer⟩]) := by
  have outcome := memo_outcome inner.logged question memo (log, state)
  rw [ran] at outcome
  cases outcome with
  | remembered placeId _ found same =>
    rw [remembers.first] at found
    exact ⟨remembers.hit found same, .inl ⟨placeId, found, rfl, rfl, rfl⟩⟩
  | asked _ _ _ unknown asked learned =>
    rw [remembers.first] at unknown
    rw [Geocoder.logged, runOn_ofRun] at asked
    rcases answered : (inner question.1 question.2).runOn state with ⟨told, left⟩
    simp only [answered] at asked
    cases asked
    exact ⟨remembers.miss unknown answered learned, .inr ⟨unknown, rfl, rfl⟩⟩

/-- After any questions, memo and geocoder stand for all exchanges. -/
theorem remembers_askAll {calls : List (Binary64 × Binary64)}
    (asked : inner.logged.memoized.askAll calls (PlaceMemo.empty, [], start) =
      (past, memo, log, state)) : Remembers inner start past memo log state := by
  have holds := inner.logged.memoized.askAll_induction (PlaceMemo.empty, [], start)
    (motive := fun past (memo, log, state) => Remembers inner start past memo log state)
    remembers_nothing (fun _ question _ _ _ remembers ran => (remembers.next question ran).1) calls
  rwa [asked] at holds

/-- Where the answer of the geocoder is told by the key, so is the answer behind the memo: a first
success is such an answer. -/
theorem answers_of_key {calls : List (Binary64 × Binary64)}
    {answer : PlaceKey → Except Setback String}
    (byKey : ∀ latitude longitude state,
      ((inner latitude longitude).runOn state).1 = answer (placeKey latitude longitude))
    (asked : inner.logged.memoized.askAll calls (PlaceMemo.empty, [], start) =
      (past, memo, log, state)) :
    ∀ exchange ∈ past, exchange.answer = answer exchange.key := by
  have holds := inner.logged.memoized.askAll_induction (PlaceMemo.empty, [], start)
    (motive := fun past (memo, log, state) => Remembers inner start past memo log state ∧
      ∀ exchange ∈ past, exchange.answer = answer exchange.key)
    ⟨remembers_nothing, nofun⟩ ?_ calls
  · rw [asked] at holds
    exact holds.2
  intro past question state given after ⟨remembers, told⟩ ran
  obtain ⟨remembersNext, outcome⟩ := remembers.next question ran
  refine ⟨remembersNext, List.forall_mem_append.mpr ⟨told, List.forall_mem_singleton.mpr ?_⟩⟩
  rcases outcome with ⟨placeId, found, rfl, -, -⟩ | ⟨-, ran, -⟩
  · obtain ⟨first, member, same, success⟩ := mem_of_firstPlace? found
    have toldFirst := told first member
    rw [success, same] at toldFirst
    exact toldFirst
  · have toldNow := byKey question.1 question.2 state.2.2
    rw [ran] at toldNow
    exact toldNow

/-- A geocoder behind a memo is asked like the geocoder itself, only less often. After any calls
the next one reaches the geocoder exactly if no earlier call with its key was successful, and is
then answered by the geocoder; otherwise the first success for the key answers, and the geocoder is
not touched. The memo has the first success for each key and nothing for a key that only failed.

So the geocoder succeeds at most once for each key, and if its answer is told by the key, the calls
have the same answers as without the memo. -/
theorem Geocoder.memo_transparent (inner : Geocoder γ) (start : γ)
    (calls : List (Binary64 × Binary64))
    (asked : inner.logged.memoized.askAll calls (PlaceMemo.empty, [], start) =
      (past, memo, log, state)) :
    inner.memoized.askAll calls (PlaceMemo.empty, start) = (past, memo, state) ∧
      inner.askAll (log.map PlaceExchange.question) start = (log, state) ∧
      (∀ question answer later logLater after,
        (inner.logged.memoized question.1 question.2).runOn (memo, log, state) =
            (answer, later, logLater, after) →
          let key := placeKey question.1 question.2
          let unanswered := ∀ exchange ∈ past, exchange.key = key →
            ∀ placeId, exchange.answer ≠ .ok placeId
          (logLater = log ++ [⟨question, answer⟩] ↔ unanswered) ∧
            (unanswered → (inner question.1 question.2).runOn state = (answer, after)) ∧
            (¬ unanswered → logLater = log ∧ after = state ∧
              ∃ placeId, firstPlace? past key = some placeId ∧ answer = .ok placeId)) ∧
      (∀ key, memo.find? key = firstPlace? past key) ∧
      ((log.filter fun exchange => exchange.place?.isSome).map PlaceExchange.key).Nodup ∧
      (∀ answer : PlaceKey → Except Setback String,
        (∀ latitude longitude state,
          ((inner latitude longitude).runOn state).1 = answer (placeKey latitude longitude)) →
        (inner.memoized.askAll calls (PlaceMemo.empty, start)).1 =
          (inner.askAll calls start).1) := by
  have remembers := remembers_askAll asked
  have unlogged : inner.memoized.askAll calls (PlaceMemo.empty, start) = (past, memo, state) := by
    rw [inner.askAll_memoized_logged calls PlaceMemo.empty [] start, asked]
  refine ⟨unlogged, remembers.own, ?_, remembers.first, remembers.once, ?_⟩
  · intro question answer later logLater after ran key unanswered
    obtain ⟨-, outcome⟩ := remembers.next question ran
    have none_iff : firstPlace? past key = none ↔ unanswered := firstPlace?_eq_none_iff
    rcases outcome with ⟨placeId, found, told, sameLog, sameState⟩ | ⟨unknown, passedOn, grown⟩
    · have answered : ¬ unanswered := by
        rw [← none_iff]
        exact fun absent => nomatch absent.symm.trans found
      refine ⟨iff_of_false ?_ answered, fun stillOpen => absurd stillOpen answered, fun _ =>
        ⟨sameLog, sameState, placeId, found, told⟩⟩
      rw [sameLog]
      simp
    · have stillOpen := none_iff.mp unknown
      exact ⟨iff_of_true grown stillOpen, fun _ => passedOn, fun answered =>
        absurd stillOpen answered⟩
  · intro answer byKey
    have told := answers_of_key byKey asked
    calc (inner.memoized.askAll calls (PlaceMemo.empty, start)).1
      _ = calls.map fun question => ⟨question, answer (placeKey question.1 question.2)⟩ := by
        refine Geocoder.askAll_eq_map ?_
        rw [unlogged]
        exact told
      _ = (inner.askAll calls start).1 :=
        (Geocoder.askAll_eq_map (inner.askAll_answers byKey calls start)).symm

end Questions

namespace Tour

/-- A geocoder that knows the place at the origin and counts what it is asked. -/
def atOrigin : Geocoder Nat :=
  fun latitude longitude => Attempt.ofRun fun count =>
    (if placeKey latitude longitude = (0, 0) then .ok "origin" else .error (.error .request),
      count + 1)

/-- The coordinates of the origin. -/
def here : Binary64 × Binary64 := (.ofNat 0, .ofNat 0)

/-- Some other coordinates. -/
def there : Binary64 × Binary64 := (.ofNat 0, .ofNat 1)

/-- Coordinates without a latitude. -/
def nowhere : Binary64 × Binary64 := (.nan, .ofNat 0)

/-- The origin is known from its first success on, also for coordinates with its key that are not
numbers, and the geocoder is asked again for what only failed: of five calls three come through, and
the answers are the same as without the memo. -/
theorem memo_at_origin :
    let calls := [there, here, there, here, nowhere]
    let failed : PlaceExchange := ⟨there, .error (.error .request)⟩
    let found : PlaceExchange := ⟨here, .ok "origin"⟩
    (∃ memo, atOrigin.memoized.askAll calls (PlaceMemo.empty, 0) =
        ([failed, found, failed, found, ⟨nowhere, .ok "origin"⟩], memo, 3) ∧
      memo.find? (0, 0) = some "origin" ∧ memo.find? (0, 1000000) = none) ∧
    atOrigin.askAll [there, here, there] 0 = ([failed, found, failed], 3) ∧
    (atOrigin.memoized.askAll calls (PlaceMemo.empty, 0)).1 = (atOrigin.askAll calls 0).1 := by
  have keyHere : placeKey here.1 here.2 = (0, 0) := by decide +kernel
  have keyThere : placeKey there.1 there.2 = (0, 1000000) := by decide +kernel
  have keyNowhere : placeKey nowhere.1 nowhere.2 = (0, 0) := by
    rw [placeKey, microdegrees_of_isNaN (by decide)]
    decide +kernel
  have unknown : ([((0, 0), "origin")] : List (PlaceKey × String)).lookup (0, 1000000) = none := by
    decide
  intro calls failed found
  have asked : ∃ memo, atOrigin.logged.memoized.askAll calls (PlaceMemo.empty, [], 0) =
      ([failed, found, failed, found, ⟨nowhere, .ok "origin"⟩], memo,
        [failed, found, failed], 3) := by
    simp [calls, Geocoder.askAll, Geocoder.memoized, Geocoder.logged, atOrigin, keyHere, keyThere,
      keyNowhere, unknown, runOn_ofRun, PlaceMemo.find?, PlaceMemo.remember, PlaceMemo.empty,
      failed, found]
  obtain ⟨memo, asked⟩ := asked
  obtain ⟨memoized, direct, -, first, -, same⟩ := atOrigin.memo_transparent 0 calls asked
  refine ⟨⟨memo, memoized, ?_⟩, direct, ?_⟩
  · simp [first, firstPlace?, PlaceExchange.key, PlaceExchange.place?, keyHere, keyThere,
      keyNowhere, failed, found, Except.toOption]
  · exact same (fun key => if key = (0, 0) then .ok "origin" else .error (.error .request))
      fun latitude longitude count => rfl

end Tour

end Syndication
