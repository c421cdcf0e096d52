import Mathlib.Algebra.GroupWithZero.Nat
import Mathlib.Order.Bounds.Basic
import Mathlib.Order.Nat
import Syndication.Collaborator.Network

/-!
# Repeated requests

A request over a scripted network is sent until its outcome concludes, or until the repetitions are
used up. What the network did is one transcript, told by the number of repetitions alone: the same
request again and again, and a pause before each repetition that doubles up to a limit.

The number of repetitions is counted in a word, and so is the factor of a pause. Neither wraps
around, whatever the limit.
-/

namespace Syndication

namespace Network

/-- An outcome that is not tried again: a lost connection, a success, or a status that says that the
trouble will not pass. -/
def Concludes : Option HttpReply → Prop
  | none => True
  | some reply => (200 ≤ reply.status ∧ reply.status < 300) ∨
      reply.status ∉ [429, 500, 502, 503, 504]

/-- What is made of the last outcome of a request. -/
def verdict : Option HttpReply → Except CollaboratorError HttpReply
  | none => .error .request
  | some reply =>
    if 200 ≤ reply.status ∧ reply.status < 300 then .ok reply
    else if reply.status ∈ [429, 500, 502, 503, 504] then .error (.retriesExceeded reply.status)
    else .error (.status reply.status)

/-- The status of an outcome that is tried again. -/
theorem not_concludes_iff {reply : HttpReply} : ¬ Concludes (some reply) ↔
    ¬ (200 ≤ reply.status ∧ reply.status < 300) ∧ reply.status ∈ [429, 500, 502, 503, 504] := by
  rw [Concludes, not_or, not_not]

/-- A status of success lies between two bounds. -/
theorem isSuccess_iff (status : Nat) : isSuccess status = true ↔ 200 ≤ status ∧ status < 300 := by
  rw [isSuccess, Bool.and_eq_true, decide_eq_true_iff, decide_eq_true_iff]

/-- A passing status is one of a list. -/
theorem isPassing_iff (status : Nat) :
    isPassing status = true ↔ status ∈ [429, 500, 502, 503, 504] := by
  rw [isPassing, List.contains_iff_mem]

/-- The milliseconds before a repetition, counted from zero. -/
def pause (repetition : Nat) : Nat := 500 * 2 ^ min repetition 6

/-- The numbers of requests at which sending may end: one more than the repetitions, or as many as
it takes to an outcome that concludes. -/
def endings (outcomes : Nat → Option HttpReply) (retries : UInt32) : Set Nat :=
  {number | number = retries.toNat + 1 ∨ ∃ place, number = place + 1 ∧ Concludes (outcomes place)}

/-- There is a least such number, and it is not zero. -/
theorem exists_least_ending (outcomes : Nat → Option HttpReply) (retries : UInt32) :
    ∃ more, IsLeast (endings outcomes retries) (more + 1) := by
  classical
  have ends : ∃ number, number ∈ endings outcomes retries := ⟨_, .inl rfl⟩
  have least : IsLeast (endings outcomes retries) (Nat.find ends) :=
    ⟨Nat.find_spec ends, fun _ member => Nat.find_min' ends member⟩
  obtain ⟨more, positive⟩ : ∃ more, Nat.find ends = more + 1 := by
    rcases least.1 with used | ⟨place, last, -⟩
    · exact ⟨_, used⟩
    · exact ⟨_, last⟩
  exact ⟨more, positive ▸ least⟩

/-! ## Words -/

/-- The factor of a pause is a small power. -/
theorem toNat_waitFactor (repetitions : UInt32) :
    (waitFactor repetitions).toNat = 2 ^ min repetitions.toNat 6 := by
  have small : ∀ exponent ≤ 6, (UInt32.pow 2 exponent).toNat = 2 ^ exponent := by decide
  have limit : (min repetitions doublingsLimit).toNat = min repetitions.toNat 6 :=
    UInt32.toNat_min repetitions doublingsLimit
  rw [waitFactor, limit, small _ (min_le_right _ _)]

/-- The wait after a number of repetitions is the pause before the next one. -/
theorem waitAfter_eq_pause (repetitions : UInt32) :
    waitAfter repetitions = pause repetitions.toNat := by
  rw [waitAfter, toNat_waitFactor]
  rfl

/-! ## Transcripts -/

namespace Transcript

/-- A request is sent. -/
def asked (transcript : Transcript) (request : HttpRequest) : Transcript :=
  { transcript with sent := (transcript.now, request) :: transcript.sent }

/-- Time passes. -/
def rested (transcript : Transcript) (milliseconds : Nat) : Transcript :=
  { transcript with waits := milliseconds :: transcript.waits }

/-- A request is sent, and repeated `more` times after it was repeated `done` times already. -/
def repeated (request : HttpRequest) : (done more : Nat) → Transcript → Transcript
  | _, 0, transcript => transcript.asked request
  | done, more + 1, transcript =>
    repeated request (done + 1) more ((transcript.asked request).rested (pause done))

/-- The time of a pause is added to what has passed. -/
theorem now_rested (transcript : Transcript) (request : HttpRequest) (milliseconds : Nat) :
    ((transcript.asked request).rested milliseconds).now = transcript.now + milliseconds := by
  have total : ∀ waits : List Nat, waits.foldl Nat.add 0 = waits.sum := fun waits =>
    List.sum_eq_foldl.symm
  simp only [now, rested, asked, total, List.sum_cons, Nat.add_comm]

variable (request : HttpRequest) (done more : Nat) (transcript : Transcript)

/-- There is one pause before each repetition. -/
theorem waits_repeated : (transcript.repeated request done more).waits =
    ((List.range' done more).map pause).reverse ++ transcript.waits := by
  induction more generalizing done transcript with
  | zero => rfl
  | succ more inductionHypothesis =>
    rw [repeated, inductionHypothesis, List.range'_succ]
    simp [rested, asked]

/-- There is one request more than there are repetitions, and each arrives when the pauses before it
have passed. -/
theorem sent_repeated : (transcript.repeated request done more).sent =
    ((List.range (more + 1)).map fun place =>
      (transcript.now + ((List.range' done place).map pause).sum, request)).reverse ++
        transcript.sent := by
  induction more generalizing done transcript with
  | zero => simp [repeated, asked]
  | succ more inductionHypothesis =>
    rw [repeated, inductionHypothesis, now_rested, List.range_succ_eq_map (n := more + 1)]
    simp [rested, asked, List.range'_succ, Function.comp_def, Nat.add_assoc]

end Transcript

/-! ## Requests -/

section Requests

variable {outcome : Nat → Option HttpReply} {request : HttpRequest} {retries : UInt32}

/-- A request is not repeated if its outcome concludes or if the repetitions are used up. -/
theorem sendAgain_last {done : UInt32} {transcript : Transcript}
    (last : Concludes (outcome transcript.sent.length) ∨ retries ≤ done) :
    (scripted outcome).sendAgain request retries done transcript =
      (verdict (outcome transcript.sent.length), transcript.asked request) := by
  rw [sendAgain]
  simp only [scripted]
  cases answered : outcome transcript.sent.length with
  | none => rfl
  | some reply =>
    rw [answered] at last
    simp only [isSuccess_iff, isPassing_iff, verdict]
    split
    · rfl
    split
    case isTrue failed passing =>
      rw [if_pos (last.resolve_left (not_concludes_iff.mpr ⟨failed, passing⟩))]
      rfl
    case isFalse => rfl

/-- A request is repeated after a pause if its outcome does not conclude and repetitions are
left. -/
theorem sendAgain_next {done : UInt32} {transcript : Transcript}
    (passing : ¬ Concludes (outcome transcript.sent.length)) (below : done < retries) :
    (scripted outcome).sendAgain request retries done transcript =
      (scripted outcome).sendAgain request retries (done + 1)
        ((transcript.asked request).rested (pause done.toNat)) := by
  rw [sendAgain]
  simp only [scripted]
  cases answered : outcome transcript.sent.length with
  | none => exact absurd (answered ▸ trivial) passing
  | some reply =>
    rw [answered, not_concludes_iff] at passing
    obtain ⟨failed, passing⟩ := passing
    simp only [isSuccess_iff, isPassing_iff]
    rw [if_neg failed, if_pos passing, if_neg (UInt32.not_le.mpr below), waitAfter_eq_pause]
    rfl

/-- A request is repeated until an outcome concludes or the repetitions are used up.

Induct over the repetitions to come. With each of them the counter and the number of requests sent
grow by one, so that the outcomes keep their places. -/
theorem sendAgain_scripted {done : UInt32} {more : Nat} {transcript : Transcript}
    (passing : ∀ place < more, ¬ Concludes (outcome (transcript.sent.length + place)))
    (within : done.toNat + more ≤ retries.toNat)
    (last : Concludes (outcome (transcript.sent.length + more)) ∨
      retries.toNat ≤ done.toNat + more) :
    (scripted outcome).sendAgain request retries done transcript =
      (verdict (outcome (transcript.sent.length + more)),
        transcript.repeated request done.toNat more) := by
  induction more generalizing done transcript with
  | zero => exact sendAgain_last (last.imp id UInt32.le_iff_toNat_le.mpr)
  | succ more inductionHypothesis =>
    have below : done < retries := UInt32.lt_iff_toNat_lt.mpr (by omega)
    have counted := toNat_succ_of_lt below
    have later : ∀ place, ((transcript.asked request).rested (pause done.toNat)).sent.length +
        place = transcript.sent.length + (place + 1) := by
      intro place
      simp only [Transcript.rested, Transcript.asked, List.length_cons]
      omega
    rw [sendAgain_next (passing 0 (Nat.succ_pos more)) below, inductionHypothesis, later, counted]
    · rfl
    · intro place before
      rw [later]
      exact passing (place + 1) (Nat.succ_lt_succ before)
    · omega
    · rw [later]
      exact last.imp id fun used => by omega

/-- A request ends with the least number of requests at which it may. -/
theorem runOn_send {more : Nat} (before : Transcript)
    (least : IsLeast (endings (fun place => outcome (before.sent.length + place)) retries)
      (more + 1)) :
    ((scripted outcome).send retries request).runOn before =
      (verdict (outcome (before.sent.length + more)), before.repeated request 0 more) := by
  rw [send, Attempt.runOn_ofRun]
  refine sendAgain_scripted ?_ ?_ ?_
  · intro place earlier concludes
    have atMost : more + 1 ≤ place + 1 := least.2 (.inr ⟨place, rfl, concludes⟩)
    omega
  · have atMost : more + 1 ≤ retries.toNat + 1 := least.2 (.inl rfl)
    simpa using atMost
  · rcases least.1 with used | ⟨place, last, concludes⟩
    · exact .inr (by simpa using used.ge)
    · obtain rfl : more = place := by omega
      exact .inl concludes

/-- Sending a request follows its policy, whatever the outcomes and the limit. The number of
requests is the least one that either exhausts the repetitions or reaches an outcome that concludes,
and the last outcome decides. The same request is sent each time, and there are pauses in between,
one less than requests, each doubled up to six times.

The counter of the repetitions does not wrap around below the limit, and no factor of a pause wraps
around. -/
theorem send_follows_policy (outcome : Nat → Option HttpReply) (retries : UInt32)
    (request : HttpRequest) (before : Transcript) :
    let outcomes := fun place => outcome (before.sent.length + place)
    (∃ count after,
      IsLeast (endings outcomes retries) count ∧
      ((scripted outcome).send retries request).runOn before =
        (verdict (outcomes (count - 1)), after) ∧
      after.waits = ((List.range (count - 1)).map pause).reverse ++ before.waits ∧
      after.sent = ((List.range count).map fun place =>
        (before.now + ((List.range place).map pause).sum, request)).reverse ++ before.sent) ∧
    (∀ done < retries, (done + 1).toNat = done.toNat + 1) ∧
    (∀ done, (waitFactor done).toNat = 2 ^ min done.toNat 6 ∧
      waitAfter done = pause done.toNat ∧ waitAfter done ≤ 32000) := by
  intro outcomes
  refine ⟨?_, fun done below => toNat_succ_of_lt below, fun done =>
    ⟨toNat_waitFactor done, waitAfter_eq_pause done, ?_⟩⟩
  · obtain ⟨more, least⟩ := exists_least_ending outcomes retries
    refine ⟨more + 1, before.repeated request 0 more, least, runOn_send before least, ?_, ?_⟩
    · rw [Transcript.waits_repeated, List.range_eq_range']
      rfl
    · simp only [Transcript.sent_repeated, List.range_eq_range']
  · have doublings : 2 ^ min done.toNat 6 ≤ 2 ^ 6 :=
      Nat.pow_le_pow_right (by decide) (min_le_right _ _)
    rw [waitAfter_eq_pause, pause]
    omega

end Requests

end Network

namespace Tour

/-- A request without a body. -/
def inquiry : HttpRequest := ⟨.get, ⟨"http", none, .segments ["place-id"], none, none⟩, none⟩

/-- Outcomes of which the first two may pass, and the third is a success. -/
def busyTwice : Nat → Option HttpReply
  | 0 => some ⟨503, ""⟩
  | 1 => some ⟨429, ""⟩
  | _ => some ⟨200, "found"⟩

/-- The inquiry is sent three times, after pauses of half a second and a second. -/
theorem inquiry_sent_until_found :
    ∃ after, ((Network.scripted busyTwice).send 5 inquiry).runOn .empty =
        (.ok ⟨200, "found"⟩, after) ∧
      after.waits = [1000, 500] ∧
      after.sent = [(1500, inquiry), (500, inquiry), (0, inquiry)] := by
  obtain ⟨⟨count, after, least, ran, waits, sent⟩, -⟩ :=
    Network.send_follows_policy busyTwice 5 inquiry .empty
  have third : IsLeast (Network.endings (fun place => busyTwice (0 + place)) 5) 3 := by
    refine ⟨.inr ⟨2, rfl, .inl (by decide)⟩, ?_⟩
    rintro _ (rfl | ⟨place, rfl, concludes⟩)
    · decide
    match place, concludes with
    | 0, concludes => exact absurd concludes (Network.not_concludes_iff.mpr (by decide))
    | 1, concludes => exact absurd concludes (Network.not_concludes_iff.mpr (by decide))
    | place + 2, _ => omega
  obtain rfl : count = 3 := least.unique third
  exact ⟨after, ran, waits, sent⟩

end Tour

end Syndication
