import Syndication.Collaborator.Basic
import Syndication.Json.Basic
import Syndication.Url.Basic

/-!
# Requests over a network

A network takes a request and either gives a reply or loses the connection, and time
can pass on it. A request is repeated as long as the reply says that the trouble may
pass, up to a number of times. The waits between requests double up to a limit; a lost
connection is not tried again. Repetitions are counted in a word of 32 bits.

Two networks are at hand: one that reaches nobody, and one that follows a script and
keeps a transcript of what it was asked and how long it was left waiting.
-/

namespace Syndication

/-- What a request does. -/
inductive HttpMethod where
  | get
  | post
  deriving DecidableEq, Repr

/-- The name of a method. -/
def HttpMethod.name : HttpMethod → String
  | .get => "GET"
  | .post => "POST"

/-- A request to an address. -/
structure HttpRequest where
  method : HttpMethod
  url : Url
  body : Option Json

/-- A reply with its status. -/
structure HttpReply where
  status : Nat
  body : String
  deriving DecidableEq, Repr

/-- A network with a state. A request has a reply unless the connection is lost; `wait`
lets some milliseconds pass. -/
structure Network (τ : Type) where
  exchange : HttpRequest → τ → Option HttpReply × τ
  wait : Nat → τ → τ

namespace Network

variable {τ : Type}

/-- A network on which every connection is lost. -/
def unreachable : Network τ := ⟨fun _ state => (none, state), fun _ state => state⟩

/-! ## Repetition -/

/-- The first wait in milliseconds. -/
def firstWait : Nat := 500

/-- How often a wait is doubled at most. -/
def doublingsLimit : UInt32 := 6

/-- The factor of a wait after a number of repetitions. -/
def waitFactor (repetitions : UInt32) : UInt32 :=
  UInt32.pow 2 (min repetitions doublingsLimit).toNat

/-- The milliseconds to wait after a number of repetitions. -/
def waitAfter (repetitions : UInt32) : Nat := firstWait * (waitFactor repetitions).toNat

/-- True for a status that says that the request was successful. -/
def isSuccess (status : Nat) : Bool := 200 ≤ status && status < 300

/-- True for a status that may be different next time. -/
def isPassing (status : Nat) : Bool := [429, 500, 502, 503, 504].contains status

/-- A counter below a limit does not wrap around. -/
theorem toNat_succ_of_lt {done limit : UInt32} (below : done < limit) :
    (done + 1).toNat = done.toNat + 1 := by
  have bound := limit.toNat_lt
  rw [UInt32.lt_iff_toNat_lt] at below
  rw [UInt32.toNat_add, UInt32.toNat_one, Nat.mod_eq_of_lt (by omega)]

/-- Sends a request that has been repeated `done` times already, and repeats it as long as the
counter is below the limit. -/
def sendAgain (network : Network τ) (request : HttpRequest) (limit done : UInt32) (state : τ) :
    Except CollaboratorError HttpReply × τ :=
  match network.exchange request state with
  | (none, after) => (.error .request, after)
  | (some reply, after) =>
    if isSuccess reply.status then (.ok reply, after)
    else if isPassing reply.status then
      if limit ≤ done then (.error (.retriesExceeded reply.status), after)
      else sendAgain network request limit (done + 1) (network.wait (waitAfter done) after)
    else (.error (.status reply.status), after)
termination_by limit.toNat - done.toNat
decreasing_by
  rename_i below
  rw [UInt32.not_le] at below
  rw [toNat_succ_of_lt below]
  rw [UInt32.lt_iff_toNat_lt] at below
  omega

/-- Sends a request and repeats it up to a number of times. -/
def send (network : Network τ) (retries : UInt32) (request : HttpRequest) :
    Attempt τ CollaboratorError HttpReply :=
  Attempt.ofRun (network.sendAgain request retries 0)

/-! ## Scripts -/

/-- What a network was asked, and for how long it was left waiting, the latest first.
Requests come with the time in milliseconds at which they arrived. -/
structure Transcript where
  sent : List (Nat × HttpRequest)
  waits : List Nat

/-- Nothing has happened. -/
def Transcript.empty : Transcript := ⟨[], []⟩

/-- The time that has passed in milliseconds. -/
def Transcript.now (transcript : Transcript) : Nat := transcript.waits.foldl Nat.add 0

/-- A network on which the outcome of each request is told by its number. -/
def scripted (outcome : Nat → Option HttpReply) : Network Transcript where
  exchange request transcript :=
    (outcome transcript.sent.length,
      { transcript with sent := (transcript.now, request) :: transcript.sent })
  wait milliseconds transcript := { transcript with waits := milliseconds :: transcript.waits }

end Network

end Syndication
