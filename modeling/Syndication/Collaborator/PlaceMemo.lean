import Syndication.Collaborator.Basic

/-!
# Remembering places

A geocoder is asked once for each place: its successful answers are remembered by
the coordinates rounded to a millionth of a degree. Failures are not remembered, so
the next question for the same place is asked again.

Room for a number of places can be set; the memo below is meant for runs that stay
within it and never forgets.
-/

namespace Syndication

/-- Coordinates in millionths of a degree. -/
abbrev PlaceKey := Int64 × Int64

/-- A coordinate in millionths of a degree: the product is rounded to a floating point
number, and that to the nearest integer, away from zero on a tie. NaN is taken for zero. -/
def microdegrees (coordinate : Binary64) : Int64 :=
  (coordinate.mul (Binary64.ofNat 1000000)).toInt64Away

/-- The key under which a place is remembered. -/
def placeKey (latitude longitude : Binary64) : PlaceKey :=
  (microdegrees latitude, microdegrees longitude)

/-- Places remembered, and how often the memo could and could not answer. -/
structure PlaceMemo where
  places : List (PlaceKey × String)
  hits : Nat
  misses : Nat

namespace PlaceMemo

/-- Nothing is remembered. -/
def empty : PlaceMemo := ⟨[], 0, 0⟩

/-- The place remembered under a key. -/
def find? (memo : PlaceMemo) (key : PlaceKey) : Option String := memo.places.lookup key

/-- Remembers a place in front of the others. -/
def remember (memo : PlaceMemo) (key : PlaceKey) (placeId : String) : PlaceMemo :=
  { memo with places := (key, placeId) :: memo.places }

end PlaceMemo

/-- A geocoder that asks another one only for places it does not remember. -/
def Geocoder.memoized {γ : Type} (inner : Geocoder γ) : Geocoder (PlaceMemo × γ) :=
  fun latitude longitude => Attempt.ofRun fun (memo, state) =>
    let key := placeKey latitude longitude
    match memo.find? key with
    | some placeId => (.ok placeId, { memo with hits := memo.hits + 1 }, state)
    | none =>
      let missed := { memo with misses := memo.misses + 1 }
      match (inner latitude longitude).runOn state with
      | (.ok placeId, after) => (.ok placeId, missed.remember key placeId, after)
      | (.error setback, after) => (.error setback, missed, after)

end Syndication
