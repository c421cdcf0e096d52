/-!
# Publication status of a product

A product is published in three stages: the view, the images and the content, each
needing the one before it. The status records how far a product has come, and a
product whose catalog entry changed after it was partly published starts over while
the version last published is remembered.

Completion flags per stage are read off the status, so a later stage is never
complete without the earlier ones. Completing a stage twice is harmless; completing
one whose prerequisite is missing is refused.
-/

namespace Syndication

/-- The stages of publication, in order. -/
inductive Stage where
  | view
  | image
  | content
  deriving DecidableEq, Repr, Inhabited

namespace Stage

/-- Every stage, in order. -/
def all : List Stage := [.view, .image, .content]

/-- The name of a stage. -/
def name : Stage → String
  | .view => "view"
  | .image => "image"
  | .content => "content"

/-- The stage with a name. -/
def ofName? (name : String) : Option Stage := all.find? fun stage => stage.name == name

/-- The name of the completion flag of a stage. -/
def flagName : Stage → String
  | .view => "viewScheduleStatus"
  | .image => "imageScheduleStatus"
  | .content => "contentScheduleStatus"

/-- The stage that has to be complete before this one may run. -/
def prerequisite : Stage → Option Stage
  | .view => none
  | .image => some .view
  | .content => some .image

/-- The position of a stage, counted from one. -/
def position : Stage → Nat
  | .view => 1
  | .image => 2
  | .content => 3

end Stage

/-- How far the publication of a product has come. -/
inductive SyncStatus where
  | pending
  | viewReady
  | imageReady
  | contentSynced
  /-- The catalog entry changed after it was at least partly published. -/
  | needsResync (previousVersion : Int32)
  deriving DecidableEq, Repr, Inhabited

/-- A refused completion: the stage, and the status it does not follow. -/
structure TransitionError where
  stage : Stage
  status : SyncStatus
  deriving DecidableEq, Repr

namespace SyncStatus

/-- How many stages are complete. -/
def completed : SyncStatus → Nat
  | .pending => 0
  | .needsResync _ => 0
  | .viewReady => 1
  | .imageReady => 2
  | .contentSynced => 3

/-- The status in which a stage is the last complete one. -/
def after : Stage → SyncStatus
  | .view => .viewReady
  | .image => .imageReady
  | .content => .contentSynced

/-- The completion flag of a stage. -/
def isComplete (status : SyncStatus) (stage : Stage) : Bool := stage.position ≤ status.completed

/-- True when a stage is still to run and its prerequisite, if any, is complete. -/
def isReadyFor (status : SyncStatus) (stage : Stage) : Bool :=
  !status.isComplete stage && stage.prerequisite.all fun earlier => status.isComplete earlier

/-- The status after a stage is completed. A stage that was complete already changes
nothing. -/
def complete (status : SyncStatus) (stage : Stage) : Except TransitionError SyncStatus :=
  if status.isComplete stage then .ok status
  else if status.isReadyFor stage then .ok (after stage)
  else .error ⟨stage, status⟩

/-- The status after the catalog entry changed. A product that was never published stays
pending, and one that waits to be published again keeps the version it remembers. -/
def resync (status : SyncStatus) (previousVersion : Int32) : SyncStatus :=
  match status with
  | .pending => .pending
  | .needsResync earlier => .needsResync earlier
  | _ => .needsResync previousVersion

/-- The status as messages show it. -/
def description : SyncStatus → String
  | .pending => "Pending"
  | .viewReady => "ViewReady"
  | .imageReady => "ImageReady"
  | .contentSynced => "ContentSynced"
  | .needsResync version =>
    "NeedsResync \x7b previous_version: " ++ toString version.toInt ++ " \x7d"

end SyncStatus

/-- The message of a refused completion. -/
def TransitionError.message (error : TransitionError) : String :=
  "cannot complete the " ++ error.stage.name ++ " stage from status " ++ error.status.description

end Syndication
