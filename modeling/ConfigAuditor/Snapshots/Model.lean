import ConfigAuditor.Errors
import ConfigAuditor.Library.Sorting
import ConfigAuditor.Library.Table
import ConfigAuditor.Library.Value
import ConfigAuditor.Training.Model

/-!
# Snapshots and their artifacts

`app.db.models.snapshot`, `app.db.models.artifact` and `app.snapshots.schemas`. An artifact
points at the snapshot it belongs to. Instants count microseconds, and the clock and the
random identifiers are arguments of the operations that read them.
-/
namespace ConfigAuditor.Snapshots

open Library

inductive SnapshotStatus where
  | draft
  | ready
  | locked
  | archived
  deriving DecidableEq, Repr

inductive SnapshotGroupingStatus where
  | automatic
  | manuallyConfirmed
  | needsReview
  deriving DecidableEq, Repr

inductive SnapshotSource where
  | upload
  | api
  | collector
  | importSource
  deriving DecidableEq, Repr

inductive ArtifactStatus where
  | uploaded
  | validating
  | validated
  | ready
  | partiallySupported
  | needsReview
  | rejected
  deriving DecidableEq, Repr

/-- `ELIGIBLE_ARTIFACT_STATUSES`. -/
def eligibleArtifactStatuses : List ArtifactStatus :=
  [.validated, .ready, .partiallySupported, .needsReview]

structure Device where
  deviceId : UUID
  organizationId : UUID
  lastSeenAt : Option Int := none
  deriving DecidableEq

structure Snapshot where
  snapshotId : UUID
  deviceId : UUID
  organizationId : UUID
  label : Option String
  capturedAt : Option Int
  ingestedAt : Int
  status : SnapshotStatus := .draft
  groupingStatus : SnapshotGroupingStatus
  snapshotHash : String
  artifactCount : Nat := 0
  source : SnapshotSource
  createdBy : Option UUID
  schemaVersion : String := "1.0.0"
  deriving DecidableEq

/-- The columns of an artifact that the snapshot workflow reads or writes. `digest` is
`sha256`, the hash of the stored bytes. -/
structure Artifact where
  artifactId : UUID
  organizationId : UUID
  snapshotId : Option UUID := none
  digest : String
  status : ArtifactStatus
  deriving DecidableEq

/-- A validated `SnapshotCreate`. -/
structure SnapshotCreate where
  label : Option String := none
  capturedAt : Option Int := none
  source : SnapshotSource := .upload
  groupingStatus : SnapshotGroupingStatus := .manuallyConfirmed
  deriving DecidableEq

/-- A validated `SnapshotUpdate`: `none` is a field that was not set. -/
structure SnapshotUpdate where
  label : Option (Option String) := none
  capturedAt : Option (Option Int) := none
  groupingStatus : Option SnapshotGroupingStatus := none
  deriving DecidableEq

/-- The exceptions of `app.devices.errors`, `app.snapshots.errors` and `app.audit.errors`,
and those a session raises by itself. -/
inductive WorkflowError where
  | deviceNotFound (code message : String)
  | snapshotNotFound (code message : String)
  | snapshotConflict (code message : String)
  | snapshotValidation (code message : String)
  | auditNotFound (code message : String)
  | auditConflict (code message : String)
  | auditValidation (code message : String)
  | auditInfrastructure (code message : String)
  /-- A key or a unique constraint is violated. -/
  | integrity
  /-- A refreshed row is gone. -/
  | invalidRequest
  /-- An exception the workflow does not catch. -/
  | uncaught (error : Error)
  deriving DecidableEq, Repr

/-- `if not condition: raise error`. -/
def require (condition : Bool) (error : WorkflowError) : Except WorkflowError Unit :=
  if condition then .ok () else .error error

@[simp] theorem require_eq_ok {condition : Bool} {error : WorkflowError} {u : Unit} :
    require condition error = .ok u ↔ condition = true := by
  cases condition <;> simp [require]

/-- `if row is None: raise error`. -/
def found {α : Type} (row : Option α) (error : WorkflowError) : Except WorkflowError α :=
  match row with
  | some row => .ok row
  | none => .error error

@[simp] theorem found_eq_ok {α : Type} {row : Option α} {error : WorkflowError} {a : α} :
    found row error = .ok a ↔ row = some a := by
  cases row <;> simp [found]

variable (sha256 : String → String)

/-- `calculate_snapshot_hash`: the sorted digests, one after the other, are hashed. -/
def calculateSnapshotHash (hashes : List String) : String :=
  sha256 (String.join (sortedBy id hashes))

/-- `EMPTY_SNAPSHOT_HASH`. -/
def emptySnapshotHash : String := sha256 ""

theorem calculateSnapshotHash_nil : calculateSnapshotHash sha256 [] = emptySnapshotHash sha256 :=
  rfl

/-- The hash does not depend on the order the rows are read in. -/
theorem calculateSnapshotHash_perm {first second : List String} (h : first.Perm second) :
    calculateSnapshotHash sha256 first = calculateSnapshotHash sha256 second := by
  have hsorted : sortedBy id first = sortedBy id second := by
    refine @List.Perm.eq_of_pairwise _ (fun a b => a ≤ b) _ _ ?_ (pairwise_sortedBy id first)
      (pairwise_sortedBy id second) ?_
    · intro a b _ _ hab hba
      exact le_antisymm hab hba
    · exact (sortedBy_perm id first).trans (h.trans (sortedBy_perm id second).symm)
  rw [calculateSnapshotHash, calculateSnapshotHash, hsorted]

end ConfigAuditor.Snapshots
