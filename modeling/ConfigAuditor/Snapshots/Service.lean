import ConfigAuditor.Audits.Model

/-!
# The snapshot workflow

`app.snapshots.service`. Each operation locks the snapshot row it works on, so it is one
step on the tables.
-/
namespace ConfigAuditor.Snapshots.Service

open Library Audits
open Training (User)

/-- `get_snapshot`: the row with its artifacts, in the order of their ids. -/
def getSnapshot (user : User) (snapshotId : UUID) (s : Store) :
    Except WorkflowError (Snapshot × List Artifact) := do
  let snapshot ← found
    (owned Snapshot.snapshotId Snapshot.organizationId s.snapshots snapshotId user.organizationId)
    (.snapshotNotFound "snapshot_not_found" "Snapshot not found")
  return (snapshot, sortedBy (·.artifactId.int) (s.members snapshotId))

/-- `_lock_snapshot`. -/
def lockSnapshot (s : Store) (user : User) (snapshotId : UUID) : Except WorkflowError Snapshot :=
  found
    (owned Snapshot.snapshotId Snapshot.organizationId s.snapshots snapshotId user.organizationId)
    (.snapshotNotFound "snapshot_not_found" "Snapshot not found")

/-- `_require_draft`. -/
def requireDraft (snapshot : Snapshot) : Except WorkflowError Unit :=
  require (snapshot.status == .draft)
    (.snapshotConflict "snapshot_not_draft" "Snapshot is no longer editable")

/-- The artifact with an id, when it belongs to the user's organization. -/
def ownedArtifact (s : Store) (user : User) (artifactId : UUID) : Option Artifact :=
  owned Artifact.artifactId Artifact.organizationId s.artifacts artifactId user.organizationId

section Operations

variable (sha256 : String → String)

/-- `_refresh_membership`: the count and the hash of the rows that point at the snapshot. -/
def refreshMembership (snapshot : Snapshot) (members : List Artifact) : Snapshot :=
  { snapshot with
    artifactCount := members.length
    snapshotHash := calculateSnapshotHash sha256 (members.map Artifact.digest) }

/-- The tables after an artifact's back pointer is set and the membership refreshed. -/
def reassign (s : Store) (snapshotId artifactId : UUID) (pointer : Option UUID) : Store :=
  let moved := { s with
    artifacts := Table.modify Artifact.artifactId s.artifacts artifactId
      fun artifact => { artifact with snapshotId := pointer } }
  { moved with
    snapshots := Table.modify Snapshot.snapshotId s.snapshots snapshotId
      fun snapshot => refreshMembership sha256 snapshot (moved.members snapshotId) }

/-- A new snapshot; `snapshotId` and `now` are drawn by the operation. -/
def newSnapshot (user : User) (device : Device) (request : SnapshotCreate) (snapshotId : UUID)
    (now : Int) : Snapshot :=
  { snapshotId, deviceId := device.deviceId, organizationId := user.organizationId,
    label := request.label, capturedAt := request.capturedAt, ingestedAt := now,
    groupingStatus := request.groupingStatus, snapshotHash := emptySnapshotHash sha256,
    source := request.source, createdBy := some user.userId }

/-- `create_snapshot`. -/
def createSnapshot (s : Store) (user : User) (deviceId : UUID) (request : SnapshotCreate)
    (snapshotId : UUID) (now : Int) : Store × Except WorkflowError (Snapshot × List Artifact) :=
  transact s
    (do
      let device ← found
        (owned Device.deviceId Device.organizationId s.devices deviceId user.organizationId)
        (.deviceNotFound "device_not_found" "Device not found")
      let snapshots ← found
        (Table.insert? Snapshot.snapshotId s.snapshots
          (newSnapshot sha256 user device request snapshotId now)) .integrity
      return { s with
        snapshots
        devices := Table.modify Device.deviceId s.devices deviceId
          fun device => { device with lastSeenAt := some now } })
    (getSnapshot user snapshotId)

/-- The fields of a request that were set. -/
def updatedSnapshot (request : SnapshotUpdate) (snapshot : Snapshot) : Snapshot :=
  { snapshot with
    label := request.label.getD snapshot.label
    capturedAt := request.capturedAt.getD snapshot.capturedAt
    groupingStatus := request.groupingStatus.getD snapshot.groupingStatus }

/-- `update_snapshot`. -/
def updateSnapshot (s : Store) (user : User) (snapshotId : UUID) (request : SnapshotUpdate) :
    Store × Except WorkflowError (Snapshot × List Artifact) :=
  transact s
    (do
      let snapshot ← lockSnapshot s user snapshotId
      requireDraft snapshot
      return { s with
        snapshots := Table.modify Snapshot.snapshotId s.snapshots snapshotId
          (updatedSnapshot request) })
    (getSnapshot user snapshotId)

/-- `add_artifact`. -/
def addArtifact (s : Store) (user : User) (snapshotId artifactId : UUID) :
    Store × Except WorkflowError (Snapshot × List Artifact) :=
  transact s
    (do
      let snapshot ← lockSnapshot s user snapshotId
      requireDraft snapshot
      let artifact ← found (ownedArtifact s user artifactId)
        (.snapshotNotFound "artifact_not_found" "Artifact not found")
      require (eligibleArtifactStatuses.contains artifact.status)
        (.snapshotValidation "artifact_ineligible" "Artifact is not eligible for a Snapshot")
      require (artifact.snapshotId.all (· == snapshotId))
        (.snapshotConflict "artifact_already_assigned"
          "Artifact already belongs to another Snapshot")
      return reassign sha256 s snapshotId artifactId (some snapshotId))
    (getSnapshot user snapshotId)

/-- `remove_artifact`. -/
def removeArtifact (s : Store) (user : User) (snapshotId artifactId : UUID) :
    Store × Except WorkflowError (Snapshot × List Artifact) :=
  transact s
    (do
      let snapshot ← lockSnapshot s user snapshotId
      requireDraft snapshot
      let _ ← found
        ((ownedArtifact s user artifactId).filter fun artifact =>
          artifact.snapshotId == some snapshotId)
        (.snapshotNotFound "artifact_not_found" "Artifact not found in Snapshot")
      return reassign sha256 s snapshotId artifactId none)
    (getSnapshot user snapshotId)

/-- The artifacts of a snapshot in the user's organization, in the order of their ids. -/
def ownMembers (s : Store) (user : User) (snapshotId : UUID) : List Artifact :=
  sortedBy (·.artifactId.int)
    ((s.members snapshotId).filter fun artifact => artifact.organizationId == user.organizationId)

/-- `finalize_snapshot`. -/
def finalizeSnapshot (s : Store) (user : User) (snapshotId : UUID) :
    Store × Except WorkflowError (Snapshot × List Artifact) :=
  transact s
    (do
      let snapshot ← lockSnapshot s user snapshotId
      requireDraft snapshot
      let artifacts := ownMembers s user snapshotId
      require (!artifacts.isEmpty)
        (.snapshotValidation "empty_snapshot" "Snapshot requires at least one Artifact")
      require (artifacts.all fun artifact => eligibleArtifactStatuses.contains artifact.status)
        (.snapshotValidation "artifact_ineligible" "Snapshot contains an ineligible Artifact")
      return { s with
        snapshots := Table.modify Snapshot.snapshotId s.snapshots snapshotId fun snapshot =>
          { refreshMembership sha256 snapshot artifacts with status := .ready } })
    (getSnapshot user snapshotId)

end Operations

end ConfigAuditor.Snapshots.Service
