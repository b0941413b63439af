import ConfigAuditor.Snapshots.Service

/-!
# The audit workflow

`app.audit.service`: the evidence of a snapshot is checked before an audit is made of it and
again when the audit starts, which locks the snapshot.
-/
namespace ConfigAuditor.Audits.Service

open Library Snapshots Snapshots.Service
open Training (User)

section Operations

variable (sha256 : String → String)

/-- `validate_snapshot_evidence`. -/
def validateSnapshotEvidence (s : Store) (snapshot : Snapshot) :
    Except WorkflowError (List Artifact) := do
  let artifacts := sortedBy (·.artifactId.int) (s.members snapshot.snapshotId)
  require
    (!artifacts.isEmpty && artifacts.all fun artifact =>
      artifact.organizationId == snapshot.organizationId &&
        eligibleArtifactStatuses.contains artifact.status)
    (.auditValidation "snapshot_evidence_invalid" "Snapshot evidence is not eligible")
  require
    (snapshot.artifactCount == artifacts.length &&
      snapshot.snapshotHash == calculateSnapshotHash sha256 (artifacts.map Artifact.digest))
    (.auditValidation "snapshot_evidence_incoherent" "Snapshot evidence metadata is inconsistent")
  return artifacts

/-- `audit_submission_failed`. -/
def submissionFailed : WorkflowError :=
  .auditInfrastructure "audit_submission_failed" "Audit could not be submitted"

/-- A submitted audit. -/
def submitted (audit : Audit) : Audit :=
  { audit with status := .queued, processingStage := none, startedAt := none, completedAt := none }

/-- `start_audit`; `jobId` and `now` are drawn by the operation. -/
def startAudit (s : Store) (user : User) (auditId jobId : UUID) (now : Int) :
    Store × Except WorkflowError (Audit × Jobs.Job) :=
  transact s
    (do
      let audit ← found
        (owned Audit.auditId Audit.organizationId s.audits auditId user.organizationId)
        (.auditNotFound "audit_not_found" "Audit not found")
      require (audit.status == .draft)
        (.auditConflict "audit_not_draft" "Audit has already been submitted")
      let snapshot ← found
        ((Table.find? Snapshot.snapshotId s.snapshots audit.snapshotId).filter fun snapshot =>
          snapshot.organizationId == audit.organizationId && snapshot.deviceId == audit.deviceId)
        (.auditValidation "audit_snapshot_invalid" "Audit Snapshot is inconsistent")
      require (snapshot.status == .ready)
        (.auditConflict "snapshot_not_ready" "Snapshot is no longer ready")
      let _ ← validateSnapshotEvidence sha256 s snapshot
      let jobs ← (Jobs.enqueueJob s.jobs
        { jobId, jobType := .audit, createdAt := now, auditId := some auditId,
          deviceId := some audit.deviceId }).mapError fun _ => submissionFailed
      return { s with
        jobs
        audits := Table.modify Audit.auditId s.audits auditId submitted
        snapshots := Table.modify Snapshot.snapshotId s.snapshots audit.snapshotId
          fun snapshot => { snapshot with status := .locked } })
    fun committed => do
      let audit ← found (Table.find? Audit.auditId committed.audits auditId) .invalidRequest
      let job ← found (Table.find? Jobs.Job.jobId committed.jobs jobId) .invalidRequest
      return (audit, job)

end Operations

end ConfigAuditor.Audits.Service
