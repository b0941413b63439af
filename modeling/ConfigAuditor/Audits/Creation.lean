import ConfigAuditor.Assessment.Service
import ConfigAuditor.Audits.Processing
import ConfigAuditor.Audits.Service

/-!
# Creating the first audit of a snapshot

`create_audit` of `app.audit.service`, statement by statement: each statement reads what is
committed when it runs, and only the last one writes. No row is locked.
-/
namespace ConfigAuditor.Audits.Creation

open Library Snapshots Service Assessment.Model ProfileResolution
open Training (User)

/-- The tables that audits are made from. -/
structure Database where
  store : Store
  training : Training.Database
  assessmentPacks : List AssessmentPackVersion
  /-- `profile_for`, which reads the published profiles of an organization. -/
  profileFor : UUID → String → Except Error (Option ProfileManifest)

/-- What a statement leads to: the next one, or the end of the transaction with the tables it
leaves and the audit it returns. -/
inductive Advance (π : Type) where
  | next (progress : π)
  | finish (audits : List Audit) (jobs : Jobs.JobTable) (result : Audit)

/-- `uq_audits_snapshot_id_revision_number` and the primary key. -/
def insertAudit? (audits : List Audit) (audit : Audit) : Option (List Audit) :=
  if audits.any fun other =>
      other.snapshotId == audit.snapshotId && other.revisionNumber == audit.revisionNumber then
    none
  else Table.insert? Audit.auditId audits audit

/-- `validate_requested_pack`. -/
def validateRequestedPack (packs : List AssessmentPackVersion) (organizationId packId : UUID) :
    Except Error AssessmentPackVersion := do
  match packs.find? fun pack => pack.assessmentPackVersionId == packId &&
      pack.organizationId.all (· == organizationId) with
  | none => .error (.assessmentPack "assessment_pack_not_found" "Assessment Pack is not available")
  | some pack =>
    Assessment.Service.validatePack pack
    raiseIf (pack.status != .published)
      (.assessmentPack "assessment_pack_unavailable" "Assessment Pack is not published")
    return pack

/-- Where a `create_audit` transaction is. -/
inductive CreateProgress where
  | begun
  | snapshotRead (snapshot : Snapshot)
  | deviceRead (snapshot : Snapshot)
  | evidenceRead (snapshot : Snapshot)
  | packChecked (snapshot : Snapshot)
  | initialChecked (snapshot : Snapshot)

/-- `initial_audit_exists`. -/
def initialExists : WorkflowError :=
  .auditConflict "initial_audit_exists" "Initial Audit already exists"

/-- The row `create_audit` adds. -/
def initialAudit (user : User) (request : AuditCreate) (snapshot : Snapshot) (auditId : UUID) :
    Audit :=
  { auditId, organizationId := user.organizationId, deviceId := snapshot.deviceId,
    snapshotId := snapshot.snapshotId, revisionNumber := 1, reevaluationReason := .initial,
    status := .draft, selectedFrameworks := request.selectedFrameworks,
    versionRefs := match request.assessmentPackVersionId with
      | some packId => [("assessment_pack_version_id", .str packId.str)]
      | none => []
    createdBy := some user.userId }

/-- One statement of `create_audit`; `auditId` is drawn for the new row. -/
def createStatement (sha256 : String → String) (db : Database) (user : User)
    (request : AuditCreate) (auditId : UUID) :
    CreateProgress → Except WorkflowError (Advance CreateProgress)
  | .begun => do
    let snapshot ← found
      (owned Snapshot.snapshotId Snapshot.organizationId db.store.snapshots request.snapshotId
        user.organizationId)
      (.auditNotFound "snapshot_not_found" "Snapshot not found")
    require (snapshot.status == .ready)
      (.auditConflict "snapshot_not_ready" "Snapshot must be ready")
    return .next (.snapshotRead snapshot)
  | .snapshotRead snapshot => do
    let _ ← found
      (owned Device.deviceId Device.organizationId db.store.devices snapshot.deviceId
        user.organizationId)
      (.auditValidation "snapshot_identity_invalid" "Snapshot identity is inconsistent")
    return .next (.deviceRead snapshot)
  | .deviceRead snapshot => do
    let _ ← validateSnapshotEvidence sha256 db.store snapshot
    return .next (.evidenceRead snapshot)
  | .evidenceRead snapshot =>
    match request.assessmentPackVersionId with
    | none => .ok (.next (.packChecked snapshot))
    | some packId =>
      match validateRequestedPack db.assessmentPacks user.organizationId packId with
      | .ok _ => .ok (.next (.packChecked snapshot))
      | .error (.assessmentPack code message) => .error (.auditValidation code message)
      | .error error => .error (.uncaught error)
  | .packChecked snapshot => do
    require
      (!db.store.audits.any fun audit =>
        audit.snapshotId == snapshot.snapshotId && audit.revisionNumber == 1) initialExists
    return .next (.initialChecked snapshot)
  | .initialChecked snapshot => do
    let audit := initialAudit user request snapshot auditId
    let audits ← found (insertAudit? db.store.audits audit) initialExists
    return .finish audits db.store.jobs audit

theorem insertAudit?_eq_some {audits audits' : List Audit} {audit : Audit}
    (h : insertAudit? audits audit = some audits') :
    audits' = audits ++ [audit] ∧ (∀ other ∈ audits, other.auditId ≠ audit.auditId) ∧
      ∀ other ∈ audits, other.snapshotId = audit.snapshotId →
        other.revisionNumber ≠ audit.revisionNumber := by
  unfold insertAudit? at h
  split at h
  · cases h
  · rename_i hfree
    obtain ⟨rfl, hids⟩ := Table.insert?_eq_some h
    refine ⟨rfl, hids, fun other hother hsnapshot hrevision => ?_⟩
    exact hfree (List.any_eq_true.mpr ⟨other, hother, by simp [hsnapshot, hrevision]⟩)

/-- Only the last statement ends the transaction, and it adds a first revision. -/
theorem createStatement_finish {sha256 : String → String} {db : Database} {user : User}
    {request : AuditCreate} {auditId : UUID} {progress : CreateProgress} {audits : List Audit}
    {jobs : Jobs.JobTable} {result : Audit}
    (h : createStatement sha256 db user request auditId progress = .ok (.finish audits jobs result)) :
    insertAudit? db.store.audits result = some audits ∧ result.revisionNumber = 1 ∧
      result.reevaluationReason = .initial ∧ result.previousAuditId = none := by
  cases progress with
  | initialChecked snapshot =>
    simp only [createStatement, except_bind_eq_ok, found_eq_ok, pure, Except.pure,
      Except.ok.injEq, Advance.finish.injEq] at h
    obtain ⟨added, hinsert, rfl, rfl, rfl⟩ := h
    exact ⟨hinsert, rfl, rfl, rfl⟩
  | evidenceRead snapshot =>
    simp only [createStatement] at h
    split at h
    · cases h
    · split at h <;> cases h
  | _ =>
    simp [createStatement, pure, Except.pure] at h

end ConfigAuditor.Audits.Creation
