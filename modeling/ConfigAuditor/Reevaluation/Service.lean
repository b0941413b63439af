import ConfigAuditor.Audits.Creation

/-!
# Re-evaluating a completed audit

`start` of `app.reevaluation.service`, statement by statement: each statement reads what is
committed when it runs. Three of them lock a row, and the last one writes the new revision.
-/
namespace ConfigAuditor.Reevaluation.Service

open Library Snapshots Audits Audits.Service Audits.Creation Audits.Processing ProfileResolution
open Training (User UserRole MappingVersion KnowledgePackVersionRecord)

/-- The arguments of `start`. -/
structure Request where
  user : User
  auditId : UUID
  target : UUID
  assessmentPack : Option UUID := none

/-- The rows `FOR UPDATE` can lock. -/
inductive Row where
  | audit (auditId : UUID)
  | knowledgePack (knowledgePackVersionId : UUID)
  | snapshot (snapshotId : UUID)
  deriving DecidableEq

/-- Where a `start` transaction is: `source` is the locked audit. -/
inductive StartProgress where
  | begun
  | sourceLocked (source : Audit)
  | snapshotRead (source : Audit) (snapshot : Snapshot)
  | evidenceRead (source : Audit)
  | scanning (source : Audit) (profile : String)
      (packs eligible : List KnowledgePackVersionRecord)
  | eligible (source : Audit) (candidates : List KnowledgePackVersionRecord)
  | targetLocked (source : Audit)
  | assessmentChecked (source : Audit)
  | snapshotLocked (source : Audit) (snapshot : Snapshot)
  | evidenceLocked (source : Audit)
  | latestRead (source : Audit) (latest : Nat)
  | existingRead (source : Audit) (latest : Nat)

/-- `COMPLETED_STATUSES`. -/
def completedStatuses : List AuditStatus :=
  [.completed, .completedWithUnknowns, .completedWithErrors]

def isPrivileged (user : User) : Bool := user.role == .admin || user.role == .mappingAdmin

/-- The error of an ineligible source. -/
def unavailable (reason : String) : WorkflowError := .auditConflict "reevaluation_unavailable" reason

def noCandidates : WorkflowError := unavailable "no_compatible_newer_knowledge_pack"

/-- The profile of `_candidates`, when it is a text. -/
def sourceProfile (source : Audit) : Option String :=
  let pinned := (Dict.get? source.versionRefs "device_profile_version_id").getD .none
  let profile :=
    if pinned.truthy then pinned
    else (Dict.get? source.profileResolution "profile_version_id").getD .none
  profile.str?

/-- Whether the profile of `_candidates` is known. -/
def profileKnown (db : Database) (organizationId : UUID) (profile : String) :
    Except WorkflowError Bool :=
  if (profileRegistry profile).isSome then .ok true
  else
    match db.profileFor organizationId profile with
    | .ok manifest => .ok manifest.isSome
    | .error (.runtimeProfile _) => .ok false
    | .error error => .error (.uncaught error)

/-- The packs of the organization, latest first. -/
def packsOf (db : Database) (organizationId : UUID) : List KnowledgePackVersionRecord :=
  sortedBy (fun pack => toLex (-pack.publishedAt, -(pack.version : Int)))
    (db.training.packVersions.filter (·.organizationId == organizationId))

/-- The test of `_candidates` on one pack. -/
def isCandidate (db : Database) (source : Audit) (profile : String)
    (pack : KnowledgePackVersionRecord) : Bool :=
  let ids := pack.mappingVersionIds
  let mappings := db.training.mappings.filter fun mapping : MappingVersion =>
    ids.contains mapping.mappingVersionId && mapping.organizationId == source.organizationId
  Dict.get? source.versionRefs knowledgePackKey != some (.str pack.knowledgePackVersionId.str) &&
    !ids.isEmpty && mappings.length == ids.length &&
    mappings.all fun mapping =>
      mapping.definition.profileApplicability.profileVersionIds.contains profile

/-- The audits of a snapshot, in the order they were created. -/
def auditsOf (audits : List Audit) (snapshotId : UUID) : List Audit :=
  audits.filter fun audit => audit.snapshotId == snapshotId

/-- `max(revision_number) or 0`. -/
def latestRevision (audits : List Audit) (snapshotId : UUID) : Nat :=
  ((auditsOf audits snapshotId).map Audit.revisionNumber).foldr max 0

/-- A re-evaluation of a source with a target pack that has not ended. -/
def activeReevaluation (sourceId target : UUID) (audit : Audit) : Bool :=
  audit.previousAuditId == some sourceId &&
    Dict.get? audit.versionRefs knowledgePackKey == some (.str target.str) && isActive audit

/-- The row `start` adds. -/
def reevaluationAudit (request : Request) (source : Audit) (latest : Nat) (auditId : UUID) :
    Audit :=
  { auditId, organizationId := source.organizationId, deviceId := source.deviceId,
    snapshotId := source.snapshotId, auditBatchId := source.auditBatchId,
    revisionNumber := latest + 1, previousAuditId := some source.auditId,
    reevaluationReason := .knowledgePackUpdate, status := .queued,
    selectedFrameworks := source.selectedFrameworks,
    versionRefs := mergeRefs source.versionRefs
      ((knowledgePackKey, .str request.target.str) ::
        match request.assessmentPack with
        | some packId => [("assessment_pack_version_id", .str packId.str)]
        | none => [])
    profileResolution := source.profileResolution, createdBy := some request.user.userId,
    schemaVersion := source.schemaVersion }

/-- The row a statement locks before it goes on: the one its query finds. -/
def wantedRow (db : Database) (request : Request) : StartProgress → Option Row
  | .begun =>
    if isPrivileged request.user then
      (owned Audit.auditId Audit.organizationId db.store.audits request.auditId
        request.user.organizationId).map fun _ => .audit request.auditId
    else none
  | .eligible _ _ =>
    (owned KnowledgePackVersionRecord.knowledgePackVersionId
      KnowledgePackVersionRecord.organizationId db.training.packVersions request.target
      request.user.organizationId).map fun _ => .knowledgePack request.target
  | .assessmentChecked source =>
    (Table.find? Snapshot.snapshotId db.store.snapshots source.snapshotId).map
      fun _ => .snapshot source.snapshotId
  | _ => none

def reevaluationConflict : WorkflowError :=
  .auditConflict "reevaluation_conflict" "A re-evaluation was created concurrently"

/-- One statement of `start`; `auditId`, `jobId` and `now` are drawn for the new rows. -/
def startStatement (sha256 : String → String) (db : Database) (request : Request)
    (auditId jobId : UUID) (now : Int) :
    StartProgress → Except WorkflowError (Advance StartProgress)
  | .begun => do
    require (isPrivileged request.user)
      (.auditValidation "reevaluation_forbidden" "Administrator permission is required")
    let source ← found
      (owned Audit.auditId Audit.organizationId db.store.audits request.auditId
        request.user.organizationId)
      (.auditNotFound "audit_not_found" "Audit not found")
    return .next (.sourceLocked source)
  | .sourceLocked source => do
    require (completedStatuses.contains source.status) (unavailable "source_audit_not_completed")
    let snapshot ← found
      ((Table.find? Snapshot.snapshotId db.store.snapshots source.snapshotId).filter
        fun snapshot => snapshot.organizationId == source.organizationId &&
          snapshot.deviceId == source.deviceId)
      (unavailable "source_snapshot_invalid")
    require (snapshot.status == .ready || snapshot.status == .locked)
      (unavailable "source_snapshot_not_immutable")
    return .next (.snapshotRead source snapshot)
  | .snapshotRead source snapshot =>
    match validateSnapshotEvidence sha256 db.store snapshot with
    | .ok _ => .ok (.next (.evidenceRead source))
    | .error (.auditValidation _ _) => .error (unavailable "source_evidence_unavailable")
    | .error error => .error error
  | .evidenceRead source => do
    let profile ← found (sourceProfile source) noCandidates
    let known ← profileKnown db source.organizationId profile
    require known noCandidates
    return .next (.scanning source profile (packsOf db source.organizationId) [])
  | .scanning source profile (pack :: packs) eligible =>
    let eligible := if isCandidate db source profile pack then eligible ++ [pack] else eligible
    .ok (.next (.scanning source profile packs eligible))
  | .scanning source _ [] eligible => do
    require (!eligible.isEmpty) noCandidates
    return .next (.eligible source eligible)
  | .eligible source candidates => do
    let target ← found
      (owned KnowledgePackVersionRecord.knowledgePackVersionId
        KnowledgePackVersionRecord.organizationId db.training.packVersions request.target
        request.user.organizationId)
      (.auditValidation "knowledge_pack_ineligible" "Selected Knowledge Pack is not eligible")
    require (candidates.any (·.knowledgePackVersionId == target.knowledgePackVersionId))
      (.auditValidation "knowledge_pack_ineligible" "Selected Knowledge Pack is not eligible")
    return .next (.targetLocked source)
  | .targetLocked source =>
    match request.assessmentPack with
    | none => .ok (.next (.assessmentChecked source))
    | some packId =>
      match validateRequestedPack db.assessmentPacks request.user.organizationId packId with
      | .ok _ => .ok (.next (.assessmentChecked source))
      | .error (.assessmentPack _ _) =>
        .error (.auditValidation "assessment_pack_ineligible"
          "Selected Assessment Pack is unavailable")
      | .error error => .error (.uncaught error)
  | .assessmentChecked source => do
    let snapshot ← found
      (Table.find? Snapshot.snapshotId db.store.snapshots source.snapshotId)
      (.auditValidation "source_snapshot_invalid" "Source Snapshot is unavailable")
    return .next (.snapshotLocked source snapshot)
  | .snapshotLocked source snapshot => do
    let _ ← validateSnapshotEvidence sha256 db.store snapshot
    return .next (.evidenceLocked source)
  | .evidenceLocked source =>
    .ok (.next (.latestRead source (latestRevision db.store.audits source.snapshotId)))
  | .latestRead source latest =>
    match db.store.audits.find? (activeReevaluation source.auditId request.target) with
    | some existing => .ok (.finish db.store.audits db.store.jobs existing)
    | none => .ok (.next (.existingRead source latest))
  | .existingRead source latest => do
    -- the flush, the job and the commit: nobody else sees the row before the commit
    let audit := reevaluationAudit request source latest auditId
    let audits ← found (insertAudit? db.store.audits audit) reevaluationConflict
    let jobs ← (Jobs.enqueueJob db.store.jobs
      { jobId, jobType := .reEvaluation, createdAt := now, auditId := some auditId,
        deviceId := some audit.deviceId,
        payload := [("source_audit_id", .str source.auditId.str),
          (knowledgePackKey, .str request.target.str)] }).mapError fun _ => reevaluationConflict
    return .finish audits jobs audit

end ConfigAuditor.Reevaluation.Service
