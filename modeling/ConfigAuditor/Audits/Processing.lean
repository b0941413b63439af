import ConfigAuditor.Audits.Model
import ConfigAuditor.Library.Dict

/-!
# What processing writes to an audit

`start_audit`, the pipeline of `app.audit.pipeline` and `pin_assessment`: every write to the
row of an audit that exists. A write whose guard fails raises and leaves the row alone.
-/
namespace ConfigAuditor.Audits.Processing

open Library Snapshots

/-- One write, with the values it was computed from. -/
inductive Work where
  /-- `start_audit`. -/
  | submit
  /-- `_begin_processing`. -/
  | beginProcessing (now : Int)
  /-- `resolve_audit_profile`. -/
  | resolveProfile (resolution : List (String × PyValue))
  /-- `pin_assessment`. -/
  | pinAssessment (packIds : List String)
  /-- `_pin_versions_and_set_stage`. -/
  | pinVersions (profileVersionId : String) (knowledgePackVersionId : UUID)
      (stage : AuditProcessingStage)
  /-- `_pin_compliance_versions_and_set_stage`. -/
  | pinCompliance (rulePacks : List String) (policyId : String)
  /-- `persist_assessment_results`. -/
  | assess (coverage : List (String × PyValue))
  /-- `_finalize`. -/
  | finalize (verdictCounts severityCounts : List (String × PyValue)) (now : Int)
  /-- `_finalize_failure`. -/
  | finalizeFailure (stage : Option AuditProcessingStage) (now : Int)

def knowledgePackKey : String := "knowledge_pack_version_id"

/-- The conflict check of `_pin_versions_and_set_stage`: what is pinned already is the same. -/
def pinsAgree (refs expected : List (String × PyValue)) : Bool :=
  expected.all fun entry =>
    let pinned := (Dict.get? refs entry.1).getD .none
    pinned == .none || pinned == entry.2

/-- `{**refs, **expected}`. -/
def mergeRefs (refs expected : List (String × PyValue)) : List (String × PyValue) :=
  expected.foldl (fun refs entry => Dict.set refs entry.1 entry.2) refs

/-- The terminal status of a completed evaluation. -/
def terminalStatus (verdictCounts : List (String × PyValue)) : AuditStatus :=
  let counted (verdict : String) := ((Dict.get? verdictCounts verdict).getD .none).truthy
  if counted "process_error" then .completedWithErrors
  else if counted "unknown" || counted "manual_review" then .completedWithUnknowns
  else .completed

/-- The references `_pin_versions_and_set_stage` expects. -/
def expectedRefs (profileVersionId : String) (knowledgePackVersionId : UUID) :
    List (String × PyValue) :=
  [("schema_version", .str "1.0.0"), ("device_profile_version_id", .str profileVersionId),
    (knowledgePackKey, .str knowledgePackVersionId.str)]

/-- The row after a write, or `none` when its guard raises. -/
def write (audit : Audit) : Work → Option Audit
  | .submit =>
    if audit.status = .draft then
      some { audit with
        status := .queued, processingStage := none, startedAt := none, completedAt := none }
    else none
  | .beginProcessing now =>
    if audit.status = .queued ∨ audit.status = .processing then
      some { audit with
        status := .processing, processingStage := some .identifying,
        startedAt := some (audit.startedAt.getD now), completedAt := none }
    else none
  | .resolveProfile resolution => some { audit with profileResolution := resolution }
  | .pinAssessment packIds => some { audit with
      versionRefs := Dict.set audit.versionRefs "assessment_pack_version_ids"
        (.list (packIds.map .str)) }
  | .pinVersions profileVersionId knowledgePackVersionId stage =>
    let expected := expectedRefs profileVersionId knowledgePackVersionId
    if audit.status = .processing ∧
        Dict.get? audit.profileResolution "profile_version_id" = some (.str profileVersionId) ∧
        pinsAgree audit.versionRefs expected then
      some { audit with
        versionRefs := mergeRefs audit.versionRefs expected, processingStage := some stage }
    else none
  | .pinCompliance rulePacks policyId =>
    if audit.status = .processing then
      some { audit with
        versionRefs := mergeRefs audit.versionRefs
          [("rule_pack_versions", .list (rulePacks.map .str)),
            ("organization_policy_version_id", .str policyId)]
        processingStage := some .evaluating }
    else none
  | .assess coverage => some { audit with coverage }
  | .finalize verdictCounts severityCounts now =>
    if audit.status = .processing then
      some { audit with
        processingStage := some .finalizing, verdictCounts, severityCounts,
        status := terminalStatus verdictCounts, completedAt := some now }
    else none
  | .finalizeFailure stage now =>
    if audit.status = .processing ∧ audit.completedAt = none then
      some { audit with
        processingStage := some ((stage.or audit.processingStage).getD .identifying),
        status := .failed, completedAt := some now }
    else none

/-- The write, or the row as it is. -/
def worked (work : Work) (audit : Audit) : Audit := (write audit work).getD audit

/-- DRAFT, QUEUED or PROCESSING. -/
def isActive (audit : Audit) : Bool :=
  audit.status == .draft || audit.status == .queued || audit.status == .processing

/-- The columns that say which revision an audit is. -/
structure SameRevision (audit now : Audit) : Prop where
  auditId : now.auditId = audit.auditId
  organizationId : now.organizationId = audit.organizationId
  deviceId : now.deviceId = audit.deviceId
  snapshotId : now.snapshotId = audit.snapshotId
  revisionNumber : now.revisionNumber = audit.revisionNumber
  previousAuditId : now.previousAuditId = audit.previousAuditId
  reevaluationReason : now.reevaluationReason = audit.reevaluationReason

theorem worked_sameRevision (work : Work) (audit : Audit) :
    SameRevision audit (worked work audit) := by
  unfold worked write
  cases work <;> dsimp only <;> (try split) <;> exact ⟨rfl, rfl, rfl, rfl, rfl, rfl, rfl⟩

theorem terminalStatus_inactive (verdictCounts : List (String × PyValue)) :
    terminalStatus verdictCounts = .completed ∨
      terminalStatus verdictCounts = .completedWithUnknowns ∨
      terminalStatus verdictCounts = .completedWithErrors := by
  unfold terminalStatus
  dsimp only
  split
  · exact .inr (.inr rfl)
  · split
    · exact .inr (.inl rfl)
    · exact .inl rfl

/-- No write brings a completed or failed audit back. -/
theorem isActive_worked {work : Work} {audit : Audit} (h : isActive (worked work audit) = true) :
    isActive audit = true := by
  by_contra hinactive
  have hdraft : audit.status ≠ .draft := fun he => hinactive (by simp [isActive, he])
  have hqueued : audit.status ≠ .queued := fun he => hinactive (by simp [isActive, he])
  have hprocessing : audit.status ≠ .processing := fun he => hinactive (by simp [isActive, he])
  apply hinactive
  cases work <;>
    simp only [worked, write, hdraft, hqueued, hprocessing, if_false, false_and, or_false,
      Option.getD_none, Option.getD_some] at h <;> exact h

/-- The knowledge pack of an audit stays once it is pinned. -/
theorem knowledgePack_worked (work : Work) {audit : Audit} {text : String}
    (h : Dict.get? audit.versionRefs knowledgePackKey = some (.str text)) :
    Dict.get? (worked work audit).versionRefs knowledgePackKey = some (.str text) := by
  unfold worked write
  cases work with
  | pinVersions profileVersionId knowledgePackVersionId stage =>
    dsimp only
    split
    next hguard =>
      have hagree := hguard.2.2
      simp only [pinsAgree, expectedRefs, List.all_cons, List.all_nil, h, Option.getD_some,
        Bool.and_true, Bool.and_eq_true, Bool.or_eq_true, beq_iff_eq] at hagree
      obtain ⟨-, -, hnone | hsame⟩ := hagree
      · cases hnone
      · simp [mergeRefs, expectedRefs, Dict.get?_set, hsame]
    next => exact h
  | pinAssessment packIds =>
    simpa [Dict.get?_set, knowledgePackKey] using h
  | pinCompliance rulePacks policyId =>
    dsimp only
    split
    · simpa [mergeRefs, Dict.get?_set, knowledgePackKey] using h
    · exact h
  | _ =>
    dsimp only
    (try split) <;> exact h

end ConfigAuditor.Audits.Processing
