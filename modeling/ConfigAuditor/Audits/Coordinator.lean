import ConfigAuditor.Audits.Processing
import ConfigAuditor.Compliance.Model
import ConfigAuditor.Library.Tallies

/-!
# The audit pipeline

`AuditPipelineCoordinator.run` of `app.audit.pipeline` and the job handler around it, one
transaction after the other. What a transaction computes from evidence, packs and rules is
given to it; what it checks and writes of the audit and of its findings is here.
-/
namespace ConfigAuditor.Audits.Coordinator

open Library Processing
open Compliance.Model (FindingVerdict FindingSeverity)

/-- The columns of a row of `findings` that the coordinator reads. -/
structure Finding where
  findingId : UUID
  auditId : UUID
  verdict : FindingVerdict
  severity : FindingSeverity
  deriving DecidableEq

/-- The value of a verdict. -/
def verdictValue : FindingVerdict → String
  | .pass => "pass"
  | .fail => "fail"
  | .unknown => "unknown"
  | .manualReview => "manual_review"
  | .notApplicable => "not_applicable"
  | .processError => "process_error"

/-- The value of a severity. -/
def severityValue : FindingSeverity → String
  | .critical => "critical"
  | .high => "high"
  | .medium => "medium"
  | .low => "low"
  | .informational => "informational"

/-- `counts[value] = counts.get(value, 0) + 1` for each value. -/
def countsOf (values : List String) : List (String × PyValue) :=
  (values.foldl Tallies.counted []).map fun entry => (entry.1, .int entry.2)

/-- The stages that `run` checkpoints. -/
inductive Checkpoint where
  | parsing
  | interpreting
  | resolvingState
  | evaluating
  deriving DecidableEq, Repr

def Checkpoint.stage : Checkpoint → AuditProcessingStage
  | .parsing => .parsing
  | .interpreting => .interpreting
  | .resolvingState => .resolvingState
  | .evaluating => .evaluating

/-- Between two transactions of `run`, of `mark_failed`, or after both. -/
inductive Position where
  /-- `run` has been called. -/
  | called
  /-- `_begin_processing` has committed. -/
  | begun
  /-- No resolution is pinned. -/
  | identifying
  /-- The resolution selects no profile. -/
  | rejected
  | pinning (profileVersionId : String)
  /-- `pin_assessment` has read the row, which it does not lock. -/
  | pinRead (profileVersionId : String) (versionRefs : List (String × PyValue))
  | loading (profileVersionId : String)
  | checkpoint (profileVersionId : String) (knowledgePackVersionId : UUID) (next : Checkpoint)
  /-- The checkpoint has committed; the work of the stage is next. -/
  | working (profileVersionId : String) (knowledgePackVersionId : UUID) (stage : Checkpoint)
  | finalizing (findings : List Finding)
  /-- The handler has caught an exception and calls `mark_failed`. -/
  | failing
  | failingAt (stage : Option AuditProcessingStage)
  | returned
  | raised
  deriving DecidableEq

/-- An audit with its findings. -/
structure Record where
  audit : Audit
  findings : List Finding := []
  deriving DecidableEq

/-- What a transaction computes from what the model does not hold. -/
structure Computed where
  now : Int := 0
  /-- `result.to_persisted()` and the preview. -/
  resolution : List (String × PyValue) := []
  /-- The packs `pin_assessment` selects, `none` when nothing is requested. -/
  packIds : Option (List String) := none
  knowledgePackVersionId : UUID := UUID.ofNat 0
  /-- The rule pack of the profile and the policy of the organization. -/
  rulePack : String := ""
  policyId : String := ""
  findings : List Finding := []
  /-- The coverage of the assessment results, `none` without a pinned pack. -/
  coverage : Option (List (String × PyValue)) := none

/-- The values of `ResolutionStatus` and of `ResolutionConfidence`. -/
def resolutionStatuses : List String :=
  ["resolved", "partially_resolved", "unsupported", "conflict", "unresolved", "ambiguous",
    "incompatible", "version_unknown"]

def resolutionConfidences : List String := ["high", "medium", "low", "unresolved"]

/-- A text under a key. -/
def textAt (data : List (String × PyValue)) (key : String) : Option String :=
  (Dict.get? data key).bind PyValue.str?

/-- Where `run` goes with a resolution. -/
def resolvedAt (resolution : List (String × PyValue)) : Position :=
  match textAt resolution "resolution_status", textAt resolution "profile_version_id" with
  | some "resolved", some profileVersionId => .pinning profileVersionId
  | _, _ => .rejected

/-- `_pinned_resolution`: only a re-evaluation has one. `none` when it raises. -/
def pinnedResolution (audit : Audit) : Option Position :=
  if audit.reevaluationReason = .initial then some .identifying
  else
    let data := audit.profileResolution
    if (textAt data "profile_id").isSome && (textAt data "profile_version_id").isSome &&
        (textAt data "resolution_status").any resolutionStatuses.contains &&
        (textAt data "confidence").any resolutionConfidences.contains then
      some (resolvedAt data)
    else none

/-- The profile check of `resolve_audit_profile`. -/
def profileAgrees (audit : Audit) (resolution : List (String × PyValue)) : Bool :=
  let pinned := (Dict.get? audit.versionRefs "device_profile_version_id").getD .none
  pinned == .none || pinned == (Dict.get? resolution "profile_version_id").getD .none

/-- `_finalize_failure`: a row that has ended already is left alone. -/
def finalizeFailure (audit : Audit) (stage : Option AuditProcessingStage) (now : Int) :
    Option Audit :=
  if audit.status = .processing then some (worked (.finalizeFailure stage now) audit) else none

/-- `audit.version_refs = {**refs, "assessment_pack_version_ids": ids}`, with the references
that were read before. -/
def pinAssessment (audit : Audit) (refs : List (String × PyValue)) (packIds : List String) :
    Audit :=
  { audit with
    versionRefs := Dict.set refs "assessment_pack_version_ids" (.list (packIds.map .str)) }

def rulePacksKey : String := "rule_pack_versions"

def policyKey : String := "organization_policy_version_id"

/-- The rule packs to pin: those that are pinned already, if the expected one is among them. -/
def pinnedPacks (refs : List (String × PyValue)) (expected : String) : Option PyValue :=
  match (Dict.get? refs rulePacksKey).getD .none with
  | .none => some (.list [.str expected])
  | .list packs => if packs.contains (.str expected) then some (.list packs) else none
  | _ => none

/-- `_pin_compliance_versions_and_set_stage`. -/
def pinCompliance (audit : Audit) (expected policyId : String) : Option Audit :=
  let policy := (Dict.get? audit.versionRefs policyKey).getD .none
  if audit.status = .processing ∧ (policy = .none ∨ policy = .str policyId) then
    (pinnedPacks audit.versionRefs expected).map fun packs => { audit with
      versionRefs := mergeRefs audit.versionRefs [(rulePacksKey, packs), (policyKey, .str policyId)]
      processingStage := some .evaluating }
  else none

/-- The findings of the drafts, which carry the audit's id. -/
def ownFindings (auditId : UUID) (findings : List Finding) : List Finding :=
  findings.map fun finding => { finding with auditId }

/-- The next transaction and where `run` is after it; `none` when a check of it raises. -/
def proceed (record : Record) (c : Computed) : Position → Option (Record × Position)
  | .called =>
    (write record.audit (.beginProcessing c.now)).map fun audit => ({ record with audit }, .begun)
  | .begun => (pinnedResolution record.audit).map fun position => (record, position)
  | .identifying =>
    if profileAgrees record.audit c.resolution then
      (write record.audit (.resolveProfile c.resolution)).map fun audit =>
        ({ record with audit }, resolvedAt c.resolution)
    else none
  | .rejected =>
    (finalizeFailure record.audit (some .identifying) c.now).map fun audit =>
      ({ record with audit }, .returned)
  | .pinning profileVersionId =>
    match c.packIds with
    | none => some (record, .loading profileVersionId)
    | some _ => some (record, .pinRead profileVersionId record.audit.versionRefs)
  | .pinRead profileVersionId refs =>
    some ({ record with audit := pinAssessment record.audit refs (c.packIds.getD []) },
      .loading profileVersionId)
  | .loading profileVersionId =>
    some (record, .checkpoint profileVersionId c.knowledgePackVersionId .parsing)
  | .checkpoint profileVersionId pack .evaluating =>
    (pinCompliance record.audit c.rulePack c.policyId).map fun audit =>
      ({ record with audit }, .working profileVersionId pack .evaluating)
  | .checkpoint profileVersionId pack next =>
    (write record.audit (.pinVersions profileVersionId pack next.stage)).map fun audit =>
      ({ record with audit }, .working profileVersionId pack next)
  | .working profileVersionId pack .parsing =>
    some (record, .checkpoint profileVersionId pack .interpreting)
  | .working profileVersionId pack .interpreting =>
    some (record, .checkpoint profileVersionId pack .resolvingState)
  | .working profileVersionId pack .resolvingState =>
    some (record, .checkpoint profileVersionId pack .evaluating)
  | .working _ _ .evaluating =>
    -- `persist_audit_findings` and `persist_assessment_results`, in one commit
    if record.audit.status = .processing then
      let findings := ownFindings record.audit.auditId c.findings
      let audit := match c.coverage with
        | some coverage => worked (.assess coverage) record.audit
        | none => record.audit
      some ({ audit, findings }, .finalizing findings)
    else none
  | .finalizing findings =>
    (write record.audit (.finalize (countsOf (findings.map (verdictValue ·.verdict)))
      (countsOf (findings.map (severityValue ·.severity))) c.now)).map fun audit =>
        ({ record with audit }, .returned)
  | .failing => some (record, .failingAt record.audit.processingStage)
  | .failingAt stage =>
    -- the exceptions of `mark_failed` are dropped, and `JobError` is raised
    some ({ record with audit := (finalizeFailure record.audit stage c.now).getD record.audit },
      .raised)
  | .returned => some (record, .returned)
  | .raised => some (record, .raised)

/-- How a transaction goes. -/
inductive Outcome where
  | proceeds (computed : Computed)
  /-- It is rolled back with an exception that the handler names. -/
  | declared
  /-- It is rolled back with any other exception. -/
  | undeclared

/-- `run` or `mark_failed` has ended. -/
def Position.ended : Position → Bool
  | .returned | .raised => true
  | _ => false

/-- Where an exception that the handler names leads: to `mark_failed`, whose own is dropped. -/
def Position.caught : Position → Position
  | .failing | .failingAt _ => .raised
  | .returned => .returned
  | .raised => .raised
  | _ => .failing

def advance (record : Record) (position : Position) : Outcome → Record × Position
  | .proceeds computed => (proceed record computed position).getD (record, position.caught)
  | .declared => (record, position.caught)
  | .undeclared => (record, if position.ended then position else .raised)

/-- A call of a job's handler. -/
inductive Handler where
  | entered
  /-- The coordinator runs for an audit of an organization. -/
  | running (auditId organizationId : UUID) (position : Position)
  /-- The handler of a job that is not about processing an audit. -/
  | other
  /-- It has returned, or raised, without calling `run`. -/
  | done (returned : Bool)
  deriving DecidableEq

/-- `None` while the handler runs, then whether it returned. -/
def Handler.result : Handler → Option Bool
  | .running _ _ .returned => some true
  | .running _ _ .raised => some false
  | .done returned => some returned
  | _ => none

/-- The types of the jobs that `AuditJobHandler` takes. -/
def isAuditJob (job : Jobs.Job) : Bool :=
  job.jobType == .audit || job.jobType == .reEvaluation

def Handler.of (job : Jobs.Job) : Handler := if isAuditJob job then .entered else .other

/-- The statuses of an audit that has ended. -/
def isTerminal (status : AuditStatus) : Bool :=
  status == .completed || status == .completedWithUnknowns || status == .completedWithErrors ||
    status == .failed

/-- What `AuditJobHandler.__call__` reads before it calls `run`. -/
def enter (jobs : Jobs.JobTable) (audits : List Audit) (jobId : UUID) : Handler :=
  match Table.find? Jobs.Job.jobId jobs jobId with
  | none => .done false
  | some job =>
    match isAuditJob job, job.auditId with
    | true, some auditId =>
      match Table.find? Audit.auditId audits auditId with
      | none => .done false
      | some audit =>
        if job.deviceId ≠ some audit.deviceId then .done false
        else if isTerminal audit.status then .done true
        else .running auditId audit.organizationId .called
    | _, _ => .done false

/-- What a new row of audits keeps of the one before it. -/
structure Continues (audit audit' : Audit) : Prop where
  auditId : audit'.auditId = audit.auditId
  organizationId : audit'.organizationId = audit.organizationId
  deviceId : audit'.deviceId = audit.deviceId
  started : audit.status ≠ .draft → audit'.status ≠ .draft

theorem Continues.refl (audit : Audit) : Continues audit audit := ⟨rfl, rfl, rfl, id⟩

theorem worked_continues (work : Work) (audit : Audit) : Continues audit (worked work audit) := by
  have hsame := worked_sameRevision work audit
  refine ⟨hsame.auditId, hsame.organizationId, hsame.deviceId, fun hstarted => ?_⟩
  cases work with
  | submit => simp [worked, write, hstarted]
  | finalize verdictCounts severityCounts now =>
    simp only [worked, write]
    split
    · rcases terminalStatus_inactive verdictCounts with h | h | h <;> simp [h]
    · exact hstarted
  | _ =>
    simp only [worked, write]
    (try split) <;> simp [hstarted]

theorem write_continues {work : Work} {audit audit' : Audit} (h : write audit work = some audit') :
    Continues audit audit' := by
  have hworked := worked_continues work audit
  rwa [worked, h, Option.getD_some] at hworked

/-- The findings of a record are those of its audit. -/
def Record.Own (record : Record) : Prop :=
  ∀ finding ∈ record.findings, finding.auditId = record.audit.auditId

theorem finalizeFailure_continues {audit audit' : Audit} {stage : Option AuditProcessingStage}
    {now : Int} (h : finalizeFailure audit stage now = some audit') : Continues audit audit' := by
  unfold finalizeFailure at h
  split at h
  · obtain rfl := Option.some.inj h
    exact worked_continues _ audit
  · cases h

theorem pinCompliance_cases {audit audit' : Audit} {expected policyId : String}
    (h : pinCompliance audit expected policyId = some audit') :
    ∃ packs, pinnedPacks audit.versionRefs expected = some packs ∧ audit.status = .processing ∧
      ((Dict.get? audit.versionRefs policyKey).getD .none = .none ∨
        (Dict.get? audit.versionRefs policyKey).getD .none = .str policyId) ∧
      audit' = { audit with
        versionRefs :=
          mergeRefs audit.versionRefs [(rulePacksKey, packs), (policyKey, .str policyId)]
        processingStage := some .evaluating } := by
  unfold pinCompliance at h
  dsimp only at h
  split at h
  next hguard =>
    obtain ⟨packs, hpacks, haudit⟩ := Option.map_eq_some_iff.mp h
    exact ⟨packs, hpacks, hguard.1, hguard.2, haudit.symm⟩
  next => cases h

theorem pinCompliance_continues {audit audit' : Audit} {expected policyId : String}
    (h : pinCompliance audit expected policyId = some audit') : Continues audit audit' := by
  obtain ⟨packs, -, -, -, rfl⟩ := pinCompliance_cases h
  exact ⟨rfl, rfl, rfl, id⟩

/-- A transaction goes on with the audit and with its own findings. -/
structure Kept (record record' : Record) : Prop where
  continues : Continues record.audit record'.audit
  own : record.Own → record'.Own

theorem Kept.refl (record : Record) : Kept record record := ⟨.refl _, id⟩

theorem kept_of_continues {record : Record} {audit : Audit} (h : Continues record.audit audit) :
    Kept record { record with audit } := by
  refine ⟨h, fun hown finding hfinding => ?_⟩
  exact (hown finding hfinding).trans h.auditId.symm

theorem kept_of_map {record record' : Record} {position position' : Position}
    {written : Option Audit} (hwritten : ∀ audit, written = some audit → Continues record.audit audit)
    (h : written.map (fun audit => ({ record with audit }, position)) = some (record', position')) :
    Kept record record' := by
  obtain ⟨audit, haudit, heq⟩ := Option.map_eq_some_iff.mp h
  obtain ⟨rfl, -⟩ := Prod.mk.inj heq
  exact kept_of_continues (hwritten audit haudit)

theorem proceed_kept {record record' : Record} {c : Computed} {position position' : Position}
    (h : proceed record c position = some (record', position')) : Kept record record' := by
  cases position with
  | called => exact kept_of_map (fun audit => write_continues) h
  | begun =>
    obtain ⟨next, -, heq⟩ := Option.map_eq_some_iff.mp h
    obtain ⟨rfl, -⟩ := Prod.mk.inj heq
    exact .refl record
  | identifying =>
    simp only [proceed] at h
    split at h
    · exact kept_of_map (fun audit => write_continues) h
    · cases h
  | rejected => exact kept_of_map (fun audit => finalizeFailure_continues) h
  | pinning profileVersionId =>
    simp only [proceed] at h
    split at h <;> (obtain ⟨rfl, -⟩ := Prod.mk.inj (Option.some.inj h); exact .refl record)
  | pinRead profileVersionId refs =>
    obtain ⟨rfl, -⟩ := Prod.mk.inj (Option.some.inj h)
    exact kept_of_continues ⟨rfl, rfl, rfl, id⟩
  | loading profileVersionId =>
    obtain ⟨rfl, -⟩ := Prod.mk.inj (Option.some.inj h)
    exact .refl record
  | checkpoint profileVersionId pack next =>
    cases next with
    | evaluating => exact kept_of_map (fun audit => pinCompliance_continues) h
    | _ => exact kept_of_map (fun audit => write_continues) h
  | working profileVersionId pack stage =>
    cases stage with
    | evaluating =>
      simp only [proceed] at h
      split at h
      · obtain ⟨rfl, -⟩ := Prod.mk.inj (Option.some.inj h)
        cases hcoverage : c.coverage with
        | none => exact ⟨.refl _, fun _ => by simp [Record.Own, ownFindings]⟩
        | some coverage =>
          exact ⟨worked_continues (.assess coverage) record.audit,
            fun _ => by simp [Record.Own, ownFindings, worked, write]⟩
      · cases h
    | _ =>
      obtain ⟨rfl, -⟩ := Prod.mk.inj (Option.some.inj h)
      exact .refl record
  | finalizing findings => exact kept_of_map (fun audit => write_continues) h
  | failing =>
    obtain ⟨rfl, -⟩ := Prod.mk.inj (Option.some.inj h)
    exact .refl record
  | failingAt stage =>
    obtain ⟨rfl, -⟩ := Prod.mk.inj (Option.some.inj h)
    cases hfailed : finalizeFailure record.audit stage c.now with
    | none => exact .refl record
    | some audit => exact kept_of_continues (finalizeFailure_continues hfailed)
  | returned =>
    obtain ⟨rfl, -⟩ := Prod.mk.inj (Option.some.inj h)
    exact .refl record
  | raised =>
    obtain ⟨rfl, -⟩ := Prod.mk.inj (Option.some.inj h)
    exact .refl record

theorem advance_kept {record record' : Record} {position position' : Position} {outcome : Outcome}
    (h : advance record position outcome = (record', position')) : Kept record record' := by
  cases outcome with
  | proceeds computed =>
    rw [advance] at h
    cases hproceed : proceed record computed position with
    | none =>
      rw [hproceed] at h
      obtain ⟨rfl, -⟩ := Prod.mk.inj h
      exact .refl record
    | some result =>
      rw [hproceed] at h
      exact proceed_kept (hproceed.trans (congrArg some h))
  | declared =>
    obtain ⟨rfl, -⟩ := Prod.mk.inj h
    exact .refl record
  | undeclared =>
    obtain ⟨rfl, -⟩ := Prod.mk.inj h
    exact .refl record

end ConfigAuditor.Audits.Coordinator
