import ConfigAuditor.Assessment.CoverageSummary
import ConfigAuditor.Audits.Model
import ConfigAuditor.Library.Runs
import ConfigAuditor.Library.Sorting
import ConfigAuditor.Library.Table
import ConfigAuditor.Library.UuidText

/-!
# The coverage of the dashboard

`_assessment_coverage` counts the stored results of the latest completed audit of each device.
Each audit also stores its own summary, which counts the results that are not applicable too.
-/
namespace ConfigAuditor.Dashboard.Coverage

open Library Tallies Runs ProfileResolution EffectiveState.Model Compliance.Model
  Assessment.Model Assessment.Service Assessment.CoverageSummary

/-- What the dashboard reads of an audit. An audit without an assessment stores no counts. -/
structure AuditRow where
  auditId : UUID
  organizationId : UUID
  deviceId : UUID
  status : Audits.AuditStatus
  createdAt : Int
  coverage : Option Coverage := none
  deriving DecidableEq

/-- A row of `AssessmentResult`. -/
structure AssessmentResultRow where
  auditId : UUID
  organizationId : UUID
  result : AssessmentResult
  deriving DecidableEq

structure Store where
  audits : List AuditRow
  results : List AssessmentResultRow

/-- A call of `persist_assessment_results`, and what it reads. -/
structure AssessmentCall where
  catalogs : Catalogs
  pins : PinnedAssessment
  profileVersionId : String
  states : List EffectiveStateRow
  findings : List FindingDraft

def rowOf (pins : PinnedAssessment) (result : AssessmentResult) : AssessmentResultRow :=
  { auditId := pins.auditId, organizationId := pins.organizationId, result := result }

def AuditRow.withCoverage (coverage : Coverage) (audit : AuditRow) : AuditRow :=
  { audit with coverage := some coverage }

/-- The old results of the audit are deleted, the new ones and their summary stored. -/
def Store.replaceResults (s : Store) (pins : PinnedAssessment)
    (results : List AssessmentResult) : Store :=
  { audits := Table.modify (·.auditId) s.audits pins.auditId
      (AuditRow.withCoverage (coverageSummary results)),
    results := s.results.filter (·.auditId != pins.auditId) ++ results.map (rowOf pins) }

/-- A call changes nothing where the audit is not found, pins no packs, or an error rolls the
transaction back. -/
def persist (sha256 : String → String) (s : Store) (call : AssessmentCall) : Store :=
  match Audits.owned AuditRow.auditId AuditRow.organizationId s.audits call.pins.auditId
      call.pins.organizationId with
  | none => s
  | some _ =>
    if call.pins.packIds.isEmpty then s
    else
      match persistAssessmentResults sha256 call.catalogs call.pins call.profileVersionId
          call.states call.findings with
      | .error _ => s
      | .ok results => s.replaceResults call.pins results

/-- The counts of `_assessment_coverage`. -/
structure AssessmentCounts where
  automatic : Nat := 0
  manual : Nat := 0
  unimplemented : Nat := 0
  pass : Nat := 0
  fail : Nat := 0
  unknown : Nat := 0
  deriving DecidableEq, Repr

def countVerdictOf (c : AssessmentCounts) (verdict : Option FindingVerdict) : AssessmentCounts :=
  match verdict with
  | some .pass => { c with pass := c.pass + 1 }
  | some .fail => { c with fail := c.fail + 1 }
  | some .unknown => { c with unknown := c.unknown + 1 }
  | _ => c

/-- One turn of the loop of `_assessment_coverage`. -/
def countRow (c : AssessmentCounts) (result : AssessmentResult) : AssessmentCounts :=
  if result.applicabilityStatus ≠ .applicable then c
  else if result.implementationStatus = .unimplemented then
    { c with unimplemented := c.unimplemented + 1 }
  else if result.implementationStatus = .manual ∨ result.assessmentMethod = .manual then
    { c with manual := c.manual + 1 }
  else if result.implementationStatus = .implemented ∧ result.assessmentMethod = .automatic then
    countVerdictOf { c with automatic := c.automatic + 1 } result.verdict
  else c

/-- `_assessment_coverage`. -/
def assessmentCoverage (results : List AssessmentResult) : AssessmentCounts :=
  results.foldl countRow {}

/-- `COMPLETED`. -/
def completed : List Audits.AuditStatus :=
  [.completed, .completedWithUnknowns, .completedWithErrors]

/-- The audits, latest first. -/
def latestFirst (audits : List AuditRow) : List AuditRow :=
  sortedBy (fun audit => OrderDual.toDual (toLex (audit.createdAt, audit.auditId.str))) audits

/-- The latest completed audit of a device. -/
def completedAudit? (audits : List AuditRow) (deviceId : UUID) : Option AuditRow :=
  ((latestFirst audits).filter (·.deviceId == deviceId)).find? (completed.contains ·.status)

/-- `selected`: one entry for each device that has a completed audit. -/
def selectedAudits (devices : List UUID) (audits : List AuditRow) : List AuditRow :=
  devices.dedup.filterMap (completedAudit? audits)

/-- The results of the selected audits. -/
def selectedResults (selected : List AuditRow) (rows : List AssessmentResultRow) :
    List AssessmentResult :=
  (rows.filter fun row => (selected.map (·.auditId)).contains row.auditId).map (·.result)

/-- The audits and results `get_dashboard` reads for an organization. -/
def auditsOf (organizationId : UUID) (audits : List AuditRow) : List AuditRow :=
  audits.filter (·.organizationId == organizationId)

def resultsOf (organizationId : UUID) (audits : List AuditRow)
    (rows : List AssessmentResultRow) : List AssessmentResultRow :=
  rows.filter fun row => row.organizationId == organizationId &&
    ((auditsOf organizationId audits).map (·.auditId)).contains row.auditId

end ConfigAuditor.Dashboard.Coverage
