import ConfigAuditor.Audits.Model
import ConfigAuditor.Ingestion.Storage

/-!
# Reports of completed audits

`app.reporting.service`, `app.reporting.storage` and the download of `app.api.v1.reports`. A
report is requested, rendered by a job and stored; the transactions lock its row. What is
rendered is an argument, and so are the failures of the storage and of a commit.
-/
namespace ConfigAuditor.Reporting

open Library PathText
open Audits (Audit AuditStatus owned)
open Ingestion (Files Path Root SystemFault)
open Training (User)

inductive ReportStatus where
  | pending
  | generating
  | ready
  | failed
  deriving DecidableEq, Repr

/-- A row of `reports`. -/
structure Report where
  reportId : UUID
  organizationId : UUID
  deviceId : UUID
  auditId : UUID
  status : ReportStatus := .pending
  storageReference : Option String := none
  sha256 : Option String := none
  byteSize : Option Nat := none
  templateVersion : String := "1.0.0"
  generatorVersion : String := "1.0.0"
  auditSchemaVersion : String
  sourceFindingIds : List String
  generatedBy : Option UUID
  generatedAt : Option Int := none
  failureCode : Option String := none
  failureMessage : Option String := none
  deriving DecidableEq

/-- The exceptions of the workflow and of the storage, and the responses of the download. -/
inductive ReportError where
  | reporting (message : String)
  | notFound (message : String)
  | invalidReference (message : String)
  | alreadyExists (message : String)
  | contentNotFound (message : String)
  | storage (message : String)
  | job (error : Jobs.JobError)
  | http (status : Nat) (detail : String)
  deriving DecidableEq, Repr

/-- `storage_reference`. -/
def storageReference (organizationId reportId : UUID) : String :=
  Text.join "/" ["organizations", organizationId.str, "reports", reportId.str ++ ".pdf"]

def invalidReference : ReportError := .invalidReference "Invalid report storage reference"

/-- `_path`. -/
def pathOf (root : Root) (reference : String) : Except ReportError Path :=
  let cs := reference.toList
  if posixAbsolute cs || cs.contains '\\' then .error invalidReference
  else
    match (posixParts cs).map String.ofList with
    | [organizations, organization, reports, report] =>
      if organizations ≠ "organizations" ∨ reports ≠ "reports" ∨ ¬ report.endsWith ".pdf" then
        .error invalidReference
      else if (UUID.ofText? organization).isNone ||
          (UUID.ofText? (String.ofList (report.toList.take (report.length - 4)))).isNone then
        .error invalidReference
      else
        match root.resolve (root.directory ++ [organizations, organization, reports, report]) with
        | none => .error invalidReference
        | some target =>
          if root.directory.isPrefixOf target then .ok target else .error invalidReference
    | _ => .error invalidReference

def alreadyExists : ReportError := .alreadyExists "Report already exists"

/-- `write`. -/
def write (root : Root) (files : Files) (data : ByteArray) (organizationId reportId : UUID)
    (fault : Option SystemFault) : Files × Except ReportError String :=
  let reference := storageReference organizationId reportId
  match pathOf root reference, fault with
  | .error error, _ => (files, .error error)
  | .ok _, some .osError => (files, .error (.storage "Unable to store report"))
  | .ok _, some .fileExists => (files, .error alreadyExists)
  | .ok target, none =>
    match FileTree.publish? files target data with
    | none => (files, .error alreadyExists)
    | some files => (files, .ok reference)

/-- `read`. -/
def read (root : Root) (files : Files) (reference : String) (fault : Bool) :
    Except ReportError ByteArray := do
  let target ← pathOf root reference
  if fault then throw (.storage "Unable to read report")
  match FileTree.content files target with
  | none => throw (.contentNotFound "Report bytes were not found")
  | some data => return data

structure State where
  audits : List Audit := []
  /-- The findings of the audits, as pairs of the audit and the finding. -/
  findings : List (UUID × UUID) := []
  reports : List Report := []
  jobs : Jobs.JobTable := []
  files : Files := []

/-- The ids of the findings of an audit, in the order of the ids. -/
def State.findingIds (s : State) (auditId : UUID) : List String :=
  ((sortedBy UUID.int ((s.findings.filter (·.1 = auditId)).map (·.2))).map UUID.str)

/-- The statuses whose audits can be reported. -/
def reportable : List AuditStatus := [.completed, .completedWithUnknowns, .completedWithErrors]

/-- The job of a report. -/
def reportJob (jobId : UUID) (now : Int) (report : Report) : Jobs.EnqueueInput where
  jobId
  jobType := .pdfGeneration
  createdAt := now
  payload := [("report_id", .str report.reportId.str)]
  auditId := some report.auditId
  deviceId := some report.deviceId
  stage := some "report_generation"

/-- `create_report`; `reportId`, `jobId` and `now` are drawn by the operation. -/
def createReport (s : State) (user : User) (auditId reportId jobId : UUID) (now : Int) :
    Except ReportError (State × Report) :=
  match owned Audit.auditId Audit.organizationId s.audits auditId user.organizationId with
  | none => .error (.notFound "Audit not found")
  | some audit =>
    if !reportable.contains audit.status then .error (.reporting "Audit is not complete")
    else
      let report : Report :=
        { reportId, organizationId := user.organizationId, deviceId := audit.deviceId, auditId,
          auditSchemaVersion := audit.schemaVersion, sourceFindingIds := s.findingIds auditId,
          generatedBy := some user.userId }
      match Table.insert? Report.reportId s.reports report,
          Jobs.enqueueJob s.jobs (reportJob jobId now report) with
      | some reports, .ok jobs => .ok ({ s with reports, jobs }, report)
      | none, _ => .error (.job .duplicateKey)
      | _, .error error => .error (.job error)

def cannotBeGenerated : ReportError := .reporting "Report cannot be generated"

/-- `mark_generating`. -/
def markGenerating (s : State) (reportId : UUID) : Except ReportError State :=
  match Table.find? Report.reportId s.reports reportId with
  | none => .error cannotBeGenerated
  | some report =>
    if report.status ≠ .pending then .error cannotBeGenerated
    else .ok { s with
      reports := Table.modify Report.reportId s.reports reportId
        fun report => { report with status := .generating } }

/-- The row of a report that was stored. -/
def readyReport (sha256 : ByteArray → String) (data : ByteArray) (reference : String) (now : Int)
    (report : Report) : Report :=
  { report with
    storageReference := some reference, sha256 := some (sha256 data), byteSize := some data.size,
    generatedAt := some now, status := .ready }

/-- `generate_report`, with what the renderer returns or raises: the row, and the files as the
transaction leaves them also when it raises. -/
def generateReport (root : Root) (sha256 : ByteArray → String) (s : State) (reportId : UUID)
    (pdf : Except ReportError ByteArray) (fault : Option SystemFault) (now : Int) :
    Files × Except ReportError (List Report) :=
  match Table.find? Report.reportId s.reports reportId with
  | none => (s.files, .error cannotBeGenerated)
  | some report =>
    if report.status ≠ .generating then (s.files, .error cannotBeGenerated)
    else if s.findingIds report.auditId ≠ report.sourceFindingIds then
      (s.files, .error (.reporting "Report source findings changed"))
    else
      match pdf with
      | .error error => (s.files, .error error)
      | .ok data =>
        match write root s.files data report.organizationId reportId fault with
        | (files, .error error) => (files, .error error)
        | (files, .ok reference) =>
          (files, .ok (Table.modify Report.reportId s.reports reportId
            (readyReport sha256 data reference now)))

/-- A report that failed. -/
def failedReport (report : Report) : Report :=
  if report.status = .pending ∨ report.status = .generating then
    { report with
      status := .failed, failureCode := some "generation_failed",
      failureMessage := some "Report generation failed" }
  else report

/-- `fail_report`. -/
def failReport (s : State) (reportId : UUID) : State :=
  { s with reports := Table.modify Report.reportId s.reports reportId failedReport }

/-- `report_download`. -/
def download (root : Root) (sha256 : ByteArray → String) (s : State) (user : User)
    (reportId : UUID) (fault : Bool) : Except ReportError ByteArray :=
  match owned Report.reportId Report.organizationId s.reports reportId user.organizationId with
  | none => .error (.http 404 "Report not found")
  | some report =>
    match report.status, report.storageReference.filter (· ≠ "") with
    | .ready, some reference =>
      match read root s.files reference fault with
      | .error (.contentNotFound _) => .error (.http 404 "Report content not found")
      | .error error => .error error
      | .ok content =>
        if report.byteSize ≠ some content.size ∨ report.sha256 ≠ some (sha256 content) then
          .error (.http 409 "Report content failed integrity verification")
        else .ok content
    | _, _ => .error (.http 409 "Report is not ready")

end ConfigAuditor.Reporting
