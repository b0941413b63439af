import ConfigAuditor.Jobs.Model
import ConfigAuditor.Snapshots.Model

/-!
# Audits

`app.db.models.audit`: an audit is one revision of the evaluation of a snapshot. The store
holds the tables that the snapshot and the audit workflows share. A transaction that raises
is rolled back; after a commit the rows are read again.
-/
namespace ConfigAuditor.Audits

open Library Snapshots

inductive AuditReevaluationReason where
  | initial
  | knowledgePackUpdate
  | rulePackUpdate
  | policyUpdate
  | profileCorrection
  | manualReevaluation
  | other
  deriving DecidableEq, Repr

inductive AuditStatus where
  | draft
  | queued
  | processing
  | completed
  | completedWithUnknowns
  | completedWithErrors
  | failed
  deriving DecidableEq, Repr

inductive AuditProcessingStage where
  | validating
  | identifying
  | parsing
  | interpreting
  | resolvingState
  | evaluating
  | finalizing
  deriving DecidableEq, Repr

/-- A row of `audits`. -/
structure Audit where
  auditId : UUID
  organizationId : UUID
  deviceId : UUID
  snapshotId : UUID
  auditBatchId : Option UUID := none
  revisionNumber : Nat
  previousAuditId : Option UUID := none
  reevaluationReason : AuditReevaluationReason
  status : AuditStatus
  processingStage : Option AuditProcessingStage := none
  selectedFrameworks : List String
  versionRefs : List (String × PyValue)
  profileResolution : List (String × PyValue) := []
  verdictCounts : List (String × PyValue) := []
  severityCounts : List (String × PyValue) := []
  coverage : List (String × PyValue) := []
  startedAt : Option Int := none
  completedAt : Option Int := none
  createdBy : Option UUID
  schemaVersion : String := "1.0.0"
  deriving DecidableEq

/-- A validated `AuditCreate`. -/
structure AuditCreate where
  snapshotId : UUID
  selectedFrameworks : List String := []
  assessmentPackVersionId : Option UUID := none
  deriving DecidableEq

structure Store where
  devices : List Device := []
  snapshots : List Snapshot := []
  artifacts : List Artifact := []
  audits : List Audit := []
  jobs : Jobs.JobTable := []

/-- The artifacts of a snapshot. -/
def Store.members (s : Store) (snapshotId : UUID) : List Artifact :=
  s.artifacts.filter fun artifact => artifact.snapshotId = some snapshotId

theorem Store.mem_members {s : Store} {snapshotId : UUID} {artifact : Artifact} :
    artifact ∈ s.members snapshotId ↔
      artifact ∈ s.artifacts ∧ artifact.snapshotId = some snapshotId := by
  simp [Store.members]

/-- The row of a table with a key, when it belongs to an organization. -/
def owned {ρ : Type} (key organizationId : ρ → UUID) (rows : List ρ) (id organization : UUID) :
    Option ρ :=
  (Table.find? key rows id).filter fun row => organizationId row == organization

theorem owned_eq_some {ρ : Type} {key organizationId : ρ → UUID} {rows : List ρ}
    {id organization : UUID} {row : ρ}
    (h : owned key organizationId rows id organization = some row) :
    row ∈ rows ∧ key row = id ∧ organizationId row = organization := by
  obtain ⟨hfind, horganization⟩ := Option.filter_eq_some_iff.mp h
  obtain ⟨hmem, hid⟩ := Table.find?_eq_some hfind
  exact ⟨hmem, hid, by simpa using horganization⟩

theorem owned_of_mem {ρ : Type} {key organizationId : ρ → UUID} {rows : List ρ} {row : ρ}
    (hrows : (rows.map key).Nodup) (hrow : row ∈ rows) :
    owned key organizationId rows (key row) (organizationId row) = some row := by
  rw [owned, Table.find?_of_mem hrows hrow]
  simp

/-- A transaction: the body is committed or, when it raises, rolled back. -/
def transact {α : Type} (s : Store) (body : Except WorkflowError Store)
    (reread : Store → Except WorkflowError α) : Store × Except WorkflowError α :=
  match body with
  | .error error => (s, .error error)
  | .ok committed => (committed, reread committed)

theorem transact_cases {α : Type} (s : Store) (body : Except WorkflowError Store)
    (reread : Store → Except WorkflowError α) :
    ((∃ error, body = .error error) ∧ (transact s body reread).1 = s) ∨
      ∃ committed, body = .ok committed ∧
        transact s body reread = (committed, reread committed) := by
  cases body with
  | error error => exact .inl ⟨⟨error, rfl⟩, rfl⟩
  | ok committed => exact .inr ⟨committed, rfl, rfl⟩

end ConfigAuditor.Audits
