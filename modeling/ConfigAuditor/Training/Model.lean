import Mathlib.Data.Prod.Lex
import ConfigAuditor.Library.Sorting
import ConfigAuditor.Library.Table
import ConfigAuditor.ProfileResolution.Registry
import ConfigAuditor.Training.Dsl

/-!
# The tables of the training workflow

Mapping versions, their validation runs, the packs they are published in, and the review
state of unresolved blocks (`app.db.models.training`). Instants count microseconds.
-/
namespace ConfigAuditor.Training

open Library Dsl

inductive UserRole where
  | analyst
  | mappingAdmin
  | admin
  deriving DecidableEq, Repr

structure User where
  userId : UUID
  organizationId : UUID
  role : UserRole
  deriving DecidableEq

inductive UnresolvedReviewStatus where
  | openReview
  | underReview
  | mapped
  | dismissed
  | notActionable
  deriving DecidableEq, Repr

inductive MappingStatus where
  | suggested
  | draft
  | testing
  | approved
  | published
  | superseded
  | rejected
  deriving DecidableEq, Repr

inductive MappingOrigin where
  | builtIn
  | administrator
  | aiAssisted
  deriving DecidableEq, Repr

inductive ValidationRunStatus where
  | pending
  | running
  | passed
  | failed
  deriving DecidableEq, Repr

/-- The columns of `UnresolvedBlock` that the workflow reads or writes. -/
structure ReviewBlock where
  unresolvedBlockId : UUID
  organizationId : UUID
  profileVersionId : Option String
  fingerprint : String
  reviewStatus : UnresolvedReviewStatus := .openReview
  assignedMappingVersionId : Option UUID := none
  deriving DecidableEq

inductive SemanticStatus where
  | matched
  | invalidMatch
  | noMatch
  deriving DecidableEq, Repr

/-- What a validation against an evidence artifact records. -/
structure SemanticResult where
  status : SemanticStatus
  evidenceArtifactId : UUID
  evidenceDigest : String
  deriving DecidableEq

/-- The results of `validate_definition`. -/
structure ValidationResults where
  passed : Bool
  families : List (ExampleFamily × Bool)
  semantic : Option SemanticResult
  negativeSemantic : Option SemanticResult
  definitionDigest : String
  profileDigest : String
  contentDigest : String
  validationDigest : String
  deriving DecidableEq

structure MappingVersion where
  mappingVersionId : UUID
  mappingId : UUID
  organizationId : UUID
  mappingKey : String
  version : Nat
  previousMappingVersionId : Option UUID := none
  title : String
  description : String
  status : MappingStatus
  /-- The columns that `_apply_definition` writes. -/
  definition : MappingDefinition
  validationResults : Option ValidationResults := none
  origin : MappingOrigin
  createdBy : UUID
  approvedBy : Option UUID := none
  knowledgePackVersionId : Option UUID := none
  approvedAt : Option Int := none
  publishedAt : Option Int := none
  deriving DecidableEq

/-- `results` holds the evidence of a pending run, and the results of a finished one. -/
structure MappingValidationRun where
  validationRunId : UUID
  organizationId : UUID
  mappingVersionId : UUID
  status : ValidationRunStatus := .pending
  evidenceArtifactId : Option UUID := none
  negativeEvidenceArtifactId : Option UUID := none
  results : Option ValidationResults := none
  createdAt : Int
  completedAt : Option Int := none
  deriving DecidableEq

structure KnowledgePackRecord where
  knowledgePackId : UUID
  organizationId : UUID
  packKey : String
  name : String
  deriving DecidableEq

structure KnowledgePackVersionRecord where
  knowledgePackVersionId : UUID
  knowledgePackId : UUID
  organizationId : UUID
  version : Nat
  previousKnowledgePackVersionId : Option UUID
  mappingVersionIds : List UUID
  publishedBy : UUID
  publishedAt : Int
  schemaVersion : String := "1.0.0"
  deriving DecidableEq

structure Database where
  blocks : List ReviewBlock
  mappings : List MappingVersion
  runs : List MappingValidationRun
  packs : List KnowledgePackRecord
  packVersions : List KnowledgePackVersionRecord
  deriving DecidableEq

/-- A database in which nothing has been trained yet. -/
def Database.untrained (blocks : List ReviewBlock) : Database :=
  { blocks, mappings := [], runs := [], packs := [], packVersions := [] }

/-- `mapping_by_id`. -/
def Database.mappingById (db : Database) (mappingVersionId organizationId : UUID) :
    Option MappingVersion :=
  (Table.find? MappingVersion.mappingVersionId db.mappings mappingVersionId).filter fun version =>
    version.organizationId == organizationId

/-- `unresolved_by_id`. -/
def Database.unresolvedById (db : Database) (blockId organizationId : UUID) :
    Option ReviewBlock :=
  (Table.find? ReviewBlock.unresolvedBlockId db.blocks blockId).filter fun block =>
    block.organizationId == organizationId

/-- `ORDER BY created_at DESC, validation_run_id DESC`. -/
def runKey (run : MappingValidationRun) : Int ×ₗ Nat :=
  toLex (run.createdAt, run.validationRunId.int)

/-- `latest_validation`. -/
def Database.latestValidation (db : Database) (mappingVersionId : UUID) :
    Option MappingValidationRun :=
  (sortedBy runKey (db.runs.filter (·.mappingVersionId == mappingVersionId))).getLast?

/-- `published_mappings`, without its order, which no caller needs. -/
def Database.publishedMappings (db : Database) (organizationId : UUID) : List MappingVersion :=
  db.mappings.filter fun version =>
    version.organizationId == organizationId && version.status == .published

/-- Changes to the rows of one mapping version. -/
def Database.modifyMapping (db : Database) (mappingVersionId : UUID)
    (f : MappingVersion → MappingVersion) : Database :=
  { db with mappings := Table.modify MappingVersion.mappingVersionId db.mappings mappingVersionId f }

theorem Database.mappingById_eq_some {db : Database} {mappingVersionId organizationId : UUID}
    {version : MappingVersion}
    (h : db.mappingById mappingVersionId organizationId = some version) :
    version ∈ db.mappings ∧ version.mappingVersionId = mappingVersionId ∧
      version.organizationId = organizationId := by
  obtain ⟨hfind, horganization⟩ := Option.filter_eq_some_iff.mp h
  obtain ⟨hmem, hid⟩ := Table.find?_eq_some hfind
  exact ⟨hmem, hid, by simpa using horganization⟩

theorem Database.latestValidation_eq_some {db : Database} {mappingVersionId : UUID}
    {run : MappingValidationRun} (h : db.latestValidation mappingVersionId = some run) :
    run ∈ db.runs ∧ run.mappingVersionId = mappingVersionId := by
  have hmem := List.mem_of_getLast? h
  rw [mem_sortedBy, List.mem_filter] at hmem
  exact ⟨hmem.1, by simpa using hmem.2⟩

end ConfigAuditor.Training
