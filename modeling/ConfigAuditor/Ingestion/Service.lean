import ConfigAuditor.Ingestion.Storage
import ConfigAuditor.Ingestion.Validator
import ConfigAuditor.Library.Dict
import ConfigAuditor.Library.Table
import ConfigAuditor.Snapshots.Model

/-!
# Taking an upload in

`ingest_artifact` of `app.ingestion.service`. The bytes are stored before the row is committed,
and removed again when the session fails. Any number of uploads are taken in at once, a worker
can stop between two statements, and a commit can fail or be followed by a failed refresh.
-/
namespace ConfigAuditor.Ingestion

open Library Text SecurityModel
open Training (User)
open Snapshots (ArtifactStatus)

/-- A row of `artifacts`, with the columns an upload sets. -/
structure ArtifactRow where
  artifactId : UUID
  organizationId : UUID
  originalFilename : String
  storageReference : String
  byteSize : Nat
  sha256 : String
  mimeType : Option String
  encoding : String
  contentFamily : ArtifactContentFamily
  evidenceType : ArtifactEvidenceType
  status : ArtifactStatus := .ready
  validationIssues : List (List (String × String))
  sourceMetadata : List (String × PyValue)
  uploadedBy : UUID
  schemaVersion : String := "1.0.0"
  deriving DecidableEq

/-- The arguments of `ingest_artifact`. -/
structure Upload where
  user : User
  data : ByteArray
  filename : Option String := none
  mimeType : Option String := none
  sourceMetadata : List (String × PyValue) := []

/-- What the system and the standard library do. -/
structure Services where
  root : Root
  readers : Readers
  unquote : List Char → List Char
  sha256 : ByteArray → String

/-- One turn of the loop over the labels. -/
def labelled (source metadata : List (String × PyValue)) (key : String) :
    Except IngestionError (List (String × PyValue)) :=
  let invalid : IngestionError := .refused "invalid_source_label"
    "Vendor and OS labels must be printable text of at most 128 characters"
  match (Dict.get? source key).getD .none with
  | .none => .ok metadata
  | .str value =>
    if (strip value).isEmpty || 128 < (strip value).length ||
        value.toList.any (fun c => c.toNat < 32) then .error invalid
    else .ok (Dict.set metadata key (.str (strip value)))
  | _ => .error invalid

/-- The row of an upload, when it passes the checks before it is stored. -/
def receive (services : Services) (upload : Upload) (artifactId : UUID) :
    Except IngestionError ArtifactRow := do
  let filename := normalizeFilename services.unquote upload.filename
  let mimeType := normalizeMimeType upload.mimeType
  let validated ← validateAndClassify services.readers upload.data filename mimeType
  let sourceMetadata ← ["vendor_label", "os_label"].foldlM (labelled upload.sourceMetadata)
    [("ingestion", .str "authenticated_upload")]
  return { artifactId, organizationId := upload.user.organizationId,
           originalFilename := filename,
           storageReference := storageReference upload.user.organizationId artifactId,
           byteSize := upload.data.size, sha256 := services.sha256 upload.data, mimeType,
           encoding := validated.encoding, contentFamily := validated.contentFamily,
           evidenceType := validated.evidenceType,
           validationIssues := validated.validationIssues, sourceMetadata,
           uploadedBy := upload.user.userId }

/-- Up to the write: the row to commit, or what is raised. -/
def store (services : Services) (files : Files) (upload : Upload) (artifactId : UUID)
    (fault : Option SystemFault) : Files × Except IngestionError ArtifactRow :=
  match receive services upload artifactId with
  | .error error => (files, .error error)
  | .ok row =>
    match write services.root files upload.data upload.user.organizationId artifactId fault with
    | (files, .ok _) => (files, .ok row)
    | (files, .error _) =>
      (files, .error (.infrastructure "storage_unavailable" "Uploaded evidence could not be stored"))

/-- An upload whose bytes are stored: its row is to be committed, or the session was rolled
back and the bytes are to be deleted. -/
structure Pending where
  row : ArtifactRow
  rolledBack : Bool
  deriving DecidableEq

structure State where
  files : Files := []
  artifacts : List ArtifactRow := []
  pending : List Pending := []

/-- How the statements of the session end. -/
inductive Session where
  | committed
  | commitFailed
  | refreshFailed
  deriving DecidableEq, Repr

inductive Event where
  | store (upload : Upload) (artifactId : UUID) (fault : Option SystemFault)
  | session (reference : String) (outcome : Session)
  | compensate (reference : String) (fault : Bool)
  /-- The process ends between two statements. -/
  | crash (reference : String)

/-- The upload with a reference whose session has not ended, or has been rolled back. -/
def State.find (s : State) (reference : String) (rolledBack : Bool) : Option Pending :=
  s.pending.find? fun upload =>
    upload.row.storageReference == reference && upload.rolledBack == rolledBack

/-- The uploads without the one with a reference. -/
def State.others (s : State) (reference : String) : List Pending :=
  s.pending.filter fun upload => upload.row.storageReference != reference

def step (services : Services) (s : State) : Event → State
  | .store upload artifactId fault =>
    match store services s.files upload artifactId fault with
    | (files, .ok row) => { s with files, pending := ⟨row, false⟩ :: s.pending }
    | (files, .error _) => { s with files }
  | .session reference outcome =>
    match s.find reference false with
    | none => s
    | some upload =>
      let failed : State := { s with pending := ⟨upload.row, true⟩ :: s.others reference }
      match outcome, Table.insert? ArtifactRow.artifactId s.artifacts upload.row with
      | .committed, some artifacts => { s with artifacts, pending := s.others reference }
      | .refreshFailed, some artifacts => { failed with artifacts }
      | _, _ => failed
  | .compensate reference fault =>
    match s.find reference true with
    | none => s
    | some _ =>
      { s with
        files := (delete services.root s.files reference fault).1
        pending := s.others reference }
  | .crash reference => { s with pending := s.others reference }

end ConfigAuditor.Ingestion
