import ConfigAuditor.Library.Value
import ConfigAuditor.SecurityModel

/-!
# Snapshot evidence

`app.profile_resolution.evidence`: the documents of a snapshot that profile resolution reads.
-/
namespace ConfigAuditor.ProfileResolution

open Library SecurityModel

structure EvidenceDocument where
  artifactId : UUID
  snapshotId : UUID
  evidenceType : ArtifactEvidenceType
  originalFilename : String
  sourceMetadata : List (String × PyValue) := []
  text : String
  truncated : Bool := false

structure EvidenceIssue where
  artifactId : UUID
  code : String

structure SnapshotEvidence where
  documents : List EvidenceDocument
  issues : List EvidenceIssue := []

end ConfigAuditor.ProfileResolution
