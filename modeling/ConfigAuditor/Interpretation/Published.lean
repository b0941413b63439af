import ConfigAuditor.Interpretation.Service
import ConfigAuditor.Training.Model

/-!
# Loading published packs

A published pack version adds the mappings of administrators to the sealed pack of a
profile, or to the empty pack of a runtime profile.
-/
namespace ConfigAuditor.Interpretation.Published

open Library SecurityModel KnowledgePacks Training Training.Dsl ProfileResolution Service

def packIncompatible : Error :=
  .interpretationValidation "knowledge_pack_incompatible"
    "Knowledge Pack is incompatible with this audit"

/-- The keys of `SCOPE_RESOLVERS`. -/
def isScopeResolver (name : String) : Bool := (scopeResolverType name).isSome

/-- `NegationBehavior(operation)`, unsupported where it is no such behavior. -/
def negationBehaviorOf : ExplicitBehavior → NegationBehavior
  | .resetToDefault => .resetToDefault
  | .removeValue => .removeValue
  | .invertBoolean => .invertBoolean
  | .unsupported | .emitValue | .unknown => .unsupported

/-- The mapping `_training_mapping` builds. -/
def adapterOf (row : MappingVersion) : DeclarativeMapping :=
  { mappingId := row.mappingId, mappingVersionId := row.mappingVersionId,
    fieldId := row.definition.targetFieldId,
    matcher :=
      { command := row.definition.structuralMatch.command,
        parentCommand := row.definition.structuralMatch.parentCommand },
    extractor := "training_dsl", scopeResolver := row.definition.scopeResolution.strategy.text,
    declaredValueTypes := [row.definition.valueExtraction.outputType],
    negationBehavior := negationBehaviorOf row.definition.negationBehavior,
    trainingDefinition := some row.definition }

/-- `_training_mapping`. -/
def trainingMapping (row : MappingVersion) (profileVersionId : String) :
    Except Error DeclarativeMapping := do
  raiseIf (!row.definition.profileApplicability.profileVersionIds.contains profileVersionId ||
    !isScopeResolver row.definition.scopeResolution.strategy.text) packIncompatible
  return adapterOf row

section Load

variable (uuid5 : UUID → String → UUID)

def namespaceUrl : UUID := UUID.ofNat 0x6ba7b8119dad11d180b400c04fd430c8

/-- `runtime_baseline_knowledge_pack`. -/
def runtimeBaselineKnowledgePack (profile : ProfileManifest) : KnowledgePack :=
  let identity := uuid5 namespaceUrl ("runtime-profile:" ++ profile.profileVersionId)
  { knowledgePackId := identity, knowledgePackVersionId := identity,
    name := "Runtime declarative baseline", version := "1.0.0", schemaVersion := "1.0.0",
    profileId := profile.profileId, profileVersionId := profile.profileVersionId, mappings := [] }

/-- The baseline a published pack is added to. -/
def baselineKnowledgePack (profile : ProfileManifest) (profileVersionId : String) :
    Except Error KnowledgePack :=
  if (profileRegistry profileVersionId).isSome then loadValidatedKnowledgePack profileVersionId
  else return runtimeBaselineKnowledgePack uuid5 profile

/-- The pack of a version record, before its validation. -/
def publishedPack (record : KnowledgePackRecord) (version : KnowledgePackVersionRecord)
    (profile : ProfileManifest) (profileVersionId : String) (rows : List MappingVersion) :
    Except Error KnowledgePack := do
  let baseline ← baselineKnowledgePack uuid5 profile profileVersionId
  let mappings ← (sortedBy (·.mappingVersionId.str) rows).mapM
    (trainingMapping · profileVersionId)
  return {
    knowledgePackId := record.knowledgePackId,
    knowledgePackVersionId := version.knowledgePackVersionId, name := record.name,
    version := toString version.version, schemaVersion := version.schemaVersion,
    profileId := profile.profileId, profileVersionId,
    mappings := baseline.mappings ++ mappings }

/-- The rows of the mappings of a version that belong to the organization. -/
def versionRows (db : Database) (organizationId : UUID) (version : KnowledgePackVersionRecord) :
    List MappingVersion :=
  db.mappings.filter fun row =>
    version.mappingVersionIds.contains row.mappingVersionId && row.organizationId == organizationId

/-- `load_published_knowledge_pack` of a version record of the organization. -/
def loadVersion (db : Database) (organizationId : UUID) (version : KnowledgePackVersionRecord)
    (profileVersionId : String) (profile : Option ProfileManifest) :
    Except Error KnowledgePack :=
  match Table.find? KnowledgePackRecord.knowledgePackId db.packs version.knowledgePackId,
      profile with
  | some record, some profile =>
    if version.mappingVersionIds.isEmpty then .error packUnavailable
    else
      let rows := versionRows db organizationId version
      if rows.length != version.mappingVersionIds.length then .error packInvalid
      else do
        let pack ← publishedPack uuid5 record version profile profileVersionId rows
        reportInvalid (validateKnowledgePack pack profile.profileId profileVersionId)
  | _, _ => .error packUnavailable

/-- `ORDER BY published_at DESC, version DESC, knowledge_pack_version_id DESC`. -/
def versionKey (version : KnowledgePackVersionRecord) : Int ×ₗ Nat ×ₗ Nat :=
  toLex (version.publishedAt, toLex (version.version, version.knowledgePackVersionId.int))

/-- The versions of the organization, newest first. -/
def packVersionsOf (db : Database) (organizationId : UUID) : List KnowledgePackVersionRecord :=
  (sortedBy versionKey (db.packVersions.filter (·.organizationId == organizationId))).reverse

/-- The values of `latest_by_pack`: the newest version of every pack. -/
def latestByPack (db : Database) (organizationId : UUID) : List KnowledgePackVersionRecord :=
  (packVersionsOf db organizationId).filter fun version =>
    (packVersionsOf db organizationId).all fun other =>
      other.knowledgePackId != version.knowledgePackId || versionKey other ≤ versionKey version

/-- Whether a mapping of a candidate pack serves fresh audits of the profile. -/
def isActive (profileVersionId : String) (row : MappingVersion) : Bool :=
  row.status == .published && row.approvedBy.isSome && row.publishedAt.isSome &&
    row.definition.profileApplicability.profileVersionIds.contains profileVersionId

/-- A pack version all of whose mappings are active for the profile. -/
def isCandidate (db : Database) (organizationId : UUID) (profileVersionId : String)
    (version : KnowledgePackVersionRecord) : Bool :=
  let rows := versionRows db organizationId version
  !version.mappingVersionIds.isEmpty &&
    rows.length == version.mappingVersionIds.length && rows.all (isActive profileVersionId)

/-- `load_active_published_knowledge_pack`, with the profile it looks up. -/
def loadActivePublishedKnowledgePack (db : Database) (organizationId : UUID)
    (profileVersionId : String) (profile : Option ProfileManifest) :
    Except Error (Option KnowledgePack) :=
  match profile with
  | none => return none
  | some profile =>
    match (latestByPack db organizationId).filter
        (isCandidate db organizationId profileVersionId) with
    | [selected] => do
      return some (← loadVersion uuid5 db organizationId selected profileVersionId (some profile))
    | _ => return none

end Load

end ConfigAuditor.Interpretation.Published
