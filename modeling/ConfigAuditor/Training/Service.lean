import ConfigAuditor.Interpretation.Published
import ConfigAuditor.Interpretation.UnresolvedBlocks

/-!
# The training workflow

`app.training.service`: an administrator drafts a mapping, has it validated, approves it
and publishes it in a pack. Each function is one transaction on the database; one that
raises is rolled back. The other tables, the readers and the clock are the environment.
-/
namespace ConfigAuditor.Training.Service

open Library SecurityModel Parsing KnowledgePacks Dsl Matcher ProfileResolution Interpretation
  Interpretation.Mapping Interpretation.Service Interpretation.UnresolvedBlocks
  Interpretation.Published

/-- The exceptions of the workflow; `integrity` is a refused insertion. -/
inductive TrainingError where
  | training (message : String)
  | notFound (message : String)
  | conflict (message : String)
  | raised (error : Error)
  | integrity
  deriving DecidableEq, Repr

instance : MonadLift (Except Error) (Except TrainingError) where
  monadLift x := x.mapError .raised

theorem liftM_training_eq_ok {α : Type} {x : Except Error α} {a : α} :
    (liftM x : Except TrainingError α) = .ok a ↔ x = .ok a := except_mapError_eq_ok

/-- `if condition: raise error`. -/
def refuseIf (condition : Bool) (error : TrainingError) : Except TrainingError Unit :=
  if condition then .error error else .ok ()

@[simp] theorem refuseIf_eq_ok {condition : Bool} {error : TrainingError} {u : Unit} :
    refuseIf condition error = .ok u ↔ condition = false := by
  cases condition <;> simp [refuseIf]

/-- The snapshot of an evidence artifact; `usable` where it is ready or locked. -/
structure EvidenceSnapshot where
  snapshotId : UUID
  organizationId : UUID
  deviceId : UUID
  usable : Bool
  deriving DecidableEq

/-- An evidence artifact; `ready` is its status. -/
structure EvidenceArtifact where
  artifactId : UUID
  organizationId : UUID
  ready : Bool
  sha256 : String
  snapshot : Option EvidenceSnapshot
  deriving DecidableEq

/-- What an adopted suggestion contributes to a mapping. -/
structure MappingSuggestion where
  description : String
  definition : MappingDefinition
  deriving DecidableEq

/-- What a transaction reads outside of the training tables. -/
structure Environment where
  now : Int
  profileFor : UUID → String → Except Error (Option ProfileManifest)
  artifact? : UUID → Option EvidenceArtifact
  parseArtifact : EvidenceArtifact → ProfileManifest → Except Error ParsedIr
  resolveSecurityFacts : List SecurityFactDraft → Except Error Unit
  verifyPreview : String → User → ReviewBlock → ProfileManifest → Except Error MappingSuggestion

/-- `MUTABLE_STATUSES`. -/
def isMutable (status : MappingStatus) : Bool :=
  status == .suggested || status == .draft || status == .testing

/-- The condition of `_require_admin`. -/
def isAdmin (user : User) : Bool := user.role == .mappingAdmin || user.role == .admin

/-- `_require_admin`. -/
def requireAdmin (user : User) : Except TrainingError Unit :=
  refuseIf (!isAdmin user) (.training "Mapping administrator role is required")

/-- `_mapping`. -/
def mappingOf (db : Database) (user : User) (mappingVersionId : UUID) :
    Except TrainingError MappingVersion :=
  match db.mappingById mappingVersionId user.organizationId with
  | some version => .ok version
  | none => .error (.notFound "Mapping version not found")

/-- The row `_new_mapping` adds. -/
structure NewMapping where
  mappingVersionId : UUID
  mappingId : UUID
  version : Nat := 1
  previous : Option UUID := none
  mappingKey : String
  title : Option String := none
  description : String
  definition : MappingDefinition
  origin : MappingOrigin

/-- The row `_new_mapping` builds. -/
def NewMapping.row (input : NewMapping) (user : User) : MappingVersion :=
  { mappingVersionId := input.mappingVersionId, mappingId := input.mappingId,
    organizationId := user.organizationId, mappingKey := Text.strip input.mappingKey,
    version := input.version, previousMappingVersionId := input.previous,
    title := match input.title with
      | some title => if title.isEmpty then String.ofList (input.description.toList.take 255)
          else title
      | none => String.ofList (input.description.toList.take 255)
    description := input.description, status := .draft, definition := input.definition,
    origin := input.origin, createdBy := user.userId }

/-- `_new_mapping`: the primary key and the version of a mapping are unique. -/
def newMapping (db : Database) (user : User) (input : NewMapping) :
    Except TrainingError Database := do
  refuseIf ((Text.strip input.mappingKey).isEmpty || 255 < input.mappingKey.length)
    (.training "Mapping key is invalid")
  let row := input.row user
  refuseIf (db.mappings.any fun other =>
    other.mappingId == row.mappingId && other.version == row.version) .integrity
  match Table.insert? MappingVersion.mappingVersionId db.mappings row with
  | some mappings => return { db with mappings }
  | none => .error .integrity

/-- The block a mapping is drafted for. -/
def assignBlock (db : Database) (blockId mappingVersionId : UUID) : Database :=
  { db with blocks := Table.modify ReviewBlock.unresolvedBlockId db.blocks blockId fun block =>
      { block with
        reviewStatus := .underReview, assignedMappingVersionId := some mappingVersionId } }

/-- `adopt_suggestion`, with the ids of the new row. -/
def adoptSuggestion (env : Environment) (db : Database) (user : User) (blockId : UUID)
    (token : String) (mappingVersionId mappingId : UUID) : Except TrainingError Database := do
  requireAdmin user
  match db.unresolvedById blockId user.organizationId with
  | none => .error (.notFound "Unresolved block not found")
  | some block =>
    match env.profileFor user.organizationId (block.profileVersionId.getD "") with
    | .ok (some profile) =>
      let suggestion ← env.verifyPreview token user block profile
      refuseIf (block.assignedMappingVersionId.isSome ||
        (block.reviewStatus != .openReview && block.reviewStatus != .underReview))
        (.conflict "Evidence is already assigned or no longer actionable")
      let db ← newMapping db user
        { mappingVersionId, mappingId,
          mappingKey := "ai-" ++ String.ofList (block.fingerprint.toList.take 16),
          description := suggestion.description, definition := suggestion.definition,
          origin := .aiAssisted }
      return assignBlock db blockId mappingVersionId
    | .ok none | .error _ =>
      .error (.training "Resolved profile is unavailable for AI adoption")

/-- The arguments of `create_mapping`, with the ids of the new row. -/
structure CreateInput where
  mappingVersionId : UUID
  mappingId : UUID
  mappingKey : String
  title : String
  description : String
  definition : MappingDefinition
  previousMappingVersionId : Option UUID := none
  unresolvedBlockId : Option UUID := none

/-- The new row: the next version of the previous one, or the first of a new mapping. -/
def newMappingOf (db : Database) (user : User) (input : CreateInput) :
    Except TrainingError NewMapping :=
  let fresh : NewMapping :=
    { mappingVersionId := input.mappingVersionId, mappingId := input.mappingId,
      mappingKey := input.mappingKey, title := some input.title,
      description := input.description, definition := input.definition,
      origin := .administrator }
  match input.previousMappingVersionId with
  | none => .ok fresh
  | some previousId =>
    match db.mappingById previousId user.organizationId with
    | none => .error (.notFound "Previous mapping version not found")
    | some previous =>
      .ok { fresh with
        mappingId := previous.mappingId, version := previous.version + 1,
        previous := some previous.mappingVersionId }

/-- `create_mapping`. -/
def createMapping (db : Database) (user : User) (input : CreateInput) :
    Except TrainingError Database := do
  let new ← newMappingOf db user input
  let db ← newMapping db user new
  match input.unresolvedBlockId with
  | none => return db
  | some blockId =>
    match db.unresolvedById blockId user.organizationId with
    | none => .error (.notFound "Unresolved block not found")
    | some _ => return assignBlock db blockId input.mappingVersionId

/-- `update_mapping`. -/
def updateMapping (db : Database) (user : User) (mappingVersionId : UUID)
    (title description : String) (definition : MappingDefinition) :
    Except TrainingError Database := do
  let mapping ← mappingOf db user mappingVersionId
  refuseIf (!isMutable mapping.status)
    (.conflict "Published or approved mapping versions are immutable")
  return db.modifyMapping mappingVersionId fun row =>
    { row with
      definition, title, description, status := .draft, validationResults := none }

def isStructured (definition : MappingDefinition) : Bool :=
  definition.structuralMatch.operation == .xmlPath ||
    definition.structuralMatch.operation == .jsonPath

/-- The artifact of a validation request, which must be ready. -/
def requireEvidence (env : Environment) (user : User) (artifactId : UUID) :
    Except TrainingError Unit := do
  match (env.artifact? artifactId).filter (·.organizationId == user.organizationId) with
  | none => .error (.conflict "Selected evidence artifact is not ready")
  | some artifact =>
    refuseIf (!artifact.ready) (.conflict "Selected evidence artifact is not ready")
    match artifact.snapshot with
    | none => .error (.conflict "Selected evidence artifact is not ready")
    | some snapshot =>
      refuseIf (snapshot.organizationId != user.organizationId || !snapshot.usable)
        (.conflict "Selected evidence snapshot is not ready")

/-- `request_validation`, with the id of the run; its job is a row of the job queue. -/
def requestValidation (env : Environment) (db : Database) (user : User)
    (mappingVersionId validationRunId : UUID)
    (evidenceArtifactId negativeEvidenceArtifactId : Option UUID) :
    Except TrainingError Database := do
  let mapping ← mappingOf db user mappingVersionId
  refuseIf (mapping.status != .draft && mapping.status != .testing)
    (.conflict "Mapping is not eligible for validation")
  refuseIf (isStructured mapping.definition &&
      (evidenceArtifactId.isNone || negativeEvidenceArtifactId.isNone))
    (.conflict "Structured validation requires positive and negative evidence artifacts")
  refuseIf (evidenceArtifactId.isSome && evidenceArtifactId == negativeEvidenceArtifactId)
    (.conflict "Positive and negative evidence artifacts must differ")
  (evidenceArtifactId.toList ++ negativeEvidenceArtifactId.toList).forM (requireEvidence env user)
  match Table.insert? MappingValidationRun.validationRunId db.runs
    { validationRunId, organizationId := user.organizationId, mappingVersionId,
      evidenceArtifactId, negativeEvidenceArtifactId, createdAt := env.now } with
  | none => .error .integrity
  | some runs =>
    return { db with runs }.modifyMapping mappingVersionId fun row => { row with status := .testing }

section Hashes

variable (uuid5 : UUID → String → UUID) (sha256 : String → String)
  (manifestJson : List String → String)

/-- `_digest`. -/
def digest (definition : MappingDefinition) : Except Error String := do
  return sha256 (← definition.payload.dumps)

/-- `_profile_digest`: the JSON text of the manifests of the profiles is hashed. -/
def profileDigest (definition : MappingDefinition) : String :=
  sha256 (manifestJson (sortedBy id definition.profileApplicability.profileVersionIds))

/-- `_content_digest`. -/
def contentDigest (definition : MappingDefinition) : Except Error String := do
  return sha256 (← (PyValue.list (definition.examples.map (·.payload))).dumps)

/-- `_validation_digest`. -/
def validationDigest (definitionDigest profileDigest contentDigest evidenceDigest : String) :
    String :=
  sha256 (definitionDigest ++ ":" ++ profileDigest ++ ":" ++ contentDigest ++ ":" ++ evidenceDigest)

/-- `_validation_is_current`. -/
def validationIsCurrent (env : Environment) (mapping : MappingVersion)
    (results : ValidationResults) : Except Error Bool := do
  let definitionDigest ← digest sha256 mapping.definition
  let contentDigest ← contentDigest sha256 mapping.definition
  let profileDigest := profileDigest sha256 manifestJson mapping.definition
  let evidence := results.semantic.toList ++ results.negativeSemantic.toList
  let artifacts := evidence.map fun semantic =>
    (env.artifact? semantic.evidenceArtifactId).filter (·.organizationId == mapping.organizationId)
  if artifacts.any (·.isNone) then return false
  else
    let evidenceDigest := Text.join ":" ((artifacts.filterMap id).map (·.sha256))
    return results.definitionDigest == definitionDigest &&
      results.profileDigest == profileDigest && results.contentDigest == contentDigest &&
      results.validationDigest ==
        validationDigest sha256 definitionDigest profileDigest contentDigest evidenceDigest

/-- The record of one example of `validate_definition`: whether it passed. -/
def examplePassed (definition : MappingDefinition) (example_ : MappingExample) :
    Except Error Bool :=
  match matchNode definition example_.node with
  | none => return example_.expectedMatch == false
  | some captures =>
    match extract definition captures with
    | .ok value =>
      return example_.expectedMatch &&
        (example_.expectedValue == .none || PyValue.eq value example_.expectedValue)
    | .error e =>
      -- an extraction that fails is a recorded error of the example
      if (Error.python e).isOutputError then return false else .error (.python e)

/-- `VALIDATION_FAMILIES`. -/
def validationFamilies : List ExampleFamily :=
  [.positive, .alternateValues, .negative, .wrongScope, .negation, .conflict, .regression]

/-- The result of one family: it has examples, and they all passed. -/
def familyPassed (definition : MappingDefinition) (family : ExampleFamily) :
    Except Error (ExampleFamily × Bool) := do
  let cases ← (definition.examples.filter (·.family == family)).mapM (examplePassed definition)
  return (family, !cases.isEmpty && cases.all id)

def interpretParsed (context : InterpretationContext) (pack : KnowledgePack)
    (profile : ProfileManifest) (profileVersionId : String) :
    ParsedIr → Except Error InterpretationResult
  | .cli ir => interpretStructuralIr uuid5 context ir profileVersionId (some pack) (some profile)
  | .xml ir => interpretXmlStructuralIr uuid5 context ir profileVersionId (some pack) (some profile)
  | .json ir =>
    interpretJsonStructuralIr uuid5 context ir profileVersionId (some pack) (some profile)

/-- Whether the definition matches a node of the parsed evidence. -/
def evidenceMatches (definition : MappingDefinition) : ParsedIr → Except Error Bool
  | .cli ir => do
    let found ← (ir.nodes.filter (·.command.isSome)).mapM fun node => do
      let projected ← trainingValidationNode node ir definition.scopeResolution.strategy.text
      return (matchNode definition projected).isSome
    return found.any id
  | .xml ir => do return !(← matchesXml definition ir).isEmpty
  | .json ir => do return !(← matchesJson definition ir).isEmpty

/-- `_validate_against_artifact`, with the facts, states and paths it only reports left
out: the mapping alone in a pack, run on the evidence. -/
def validateAgainstArtifact (env : Environment) (mapping : MappingVersion)
    (evidenceArtifactId : UUID) : Except TrainingError SemanticResult := do
  match (env.artifact? evidenceArtifactId).filter (·.organizationId == mapping.organizationId) with
  | none => .error (.conflict "Selected evidence artifact is not eligible")
  | some artifact =>
    refuseIf (!artifact.ready) (.conflict "Selected evidence artifact is not eligible")
    match artifact.snapshot with
    | none => .error (.conflict "Selected evidence artifact is not eligible")
    | some snapshot =>
      refuseIf (snapshot.organizationId != mapping.organizationId || !snapshot.usable)
        (.conflict "Selected evidence snapshot is not eligible")
      match mapping.definition.profileApplicability.profileVersionIds.head? with
      | none => .error (.conflict "Evidence validation requires a profile version")
      | some profileVersionId =>
        match ← env.profileFor mapping.organizationId profileVersionId with
        | none => .error (.conflict "Evidence validation requires a published profile version")
        | some profile =>
          let ir ← env.parseArtifact artifact profile
          let adapter ← trainingMapping mapping profileVersionId
          let packId := uuid5 namespaceUrl ("validation-pack:" ++ mapping.mappingVersionId.str)
          let contextId := uuid5 namespaceUrl ("validation-audit:" ++
            mapping.mappingVersionId.str ++ ":" ++ artifact.artifactId.str)
          let pack : KnowledgePack :=
            { knowledgePackId := packId, knowledgePackVersionId := packId,
              name := "Validation candidate", version := "validation", schemaVersion := "1.0.0",
              profileId := String.ofList (((Text.splitFirst '@' profileVersionId.toList).map
                (·.1)).getD profileVersionId.toList)
              profileVersionId, mappings := [adapter] }
          let result ← interpretParsed uuid5
            { auditId := contextId, deviceId := snapshot.deviceId,
              snapshotId := snapshot.snapshotId } pack profile profileVersionId ir
          env.resolveSecurityFacts result.facts
          let found ← evidenceMatches mapping.definition ir
          return {
            status := if found && !result.facts.isEmpty then .matched
              else if found then .invalidMatch else .noMatch
            evidenceArtifactId := artifact.artifactId, evidenceDigest := artifact.sha256 }

/-- Another published mapping with the same field and matcher. -/
def collides (db : Database) (mapping : MappingVersion) : Bool :=
  (db.publishedMappings mapping.organizationId).any fun other =>
    other.mappingId != mapping.mappingId &&
      other.definition.targetFieldId == mapping.definition.targetFieldId &&
      other.definition.structuralMatch == mapping.definition.structuralMatch

/-- The verdict of `validate_definition` from its parts. -/
def validationPassed (structured collision : Bool) (families : List (ExampleFamily × Bool))
    (semantic negativeSemantic : Option SemanticResult) : Bool :=
  if structured then
    semantic.any (·.status == .matched) && negativeSemantic.any (·.status == .noMatch) &&
      !collision
  else families.all (·.2) && semantic.all (·.status == .matched)

/-- A collision fails the regression family, and evidence decides two families of a
structured definition. -/
def familyResult (structured collision : Bool) (semantic negativeSemantic : Option SemanticResult)
    (family : ExampleFamily × Bool) : ExampleFamily × Bool :=
  (family.1, match family.1 with
    | .regression => family.2 && !collision
    | .positive => if structured then semantic.any (·.status == .matched) else family.2
    | .negative => if structured then negativeSemantic.any (·.status == .noMatch) else family.2
    | _ => family.2)

/-- `validate_definition`. -/
def validateDefinition (env : Environment) (db : Database) (mapping : MappingVersion)
    (evidenceArtifactId negativeEvidenceArtifactId : Option UUID) :
    Except TrainingError ValidationResults := do
  let definition := mapping.definition
  let families ← validationFamilies.mapM fun family =>
    (liftM (familyPassed definition family) : Except TrainingError _)
  let semantic ← evidenceArtifactId.mapM (validateAgainstArtifact uuid5 env mapping)
  let negativeSemantic ← negativeEvidenceArtifactId.mapM (validateAgainstArtifact uuid5 env mapping)
  let collision := collides db mapping
  let structured := isStructured definition
  let families := families.map (familyResult structured collision semantic negativeSemantic)
  let definitionDigest ← digest sha256 definition
  let contentDigest ← contentDigest sha256 definition
  let profileDigest := profileDigest sha256 manifestJson definition
  let evidenceDigest := Text.join ":"
    ((semantic.toList ++ negativeSemantic.toList).map (·.evidenceDigest))
  return {
    passed := validationPassed structured collision families semantic negativeSemantic
    families, semantic, negativeSemantic, definitionDigest, profileDigest, contentDigest
    validationDigest :=
      validationDigest sha256 definitionDigest profileDigest contentDigest evidenceDigest }

/-- `execute_validation`. -/
def executeValidation (env : Environment) (db : Database)
    (validationRunId mappingVersionId organizationId : UUID) : Except TrainingError Database := do
  match (Table.find? MappingValidationRun.validationRunId db.runs validationRunId).filter fun run =>
      run.mappingVersionId == mappingVersionId && run.organizationId == organizationId,
    db.mappingById mappingVersionId organizationId with
  | some run, some mapping =>
    refuseIf (run.status != .pending) (.conflict "Mapping validation payload is invalid")
    let results ← validateDefinition uuid5 sha256 manifestJson env db mapping run.evidenceArtifactId
      run.negativeEvidenceArtifactId
    let runs := Table.modify MappingValidationRun.validationRunId db.runs validationRunId fun run =>
      { run with
        status := if results.passed then .passed else .failed
        results := some results, completedAt := some env.now }
    return { db with runs }.modifyMapping mappingVersionId fun row =>
      { row with validationResults := some results }
  | _, _ => .error (.conflict "Mapping validation payload is invalid")

/-- The check of `approve_mapping` and `publish_mapping` on the latest validation. -/
def latestValidationCurrent (env : Environment) (db : Database) (mapping : MappingVersion) :
    Except Error Bool :=
  match db.latestValidation mapping.mappingVersionId with
  | none => return false
  | some run =>
    match run.status, run.results with
    | .passed, some results => validationIsCurrent sha256 manifestJson env mapping results
    | _, _ => return false

/-- `approve_mapping`. -/
def approveMapping (env : Environment) (db : Database) (user : User) (mappingVersionId : UUID) :
    Except TrainingError Database := do
  requireAdmin user
  let mapping ← mappingOf db user mappingVersionId
  refuseIf (mapping.status != .testing) (.conflict "Current successful validation is required")
  let current ← latestValidationCurrent sha256 manifestJson env db mapping
  refuseIf (!current) (.conflict "Current successful validation is required")
  return db.modifyMapping mappingVersionId fun row =>
    { row with status := .approved, approvedBy := some user.userId, approvedAt := some env.now }

/-- `reject_mapping`. -/
def rejectMapping (db : Database) (user : User) (mappingVersionId : UUID) :
    Except TrainingError Database := do
  requireAdmin user
  let mapping ← mappingOf db user mappingVersionId
  refuseIf (!isMutable mapping.status) (.conflict "Only an unpublished Mapping may be rejected")
  return db.modifyMapping mappingVersionId fun row => { row with status := .rejected }

def packKey (profileVersionIds : List String) : String :=
  "administrator-mappings:" ++ Text.join "," (sortedBy id profileVersionIds)

/-- The pack of a set of profiles, made where there is none. -/
def packFor (db : Database) (organizationId knowledgePackId : UUID) (key : String) :
    Except TrainingError (Database × KnowledgePackRecord) :=
  match db.packs.find? fun pack => pack.organizationId == organizationId && pack.packKey == key with
  | some pack => .ok (db, pack)
  | none =>
    let pack : KnowledgePackRecord :=
      { knowledgePackId, organizationId, packKey := key,
        name := "Administrator validated mappings" }
    match Table.insert? KnowledgePackRecord.knowledgePackId db.packs pack with
    | some packs => .ok ({ db with packs }, pack)
    | none => .error .integrity

/-- The newest version of a pack. -/
def previousPackVersion (db : Database) (knowledgePackId : UUID) :
    Option KnowledgePackVersionRecord :=
  (sortedBy (·.version) (db.packVersions.filter (·.knowledgePackId == knowledgePackId))).getLast?

/-- The mappings of the previous version, less the earlier versions of this one. -/
def retained (db : Database) (previous : Option KnowledgePackVersionRecord) (mappingId : UUID) :
    List UUID :=
  match previous with
  | none => []
  | some version => (db.mappings.filter fun row =>
      version.mappingVersionIds.contains row.mappingVersionId && row.mappingId != mappingId).map
        (·.mappingVersionId)

/-- The version record `publish_mapping` adds. -/
def newPackVersion (db : Database) (user : User) (mapping : MappingVersion)
    (knowledgePackVersionId knowledgePackId : UUID) (now : Int) : KnowledgePackVersionRecord :=
  let previous := previousPackVersion db knowledgePackId
  { knowledgePackVersionId, knowledgePackId, organizationId := user.organizationId,
    version := (previous.map (·.version + 1)).getD 1,
    previousKnowledgePackVersionId := previous.map (·.knowledgePackVersionId),
    mappingVersionIds := sortedBy (·.str)
      (retained db previous mapping.mappingId ++ [mapping.mappingVersionId]),
    publishedBy := user.userId, publishedAt := now }

/-- The published version of a mapping is superseded. -/
def supersedePrevious (db : Database) (organizationId mappingId : UUID) : Database :=
  match db.mappings.find? fun row =>
    row.organizationId == organizationId && row.mappingId == mappingId &&
      row.status == .published with
  | none => db
  | some previous =>
    db.modifyMapping previous.mappingVersionId fun row => { row with status := .superseded }

/-- The blocks a published mapping was drafted for. -/
def markMapped (db : Database) (organizationId mappingVersionId : UUID) : Database :=
  { db with blocks := db.blocks.map fun block =>
      if block.organizationId = organizationId ∧
          block.assignedMappingVersionId = some mappingVersionId then
        { block with reviewStatus := .mapped }
      else block }

/-- Every profile of a definition can be looked up. -/
def profilesAvailable (env : Environment) (organizationId : UUID) (profileVersionIds : List String) :
    Except Error Bool := do
  let profiles ← profileVersionIds.mapM (env.profileFor organizationId)
  return !profileVersionIds.isEmpty && profiles.all (·.isSome)

/-- `publish_mapping`, with the ids of the rows it may add. -/
def publishMapping (env : Environment) (db : Database) (user : User) (mappingVersionId : UUID)
    (knowledgePackId knowledgePackVersionId : UUID) : Except TrainingError Database := do
  requireAdmin user
  let mapping ← mappingOf db user mappingVersionId
  refuseIf (mapping.status != .approved || mapping.approvedBy.isNone)
    (.conflict "Approved, currently validated mapping is required")
  let current ← latestValidationCurrent sha256 manifestJson env db mapping
  refuseIf (!current) (.conflict "Approved, currently validated mapping is required")
  let profileVersionIds := mapping.definition.profileApplicability.profileVersionIds
  let available ← profilesAvailable env user.organizationId profileVersionIds
  refuseIf (!available) (.conflict "Profile applicability is required")
  let (db, pack) ← packFor db user.organizationId knowledgePackId (packKey profileVersionIds)
  let version := newPackVersion db user mapping knowledgePackVersionId pack.knowledgePackId env.now
  match Table.insert? KnowledgePackVersionRecord.knowledgePackVersionId db.packVersions version with
  | none => .error .integrity
  | some packVersions =>
    let db := supersedePrevious { db with packVersions } user.organizationId mapping.mappingId
    let db := db.modifyMapping mappingVersionId fun row =>
      { row with
        status := .published, publishedAt := some env.now,
        knowledgePackVersionId := some knowledgePackVersionId }
    return markMapped db user.organizationId mappingVersionId

end Hashes

end ConfigAuditor.Training.Service
