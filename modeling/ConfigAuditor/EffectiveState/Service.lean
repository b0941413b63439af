import ConfigAuditor.EffectiveState.Resolver
import ConfigAuditor.Training.Model

/-!
# Resolving a persisted audit

`app.effective_state.service`: the facts of an audit are checked against its pins, given
the operation of their mapping, resolved, and the stored states are replaced.
-/
namespace ConfigAuditor.EffectiveState.Service

open Library SecurityModel ProfileResolution Training Policy Model Resolver

/-- The columns of an audit the resolver reads. The last two are pins in `version_refs`. -/
structure PinnedAudit where
  auditId : UUID
  organizationId : UUID
  deviceId : UUID
  snapshotId : UUID
  resolutionStatus : Option String
  profileVersionId : Option String
  deviceProfileVersionId : Option String
  knowledgePackVersionId : Option String
  deriving DecidableEq

structure SnapshotRow where
  snapshotId : UUID
  organizationId : UUID
  deviceId : UUID
  deriving DecidableEq

structure DeviceRow where
  deviceId : UUID
  organizationId : UUID
  deriving DecidableEq

/-- What the service reads besides the facts. -/
structure Store where
  audits : List PinnedAudit
  snapshots : List SnapshotRow
  devices : List DeviceRow
  training : Training.Database
  profileFor : UUID → String → Except Error (Option ProfileManifest)

def invalid (message : String) : Error := .effectiveStateValidation message

/-- The condition under which a published mapping may explain a fact. -/
def explains (pack : KnowledgePackVersionRecord) (mapping : MappingVersion)
    (fact : SecurityFact) : Bool :=
  pack.mappingVersionIds.contains mapping.mappingVersionId &&
    (mapping.status == .published || mapping.status == .superseded) &&
    mapping.definition.targetFieldId == fact.fieldId

/-- The operation a mapping definition gives a fact. -/
def definedOperation (definition : Dsl.MappingDefinition) (fact : SecurityFact) : FactOperation :=
  if fact.value.type == .null && definition.negationBehavior == .resetToDefault then .reset
  else .assign

/-- The part of `_operation_policy` that reads the database. -/
def publishedOperationPolicy (db : Training.Database) (audit : PinnedAudit)
    (fact : SecurityFact) : Except Error MappingOperationPolicy := do
  raiseIf (fact.mappingVersionId.isNone ||
    some fact.knowledgePackVersionId.str != audit.knowledgePackVersionId) incompatible
  let pack := db.packVersions.find? fun pack =>
    pack.knowledgePackVersionId == fact.knowledgePackVersionId &&
      pack.organizationId == audit.organizationId
  let mapping := db.mappings.find? fun mapping =>
    some mapping.mappingVersionId == fact.mappingVersionId &&
      mapping.organizationId == audit.organizationId
  match pack, mapping with
  | some pack, some mapping =>
    if explains pack mapping fact then
      return ⟨fact.knowledgePackVersionId, mapping.mappingVersionId, fact.fieldId,
        definedOperation mapping.definition fact⟩
    else .error incompatible
  | _, _ => .error incompatible

/-- `_operation_policy`: static policies first, then the exact pack membership. -/
def operationPolicy (db : Training.Database) (audit : PinnedAudit) (fact : SecurityFact) :
    Except Error MappingOperationPolicy :=
  match getMappingOperationPolicy fact.knowledgePackVersionId fact.mappingVersionId
      fact.fieldId with
  | .ok policy => .ok policy
  | .error _ =>
    match getSealedMappingOperationPolicy fact.mappingVersionId fact.fieldId with
    | .ok found => .ok
        { knowledgePackVersionId := fact.knowledgePackVersionId,
          mappingVersionId := found.mappingVersionId, fieldId := fact.fieldId,
          operation := found.operation }
    | .error _ => publishedOperationPolicy db audit fact

/-- The value check of one fact: only a reset has no value. -/
def checkFactValue (fact : SecurityFact) (operation : FactOperation) : Except Error Unit :=
  if fact.value.type = .null then
    raiseIf (operation != .reset) (invalid "SecurityFact null value is unsupported")
  else
    match validateFieldValueScope fact.fieldId fact.value fact.scope with
    | .ok _ => .ok ()
    | .error e =>
      .error (if e.isValueError then invalid "SecurityFact value is malformed" else e)

/-- One turn of the loop of `validate_resolver_facts`. -/
def validateResolverFact (db : Training.Database) (audit : PinnedAudit) (pinnedPack : String)
    (fact : SecurityFact) : Except Error Unit := do
  raiseIf (fact.auditId != audit.auditId || fact.deviceId != audit.deviceId ||
    fact.snapshotId != audit.snapshotId) (invalid "SecurityFact crosses the Audit boundary")
  raiseIf (fact.knowledgePackVersionId.str != pinnedPack)
    (invalid "SecurityFact knowledge-pack pin is incompatible")
  let _ ← scopeFromDict fact.scope
  let policy ← operationPolicy db audit fact
  checkFactValue fact policy.operation
  let _ ← getFieldPolicy fact.fieldId

def boundary : Error := invalid "Audit version or ownership boundary is incompatible"

/-- Ownership and pins of the audit; the result is the pinned pack. -/
def checkBoundary (store : Store) (organizationId : UUID) (audit : PinnedAudit) :
    Except Error String := do
  let snapshot := Table.find? SnapshotRow.snapshotId store.snapshots audit.snapshotId
  let device := Table.find? DeviceRow.deviceId store.devices audit.deviceId
  raiseIf (!(snapshot.any fun s => s.deviceId == audit.deviceId &&
    s.organizationId == organizationId)) boundary
  raiseIf (!(device.any fun d => d.organizationId == organizationId)) boundary
  raiseIf (audit.resolutionStatus != some "resolved") boundary
  match audit.profileVersionId with
  | none => .error boundary
  | some profileVersionId =>
    if (profileRegistry profileVersionId).isNone then do
      let profile ← store.profileFor organizationId profileVersionId
      raiseIf profile.isNone boundary
    raiseIf (audit.deviceProfileVersionId != some profileVersionId) boundary
    match audit.knowledgePackVersionId with
    | none => .error boundary
    | some pinnedPack => return pinnedPack

def auditOf (store : Store) (auditId organizationId : UUID) : Option PinnedAudit :=
  store.audits.find? fun audit =>
    audit.auditId == auditId && audit.organizationId == organizationId

/-- `validate_resolver_facts`. -/
def validateResolverFacts (store : Store) (auditId organizationId : UUID)
    (facts : List SecurityFact) : Except Error PinnedAudit := do
  match auditOf store auditId organizationId with
  | none => .error (.effectiveStateNotFound "Audit was not found")
  | some audit =>
    let pinnedPack ← checkBoundary store organizationId audit
    facts.forM (validateResolverFact store.training audit pinnedPack)
    return audit

section Resolve

variable (uuid5 : UUID → String → UUID)

/-- The operations `resolve_audit_effective_states` hands to the resolver. -/
def factOperations (db : Training.Database) (audit : PinnedAudit) (facts : List SecurityFact) :
    Except Error (List (UUID × FactOperation)) :=
  facts.mapM fun fact => do
    let policy ← operationPolicy db audit fact
    return (fact.factId, policy.operation)

/-- The drafts of `resolve_audit_effective_states`. -/
def resolveDrafts (store : Store) (auditId organizationId : UUID) (facts : List SecurityFact) :
    Except Error (List EffectiveStateDraft) := do
  let audit ← validateResolverFacts store auditId organizationId facts
  let operations ← factOperations store.training audit facts
  resolveSecurityFacts uuid5 audit.auditId audit.deviceId facts
    (Dict.get? (Dict.ofList operations))

/-- The row of a draft. -/
def stateRow (draft : EffectiveStateDraft) (scopeKey : String) : EffectiveStateRow :=
  { effectiveStateId := draft.effectiveStateId, auditId := draft.auditId,
    deviceId := draft.deviceId, fieldId := draft.fieldId, scope := draft.scope, scopeKey,
    effectiveValue := draft.effectiveValue, resolutionStatus := draft.resolutionStatus,
    sourceFactIds := draft.sourceFactIds, unresolvedReason := draft.unresolvedReason }

/-- `persist_effective_state`: a state already stored under the key is kept. -/
def persistEffectiveState (store : Store) (organizationId : UUID) (facts : List SecurityFact)
    (states : List EffectiveStateRow) (draft : EffectiveStateDraft) :
    Except Error (List EffectiveStateRow) := do
  validateEffectiveStateDraft uuid5 draft
  let sources := facts.filter fun fact => draft.sourceFactIds.contains fact.factId
  raiseIf (sources.length != draft.sourceFactIds.length)
    (invalid "EffectiveState source fact is missing")
  let _ ← validateResolverFacts store draft.auditId organizationId sources
  raiseIf (sources.any (·.fieldId != draft.fieldId))
    (invalid "EffectiveState source field is incompatible")
  let key ← canonicalScopeKey draft.scope
  match states.find? fun state =>
      state.auditId == draft.auditId && state.fieldId == draft.fieldId &&
        state.scopeKey == key with
  | some existing => do
    raiseIf (existing.effectiveStateId != draft.effectiveStateId)
      (invalid "EffectiveState uniqueness is inconsistent")
    return states
  | none => return states ++ [stateRow draft key]

/-- `resolve_audit_effective_states`: the states stored for the audit are replaced. -/
def resolveAuditEffectiveStates (store : Store) (auditId organizationId : UUID)
    (facts : List SecurityFact) (states : List EffectiveStateRow) :
    Except Error (List EffectiveStateRow) := do
  let own := sortedBy (·.factId.int) (facts.filter (·.auditId == auditId))
  let drafts ← resolveDrafts uuid5 store auditId organizationId own
  drafts.foldlM (persistEffectiveState uuid5 store organizationId facts)
    (states.filter (·.auditId != auditId))

end Resolve

end ConfigAuditor.EffectiveState.Service
