import ConfigAuditor.KnowledgePacks.Sealed
import ConfigAuditor.Training.Matcher
import ConfigAuditor.Interpretation.Scopes

/-!
# One mapping on one statement

Whether a mapping matches a statement, the value it extracts there, and the fact
the pair yields: the body of the loops of `interpret_structural_ir`,
`interpret_xml_structural_ir` and `interpret_json_structural_ir`.
-/
namespace ConfigAuditor.Interpretation.Mapping

open Library SecurityModel Parsing KnowledgePacks Training.Dsl Training.Matcher Extractors Scopes

structure InterpretationContext where
  auditId : UUID
  deviceId : UUID
  snapshotId : UUID
  deriving DecidableEq

/-- What a mapping makes of a node. -/
inductive PairOutcome where
  | unmatched
  /-- Matched, but without a fact; an extraction may fail without a code. -/
  | diagnosed (code : Option String)
  | emitted (fact : SecurityFactDraft) (context : Option ConfigNode)
  deriving DecidableEq

/-- `ir.node(node.parent_id) if node.parent_id else None`; ids are never empty. -/
def lookupParent (ir : StructuralIR) (node : ConfigNode) : Except Error (Option ConfigNode) :=
  match node.parentId with
  | none => return none
  | some id => match ir.node? id with
    | some parent => return some parent
    | none => .error (.python .keyError)

/-- The commands of up to eight ancestors, nearest first. -/
def ancestorCommands (ir : StructuralIR) :
    Nat → List String → Option ConfigNode → Except Error (List String)
  | _, found, none => return found
  | fuel, found, some ancestor =>
    if 8 ≤ found.length then return found
    else match fuel with
      | 0 => .error .endless
      | fuel + 1 => do
        let next ← lookupParent ir ancestor
        ancestorCommands ir fuel (found ++ (ancestor.command.filter (!·.isEmpty)).toList) next

/-- The values `ValidationNode.model_validate` is given. -/
def projection (node : ConfigNode) (command : String) (parent : Option ConfigNode)
    (ancestors : List String) (scopeType : String) : ValidationNode :=
  { command, arguments := node.arguments, parentCommand := parent.bind (·.command),
    ancestorCommands := ancestors, scopeType := some scopeType, negated := node.negated }

/-- `_training_validation_node`. -/
def trainingValidationNode (node : ConfigNode) (ir : StructuralIR) (scopeType : String) :
    Except Error ValidationNode := do
  let parent ← lookupParent ir node
  let ancestors ← ancestorCommands ir ir.nodes.length [] parent
  match node.command with
  | none => .error .modelValidation
  | some command =>
    let projected := projection node command parent ancestors scopeType
    raiseIf (!projected.bounded) .modelValidation
    return projected

/-- `_has_prefix`. -/
def hasPrefix (arguments expected : List String) : Bool :=
  (arguments.take expected.length).map Text.lower == expected.map Text.lower

/-- The ancestor loop of `_matches`: the nearest ancestor with the command decides. -/
def ancestorMatches (ir : StructuralIR) (command : String) (arguments : List String) :
    Nat → Option String → Except Error Bool
  | _, none => return false
  | 0, some _ => .error .endless
  | fuel + 1, some id => match ir.node? id with
    | none => .error (.python .keyError)
    | some ancestor =>
      if ancestor.command = some command then return hasPrefix ancestor.arguments arguments
      else ancestorMatches ir command arguments fuel ancestor.parentId

/-- `_matches` of a sealed mapping. -/
def sealedMatches (matcher : NodeMatcher) (node : ConfigNode) (ir : StructuralIR) :
    Except Error Bool :=
  if node.command != some matcher.command || !hasPrefix node.arguments matcher.argumentsPrefix then
    return false
  else match matcher.parentCommand with
    | none => return true
    | some parentCommand => match parentOf node ir with
      | none => return false
      | some parent =>
        if parent.command != some parentCommand ||
            !hasPrefix parent.arguments matcher.parentArgumentsPrefix then return false
        else match matcher.ancestorCommand with
          | none => return true
          | some command =>
            ancestorMatches ir command matcher.ancestorArgumentsPrefix ir.nodes.length
              parent.parentId

/-- `_matches`. -/
def mappingMatches (mapping : DeclarativeMapping) (node : ConfigNode) (ir : StructuralIR) :
    Except Error Bool :=
  match mapping.trainingDefinition with
  | some definition => do
    let projected ← trainingValidationNode node ir mapping.scopeResolver
    return (matchNode definition projected).isSome
  | none => sealedMatches mapping.matcher node ir

/-- `_extract_mapping`. -/
def extractMapping (mapping : DeclarativeMapping) (node : ConfigNode) (ir : StructuralIR) :
    Except Error ExtractionOutcome :=
  match mapping.trainingDefinition with
  | none => extractor mapping.extractor node.arguments
  | some definition => do
    let projected ← trainingValidationNode node ir mapping.scopeResolver
    match matchNode definition projected with
    | none => return failed "training_mapping_mismatch"
    | some captures =>
      let value ← extract definition captures
      return extracted { type := definition.valueExtraction.outputType, value }

section Facts

variable (uuid5 : UUID → String → UUID) (context : InterpretationContext)
  (pack : KnowledgePack) (mapping : DeclarativeMapping)

/-- The JSON object a fact id is made from. -/
def factIdentity (versionId : UUID) (nodeIds : List String) (value : TypedValue)
    (scope : ScopeRef) : PyValue :=
  .dict [("audit_id", .str context.auditId.str), ("mapping_version_id", .str versionId.str),
    ("source_ir_node_ids", .list (nodeIds.map .str)), ("field_id", .str mapping.fieldId),
    ("scope", scope.toDict), ("entity", .none), ("value", value.toDict)]

/-- The resolution fields of a fact: a plain value, or a reset to an unknown default. -/
structure FactQuality where
  state : FactState := .explicit
  validationStatus : FactValidationStatus := .validated
  interpretationConfidence : InterpretationConfidence := .high
  deriving DecidableEq

def resetQuality : FactQuality :=
  { state := .unknown, validationStatus := .unresolved, interpretationConfidence := .unresolved }

/-- The draft that the three fact builders share. -/
def draftFact (versionId : UUID) (evidence : List EvidenceRef) (nodeIds : List String)
    (value : TypedValue) (scope : ScopeRef) (quality : FactQuality) :
    Except Error SecurityFactDraft := do
  let identity ← (factIdentity context mapping versionId nodeIds value scope).dumps
  return {
    factId := uuid5 pack.knowledgePackVersionId identity, auditId := context.auditId,
    deviceId := context.deviceId, snapshotId := context.snapshotId, fieldId := mapping.fieldId,
    value, scope, state := quality.state, evidenceRefs := evidence, sourceIrNodeIds := nodeIds,
    mappingId := some mapping.mappingId, mappingVersionId := some versionId,
    knowledgePackVersionId := pack.knowledgePackVersionId,
    validationStatus := quality.validationStatus, dependencies := [],
    interpretationConfidence := quality.interpretationConfidence }

def nodeEvidence (node : ConfigNode) : EvidenceRef :=
  { artifactId := node.artifactId, startLine := some node.sourceStart,
    endLine := some node.sourceEnd, sourcePath := node.sourceLabel, irNodeId := node.nodeId,
    evidenceType := .configuration }

/-- `_build_fact`; a negated operation may name its own mapping version. -/
def buildFact (value : TypedValue) (scope : ScopeRef) (sourceNodes : List ConfigNode)
    (quality : FactQuality) (versionId : Option UUID) : Except Error SecurityFactDraft :=
  draftFact uuid5 context pack mapping (versionId.getD mapping.mappingVersionId)
    (sourceNodes.map nodeEvidence) (sourceNodes.map (·.nodeId)) value scope quality

/-- `_build_xml_fact`. -/
def buildXmlFact (value : TypedValue) (scope : ScopeRef) (node : XmlNode) :
    Except Error SecurityFactDraft :=
  draftFact uuid5 context pack mapping mapping.mappingVersionId
    [{ artifactId := node.source.artifactId, startLine := some node.order,
       endLine := some node.order, sourcePath := node.source.sourceLabel,
       irNodeId := node.nodeId, evidenceType := .structuredExport }]
    [node.nodeId] value scope {}

/-- `_build_json_fact`. -/
def buildJsonFact (value : TypedValue) (scope : ScopeRef) (node : JsonNode) :
    Except Error SecurityFactDraft :=
  draftFact uuid5 context pack mapping mapping.mappingVersionId
    [{ artifactId := node.source.artifactId, startLine := none, endLine := none,
       sourcePath := node.source.sourceLabel, irNodeId := node.nodeId,
       evidenceType := .structuredExport, structuredOrder := some node.order }]
    [node.nodeId] value scope {}

/-- A value and scope the field registry accepts for a mapping. -/
def outputValid (fieldId : String) (value : TypedValue) (scope : ScopeRef) : Bool :=
  (validateFieldValueScope fieldId value scope).isOk

/-- `_build_negated_fact`. -/
def buildNegatedFact (ir : StructuralIR) (node : ConfigNode) :
    Except Error (Option SecurityFactDraft) :=
  if mapping.negationBehavior = .unsupported || node.parseStatus != .parsed then return none
  else do
    let outcome ← resolveScope mapping.scopeResolver node ir
    match outcome.scope with
    | none => return none
    | some scope =>
      let sourceNodes := node :: outcome.contextNode.toList
      match mapping.negationBehavior with
      | .unsupported => return none
      | .resetToDefault =>
        if node.arguments.map Text.lower != mapping.matcher.argumentsPrefix.map Text.lower then
          return none
        else
          let field ← getField mapping.fieldId
          if !field.allowedScopeTypes.contains scope.type then return none
          else return some (← buildFact uuid5 context pack mapping
            { type := .null, value := .none } scope sourceNodes resetQuality
            mapping.resetMappingVersionId)
      | .removeValue =>
        let extraction ← extractMapping mapping node ir
        match extraction.value with
        | none => return none
        | some value =>
          if !outputValid mapping.fieldId value scope then return none
          else return some (← buildFact uuid5 context pack mapping value scope sourceNodes {}
            mapping.removalMappingVersionId)
      | .invertBoolean =>
        let extraction ← extractMapping mapping node ir
        match extraction.value with
        | none => return none
        | some value =>
          if value.type != .boolean then return none
          else return some (← buildFact uuid5 context pack mapping
            { type := .boolean, value := .bool (!value.value.truthy),
              originalValue := value.originalValue } scope sourceNodes {} none)

def outputInvalid : Error :=
  .interpretationValidation "mapping_output_invalid" "Validated mapping produced invalid output"

/-- A positive statement that a mapping matches. -/
def interpretPositive (ir : StructuralIR) (node : ConfigNode) : Except Error PairOutcome :=
  if node.parseStatus != .parsed then return .diagnosed (some "uncertain_structural_node")
  else do
    let extraction ← extractMapping mapping node ir
    match extraction.value with
    | none => return .diagnosed extraction.diagnosticCode
    | some value =>
      let outcome ← resolveScope mapping.scopeResolver node ir
      match outcome.scope with
      | none => return .diagnosed (some (outcome.diagnosticCode.getD "scope_unresolved"))
      | some scope =>
        raiseIf (!outputValid mapping.fieldId value scope) outputInvalid
        let fact ← buildFact uuid5 context pack mapping value scope
          (node :: outcome.contextNode.toList) {} none
        return .emitted fact outcome.contextNode

/-- The body of the loop of `interpret_structural_ir`. A negated fact does not mark its
context node as consumed. -/
def interpretPair (ir : StructuralIR) (node : ConfigNode) : Except Error PairOutcome := do
  if !(← mappingMatches mapping node ir) then return .unmatched
  else if node.negated then
    match ← buildNegatedFact uuid5 context pack mapping ir node with
    | none => return .diagnosed (some "unsupported_negation")
    | some fact => return .emitted fact none
  else interpretPositive uuid5 context pack mapping ir node

/-- The value and scope of a structured match, or the failure that becomes a diagnostic. -/
def structuredOutput (definition : MappingDefinition) (captures : Captures) :
    Except Error (TypedValue × ScopeRef) := do
  let value ← extract definition captures
  let type := definition.valueExtraction.outputType
  let typed : TypedValue :=
    { type, value, unit := if type = .duration then some "seconds" else none }
  let scope : ScopeRef :=
    { type := definition.scopeResolution.strategy.text, key := "device", attributes := [] }
  let _ ← validateFieldValueScope definition.targetFieldId typed scope
  return (typed, scope)

/-- The `try` block around a structured match: `none` where the failure is caught. -/
def caughtOutput (definition : MappingDefinition) (captures : Captures) :
    Except Error (Option (TypedValue × ScopeRef)) :=
  match structuredOutput definition captures with
  | .ok output => return some output
  | .error e => if e.isOutputError then return none else .error e

/-- The body of the loop of `interpret_xml_structural_ir`. -/
def interpretXmlMatch (definition : MappingDefinition) (ir : XmlStructuralIR) (node : XmlNode)
    (captures : Captures) : Except Error PairOutcome :=
  if hasUnsupportedQualifier definition ir node then
    return .diagnosed (some "xml_scope_unsupported")
  else do
    match ← caughtOutput definition captures with
    | none => return .diagnosed (some "xml_mapping_output_invalid")
    | some (value, scope) =>
      return .emitted (← buildXmlFact uuid5 context pack mapping value scope node) none

/-- The body of the loop of `interpret_json_structural_ir`. -/
def interpretJsonMatch (definition : MappingDefinition) (node : JsonNode) (captures : Captures) :
    Except Error PairOutcome := do
  match ← caughtOutput definition captures with
  | none => return .diagnosed (some "json_mapping_output_invalid")
  | some (value, scope) =>
    return .emitted (← buildJsonFact uuid5 context pack mapping value scope node) none

end Facts

end ConfigAuditor.Interpretation.Mapping
