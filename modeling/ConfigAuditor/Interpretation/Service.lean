import ConfigAuditor.Interpretation.Mapping
import ConfigAuditor.ProfileResolution.Registry

/-!
# Interpreting a structural tree

`interpret_structural_ir`, `interpret_xml_structural_ir` and
`interpret_json_structural_ir`: every mapping of a pack on every node, the facts
and diagnostics this gives, and the nodes that stay unresolved.
-/
namespace ConfigAuditor.Interpretation.Service

open Library SecurityModel Parsing KnowledgePacks Training.Dsl Training.Matcher
  ProfileResolution Mapping

structure InterpretationDiagnostic where
  code : String
  nodeId : Option String := none
  mappingId : Option UUID := none
  deriving DecidableEq

/-- Nodes outside the leaves can match, so `unmatchedNodes` may be negative. -/
structure InterpretationMetrics where
  nodesConsidered : Nat
  nodesMatched : Nat
  mappingsApplied : Nat
  factsProduced : Nat
  unmatchedNodes : Int
  unsupportedCases : Nat
  deriving DecidableEq

structure InterpretationResult where
  facts : List SecurityFactDraft
  diagnostics : List InterpretationDiagnostic
  metrics : InterpretationMetrics
  unresolvedNodeIds : List String := []
  deriving DecidableEq

/-- One mapping tried on one node. -/
structure Attempt where
  nodeId : String
  mapping : DeclarativeMapping
  outcome : PairOutcome
  deriving DecidableEq

def Attempt.fact? (a : Attempt) : Option SecurityFactDraft :=
  match a.outcome with
  | .emitted fact _ => some fact
  | _ => none

def Attempt.diagnostic? (a : Attempt) : Option InterpretationDiagnostic :=
  match a.outcome with
  | .diagnosed (some code) =>
    some { code, nodeId := some a.nodeId, mappingId := some a.mapping.mappingId }
  | _ => none

/-- The node whose id an attempt adds to `matched_node_ids`. -/
def Attempt.matched? (a : Attempt) : Option String := a.fact?.map fun _ => a.nodeId

/-- The node whose id an attempt adds to `consumed_context_node_ids`. -/
def Attempt.consumed? (a : Attempt) : Option String :=
  match a.outcome with
  | .emitted _ (some context) => some context.nodeId
  | _ => none

def factsOf (attempts : List Attempt) : List SecurityFactDraft := attempts.filterMap (·.fact?)

def diagnosticsOf (attempts : List Attempt) : List InterpretationDiagnostic :=
  attempts.filterMap (·.diagnostic?)

def matchedIds (attempts : List Attempt) : List String := attempts.filterMap (·.matched?)

def consumedIds (attempts : List Attempt) : List String := attempts.filterMap (·.consumed?)

def metricsOf (considered : Nat) (attempts : List Attempt)
    (diagnostics : List InterpretationDiagnostic) : InterpretationMetrics :=
  { nodesConsidered := considered, nodesMatched := (matchedIds attempts).dedup.length,
    mappingsApplied := (factsOf attempts).length, factsProduced := (factsOf attempts).length,
    unmatchedNodes := considered - (matchedIds attempts).dedup.length,
    unsupportedCases := diagnostics.length }

def packUnavailable : Error :=
  .interpretationValidation "knowledge_pack_unavailable" "No compatible knowledge pack is available"

def packInvalid : Error :=
  .interpretationValidation "knowledge_pack_invalid" "Knowledge pack validation failed"

/-- `except ValueError: raise InterpretationValidationError(...) from None`. -/
def reportInvalid (check : Except Error KnowledgePack) : Except Error KnowledgePack :=
  match check with
  | .ok pack => return pack
  | .error e => .error (if e.isValueError then packInvalid else e)

/-- `load_validated_knowledge_pack`. -/
def loadValidatedKnowledgePack (profileVersionId : String) : Except Error KnowledgePack :=
  match profileRegistry profileVersionId, Sealed.activeForProfile profileVersionId with
  | some profile, some pack =>
    if profile.knowledgePackName != some (pack.name ++ "@" ++ pack.version) then
      .error packUnavailable
    else reportInvalid (validateKnowledgePack pack profile.profileId profile.profileVersionId)
  | _, _ => .error packUnavailable

/-- The profile and pack an interpreter works with, after its checks. -/
def requireProfile (profileVersionId : String) (profile : Option ProfileManifest)
    (readerId format : String) : Except Error ProfileManifest :=
  match profile.or (profileRegistry profileVersionId) with
  | some found =>
    if some readerId = found.structuralReaderName then return found
    else .error (.interpretationValidation "profile_ir_incompatible"
      ("Resolved profile is incompatible with " ++ format))
  | none => .error (.interpretationValidation "profile_ir_incompatible"
      ("Resolved profile is incompatible with " ++ format))

def requireProvenance (consistent : Bool) (format : String) : Except Error Unit :=
  raiseIf (!consistent) (.interpretationValidation "ir_provenance_invalid"
    (format ++ " provenance is inconsistent"))

def requirePack (profileVersionId : String) (pack : Option KnowledgePack) :
    Except Error KnowledgePack :=
  match pack with
  | some pack => return pack
  | none => loadValidatedKnowledgePack profileVersionId

section Interpreters

variable (uuid5 : UUID → String → UUID) (context : InterpretationContext)

def statements (ir : StructuralIR) : List ConfigNode := ir.nodes.filter (·.kind == .statement)

/-- Statements and opaque blocks. -/
def evidenceNodes (ir : StructuralIR) : List ConfigNode :=
  ir.nodes.filter fun node => node.kind == .statement || node.kind == .opaqueBlock

/-- The nested loop over statements and mappings, in its order. -/
def pairs (ir : StructuralIR) (pack : KnowledgePack) : List (ConfigNode × DeclarativeMapping) :=
  (statements ir).flatMap fun node => pack.mappings.map fun mapping => (node, mapping)

def attemptPair (ir : StructuralIR) (pack : KnowledgePack)
    (pair : ConfigNode × DeclarativeMapping) : Except Error Attempt := do
  let outcome ← interpretPair uuid5 context pack pair.2 ir pair.1
  return { nodeId := pair.1.nodeId, mapping := pair.2, outcome }

/-- The nodes neither matched nor consumed as the context of a fact. -/
def unresolvedNodes (ir : StructuralIR) (attempts : List Attempt) : List ConfigNode :=
  (evidenceNodes ir).filter fun node =>
    !(matchedIds attempts).contains node.nodeId && !(consumedIds attempts).contains node.nodeId

/-- `_add_diagnostic` keeps the first of equal diagnostics. -/
def cliDiagnostics (attempts : List Attempt) : List InterpretationDiagnostic :=
  (diagnosticsOf attempts).eraseDups

def cliResult (ir : StructuralIR) (attempts : List Attempt) : InterpretationResult :=
  { facts := factsOf attempts, diagnostics := cliDiagnostics attempts,
    metrics := metricsOf (evidenceNodes ir).length attempts (cliDiagnostics attempts),
    unresolvedNodeIds := (unresolvedNodes ir attempts).map (·.nodeId) }

/-- `interpret_structural_ir`. -/
def interpretStructuralIr (ir : StructuralIR) (profileVersionId : String)
    (knowledgePack : Option KnowledgePack) (profile : Option ProfileManifest) :
    Except Error InterpretationResult := do
  let profile ← requireProfile profileVersionId profile ir.readerId "Structural IR"
  requireProvenance (ir.source.snapshotId == some context.snapshotId &&
    ir.nodes.all (·.artifactId == ir.source.artifactId)) "Structural IR"
  let pack ← requirePack profileVersionId knowledgePack
  let _ ← reportInvalid (validateKnowledgePack pack profile.profileId profile.profileVersionId)
  let attempts ← (pairs ir pack).mapM (attemptPair uuid5 context ir pack)
  return cliResult ir attempts

/-- The loop over the matches of one mapping, which the structured formats share. -/
def attemptStructured {ν : Type} (nodeId : ν → String)
    (find : MappingDefinition → Except PyError (List (ν × Captures)))
    (body : DeclarativeMapping → MappingDefinition → ν → Captures → Except Error PairOutcome)
    (mapping : DeclarativeMapping) : Except Error (List Attempt) :=
  match mapping.trainingDefinition with
  | none => return []
  | some definition => do
    let found ← find definition
    found.mapM fun (node, captures) => do
      let outcome ← body mapping definition node captures
      return { nodeId := nodeId node, mapping, outcome }

/-- The nodes no other node names as its parent. -/
def xmlLeaves (ir : XmlStructuralIR) : List XmlNode :=
  ir.nodes.filter fun node => !ir.nodes.any fun child => child.parentId == some node.nodeId

def attemptXml (ir : XmlStructuralIR) (pack : KnowledgePack) :
    DeclarativeMapping → Except Error (List Attempt) :=
  attemptStructured (·.nodeId) (matchesXml · ir) fun mapping definition =>
    interpretXmlMatch uuid5 context pack mapping definition ir

def xmlResult (ir : XmlStructuralIR) (attempts : List Attempt) : InterpretationResult :=
  { facts := factsOf attempts, diagnostics := diagnosticsOf attempts,
    metrics := metricsOf (xmlLeaves ir).length attempts (diagnosticsOf attempts),
    unresolvedNodeIds := ((xmlLeaves ir).filter fun node =>
      !(matchedIds attempts).contains node.nodeId).map (·.nodeId) }

/-- `interpret_xml_structural_ir`. -/
def interpretXmlStructuralIr (ir : XmlStructuralIR) (profileVersionId : String)
    (knowledgePack : Option KnowledgePack) (profile : Option ProfileManifest) :
    Except Error InterpretationResult := do
  let profile ← requireProfile profileVersionId profile ir.readerId "XML IR"
  requireProvenance (ir.source.snapshotId == some context.snapshotId &&
    ir.nodes.all (·.source.artifactId == ir.source.artifactId)) "XML IR"
  let pack ← requirePack profileVersionId knowledgePack
  let _ ← validateKnowledgePack pack profile.profileId profile.profileVersionId
  let attempts ← pack.mappings.mapM (attemptXml uuid5 context ir pack)
  return xmlResult ir attempts.flatten

def jsonLeaves (ir : JsonStructuralIR) : List JsonNode := ir.nodes.filter (!·.value.isContainer)

def attemptJson (ir : JsonStructuralIR) (pack : KnowledgePack) :
    DeclarativeMapping → Except Error (List Attempt) :=
  attemptStructured (·.nodeId) (matchesJson · ir) (interpretJsonMatch uuid5 context pack)

def jsonResult (ir : JsonStructuralIR) (attempts : List Attempt) : InterpretationResult :=
  { facts := factsOf attempts, diagnostics := diagnosticsOf attempts,
    metrics := metricsOf (jsonLeaves ir).length attempts (diagnosticsOf attempts),
    unresolvedNodeIds := ((jsonLeaves ir).filter fun node =>
      !(matchedIds attempts).contains node.nodeId).map (·.nodeId) }

/-- A truncated tree gives no facts; every leaf is a diagnostic and unresolved. -/
def jsonIncomplete (ir : JsonStructuralIR) : InterpretationResult :=
  let leaves := jsonLeaves ir
  { facts := [],
    diagnostics := leaves.map fun node =>
      { code := "json_evidence_incomplete", nodeId := some node.nodeId },
    metrics :=
      { nodesConsidered := leaves.length, nodesMatched := 0, mappingsApplied := 0,
        factsProduced := 0, unmatchedNodes := leaves.length, unsupportedCases := leaves.length },
    unresolvedNodeIds := leaves.map (·.nodeId) }

/-- `interpret_json_structural_ir`. -/
def interpretJsonStructuralIr (ir : JsonStructuralIR) (profileVersionId : String)
    (knowledgePack : Option KnowledgePack) (profile : Option ProfileManifest) :
    Except Error InterpretationResult := do
  let profile ← requireProfile profileVersionId profile ir.readerId "JSON IR"
  requireProvenance (ir.source.snapshotId == some context.snapshotId &&
    ir.nodes.all (·.source.artifactId == ir.source.artifactId)) "JSON IR"
  let pack ← requirePack profileVersionId knowledgePack
  let _ ← validateKnowledgePack pack profile.profileId profile.profileVersionId
  if ir.truncated then return jsonIncomplete ir
  else
    let attempts ← pack.mappings.mapM (attemptJson uuid5 context ir pack)
    return jsonResult ir attempts.flatten

end Interpreters

end ConfigAuditor.Interpretation.Service
