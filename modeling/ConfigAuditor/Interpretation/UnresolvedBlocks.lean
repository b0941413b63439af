import ConfigAuditor.Library.Sorting
import ConfigAuditor.Compliance.Rules
import ConfigAuditor.Interpretation.Service

/-!
# Persisting unresolved evidence

`_persist_unresolved_blocks`: one block for each unresolved node and for each
unsupported artifact, with the canonical fields it may concern and the rules of
the profile it affects. Blocks with a stored fingerprint are not written again.
-/
namespace ConfigAuditor.Interpretation.UnresolvedBlocks

open Library SecurityModel Parsing KnowledgePacks ProfileResolution Compliance.Model Mapping Service

/-- What a block takes from a node, whatever its format. -/
structure EvidenceNode where
  nodeId : String
  artifactId : UUID
  sourceLabel : String
  startLine : Option Nat
  endLine : Option Nat
  structuredPath : PyValue
  evidenceType : String
  /-- The command of a command-line statement. -/
  statementCommand : Option String
  /-- An opaque command-line block that was not read to its end. -/
  incompleteBlock : Bool
  deriving DecidableEq

def configEvidence (node : ConfigNode) : EvidenceNode :=
  { nodeId := node.nodeId, artifactId := node.artifactId, sourceLabel := node.sourceLabel,
    startLine := some node.sourceStart, endLine := some node.sourceEnd, structuredPath := .none,
    evidenceType := "configuration",
    statementCommand := if node.kind = .statement then node.command else none,
    incompleteBlock := node.kind == .opaqueBlock && node.parseStatus != .opaqueBlock }

def xmlEvidence (node : XmlNode) : EvidenceNode :=
  { nodeId := node.nodeId, artifactId := node.source.artifactId,
    sourceLabel := node.source.sourceLabel, startLine := some node.order,
    endLine := some node.order, structuredPath := .none, evidenceType := "structured_export",
    statementCommand := none, incompleteBlock := false }

def stepValue : JsonStep → PyValue
  | .key name => .str name
  | .index i => .int i

def jsonEvidence (node : JsonNode) : EvidenceNode :=
  { nodeId := node.nodeId, artifactId := node.source.artifactId,
    sourceLabel := node.source.sourceLabel, startLine := none, endLine := none,
    structuredPath := .list (node.path.map stepValue), evidenceType := "structured_export",
    statementCommand := none, incompleteBlock := false }

inductive ParsedIr where
  | cli (ir : StructuralIR)
  | xml (ir : XmlStructuralIR)
  | json (ir : JsonStructuralIR)
  deriving DecidableEq

def ParsedIr.evidence : ParsedIr → List EvidenceNode
  | .cli ir => ir.nodes.map configEvidence
  | .xml ir => ir.nodes.map xmlEvidence
  | .json ir => ir.nodes.map jsonEvidence

def ParsedIr.truncated : ParsedIr → Bool
  | .cli ir => ir.truncated
  | .xml ir => ir.truncated
  | .json ir => ir.truncated

/-- Configuration-like evidence the profile has no reader for. -/
structure UnsupportedArtifact where
  artifactId : UUID
  originalFilename : String
  evidenceType : String
  deriving DecidableEq

/-- The rules a profile is evaluated with. -/
def rulesOf (profileVersionId : String) : List RuleDefinition :=
  ((Compliance.Rules.rulePackByProfile profileVersionId).map (·.rules)).getD []

theorem nodup_ruleIds (profileVersionId : String) :
    ((rulesOf profileVersionId).map (·.ruleId)).Nodup := by
  unfold rulesOf
  cases hpack : Compliance.Rules.rulePackByProfile profileVersionId with
  | none => simp
  | some rules =>
    have hactive : rules ∈ Compliance.Rules.active := List.mem_of_find?_eq_some hpack
    exact rulePackOk_nodup
      (Compliance.Rules.registry_validated rules (Compliance.Rules.registry_of_active hactive))

/-- `all_field_ids`: the fields of the rules, or those the profile declares to cover. -/
def allFieldIds (profileVersionId : String) (profile : Option ProfileManifest) : List String :=
  match sortedSet ((rulesOf profileVersionId).flatMap (·.requiredEffectiveStates)) with
  | [] => sortedBy id ((profile.map (·.canonicalFields)).getD [])
  | fields => fields

/-- `all_rule_ids`. -/
def allRuleIds (profileVersionId : String) : List String :=
  sortedBy id ((rulesOf profileVersionId).map (·.ruleId))

/-- `mapping_fields.get(mapping_id)`. -/
def mappingField (pack : KnowledgePack) (mappingId : UUID) : Option String :=
  (pack.mappings.reverse.find? (·.mappingId == mappingId)).map (·.fieldId)

/-- The fields of the mappings that left a diagnostic on a node. -/
def diagnosedFields (pack : KnowledgePack) (diagnostics : List InterpretationDiagnostic) :
    List String :=
  sortedSet (diagnostics.filterMap fun d => d.mappingId.bind (mappingField pack))

/-- The rules that require one of the fields. -/
def rulesRequiring (profileVersionId : String) (fields : List String) : List String :=
  sortedSet (((rulesOf profileVersionId).filter fun rule =>
    rule.requiredEffectiveStates.any fields.contains).map (·.ruleId))

def genericProfiles : List String := ["generic.cli", "generic.xml", "generic.json"]

/-- A node without a safely determined field concerns every field. -/
def concernsAll (profileId : String) (fields : List String) (node : EvidenceNode) : Bool :=
  fields.isEmpty || genericProfiles.contains profileId || node.incompleteBlock

section Persist

variable (sha256 : String → String) (organizationId : UUID) (context : InterpretationContext)
  (profileId profileVersionId : String) (profile : Option ProfileManifest) (pack : KnowledgePack)

def fingerprintOf (artifactId : UUID) (label : String) : String :=
  sha256 (context.auditId.str ++ ":" ++ artifactId.str ++ ":" ++ label)

def lineValue : Option Nat → PyValue
  | none => .none
  | some n => .int n

/-- The block of one unresolved node. -/
def nodeBlock (diagnostics : List InterpretationDiagnostic) (node : EvidenceNode) :
    UnresolvedBlock :=
  let own := diagnostics.filter (·.nodeId == some node.nodeId)
  let fields := diagnosedFields pack own
  let all := concernsAll profileId fields node
  { auditId := context.auditId, organizationId, deviceId := context.deviceId,
    snapshotId := context.snapshotId, profileId := some profileId,
    profileVersionId := some profileVersionId, sourceIrNodeIds := [node.nodeId],
    evidenceRefs := [.dict [("artifact_id", .str node.artifactId.str),
      ("start_line", lineValue node.startLine), ("end_line", lineValue node.endLine),
      ("source_path", .str node.sourceLabel), ("ir_node_id", .str node.nodeId),
      ("structured_path", node.structuredPath), ("evidence_type", .str node.evidenceType)]],
    unknownReason := ((own.head?).map (·.code)).getD "unmapped_syntax",
    candidateFieldIds := if all then allFieldIds profileVersionId profile else fields,
    affectedRuleIds :=
      if all then allRuleIds profileVersionId else rulesRequiring profileVersionId fields,
    fingerprint := fingerprintOf sha256 context node.artifactId node.nodeId }

/-- The block of one unsupported artifact. -/
def artifactBlock (artifact : UnsupportedArtifact) : UnresolvedBlock :=
  { auditId := context.auditId, organizationId, deviceId := context.deviceId,
    snapshotId := context.snapshotId, profileId := some profileId,
    profileVersionId := some profileVersionId, sourceIrNodeIds := [],
    evidenceRefs := [.dict [("artifact_id", .str artifact.artifactId.str),
      ("source_path", .str artifact.originalFilename),
      ("evidence_type", .str artifact.evidenceType)]],
    unknownReason := "unsupported_configuration_evidence",
    candidateFieldIds := allFieldIds profileVersionId profile,
    affectedRuleIds := allRuleIds profileVersionId,
    fingerprint := fingerprintOf sha256 context artifact.artifactId "unsupported-artifact" }

/-- Identity syntax that the manifest declares to have no compliance meaning. -/
def identityOnly (node : EvidenceNode) : Bool :=
  profile.any fun p => node.statementCommand.any p.identityOnlyCommands.contains

/-- `nodes[node_id]`. -/
def evidenceNode (ir : ParsedIr) (nodeId : String) : Except Error EvidenceNode :=
  match ir.evidence.find? (·.nodeId == nodeId) with
  | some node => return node
  | none => .error (.python .keyError)

theorem evidenceNode_eq_ok {ir : ParsedIr} {nodeId : String} {node : EvidenceNode}
    (h : evidenceNode ir nodeId = .ok node) : node ∈ ir.evidence ∧ node.nodeId = nodeId := by
  unfold evidenceNode at h
  split at h
  · rename_i found hfind
    obtain rfl := except_pure_eq_ok.mp h
    exact ⟨List.mem_of_find?_eq_some hfind, by simpa using List.find?_some hfind⟩
  · cases h

/-- The blocks of one interpreted tree. -/
def treeBlocks (tree : ParsedIr × InterpretationResult) : Except Error (List UnresolvedBlock) := do
  let nodes ← tree.2.unresolvedNodeIds.mapM (evidenceNode tree.1)
  return (nodes.filter fun node => !identityOnly profile node).map
    (nodeBlock sha256 organizationId context profileId profileVersionId profile pack
      tree.2.diagnostics)

/-- The blocks of a run: those of its trees, then those of its unsupported artifacts. -/
def runBlocks (trees : List (ParsedIr × InterpretationResult))
    (unsupported : List UnsupportedArtifact) : Except Error (List UnresolvedBlock) := do
  let blocks ← trees.mapM
    (treeBlocks sha256 organizationId context profileId profileVersionId profile pack)
  return blocks.flatten ++ unsupported.map
    (artifactBlock sha256 organizationId context profileId profileVersionId profile)

def persistenceFailed : Error :=
  .interpretationInfrastructure "security_fact_persistence_failed"
    "SecurityFacts could not be persisted"

/-- `_persist_unresolved_blocks` and the commit after it: the blocks of the audit
afterwards. A pending block is not seen by the query for its fingerprint, so two
equal fingerprints of one run break the unique constraint of the table. -/
def persistUnresolvedBlocks (trees : List (ParsedIr × InterpretationResult))
    (unsupported : List UnsupportedArtifact) (existing : List UnresolvedBlock) :
    Except Error (List UnresolvedBlock) := do
  let blocks ← runBlocks sha256 organizationId context profileId profileVersionId profile pack
    trees unsupported
  let fresh := blocks.filter fun block =>
    !existing.any fun known => known.fingerprint == block.fingerprint
  raiseIf (!decide (fresh.map (·.fingerprint)).Nodup) persistenceFailed
  return existing ++ fresh

/-- `interpret_audit` with a single tree. -/
def auditTree (tree : ParsedIr) (interpreted : Except Error InterpretationResult) :
    Except Error (InterpretationResult × List UnresolvedBlock) := do
  let result ← interpreted
  let blocks ← persistUnresolvedBlocks sha256 organizationId context profileId profileVersionId
    profile pack [(tree, result)] [] []
  return (result, blocks)

/-- Without earlier blocks, what is stored are the blocks of the run. -/
theorem persistUnresolvedBlocks_fresh {trees : List (ParsedIr × InterpretationResult)}
    {unsupported : List UnsupportedArtifact} {blocks : List UnresolvedBlock}
    (h : persistUnresolvedBlocks sha256 organizationId context profileId profileVersionId profile
      pack trees unsupported [] = .ok blocks) :
    runBlocks sha256 organizationId context profileId profileVersionId profile pack trees
      unsupported = .ok blocks := by
  simp only [persistUnresolvedBlocks, except_bind_eq_ok, except_pure_eq_ok, List.any_nil,
    Bool.not_false, List.filter_true, List.nil_append] at h
  obtain ⟨found, hrun, _, -, rfl⟩ := h
  exact hrun

/-- The blocks of a single tree that name a node are those of its unresolved nodes. -/
theorem runBlocks_single {tree : ParsedIr × InterpretationResult}
    {unsupported : List UnsupportedArtifact} {blocks : List UnresolvedBlock}
    (h : runBlocks sha256 organizationId context profileId profileVersionId profile pack [tree]
      unsupported = .ok blocks) {nodeId : String} {block : UnresolvedBlock} :
    (block ∈ blocks ∧ nodeId ∈ block.sourceIrNodeIds) ↔
      nodeId ∈ tree.2.unresolvedNodeIds ∧ ∃ node, evidenceNode tree.1 nodeId = .ok node ∧
        identityOnly profile node = false ∧
        block = nodeBlock sha256 organizationId context profileId profileVersionId profile pack
          tree.2.diagnostics node := by
  simp only [runBlocks, except_bind_eq_ok, except_pure_eq_ok, mapM_eq_ok] at h
  obtain ⟨found, hfound, rfl⟩ := h
  obtain ⟨own, rest, hown, hrest, rfl⟩ := List.forall₂_cons_left_iff.mp hfound
  obtain rfl := List.forall₂_nil_left_iff.mp hrest
  simp only [treeBlocks, except_bind_eq_ok, except_pure_eq_ok] at hown
  obtain ⟨nodes, hnodes, rfl⟩ := hown
  simp only [List.flatten_cons, List.flatten_nil, List.append_nil, List.mem_append, List.mem_map,
    List.mem_filter, Bool.not_eq_true']
  constructor
  · rintro ⟨⟨node, ⟨hmem, hident⟩, rfl⟩ | ⟨artifact, -, rfl⟩, hblock⟩
    · obtain ⟨id, hunresolved, hnode⟩ := mapM_exists_input hnodes hmem
      have hnodeId : nodeId = id := by
        rw [← (evidenceNode_eq_ok hnode).2]
        simpa [nodeBlock] using hblock
      exact ⟨hnodeId ▸ hunresolved, node, hnodeId ▸ hnode, hident, rfl⟩
    · simp [artifactBlock] at hblock
  · rintro ⟨hunresolved, node, hnode, hident, rfl⟩
    obtain ⟨node', hmem, hnode'⟩ := mapM_exists_output hnodes hunresolved
    rw [hnode] at hnode'
    obtain rfl := Except.ok.inj hnode'
    refine ⟨Or.inl ⟨node, ⟨hmem, hident⟩, rfl⟩, ?_⟩
    simp [nodeBlock, (evidenceNode_eq_ok hnode).2]

theorem auditTree_eq_ok {tree : ParsedIr} {interpreted : Except Error InterpretationResult}
    {run : InterpretationResult × List UnresolvedBlock}
    (h : auditTree sha256 organizationId context profileId profileVersionId profile pack tree
      interpreted = .ok run) :
    interpreted = .ok run.1 ∧ persistUnresolvedBlocks sha256 organizationId context profileId
      profileVersionId profile pack [(tree, run.1)] [] [] = .ok run.2 := by
  simp only [auditTree, except_bind_eq_ok, except_pure_eq_ok] at h
  obtain ⟨result, hresult, blocks, hblocks, rfl⟩ := h
  exact ⟨hresult, hblocks⟩

end Persist

section Named

variable {pack : KnowledgePack} {diagnostics : List InterpretationDiagnostic} {nodeId : String}
  {coded : DeclarativeMapping → Prop}

/-- The diagnostics of a node come from exactly the mappings that satisfy `coded`. -/
def DiagnosedBy (pack : KnowledgePack) (diagnostics : List InterpretationDiagnostic)
    (nodeId : String) (coded : DeclarativeMapping → Prop) : Prop :=
  ∀ mappingId, (∃ d ∈ diagnostics, d.nodeId = some nodeId ∧ d.mappingId = some mappingId) ↔
    ∃ mapping ∈ pack.mappings, mapping.mappingId = mappingId ∧ coded mapping

/-- The block of the node names every field of the profile. -/
def ConcernsEveryField (profile : ProfileManifest) (pack : KnowledgePack) (incomplete : Bool)
    (coded : DeclarativeMapping → Prop) : Prop :=
  profile.profileId ∈ genericProfiles ∨ incomplete = true ∨ ∀ m ∈ pack.mappings, ¬ coded m

/-- The block of a node names a field: one of the profile's, or one of a coded mapping. -/
def FieldNamed (profile : ProfileManifest) (pack : KnowledgePack) (incomplete : Bool)
    (coded : DeclarativeMapping → Prop) (field : String) : Prop :=
  (ConcernsEveryField profile pack incomplete coded →
    field ∈ allFieldIds profile.profileVersionId (some profile)) ∧
  (¬ ConcernsEveryField profile pack incomplete coded →
    ∃ m ∈ pack.mappings, m.fieldId = field ∧ coded m)

theorem mappingField_of_mem (hids : (pack.mappings.map (·.mappingId)).Nodup)
    {mapping : DeclarativeMapping} (h : mapping ∈ pack.mappings) :
    mappingField pack mapping.mappingId = some mapping.fieldId := by
  unfold mappingField
  cases hfind : pack.mappings.reverse.find? (·.mappingId == mapping.mappingId) with
  | none =>
    have := List.find?_eq_none.mp hfind mapping (List.mem_reverse.mpr h)
    simp at this
  | some found =>
    have hmem := List.mem_reverse.mp (List.mem_of_find?_eq_some hfind)
    have hid : found.mappingId = mapping.mappingId := by simpa using List.find?_some hfind
    rw [List.inj_on_of_nodup_map hids hmem h hid]
    rfl

theorem mem_diagnosedFields (hids : (pack.mappings.map (·.mappingId)).Nodup)
    (hcoded : DiagnosedBy pack diagnostics nodeId coded) {field : String} :
    field ∈ diagnosedFields pack (diagnostics.filter (·.nodeId == some nodeId)) ↔
      ∃ m ∈ pack.mappings, m.fieldId = field ∧ coded m := by
  simp only [diagnosedFields, mem_sortedSet, List.mem_filterMap, List.mem_filter, beq_iff_eq,
    Option.bind_eq_some_iff]
  constructor
  · rintro ⟨d, ⟨hd, hnode⟩, mappingId, hmapping, hfield⟩
    obtain ⟨m, hm, rfl, hc⟩ := (hcoded mappingId).mp ⟨d, hd, hnode, hmapping⟩
    rw [mappingField_of_mem hids hm] at hfield
    exact ⟨m, hm, Option.some.inj hfield, hc⟩
  · rintro ⟨m, hm, rfl, hc⟩
    obtain ⟨d, hd, hnode, hmapping⟩ := (hcoded m.mappingId).mpr ⟨m, hm, rfl, hc⟩
    exact ⟨d, ⟨hd, hnode⟩, m.mappingId, hmapping, mappingField_of_mem hids hm⟩

variable {sha256 : String → String} {organizationId : UUID} {context : InterpretationContext}
  {profile : ProfileManifest}

/-- Whether the block of a node concerns all fields of the profile. -/
theorem concernsAll_iff (hids : (pack.mappings.map (·.mappingId)).Nodup) {node : EvidenceNode}
    (hcoded : DiagnosedBy pack diagnostics node.nodeId coded) :
    concernsAll profile.profileId
        (diagnosedFields pack (diagnostics.filter (·.nodeId == some node.nodeId))) node = true ↔
      ConcernsEveryField profile pack node.incompleteBlock coded := by
  have hempty : diagnosedFields pack (diagnostics.filter (·.nodeId == some node.nodeId)) = [] ↔
      ∀ m ∈ pack.mappings, ¬ coded m := by
    rw [List.eq_nil_iff_forall_not_mem]
    simp only [mem_diagnosedFields hids hcoded]
    exact ⟨fun h m hm hc => h m.fieldId ⟨m, hm, rfl, hc⟩, fun h f ⟨m, hm, _, hc⟩ => h m hm hc⟩
  simp only [concernsAll, ConcernsEveryField, Bool.or_eq_true, List.isEmpty_iff, hempty,
    List.contains_iff_mem]
  tauto

/-- The candidate fields of the block of a node. -/
theorem mem_nodeBlock_candidates (hids : (pack.mappings.map (·.mappingId)).Nodup)
    {node : EvidenceNode} (hcoded : DiagnosedBy pack diagnostics node.nodeId coded)
    {field : String} :
    field ∈ (nodeBlock sha256 organizationId context profile.profileId profile.profileVersionId
        (some profile) pack diagnostics node).candidateFieldIds ↔
      FieldNamed profile pack node.incompleteBlock coded field := by
  simp only [nodeBlock, FieldNamed, ← concernsAll_iff hids hcoded]
  split
  · rename_i hall
    simp [hall]
  · rename_i hall
    rw [mem_diagnosedFields hids hcoded]
    simp [hall]

end Named

end ConfigAuditor.Interpretation.UnresolvedBlocks
