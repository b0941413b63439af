import ConfigAuditor.Interpretation.UnresolvedBlocks

/-!
# The columns of an unresolved block

The texts `_persist_unresolved_blocks` stores with a block, and the constraints of the
table `unresolved_blocks` on them.
-/
namespace ConfigAuditor.Interpretation.BlockColumns

open Library SecurityModel Parsing KnowledgePacks Training.Dsl Training.Matcher
  ProfileResolution Compliance.Model Extractors Scopes Mapping Service UnresolvedBlocks

/-- `text[:n]`. -/
def firstChars (n : Nat) (text : String) : String := String.ofList (text.toList.take n)

/-- The text of a node, in the notation of its format. -/
structure NodeText where
  nodeId : String
  order : Nat
  text : String
  deriving DecidableEq

section Texts

variable (reprPath : List JsonStep → String) (reprValue : PyValue → String)

def configText (node : ConfigNode) : NodeText :=
  { nodeId := node.nodeId, order := node.order, text := node.rawText }

def xmlText (node : XmlNode) : NodeText :=
  { nodeId := node.nodeId, order := node.order,
    text := "<" ++ node.tag ++ ">" ++ node.text.getD "" }

def jsonText (node : JsonNode) : NodeText :=
  { nodeId := node.nodeId, order := node.order,
    text := reprPath node.path ++ " = " ++ reprValue node.value }

def nodeTexts : ParsedIr → List NodeText
  | .cli ir => ir.nodes.map configText
  | .xml ir => ir.nodes.map xmlText
  | .json ir => ir.nodes.map (jsonText reprPath reprValue)

/-- `raw_text`: the structured formats bound it, the command lines do not. -/
def rawText (tree : ParsedIr) (nodeId : String) : String :=
  let text := (((nodeTexts reprPath reprValue tree).find? (·.nodeId == nodeId)).map (·.text)).getD ""
  match tree with
  | .cli _ => text
  | .xml _ => firstChars 2048 text
  | .json _ => firstChars 2048 text

/-- `context_text`: the node and two neighbours on each side. -/
def surroundingContext (tree : ParsedIr) (nodeId : String) : String :=
  let nearby := sortedBy (·.order) (nodeTexts reprPath reprValue tree)
  let position := nearby.findIdx (·.nodeId == nodeId)
  let first := position - 2
  firstChars 4096 (Text.join "\n"
    (((nearby.drop first).take (position + 3 - first)).map (·.text)))

end Texts

/-- A row of `unresolved_blocks`, with the columns that have a bound. -/
structure BlockRow where
  block : UnresolvedBlock
  rawText : String
  surroundingContext : String
  deriving DecidableEq

/-- The checks of the table and the widths of its columns. -/
def BlockRow.fits (row : BlockRow) : Bool :=
  row.rawText.length ≤ 2048 && row.surroundingContext.length ≤ 4096 &&
    row.block.unknownReason.length ≤ 128 && row.block.fingerprint.length == 64

theorem BlockRow.fits_iff {row : BlockRow} :
    row.fits = true ↔ row.rawText.length ≤ 2048 ∧ row.surroundingContext.length ≤ 4096 ∧
      row.block.unknownReason.length ≤ 128 ∧ row.block.fingerprint.length = 64 := by
  simp [BlockRow.fits, and_assoc]

section Rows

variable (reprPath : List JsonStep → String) (reprValue : PyValue → String)
  (sha256 : String → String) (organizationId : UUID) (context : InterpretationContext)
  (profileId profileVersionId : String) (profile : Option ProfileManifest) (pack : KnowledgePack)

def nodeRow (tree : ParsedIr × InterpretationResult) (node : EvidenceNode) : BlockRow :=
  { block := nodeBlock sha256 organizationId context profileId profileVersionId profile pack
      tree.2.diagnostics node
    rawText := rawText reprPath reprValue tree.1 node.nodeId
    surroundingContext := surroundingContext reprPath reprValue tree.1 node.nodeId }

/-- The rows of one interpreted tree. -/
def treeRows (tree : ParsedIr × InterpretationResult) : Except Error (List BlockRow) := do
  let nodes ← tree.2.unresolvedNodeIds.mapM (evidenceNode tree.1)
  return (nodes.filter fun node => !identityOnly profile node).map
    (nodeRow reprPath reprValue sha256 organizationId context profileId profileVersionId profile
      pack tree)

/-- The row of an unsupported artifact, with its bounded preview. -/
def artifactRow (artifact : UnsupportedArtifact × String) : BlockRow :=
  { block := artifactBlock sha256 organizationId context profileId profileVersionId profile
      artifact.1
    rawText := firstChars 2048 artifact.2
    surroundingContext := "" }

/-- The rows of a run: those of its trees, then those of its unsupported artifacts. -/
def runRows (trees : List (ParsedIr × InterpretationResult))
    (unsupported : List (UnsupportedArtifact × String)) : Except Error (List BlockRow) := do
  let rows ← trees.mapM (treeRows reprPath reprValue sha256 organizationId context profileId
    profileVersionId profile pack)
  return rows.flatten ++ unsupported.map
    (artifactRow sha256 organizationId context profileId profileVersionId profile)

/-- The rows of fingerprints the audit does not have yet. -/
def freshRows (existing : List String) (rows : List BlockRow) : List BlockRow :=
  rows.filter fun row => !existing.contains row.block.fingerprint

/-- The commit of the new rows: the checks of the table, then its unique fingerprint. -/
def commitRows (existing : List String) (rows : List BlockRow) : Except Error (List BlockRow) := do
  raiseIf (!rows.all (·.fits)) persistenceFailed
  raiseIf (!decide (existing ++ rows.map (·.block.fingerprint)).Nodup) persistenceFailed
  return rows

/-- `_persist_unresolved_blocks` and its commit, on top of the stored fingerprints. -/
def persistRows (existing : List String) (trees : List (ParsedIr × InterpretationResult))
    (unsupported : List (UnsupportedArtifact × String)) : Except Error (List BlockRow) := do
  let rows ← runRows reprPath reprValue sha256 organizationId context profileId profileVersionId
    profile pack trees unsupported
  commitRows existing (freshRows existing rows)

/-- The blocks of the rows are the blocks of the run. -/
theorem runRows_blocks {trees : List (ParsedIr × InterpretationResult)}
    {unsupported : List (UnsupportedArtifact × String)} {rows : List BlockRow}
    (h : runRows reprPath reprValue sha256 organizationId context profileId profileVersionId
      profile pack trees unsupported = .ok rows) :
    runBlocks sha256 organizationId context profileId profileVersionId profile pack trees
      (unsupported.map (·.1)) = .ok (rows.map (·.block)) := by
  simp only [runRows, except_bind_eq_ok, except_pure_eq_ok] at h
  obtain ⟨groups, hgroups, rfl⟩ := h
  have hblocks : trees.mapM (treeBlocks sha256 organizationId context profileId profileVersionId
      profile pack) = .ok (groups.map fun group => group.map (·.block)) := by
    rw [mapM_eq_ok] at hgroups ⊢
    rw [List.forall₂_map_right_iff]
    refine hgroups.imp fun tree group htree => ?_
    simp only [treeRows, except_bind_eq_ok, except_pure_eq_ok] at htree
    obtain ⟨nodes, hnodes, rfl⟩ := htree
    simp only [treeBlocks, hnodes, except_bind_eq_ok, except_pure_eq_ok]
    exact ⟨nodes, rfl, by simp [nodeRow, Function.comp_def]⟩
  simp only [runBlocks, hblocks, except_bind_eq_ok, except_pure_eq_ok]
  refine ⟨_, rfl, ?_⟩
  simp [artifactRow, Function.comp_def, List.map_flatten]

end Rows

/-- A code fits the column `unknown_reason`. -/
def ShortCode (code : Option String) : Prop := ∀ c ∈ code, c.length ≤ 128

theorem shortCode_none : ShortCode none := by simp [ShortCode]

theorem shortCode_some {c : String} (h : c.length ≤ 128) : ShortCode (some c) := by
  simpa [ShortCode] using h

theorem shortCode_failed {code : String} (h : code.length ≤ 128) :
    ShortCode (failed code).diagnosticCode := shortCode_some h

theorem shortCode_extracted (value : TypedValue) : ShortCode (extracted value).diagnosticCode :=
  shortCode_none

section Extraction

variable {arguments : List String} {outcome : ExtractionOutcome}

theorem shortCode_transport (protocol : String) :
    ShortCode (extractTransportProtocol protocol arguments).diagnosticCode := by
  unfold extractTransportProtocol
  split
  · exact shortCode_failed (by decide)
  dsimp only
  split_ifs
  · exact shortCode_extracted _
  · exact shortCode_extracted _
  · exact shortCode_failed (by decide)

theorem shortCode_endpoint (keyword : String) {code : String} (h : code.length ≤ 128) :
    ShortCode (extractEndpoint keyword code arguments).diagnosticCode := by
  unfold extractEndpoint
  split
  · exact shortCode_failed h
  dsimp only
  split
  · exact shortCode_extracted _
  split
  · exact shortCode_extracted _
  · exact shortCode_failed h

theorem shortCode_allowaccess (protocol : String) :
    ShortCode (extractFortiosAllowaccess protocol arguments).diagnosticCode := by
  unfold extractFortiosAllowaccess
  split
  · exact shortCode_failed (by decide)
  dsimp only
  split_ifs
  · exact shortCode_failed (by decide)
  · exact shortCode_extracted _
  · exact shortCode_extracted _

theorem shortCode_trusthost :
    ShortCode (extractFortiosTrusthostNetwork arguments).diagnosticCode := by
  unfold extractFortiosTrusthostNetwork
  split
  · exact shortCode_none
  split
  · exact shortCode_failed (by decide)
  split
  · exact shortCode_failed (by decide)
  · exact shortCode_extracted _

/-- A presence read off another extractor has that extractor's codes. -/
theorem shortCode_derived {other : ExtractionOutcome} (h : ShortCode other.diagnosticCode) :
    ShortCode (if other.value.isNone then other
      else extractPresenceEnabled arguments).diagnosticCode := by
  split
  · exact h
  · exact shortCode_extracted _

theorem shortCode_timeout (h : extractTimeoutMinutesSeconds arguments = .ok outcome) :
    ShortCode outcome.diagnosticCode := by
  unfold extractTimeoutMinutesSeconds at h
  split at h
  · obtain rfl := except_pure_eq_ok.mp h
    exact shortCode_failed (by decide)
  obtain ⟨minutes, -, h⟩ := except_bind_eq_ok.mp h
  dsimp only at h
  split at h
  all_goals
    obtain ⟨seconds, -, h⟩ := except_bind_eq_ok.mp h
    split at h
    · obtain rfl := except_pure_eq_ok.mp h
      exact shortCode_failed (by decide)
    · obtain rfl := except_pure_eq_ok.mp h
      exact shortCode_extracted _

theorem shortCode_port (h : extractFortiosPortEnabled arguments = .ok outcome) :
    ShortCode outcome.diagnosticCode := by
  unfold extractFortiosPortEnabled at h
  split at h
  · obtain rfl := except_pure_eq_ok.mp h
    exact shortCode_failed (by decide)
  · obtain ⟨port, -, h⟩ := except_bind_eq_ok.mp h
    obtain rfl := except_pure_eq_ok.mp h
    exact shortCode_extracted _

theorem shortCode_fortiosTimeout (h : extractFortiosTimeout arguments = .ok outcome) :
    ShortCode outcome.diagnosticCode := by
  unfold extractFortiosTimeout at h
  split at h
  · obtain rfl := except_pure_eq_ok.mp h
    exact shortCode_failed (by decide)
  obtain ⟨minutes, -, h⟩ := except_bind_eq_ok.mp h
  split at h
  · obtain rfl := except_pure_eq_ok.mp h
    exact shortCode_failed (by decide)
  · obtain rfl := except_pure_eq_ok.mp h
    exact shortCode_extracted _

theorem shortCode_minutes (h : extractDurationMinutes arguments = .ok outcome) :
    ShortCode outcome.diagnosticCode := by
  unfold extractDurationMinutes at h
  split at h
  · obtain rfl := except_pure_eq_ok.mp h
    exact shortCode_failed (by decide)
  obtain ⟨minutes, -, h⟩ := except_bind_eq_ok.mp h
  split at h
  · obtain rfl := except_pure_eq_ok.mp h
    exact shortCode_failed (by decide)
  · obtain rfl := except_pure_eq_ok.mp h
    exact shortCode_extracted _

theorem shortCode_keyId (h : extractNtpKeyId arguments = .ok outcome) :
    ShortCode outcome.diagnosticCode := by
  unfold extractNtpKeyId at h
  split at h
  · obtain rfl := except_pure_eq_ok.mp h
    exact shortCode_failed (by decide)
  · obtain ⟨key, -, h⟩ := except_bind_eq_ok.mp h
    obtain rfl := except_pure_eq_ok.mp h
    exact shortCode_extracted _

theorem shortCode_extractor {name : String} (h : extractor name arguments = .ok outcome) :
    ShortCode outcome.diagnosticCode := by
  unfold extractor at h
  split at h
  case h_3 => exact shortCode_timeout h
  case h_9 => exact shortCode_port h
  case h_14 => exact shortCode_fortiosTimeout h
  case h_17 => exact shortCode_minutes h
  case h_20 => exact shortCode_keyId h
  case h_24 => cases h
  all_goals obtain rfl := except_pure_eq_ok.mp h
  · exact shortCode_transport _
  · exact shortCode_transport _
  · unfold extractSshVersion
    dsimp only
    split
    · exact shortCode_failed (by decide)
    · exact shortCode_extracted _
  · exact shortCode_endpoint _ (by decide)
  · exact shortCode_endpoint _ (by decide)
  · exact shortCode_derived (shortCode_endpoint _ (by decide))
  · exact shortCode_endpoint _ (by decide)
  · exact shortCode_allowaccess _
  · exact shortCode_allowaccess _
  · exact shortCode_allowaccess _
  · exact shortCode_allowaccess _
  · exact shortCode_extracted _
  · exact shortCode_extracted _
  · unfold extractAristaServiceAcl
    dsimp only
    split_ifs
    · exact shortCode_extracted _
    · exact shortCode_failed (by decide)
  · unfold extractCiscoAccessClass
    split
    · exact shortCode_failed (by decide)
    · exact shortCode_extracted _
  · exact shortCode_trusthost
  · exact shortCode_derived shortCode_trusthost
  · unfold extractFortiosTlsMinimum
    dsimp only
    split
    · exact shortCode_failed (by decide)
    split
    · exact shortCode_extracted _
    · exact shortCode_failed (by decide)

end Extraction

section Attempts

variable {uuid5 : UUID → String → UUID} {context : InterpretationContext} {pack : KnowledgePack}
  {mapping : DeclarativeMapping}

theorem shortCode_extractMapping {node : ConfigNode} {ir : StructuralIR}
    {outcome : ExtractionOutcome} (h : extractMapping mapping node ir = .ok outcome) :
    ShortCode outcome.diagnosticCode := by
  unfold extractMapping at h
  split at h
  · exact shortCode_extractor (liftM_eq_ok.mp h)
  obtain ⟨projected, -, h⟩ := except_bind_eq_ok.mp h
  split at h
  · obtain rfl := except_pure_eq_ok.mp h
    exact shortCode_failed (by decide)
  · obtain ⟨value, -, h⟩ := except_bind_eq_ok.mp h
    obtain rfl := except_pure_eq_ok.mp h
    exact shortCode_extracted _

theorem shortCode_unresolvedScope (container : Option ConfigNode) {code : String}
    (h : code.length ≤ 128) : ShortCode (unresolvedScope container code).diagnosticCode :=
  shortCode_some h

theorem shortCode_vtyRange {node : ConfigNode} {ir : StructuralIR} {outcome : ScopeOutcome}
    (h : resolveVtyRange node ir = .ok outcome) : ShortCode outcome.diagnosticCode := by
  unfold resolveVtyRange at h
  split at h
  · obtain rfl := except_pure_eq_ok.mp h
    exact shortCode_unresolvedScope _ (by decide)
  split at h
  · obtain rfl := except_pure_eq_ok.mp h
    exact shortCode_unresolvedScope _ (by decide)
  obtain ⟨start, -, h⟩ := except_bind_eq_ok.mp h
  dsimp only at h
  split at h
  all_goals
    obtain ⟨finish, -, h⟩ := except_bind_eq_ok.mp h
    split at h
    · obtain rfl := except_pure_eq_ok.mp h
      exact shortCode_unresolvedScope _ (by decide)
    · obtain rfl := except_pure_eq_ok.mp h
      exact shortCode_none

theorem shortCode_fortiosEntry (table scopeType : String) {code : String} (hcode : code.length ≤ 128)
    (node : ConfigNode) (ir : StructuralIR) :
    ShortCode (resolveFortiosEntry table scopeType code node ir).diagnosticCode := by
  unfold resolveFortiosEntry
  dsimp only
  split
  · split
    · exact shortCode_unresolvedScope _ hcode
    split
    · exact shortCode_unresolvedScope _ hcode
    · exact shortCode_none
  · exact shortCode_unresolvedScope _ hcode

theorem shortCode_resolveScope {name : String} {node : ConfigNode} {ir : StructuralIR}
    {outcome : ScopeOutcome} (h : resolveScope name node ir = .ok outcome) :
    ShortCode outcome.diagnosticCode := by
  unfold resolveScope at h
  split at h
  case h_2 => exact shortCode_vtyRange h
  case h_6 => cases h
  all_goals obtain rfl := except_pure_eq_ok.mp h
  · exact shortCode_none
  · exact shortCode_fortiosEntry _ _ (by decide) _ _
  · exact shortCode_fortiosEntry _ _ (by decide) _ _
  · unfold resolveAristaManagementService
    dsimp only
    split
    · exact shortCode_none
    · exact shortCode_unresolvedScope _ (by decide)

/-- The codes of the attempts on a command line fit. -/
theorem shortCode_interpretPair {node : ConfigNode} {ir : StructuralIR} {code : Option String}
    (h : interpretPair uuid5 context pack mapping ir node = .ok (.diagnosed code)) :
    ShortCode code := by
  unfold interpretPair at h
  obtain ⟨matched, -, h⟩ := except_bind_eq_ok.mp h
  split at h
  · cases except_pure_eq_ok.mp h
  split at h
  · obtain ⟨fact, -, h⟩ := except_bind_eq_ok.mp h
    split at h
    · cases except_pure_eq_ok.mp h
      exact shortCode_some (by decide)
    · cases except_pure_eq_ok.mp h
  unfold interpretPositive at h
  split at h
  · cases except_pure_eq_ok.mp h
    exact shortCode_some (by decide)
  obtain ⟨extraction, hextract, h⟩ := except_bind_eq_ok.mp h
  split at h
  · cases except_pure_eq_ok.mp h
    exact shortCode_extractMapping hextract
  obtain ⟨resolved, hscope, h⟩ := except_bind_eq_ok.mp h
  split at h
  · cases except_pure_eq_ok.mp h
    have hresolved := shortCode_resolveScope (liftM_eq_ok.mp hscope)
    cases hcode : resolved.diagnosticCode with
    | none => exact shortCode_some (by decide)
    | some code => exact shortCode_some (hresolved code hcode)
  · obtain ⟨_, -, h⟩ := except_bind_eq_ok.mp h
    obtain ⟨fact, -, h⟩ := except_bind_eq_ok.mp h
    cases except_pure_eq_ok.mp h

theorem shortCode_interpretXmlMatch {definition : MappingDefinition} {ir : XmlStructuralIR}
    {node : XmlNode} {captures : Captures} {code : Option String}
    (h : interpretXmlMatch uuid5 context pack mapping definition ir node captures =
      .ok (.diagnosed code)) : ShortCode code := by
  unfold interpretXmlMatch at h
  split at h
  · cases except_pure_eq_ok.mp h
    exact shortCode_some (by decide)
  obtain ⟨output, -, h⟩ := except_bind_eq_ok.mp h
  split at h
  · cases except_pure_eq_ok.mp h
    exact shortCode_some (by decide)
  · obtain ⟨fact, -, h⟩ := except_bind_eq_ok.mp h
    cases except_pure_eq_ok.mp h

theorem shortCode_interpretJsonMatch {definition : MappingDefinition} {node : JsonNode}
    {captures : Captures} {code : Option String}
    (h : interpretJsonMatch uuid5 context pack mapping definition node captures =
      .ok (.diagnosed code)) : ShortCode code := by
  unfold interpretJsonMatch at h
  obtain ⟨output, -, h⟩ := except_bind_eq_ok.mp h
  split at h
  · cases except_pure_eq_ok.mp h
    exact shortCode_some (by decide)
  · obtain ⟨fact, -, h⟩ := except_bind_eq_ok.mp h
    cases except_pure_eq_ok.mp h

/-- The codes of the attempts of a structured run fit. -/
theorem shortCode_structured {ν : Type} {nodeId : ν → String}
    {find : MappingDefinition → Except PyError (List (ν × Captures))}
    {body : DeclarativeMapping → MappingDefinition → ν → Captures → Except Error PairOutcome}
    (hbody : ∀ mapping definition node captures code,
      body mapping definition node captures = .ok (.diagnosed code) → ShortCode code)
    {mappings : List DeclarativeMapping} {groups : List (List Attempt)}
    (h : mappings.mapM (attemptStructured nodeId find body) = .ok groups) {attempt : Attempt}
    (hmem : attempt ∈ groups.flatten) {code : Option String}
    (hcode : attempt.outcome = .diagnosed code) : ShortCode code := by
  obtain ⟨group, hgroup, hattempt⟩ := List.mem_flatten.mp hmem
  obtain ⟨mapping, -, hrun⟩ := mapM_exists_input h hgroup
  unfold attemptStructured at hrun
  split at hrun
  · obtain rfl := except_pure_eq_ok.mp hrun
    cases hattempt
  obtain ⟨found, -, hrun⟩ := except_bind_eq_ok.mp hrun
  obtain ⟨⟨node, captures⟩, -, hone⟩ := mapM_exists_input hrun hattempt
  obtain ⟨outcome, houtcome, hone⟩ := except_bind_eq_ok.mp hone
  obtain rfl := except_pure_eq_ok.mp hone
  exact hbody _ _ _ _ _ (houtcome.trans (congrArg Except.ok hcode))

theorem code_of_mem_diagnosticsOf {attempts : List Attempt} {d : InterpretationDiagnostic}
    (h : d ∈ diagnosticsOf attempts) :
    ∃ attempt ∈ attempts, attempt.outcome = .diagnosed (some d.code) := by
  obtain ⟨attempt, hmem, hd⟩ := List.mem_filterMap.mp h
  unfold Attempt.diagnostic? at hd
  split at hd
  · rename_i code houtcome
    obtain rfl := Option.some.inj hd
    exact ⟨attempt, hmem, houtcome⟩
  · cases hd

end Attempts

end ConfigAuditor.Interpretation.BlockColumns
