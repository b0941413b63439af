import ConfigAuditor.Interpretation.Outcomes
import ConfigAuditor.Parsing.IndentationCli
import ConfigAuditor.Parsing.XmlTree
import ConfigAuditor.Parsing.JsonTree

/-!
# Failed matches that stay hidden

A mapping that matches a node without giving a fact should leave the node
unresolved, in a block that names the mapping's field. The interpreters keep one
flag for each node, so another mapping's success on the node hides the failure.
Each theorem gives the exact condition under which nothing is hidden.
-/
namespace ConfigAuditor.Interpretation.FailClosed

open Library SecurityModel Parsing KnowledgePacks Training.Dsl Training.Matcher
  ProfileResolution Compliance.Model Mapping Service UnresolvedBlocks Outcomes

/-- Every failed match leaves its node unresolved, in a block that names its field. -/
def Reported {ν : Type} (nodes : List ν) (nodeId : ν → String)
    (mappings : List DeclarativeMapping) (failed : DeclarativeMapping → ν → Prop)
    (result : InterpretationResult) (blocks : List UnresolvedBlock) : Prop :=
  ∀ node ∈ nodes, ∀ mapping ∈ mappings, failed mapping node →
    nodeId node ∈ result.unresolvedNodeIds ∧
      ∃ block ∈ blocks, nodeId node ∈ block.sourceIrNodeIds ∧
        mapping.fieldId ∈ block.candidateFieldIds

/-- The same of the evidence alone: nothing hides a failed match. -/
def NothingHidden {ν : Type} (nodes : List ν) (view : ν → EvidenceNode) (pack : KnowledgePack)
    (profile : ProfileManifest) (misses : DeclarativeMapping → ν → Prop) (unresolved : ν → Prop)
    (coded : ν → DeclarativeMapping → Prop) : Prop :=
  ∀ node ∈ nodes, ∀ mapping ∈ pack.mappings, misses mapping node →
    unresolved node ∧ identityOnly (some profile) (view node) = false ∧
      FieldNamed profile pack (view node).incompleteBlock (coded node) mapping.fieldId

section Schema

variable {ν : Type} {nodes : List ν} (view : ν → EvidenceNode) {pack : KnowledgePack}
  {profile : ProfileManifest} {failed misses : DeclarativeMapping → ν → Prop}
  {unresolved : ν → Prop} {coded : ν → DeclarativeMapping → Prop} {tree : ParsedIr}
  {result : InterpretationResult} {sha256 : String → String} {organizationId : UUID}
  {context : InterpretationContext} {unsupported : List UnsupportedArtifact}
  {blocks : List UnresolvedBlock}

theorem evidenceNode_of_mem (hview : tree.evidence = nodes.map view)
    (hids : (nodes.map fun n => (view n).nodeId).Nodup) {node : ν} (hnode : node ∈ nodes) :
    evidenceNode tree (view node).nodeId = .ok (view node) := by
  unfold evidenceNode
  rw [hview]
  have hmem : view node ∈ nodes.map view := List.mem_map_of_mem hnode
  cases hfind : (nodes.map view).find? (·.nodeId == (view node).nodeId) with
  | none =>
    have := List.find?_eq_none.mp hfind _ hmem
    simp at this
  | some found =>
    have hfound := List.mem_of_find?_eq_some hfind
    have hid : found.nodeId = (view node).nodeId := by simpa using List.find?_some hfind
    have hids' : ((nodes.map view).map (·.nodeId)).Nodup := by simpa [Function.comp_def] using hids
    rw [List.inj_on_of_nodup_map hids' hfound hmem hid]
    rfl

/-- The property holds of a run exactly when nothing hides a failed match. -/
theorem reported_iff (hview : tree.evidence = nodes.map view)
    (hids : (nodes.map fun n => (view n).nodeId).Nodup)
    (hmappings : (pack.mappings.map (·.mappingId)).Nodup)
    (hfailed : ∀ node ∈ nodes, ∀ mapping ∈ pack.mappings,
      failed mapping node ↔ misses mapping node)
    (hunresolved : ∀ node ∈ nodes,
      (view node).nodeId ∈ result.unresolvedNodeIds ↔ unresolved node)
    (hcoded : ∀ node ∈ nodes,
      DiagnosedBy pack result.diagnostics (view node).nodeId (coded node))
    (hpersist : persistUnresolvedBlocks sha256 organizationId context profile.profileId
      profile.profileVersionId (some profile) pack [(tree, result)] unsupported [] = .ok blocks) :
    Reported nodes (fun n => (view n).nodeId) pack.mappings failed result blocks ↔
      NothingHidden nodes view pack profile misses unresolved coded := by
  have hblocks := persistUnresolvedBlocks_fresh _ _ _ _ _ _ _ hpersist
  unfold Reported NothingHidden
  refine forall₂_congr fun node hnode => forall₂_congr fun mapping hmapping => ?_
  rw [hfailed node hnode mapping hmapping, hunresolved node hnode]
  refine imp_congr_right fun _ => and_congr_right fun hopen => ?_
  constructor
  · rintro ⟨block, hblock, hsource, hfield⟩
    obtain ⟨-, evidence, hevidence, hidentity, rfl⟩ :=
      (runBlocks_single _ _ _ _ _ _ _ hblocks).mp ⟨hblock, hsource⟩
    rw [evidenceNode_of_mem view hview hids hnode] at hevidence
    obtain rfl := Except.ok.inj hevidence
    exact ⟨hidentity, (mem_nodeBlock_candidates hmappings (hcoded node hnode)).mp hfield⟩
  · rintro ⟨hidentity, hfield⟩
    obtain ⟨hblock, hsource⟩ := (runBlocks_single _ _ _ _ _ _ _ hblocks).mpr
      ⟨(hunresolved node hnode).mpr hopen, view node, evidenceNode_of_mem view hview hids hnode,
        hidentity, rfl⟩
    exact ⟨_, hblock, hsource,
      (mem_nodeBlock_candidates hmappings (hcoded node hnode)).mpr hfield⟩

end Schema

section Formats

variable (uuid5 : UUID → String → UUID) (context : InterpretationContext) (pack : KnowledgePack)

/-- The mapping matches the node, and the loop gives no fact for the pair. -/
def CliFailed (ir : StructuralIR) (mapping : DeclarativeMapping) (node : ConfigNode) : Prop :=
  mappingMatches mapping node ir = .ok true ∧
    ¬ (node.kind = .statement ∧ ∃ fact container,
      interpretPair uuid5 context pack mapping ir node = .ok (.emitted fact container))

def XmlFailed (ir : XmlStructuralIR) (mapping : DeclarativeMapping) (node : XmlNode) : Prop :=
  ∃ definition captures, mapping.trainingDefinition = some definition ∧
    XmlMatches definition node captures ∧ ¬ ∃ fact container,
      interpretXmlMatch uuid5 context pack mapping definition ir node captures =
        .ok (.emitted fact container)

/-- A truncated JSON tree gives no facts at all. -/
def JsonFailed (ir : JsonStructuralIR) (mapping : DeclarativeMapping) (node : JsonNode) : Prop :=
  ∃ definition captures, mapping.trainingDefinition = some definition ∧
    JsonMatches definition node captures ∧ (ir.truncated = true ∨ ¬ ∃ fact container,
      interpretJsonMatch uuid5 context pack mapping definition node captures =
        .ok (.emitted fact container))

/-- The mapping matches a command-line node that it gives no fact on. -/
def CliMisses (ir : StructuralIR) (mapping : DeclarativeMapping) (node : ConfigNode) : Prop :=
  mappingMatches mapping node ir = .ok true ∧
    ¬ (node.kind = .statement ∧ Yields mapping ir node)

def XmlMisses (ir : XmlStructuralIR) (mapping : DeclarativeMapping) (node : XmlNode) : Prop :=
  ∃ definition captures, mapping.trainingDefinition = some definition ∧
    XmlMatches definition node captures ∧ ¬ XmlGood ir definition node captures

def JsonMisses (ir : JsonStructuralIR) (mapping : DeclarativeMapping) (node : JsonNode) : Prop :=
  ∃ definition captures, mapping.trainingDefinition = some definition ∧
    JsonMatches definition node captures ∧
      (ir.truncated = true ∨ ¬ JsonGood definition node captures)

/-- Some mapping of the pack gives a fact on the XML node. -/
def XmlYieldsSome (ir : XmlStructuralIR) (node : XmlNode) : Prop :=
  ∃ mapping ∈ pack.mappings, ∃ definition captures,
    mapping.trainingDefinition = some definition ∧ XmlMatches definition node captures ∧
      XmlGood ir definition node captures

def JsonYieldsSome (ir : JsonStructuralIR) (node : JsonNode) : Prop :=
  ir.truncated = false ∧ ∃ mapping ∈ pack.mappings, ∃ definition captures,
    mapping.trainingDefinition = some definition ∧ JsonMatches definition node captures ∧
      JsonGood definition node captures

/-- A leaf on which no mapping gives a fact. -/
def XmlUnresolved (ir : XmlStructuralIR) (node : XmlNode) : Prop :=
  (∀ child ∈ ir.nodes, child.parentId ≠ some node.nodeId) ∧ ¬ XmlYieldsSome pack ir node

def JsonUnresolved (ir : JsonStructuralIR) (node : JsonNode) : Prop :=
  node.value.isContainer = false ∧ ¬ JsonYieldsSome pack ir node

/-- A truncated tree reports its leaves without naming a mapping. -/
def JsonCoded (ir : JsonStructuralIR) (node : JsonNode) (mapping : DeclarativeMapping) : Prop :=
  ir.truncated = false ∧ JsonMisses ir mapping node

end Formats

section Iff

variable {uuid5 : UUID → String → UUID} {context : InterpretationContext} {pack : KnowledgePack}
  {profile : ProfileManifest} {profileVersionId : String} {result : InterpretationResult}
  {sha256 : String → String} {organizationId : UUID} {unsupported : List UnsupportedArtifact}
  {blocks : List UnresolvedBlock}

theorem cliFailed_iff {ir : StructuralIR} {attempts : List Attempt}
    (h : (pairs ir pack).mapM (attemptPair uuid5 context ir pack) = .ok attempts)
    {node : ConfigNode} (hnode : node ∈ ir.nodes) {mapping : DeclarativeMapping}
    (hmapping : mapping ∈ pack.mappings) :
    CliFailed uuid5 context pack ir mapping node ↔ CliMisses ir mapping node := by
  refine and_congr_right fun hmatch => not_congr (and_congr_right fun hkind => ?_)
  obtain ⟨attempt, -, hrun⟩ := mapM_exists_output h
    (mem_pairs.mpr ⟨mem_statements.mpr ⟨hnode, hkind⟩, hmapping⟩)
  obtain ⟨outcome, houtcome, -⟩ := except_bind_eq_ok.mp hrun
  have hspec := interpretPair_spec houtcome
  constructor
  · rintro ⟨fact, container, hemitted⟩
    exact (interpretPair_spec hemitted).yields.2
  · intro hyields
    cases hspec with
    | unmatched hm => rw [hm] at hmatch; cases hmatch
    | diagnosed code hm _ => exact absurd hyields hm.2
    | negated fact => exact ⟨fact, _, houtcome⟩
    | positive fact container => exact ⟨fact, container, houtcome⟩

/-- What a run over statements hides, exactly. -/
theorem cli_reported_iff {ir : StructuralIR} (hwf : ir.WellFormed)
    (hrun : interpretStructuralIr uuid5 context ir profileVersionId (some pack) (some profile) =
      .ok result)
    (hpersist : persistUnresolvedBlocks sha256 organizationId context profile.profileId
      profile.profileVersionId (some profile) pack [(.cli ir, result)] unsupported [] =
        .ok blocks) :
    Reported ir.nodes (·.nodeId) pack.mappings (CliFailed uuid5 context pack ir) result blocks ↔
      NothingHidden ir.nodes configEvidence pack profile (CliMisses ir)
        (StaysUnresolved pack ir) fun node mapping => CodedMiss mapping ir node := by
  obtain ⟨hmappings, attempts, hattempts, rfl⟩ := interpretStructuralIr_ok hrun
  exact reported_iff configEvidence rfl hwf.nodup hmappings
    (fun node hnode mapping hmapping => cliFailed_iff hattempts hnode hmapping)
    (fun node hnode => mem_unresolvedNodeIds hwf hattempts hnode)
    (fun node hnode mappingId => mem_diagnostics hwf hattempts hnode) hpersist

theorem xmlFailed_iff {ir : XmlStructuralIR} {groups : List (List Attempt)}
    (h : pack.mappings.mapM (attemptXml uuid5 context ir pack) = .ok groups)
    {node : XmlNode} (hnode : node ∈ ir.nodes) {mapping : DeclarativeMapping}
    (hmapping : mapping ∈ pack.mappings) :
    XmlFailed uuid5 context pack ir mapping node ↔ XmlMisses ir mapping node := by
  refine exists₂_congr fun definition captures => and_congr_right fun hdefinition =>
    and_congr_right fun hmatch => not_congr ?_
  obtain ⟨outcome, houtcome, -⟩ :=
    structured_body_of_found (xml_spec ir) h hmapping hdefinition ⟨hnode, hmatch⟩
  rw [houtcome]
  rcases (xml_spec ir).good mapping definition node captures outcome houtcome with
    ⟨fact, rfl, hgood⟩ | ⟨code, rfl, hbad⟩
  · simp [hgood]
  · simp [hbad]

theorem jsonFailed_iff {ir : JsonStructuralIR} {groups : List (List Attempt)}
    (h : pack.mappings.mapM (attemptJson uuid5 context ir pack) = .ok groups)
    {node : JsonNode} (hnode : node ∈ ir.nodes) {mapping : DeclarativeMapping}
    (hmapping : mapping ∈ pack.mappings) :
    JsonFailed uuid5 context pack ir mapping node ↔ JsonMisses ir mapping node := by
  refine exists₂_congr fun definition captures => and_congr_right fun hdefinition =>
    and_congr_right fun hmatch => or_congr_right (not_congr ?_)
  obtain ⟨outcome, houtcome, -⟩ :=
    structured_body_of_found (json_spec ir) h hmapping hdefinition ⟨hnode, hmatch⟩
  rw [houtcome]
  have hspec : StructuredSpec (matchesJson · ir) (interpretJsonMatch uuid5 context pack) _ _ :=
    json_spec ir
  rcases hspec.good mapping definition node captures outcome houtcome with
    ⟨fact, rfl, hgood⟩ | ⟨code, rfl, hbad⟩
  · simp [hgood]
  · simp [hbad]

theorem xml_mem_unresolved {ir : XmlStructuralIR} (hids : (ir.nodes.map (·.nodeId)).Nodup)
    {groups : List (List Attempt)}
    (h : pack.mappings.mapM (attemptXml uuid5 context ir pack) = .ok groups)
    {node : XmlNode} (hnode : node ∈ ir.nodes) :
    node.nodeId ∈ (xmlResult ir groups.flatten).unresolvedNodeIds ↔ XmlUnresolved pack ir node := by
  refine (structured_mem_unresolved (xml_spec ir) h (fun _ _ _ hfound => hfound.1) hids
    hnode).trans ?_
  simp [XmlUnresolved, XmlYieldsSome, StructuredYields, hnode]

theorem xml_diagnosedBy {ir : XmlStructuralIR} (hids : (ir.nodes.map (·.nodeId)).Nodup)
    {groups : List (List Attempt)}
    (h : pack.mappings.mapM (attemptXml uuid5 context ir pack) = .ok groups)
    {node : XmlNode} (hnode : node ∈ ir.nodes) :
    DiagnosedBy pack (xmlResult ir groups.flatten).diagnostics node.nodeId
      fun mapping => XmlMisses ir mapping node := by
  intro mappingId
  refine (structured_diagnosedBy (xml_spec ir) h (fun _ _ _ hfound => hfound.1) hids
    hnode mappingId).trans ?_
  simp [XmlMisses, StructuredMisses, hnode]

/-- What a run over an XML tree hides, exactly. -/
theorem xml_reported_iff {ir : XmlStructuralIR} (hids : (ir.nodes.map (·.nodeId)).Nodup)
    (hrun : interpretXmlStructuralIr uuid5 context ir profileVersionId (some pack) (some profile) =
      .ok result)
    (hpersist : persistUnresolvedBlocks sha256 organizationId context profile.profileId
      profile.profileVersionId (some profile) pack [(.xml ir, result)] unsupported [] =
        .ok blocks) :
    Reported ir.nodes (·.nodeId) pack.mappings (XmlFailed uuid5 context pack ir) result blocks ↔
      NothingHidden ir.nodes xmlEvidence pack profile (XmlMisses ir) (XmlUnresolved pack ir)
        fun node mapping => XmlMisses ir mapping node := by
  obtain ⟨hmappings, groups, hgroups, rfl⟩ := interpretXmlStructuralIr_ok hrun
  exact reported_iff xmlEvidence rfl hids hmappings
    (fun node hnode mapping hmapping => xmlFailed_iff hgroups hnode hmapping)
    (fun node hnode => xml_mem_unresolved hids hgroups hnode)
    (fun node hnode => xml_diagnosedBy hids hgroups hnode) hpersist

/-- What a run over a JSON tree hides, exactly. -/
theorem json_reported_iff {ir : JsonStructuralIR} (hids : (ir.nodes.map (·.nodeId)).Nodup)
    (hrun : interpretJsonStructuralIr uuid5 context ir profileVersionId (some pack)
      (some profile) = .ok result)
    (hpersist : persistUnresolvedBlocks sha256 organizationId context profile.profileId
      profile.profileVersionId (some profile) pack [(.json ir, result)] unsupported [] =
        .ok blocks) :
    Reported ir.nodes (·.nodeId) pack.mappings (JsonFailed uuid5 context pack ir) result blocks ↔
      NothingHidden ir.nodes jsonEvidence pack profile (JsonMisses ir) (JsonUnresolved pack ir)
        (JsonCoded ir) := by
  obtain ⟨hmappings, ⟨htruncated, rfl⟩ | ⟨hwhole, groups, hgroups, rfl⟩⟩ :=
    interpretJsonStructuralIr_ok hrun
  · refine reported_iff jsonEvidence rfl hids hmappings ?_ ?_ ?_ hpersist
    · intro node _ mapping _
      simp [JsonFailed, JsonMisses, htruncated]
    · intro node hnode
      simp only [jsonIncomplete, jsonLeaves, JsonUnresolved, JsonYieldsSome, htruncated,
        List.mem_map, List.mem_filter]
      constructor
      · rintro ⟨other, ⟨hother, hleaf⟩, hid⟩
        obtain rfl := List.inj_on_of_nodup_map hids hother hnode hid
        exact ⟨by simpa using hleaf, by simp⟩
      · rintro ⟨hleaf, -⟩
        exact ⟨node, ⟨hnode, by simpa using hleaf⟩, rfl⟩
    · intro node _ mappingId
      simp [jsonIncomplete, JsonCoded, htruncated]
  · refine reported_iff jsonEvidence rfl hids hmappings
      (fun node hnode mapping hmapping => jsonFailed_iff hgroups hnode hmapping) ?_ ?_ hpersist
    · intro node hnode
      refine (structured_mem_unresolved (json_spec ir) hgroups (fun _ _ _ hfound => hfound.1) hids
        hnode).trans ?_
      simp [JsonUnresolved, JsonYieldsSome, StructuredYields, hnode, hwhole]
    · intro node hnode mappingId
      refine (structured_diagnosedBy (json_spec ir) hgroups (fun _ _ _ hfound => hfound.1) hids
        hnode mappingId).trans ?_
      simp [JsonCoded, JsonMisses, StructuredMisses, hnode, hwhole]

end Iff

/-- In every format the failed matches of a run are all reported if and only if none is
hidden: its node is evidence no mapping gives a fact on, is not identity syntax, and its
block names the field. -/
theorem failed_matches_reported_iff (uuid5 : UUID → String → UUID) (sha256 : String → String)
    (context : InterpretationContext) (pack : KnowledgePack) (profile : ProfileManifest)
    (profileVersionId : String) (organizationId : UUID) (unsupported : List UnsupportedArtifact)
    (result : InterpretationResult) (blocks : List UnresolvedBlock) :
    (∀ ir : StructuralIR, ir.WellFormed →
      interpretStructuralIr uuid5 context ir profileVersionId (some pack) (some profile) =
        .ok result →
      persistUnresolvedBlocks sha256 organizationId context profile.profileId
        profile.profileVersionId (some profile) pack [(.cli ir, result)] unsupported [] =
          .ok blocks →
      (Reported ir.nodes (·.nodeId) pack.mappings (CliFailed uuid5 context pack ir) result blocks ↔
        NothingHidden ir.nodes configEvidence pack profile (CliMisses ir)
          (StaysUnresolved pack ir) fun node mapping => CodedMiss mapping ir node)) ∧
    (∀ ir : XmlStructuralIR, (ir.nodes.map (·.nodeId)).Nodup →
      interpretXmlStructuralIr uuid5 context ir profileVersionId (some pack) (some profile) =
        .ok result →
      persistUnresolvedBlocks sha256 organizationId context profile.profileId
        profile.profileVersionId (some profile) pack [(.xml ir, result)] unsupported [] =
          .ok blocks →
      (Reported ir.nodes (·.nodeId) pack.mappings (XmlFailed uuid5 context pack ir) result blocks ↔
        NothingHidden ir.nodes xmlEvidence pack profile (XmlMisses ir) (XmlUnresolved pack ir)
          fun node mapping => XmlMisses ir mapping node)) ∧
    (∀ ir : JsonStructuralIR, (ir.nodes.map (·.nodeId)).Nodup →
      interpretJsonStructuralIr uuid5 context ir profileVersionId (some pack) (some profile) =
        .ok result →
      persistUnresolvedBlocks sha256 organizationId context profile.profileId
        profile.profileVersionId (some profile) pack [(.json ir, result)] unsupported [] =
          .ok blocks →
      (Reported ir.nodes (·.nodeId) pack.mappings (JsonFailed uuid5 context pack ir) result blocks ↔
        NothingHidden ir.nodes jsonEvidence pack profile (JsonMisses ir) (JsonUnresolved pack ir)
          (JsonCoded ir))) :=
  ⟨fun _ hwf hrun hpersist => cli_reported_iff hwf hrun hpersist,
    fun _ hids hrun hpersist => xml_reported_iff hids hrun hpersist,
    fun _ hids hrun hpersist => json_reported_iff hids hrun hpersist⟩

def exampleContext : InterpretationContext :=
  { auditId := UUID.ofNat 2, deviceId := UUID.ofNat 3, snapshotId := UUID.ofNat 4 }

def exampleSource : ArtifactProvenance :=
  { artifactId := UUID.ofNat 1, snapshotId := some (UUID.ofNat 4), sourceLabel := "router.cfg" }

/-- The removal of a time server. -/
def removalRequest : StructuralParseRequest :=
  { content := "no ntp server 192.0.2.1\n", source := exampleSource }

/-- The hashes of a node of each of the three examples, and of their blocks. -/
def exampleSha256 : String → String := tabulated
  [("00000000-0000-0000-0000-000000000001\x1findentation_cli.v1\x1f1\x1f1\x1f1\x1froot\x1f" ++
      "no ntp server 192.0.2.1",
      "ca56aea3f696e7f3133a94ad95e8f482254848f98513ae17253194543ea31ca8"),
    ("00000000-0000-0000-0000-000000000001|('configuration[1]',)|1",
      "a6140062eecd78b1009d632f9bf0b91001d22321d4ff22e2045504c1376276c9"),
    ("00000000-0000-0000-0000-000000000002:00000000-0000-0000-0000-000000000001:" ++
      "xmln_a6140062eecd78b1009d632f9bf0b910",
      "92dbfd589466524d25517615c66f76d0d44741bc5be38a3d43707936803cf5ea"),
    ("00000000-0000-0000-0000-000000000001|()|1",
      "c4efa152eede2f082e71aa07f60ef594f57dd112dbfe12967ed19c351734c888"),
    ("00000000-0000-0000-0000-000000000002:00000000-0000-0000-0000-000000000001:" ++
      "jsonn_c4efa152eede2f082e71aa07f60ef594",
      "68608db6ce081fbf31873c578b46a95fab82856ba7e9a8be4af95de9d860c477")]

/-- The identity of the removal. -/
def removalUuid5 : UUID → String → UUID := UUID.ofTable
  [("\x7b\"audit_id\":\"00000000-0000-0000-0000-000000000002\",\"entity\":nu" ++
      "ll,\"field_id\":\"time.ntp.server\",\"mapping_version_id\":\"cc7f73d2" ++
      "-e27e-5a57-896c-b4d322fc2c14\",\"scope\":\x7b\"attributes\":\x7b\x7d,\"key\":\"" ++
      "device\",\"type\":\"device\"\x7d,\"source_ir_node_ids\":[\"irn_ca56aea3f6" ++
      "96e7f3133a94ad95e8f482\"],\"value\":\x7b\"original_unit\":null,\"origin" ++
      "al_value\":\"192.0.2.1\",\"type\":\"ip_address\",\"unit\":null,\"value\":" ++
      "\"192.0.2.1\"\x7d\x7d",
      0x4e458c2c7367540189e790b4d257847c)]

def removalIr : StructuralIR := IndentationCli.parse exampleSha256 removalRequest

theorem removalIr_wellFormed : removalIr.WellFormed :=
  IndentationCli.parse_wellFormed (hashesApart_of_nodup (by decide +kernel))

/-- The removal gives a fact for the server and none for the flag that a server is
configured, and nothing says so. -/
theorem removal_not_reported : removalIr.WellFormed ∧ ∃ result blocks,
    interpretStructuralIr removalUuid5 exampleContext removalIr "cisco.ios_xe.17@1.0.0"
      (some Sealed.Cisco.current) (some ciscoIosXe17) = .ok result ∧
    persistUnresolvedBlocks exampleSha256 (UUID.ofNat 5) exampleContext ciscoIosXe17.profileId
      ciscoIosXe17.profileVersionId (some ciscoIosXe17) Sealed.Cisco.current
      [(.cli removalIr, result)] [] [] = .ok blocks ∧
    ¬ Reported removalIr.nodes (·.nodeId) Sealed.Cisco.current.mappings
      (CliFailed removalUuid5 exampleContext Sealed.Cisco.current removalIr) result blocks := by
  obtain ⟨run, haudit, hopen⟩ : ∃ run, auditTree exampleSha256 (UUID.ofNat 5) exampleContext
      ciscoIosXe17.profileId ciscoIosXe17.profileVersionId (some ciscoIosXe17)
      Sealed.Cisco.current (.cli removalIr)
      (interpretStructuralIr removalUuid5 exampleContext removalIr "cisco.ios_xe.17@1.0.0"
        (some Sealed.Cisco.current) (some ciscoIosXe17)) = .ok run ∧
      run.1.unresolvedNodeIds = [] :=
    exists_of_toOption (by decide +kernel)
  obtain ⟨hrun, hblocks⟩ := auditTree_eq_ok _ _ _ _ _ _ _ haudit
  refine ⟨removalIr_wellFormed, run.1, run.2, hrun, hblocks, fun hreported => ?_⟩
  -- the mapping of `time.ntp.configured` has no negation behavior
  have hmissed : ∃ node ∈ removalIr.nodes, ∃ mapping ∈ Sealed.Cisco.current.mappings,
      (mappingMatches mapping node removalIr).toOption = some true ∧
        (interpretPair removalUuid5 exampleContext Sealed.Cisco.current mapping removalIr
          node).toOption = some (.diagnosed (some "unsupported_negation")) := by
    decide +kernel
  obtain ⟨node, hnode, mapping, hmapping, hmatch, hpair⟩ := hmissed
  rw [toOption_eq_some] at hmatch hpair
  have hfailed : CliFailed removalUuid5 exampleContext Sealed.Cisco.current removalIr mapping
      node := by
    refine ⟨hmatch, ?_⟩
    rintro ⟨-, fact, container, hemitted⟩
    rw [hpair] at hemitted
    cases hemitted
  have hunresolved := (hreported node hnode mapping hmapping hfailed).1
  rw [hopen] at hunresolved
  cases hunresolved

def wordChar (c : Char) : Bool := Text.isAsciiAlnum c || c == '_'

/-- The document `<configuration/>`. -/
def xmlExample : Except Error XmlStructuralIR :=
  XmlTree.parse exampleSha256 (fun _ => "('configuration[1]',)") wordChar
    (fun _ => some (.mk "configuration" [] none []))
    { content := "<configuration/>", source := exampleSource }

def xmlAudit : Except Error (XmlStructuralIR × InterpretationResult × List UnresolvedBlock) := do
  let ir ← xmlExample
  let run ← auditTree exampleSha256 (UUID.ofNat 5) exampleContext juniperJunos18.profileId
    juniperJunos18.profileVersionId (some juniperJunos18) Sealed.Juniper.current (.xml ir)
    (interpretXmlStructuralIr removalUuid5 exampleContext ir "juniper.junos.18@1.0.0"
      (some Sealed.Juniper.current) (some juniperJunos18))
  return (ir, run)

/-- The document `null`. -/
def jsonExample : Except Error JsonStructuralIR :=
  JsonTree.parse exampleSha256 (fun _ => "()") (fun _ => some .none)
    { content := "null", source := exampleSource }

def jsonAudit : Except Error (JsonStructuralIR × InterpretationResult × List UnresolvedBlock) := do
  let ir ← jsonExample
  let run ← auditTree exampleSha256 (UUID.ofNat 5) exampleContext genericJson.profileId
    genericJson.profileVersionId (some genericJson) Sealed.Generic.json (.json ir)
    (interpretJsonStructuralIr removalUuid5 exampleContext ir "generic.json@1.0.0"
      (some Sealed.Generic.json) (some genericJson))
  return (ir, run)

theorem failed_matches_reported_examples :
    (∃ result blocks,
      Reported removalIr.nodes (·.nodeId) Sealed.Cisco.current.mappings
          (CliFailed removalUuid5 exampleContext Sealed.Cisco.current removalIr) result blocks ↔
        NothingHidden removalIr.nodes configEvidence Sealed.Cisco.current ciscoIosXe17
          (CliMisses removalIr) (StaysUnresolved Sealed.Cisco.current removalIr)
          fun node mapping => CodedMiss mapping removalIr node) ∧
    (∃ ir result blocks, xmlExample = .ok ir ∧
      (Reported ir.nodes (·.nodeId) Sealed.Juniper.current.mappings
          (XmlFailed removalUuid5 exampleContext Sealed.Juniper.current ir) result blocks ↔
        NothingHidden ir.nodes xmlEvidence Sealed.Juniper.current juniperJunos18 (XmlMisses ir)
          (XmlUnresolved Sealed.Juniper.current ir) fun node mapping => XmlMisses ir mapping node)) ∧
    (∃ ir result blocks, jsonExample = .ok ir ∧
      (Reported ir.nodes (·.nodeId) Sealed.Generic.json.mappings
          (JsonFailed removalUuid5 exampleContext Sealed.Generic.json ir) result blocks ↔
        NothingHidden ir.nodes jsonEvidence Sealed.Generic.json genericJson (JsonMisses ir)
          (JsonUnresolved Sealed.Generic.json ir) (JsonCoded ir))) := by
  refine ⟨?_, ?_, ?_⟩
  · obtain ⟨run, haudit⟩ := exists_of_isOk (x := auditTree exampleSha256 (UUID.ofNat 5)
      exampleContext ciscoIosXe17.profileId ciscoIosXe17.profileVersionId (some ciscoIosXe17)
      Sealed.Cisco.current (.cli removalIr) (interpretStructuralIr removalUuid5 exampleContext
        removalIr "cisco.ios_xe.17@1.0.0" (some Sealed.Cisco.current) (some ciscoIosXe17)))
      (by decide +kernel)
    obtain ⟨hrun, hblocks⟩ := auditTree_eq_ok _ _ _ _ _ _ _ haudit
    exact ⟨_, _, (failed_matches_reported_iff _ _ _ _ _ _ _ _ _ _).1 removalIr
      removalIr_wellFormed hrun hblocks⟩
  · obtain ⟨_, hok, hids⟩ : ∃ run, xmlAudit = .ok run ∧
        decide (run.1.nodes.map (·.nodeId)).Nodup = true := exists_of_toOption (by decide +kernel)
    simp only [xmlAudit, except_bind_eq_ok, except_pure_eq_ok] at hok
    obtain ⟨ir, hparse, run, haudit, rfl⟩ := hok
    obtain ⟨hrun, hblocks⟩ := auditTree_eq_ok _ _ _ _ _ _ _ haudit
    exact ⟨ir, run.1, run.2, hparse, (failed_matches_reported_iff _ _ _ _ _ _ _ _ _ _).2.1 ir
      (of_decide_eq_true hids) hrun hblocks⟩
  · obtain ⟨_, hok, hids⟩ : ∃ run, jsonAudit = .ok run ∧
        decide (run.1.nodes.map (·.nodeId)).Nodup = true := exists_of_toOption (by decide +kernel)
    simp only [jsonAudit, except_bind_eq_ok, except_pure_eq_ok] at hok
    obtain ⟨ir, hparse, run, haudit, rfl⟩ := hok
    obtain ⟨hrun, hblocks⟩ := auditTree_eq_ok _ _ _ _ _ _ _ haudit
    exact ⟨ir, run.1, run.2, hparse, (failed_matches_reported_iff _ _ _ _ _ _ _ _ _ _).2.2 ir
      (of_decide_eq_true hids) hrun hblocks⟩

end ConfigAuditor.Interpretation.FailClosed
