import ConfigAuditor.Interpretation.Coverage

/-!
# Evidence that was cut

A reader that leaves out a part of the text marks its tree as truncated: what it left
out may override what it read. Only the interpreter of JSON trees looks at the mark.
The others give facts on such a tree as on a whole one, and the audit fails closed only
where a node that is left over happens to affect every rule.
-/
namespace ConfigAuditor.Interpretation.Truncation

open Library SecurityModel Parsing KnowledgePacks Training.Dsl Training.Matcher
  ProfileResolution Compliance.Model Mapping Service UnresolvedBlocks Outcomes FailClosed
open Coverage (sshElement sshPathText sshSha256)

/-- Cut evidence gives no fact, or leaves a node whose block affects every rule. -/
def FailsClosed (truncated : Bool) (profileVersionId : String) (result : InterpretationResult)
    (blocks : List UnresolvedBlock) : Prop :=
  truncated = true → result.facts = [] ∨ ∃ nodeId ∈ result.unresolvedNodeIds, ∃ block ∈ blocks,
    nodeId ∈ block.sourceIrNodeIds ∧
      ∀ rule ∈ rulesOf profileVersionId, rule.ruleId ∈ block.affectedRuleIds

instance (truncated : Bool) (profileVersionId : String) (result : InterpretationResult)
    (blocks : List UnresolvedBlock) :
    Decidable (FailsClosed truncated profileVersionId result blocks) := by
  unfold FailsClosed
  infer_instance

/-- The block of a node affects every rule: it concerns every field, or each rule requires
the field of a mapping that left a diagnostic on the node. -/
def AffectsEveryRule (profile : ProfileManifest) (pack : KnowledgePack) (incomplete : Bool)
    (coded : DeclarativeMapping → Prop) : Prop :=
  ConcernsEveryField profile pack incomplete coded ∨
    ∀ rule ∈ rulesOf profile.profileVersionId, ∃ mapping ∈ pack.mappings,
      mapping.fieldId ∈ rule.requiredEffectiveStates ∧ coded mapping

/-- The same of the evidence alone: a cut tree has no node that gives a fact, or one that is
left over and affects every rule. -/
def CutShows {ν : Type} (nodes : List ν) (view : ν → EvidenceNode) (pack : KnowledgePack)
    (profile : ProfileManifest) (truncated : Bool) (yields unresolved : ν → Prop)
    (coded : ν → DeclarativeMapping → Prop) : Prop :=
  truncated = true → (∀ node ∈ nodes, ¬ yields node) ∨ ∃ node ∈ nodes, unresolved node ∧
    identityOnly (some profile) (view node) = false ∧
      AffectsEveryRule profile pack (view node).incompleteBlock (coded node)

theorem mem_rulesRequiring {profileVersionId : String} {fields : List String}
    {rule : RuleDefinition} (hrule : rule ∈ rulesOf profileVersionId) :
    rule.ruleId ∈ rulesRequiring profileVersionId fields ↔
      ∃ field ∈ rule.requiredEffectiveStates, field ∈ fields := by
  simp only [rulesRequiring, mem_sortedSet, List.mem_map, List.mem_filter, List.any_eq_true,
    List.contains_iff_mem]
  constructor
  · rintro ⟨other, ⟨hother, hfields⟩, hid⟩
    obtain rfl := List.inj_on_of_nodup_map (nodup_ruleIds _) hother hrule hid
    exact hfields
  · intro hfields
    exact ⟨rule, ⟨hrule, hfields⟩, rfl⟩

section Schema

variable {pack : KnowledgePack} {profile : ProfileManifest} {sha256 : String → String}
  {organizationId : UUID} {context : InterpretationContext}

/-- Whether the block of a node affects every rule of the profile. -/
theorem nodeBlock_affects_iff (hmappings : (pack.mappings.map (·.mappingId)).Nodup)
    {diagnostics : List InterpretationDiagnostic} {node : EvidenceNode}
    {coded : DeclarativeMapping → Prop}
    (hcoded : DiagnosedBy pack diagnostics node.nodeId coded) :
    (∀ rule ∈ rulesOf profile.profileVersionId, rule.ruleId ∈
        (nodeBlock sha256 organizationId context profile.profileId profile.profileVersionId
          (some profile) pack diagnostics node).affectedRuleIds) ↔
      AffectsEveryRule profile pack node.incompleteBlock coded := by
  simp only [nodeBlock, AffectsEveryRule, ← concernsAll_iff hmappings hcoded]
  split
  · rename_i hall
    have hrules : ∀ rule ∈ rulesOf profile.profileVersionId,
        rule.ruleId ∈ allRuleIds profile.profileVersionId := by
      intro rule hrule
      exact (mem_sortedBy id).mpr (List.mem_map_of_mem hrule)
    exact iff_of_true hrules (Or.inl hall)
  · rename_i hnamed
    rw [or_iff_right hnamed]
    refine forall₂_congr fun rule hrule => ?_
    rw [mem_rulesRequiring hrule]
    simp only [mem_diagnosedFields hmappings hcoded]
    constructor
    · rintro ⟨_, hfield, mapping, hmapping, rfl, hcode⟩
      exact ⟨mapping, hmapping, hfield, hcode⟩
    · rintro ⟨mapping, hmapping, hfield, hcode⟩
      exact ⟨mapping.fieldId, hfield, mapping, hmapping, rfl, hcode⟩

variable {ν : Type} {nodes : List ν} (view : ν → EvidenceNode) {tree : ParsedIr}
  {result : InterpretationResult} {unsupported : List UnsupportedArtifact}
  {blocks : List UnresolvedBlock} {yields unresolved : ν → Prop}
  {coded : ν → DeclarativeMapping → Prop}

/-- A run fails closed exactly when the cut shows. -/
theorem failsClosed_iff (hview : tree.evidence = nodes.map view)
    (hids : (nodes.map fun n => (view n).nodeId).Nodup)
    (hmappings : (pack.mappings.map (·.mappingId)).Nodup)
    (hfacts : result.facts = [] ↔ ∀ node ∈ nodes, ¬ yields node)
    (hunresolved : ∀ node ∈ nodes,
      (view node).nodeId ∈ result.unresolvedNodeIds ↔ unresolved node)
    (hcoded : ∀ node ∈ nodes,
      DiagnosedBy pack result.diagnostics (view node).nodeId (coded node))
    (hpersist : persistUnresolvedBlocks sha256 organizationId context profile.profileId
      profile.profileVersionId (some profile) pack [(tree, result)] unsupported [] = .ok blocks)
    (truncated : Bool) :
    FailsClosed truncated profile.profileVersionId result blocks ↔
      CutShows nodes view pack profile truncated yields unresolved coded := by
  have hblocks := persistUnresolvedBlocks_fresh _ _ _ _ _ _ _ hpersist
  refine imp_congr_right fun _ => or_congr hfacts ?_
  constructor
  · rintro ⟨nodeId, hopen, block, hblock, hsource, hrules⟩
    obtain ⟨-, evidence, hevidence, hidentity, rfl⟩ :=
      (runBlocks_single _ _ _ _ _ _ _ hblocks).mp ⟨hblock, hsource⟩
    obtain ⟨hmem, rfl⟩ := evidenceNode_eq_ok hevidence
    rw [hview] at hmem
    obtain ⟨node, hnode, rfl⟩ := List.mem_map.mp hmem
    exact ⟨node, hnode, (hunresolved node hnode).mp hopen, hidentity,
      (nodeBlock_affects_iff hmappings (hcoded node hnode)).mp hrules⟩
  · rintro ⟨node, hnode, hopen, hidentity, hrules⟩
    have hleft := (hunresolved node hnode).mpr hopen
    obtain ⟨hblock, hsource⟩ := (runBlocks_single _ _ _ _ _ _ _ hblocks).mpr
      ⟨hleft, view node, evidenceNode_of_mem view hview hids hnode, hidentity, rfl⟩
    exact ⟨_, hleft, _, hblock, hsource,
      (nodeBlock_affects_iff hmappings (hcoded node hnode)).mpr hrules⟩

end Schema

section Formats

variable {uuid5 : UUID → String → UUID} {context : InterpretationContext} {pack : KnowledgePack}
  {profile : ProfileManifest} {profileVersionId : String} {result : InterpretationResult}
  {sha256 : String → String} {organizationId : UUID} {unsupported : List UnsupportedArtifact}
  {blocks : List UnresolvedBlock}

theorem factsOf_eq_nil {attempts : List Attempt} :
    factsOf attempts = [] ↔ matchedIds attempts = [] := by
  simp [factsOf, matchedIds, Attempt.matched?, List.filterMap_eq_nil_iff]

/-- A run over statements gives no fact exactly when no mapping does on any. -/
theorem cli_facts_eq_nil {ir : StructuralIR} (hwf : ir.WellFormed) {attempts : List Attempt}
    (h : (pairs ir pack).mapM (attemptPair uuid5 context ir pack) = .ok attempts) :
    factsOf attempts = [] ↔ ∀ node ∈ ir.nodes, ¬ YieldsSome pack ir node := by
  rw [factsOf_eq_nil]
  constructor
  · intro hnone node hnode hyields
    have hmatched := (mem_matchedIds hwf h hnode).mpr hyields
    rw [hnone] at hmatched
    cases hmatched
  · intro hnone
    refine List.eq_nil_iff_forall_not_mem.mpr fun id hid => ?_
    obtain ⟨attempt, hmem, hmatched⟩ := List.mem_filterMap.mp hid
    obtain ⟨node, hnode, hnodeId, -⟩ := pair_of_attempt h hmem
    obtain rfl : attempt.nodeId = id := by
      cases hfact : attempt.fact? with
      | none => simp [Attempt.matched?, hfact] at hmatched
      | some fact => simpa [Attempt.matched?, hfact] using hmatched
    have hnode := (mem_statements.mp hnode).1
    rw [hnodeId] at hid
    exact hnone node hnode ((mem_matchedIds hwf h hnode).mp hid)

/-- What a run over statements makes of a cut. -/
theorem cli_failsClosed_iff {ir : StructuralIR} (hwf : ir.WellFormed)
    (hrun : interpretStructuralIr uuid5 context ir profileVersionId (some pack) (some profile) =
      .ok result)
    (hpersist : persistUnresolvedBlocks sha256 organizationId context profile.profileId
      profile.profileVersionId (some profile) pack [(.cli ir, result)] unsupported [] =
        .ok blocks) :
    FailsClosed ir.truncated profile.profileVersionId result blocks ↔
      CutShows ir.nodes configEvidence pack profile ir.truncated (YieldsSome pack ir)
        (StaysUnresolved pack ir) fun node mapping => CodedMiss mapping ir node := by
  obtain ⟨hmappings, attempts, hattempts, rfl⟩ := interpretStructuralIr_ok hrun
  exact failsClosed_iff configEvidence rfl hwf.nodup hmappings (cli_facts_eq_nil hwf hattempts)
    (fun node hnode => mem_unresolvedNodeIds hwf hattempts hnode)
    (fun node hnode mappingId => mem_diagnostics hwf hattempts hnode) hpersist ir.truncated

/-- A run over an XML tree gives no fact exactly when no mapping does on any node. -/
theorem xml_facts_eq_nil {ir : XmlStructuralIR} {groups : List (List Attempt)}
    (h : pack.mappings.mapM (attemptXml uuid5 context ir pack) = .ok groups) :
    factsOf groups.flatten = [] ↔ ∀ node ∈ ir.nodes, ¬ XmlYieldsSome pack ir node := by
  rw [factsOf_eq_nil, List.eq_nil_iff_forall_not_mem]
  constructor
  · rintro hnone node hnode ⟨mapping, hmapping, definition, captures, hdefinition, hmatch, hgood⟩
    exact hnone node.nodeId ((structured_mem_matchedIds (xml_spec ir) h).mpr
      ⟨node, rfl, mapping, hmapping, definition, captures, hdefinition, ⟨hnode, hmatch⟩, hgood⟩)
  · intro hnone id hid
    obtain ⟨node, -, mapping, hmapping, definition, captures, hdefinition, ⟨hnode, hmatch⟩, hgood⟩ :=
      (structured_mem_matchedIds (xml_spec ir) h).mp hid
    exact hnone node hnode ⟨mapping, hmapping, definition, captures, hdefinition, hmatch, hgood⟩

/-- What a run over an XML tree makes of a cut. -/
theorem xml_failsClosed_iff {ir : XmlStructuralIR} (hids : (ir.nodes.map (·.nodeId)).Nodup)
    (hrun : interpretXmlStructuralIr uuid5 context ir profileVersionId (some pack) (some profile) =
      .ok result)
    (hpersist : persistUnresolvedBlocks sha256 organizationId context profile.profileId
      profile.profileVersionId (some profile) pack [(.xml ir, result)] unsupported [] =
        .ok blocks) :
    FailsClosed ir.truncated profile.profileVersionId result blocks ↔
      CutShows ir.nodes xmlEvidence pack profile ir.truncated (XmlYieldsSome pack ir)
        (XmlUnresolved pack ir) fun node mapping => XmlMisses ir mapping node := by
  obtain ⟨hmappings, groups, hgroups, rfl⟩ := interpretXmlStructuralIr_ok hrun
  exact failsClosed_iff xmlEvidence rfl hids hmappings (xml_facts_eq_nil hgroups)
    (fun node hnode => xml_mem_unresolved hids hgroups hnode)
    (fun node hnode => xml_diagnosedBy hids hgroups hnode) hpersist ir.truncated

/-- The interpreter of JSON trees gives no fact on a cut tree. -/
theorem json_failsClosed {ir : JsonStructuralIR}
    (hrun : interpretJsonStructuralIr uuid5 context ir profileVersionId (some pack)
      (some profile) = .ok result) :
    FailsClosed ir.truncated profile.profileVersionId result blocks := by
  intro htruncated
  obtain ⟨-, ⟨-, rfl⟩ | ⟨hwhole, -⟩⟩ := interpretJsonStructuralIr_ok hrun
  · exact Or.inl rfl
  · rw [htruncated] at hwhole
    cases hwhole

end Formats

/-- A run fails closed on a cut tree if and only if the cut shows: no node of the tree gives
a fact, or one that is left over affects every rule. On JSON trees it always does. -/
theorem cut_fails_closed_iff (uuid5 : UUID → String → UUID) (sha256 : String → String)
    (context : InterpretationContext) (pack : KnowledgePack) (profile : ProfileManifest)
    (profileVersionId : String) (organizationId : UUID) (unsupported : List UnsupportedArtifact)
    (result : InterpretationResult) (blocks : List UnresolvedBlock) :
    (∀ ir : StructuralIR, ir.WellFormed →
      interpretStructuralIr uuid5 context ir profileVersionId (some pack) (some profile) =
        .ok result →
      persistUnresolvedBlocks sha256 organizationId context profile.profileId
        profile.profileVersionId (some profile) pack [(.cli ir, result)] unsupported [] =
          .ok blocks →
      (FailsClosed ir.truncated profile.profileVersionId result blocks ↔
        CutShows ir.nodes configEvidence pack profile ir.truncated (YieldsSome pack ir)
          (StaysUnresolved pack ir) fun node mapping => CodedMiss mapping ir node)) ∧
    (∀ ir : XmlStructuralIR, (ir.nodes.map (·.nodeId)).Nodup →
      interpretXmlStructuralIr uuid5 context ir profileVersionId (some pack) (some profile) =
        .ok result →
      persistUnresolvedBlocks sha256 organizationId context profile.profileId
        profile.profileVersionId (some profile) pack [(.xml ir, result)] unsupported [] =
          .ok blocks →
      (FailsClosed ir.truncated profile.profileVersionId result blocks ↔
        CutShows ir.nodes xmlEvidence pack profile ir.truncated (XmlYieldsSome pack ir)
          (XmlUnresolved pack ir) fun node mapping => XmlMisses ir mapping node)) ∧
    (∀ ir : JsonStructuralIR,
      interpretJsonStructuralIr uuid5 context ir profileVersionId (some pack) (some profile) =
        .ok result →
      FailsClosed ir.truncated profile.profileVersionId result blocks) :=
  ⟨fun _ hwf hrun hpersist => cli_failsClosed_iff hwf hrun hpersist,
    fun _ hids hrun hpersist => xml_failsClosed_iff hids hrun hpersist,
    fun _ hrun => json_failsClosed hrun⟩

/-- A text of which the caller did not read the end. -/
def cutRequest (content : String) : StructuralParseRequest :=
  { content, source := exampleSource, inputTruncated := true }

/-- The hashes of the two statements, and of the blocks of the nodes left over. -/
def cutSha256 : String → String := tabulated
  [("00000000-0000-0000-0000-000000000001\x1findentation_cli.v1\x1f1\x1f1\x1f1\x1froot\x1f" ++
      "ip ssh version 2",
      "ccec05e6b92896d25cbb7b4436c8026909861b917da8ace8029ddbc8a83842d9"),
    ("00000000-0000-0000-0000-000000000001\x1findentation_cli.v1\x1f2\x1f2\x1f2\x1froot\x1f" ++
      "spanning-tree mode rapid-pvst",
      "02814e7b17066674025c1c0223cd8c26f29c40d9ed903fc170edd92fc503073c"),
    ("00000000-0000-0000-0000-000000000002:00000000-0000-0000-0000-000000000001:" ++
      "irn_02814e7b17066674025c1c0223cd8c26",
      "e14e84b0b52e433b34d80a4ececb8fde10a818ea124799ac7a69148366228911"),
    ("00000000-0000-0000-0000-000000000002:00000000-0000-0000-0000-000000000001:" ++
      "xmln_1258ee9cc350100d8af6df3710105172",
      "88539f6d8bbd45a2a767edf99d9bd0faacac4a205b3ffc237f2d6cd167fa5749")]

/-- The ids of the facts on `ip ssh version 2` and on `<ssh>`. -/
def cutUuid5 : UUID → String → UUID := UUID.ofTable
  [("\x7b\"audit_id\":\"00000000-0000-0000-0000-000000000002\",\"entity" ++
      "\":null,\"field_id\":\"management.remote.ssh.version\",\"mapping_v" ++
      "ersion_id\":\"4b13928b-98eb-5dc2-a739-d978d5c8bd95\",\"scope\":" ++
      "\x7b\"attributes\":\x7b\x7d,\"key\":\"device\",\"type\":\"device\"" ++
      "\x7d,\"source_ir_node_ids\":[\"irn_ccec05e6b92896d25cbb7b4436c8026" ++
      "9\"],\"value\":\x7b\"original_unit\":null,\"original_value\":\"2\"" ++
      ",\"type\":\"integer\",\"unit\":null,\"value\":2\x7d\x7d",
      0xf7525c3a7073596fb82db3428606379e),
    ("\x7b\"audit_id\":\"00000000-0000-0000-0000-000000000002\",\"entity" ++
      "\":null,\"field_id\":\"management.remote.ssh.enabled\",\"mapping_v" ++
      "ersion_id\":\"b3020000-0000-5000-8000-000000000001\",\"scope\":" ++
      "\x7b\"attributes\":\x7b\x7d,\"key\":\"device\",\"type\":\"device\"" ++
      "\x7d,\"source_ir_node_ids\":[\"xmln_37f51bed7ade8bac7b98e70dada136" ++
      "26\"],\"value\":\x7b\"original_unit\":null,\"original_value\":null" ++
      ",\"type\":\"boolean\",\"unit\":null,\"value\":true\x7d\x7d",
      0x4b5d530095d752cc976a3ab8e70f4d80)]

def cutIr (content : String) : StructuralIR := IndentationCli.parse cutSha256 (cutRequest content)

/-- The audit of a configuration that was cut. -/
def cutAudit (content : String) : Except Error (InterpretationResult × List UnresolvedBlock) :=
  auditTree cutSha256 (UUID.ofNat 5) exampleContext ciscoIosXe17.profileId
    ciscoIosXe17.profileVersionId (some ciscoIosXe17) Sealed.Cisco.current (.cli (cutIr content))
    (interpretStructuralIr cutUuid5 exampleContext (cutIr content) "cisco.ios_xe.17@1.0.0"
      (some Sealed.Cisco.current) (some ciscoIosXe17))

/-- What the device says of the version may be overridden beyond the cut. -/
theorem cut_version_stays_open : ∃ result blocks, (cutIr "ip ssh version 2\n").WellFormed ∧
    interpretStructuralIr cutUuid5 exampleContext (cutIr "ip ssh version 2\n")
      "cisco.ios_xe.17@1.0.0" (some Sealed.Cisco.current) (some ciscoIosXe17) = .ok result ∧
    persistUnresolvedBlocks cutSha256 (UUID.ofNat 5) exampleContext ciscoIosXe17.profileId
      ciscoIosXe17.profileVersionId (some ciscoIosXe17) Sealed.Cisco.current
      [(.cli (cutIr "ip ssh version 2\n"), result)] [] [] = .ok blocks ∧
    ¬ FailsClosed (cutIr "ip ssh version 2\n").truncated ciscoIosXe17.profileVersionId result
      blocks := by
  obtain ⟨run, haudit, hcheck⟩ : ∃ run, cutAudit "ip ssh version 2\n" = .ok run ∧
      decide (FailsClosed (cutIr "ip ssh version 2\n").truncated ciscoIosXe17.profileVersionId
        run.1 run.2) = false := exists_of_toOption (by decide +kernel)
  have hopen := of_decide_eq_false hcheck
  obtain ⟨hrun, hblocks⟩ := auditTree_eq_ok _ _ _ _ _ _ _ haudit
  exact ⟨run.1, run.2, IndentationCli.parse_wellFormed (hashesApart_of_nodup (by decide +kernel)),
    hrun, hblocks, hopen⟩

/-- The audit of an XML document that was cut. -/
def cutXmlAudit :
    Except Error (XmlStructuralIR × InterpretationResult × List UnresolvedBlock) := do
  let ir ← XmlTree.parse sshSha256 sshPathText wordChar (fun _ => some sshElement.element)
    (cutRequest ("<configuration><system><services><ssh>v2<root-login/></ssh></services></system>" ++
      "</configuration>"))
  let run ← auditTree cutSha256 (UUID.ofNat 5) exampleContext juniperJunos18.profileId
    juniperJunos18.profileVersionId (some juniperJunos18) Sealed.Juniper.current (.xml ir)
    (interpretXmlStructuralIr cutUuid5 exampleContext ir "juniper.junos.18@1.0.0"
      (some Sealed.Juniper.current) (some juniperJunos18))
  return (ir, run)

/-- The audit of a JSON document that was cut. -/
def cutJsonAudit :
    Except Error (JsonStructuralIR × InterpretationResult × List UnresolvedBlock) := do
  let ir ← JsonTree.parse exampleSha256 (fun _ => "()") (fun _ => some .none) (cutRequest "null")
  let run ← auditTree exampleSha256 (UUID.ofNat 5) exampleContext genericJson.profileId
    genericJson.profileVersionId (some genericJson) Sealed.Generic.json (.json ir)
    (interpretJsonStructuralIr cutUuid5 exampleContext ir "generic.json@1.0.0"
      (some Sealed.Generic.json) (some genericJson))
  return (ir, run)

/-- A cut text with a line that no mapping knows, an XML document with such a leaf, and a
JSON document. -/
theorem cut_fails_closed_leftover :
    (∃ result blocks, cutAudit "ip ssh version 2\nspanning-tree mode rapid-pvst\n" =
        .ok (result, blocks) ∧ result.facts ≠ [] ∧
      CutShows (cutIr "ip ssh version 2\nspanning-tree mode rapid-pvst\n").nodes configEvidence
        Sealed.Cisco.current ciscoIosXe17 true
        (YieldsSome Sealed.Cisco.current
          (cutIr "ip ssh version 2\nspanning-tree mode rapid-pvst\n"))
        (StaysUnresolved Sealed.Cisco.current
          (cutIr "ip ssh version 2\nspanning-tree mode rapid-pvst\n"))
        fun node mapping =>
          CodedMiss mapping (cutIr "ip ssh version 2\nspanning-tree mode rapid-pvst\n") node) ∧
    (∃ ir result blocks, cutXmlAudit = .ok (ir, result, blocks) ∧ result.facts ≠ [] ∧
      CutShows ir.nodes xmlEvidence Sealed.Juniper.current juniperJunos18 ir.truncated
        (XmlYieldsSome Sealed.Juniper.current ir) (XmlUnresolved Sealed.Juniper.current ir)
        fun node mapping => XmlMisses ir mapping node) ∧
    ∃ ir result blocks, cutJsonAudit = .ok (ir, result, blocks) ∧ ir.truncated = true ∧
      FailsClosed ir.truncated genericJson.profileVersionId result blocks := by
  refine ⟨?_, ?_, ?_⟩
  · obtain ⟨run, haudit, hcheck⟩ : ∃ run,
        cutAudit "ip ssh version 2\nspanning-tree mode rapid-pvst\n" = .ok run ∧
          decide (run.1.facts ≠ [] ∧
            FailsClosed (cutIr "ip ssh version 2\nspanning-tree mode rapid-pvst\n").truncated
              ciscoIosXe17.profileVersionId run.1 run.2) = true :=
      exists_of_toOption (by decide +kernel)
    obtain ⟨hfacts, hclosed⟩ := of_decide_eq_true hcheck
    obtain ⟨hrun, hblocks⟩ := auditTree_eq_ok _ _ _ _ _ _ _ haudit
    exact ⟨run.1, run.2, haudit, hfacts, ((cut_fails_closed_iff _ _ _ _ _ _ _ _ _ _).1 _
      (IndentationCli.parse_wellFormed (hashesApart_of_nodup (by decide +kernel))) hrun
        hblocks).mp hclosed⟩
  · obtain ⟨⟨ir, run⟩, hok, hcheck⟩ : ∃ run, cutXmlAudit = .ok run ∧
        decide ((run.1.nodes.map (·.nodeId)).Nodup ∧ run.2.1.facts ≠ [] ∧
          FailsClosed run.1.truncated juniperJunos18.profileVersionId run.2.1 run.2.2) = true :=
      exists_of_toOption (by decide +kernel)
    obtain ⟨hids, hfacts, hclosed⟩ := of_decide_eq_true hcheck
    refine ⟨ir, run.1, run.2, hok, hfacts, ?_⟩
    simp only [cutXmlAudit, except_bind_eq_ok, except_pure_eq_ok] at hok
    obtain ⟨_, -, _, haudit, hpair⟩ := hok
    obtain ⟨rfl, rfl⟩ := Prod.mk.inj hpair
    obtain ⟨hrun, hblocks⟩ := auditTree_eq_ok _ _ _ _ _ _ _ haudit
    exact ((cut_fails_closed_iff _ _ _ _ _ _ _ _ _ _).2.1 _ hids hrun hblocks).mp hclosed
  · obtain ⟨⟨ir, run⟩, hok, hcheck⟩ : ∃ run, cutJsonAudit = .ok run ∧
        decide (run.1.truncated = true) = true := exists_of_toOption (by decide +kernel)
    refine ⟨ir, run.1, run.2, hok, of_decide_eq_true hcheck, ?_⟩
    simp only [cutJsonAudit, except_bind_eq_ok, except_pure_eq_ok] at hok
    obtain ⟨_, -, _, haudit, hpair⟩ := hok
    obtain ⟨rfl, rfl⟩ := Prod.mk.inj hpair
    obtain ⟨hrun, -⟩ := auditTree_eq_ok _ _ _ _ _ _ _ haudit
    exact (cut_fails_closed_iff cutUuid5 exampleSha256 _ _ _ _ (UUID.ofNat 5) [] _ _).2.2 _ hrun

end ConfigAuditor.Interpretation.Truncation
