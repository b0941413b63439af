import ConfigAuditor.Interpretation.FailClosed

/-!
# Unsupported qualifiers of XML values

A mapping of an XML path may declare paths of qualifiers it does not support.
`xml_match_has_unsupported_qualifier` looks for them below the parent of a matched element, whatever
the mapping reads there. What stands below the matched element itself is not looked at.
-/
namespace ConfigAuditor.Interpretation.Qualifiers

open Library SecurityModel Parsing KnowledgePacks Training.Dsl Training.Matcher ProfileResolution
  Mapping Service Outcomes

/-- A path of local names leads downwards from the node with an id. -/
inductive PathBelow (ir : XmlStructuralIR) : String → List String → Prop
  | here (nodeId : String) : PathBelow ir nodeId []
  | child {nodeId : String} {path : List String} {child : XmlNode} (hmem : child ∈ ir.nodes)
    (hparent : child.parentId = some nodeId) (h : PathBelow ir child.nodeId path) :
    PathBelow ir nodeId ((xmlName child.tag).2 :: path)

/-- A declared qualifier path leads downwards from the node with an id. -/
def Qualified (definition : MappingDefinition) (ir : XmlStructuralIR) (nodeId : String) : Prop :=
  ∃ path ∈ definition.scopeResolution.xmlUnsupportedQualifierPaths, PathBelow ir nodeId path

/-- A declared qualifier path leads downwards from the parent of a node. -/
def QualifiedParent (definition : MappingDefinition) (ir : XmlStructuralIR) (node : XmlNode) :
    Prop :=
  ∃ parent ∈ ir.nodes, node.parentId = some parent.nodeId ∧ Qualified definition ir parent.nodeId

theorem pathBelow_cons {ir : XmlStructuralIR} {nodeId segment : String} {path : List String} :
    PathBelow ir nodeId (segment :: path) ↔ ∃ child ∈ ir.nodes, child.parentId = some nodeId ∧
      (xmlName child.tag).2 = segment ∧ PathBelow ir child.nodeId path := by
  constructor
  · intro h
    cases h with
    | child hmem hparent h => exact ⟨_, hmem, hparent, rfl, h⟩
  · rintro ⟨child, hmem, hparent, rfl, h⟩
    exact .child hmem hparent h

/-- The search for a path finds something if the path leads downwards from a node it starts at. -/
theorem descend_ne_nil {ir : XmlStructuralIR} {path : List String} {frontier : List XmlNode} :
    descend ir frontier path ≠ [] ↔ ∃ item ∈ frontier, PathBelow ir item.nodeId path := by
  induction path generalizing frontier with
  | nil =>
    rw [descend]
    constructor
    · intro hne
      obtain ⟨item, hitem⟩ := List.exists_mem_of_ne_nil _ hne
      exact ⟨item, hitem, .here _⟩
    · rintro ⟨item, hitem, -⟩
      exact List.ne_nil_of_mem hitem
  | cons segment path ih =>
    rw [descend, ih]
    constructor
    · rintro ⟨child, hchild, hpath⟩
      obtain ⟨item, hitem, hchild⟩ := List.mem_flatMap.mp hchild
      obtain ⟨hmem, htest⟩ := List.mem_filter.mp hchild
      rw [Bool.and_eq_true, beq_iff_eq, beq_iff_eq] at htest
      exact ⟨item, hitem, pathBelow_cons.mpr ⟨child, hmem, htest.1, htest.2, hpath⟩⟩
    · rintro ⟨item, hitem, hpath⟩
      obtain ⟨child, hmem, hparent, hname, hpath⟩ := pathBelow_cons.mp hpath
      refine ⟨child, List.mem_flatMap.mpr ⟨item, hitem, List.mem_filter.mpr ⟨hmem, ?_⟩⟩, hpath⟩
      rw [Bool.and_eq_true, beq_iff_eq, beq_iff_eq]
      exact ⟨hparent, hname⟩

/-- The check of the code is about the parent. -/
theorem hasUnsupportedQualifier_iff {definition : MappingDefinition} {ir : XmlStructuralIR}
    {node : XmlNode} :
    hasUnsupportedQualifier definition ir node = true ↔ QualifiedParent definition ir node := by
  unfold hasUnsupportedQualifier QualifiedParent
  cases hparent : node.parentId with
  | none => simp
  | some parentId =>
    simp only [List.any_eq_true, Bool.not_eq_true', List.isEmpty_eq_false_iff, descend_ne_nil,
      Option.mem_toList]
    constructor
    · rintro ⟨path, hpath, parent, hfind, hbelow⟩
      have hid : parent.nodeId = parentId := by simpa using List.find?_some hfind
      exact ⟨parent, List.mem_of_find?_eq_some hfind, by rw [hid], path, hpath, hbelow⟩
    · rintro ⟨parent, hmem, hid, path, hpath, hbelow⟩
      obtain rfl : parentId = parent.nodeId := Option.some.inj hid
      have hsome : (ir.nodes.find? fun other => other.nodeId == parent.nodeId).isSome = true :=
        List.find?_isSome.mpr ⟨parent, hmem, beq_self_eq_true _⟩
      obtain ⟨found, hfind⟩ := Option.isSome_iff_exists.mp hsome
      have hfound : found.nodeId = parent.nodeId := by simpa using List.find?_some hfind
      exact ⟨path, hpath, found, hfind, hfound ▸ hbelow⟩

/-- A fact of a mapping on a node. -/
def FactOn (mapping : DeclarativeMapping) (node : XmlNode) (fact : SecurityFactDraft) : Prop :=
  fact.mappingId = some mapping.mappingId ∧ fact.sourceIrNodeIds = [node.nodeId]

section Facts

variable {uuid5 : UUID → String → UUID} {context : InterpretationContext} {pack : KnowledgePack}
  {ir : XmlStructuralIR} {profileVersionId : String} {profile : ProfileManifest}
  {result : InterpretationResult} {mapping : DeclarativeMapping} {node : XmlNode}

theorem interpretXmlMatch_emitted {definition : MappingDefinition} {captures : Captures}
    {fact : SecurityFactDraft} {container : Option ConfigNode}
    (h : interpretXmlMatch uuid5 context pack mapping definition ir node captures =
      .ok (.emitted fact container)) : FactOn mapping node fact := by
  unfold interpretXmlMatch at h
  split at h
  · cases h
  · obtain ⟨output, -, h⟩ := except_bind_eq_ok.mp h
    cases output with
    | none => cases h
    | some output =>
      obtain ⟨built, hbuilt, h⟩ := except_bind_eq_ok.mp h
      obtain ⟨rfl, -⟩ := PairOutcome.emitted.inj (except_pure_eq_ok.mp h)
      simp only [buildXmlFact, draftFact, except_bind_eq_ok, except_pure_eq_ok] at hbuilt
      obtain ⟨identity, -, rfl⟩ := hbuilt
      exact ⟨rfl, rfl⟩

/-- A mapping gives a fact on a node where it matches, finds no qualifier below the parent, and its
captures give a value. -/
theorem exists_factOn_iff (hids : (ir.nodes.map (·.nodeId)).Nodup)
    (hrun : interpretXmlStructuralIr uuid5 context ir profileVersionId (some pack) (some profile) =
      .ok result) (hmapping : mapping ∈ pack.mappings) (hnode : node ∈ ir.nodes) :
    (∃ fact ∈ result.facts, FactOn mapping node fact) ↔ ∃ definition captures,
      mapping.trainingDefinition = some definition ∧ XmlMatches definition node captures ∧
        ¬ QualifiedParent definition ir node ∧ GivesOutput definition captures := by
  obtain ⟨hmappings, groups, hgroups, rfl⟩ := interpretXmlStructuralIr_ok hrun
  constructor
  · rintro ⟨fact, hfact, hmappingId, hnodeIds⟩
    obtain ⟨attempt, hattempt, hfact⟩ := List.mem_filterMap.mp hfact
    obtain ⟨group, hgroup, hattempt⟩ := List.mem_flatten.mp hattempt
    obtain ⟨mapping', hmapping', hbody⟩ := mapM_exists_input hgroups hgroup
    unfold attemptXml attemptStructured at hbody
    cases hdefinition : mapping'.trainingDefinition with
    | none =>
      rw [hdefinition] at hbody
      obtain rfl := except_pure_eq_ok.mp hbody
      cases hattempt
    | some definition =>
      simp only [hdefinition] at hbody
      obtain ⟨found, hfound, hbody⟩ := except_bind_eq_ok.mp hbody
      rw [liftM_eq_ok] at hfound
      obtain ⟨⟨node', captures⟩, hmem, hbody⟩ := mapM_exists_input hbody hattempt
      obtain ⟨outcome, houtcome, hbody⟩ := except_bind_eq_ok.mp hbody
      obtain rfl := except_pure_eq_ok.mp hbody
      obtain ⟨hnode', hmatch⟩ := (mem_matchesXml hfound node' captures).mp hmem
      obtain ⟨emitted, rfl, hgood⟩ | ⟨code, rfl, -⟩ :=
        (xml_spec ir).good mapping' definition node' captures outcome houtcome
      · obtain rfl : emitted = fact := Option.some.inj hfact
        obtain ⟨hmappingId', hnodeIds'⟩ := interpretXmlMatch_emitted houtcome
        have hsameMapping : mapping' = mapping := by
          refine List.inj_on_of_nodup_map hmappings hmapping' hmapping ?_
          exact Option.some.inj (hmappingId'.symm.trans hmappingId)
        have hsameNode : node' = node := by
          refine List.inj_on_of_nodup_map hids hnode' hnode ?_
          exact (List.cons.inj (hnodeIds'.symm.trans hnodeIds)).1
        subst hsameMapping hsameNode
        refine ⟨definition, captures, hdefinition, hmatch, ?_, hgood.2⟩
        rw [← hasUnsupportedQualifier_iff, hgood.1]
        exact Bool.false_ne_true
      · cases hfact
  · rintro ⟨definition, captures, hdefinition, hmatch, hqualifier, hgives⟩
    obtain ⟨outcome, houtcome, hmem⟩ :=
      structured_body_of_found (xml_spec ir) hgroups hmapping hdefinition ⟨hnode, hmatch⟩
    obtain ⟨fact, rfl, -⟩ | ⟨code, rfl, hbad⟩ :=
      (xml_spec ir).good mapping definition node captures outcome houtcome
    · exact ⟨fact, List.mem_filterMap.mpr ⟨_, hmem, rfl⟩, interpretXmlMatch_emitted houtcome⟩
    · refine absurd ⟨?_, hgives⟩ hbad
      rwa [← Bool.not_eq_true, hasUnsupportedQualifier_iff]

/-- No fact is given on a matched element with a declared qualifier below it or its parent. -/
def Withheld (pack : KnowledgePack) (ir : XmlStructuralIR) (result : InterpretationResult) : Prop :=
  ∀ mapping ∈ pack.mappings, ∀ definition, mapping.trainingDefinition = some definition →
    ∀ node ∈ ir.nodes, ∀ captures, XmlMatches definition node captures →
      Qualified definition ir node.nodeId ∨ QualifiedParent definition ir node →
        ∀ fact ∈ result.facts, ¬ FactOn mapping node fact

/-- Every matched element with a declared qualifier below it that gives a value also has one below
its parent. -/
def SharedQualifiers (pack : KnowledgePack) (ir : XmlStructuralIR) : Prop :=
  ∀ mapping ∈ pack.mappings, ∀ definition, mapping.trainingDefinition = some definition →
    ∀ node ∈ ir.nodes, ∀ captures, XmlMatches definition node captures →
      GivesOutput definition captures → Qualified definition ir node.nodeId →
        QualifiedParent definition ir node

theorem xmlMatches_unique {definition : MappingDefinition} {captures captures' : Captures}
    (h : XmlMatches definition node captures) (h' : XmlMatches definition node captures') :
    captures' = captures := by
  obtain ⟨source, -, hpath, hmatch⟩ := h
  obtain ⟨source', -, hpath', hmatch'⟩ := h'
  obtain rfl := Option.some.inj (hpath.symm.trans hpath')
  exact Option.some.inj (Except.ok.inj (hmatch'.symm.trans hmatch))

end Facts

/-- The values of qualified elements are withheld exactly where a qualifier below a matched element
that gives a value is joined by one below its parent. -/
theorem qualified_values_withheld_iff (uuid5 : UUID → String → UUID)
    (context : InterpretationContext) (pack : KnowledgePack) (ir : XmlStructuralIR)
    (profileVersionId : String) (profile : ProfileManifest) (result : InterpretationResult)
    (hids : (ir.nodes.map (·.nodeId)).Nodup)
    (hrun : interpretXmlStructuralIr uuid5 context ir profileVersionId (some pack) (some profile) =
      .ok result) : Withheld pack ir result ↔ SharedQualifiers pack ir := by
  constructor
  · intro hwithheld mapping hmapping definition hdefinition node hnode captures hmatch hgives hbelow
    by_contra hparent
    obtain ⟨fact, hfact, hon⟩ := (exists_factOn_iff hids hrun hmapping hnode).mpr
      ⟨definition, captures, hdefinition, hmatch, hparent, hgives⟩
    exact hwithheld mapping hmapping definition hdefinition node hnode captures hmatch
      (.inl hbelow) fact hfact hon
  · intro hshared mapping hmapping definition hdefinition node hnode captures hmatch hqualified
      fact hfact hon
    obtain ⟨definition', captures', hdefinition', hmatch', hparent, hgives⟩ :=
      (exists_factOn_iff hids hrun hmapping hnode).mp ⟨fact, hfact, hon⟩
    obtain rfl := Option.some.inj (hdefinition.symm.trans hdefinition')
    obtain rfl := xmlMatches_unique hmatch hmatch'
    obtain hbelow | habove := hqualified
    · exact hparent (hshared mapping hmapping definition hdefinition node hnode _ hmatch hgives
        hbelow)
    · exact hparent habove

/-- The elements of a chain, each the only child of the one before. -/
def chainNodes (path : List String) (parentId : Option String) (order : Nat) :
    List (String × String) → List XmlNode
  | [] => []
  | (tag, nodeId) :: rest =>
    let here := path ++ [tag ++ "[1]"]
    { nodeId, path := here, tag, attributes := [], text := none, parentId, order,
      source := FailClosed.exampleSource } ::
      chainNodes here (some nodeId) (order + 1) rest

def chainIr (elements : List (String × String)) : XmlStructuralIR :=
  { readerId := "xml_tree.v1", source := FailClosed.exampleSource,
    nodes := chainNodes [] none 1 elements, truncated := false }

/-- `<configuration><system><ntp><server/></ntp></system></configuration>`. -/
def serverElements : List (String × String) :=
  [("configuration", "xmln_a6140062eecd78b1009d632f9bf0b910"),
    ("system", "xmln_fa2653415d99e91f65c8ff08da0b6837"),
    ("ntp", "xmln_b488d833cd9a8a3b8a28d8ea5d9b3a8a"),
    ("server", "xmln_ced7463cd8b2bc537b3804411ce3119c")]

/-- The same with `<routing-instance/>` in the server. -/
def routedElements : List (String × String) :=
  serverElements ++ [("routing-instance", "xmln_d727206ee93ffa4d3a03aa4de5506325")]

/-- The id of the fact on the server. -/
def chainUuid5 : UUID → String → UUID := UUID.ofTable
  [("\x7b\"audit_id\":\"00000000-0000-0000-0000-000000000002\",\"entity\":null,\"" ++
      "field_id\":\"time.ntp.configured\",\"mapping_version_id\":\"b3020000-0000-50" ++
      "00-8000-000000000105\",\"scope\":\x7b\"attributes\":\x7b\x7d,\"key\":\"devic" ++
      "e\",\"type\":\"device\"\x7d,\"source_ir_node_ids\":[\"xmln_ced7463cd8b2bc537" ++
      "b3804411ce3119c\"],\"value\":\x7b\"original_unit\":null,\"original_value\":n" ++
      "ull,\"type\":\"boolean\",\"unit\":null,\"value\":true\x7d\x7d",
      0xd12c3c590ef75405adf4727bfd42a2ae)]

def chainRun (elements : List (String × String)) : Except Error InterpretationResult :=
  interpretXmlStructuralIr chainUuid5 FailClosed.exampleContext (chainIr elements)
    "juniper.junos.18@1.0.0" (some Sealed.Juniper.current) (some juniperJunos18)

/-- The mapping that says a time server is configured. -/
def serverMapping : DeclarativeMapping :=
  Sealed.Juniper.mapping 0x5 0x105 "time.ntp.configured" [.boolean]
    Sealed.Juniper.ntpConfiguredDefinition

def serverNode : XmlNode :=
  { nodeId := "xmln_ced7463cd8b2bc537b3804411ce3119c",
    path := ["configuration[1]", "system[1]", "ntp[1]", "server[1]"], tag := "server",
    attributes := [], text := none, parentId := some "xmln_b488d833cd9a8a3b8a28d8ea5d9b3a8a",
    order := 4, source := FailClosed.exampleSource }

/-- A second `<routing-instance/>`, beside the server. -/
def besideNode : XmlNode :=
  { nodeId := "xmln_71aeea2cc46478d82872375d4286689b",
    path := ["configuration[1]", "system[1]", "ntp[1]", "routing-instance[1]"],
    tag := "routing-instance", attributes := [], text := none,
    parentId := some "xmln_b488d833cd9a8a3b8a28d8ea5d9b3a8a", order := 6,
    source := FailClosed.exampleSource }

/-- A routed server in a routed list of servers. -/
def besideIr : XmlStructuralIR :=
  { chainIr routedElements with nodes := (chainIr routedElements).nodes ++ [besideNode] }

/-- Below the server stands a routing instance. -/
theorem server_qualified {ir : XmlStructuralIR}
    (h : ∃ child ∈ ir.nodes, child.parentId = some serverNode.nodeId ∧
      (xmlName child.tag).2 = "routing-instance") :
    Qualified Sealed.Juniper.ntpConfiguredDefinition ir serverNode.nodeId := by
  obtain ⟨child, hmem, hparent, hname⟩ := h
  exact ⟨["routing-instance"], by decide +kernel,
    pathBelow_cons.mpr ⟨child, hmem, hparent, hname, .here _⟩⟩

/-- The value of the server is withheld, for the qualifier beside it. -/
theorem qualified_values_withheld_beside :
    Qualified Sealed.Juniper.ntpConfiguredDefinition besideIr serverNode.nodeId ∧
    ∃ result, interpretXmlStructuralIr chainUuid5 FailClosed.exampleContext besideIr
        "juniper.junos.18@1.0.0" (some Sealed.Juniper.current) (some juniperJunos18) = .ok result ∧
      result.facts = [] ∧
      (Withheld Sealed.Juniper.current besideIr result ↔
        SharedQualifiers Sealed.Juniper.current besideIr) := by
  refine ⟨server_qualified (by decide +kernel), ?_⟩
  obtain ⟨result, hrun, hfacts⟩ := exists_of_toOption
    (by decide +kernel : (interpretXmlStructuralIr chainUuid5 FailClosed.exampleContext besideIr
      "juniper.junos.18@1.0.0" (some Sealed.Juniper.current)
      (some juniperJunos18)).toOption.map (fun result => result.facts.isEmpty) = some true)
  exact ⟨result, hrun, List.isEmpty_iff.mp hfacts,
    qualified_values_withheld_iff chainUuid5 FailClosed.exampleContext Sealed.Juniper.current
      besideIr "juniper.junos.18@1.0.0" juniperJunos18 result (by decide +kernel) hrun⟩

theorem routed_server_not_withheld :
    ¬ ∀ (uuid5 : UUID → String → UUID) (context : InterpretationContext) (pack : KnowledgePack)
      (ir : XmlStructuralIR) (profileVersionId : String) (profile : ProfileManifest)
      (result : InterpretationResult), (ir.nodes.map (·.nodeId)).Nodup →
      interpretXmlStructuralIr uuid5 context ir profileVersionId (some pack) (some profile) =
        .ok result → Withheld pack ir result := by
  intro h
  obtain ⟨result, hrun, hfacts⟩ := exists_of_toOption
    (by decide +kernel : (chainRun routedElements).toOption.map (fun result =>
      result.facts.any fun fact => fact.mappingId == some serverMapping.mappingId &&
        fact.sourceIrNodeIds == [serverNode.nodeId]) = some true)
  have hwithheld := h chainUuid5 FailClosed.exampleContext Sealed.Juniper.current
    (chainIr routedElements) "juniper.junos.18@1.0.0" juniperJunos18 result (by decide +kernel) hrun
  obtain ⟨fact, hfact, hon⟩ := List.any_eq_true.mp hfacts
  rw [Bool.and_eq_true, beq_iff_eq, beq_iff_eq] at hon
  obtain ⟨source, hsource, hmatch⟩ : ∃ source,
      Sealed.Juniper.ntpConfiguredDefinition.structuralMatch.xmlPath = some source ∧
        matchXmlNode source serverNode = .ok (some []) := ⟨_, rfl, by decide +kernel⟩
  exact hwithheld serverMapping (by decide +kernel) Sealed.Juniper.ntpConfiguredDefinition rfl
    serverNode (by decide +kernel) [] ⟨source, rfl, hsource, hmatch⟩
    (.inl (server_qualified (by decide +kernel))) fact hfact hon

end ConfigAuditor.Interpretation.Qualifiers
