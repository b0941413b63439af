import ConfigAuditor.Interpretation.FailClosed
import ConfigAuditor.Parsing.Documents

/-!
# Which data of a structured document is accounted for

Every datum of a document a reader did not cut should be on a node that a mapping turned into a
fact or that is left unresolved. Only leaves are left unresolved, and not everything that holds
data is one.
-/
namespace ConfigAuditor.Interpretation.Coverage

open Library SecurityModel Parsing Documents KnowledgePacks ProfileResolution Training.Dsl
  Training.Matcher Mapping Service Outcomes FailClosed
open Sealed.Juniper (sshDefinition)

/-- Some mapping turned the node into a fact, or it is unresolved. -/
def Accounted (result : InterpretationResult) (nodeId : String) : Prop :=
  (∃ fact ∈ result.facts, nodeId ∈ fact.sourceIrNodeIds) ∨ nodeId ∈ result.unresolvedNodeIds

section Facts

variable {uuid5 : UUID → String → UUID} {context : InterpretationContext} {pack : KnowledgePack}
  {mapping : DeclarativeMapping}

theorem draftFact_source {versionId : UUID} {evidence : List EvidenceRef} {nodeIds : List String}
    {value : TypedValue} {scope : ScopeRef} {quality : FactQuality} {fact : SecurityFactDraft}
    (h : draftFact uuid5 context pack mapping versionId evidence nodeIds value scope quality =
      .ok fact) : fact.sourceIrNodeIds = nodeIds := by
  unfold draftFact at h
  obtain ⟨_, -, h⟩ := except_bind_eq_ok.mp h
  obtain rfl := except_pure_eq_ok.mp h
  rfl

theorem xml_source {definition : MappingDefinition} {ir : XmlStructuralIR} {node : XmlNode}
    {captures : Captures} {fact : SecurityFactDraft} {container : Option ConfigNode}
    (h : interpretXmlMatch uuid5 context pack mapping definition ir node captures =
      .ok (.emitted fact container)) : fact.sourceIrNodeIds = [node.nodeId] := by
  unfold interpretXmlMatch at h
  split at h
  · cases except_pure_eq_ok.mp h
  obtain ⟨output, -, h⟩ := except_bind_eq_ok.mp h
  cases output with
  | none => cases except_pure_eq_ok.mp h
  | some output =>
    obtain ⟨_, hfact, h⟩ := except_bind_eq_ok.mp h
    cases except_pure_eq_ok.mp h
    exact draftFact_source hfact

theorem json_source {definition : MappingDefinition} {node : JsonNode} {captures : Captures}
    {fact : SecurityFactDraft} {container : Option ConfigNode}
    (h : interpretJsonMatch uuid5 context pack mapping definition node captures =
      .ok (.emitted fact container)) : fact.sourceIrNodeIds = [node.nodeId] := by
  unfold interpretJsonMatch at h
  obtain ⟨output, -, h⟩ := except_bind_eq_ok.mp h
  cases output with
  | none => cases except_pure_eq_ok.mp h
  | some output =>
    obtain ⟨_, hfact, h⟩ := except_bind_eq_ok.mp h
    cases except_pure_eq_ok.mp h
    exact draftFact_source hfact

end Facts

section Structured

variable {ν : Type} {nodeId : ν → String}
  {find : MappingDefinition → Except PyError (List (ν × Captures))}
  {body : DeclarativeMapping → MappingDefinition → ν → Captures → Except Error PairOutcome}
  {mappings : List DeclarativeMapping} {groups : List (List Attempt)}

/-- The nodes named by the facts of a structured run are the matched ones. -/
theorem structured_mem_sources
    (hsource : ∀ mapping definition node captures fact container,
      body mapping definition node captures = .ok (.emitted fact container) →
        fact.sourceIrNodeIds = [nodeId node])
    (h : mappings.mapM (attemptStructured nodeId find body) = .ok groups) {id : String} :
    (∃ fact ∈ factsOf groups.flatten, id ∈ fact.sourceIrNodeIds) ↔
      id ∈ matchedIds groups.flatten := by
  have hattempt : ∀ attempt ∈ groups.flatten, ∀ fact, attempt.fact? = some fact →
      fact.sourceIrNodeIds = [attempt.nodeId] := by
    intro attempt hmem fact hfact
    obtain ⟨group, hgroup, hin⟩ := List.mem_flatten.mp hmem
    obtain ⟨mapping, -, hrun⟩ := mapM_exists_input h hgroup
    unfold attemptStructured at hrun
    split at hrun
    · obtain rfl := except_pure_eq_ok.mp hrun
      cases hin
    obtain ⟨found, -, hrun⟩ := except_bind_eq_ok.mp hrun
    obtain ⟨⟨node, captures⟩, -, hbody⟩ := mapM_exists_input hrun hin
    obtain ⟨outcome, houtcome, hbody⟩ := except_bind_eq_ok.mp hbody
    obtain rfl := except_pure_eq_ok.mp hbody
    cases outcome with
    | emitted emitted container =>
      cases hfact
      exact hsource _ _ _ _ _ _ houtcome
    | _ => cases hfact
  simp only [factsOf, matchedIds, List.mem_filterMap]
  constructor
  · rintro ⟨fact, ⟨attempt, hmem, hfact⟩, hid⟩
    rw [hattempt attempt hmem fact hfact, List.mem_singleton] at hid
    exact ⟨attempt, hmem, by rw [Attempt.matched?, hfact, hid]; rfl⟩
  · rintro ⟨attempt, hmem, hid⟩
    rw [Attempt.matched?, Option.map_eq_some_iff] at hid
    obtain ⟨fact, hfact, rfl⟩ := hid
    exact ⟨fact, ⟨attempt, hmem, hfact⟩, by rw [hattempt attempt hmem fact hfact]; simp⟩

/-- The nodes a structured run accounts for: those some mapping gives a fact on, and the
leaves. -/
theorem structured_accounted {Found Good : MappingDefinition → ν → Captures → Prop}
    (hspec : StructuredSpec find body Found Good)
    (hsource : ∀ mapping definition node captures fact container,
      body mapping definition node captures = .ok (.emitted fact container) →
        fact.sourceIrNodeIds = [nodeId node])
    (h : mappings.mapM (attemptStructured nodeId find body) = .ok groups) {nodes : List ν}
    (hfound : ∀ definition node captures, Found definition node captures → node ∈ nodes)
    (hids : (nodes.map nodeId).Nodup) {leaf : ν → Bool} {node : ν} (hnode : node ∈ nodes) :
    ((∃ fact ∈ factsOf groups.flatten, nodeId node ∈ fact.sourceIrNodeIds) ∨
        nodeId node ∈ ((nodes.filter leaf).filter fun other =>
          !(matchedIds groups.flatten).contains (nodeId other)).map nodeId) ↔
      (∃ mapping ∈ mappings, StructuredYields Found Good mapping node) ∨ leaf node = true := by
  rw [structured_mem_sources hsource h, structured_mem_unresolved hspec h hfound hids hnode,
    structured_mem_matchedIds hspec h]
  have hmatched : (∃ other, nodeId other = nodeId node ∧
      ∃ mapping ∈ mappings, StructuredYields Found Good mapping other) ↔
        ∃ mapping ∈ mappings, StructuredYields Found Good mapping node := by
    constructor
    · rintro ⟨other, hid, mapping, hmapping, hyields⟩
      have hyields' := hyields
      obtain ⟨definition, captures, -, hother, -⟩ := hyields'
      obtain rfl := List.inj_on_of_nodup_map hids (hfound _ _ _ hother) hnode hid
      exact ⟨mapping, hmapping, hyields⟩
    · exact fun hyields => ⟨node, rfl, hyields⟩
  rw [hmatched]
  constructor
  · rintro (hyields | ⟨hleaf, -⟩)
    · exact .inl hyields
    · exact .inr hleaf
  · intro h
    by_cases hyields : ∃ mapping ∈ mappings, StructuredYields Found Good mapping node
    · exact .inl hyields
    · exact .inr ⟨h.resolve_left hyields, hyields⟩

end Structured

/-- Scalars, and objects and arrays without entries. -/
def IsDatum : PyValue → Prop
  | .dict entries => entries = []
  | .list items => items = []
  | _ => True

/-- Every datum of the document is on a node that is accounted for. -/
def JsonCovered (payload : PyValue) (ir : JsonStructuralIR) (result : InterpretationResult) :
    Prop :=
  ∀ (i : Nat) path value, (values [] payload)[i]? = some (path, value) → IsDatum value →
    ∃ node, ir.nodes[i]? = some node ∧ node.path = path ∧ node.value = value ∧
      Accounted result node.nodeId

/-- A mapping of the pack turns the presence of anything at the path into a fact. -/
def PresenceMapped (pack : KnowledgePack) (path : List JsonStep) : Prop :=
  ∃ mapping ∈ pack.mappings, ∃ definition source captures,
    mapping.trainingDefinition = some definition ∧
      definition.structuralMatch.operation = .jsonPath ∧
      definition.structuralMatch.jsonPath = some source ∧
      source.path.map expectedStep = path.map some ∧ source.source = .presence ∧
      jsonCaptures source (.bool true) = .ok (some captures) ∧ GivesOutput definition captures

section Json

variable {uuid5 : UUID → String → UUID} {context : InterpretationContext} {pack : KnowledgePack}
  {profile : ProfileManifest} {profileVersionId : String} {result : InterpretationResult}
  {ir : JsonStructuralIR}

/-- Only the presence of a container can become a fact. -/
theorem json_yields_container {node : JsonNode} (h : node.value.isContainer = true) :
    (∃ mapping ∈ pack.mappings, StructuredYields (fun definition (node : JsonNode) captures =>
        node ∈ ir.nodes ∧ JsonMatches definition node captures) JsonGood mapping node) ↔
      node ∈ ir.nodes ∧ PresenceMapped pack node.path := by
  have hmatch : ∀ source captures, matchJsonNode source node = .ok (some captures) ↔
      source.path.map expectedStep = node.path.map some ∧ source.source = .presence ∧
        jsonCaptures source (.bool true) = .ok (some captures) := by
    intro source captures
    unfold matchJsonNode
    by_cases hpath : source.path.map expectedStep = node.path.map some
    · cases hsource : source.source <;> simp [hpath, h]
    · simp [hpath]
  constructor
  · rintro ⟨mapping, hmapping, definition, captures, hdefinition, ⟨hnode, source, hop, hpath,
      hfound⟩, hgood⟩
    obtain ⟨hsteps, hpresence, hcaptures⟩ := (hmatch source captures).mp hfound
    exact ⟨hnode, mapping, hmapping, definition, source, captures, hdefinition, hop, hpath, hsteps,
      hpresence, hcaptures, hgood⟩
  · rintro ⟨hnode, mapping, hmapping, definition, source, captures, hdefinition, hop, hpath, hsteps,
      hpresence, hcaptures, hgood⟩
    exact ⟨mapping, hmapping, definition, captures, hdefinition, ⟨hnode, source, hop, hpath,
      (hmatch source captures).mpr ⟨hsteps, hpresence, hcaptures⟩⟩, hgood⟩

/-- The data of a JSON document are all accounted for exactly if every empty container is at a
path whose presence is mapped. -/
theorem json_covered_iff {payload : PyValue} (hnodes : ir.nodes.map placeOf = values [] payload)
    (hwhole : ir.truncated = false) (hids : (ir.nodes.map (·.nodeId)).Nodup)
    (hrun : interpretJsonStructuralIr uuid5 context ir profileVersionId (some pack)
      (some profile) = .ok result) :
    JsonCovered payload ir result ↔ ∀ path value, (path, value) ∈ values [] payload →
      value = .dict [] ∨ value = .list [] → PresenceMapped pack path := by
  obtain ⟨-, ⟨htruncated, -⟩ | ⟨-, groups, hgroups, rfl⟩⟩ := interpretJsonStructuralIr_ok hrun
  · rw [hwhole] at htruncated
    cases htruncated
  have haccounted : ∀ node ∈ ir.nodes, (Accounted (jsonResult ir groups.flatten) node.nodeId ↔
      (∃ mapping ∈ pack.mappings, StructuredYields (fun definition (node : JsonNode) captures =>
        node ∈ ir.nodes ∧ JsonMatches definition node captures) JsonGood mapping node) ∨
        node.value.isContainer = false) := by
    intro node hnode
    refine (structured_accounted (json_spec ir) (fun _ _ _ _ _ _ => json_source) hgroups
      (fun _ _ _ hfound => hfound.1) hids hnode).trans ?_
    simp
  have hget : ∀ (i : Nat) path value, (values [] payload)[i]? = some (path, value) →
      ∃ node, ir.nodes[i]? = some node ∧ node.path = path ∧ node.value = value := by
    intro i path value hi
    rw [← hnodes, List.getElem?_map, Option.map_eq_some_iff] at hi
    obtain ⟨node, hnode, hplace⟩ := hi
    exact ⟨node, hnode, congrArg Prod.fst hplace, congrArg Prod.snd hplace⟩
  constructor
  · intro hcovered path value hmem hempty
    obtain ⟨i, hi⟩ := List.mem_iff_getElem?.mp hmem
    obtain ⟨node, hnode, rfl, rfl, hnodeAccounted⟩ := hcovered i path value hi (by
      rcases hempty with rfl | rfl <;> rfl)
    have hcontainer : node.value.isContainer = true := by
      rcases hempty with hempty | hempty <;> rw [hempty] <;> rfl
    rcases (haccounted node (List.mem_of_getElem? hnode)).mp hnodeAccounted with hyields | hscalar
    · exact ((json_yields_container hcontainer).mp hyields).2
    · rw [hcontainer] at hscalar
      cases hscalar
  · intro hpresence i path value hi hdatum
    obtain ⟨node, hnode, rfl, rfl⟩ := hget i path value hi
    have hin := List.mem_of_getElem? hnode
    refine ⟨node, hnode, rfl, rfl, (haccounted node hin).mpr ?_⟩
    cases hcontainer : node.value.isContainer with
    | false => exact .inr rfl
    | true =>
      refine .inl ((json_yields_container hcontainer).mpr ⟨hin, ?_⟩)
      refine hpresence _ _ (List.mem_of_getElem? hi) ?_
      cases hvalue : node.value with
      | dict entries =>
        rw [hvalue] at hdatum
        exact .inl (congrArg _ hdatum)
      | list items =>
        rw [hvalue] at hdatum
        exact .inr (congrArg _ hdatum)
      | _ =>
        rw [hvalue] at hcontainer
        cases hcontainer

end Json

def charactersOf (text : Option String) : List Char := (text.getD "").toList

/-- All character data directly in an element: before its first child and after every child. -/
def characters (e : MixedElement) : List Char :=
  charactersOf e.text ++ e.children.flatMap fun child => charactersOf child.tail

/-- The text of an element, without the white space around it. -/
def textOf (e : MixedElement) : List Char := Text.stripList Text.isSpace (characters e)

/-- Every element without children and every text of the document is on a node that is accounted
for. -/
def XmlCovered (root : MixedElement) (ir : XmlStructuralIR) (result : InterpretationResult) :
    Prop :=
  ∀ (i : Nat) e, root.elements[i]? = some e → e.children = [] ∨ textOf e ≠ [] →
    ∃ node, ir.nodes[i]? = some node ∧ node.tag = e.tag ∧
      (textOf e ≠ [] → node.text = some (String.ofList (textOf e))) ∧
      Accounted result node.nodeId

/-- No text of an element with text follows a child, and a mapping of the pack gives a fact on it
if it has children. -/
def TextsMapped (pack : KnowledgePack) (root : MixedElement) (ir : XmlStructuralIR) : Prop :=
  ∀ (i : Nat) e, root.elements[i]? = some e → textOf e ≠ [] →
    (∀ child ∈ e.children, ∀ c ∈ charactersOf child.tail, Text.isSpace c = true) ∧
      (e.children ≠ [] → ∃ node, ir.nodes[i]? = some node ∧ XmlYieldsSome pack ir node)

theorem boundedText_eq_some {text : Option String} (hcut : XmlTree.textCut text = false)
    {cs : List Char} : XmlTree.boundedText text = some (String.ofList cs) ↔
      cs ≠ [] ∧ Text.stripList Text.isSpace (charactersOf text) = cs := by
  rw [XmlTree.boundedText, if_neg (by simp [hcut])]
  cases text with
  | none =>
    simp only [Option.map_none, Option.filter_none, charactersOf, Option.getD_none]
    refine iff_of_false (by simp) ?_
    rintro ⟨hne, hcs⟩
    exact hne hcs.symm
  | some t =>
    simp only [Option.map_some, charactersOf, Option.getD_some, Option.filter_eq_some_iff,
      Option.some.injEq, Text.strip, String.ofList_inj]
    constructor
    · rintro ⟨hsame, hne⟩
      refine ⟨?_, hsame⟩
      rintro rfl
      simp at hne
    · rintro ⟨hne, hsame⟩
      exact ⟨hsame, by simpa [hsame] using hne⟩

section Xml

variable {uuid5 : UUID → String → UUID} {context : InterpretationContext} {pack : KnowledgePack}
  {profile : ProfileManifest} {profileVersionId : String} {result : InterpretationResult}
  {ir : XmlStructuralIR}

/-- A node has the text of its element unless some of it follows a child. -/
theorem text_carried {e : MixedElement} (hcut : XmlTree.textCut e.text = false)
    (htext : textOf e ≠ []) :
    XmlTree.boundedText e.text = some (String.ofList (textOf e)) ↔
      ∀ child ∈ e.children, ∀ c ∈ charactersOf child.tail, Text.isSpace c = true := by
  rw [boundedText_eq_some hcut, and_iff_right htext, textOf, characters, eq_comm,
    Text.stripList_append_eq_iff]
  simp only [List.mem_flatMap, forall_exists_index, and_imp]
  constructor
  · intro h child hchild c hc
    exact h c child hchild hc
  · intro h c child hchild hc
    exact h child hchild c hc

/-- The text and the elements of an XML document are all accounted for exactly if no text follows
a child and every text of an element with children is mapped. -/
theorem xml_covered_iff {root : MixedElement} {sha256 : String → String}
    {reprPath : List String → String} {source : ArtifactProvenance}
    (hnodes : ir.nodes = (grove sha256 reprPath source [root] none [] [] 0).preorder.map (·.1))
    (hcuts : ∀ e ∈ root.elements, XmlTree.textCut e.text = false)
    (hids : (ir.nodes.map (·.nodeId)).Nodup)
    (hrun : interpretXmlStructuralIr uuid5 context ir profileVersionId (some pack) (some profile) =
      .ok result) :
    XmlCovered root ir result ↔ TextsMapped pack root ir := by
  obtain ⟨-, groups, hgroups, rfl⟩ := interpretXmlStructuralIr_ok hrun
  set forest := grove sha256 reprPath source [root] none [] [] 0 with hforest
  have hall : forest.All (·.1.nodeId) NodeOf [] := grove_all [root] [] [] 0 rfl
  have helements : forest.preorder.map (·.2) = root.elements := by
    rw [hforest, grove_elements]
    simp [MixedElement.elementsIn]
  have hnodup : (forest.preorder.map (·.1.nodeId)).Nodup := by
    rw [hnodes, List.map_map] at hids
    exact hids
  -- the `i`th element with its node
  have hpair : ∀ (i : Nat) e, root.elements[i]? = some e → ∃ node, ir.nodes[i]? = some node ∧
      (node, e) ∈ forest.preorder := by
    intro i e hi
    rw [← helements, List.getElem?_map, Option.map_eq_some_iff] at hi
    obtain ⟨pair, hget, rfl⟩ := hi
    refine ⟨pair.1, ?_, List.mem_of_getElem? hget⟩
    rw [hnodes, List.getElem?_map, hget]
    rfl
  have hplace : ∀ pair ∈ forest.preorder, pair.1.tag = pair.2.tag ∧
      pair.1.text = XmlTree.boundedText pair.2.text ∧
      ((∀ child ∈ ir.nodes, child.parentId ≠ some pair.1.nodeId) ↔ pair.2.children = []) := by
    intro pair hmem
    obtain ⟨outer, hnode⟩ := hall.filter_children (fun _ _ _ h => h.parentId) hnodup (fun _ _ h => by cases h) hmem
    refine ⟨hnode.tag, hnode.text, ?_⟩
    rw [← hnode.children, List.map_eq_nil_iff, List.filter_eq_nil_iff, hnodes]
    simp
  have haccounted : ∀ pair ∈ forest.preorder,
      (Accounted (xmlResult ir groups.flatten) pair.1.nodeId ↔
        XmlYieldsSome pack ir pair.1 ∨ pair.2.children = []) := by
    intro pair hmem
    have hnode : pair.1 ∈ ir.nodes := hnodes ▸ List.mem_map_of_mem hmem
    refine (structured_accounted (xml_spec ir) (fun _ _ _ _ _ _ => xml_source) hgroups
      (fun _ _ _ hfound => hfound.1) hids hnode).trans ?_
    rw [← (hplace pair hmem).2.2]
    simp [XmlYieldsSome, StructuredYields, hnode]
  constructor
  · intro hcovered i e hi htext
    obtain ⟨node, hnode, hmem⟩ := hpair i e hi
    obtain ⟨-, hbounded, -⟩ := hplace _ hmem
    obtain ⟨node', hnode', -, hcarries, hcounts⟩ := hcovered i e hi (.inr htext)
    obtain rfl := Option.some.inj (hnode.symm.trans hnode')
    refine ⟨(text_carried (hcuts e (List.mem_of_getElem? hi)) htext).mp
      (hbounded.symm.trans (hcarries htext)), fun hchildren => ⟨node, hnode, ?_⟩⟩
    exact ((haccounted _ hmem).mp hcounts).resolve_right hchildren
  · intro hmapped i e hi hdatum
    obtain ⟨node, hnode, hmem⟩ := hpair i e hi
    obtain ⟨htag, hbounded, -⟩ := hplace _ hmem
    refine ⟨node, hnode, htag, fun htext => ?_, (haccounted _ hmem).mpr ?_⟩
    · exact hbounded.trans ((text_carried (hcuts e (List.mem_of_getElem? hi)) htext).mpr
        (hmapped i e hi htext).1)
    · by_cases hchildren : e.children = []
      · exact .inr hchildren
      · obtain ⟨node', hnode', hyields⟩ :=
          (hmapped i e hi (hdatum.resolve_left hchildren)).2 hchildren
        obtain rfl := Option.some.inj (hnode.symm.trans hnode')
        exact .inl hyields

end Xml

/-- The data of a structured document that is not cut are all accounted for exactly if the presence
of every empty JSON container is mapped, and no text of an XML element follows a child or stands
unmapped before one. -/
theorem structured_evidence_covered_iff (sha256 : String → String) (uuid5 : UUID → String → UUID)
    (context : InterpretationContext) (pack : KnowledgePack) (profile : ProfileManifest)
    (profileVersionId : String) (request : StructuralParseRequest)
    (result : InterpretationResult) :
    (∀ reprPath loads payload ir, JsonTree.parse sha256 reprPath loads request = .ok ir →
      ir.truncated = false → loads request.content = some payload →
      HashesApart sha256 "jsonn_" (JsonTree.identityOf reprPath) ir.nodes →
      interpretJsonStructuralIr uuid5 context ir profileVersionId (some pack) (some profile) =
        .ok result →
      (JsonCovered payload ir result ↔ ∀ path value, (path, value) ∈ values [] payload →
        value = .dict [] ∨ value = .list [] → PresenceMapped pack path)) ∧
    (∀ reprPath isWord (fromString : String → Option MixedElement) root ir,
      XmlTree.parse sha256 reprPath isWord (fun content => (fromString content).map (·.element))
        request = .ok ir →
      ir.truncated = false → fromString request.content = some root →
      HashesApart sha256 "xmln_" (XmlTree.identityOf reprPath) ir.nodes →
      interpretXmlStructuralIr uuid5 context ir profileVersionId (some pack) (some profile) =
        .ok result →
      (XmlCovered root ir result ↔ TextsMapped pack root ir)) := by
  constructor
  · intro reprPath loads payload ir hparse hwhole hpayload hhash hrun
    obtain ⟨payload', hpayload', hnodes⟩ := json_nodes hparse hwhole
    obtain rfl := Option.some.inj (hpayload.symm.trans hpayload')
    exact json_covered_iff hnodes hwhole ((JsonTree.parse_spec hparse).2.2.2 hhash) hrun
  · intro reprPath isWord fromString root ir hparse hwhole hroot hhash hrun
    obtain ⟨root', hroot', hnodes, hcuts⟩ := xml_nodes hparse hwhole
    obtain rfl := Option.some.inj (hroot.symm.trans hroot')
    exact xml_covered_iff hnodes hcuts ((XmlTree.parse_spec hparse).2.2.2 hhash) hrun

/-- The hashes of the nodes of the documents below. -/
def documentSha256 : String → String := tabulated
  [("00000000-0000-0000-0000-000000000001|()|1",
      "c4efa152eede2f082e71aa07f60ef594f57dd112dbfe12967ed19c351734c888"),
    ("00000000-0000-0000-0000-000000000001|('telnet',)|2",
      "298f39748a44ad23cff51b4d254b9a072431d52f16cb55afbb0aa216eb5f8356"),
    ("00000000-0000-0000-0000-000000000001|('configuration[1]',)|1",
      "a6140062eecd78b1009d632f9bf0b91001d22321d4ff22e2045504c1376276c9"),
    ("00000000-0000-0000-0000-000000000001|('configuration[1]', 'telnet[1]')|2",
      "52453d3862e43f98a58805099a7fa024f07cd742d6ee74f1dc4e3ff103833cb2")]

def jsonPathText (path : List JsonStep) : String := if path = [] then "()" else "('telnet',)"

def xmlPathText (path : List String) : String :=
  if path.length = 1 then "('configuration[1]',)" else "('configuration[1]', 'telnet[1]')"

/-- The tree of a JSON document and what the generic profile makes of it. -/
def jsonRun (content : String) (payload : PyValue) :
    Except Error (JsonStructuralIR × InterpretationResult) := do
  let ir ← JsonTree.parse documentSha256 jsonPathText (fun _ => some payload)
    { content, source := exampleSource }
  let result ← interpretJsonStructuralIr removalUuid5 exampleContext ir "generic.json@1.0.0"
    (some Sealed.Generic.json) (some genericJson)
  return (ir, result)

/-- The tree of an XML document and what the Junos profile makes of it. -/
def xmlRun (content : String) (root : MixedElement) :
    Except Error (XmlStructuralIR × InterpretationResult) := do
  let ir ← XmlTree.parse documentSha256 xmlPathText wordChar
    (fun content => ((fun _ => some root) content).map (·.element))
    { content, source := exampleSource }
  let result ← interpretXmlStructuralIr removalUuid5 exampleContext ir "juniper.junos.18@1.0.0"
    (some Sealed.Juniper.current) (some juniperJunos18)
  return (ir, result)

/-- `<telnet/>`, in an element with this text before it. -/
def telnetElement (text : Option String) : MixedElement :=
  .mk "configuration" [] text none [.mk "telnet" [] none none []]

/-- Telnet is on where the document has anything at `telnet`. -/
def telnetPresence : MappingDefinition where
  profileApplicability := { profileVersionIds := ["generic.json@1.0.0"] }
  structuralMatch :=
    { operation := .jsonPath, command := "json",
      jsonPath := some
        { path := [{ key := some "telnet" }], source := .presence, valueType := some .boolean } }
  targetFieldId := "management.remote.telnet.enabled"
  valueExtraction := { operation := .booleanFromPresence, outputType := .boolean }
  unitConversion := .none
  scopeResolution := { strategy := .device }
  negationBehavior := .unsupported
  removalBehavior := .unsupported
  defaultBehavior := .unknown
  isValid := by decide +kernel

def telnetMapping : DeclarativeMapping :=
  { mappingId := UUID.ofNat 21, mappingVersionId := UUID.ofNat 22,
    fieldId := "management.remote.telnet.enabled", matcher := { command := "json" },
    extractor := "training_dsl", scopeResolver := "device", declaredValueTypes := [.boolean],
    trainingDefinition := some telnetPresence }

/-- The generic pack with the mapping a reviewer has added. -/
def telnetPack : KnowledgePack := { Sealed.Generic.json with mappings := [telnetMapping] }

def mappedRun : Except Error (JsonStructuralIR × InterpretationResult) := do
  let ir ← JsonTree.parse documentSha256 jsonPathText (fun _ => some (.dict [("telnet", .list [])]))
    { content := "\x7b\"telnet\":[]\x7d", source := exampleSource }
  let result ← interpretJsonStructuralIr removalUuid5 exampleContext ir "generic.json@1.0.0"
    (some telnetPack) (some genericJson)
  return (ir, result)

/-- `<ssh>`, with text before its child. -/
def sshElement : MixedElement :=
  .mk "configuration" [] none none [.mk "system" [] none none [.mk "services" [] none none
    [.mk "ssh" [] (some "v2") none [.mk "root-login" [] none none []]]]]

def sshPathText (path : List String) : String :=
  "(" ++ ", ".intercalate (path.map fun step => "'" ++ step ++ "'") ++
    (if path.length = 1 then ",)" else ")")

/-- The hashes of the five nodes. -/
def sshSha256 : String → String := tabulated
  [("00000000-0000-0000-0000-000000000001|('configuration[1]',)|1",
      "a6140062eecd78b1009d632f9bf0b91001d22321d4ff22e2045504c1376276c9"),
    ("00000000-0000-0000-0000-000000000001|('configuration[1]', 'system[1]')|2",
      "fa2653415d99e91f65c8ff08da0b6837cce96b91f0523475bad8b1ad3721f10b"),
    ("00000000-0000-0000-0000-000000000001|('configuration[1]', 'system[1]', 'services[1]')|3",
      "6e19ef1c62b59452aa857ac15e1bc64ced0060b97d2e2b8c5c227ab6c617c712"),
    ("00000000-0000-0000-0000-000000000001|('configuration[1]', 'system[1]', 'services[1]', " ++
        "'ssh[1]')|4",
      "37f51bed7ade8bac7b98e70dada136269a9fd6bf9eb6db992ab6c73c34f9c4c8"),
    ("00000000-0000-0000-0000-000000000001|('configuration[1]', 'system[1]', 'services[1]', " ++
        "'ssh[1]', 'root-login[1]')|5",
      "1258ee9cc350100d8af6df371010517265b55f75ee8307c591f948a6c4e0ce67")]

def sshRun : Except Error (XmlStructuralIR × InterpretationResult) := do
  let ir ← XmlTree.parse sshSha256 sshPathText wordChar
    (fun content => ((fun _ => some sshElement) content).map (·.element))
    { content := "<configuration><system><services><ssh>v2<root-login/></ssh></services></system>" ++
        "</configuration>", source := exampleSource }
  let result ← interpretXmlStructuralIr removalUuid5 exampleContext ir "juniper.junos.18@1.0.0"
    (some Sealed.Juniper.current) (some juniperJunos18)
  return (ir, result)

/-- The mapping of `management.remote.ssh.enabled` gives a fact on the node. -/
theorem yields_ssh {ir : XmlStructuralIR} {node : XmlNode}
    (hmatch : (sshDefinition.structuralMatch.xmlPath.map fun source =>
      ((matchXmlNode source node).toOption, hasUnsupportedQualifier sshDefinition ir node)) =
        some (some (some []), false)) : XmlYieldsSome Sealed.Juniper.current ir node := by
  obtain ⟨source, hsource, hfound⟩ := Option.map_eq_some_iff.mp hmatch
  obtain ⟨hcaptures, hqualifier⟩ := Prod.mk.inj hfound
  have houtput : (structuredOutput sshDefinition []).isOk = true := by decide +kernel
  obtain ⟨output, hok⟩ := exists_of_isOk houtput
  exact ⟨_, List.mem_cons_self, sshDefinition, [], rfl,
    ⟨source, rfl, hsource, toOption_eq_some.mp hcaptures⟩, hqualifier, output, hok⟩

/-- An empty list whose presence is mapped, and a text before a child whose presence is mapped. -/
theorem structured_evidence_covered_mapped :
    (∃ ir result, mappedRun = .ok (ir, result) ∧
      JsonCovered (.dict [("telnet", .list [])]) ir result) ∧
    ∃ ir result, sshRun = .ok (ir, result) ∧ XmlCovered sshElement ir result := by
  constructor
  · obtain ⟨⟨ir, result⟩, hok, hcheck⟩ : ∃ run, mappedRun = .ok run ∧
        decide (run.1.truncated = false ∧
          (run.1.nodes.map fun node => hashedId documentSha256 "jsonn_"
            (JsonTree.identityOf jsonPathText node)).Nodup) = true :=
      exists_of_toOption (by decide +kernel)
    obtain ⟨hwhole, hhash⟩ := of_decide_eq_true hcheck
    refine ⟨ir, result, hok, ?_⟩
    simp only [mappedRun, except_bind_eq_ok, except_pure_eq_ok] at hok
    obtain ⟨_, hparse, _, hrun, hpair⟩ := hok
    obtain ⟨rfl, rfl⟩ := Prod.mk.inj hpair
    refine ((structured_evidence_covered_iff documentSha256 removalUuid5 exampleContext telnetPack
      genericJson "generic.json@1.0.0" _ _).1 _ _ _ _ hparse hwhole rfl
        (hashesApart_of_nodup hhash) hrun).mpr ?_
    intro path value hmem hempty
    simp only [values, itemValues, entryValues, List.append_nil, List.mem_cons, List.not_mem_nil,
      or_false, Prod.mk.injEq] at hmem
    rcases hmem with ⟨rfl, rfl⟩ | ⟨rfl, rfl⟩
    · simp at hempty
    · have houtput : (structuredOutput telnetPresence []).isOk = true := by decide +kernel
      obtain ⟨output, houtput⟩ := exists_of_isOk houtput
      exact ⟨telnetMapping, List.mem_cons_self, telnetPresence, _, [], rfl, rfl, rfl, rfl, rfl, rfl,
        output, houtput⟩
  · obtain ⟨⟨ir, result⟩, hok, hcheck⟩ : ∃ run, sshRun = .ok run ∧
        decide (run.1.truncated = false ∧
          (run.1.nodes.map fun node => hashedId sshSha256 "xmln_"
            (XmlTree.identityOf sshPathText node)).Nodup ∧
          ((run.1.nodes[3]?).bind fun node => sshDefinition.structuralMatch.xmlPath.map fun source =>
            ((matchXmlNode source node).toOption,
              hasUnsupportedQualifier sshDefinition run.1 node)) =
                some (some (some []), false)) = true :=
      exists_of_toOption (by decide +kernel)
    obtain ⟨hwhole, hhash, hmapped⟩ := of_decide_eq_true hcheck
    refine ⟨ir, result, hok, ?_⟩
    simp only [sshRun, except_bind_eq_ok, except_pure_eq_ok] at hok
    obtain ⟨_, hparse, _, hrun, hpair⟩ := hok
    obtain ⟨rfl, rfl⟩ := Prod.mk.inj hpair
    refine ((structured_evidence_covered_iff sshSha256 removalUuid5 exampleContext
      Sealed.Juniper.current juniperJunos18 "juniper.junos.18@1.0.0" _ _).2 _ _ _ _ _ hparse hwhole
        rfl (hashesApart_of_nodup hhash) hrun).mpr ?_
    intro i e hi htext
    have hall : (sshElement.elements.zipIdx.all fun p => (textOf p.1).isEmpty || (p.2 == 3 &&
        p.1.children.all fun child => (charactersOf child.tail).all Text.isSpace)) = true := by
      decide +kernel
    have hssh : ∀ p ∈ sshElement.elements.zipIdx, textOf p.1 ≠ [] → p.2 = 3 ∧
        ∀ child ∈ p.1.children, ∀ c ∈ charactersOf child.tail, Text.isSpace c = true := by
      intro p hp hne
      have hp := List.all_eq_true.mp hall p hp
      simpa [hne] using hp
    obtain ⟨rfl, htails⟩ := hssh (e, i) (List.mem_zipIdx_iff_getElem?.mpr hi) htext
    refine ⟨htails, fun _ => ?_⟩
    obtain ⟨node, hnode, hmatch⟩ := Option.bind_eq_some_iff.mp hmapped
    exact ⟨node, hnode, yields_ssh hmatch⟩

/-- Neither an empty list nor the text before a child is accounted for. -/
theorem structured_evidence_lost :
    (∃ ir result, jsonRun "\x7b\"telnet\":[]\x7d" (.dict [("telnet", .list [])]) =
        .ok (ir, result) ∧ ir.truncated = false ∧
        HashesApart documentSha256 "jsonn_" (JsonTree.identityOf jsonPathText) ir.nodes ∧
        ¬JsonCovered (.dict [("telnet", .list [])]) ir result) ∧
      ∃ ir result, xmlRun "<configuration>services<telnet/></configuration>"
          (telnetElement (some "services")) = .ok (ir, result) ∧ ir.truncated = false ∧
        HashesApart documentSha256 "xmln_" (XmlTree.identityOf xmlPathText) ir.nodes ∧
        ¬XmlCovered (telnetElement (some "services")) ir result := by
  constructor
  · obtain ⟨run, hok, hcheck⟩ : ∃ run, jsonRun "\x7b\"telnet\":[]\x7d"
        (.dict [("telnet", .list [])]) = .ok run ∧ decide (run.1.truncated = false ∧
          (run.1.nodes.map fun node => hashedId documentSha256 "jsonn_"
            (JsonTree.identityOf jsonPathText node)).Nodup ∧ run.2.facts = [] ∧
          run.2.unresolvedNodeIds = []) = true :=
      exists_of_toOption (by decide +kernel)
    obtain ⟨hwhole, hhash, hfacts, hopen⟩ := of_decide_eq_true hcheck
    refine ⟨run.1, run.2, hok, hwhole, hashesApart_of_nodup hhash, fun hcovered => ?_⟩
    obtain ⟨node, -, -, -, ⟨fact, hfact, -⟩ | hunresolved⟩ := hcovered 1 [.key "telnet"] (.list [])
      rfl rfl
    · rw [hfacts] at hfact
      cases hfact
    · rw [hopen] at hunresolved
      cases hunresolved
  · obtain ⟨run, hok, hcheck⟩ : ∃ run,
        xmlRun "<configuration>services<telnet/></configuration>"
          (telnetElement (some "services")) = .ok run ∧ decide (run.1.truncated = false ∧
          (run.1.nodes.map fun node => hashedId documentSha256 "xmln_"
            (XmlTree.identityOf xmlPathText node)).Nodup ∧ run.2.facts = [] ∧
          ∀ id ∈ run.2.unresolvedNodeIds, run.1.nodes.head?.map (·.nodeId) ≠ some id) = true :=
      exists_of_toOption (by decide +kernel)
    obtain ⟨hwhole, hhash, hfacts, hopen⟩ := of_decide_eq_true hcheck
    refine ⟨run.1, run.2, hok, hwhole, hashesApart_of_nodup hhash, fun hcovered => ?_⟩
    obtain ⟨node, hnode, -, -, ⟨fact, hfact, -⟩ | hunresolved⟩ :=
      hcovered 0 (telnetElement (some "services")) rfl (.inr (by decide +kernel))
    · rw [hfacts] at hfact
      cases hfact
    · rw [← List.head?_eq_getElem?] at hnode
      exact hopen node.nodeId hunresolved (by rw [hnode]; rfl)

end ConfigAuditor.Interpretation.Coverage
