import ConfigAuditor.Interpretation.BlockColumns
import ConfigAuditor.Interpretation.FailClosed

/-!
# Blocks that fit their table

The structured formats cut the text of a block to the width of its column; a command
line is stored whole. A run fits its table exactly when no line it must report is longer
than the column.
-/
namespace ConfigAuditor.Interpretation.BlockFit

open Library SecurityModel Parsing KnowledgePacks Training.Dsl Training.Matcher
  ProfileResolution Compliance.Model Mapping Service UnresolvedBlocks Outcomes BlockColumns

/-! ## Interpreted trees -/

def artifactIdOf : ParsedIr → UUID
  | .cli ir => ir.source.artifactId
  | .xml ir => ir.source.artifactId
  | .json ir => ir.source.artifactId

section Trees

variable (uuid5 : UUID → String → UUID) (context : InterpretationContext)
  (profileVersionId : String) (profile : ProfileManifest) (pack : KnowledgePack)

/-- A tree a reader may return, with the result of its interpreter. -/
inductive Interpreted : ParsedIr × InterpretationResult → Prop
  | cli {ir : StructuralIR} {result : InterpretationResult} (hwf : ir.WellFormed)
    (hrun : interpretStructuralIr uuid5 context ir profileVersionId (some pack) (some profile) =
      .ok result) : Interpreted (.cli ir, result)
  | xml {ir : XmlStructuralIR} {result : InterpretationResult}
    (hids : (ir.nodes.map (·.nodeId)).Nodup)
    (hrun : interpretXmlStructuralIr uuid5 context ir profileVersionId (some pack)
      (some profile) = .ok result) : Interpreted (.xml ir, result)
  | json {ir : JsonStructuralIR} {result : InterpretationResult}
    (hids : (ir.nodes.map (·.nodeId)).Nodup)
    (hrun : interpretJsonStructuralIr uuid5 context ir profileVersionId (some pack)
      (some profile) = .ok result) : Interpreted (.json ir, result)

end Trees

/-- What the blocks of a tree rest on, whatever its format. -/
structure Reportable (tree : ParsedIr × InterpretationResult) : Prop where
  nodup : (tree.1.evidence.map (·.nodeId)).Nodup
  artifact : ∀ node ∈ tree.1.evidence, node.artifactId = artifactIdOf tree.1
  codes : ∀ d ∈ tree.2.diagnostics, d.code.length ≤ 128
  unresolved : tree.2.unresolvedNodeIds.Sublist (tree.1.evidence.map (·.nodeId))

section Reporting

variable {uuid5 : UUID → String → UUID} {context : InterpretationContext}
  {profileVersionId : String} {profile : ProfileManifest} {pack : KnowledgePack}

theorem requireProvenance_eq_ok {consistent : Bool} {format : String} {u : Unit} :
    requireProvenance consistent format = .ok u ↔ consistent = true := by
  simp [requireProvenance]

theorem cli_artifact {ir : StructuralIR} {result : InterpretationResult}
    (h : interpretStructuralIr uuid5 context ir profileVersionId (some pack) (some profile) =
      .ok result) : ∀ node ∈ ir.nodes, node.artifactId = ir.source.artifactId := by
  simp only [interpretStructuralIr, except_bind_eq_ok, requireProvenance_eq_ok, Bool.and_eq_true,
    List.all_eq_true, beq_iff_eq] at h
  obtain ⟨_, -, _, ⟨-, hartifact⟩, -⟩ := h
  exact hartifact

theorem xml_artifact {ir : XmlStructuralIR} {result : InterpretationResult}
    (h : interpretXmlStructuralIr uuid5 context ir profileVersionId (some pack) (some profile) =
      .ok result) : ∀ node ∈ ir.nodes, node.source.artifactId = ir.source.artifactId := by
  simp only [interpretXmlStructuralIr, except_bind_eq_ok, requireProvenance_eq_ok,
    Bool.and_eq_true, List.all_eq_true, beq_iff_eq] at h
  obtain ⟨_, -, _, ⟨-, hartifact⟩, -⟩ := h
  exact hartifact

theorem json_artifact {ir : JsonStructuralIR} {result : InterpretationResult}
    (h : interpretJsonStructuralIr uuid5 context ir profileVersionId (some pack) (some profile) =
      .ok result) : ∀ node ∈ ir.nodes, node.source.artifactId = ir.source.artifactId := by
  simp only [interpretJsonStructuralIr, except_bind_eq_ok, requireProvenance_eq_ok,
    Bool.and_eq_true, List.all_eq_true, beq_iff_eq] at h
  obtain ⟨_, -, _, ⟨-, hartifact⟩, -⟩ := h
  exact hartifact

/-- Nodes picked from a list keep the order of their ids. -/
theorem ids_sublist {ν : Type} {nodeId : ν → String} {p q : ν → Bool} {nodes : List ν} :
    (((nodes.filter p).filter q).map nodeId).Sublist (nodes.map nodeId) :=
  (List.filter_sublist.trans List.filter_sublist).map nodeId

theorem reportable_of_cli {ir : StructuralIR} {result : InterpretationResult}
    (hwf : ir.WellFormed) (hrun : interpretStructuralIr uuid5 context ir profileVersionId
      (some pack) (some profile) = .ok result) : Reportable (.cli ir, result) := by
  have hartifact := cli_artifact hrun
  obtain ⟨-, attempts, hattempts, rfl⟩ := interpretStructuralIr_ok hrun
  have hids : (ParsedIr.cli ir).evidence.map (·.nodeId) = ir.nodes.map (·.nodeId) := by
    simp [ParsedIr.evidence, configEvidence]
  refine ⟨hids ▸ hwf.nodup, ?_, ?_, ?_⟩
  · simpa [ParsedIr.evidence, configEvidence, artifactIdOf] using hartifact
  · intro d hd
    obtain ⟨attempt, hmem, houtcome⟩ := code_of_mem_diagnosticsOf (List.mem_eraseDups.mp hd)
    obtain ⟨⟨node, mapping⟩, -, hone⟩ := mapM_exists_input hattempts hmem
    obtain ⟨outcome, hpair, hone⟩ := except_bind_eq_ok.mp hone
    obtain rfl := except_pure_eq_ok.mp hone
    exact shortCode_interpretPair (hpair.trans (congrArg Except.ok houtcome)) _ rfl
  · rw [hids]
    exact ids_sublist

theorem reportable_of_xml {ir : XmlStructuralIR} {result : InterpretationResult}
    (hids : (ir.nodes.map (·.nodeId)).Nodup) (hrun : interpretXmlStructuralIr uuid5 context ir
      profileVersionId (some pack) (some profile) = .ok result) :
    Reportable (.xml ir, result) := by
  have hartifact := xml_artifact hrun
  obtain ⟨-, groups, hgroups, rfl⟩ := interpretXmlStructuralIr_ok hrun
  have hview : (ParsedIr.xml ir).evidence.map (·.nodeId) = ir.nodes.map (·.nodeId) := by
    simp [ParsedIr.evidence, xmlEvidence]
  refine ⟨hview ▸ hids, ?_, ?_, ?_⟩
  · simpa [ParsedIr.evidence, xmlEvidence, artifactIdOf] using hartifact
  · intro d hd
    obtain ⟨attempt, hmem, houtcome⟩ := code_of_mem_diagnosticsOf hd
    exact shortCode_structured (fun _ _ _ _ _ => shortCode_interpretXmlMatch) hgroups hmem
      houtcome _ rfl
  · rw [hview]
    exact ids_sublist

theorem reportable_of_json {ir : JsonStructuralIR} {result : InterpretationResult}
    (hids : (ir.nodes.map (·.nodeId)).Nodup) (hrun : interpretJsonStructuralIr uuid5 context ir
      profileVersionId (some pack) (some profile) = .ok result) :
    Reportable (.json ir, result) := by
  have hartifact := json_artifact hrun
  have hview : (ParsedIr.json ir).evidence.map (·.nodeId) = ir.nodes.map (·.nodeId) := by
    simp [ParsedIr.evidence, jsonEvidence]
  have hnodup : ((ParsedIr.json ir).evidence.map (·.nodeId)).Nodup := hview ▸ hids
  have hsource : ∀ node ∈ (ParsedIr.json ir).evidence,
      node.artifactId = artifactIdOf (.json ir) := by
    simpa [ParsedIr.evidence, jsonEvidence, artifactIdOf] using hartifact
  obtain ⟨-, ⟨-, rfl⟩ | ⟨-, groups, hgroups, rfl⟩⟩ := interpretJsonStructuralIr_ok hrun
  · refine ⟨hnodup, hsource, ?_, ?_⟩
    · intro d hd
      obtain ⟨node, -, rfl⟩ := List.mem_map.mp hd
      show "json_evidence_incomplete".length ≤ 128
      decide
    · rw [hview]
      exact List.filter_sublist.map _
  · refine ⟨hnodup, hsource, ?_, ?_⟩
    · intro d hd
      obtain ⟨attempt, hmem, houtcome⟩ := code_of_mem_diagnosticsOf hd
      exact shortCode_structured (fun _ _ _ _ _ => shortCode_interpretJsonMatch) hgroups hmem
        houtcome _ rfl
    · rw [hview]
      exact ids_sublist

theorem Interpreted.reportable {tree : ParsedIr × InterpretationResult}
    (h : Interpreted uuid5 context profileVersionId profile pack tree) : Reportable tree := by
  cases h with
  | cli hwf hrun => exact reportable_of_cli hwf hrun
  | xml hids hrun => exact reportable_of_xml hids hrun
  | json hids hrun => exact reportable_of_json hids hrun

end Reporting

/-! ## The nodes that get a block -/

/-- The nodes the unresolved ids of a tree name. -/
def unresolvedEvidence (tree : ParsedIr × InterpretationResult) : List EvidenceNode :=
  tree.2.unresolvedNodeIds.filterMap fun id => tree.1.evidence.find? (·.nodeId == id)

/-- The nodes that get a block. -/
def blockNodes (profile : Option ProfileManifest) (tree : ParsedIr × InterpretationResult) :
    List EvidenceNode :=
  (unresolvedEvidence tree).filter fun node => !identityOnly profile node

section Nodes

variable {tree : ParsedIr × InterpretationResult}

theorem find_evidence (h : Reportable tree) {node : EvidenceNode} (hnode : node ∈ tree.1.evidence) :
    tree.1.evidence.find? (·.nodeId == node.nodeId) = some node := by
  cases hfind : tree.1.evidence.find? (·.nodeId == node.nodeId) with
  | none => simpa using List.find?_eq_none.mp hfind node hnode
  | some found =>
    have hid : found.nodeId = node.nodeId := by simpa using List.find?_some hfind
    rw [List.inj_on_of_nodup_map h.nodup (List.mem_of_find?_eq_some hfind) hnode hid]

theorem exists_evidence (h : Reportable tree) {id : String}
    (hid : id ∈ tree.2.unresolvedNodeIds) :
    ∃ node ∈ tree.1.evidence, node.nodeId = id := by
  obtain ⟨node, hnode, hnodeId⟩ := List.mem_map.mp (h.unresolved.subset hid)
  exact ⟨node, hnode, hnodeId⟩

theorem mem_unresolvedEvidence (h : Reportable tree) {node : EvidenceNode} :
    node ∈ unresolvedEvidence tree ↔
      node ∈ tree.1.evidence ∧ node.nodeId ∈ tree.2.unresolvedNodeIds := by
  rw [unresolvedEvidence, List.mem_filterMap]
  constructor
  · rintro ⟨id, hid, hfind⟩
    have hnodeId : node.nodeId = id := by simpa using List.find?_some hfind
    exact ⟨List.mem_of_find?_eq_some hfind, hnodeId ▸ hid⟩
  · rintro ⟨hnode, hid⟩
    exact ⟨node.nodeId, hid, find_evidence h hnode⟩

/-- Looking up the unresolved ids succeeds, and finds their nodes in order. -/
theorem unresolvedEvidence_spec (h : Reportable tree) :
    List.Forall₂ (fun id node => evidenceNode tree.1 id = .ok node ∧ node.nodeId = id)
      tree.2.unresolvedNodeIds (unresolvedEvidence tree) := by
  have hmem : ∀ id ∈ tree.2.unresolvedNodeIds, ∃ node ∈ tree.1.evidence, node.nodeId = id :=
    fun id => exists_evidence h
  unfold unresolvedEvidence
  generalize tree.2.unresolvedNodeIds = ids at hmem ⊢
  induction ids with
  | nil => exact .nil
  | cons id rest ih =>
    obtain ⟨node, hnode, rfl⟩ := hmem id List.mem_cons_self
    rw [List.filterMap_cons_some
      (f := fun id => tree.1.evidence.find? (·.nodeId == id)) (find_evidence h hnode)]
    refine .cons ⟨?_, rfl⟩ (ih fun id hid => hmem id (List.mem_cons_of_mem _ hid))
    rw [evidenceNode, find_evidence h hnode]
    rfl

theorem lookup_unresolved (h : Reportable tree) :
    tree.2.unresolvedNodeIds.mapM (evidenceNode tree.1) = .ok (unresolvedEvidence tree) :=
  mapM_eq_ok.mpr ((unresolvedEvidence_spec h).imp fun _ _ hnode => hnode.1)

theorem unresolvedEvidence_ids (h : Reportable tree) :
    (unresolvedEvidence tree).map (·.nodeId) = tree.2.unresolvedNodeIds :=
  mapM_map (lookup_unresolved h) (k := id) (fun id node hnode => by
    unfold evidenceNode at hnode
    split at hnode
    · rename_i hfind
      obtain rfl := except_pure_eq_ok.mp hnode
      simpa using List.find?_some hfind
    · cases hnode) |>.trans (List.map_id _)

theorem blockNodes_nodup (h : Reportable tree) (profile : Option ProfileManifest) :
    ((blockNodes profile tree).map (·.nodeId)).Nodup := by
  have hids : ((unresolvedEvidence tree).map (·.nodeId)).Nodup := by
    rw [unresolvedEvidence_ids h]
    exact h.nodup.sublist h.unresolved
  exact hids.sublist (List.filter_sublist.map _)

theorem blockNodes_artifact (h : Reportable tree) {profile : Option ProfileManifest}
    {node : EvidenceNode} (hnode : node ∈ blockNodes profile tree) :
    node.artifactId = artifactIdOf tree.1 :=
  h.artifact node ((mem_unresolvedEvidence h).mp (List.mem_filter.mp hnode).1).1

end Nodes

/-! ## The rows of a run -/

section Rows

variable {reprPath : List JsonStep → String} {reprValue : PyValue → String}
  {sha256 : String → String} {organizationId : UUID} {context : InterpretationContext}
  {profileId profileVersionId : String} {profile : Option ProfileManifest} {pack : KnowledgePack}
  {trees : List (ParsedIr × InterpretationResult)}
  {unsupported : List (UnsupportedArtifact × String)}

/-- The hashed text of a fingerprint. -/
def fingerprintText (context : InterpretationContext) (artifactId : UUID) (label : String) :
    String := context.auditId.str ++ ":" ++ artifactId.str ++ ":" ++ label

/-- What the blocks of a run are told apart by: an artifact and a label in it. -/
def blockLabels (profile : Option ProfileManifest) (trees : List (ParsedIr × InterpretationResult))
    (unsupported : List (UnsupportedArtifact × String)) : List (UUID × String) :=
  trees.flatMap (fun tree => (blockNodes profile tree).map fun node =>
    (artifactIdOf tree.1, node.nodeId)) ++
  unsupported.map fun artifact => (artifact.1.artifactId, "unsupported-artifact")

/-- The rows of a run over reported trees. -/
theorem runRows_eq (h : ∀ tree ∈ trees, Reportable tree) :
    runRows reprPath reprValue sha256 organizationId context profileId profileVersionId profile
        pack trees unsupported =
      .ok (trees.flatMap (fun tree => (blockNodes profile tree).map
          (nodeRow reprPath reprValue sha256 organizationId context profileId profileVersionId
            profile pack tree)) ++
        unsupported.map
          (artifactRow sha256 organizationId context profileId profileVersionId profile)) := by
  have htrees : trees.mapM (treeRows reprPath reprValue sha256 organizationId context profileId
      profileVersionId profile pack) = .ok (trees.map fun tree => (blockNodes profile tree).map
        (nodeRow reprPath reprValue sha256 organizationId context profileId profileVersionId
          profile pack tree)) := by
    rw [mapM_eq_ok, List.forall₂_map_right_iff, List.forall₂_same]
    intro tree htree
    simp only [treeRows, lookup_unresolved (h tree htree), except_bind_eq_ok, except_pure_eq_ok]
    exact ⟨_, rfl, rfl⟩
  simp only [runRows, htrees, except_bind_eq_ok, except_pure_eq_ok]
  exact ⟨_, rfl, by rw [List.flatMap_def]⟩

theorem runRows_fingerprints (h : ∀ tree ∈ trees, Reportable tree) {rows : List BlockRow}
    (hrows : runRows reprPath reprValue sha256 organizationId context profileId profileVersionId
      profile pack trees unsupported = .ok rows) :
    rows.map (·.block.fingerprint) = (blockLabels profile trees unsupported).map fun label =>
      sha256 (fingerprintText context label.1 label.2) := by
  rw [runRows_eq h] at hrows
  obtain rfl := Except.ok.inj hrows
  simp only [blockLabels, List.map_append, List.map_flatMap, List.map_map]
  refine congrArg₂ (· ++ ·) (List.flatMap_congr fun tree htree => ?_) ?_
  · refine List.map_congr_left fun node hnode => ?_
    show sha256 (fingerprintText context node.artifactId node.nodeId) = _
    rw [blockNodes_artifact (h tree htree) hnode]
    rfl
  · exact List.map_congr_left fun artifact _ => rfl

/-- The texts of two fingerprints of an audit differ when their labels do. -/
theorem fingerprintText_injective {a b : UUID} {la lb : String}
    (h : fingerprintText context a la = fingerprintText context b lb) : a = b ∧ la = lb := by
  have hchars := congrArg String.toList h
  simp only [fingerprintText, String.toList_append, List.append_assoc] at hchars
  have hrest := List.append_cancel_left (List.append_cancel_left hchars)
  have hsplit := congrArg (Text.splitFirst ':') hrest
  have hcolon : (":" : String).toList = [':'] := rfl
  simp only [hcolon, List.singleton_append] at hsplit
  rw [Text.splitFirst_append _ _ _ a.colon_not_mem_str,
    Text.splitFirst_append _ _ _ b.colon_not_mem_str] at hsplit
  simp only [Option.some.injEq, Prod.mk.injEq, String.toList_inj] at hsplit
  exact ⟨UUID.str_injective hsplit.1, hsplit.2⟩

/-- Every artifact is read or reported once. -/
def ArtifactsApart (trees : List (ParsedIr × InterpretationResult))
    (unsupported : List (UnsupportedArtifact × String)) : Prop :=
  (trees.map (fun tree => artifactIdOf tree.1) ++
    unsupported.map (fun artifact => artifact.1.artifactId)).Nodup

theorem blockLabels_nodup (h : ∀ tree ∈ trees, Reportable tree)
    (hartifacts : ArtifactsApart trees unsupported) :
    (blockLabels profile trees unsupported).Nodup := by
  obtain ⟨htrees, hothers, hapart⟩ := List.nodup_append.mp hartifacts
  refine List.nodup_append.mpr ⟨?_, ?_, ?_⟩
  · refine List.nodup_flatMap.mpr ⟨fun tree htree => ?_, ?_⟩
    · have hids := blockNodes_nodup (h tree htree) profile
      refine List.Nodup.of_map Prod.snd ?_
      simpa [Function.comp_def] using hids
    · rw [List.Nodup, List.pairwise_map] at htrees
      refine htrees.imp fun {tree other} hne => ?_
      refine List.disjoint_left.mpr ?_
      intro label hlabel hother
      obtain ⟨node, -, rfl⟩ := List.mem_map.mp hlabel
      obtain ⟨node', -, heq⟩ := List.mem_map.mp hother
      exact hne (Prod.mk.inj heq).1.symm
  · refine List.Nodup.of_map Prod.fst ?_
    simpa [Function.comp_def] using hothers
  · intro label hlabel other hother heq
    subst heq
    obtain ⟨tree, htree, hlabel⟩ := List.mem_flatMap.mp hlabel
    obtain ⟨node, -, rfl⟩ := List.mem_map.mp hlabel
    obtain ⟨artifact, hartifact, heq⟩ := List.mem_map.mp hother
    exact hapart _ (List.mem_map_of_mem htree) _ (List.mem_map_of_mem hartifact)
      (Prod.mk.inj heq).1.symm

/-- Digests of 64 characters that tell the fingerprinted texts apart. -/
structure Digests (sha256 : String → String) (context : InterpretationContext)
    (labels : List (UUID × String)) : Prop where
  apart : Set.InjOn sha256
    {text | ∃ label ∈ labels, text = fingerprintText context label.1 label.2}
  length : ∀ label ∈ labels, (sha256 (fingerprintText context label.1 label.2)).length = 64

theorem runRows_fingerprints_nodup (h : ∀ tree ∈ trees, Reportable tree)
    (hartifacts : ArtifactsApart trees unsupported)
    (hsha : Digests sha256 context (blockLabels profile trees unsupported)) {rows : List BlockRow}
    (hrows : runRows reprPath reprValue sha256 organizationId context profileId profileVersionId
      profile pack trees unsupported = .ok rows) :
    (rows.map (·.block.fingerprint)).Nodup := by
  rw [runRows_fingerprints h hrows]
  refine List.Nodup.map_on (fun label hlabel other hother heq => ?_)
    (blockLabels_nodup h hartifacts)
  have htext := hsha.apart ⟨label, hlabel, rfl⟩ ⟨other, hother, rfl⟩ heq
  exact Prod.ext_iff.mpr (fingerprintText_injective htext)

/-! ## The widths of a row -/

theorem length_firstChars (n : Nat) (text : String) : (firstChars n text).length ≤ n := by
  simp [firstChars]

theorem length_surroundingContext (tree : ParsedIr) (nodeId : String) :
    (surroundingContext reprPath reprValue tree nodeId).length ≤ 4096 := length_firstChars _ _

/-- The structured formats cut their text. -/
theorem length_rawText_structured {tree : ParsedIr} {nodeId : String}
    (h : ∀ ir, tree ≠ .cli ir) : (rawText reprPath reprValue tree nodeId).length ≤ 2048 := by
  cases tree with
  | cli ir => exact absurd rfl (h ir)
  | xml ir => exact length_firstChars _ _
  | json ir => exact length_firstChars _ _

/-- A command line is stored whole. -/
theorem rawText_cli {ir : StructuralIR} (hwf : ir.WellFormed) {node : ConfigNode}
    (hnode : node ∈ ir.nodes) :
    rawText reprPath reprValue (.cli ir) node.nodeId = node.rawText := by
  have hfind := hwf.node?_self hnode
  unfold StructuralIR.node? at hfind
  simp [rawText, nodeTexts, List.find?_map, Function.comp_def, configText, hfind]

theorem nodeRow_rawText_cli {ir : StructuralIR} {result : InterpretationResult}
    (hwf : ir.WellFormed) {node : ConfigNode} (hnode : node ∈ ir.nodes) :
    (nodeRow reprPath reprValue sha256 organizationId context profileId profileVersionId profile
      pack (.cli ir, result) (configEvidence node)).rawText = node.rawText :=
  rawText_cli hwf hnode

/-- Only the raw text of a node's row can be too long. -/
theorem nodeRow_fits_iff {tree : ParsedIr × InterpretationResult} (h : Reportable tree)
    {node : EvidenceNode} (hnode : node ∈ blockNodes profile tree)
    (hdigest : (sha256 (fingerprintText context (artifactIdOf tree.1) node.nodeId)).length = 64) :
    (nodeRow reprPath reprValue sha256 organizationId context profileId profileVersionId profile
      pack tree node).fits = true ↔
      (rawText reprPath reprValue tree.1 node.nodeId).length ≤ 2048 := by
  have hreason : (nodeBlock sha256 organizationId context profileId profileVersionId profile pack
      tree.2.diagnostics node).unknownReason.length ≤ 128 := by
    simp only [nodeBlock]
    cases hfirst : (tree.2.diagnostics.filter (·.nodeId == some node.nodeId)).head? with
    | none =>
      show "unmapped_syntax".length ≤ 128
      decide
    | some d =>
      exact h.codes d (List.mem_of_mem_filter (List.mem_of_mem_head? hfirst))
  have hfingerprint : (nodeBlock sha256 organizationId context profileId profileVersionId profile
      pack tree.2.diagnostics node).fingerprint.length = 64 := by
    show (sha256 (fingerprintText context node.artifactId node.nodeId)).length = 64
    rw [blockNodes_artifact h hnode]
    exact hdigest
  have hcontext : (surroundingContext reprPath reprValue tree.1 node.nodeId).length ≤ 4096 :=
    length_surroundingContext _ _
  rw [BlockRow.fits_iff]
  exact ⟨fun hfits => hfits.1, fun hraw => ⟨hraw, hcontext, hreason, hfingerprint⟩⟩

theorem artifactRow_fits {artifact : UnsupportedArtifact × String}
    (hdigest : (sha256 (fingerprintText context artifact.1.artifactId
      "unsupported-artifact")).length = 64) :
    (artifactRow sha256 organizationId context profileId profileVersionId profile artifact).fits =
      true := by
  have hreason : "unsupported_configuration_evidence".length ≤ 128 := by decide
  have hraw := length_firstChars 2048 artifact.2
  have hfingerprint : (fingerprintOf sha256 context artifact.1.artifactId
    "unsupported-artifact").length = 64 := hdigest
  exact BlockRow.fits_iff.mpr ⟨hraw, Nat.zero_le _, hreason, hfingerprint⟩

end Rows

/-! ## Runs that fit -/

/-- The new rows fit the columns, and no fingerprint of the audit occurs twice. -/
def RowsFit (existing : List String) (rows : List BlockRow) : Prop :=
  (∀ row ∈ rows, row.fits = true) ∧ (existing ++ rows.map (·.block.fingerprint)).Nodup

@[simp] theorem freshRows_nil (rows : List BlockRow) : freshRows [] rows = rows :=
  List.filter_eq_self.mpr (by simp)

/-- Rows that fit are exactly those the commit accepts. -/
theorem commitRows_eq_ok {existing : List String} {rows stored : List BlockRow} :
    commitRows existing rows = .ok stored ↔ RowsFit existing rows ∧ stored = rows := by
  simp only [commitRows, RowsFit, except_bind_eq_ok, except_pure_eq_ok, raiseIf_eq_ok,
    Bool.not_eq_false', List.all_eq_true, decide_eq_true_eq]
  constructor
  · rintro ⟨_, hfits, _, hnodup, rfl⟩
    exact ⟨⟨hfits, hnodup⟩, rfl⟩
  · rintro ⟨⟨hfits, hnodup⟩, rfl⟩
    exact ⟨(), hfits, (), hnodup, rfl⟩

/-- No line that gets a new block is longer than the column. -/
def LinesFit (sha256 : String → String) (context : InterpretationContext)
    (profile : ProfileManifest) (pack : KnowledgePack) (existing : List String)
    (trees : List (ParsedIr × InterpretationResult)) : Prop :=
  ∀ tree ∈ trees, ∀ ir, tree.1 = .cli ir → ∀ node ∈ ir.nodes, StaysUnresolved pack ir node →
    identityOnly (some profile) (configEvidence node) = false →
    fingerprintOf sha256 context node.artifactId node.nodeId ∉ existing →
      node.rawText.length ≤ 2048

section Fit

variable {uuid5 : UUID → String → UUID} {reprPath : List JsonStep → String}
  {reprValue : PyValue → String} {sha256 : String → String} {organizationId : UUID}
  {context : InterpretationContext} {profileId profileVersionId : String}
  {profile : ProfileManifest} {pack : KnowledgePack}

/-- The blocks of an interpreted tree of command lines. -/
theorem mem_blockNodes_cli {ir : StructuralIR} {result : InterpretationResult}
    (hwf : ir.WellFormed) (hrun : interpretStructuralIr uuid5 context ir profileVersionId
      (some pack) (some profile) = .ok result) {view : EvidenceNode} :
    view ∈ blockNodes (some profile) (.cli ir, result) ↔
      ∃ node ∈ ir.nodes, view = configEvidence node ∧ StaysUnresolved pack ir node ∧
        identityOnly (some profile) (configEvidence node) = false := by
  have hreportable := reportable_of_cli hwf hrun
  obtain ⟨-, attempts, hattempts, rfl⟩ := interpretStructuralIr_ok hrun
  rw [blockNodes, List.mem_filter, mem_unresolvedEvidence hreportable, Bool.not_eq_true']
  simp only [ParsedIr.evidence, List.mem_map]
  constructor
  · rintro ⟨⟨⟨node, hnode, rfl⟩, hopen⟩, hidentity⟩
    exact ⟨node, hnode, rfl, (mem_unresolvedNodeIds hwf hattempts hnode).mp hopen, hidentity⟩
  · rintro ⟨node, hnode, rfl, hopen, hidentity⟩
    exact ⟨⟨⟨node, hnode, rfl⟩, (mem_unresolvedNodeIds hwf hattempts hnode).mpr hopen⟩, hidentity⟩

/-- The row of a node fits exactly when it is no command line that is too long. -/
theorem nodeRow_fits_of_lines {existing : List String}
    {trees : List (ParsedIr × InterpretationResult)} (hlines : LinesFit sha256 context profile pack
      existing trees) {tree : ParsedIr × InterpretationResult} (htree : tree ∈ trees)
    (h : Interpreted uuid5 context profileVersionId profile pack tree) {node : EvidenceNode}
    (hnode : node ∈ blockNodes (some profile) tree)
    (hdigest : (sha256 (fingerprintText context (artifactIdOf tree.1) node.nodeId)).length = 64)
    (hfresh : fingerprintOf sha256 context node.artifactId node.nodeId ∉ existing) :
    (nodeRow reprPath reprValue sha256 organizationId context profileId profileVersionId
      (some profile) pack tree node).fits = true := by
  rw [nodeRow_fits_iff h.reportable hnode hdigest]
  cases h with
  | cli hwf hrun =>
    obtain ⟨line, hline, rfl, hopen, hidentity⟩ := (mem_blockNodes_cli hwf hrun).mp hnode
    show (rawText reprPath reprValue (.cli _) line.nodeId).length ≤ 2048
    rw [rawText_cli hwf hline]
    exact hlines _ htree _ rfl line hline hopen hidentity hfresh
  | xml hids hrun => exact length_rawText_structured fun _ hcli => nomatch hcli
  | json hids hrun => exact length_rawText_structured fun _ hcli => nomatch hcli

variable {trees : List (ParsedIr × InterpretationResult)}
  {unsupported : List (UnsupportedArtifact × String)} {existing : List String}
  {rows : List BlockRow}

theorem linesFit_of_rowsFit
    (htrees : ∀ tree ∈ trees, Interpreted uuid5 context profileVersionId profile pack tree)
    (hrows : runRows reprPath reprValue sha256 organizationId context profileId profileVersionId
      (some profile) pack trees unsupported = .ok rows)
    (hfit : RowsFit existing (freshRows existing rows)) :
    LinesFit sha256 context profile pack existing trees := by
  rw [runRows_eq fun tree htree => (htrees tree htree).reportable] at hrows
  obtain rfl := Except.ok.inj hrows
  rintro ⟨parsed, result⟩ htree ir rfl node hnode hopen hidentity hnew
  cases htrees _ htree with
  | cli hwf hrun =>
    have hview := (mem_blockNodes_cli hwf hrun).mpr ⟨node, hnode, rfl, hopen, hidentity⟩
    have hrow := hfit.1 _ (List.mem_filter.mpr ⟨List.mem_append_left _ (List.mem_flatMap.mpr
      ⟨_, htree, List.mem_map_of_mem hview⟩), by simpa [nodeRow, nodeBlock, configEvidence]
        using hnew⟩)
    have hraw := (BlockRow.fits_iff.mp hrow).1
    rwa [nodeRow_rawText_cli hwf hnode] at hraw

theorem rowsFit_of_linesFit
    (htrees : ∀ tree ∈ trees, Interpreted uuid5 context profileVersionId profile pack tree)
    (hartifacts : ArtifactsApart trees unsupported)
    (hsha : Digests sha256 context (blockLabels (some profile) trees unsupported))
    (hexisting : existing.Nodup)
    (hrows : runRows reprPath reprValue sha256 organizationId context profileId profileVersionId
      (some profile) pack trees unsupported = .ok rows)
    (hlines : LinesFit sha256 context profile pack existing trees) :
    RowsFit existing (freshRows existing rows) := by
  have hreport : ∀ tree ∈ trees, Reportable tree := fun tree htree => (htrees tree htree).reportable
  have hnodup := runRows_fingerprints_nodup hreport hartifacts hsha hrows
  constructor
  · rw [runRows_eq hreport] at hrows
    obtain rfl := Except.ok.inj hrows
    intro row hrow
    obtain ⟨hrow, hnew⟩ := List.mem_filter.mp hrow
    rcases List.mem_append.mp hrow with hrow | hrow
    · obtain ⟨tree, htree, hrow⟩ := List.mem_flatMap.mp hrow
      obtain ⟨node, hnode, rfl⟩ := List.mem_map.mp hrow
      have hlabel : (artifactIdOf tree.1, node.nodeId) ∈
          blockLabels (some profile) trees unsupported :=
        List.mem_append_left _ (List.mem_flatMap.mpr
          ⟨tree, htree, List.mem_map.mpr ⟨node, hnode, rfl⟩⟩)
      have hdigest := hsha.length _ hlabel
      have hfresh : fingerprintOf sha256 context node.artifactId node.nodeId ∉ existing := by
        simpa [nodeRow, nodeBlock] using hnew
      exact nodeRow_fits_of_lines hlines htree (htrees tree htree) hnode hdigest hfresh
    · obtain ⟨artifact, hartifact, rfl⟩ := List.mem_map.mp hrow
      have hlabel : (artifact.1.artifactId, "unsupported-artifact") ∈
          blockLabels (some profile) trees unsupported :=
        List.mem_append_right _ (List.mem_map.mpr ⟨artifact, hartifact, rfl⟩)
      have hdigest := hsha.length _ hlabel
      exact artifactRow_fits hdigest
  · refine List.nodup_append.mpr ⟨hexisting, hnodup.sublist (List.filter_sublist.map _), ?_⟩
    rintro fingerprint hknown _ hnew rfl
    obtain ⟨row, hrow, rfl⟩ := List.mem_map.mp hnew
    have hfresh := (List.mem_filter.mp hrow).2
    simp only [Bool.not_eq_true', List.contains_eq_mem, decide_eq_false_iff_not] at hfresh
    exact hfresh hknown

end Fit

/-- A run over trees of readers builds rows that fit their table if and only if no line
that gets a new block has more than 2048 characters. -/
theorem rows_fit_iff_lines_fit (uuid5 : UUID → String → UUID)
    (reprPath : List JsonStep → String) (reprValue : PyValue → String) (sha256 : String → String)
    (organizationId : UUID) (context : InterpretationContext)
    (profileId profileVersionId : String) (profile : ProfileManifest) (pack : KnowledgePack)
    (trees : List (ParsedIr × InterpretationResult))
    (unsupported : List (UnsupportedArtifact × String)) (existing : List String)
    (htrees : ∀ tree ∈ trees, Interpreted uuid5 context profileVersionId profile pack tree)
    (hartifacts : ArtifactsApart trees unsupported)
    (hsha : Digests sha256 context (blockLabels (some profile) trees unsupported))
    (hexisting : existing.Nodup) :
    ∃ rows, runRows reprPath reprValue sha256 organizationId context profileId profileVersionId
        (some profile) pack trees unsupported = .ok rows ∧
      (RowsFit existing (freshRows existing rows) ↔
        LinesFit sha256 context profile pack existing trees) := by
  refine ⟨_, runRows_eq fun tree htree => (htrees tree htree).reportable, ?_, ?_⟩
  · exact linesFit_of_rowsFit htrees (runRows_eq fun tree htree => (htrees tree htree).reportable)
  · exact rowsFit_of_linesFit htrees hartifacts hsha hexisting
      (runRows_eq fun tree htree => (htrees tree htree).reportable)

/-- A removal, which gets no block, and a line that no mapping knows. -/
def shortLineRequest : StructuralParseRequest :=
  { content := "no ntp server 192.0.2.1\ncdp run\n", source := FailClosed.exampleSource }

/-- The hashes of the two nodes, and of the block of the second. -/
def shortLineSha256 : String → String := tabulated
  [("00000000-0000-0000-0000-000000000001\x1findentation_cli.v1\x1f1\x1f1\x1f1\x1froot\x1f" ++
      "no ntp server 192.0.2.1",
      "ca56aea3f696e7f3133a94ad95e8f482254848f98513ae17253194543ea31ca8"),
    ("00000000-0000-0000-0000-000000000001\x1findentation_cli.v1\x1f2\x1f2\x1f2\x1froot\x1f" ++
      "cdp run",
      "c4424bf449bd40b23aca7ebcb5dc2999c42432ca999aeb2ea9855e3e91a47252"),
    ("00000000-0000-0000-0000-000000000002:00000000-0000-0000-0000-000000000001:" ++
      "irn_c4424bf449bd40b23aca7ebcb5dc2999",
      "4c28fdfdb3b27f2ba23f7d04c15e70b19ea0cfbea126ba08d5d0f2c895c8cd38")]

def shortLineIr : StructuralIR := IndentationCli.parse shortLineSha256 shortLineRequest

theorem shortLineIr_wellFormed : shortLineIr.WellFormed :=
  IndentationCli.parse_wellFormed (hashesApart_of_nodup (by decide +kernel))

def shortLineRun : Except Error (InterpretationResult × List BlockRow) := do
  let result ← interpretStructuralIr FailClosed.removalUuid5 FailClosed.exampleContext shortLineIr
    "cisco.ios_xe.17@1.0.0" (some Sealed.Cisco.current) (some ciscoIosXe17)
  let rows ← runRows (fun _ => "") (fun _ => "") shortLineSha256 (UUID.ofNat 5)
    FailClosed.exampleContext "cisco.ios_xe.17" "cisco.ios_xe.17@1.0.0" (some ciscoIosXe17)
    Sealed.Cisco.current [(.cli shortLineIr, result)] []
  return (result, rows)

/-- The theorem on a command line that is short enough for its block. -/
theorem rows_fit_iff_lines_fit_short : ∃ result rows, shortLineRun = .ok (result, rows) ∧
    rows.map (·.rawText) = ["cdp run"] ∧
    (RowsFit [] (freshRows [] rows) ↔ LinesFit shortLineSha256 FailClosed.exampleContext
      ciscoIosXe17 Sealed.Cisco.current [] [(.cli shortLineIr, result)]) := by
  obtain ⟨⟨result, rows⟩, hok, hfacts⟩ : ∃ run, shortLineRun = .ok run ∧
      (run.2.map (·.rawText), blockLabels (some ciscoIosXe17) [(.cli shortLineIr, run.1)] []) =
        (["cdp run"], [(UUID.ofNat 1, "irn_c4424bf449bd40b23aca7ebcb5dc2999")]) :=
    exists_of_toOption (by decide +kernel)
  obtain ⟨htexts, hlabels⟩ := Prod.mk.inj hfacts
  refine ⟨result, rows, hok, htexts, ?_⟩
  simp only [shortLineRun, except_bind_eq_ok, except_pure_eq_ok] at hok
  obtain ⟨parsed, hrun, found, hrows, hpair⟩ := hok
  obtain ⟨rfl, rfl⟩ := Prod.mk.inj hpair
  have hsha : Digests shortLineSha256 FailClosed.exampleContext
      (blockLabels (some ciscoIosXe17) [(.cli shortLineIr, parsed)] []) := by
    rw [hlabels]
    constructor
    · rintro _ ⟨label, hlabel, rfl⟩ _ ⟨other, hother, rfl⟩ -
      rw [List.mem_singleton.mp hlabel, List.mem_singleton.mp hother]
    · intro label hlabel
      rw [List.mem_singleton.mp hlabel]
      decide +kernel
  obtain ⟨_, hfound, hiff⟩ := rows_fit_iff_lines_fit FailClosed.removalUuid5 (fun _ => "")
    (fun _ => "") shortLineSha256 (UUID.ofNat 5) FailClosed.exampleContext "cisco.ios_xe.17"
    "cisco.ios_xe.17@1.0.0" ciscoIosXe17 Sealed.Cisco.current [(.cli shortLineIr, parsed)] [] []
    (List.forall_mem_singleton.mpr (.cli shortLineIr_wellFormed hrun)) (List.nodup_singleton _)
    hsha List.nodup_nil
  rw [hrows] at hfound
  rwa [← Except.ok.inj hfound] at hiff

/-! ## A long line -/

section LongLine

variable {sha256 : String → String} {n : Nat}

theorem words_replicate (n : Nat) :
    Text.words (List.replicate (n + 1) 'x') = [List.replicate (n + 1) 'x'] := by
  have hletter : Text.isSpace 'x' = false := by decide +kernel
  induction n with
  | zero => decide +kernel
  | succ n ih => exact Text.words_cons_cons hletter hletter ih

theorem lines_replicate (n : Nat) :
    Text.lines (List.replicate (n + 1) 'x') = [List.replicate (n + 1) 'x'] := by
  induction n with
  | zero => decide +kernel
  | succ n ih =>
    rw [List.replicate_succ, Text.lines, ih]
    simp

theorem rstrip_replicate (n : Nat) :
    Text.rstripChars ['\r', '\n'] (List.replicate (n + 1) 'x') = List.replicate (n + 1) 'x' := by
  rw [Text.rstripChars, List.reverse_replicate, List.replicate_succ, List.dropWhile_cons_of_neg
    (by decide), ← List.replicate_succ, List.reverse_replicate]

theorem strip_replicate (n : Nat) :
    Text.stripList Text.isSpace (List.replicate (n + 1) 'x') = List.replicate (n + 1) 'x' := by
  have hdrop : (List.replicate (n + 1) 'x').dropWhile Text.isSpace = List.replicate (n + 1) 'x' := by
    rw [List.replicate_succ, List.dropWhile_cons_of_neg (by decide)]
  rw [Text.stripList, hdrop, List.reverse_replicate, hdrop, List.reverse_replicate]

theorem leadsWith_replicate {pattern : List String} (n : Nat)
    (h : pattern.head?.any (·.toList.head? != some 'x') = true) :
    IndentationCli.leadsWith pattern (List.replicate (n + 1) 'x') = false := by
  cases pattern with
  | nil => cases h
  | cons first rest =>
    rw [IndentationCli.leadsWith, words_replicate, beq_eq_false_iff_ne]
    intro heq
    have hfirst := congrArg (fun texts => texts.head?.bind List.head?) heq
    simp only [List.length_cons, List.take_succ_cons, List.map_cons, List.head?_cons,
      List.replicate_succ, Option.bind_some, List.take_nil] at hfirst
    have hfold : Text.foldCase 'x' = 'x' := by decide
    simp [← hfirst, hfold] at h

/-- A line of letters is read as one statement that stores it whole. -/
theorem readLine_replicate (rest : List (List Char)) (number : Nat) (b : IRBuilder)
    (hroom : b.nodeLimitReached = false) (truncated : Bool) :
    IndentationCli.readLine sha256 (List.replicate (n + 1) 'x') rest number b truncated =
      IndentationCli.readStatement sha256 (List.replicate (n + 1) 'x') number b truncated := by
  have hbanner : IndentationCli.isBanner (List.replicate (n + 1) 'x') = false :=
    leadsWith_replicate n (by decide)
  have hchain : IndentationCli.isCertificateChain (List.replicate (n + 1) 'x') = false :=
    leadsWith_replicate n (by decide)
  have hcomment : (List.replicate (n + 1) 'x').head? ≠ some '!' := by simp [List.replicate_succ]
  simp [IndentationCli.readLine, hroom, strip_replicate, hbanner, hchain, hcomment]

/-- The tree of a source that is one such line. -/
theorem parse_replicate (source : ArtifactProvenance) (hlength : n + 1 ≤ 16384) :
    ∃ node, (IndentationCli.parse sha256
        { content := String.ofList (List.replicate (n + 1) 'x'), source }).nodes = [node] ∧
      node.rawText = String.ofList (List.replicate (n + 1) 'x') ∧ node.kind = .statement ∧
        node.artifactId = source.artifactId := by
  have hinput : IndentationCli.boundedLines (List.replicate (n + 1) 'x') =
      ([List.replicate (n + 1) 'x'], false) := by
    have hbound : n + 1 ≤ IndentationCli.maxInputCharacters := hlength.trans (by decide)
    have hlimit : ¬ IndentationCli.maxSourceLines < 1 := by decide
    have htake : (List.replicate (n + 1) 'x').take IndentationCli.maxInputCharacters =
        List.replicate (n + 1) 'x' := List.take_of_length_le (by simpa using hbound)
    have hfirst : [List.replicate (n + 1) 'x'].take IndentationCli.maxSourceLines =
        [List.replicate (n + 1) 'x'] :=
      List.take_of_length_le (Nat.le_of_not_lt hlimit)
    simp [IndentationCli.boundedLines, htake, lines_replicate, hfirst, rstrip_replicate, hlimit]
  have hshort : (List.replicate (n + 1) 'x').length ≤ IndentationCli.maxLineCharacters := by
    simpa [IndentationCli.maxLineCharacters] using hlength
  have hline : IndentationCli.boundedLine (List.replicate (n + 1) 'x') =
      List.replicate (n + 1) 'x' := List.take_of_length_le hshort
  have hcut : IndentationCli.lineCut (List.replicate (n + 1) 'x') = false := by
    rw [IndentationCli.lineCut, decide_eq_false_iff_not]
    exact Nat.not_lt.mpr hshort
  have hindent : measureIndentation (List.replicate (n + 1) 'x') =
      { columns := 0, mixed := false } := rfl
  simp only [IndentationCli.parse, String.toList_ofList, hinput, IndentationCli.readLines]
  rw [readLine_replicate _ _ _ rfl]
  simp only [IndentationCli.readStatement, hline, hcut, hindent, Bool.false_eq_true, if_false]
  exact IRBuilder.addNode_first sha256 rfl rfl rfl _

end LongLine

def longLineRequest : StructuralParseRequest :=
  { content := String.ofList (List.replicate (2048 + 1) 'x'), source := FailClosed.exampleSource }

/-- The hashes of the node of the line and of its block. -/
def longLineSha256 (text : String) : String :=
  if 2048 < text.length then "ec2a4dc2aae32018a63502f3867633323460aac27be2b22b40c74f4d62df1595"
  else "155b0f605e9186067e6c0e0703618f21202394b706db9b67558a8a2cef53da73"

def longLineIr : StructuralIR := IndentationCli.parse longLineSha256 longLineRequest

theorem longLine_nodes : ∃ node, longLineIr.nodes = [node] ∧
    node.rawText = String.ofList (List.replicate (2048 + 1) 'x') ∧ node.kind = .statement ∧
      node.artifactId = FailClosed.exampleSource.artifactId :=
  parse_replicate FailClosed.exampleSource (by decide)

theorem longLine_wellFormed : longLineIr.WellFormed := by
  obtain ⟨node, hnodes, -⟩ := longLine_nodes
  have hparsed : (IndentationCli.parse longLineSha256 longLineRequest).nodes = [node] := hnodes
  refine IndentationCli.parse_wellFormed (hashesApart_of_nodup ?_)
  rw [hparsed]
  exact List.nodup_singleton _

theorem longLine_interpreted (uuid5 : UUID → String → UUID) :
    interpretStructuralIr uuid5 FailClosed.exampleContext longLineIr "generic.cli@1.0.0"
      (some Sealed.Generic.cli) (some genericCli) = .ok (cliResult longLineIr []) := by
  obtain ⟨node, hnodes, -, -, hartifact⟩ := longLine_nodes
  have hprovenance := @IndentationCli.parse_provenance longLineSha256 longLineRequest
  have hsource : longLineIr.source = FailClosed.exampleSource := hprovenance.1
  have hreader : longLineIr.readerId = "indentation_cli.v1" := hprovenance.2.1
  have hprofile : requireProfile "generic.cli@1.0.0" (some genericCli) longLineIr.readerId
      "Structural IR" = .ok genericCli := by
    rw [hreader]
    rfl
  have hconsistent : (longLineIr.source.snapshotId == some FailClosed.exampleContext.snapshotId &&
      longLineIr.nodes.all (·.artifactId == longLineIr.source.artifactId)) = true := by
    rw [hnodes, hsource, List.all_cons, List.all_nil, hartifact]
    decide
  have hpack : Sealed.Generic.cli ∈ Sealed.registry := by simp [Sealed.registry]
  have hvalidated := Sealed.registry_validated _ hpack
  have hpairs : pairs longLineIr Sealed.Generic.cli = [] :=
    List.flatMap_eq_nil_iff.mpr fun _ _ => rfl
  simp only [interpretStructuralIr, except_bind_eq_ok, except_pure_eq_ok, reportInvalid_eq_ok,
    requireProvenance_eq_ok]
  exact ⟨_, hprofile, (), hconsistent, _, rfl, _, hvalidated, [], by rw [hpairs]; rfl, rfl⟩

/-- The block of one long line makes the commit of the audit fail. -/
theorem long_line_breaks_commit : longLineIr.WellFormed ∧ ∃ result rows,
    interpretStructuralIr FailClosed.removalUuid5 FailClosed.exampleContext longLineIr
      "generic.cli@1.0.0" (some Sealed.Generic.cli) (some genericCli) = .ok result ∧
    runRows (fun _ => "") (fun _ => "") longLineSha256 (UUID.ofNat 5) FailClosed.exampleContext
      "generic.cli" "generic.cli@1.0.0" (some genericCli) Sealed.Generic.cli
      [(.cli longLineIr, result)] [] = .ok rows ∧
    (∃ row ∈ rows, row.rawText.length = 2049) ∧ ¬ RowsFit [] rows := by
  have hrun := longLine_interpreted FailClosed.removalUuid5
  have htree : Interpreted FailClosed.removalUuid5 FailClosed.exampleContext "generic.cli@1.0.0"
      genericCli Sealed.Generic.cli (.cli longLineIr, cliResult longLineIr []) :=
    .cli longLine_wellFormed hrun
  obtain ⟨node, hnodes, hraw, hkind, -⟩ := longLine_nodes
  have hnode : node ∈ longLineIr.nodes := by simp [hnodes]
  have hopen : StaysUnresolved Sealed.Generic.cli longLineIr node := by
    refine ⟨by simp [hkind], ?_, ?_⟩
    · rintro ⟨-, mapping, hmapping, -⟩
      cases hmapping
    · rintro ⟨other, -, mapping, hmapping, -⟩
      cases hmapping
  have hidentity : identityOnly (some genericCli) (configEvidence node) = false := by
    rw [identityOnly, Option.any_some]
    cases (configEvidence node).statementCommand <;> rfl
  have hlength : node.rawText.length = 2049 := by
    rw [hraw, String.length_ofList, List.length_replicate]
  have hlong : ¬ LinesFit longLineSha256 FailClosed.exampleContext genericCli Sealed.Generic.cli []
      [(.cli longLineIr, cliResult longLineIr [])] := by
    intro hlines
    have hshort := hlines _ List.mem_cons_self _ rfl node hnode hopen hidentity List.not_mem_nil
    omega
  have hview := (mem_blockNodes_cli longLine_wellFormed hrun).mpr
    ⟨node, hnode, rfl, hopen, hidentity⟩
  have hrows := @runRows_eq (fun _ => "") (fun _ => "") longLineSha256 (UUID.ofNat 5)
    FailClosed.exampleContext "generic.cli" "generic.cli@1.0.0" (some genericCli)
    Sealed.Generic.cli _ []
    (List.forall_mem_singleton.mpr htree.reportable)
  obtain ⟨rows, hrun_rows, hrow⟩ : ∃ rows, runRows (fun _ => "") (fun _ => "") longLineSha256
      (UUID.ofNat 5) FailClosed.exampleContext "generic.cli" "generic.cli@1.0.0" (some genericCli)
      Sealed.Generic.cli [(.cli longLineIr, cliResult longLineIr [])] [] = .ok rows ∧
      ∃ row ∈ rows, row.rawText.length = 2049 :=
    ⟨_, hrows, _, List.mem_append_left _ (List.mem_flatMap.mpr
      ⟨_, List.mem_cons_self, List.mem_map_of_mem hview⟩), by
        rw [nodeRow_rawText_cli longLine_wellFormed hnode, hlength]⟩
  refine ⟨longLine_wellFormed, _, rows, hrun, hrun_rows, hrow, fun hfit => ?_⟩
  refine hlong (linesFit_of_rowsFit (List.forall_mem_singleton.mpr htree) hrun_rows ?_)
  rwa [freshRows_nil]

end ConfigAuditor.Interpretation.BlockFit
