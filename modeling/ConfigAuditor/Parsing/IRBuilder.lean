import ConfigAuditor.Parsing.Models

/-!
# Building a structural tree

`app.parsing.ir_builder`: nodes are added in source order, and indentation decides
which open node is the parent. The trees it builds are well formed.
-/
namespace ConfigAuditor.Parsing

open Library

/-- `_NodeDraft`. -/
structure NodeDraft where
  node : ConfigNode
  indent : Nat
  deriving DecidableEq

/-- The open nodes of `stack` stand innermost first; their children are not kept
up to date there, and never read. -/
structure IRBuilder where
  readerId : String
  source : ArtifactProvenance
  maxDepth : Nat
  maxNodes : Nat
  diagnostics : List ParseDiagnostic := []
  nodes : List NodeDraft := []
  roots : List String := []
  stack : List NodeDraft := []
  deriving DecidableEq

/-- The keyword arguments of `add_node`. -/
structure NodeInput where
  rawText : String
  command : Option String
  arguments : List String
  indent : Nat
  sourceStart : Nat
  sourceEnd : Nat
  negated : Bool
  kind : ConfigNodeKind
  parseStatus : ParseStatus
  comments : List String := []
  forceRoot : Bool := false
  canParent : Bool := true

/-- Where a node goes: the nodes open at it, its status, and the diagnostics so far. -/
structure Placement where
  stack : List NodeDraft
  status : ParseStatus
  diagnostics : List ParseDiagnostic

namespace IRBuilder

/-- `node_limit_reached`. -/
def nodeLimitReached (b : IRBuilder) : Bool := b.maxNodes ≤ b.nodes.length

/-- `add_diagnostic`. -/
def addDiagnostic (b : IRBuilder) (diagnostic : ParseDiagnostic) : IRBuilder :=
  { b with diagnostics := b.diagnostics ++ [diagnostic] }

/-- `reset_context`. -/
def resetContext (b : IRBuilder) : IRBuilder := { b with stack := [] }

def placementDiagnostic (code message : String) (input : NodeInput) : ParseDiagnostic :=
  { code, message, sourceStart := some input.sourceStart, sourceEnd := some input.sourceEnd }

def inconsistentDedent : NodeInput → ParseDiagnostic :=
  placementDiagnostic "inconsistent_dedent"
    "Dedent did not match an observed structural indentation level"

def orphanIndentation : NodeInput → ParseDiagnostic :=
  placementDiagnostic "orphan_indentation"
    "Indented statement has no observable parent context"

def maximumDepthReached : NodeInput → ParseDiagnostic :=
  placementDiagnostic "maximum_depth_reached" "Structural depth was bounded"

/-- An indentation below the innermost open node's that no open node has. -/
def unmatchedDedent (b : IRBuilder) (indent : Nat) : Bool :=
  match b.stack with
  | [] => false
  | top :: _ => indent < top.indent && b.stack.all (·.indent != indent)

/-- The first part of `add_node`: close the nodes that are not less indented. -/
def placeByIndent (b : IRBuilder) (input : NodeInput) : Placement :=
  if input.forceRoot || input.indent == 0 then
    { stack := [], status := input.parseStatus, diagnostics := b.diagnostics }
  else
    let unmatched := b.unmatchedDedent input.indent
    let stack := b.stack.dropWhile (input.indent ≤ ·.indent)
    { stack, status := if unmatched || stack.isEmpty then .partialText else input.parseStatus,
      diagnostics := b.diagnostics ++ (if unmatched then [inconsistentDedent input] else []) ++
        (if stack.isEmpty then [orphanIndentation input] else []) }

/-- The second part: no parent deeper than the bound. -/
def boundDepth (maxDepth : Nat) (input : NodeInput) (placed : Placement) : Placement :=
  match placed.stack with
  | [] => placed
  | parent :: _ =>
    if parent.node.depth < maxDepth then placed
    else
      { stack := placed.stack.dropWhile (maxDepth ≤ ·.node.depth), status := .partialText,
        diagnostics := placed.diagnostics ++ [maximumDepthReached input] }

def place (b : IRBuilder) (input : NodeInput) : Placement :=
  boundDepth b.maxDepth input (b.placeByIndent input)

/-- The text a node id is the hash of. -/
def nodeIdentity (artifactId : UUID) (readerId : String) (sourceStart sourceEnd order : Nat)
    (parentId : Option String) (rawText : String) : String :=
  Text.join "\x1f" [artifactId.str, readerId, toString sourceStart, toString sourceEnd,
    toString order, parentId.getD "root", rawText]

/-- `parent.children.append(node_id)`; nodes differ in their order. -/
def appendChild (nodes : List NodeDraft) (parent : ConfigNode) (nodeId : String) :
    List NodeDraft :=
  nodes.map fun draft =>
    if draft.node.order = parent.order then
      { draft with node.children := draft.node.children ++ [nodeId] }
    else draft

section AddNode

variable (sha256 : String → String)

/-- `_node_id`. -/
def nodeId (b : IRBuilder) (input : NodeInput) (order : Nat) (parentId : Option String) : String :=
  hashedId sha256 "irn_" (nodeIdentity b.source.artifactId b.readerId input.sourceStart
    input.sourceEnd order parentId input.rawText)

/-- The draft `add_node` makes under a parent. -/
def draft (b : IRBuilder) (input : NodeInput) (placed : Placement) : NodeDraft :=
  let parent := placed.stack.head?.map (·.node)
  let parentId := parent.map (·.nodeId)
  let order := b.nodes.length + 1
  { node := {
      nodeId := b.nodeId sha256 input order parentId, artifactId := b.source.artifactId,
      sourceLabel := b.source.sourceLabel, rawText := input.rawText, command := input.command,
      arguments := input.arguments, parentId, children := [],
      depth := (parent.map (·.depth + 1)).getD 0, order,
      contextPath := (parent.map fun p => p.contextPath ++ [p.nodeId]).getD [],
      sourceStart := input.sourceStart, sourceEnd := input.sourceEnd, negated := input.negated,
      inactive := false, comments := input.comments, kind := input.kind,
      parseStatus := placed.status }
    indent := input.indent }

/-- `add_node`. -/
def addNode (b : IRBuilder) (input : NodeInput) : IRBuilder :=
  if b.nodeLimitReached then b
  else
    let placed := b.place input
    let added := b.draft sha256 input placed
    { b with
      diagnostics := placed.diagnostics
      nodes := (match placed.stack.head? with
        | none => b.nodes
        | some parent => appendChild b.nodes parent.node added.node.nodeId) ++ [added]
      roots := if placed.stack.isEmpty then b.roots ++ [added.node.nodeId] else b.roots
      stack := if input.canParent then added :: placed.stack else placed.stack }

/-- The first node of a tree. -/
theorem addNode_first {b : IRBuilder} (hnodes : b.nodes = []) (hstack : b.stack = [])
    (hroom : b.nodeLimitReached = false) (input : NodeInput) :
    ∃ node, (b.addNode sha256 input).nodes.map (·.node) = [node] ∧
      node.rawText = input.rawText ∧ node.kind = input.kind ∧
        node.artifactId = b.source.artifactId := by
  have hplaced : (b.place input).stack = [] := by
    unfold place placeByIndent boundDepth
    split_ifs <;> simp [hstack]
  refine ⟨(b.draft sha256 input (b.place input)).node, ?_, rfl, rfl, rfl⟩
  simp [addNode, hroom, hplaced, hnodes]

end AddNode

/-- `build`. -/
def build (b : IRBuilder) (truncated : Bool) : StructuralIR :=
  { readerId := b.readerId, source := b.source, nodes := b.nodes.map (·.node),
    rootNodeIds := b.roots, diagnostics := b.diagnostics, truncated }

/-- The text the id of a finished node is the hash of. -/
def identityOf (readerId : String) (node : ConfigNode) : String :=
  nodeIdentity node.artifactId readerId node.sourceStart node.sourceEnd node.order node.parentId
    node.rawText

/-- What every call keeps: orders count up from one, the ids are the hashes, and open
nodes and parents are nodes of the tree. -/
structure Inv (sha256 : String → String) (readerId : String) (source : ArtifactProvenance)
    (b : IRBuilder) : Prop where
  reader_eq : b.readerId = readerId
  source_eq : b.source = source
  order : b.nodes.map (·.node.order) = List.range' 1 b.nodes.length
  hashed : ∀ d ∈ b.nodes, d.node.nodeId = hashedId sha256 "irn_" (identityOf readerId d.node)
  artifact : ∀ d ∈ b.nodes, d.node.artifactId = source.artifactId
  lines : ∀ d ∈ b.nodes, 1 ≤ d.node.sourceStart ∧ d.node.sourceStart ≤ d.node.sourceEnd
  parent : ∀ d ∈ b.nodes, ∀ id, d.node.parentId = some id →
    ∃ p ∈ b.nodes, p.node.nodeId = id ∧ p.node.order < d.node.order
  stack : ∀ d ∈ b.stack, ∃ n ∈ b.nodes, n.node.nodeId = d.node.nodeId

section Invariant

variable {sha256 : String → String} {readerId : String} {source : ArtifactProvenance}
  {b : IRBuilder}

theorem inv_empty (maxDepth maxNodes : Nat) (diagnostics : List ParseDiagnostic) :
    Inv sha256 readerId source { readerId, source, maxDepth, maxNodes, diagnostics } := by
  constructor <;> simp

theorem Inv.addDiagnostic (h : Inv sha256 readerId source b) (diagnostic : ParseDiagnostic) :
    Inv sha256 readerId source (b.addDiagnostic diagnostic) :=
  ⟨h.reader_eq, h.source_eq, h.order, h.hashed, h.artifact, h.lines, h.parent, h.stack⟩

theorem Inv.resetContext (h : Inv sha256 readerId source b) : Inv sha256 readerId source b.resetContext :=
  ⟨h.reader_eq, h.source_eq, h.order, h.hashed, h.artifact, h.lines, h.parent, by simp [IRBuilder.resetContext]⟩

theorem Inv.order_le (h : Inv sha256 readerId source b) {d : NodeDraft} (hd : d ∈ b.nodes) :
    d.node.order ≤ b.nodes.length := by
  have hmem : d.node.order ∈ b.nodes.map (·.node.order) := List.mem_map_of_mem hd
  rw [h.order, List.mem_range'_1] at hmem
  omega

theorem place_subset (b : IRBuilder) (input : NodeInput) {d : NodeDraft}
    (h : d ∈ (b.place input).stack) : d ∈ b.stack := by
  have hindent : ∀ d ∈ (b.placeByIndent input).stack, d ∈ b.stack := by
    intro d hd
    unfold placeByIndent at hd
    split at hd
    · simp at hd
    · exact (List.dropWhile_sublist _).mem hd
  unfold place boundDepth at h
  split at h
  · exact hindent d h
  · split at h
    · exact hindent d h
    · exact hindent d ((List.dropWhile_sublist _).mem h)

/-- Adding a child changes nothing of a node but its children. -/
theorem grown_eq (nodes : List NodeDraft) (parent : Option NodeDraft) (nodeId : String) :
    ∃ grow : NodeDraft → NodeDraft,
      (match parent with
        | none => nodes
        | some parent => appendChild nodes parent.node nodeId) = nodes.map grow ∧
        ∀ d, ∃ children, grow d = { d with node.children := children } := by
  cases parent with
  | none => exact ⟨id, by simp, fun d => ⟨d.node.children, rfl⟩⟩
  | some parent =>
    refine ⟨_, rfl, fun d => ?_⟩
    split
    · exact ⟨_, rfl⟩
    · exact ⟨d.node.children, rfl⟩

/-- A node keeps its status or is marked as partial. -/
theorem place_status (b : IRBuilder) (input : NodeInput) :
    (b.place input).status = input.parseStatus ∨ (b.place input).status = .partialText := by
  have hindent : (b.placeByIndent input).status = input.parseStatus ∨
      (b.placeByIndent input).status = .partialText := by
    unfold placeByIndent
    split
    · exact Or.inl rfl
    · dsimp only
      split
      · exact Or.inr rfl
      · exact Or.inl rfl
  unfold place boundDepth
  split
  · exact hindent
  · split
    · exact hindent
    · exact Or.inr rfl

/-- What holds of the old nodes, whatever their children, and of the new one. -/
theorem addNode_forall {P : ConfigNode → Prop}
    (hchildren : ∀ node children, P node → P { node with children }) {input : NodeInput}
    (hold : ∀ d ∈ b.nodes, P d.node) (hnew : P (b.draft sha256 input (b.place input)).node) :
    ∀ d ∈ (b.addNode sha256 input).nodes, P d.node := by
  intro d' hd'
  unfold IRBuilder.addNode at hd'
  split at hd'
  · exact hold d' hd'
  obtain ⟨grow, hgrow, hsame⟩ := grown_eq b.nodes (b.place input).stack.head?
    (b.draft sha256 input (b.place input)).node.nodeId
  simp only [hgrow] at hd'
  rcases List.mem_append.mp hd' with hd' | hd'
  · obtain ⟨d, hd, rfl⟩ := List.mem_map.mp hd'
    obtain ⟨children, hgrown⟩ := hsame d
    rw [hgrown]
    exact hchildren d.node children (hold d hd)
  · obtain rfl := List.mem_singleton.mp hd'
    exact hnew

theorem Inv.addNode (h : Inv sha256 readerId source b) {input : NodeInput} (hstart : 1 ≤ input.sourceStart)
    (hend : input.sourceStart ≤ input.sourceEnd) : Inv sha256 readerId source (b.addNode sha256 input) := by
  unfold IRBuilder.addNode
  split
  · exact h
  obtain ⟨grow, hgrow, hsame⟩ := grown_eq b.nodes (b.place input).stack.head?
    (b.draft sha256 input (b.place input)).node.nodeId
  simp only [hgrow]
  -- whatever a field of an old node was, it still is, its children apart
  have hold : ∀ d' ∈ b.nodes.map grow, ∃ d ∈ b.nodes, ∃ children,
      d' = { d with node.children := children } := by
    intro d' hd'
    obtain ⟨d, hd, rfl⟩ := List.mem_map.mp hd'
    exact ⟨d, hd, hsame d⟩
  have hkept : ∀ d ∈ b.nodes, ∃ d' ∈ b.nodes.map grow, d'.node.nodeId = d.node.nodeId ∧
      d'.node.order = d.node.order := by
    intro d hd
    obtain ⟨children, hchildren⟩ := hsame d
    exact ⟨grow d, List.mem_map_of_mem hd, by rw [hchildren], by rw [hchildren]⟩
  refine ⟨h.reader_eq, h.source_eq, ?_, ?_, ?_, ?_, ?_, ?_⟩
  · have horder : (b.nodes.map grow).map (·.node.order) = b.nodes.map (·.node.order) := by
      rw [List.map_map]
      refine List.map_congr_left fun d _ => ?_
      obtain ⟨children, hchildren⟩ := hsame d
      simp [hchildren]
    rw [List.map_append, horder, h.order, List.length_append, List.length_map,
      List.length_singleton, List.range'_1_concat, Nat.add_comm 1]
    rfl
  · intro d' hd'
    rcases List.mem_append.mp hd' with hd' | hd'
    · obtain ⟨d, hd, children, rfl⟩ := hold d' hd'
      exact h.hashed d hd
    · obtain rfl := List.mem_singleton.mp hd'
      rw [← h.reader_eq]
      rfl
  · intro d' hd'
    rcases List.mem_append.mp hd' with hd' | hd'
    · obtain ⟨d, hd, children, rfl⟩ := hold d' hd'
      exact h.artifact d hd
    · obtain rfl := List.mem_singleton.mp hd'
      rw [← h.source_eq]
      rfl
  · intro d' hd'
    rcases List.mem_append.mp hd' with hd' | hd'
    · obtain ⟨d, hd, children, rfl⟩ := hold d' hd'
      exact h.lines d hd
    · obtain rfl := List.mem_singleton.mp hd'
      exact ⟨hstart, hend⟩
  · intro d' hd' id hid
    rcases List.mem_append.mp hd' with hd' | hd'
    · obtain ⟨d, hd, children, rfl⟩ := hold d' hd'
      obtain ⟨p, hp, hpid, horder⟩ := h.parent d hd id hid
      obtain ⟨p', hp', hid', horder'⟩ := hkept p hp
      exact ⟨p', List.mem_append_left _ hp', by rw [hid', hpid], by rw [horder']; exact horder⟩
    · obtain rfl := List.mem_singleton.mp hd'
      cases hhead : (b.place input).stack.head? with
      | none => simp [draft, hhead] at hid
      | some top =>
        have htop : top ∈ b.stack := place_subset b input (List.mem_of_mem_head? hhead)
        obtain ⟨p, hp, hpid⟩ := h.stack top htop
        obtain ⟨p', hp', hid', horder'⟩ := hkept p hp
        refine ⟨p', List.mem_append_left _ hp', ?_, ?_⟩
        · rw [hid', hpid]
          simpa [draft, hhead] using hid
        · rw [horder']
          exact Nat.lt_succ_of_le (h.order_le hp)
  · intro d hd
    have hopen : ∀ d ∈ (b.place input).stack, ∃ n ∈ b.nodes.map grow ++
        [b.draft sha256 input (b.place input)], n.node.nodeId = d.node.nodeId := by
      intro d hd
      obtain ⟨n, hn, hid⟩ := h.stack d (place_subset b input hd)
      obtain ⟨n', hn', hid', -⟩ := hkept n hn
      exact ⟨n', List.mem_append_left _ hn', by rw [hid', hid]⟩
    cases hparent : input.canParent with
    | false => exact hopen d (by simpa [hparent] using hd)
    | true =>
      rw [hparent] at hd
      rcases List.mem_cons.mp hd with rfl | hd
      · exact ⟨_, List.mem_append_right _ (List.mem_singleton_self _), rfl⟩
      · exact hopen d hd

/-- The order of a node can be read off the text that is hashed. -/
theorem order_of_identity {a a' : UUID} {r : String} {s s' e e' o o' : Nat}
    {p p' : Option String} {raw raw' : String} (hr : '\x1f' ∉ r.toList)
    (h : nodeIdentity a r s e o p raw = nodeIdentity a' r s' e' o' p' raw') : o = o' := by
  have hsep : "\x1f" = String.singleton '\x1f' := by decide
  have huuid : ∀ u : UUID, '\x1f' ∉ u.str.toList := fun u => u.not_mem_str (by decide) (by decide)
  have hnat : ∀ n : Nat, '\x1f' ∉ (toString n).toList :=
    fun n => Text.not_mem_toString n (by decide)
  unfold nodeIdentity at h
  rw [hsep] at h
  have h := (Text.join_head (huuid _) (huuid _) h).2
  have h := (Text.join_head hr hr h).2
  have h := (Text.join_head (hnat _) (hnat _) h).2
  have h := (Text.join_head (hnat _) (hnat _) h).2
  exact Text.toString_injective (Text.join_head (hnat _) (hnat _) h).1

theorem build_wellFormed (h : Inv sha256 readerId source b) (hreader : '\x1f' ∉ readerId.toList)
    {truncated : Bool}
    (hhash : HashesApart sha256 "irn_" (identityOf readerId) (b.build truncated).nodes) :
    (b.build truncated).WellFormed := by
  have hmem : ∀ node ∈ (b.build truncated).nodes, ∃ d ∈ b.nodes, d.node = node :=
    fun node hnode => List.mem_map.mp hnode
  have hnodes : HashedNodes sha256 "irn_" (·.nodeId) (·.order) (identityOf readerId)
      (b.build truncated).nodes := by
    constructor
    · simpa [build, Function.comp_def] using h.order
    · intro node hnode
      obtain ⟨d, hd, rfl⟩ := hmem node hnode
      exact h.hashed d hd
  constructor
  · exact hnodes.nodup (fun node _ other _ hid => order_of_identity hreader hid) hhash
  · intro node hnode
    obtain ⟨d, hd, rfl⟩ := hmem node hnode
    exact h.lines d hd
  · intro node hnode id hid
    obtain ⟨d, hd, rfl⟩ := hmem node hnode
    obtain ⟨p, hp, hpid, horder⟩ := h.parent d hd id hid
    exact ⟨p.node, List.mem_map_of_mem hp, hpid, horder⟩
  · intro node hnode
    obtain ⟨d, hd, rfl⟩ := hmem node hnode
    simpa [build] using h.order_le hd

/-- The nodes of a tree name the artifact the tree was read from. -/
theorem build_provenance (h : Inv sha256 readerId source b) (truncated : Bool) :
    (b.build truncated).source = source ∧ (b.build truncated).readerId = readerId ∧
      ∀ node ∈ (b.build truncated).nodes, node.artifactId = source.artifactId := by
  refine ⟨h.source_eq, h.reader_eq, fun node hnode => ?_⟩
  obtain ⟨d, hd, rfl⟩ := List.mem_map.mp hnode
  exact h.artifact d hd

end Invariant

end IRBuilder

end ConfigAuditor.Parsing
