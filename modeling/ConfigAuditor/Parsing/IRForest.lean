import ConfigAuditor.Library.Forest
import ConfigAuditor.Library.Runs
import ConfigAuditor.Parsing.IRBuilder

/-!
# The forest a builder builds

Whatever calls a builder gets, its nodes are the pre-order of a forest: the open nodes lie on
the right edge, and a new node is grafted below one of them.
-/
namespace ConfigAuditor.Parsing.IRForest

open Library

/-- A call of a builder. -/
inductive BuilderCall where
  | addNode (input : NodeInput)
  | resetContext
  | addDiagnostic (diagnostic : ParseDiagnostic)

def step (sha256 : String → String) (b : IRBuilder) : BuilderCall → IRBuilder
  | .addNode input => b.addNode sha256 input
  | .resetContext => b.resetContext
  | .addDiagnostic diagnostic => b.addDiagnostic diagnostic

/-- A node is right below these ancestors and over these children. -/
structure InPlace (ancestors : List String) (node : ConfigNode) (children : List String) : Prop where
  parentId : node.parentId = ancestors.getLast?
  contextPath : node.contextPath = ancestors
  depth : node.depth = ancestors.length
  children : node.children = children

/-- A representation is a forest: its nodes are the pre-order, and every node names its parent,
its ancestors and its children. -/
structure WellBuilt (maxDepth maxNodes : Nat) (ir : StructuralIR) (forest : Forest ConfigNode) :
    Prop where
  preorder : forest.preorder = ir.nodes
  placed : forest.All (·.nodeId) InPlace []
  orders : ir.nodes.map (·.order) = List.range' 1 ir.nodes.length
  bounded : ir.nodes.length ≤ maxNodes
  distinct : (ir.nodes.map (·.nodeId)).Nodup
  children : ∀ node ∈ ir.nodes, node.children =
    (ir.nodes.filter (·.parentId = some node.nodeId)).map (·.nodeId)
  parents : ∀ node ∈ ir.nodes, ∀ id, node.parentId = some id →
    ∃ parent ∈ ir.nodes, parent.nodeId = id ∧ parent.order < node.order
  roots : ir.rootNodeIds = (ir.nodes.filter (·.parentId = none)).map (·.nodeId)
  depth : ∀ node ∈ ir.nodes, node.depth = node.contextPath.length ∧ node.depth ≤ maxDepth

/-- A node without the children it gets later. -/
def bare (node : ConfigNode) : ConfigNode := { node with children := [] }

/-- The builder's nodes are the pre-order of the forest, and its open nodes lie on the right
edge from the root down. -/
structure Grown (sha256 : String → String) (readerId : String) (maxDepth maxNodes : Nat)
    (b : IRBuilder) (forest : Forest ConfigNode) : Prop where
  reader_eq : b.readerId = readerId
  depth_eq : b.maxDepth = maxDepth
  nodes_eq : b.maxNodes = maxNodes
  preorder : forest.preorder = b.nodes.map (·.node)
  placed : forest.All (·.nodeId) InPlace []
  roots : b.roots = forest.roots.map (·.nodeId)
  stack : b.stack.reverse.map (bare ·.node) <+: forest.spine.map bare
  hashed : HashedNodes sha256 "irn_" (·.nodeId) (·.order) (IRBuilder.identityOf readerId)
    (b.nodes.map (bare ·.node))
  bounded : b.nodes.length ≤ maxNodes
  depth : ∀ d ∈ b.nodes, d.node.depth ≤ maxDepth

section Steps

variable {sha256 : String → String} {readerId : String} {maxDepth maxNodes : Nat}
  {b : IRBuilder} {forest : Forest ConfigNode}

theorem grown_empty (sha256 : String → String) (readerId : String) (source : ArtifactProvenance)
    (maxDepth maxNodes : Nat) :
    Grown sha256 readerId maxDepth maxNodes { readerId, source, maxDepth, maxNodes } .nil := by
  refine ⟨rfl, rfl, rfl, rfl, trivial, rfl, List.prefix_rfl, ⟨rfl, ?_⟩, Nat.zero_le _, ?_⟩
  · intro node hnode
    cases hnode
  · intro d hd
    cases hd

/-- The nodes a new node is placed under are the outermost open ones. -/
theorem place_suffix (b : IRBuilder) (input : NodeInput) :
    (b.place input).stack <:+ b.stack := by
  have hindent : (b.placeByIndent input).stack <:+ b.stack := by
    unfold IRBuilder.placeByIndent
    split
    · exact List.nil_suffix
    · exact List.dropWhile_suffix _
  unfold IRBuilder.place IRBuilder.boundDepth
  split
  · exact hindent
  · split
    · exact hindent
    · exact (List.dropWhile_suffix _).trans hindent

/-- A parent is above the depth bound. -/
theorem place_depth {input : NodeInput} {parent : NodeDraft}
    (h : (b.place input).stack.head? = some parent) : parent.node.depth < b.maxDepth := by
  unfold IRBuilder.place IRBuilder.boundDepth at h
  split at h
  · rename_i hempty
    rw [hempty] at h
    cases h
  · rename_i top rest hstack
    split at h
    · rename_i hdepth
      rw [hstack, List.head?_cons, Option.some.injEq] at h
      exact h ▸ hdepth
    · have hdrop := List.head?_dropWhile_not (fun d : NodeDraft => decide (b.maxDepth ≤ d.node.depth))
        (b.placeByIndent input).stack
      rw [h] at hdrop
      simpa using hdrop

/-- A parent with one child more. -/
def withChild (id : String) (node : ConfigNode) : ConfigNode :=
  { node with children := node.children ++ [id] }

theorem bare_withChild (id : String) (node : ConfigNode) : bare (withChild id node) = bare node :=
  rfl

theorem appendChild_eq (nodes : List NodeDraft) (parent : ConfigNode) (id : String) :
    (IRBuilder.appendChild nodes parent id).map (·.node) = (nodes.map (·.node)).map fun node =>
      if node.order = parent.order then withChild id node else node := by
  rw [IRBuilder.appendChild, List.map_map, List.map_map]
  refine List.map_congr_left fun d _ => ?_
  simp only [Function.comp_apply]
  split <;> rfl

theorem appendChild_bare (nodes : List NodeDraft) (parent : ConfigNode) (id : String) :
    (IRBuilder.appendChild nodes parent id).map (bare ·.node) = nodes.map (bare ·.node) := by
  rw [IRBuilder.appendChild, List.map_map]
  refine List.map_congr_left fun d _ => ?_
  simp only [Function.comp_apply]
  split <;> rfl

/-- A new node comes last and leaves the others as they are, their children apart. -/
theorem bare_addNode (sha256 : String → String) {b : IRBuilder} (hroom : b.nodeLimitReached = false)
    (input : NodeInput) :
    (b.addNode sha256 input).nodes.map (bare ·.node) =
      b.nodes.map (bare ·.node) ++ [bare (b.draft sha256 input (b.place input)).node] := by
  simp only [IRBuilder.addNode, hroom, Bool.false_eq_true, if_false, List.map_append,
    List.map_singleton]
  split
  · rfl
  · rw [appendChild_bare]

/-- The nodes a new node is placed under start the right edge. -/
theorem Grown.placed_edge (h : Grown sha256 readerId maxDepth maxNodes b forest)
    (input : NodeInput) :
    (b.place input).stack.length ≤ forest.spine.length ∧
      (forest.spine.map bare).take (b.place input).stack.length =
        (b.place input).stack.reverse.map (bare ·.node) := by
  have hedge : (b.place input).stack.reverse.map (bare ·.node) <+: forest.spine.map bare :=
    ((List.reverse_prefix.mpr (place_suffix b input)).map _).trans h.stack
  have hlength := hedge.length_le
  have htake := List.prefix_iff_eq_take.mp hedge
  simp only [List.length_map, List.length_reverse] at hlength htake
  exact ⟨hlength, htake.symm⟩

/-- The parent of a new node, as it stands in the forest. -/
theorem Grown.parent_edge (h : Grown sha256 readerId maxDepth maxNodes b forest)
    {input : NodeInput} {parent : NodeDraft} {rest : List NodeDraft}
    (hstack : (b.place input).stack = parent :: rest) :
    ∃ node, forest.spine[rest.length]? = some node ∧ bare node = bare parent.node := by
  obtain ⟨-, htake⟩ := h.placed_edge input
  rw [hstack, List.length_cons, List.reverse_cons, List.map_append, List.map_singleton] at htake
  have hget : (forest.spine.map bare)[rest.length]? = some (bare parent.node) := by
    rw [← List.getElem?_take_of_lt (Nat.lt_succ_self _), htake,
      List.getElem?_append_right (by simp)]
    simp
  rw [List.getElem?_map, Option.map_eq_some_iff] at hget
  exact hget

/-- The ancestors of a new node are the nodes it is placed under. -/
theorem Grown.added_inPlace (h : Grown sha256 readerId maxDepth maxNodes b forest)
    (input : NodeInput) :
    InPlace ([] ++ (forest.spine.map (·.nodeId)).take (b.place input).stack.length)
      (b.draft sha256 input (b.place input)).node [] := by
  obtain ⟨-, htake⟩ := h.placed_edge input
  have hnames : ∀ k, (forest.spine.map (·.nodeId)).take k =
      ((forest.spine.map bare).take k).map (·.nodeId) := by
    intro k
    rw [List.map_take, List.map_map]
    rfl
  rw [List.nil_append, hnames, htake, List.map_map]
  cases hstack : (b.place input).stack with
  | nil =>
    refine ⟨?_, ?_, ?_, rfl⟩ <;> simp [IRBuilder.draft, hstack]
  | cons parent rest =>
    obtain ⟨node, hnode, hbare⟩ := h.parent_edge hstack
    obtain ⟨children, hplace⟩ := h.placed.spine hnode
    have hcontext : parent.node.contextPath = rest.reverse.map (·.node.nodeId) := by
      have hsame := congrArg ConfigNode.contextPath hbare
      have hpath := hplace.contextPath
      rw [List.nil_append, hnames] at hpath
      have hshort : (forest.spine.map bare).take rest.length =
          rest.reverse.map (bare ·.node) := by
        rw [hstack, List.length_cons, List.reverse_cons, List.map_append] at htake
        have hagain := congrArg (List.take rest.length) htake
        rw [List.take_take, Nat.min_eq_left (Nat.le_succ _),
          List.take_left' (by simp)] at hagain
        exact hagain
      rw [hshort, List.map_map] at hpath
      exact hsame.symm.trans hpath
    have hdepth : parent.node.depth = rest.length := by
      have hsame := congrArg ConfigNode.depth hbare
      have hlength := hplace.depth
      rw [List.nil_append, List.length_take, List.length_map,
        Nat.min_eq_left (List.getElem?_eq_some_iff.mp hnode).1.le] at hlength
      exact hsame.symm.trans hlength
    refine ⟨?_, ?_, ?_, rfl⟩
    · simp [IRBuilder.draft, hstack, bare]
    · simp only [IRBuilder.draft, hstack, List.head?_cons, Option.map_some, Option.getD_some,
        hcontext, List.reverse_cons, List.map_append, List.map_singleton]
      rfl
    · simp [IRBuilder.draft, hstack, hdepth]

/-- The forest after a new node. -/
def grow (sha256 : String → String) (b : IRBuilder) (input : NodeInput)
    (forest : Forest ConfigNode) : Forest ConfigNode :=
  let added := (b.draft sha256 input (b.place input)).node
  forest.graft (withChild added.nodeId) added (b.place input).stack.length

theorem Grown.preorder_grow (h : Grown sha256 readerId maxDepth maxNodes b forest)
    (hroom : b.nodeLimitReached = false) (input : NodeInput) :
    (grow sha256 b input forest).preorder = (b.addNode sha256 input).nodes.map (·.node) := by
  have hunique : (forest.preorder.map (·.order)).Nodup := by
    have horders := h.hashed.order_eq
    rw [List.map_map] at horders
    rw [h.preorder, List.map_map]
    exact horders ▸ List.nodup_range'
  cases hstack : (b.place input).stack with
  | nil =>
    simp only [grow, IRBuilder.addNode, hroom, hstack, Bool.false_eq_true, if_false,
      List.length_nil, List.head?_nil, List.map_append, List.map_singleton]
    rw [Forest.preorder_graft_zero, h.preorder]
  | cons parent rest =>
    obtain ⟨node, hnode, hbare⟩ := h.parent_edge hstack
    have hsame := congrArg ConfigNode.order hbare
    have horder : node.order = parent.node.order := hsame
    simp only [grow, IRBuilder.addNode, hroom, hstack, Bool.false_eq_true, if_false,
      List.length_cons, List.head?_cons, List.map_append, List.map_singleton]
    rw [appendChild_eq, ← h.preorder]
    refine Forest.preorder_graft hnode hunique.of_map (if_pos horder) fun a ha hne => ?_
    refine if_neg fun heq => hne ?_
    have hin := Forest.mem_preorder_of_mem_spine (List.mem_of_getElem? hnode)
    exact List.inj_on_of_nodup_map hunique ha hin (heq.trans horder.symm)

/-- Adding a node grafts it onto the forest. -/
theorem Grown.addNode (h : Grown sha256 readerId maxDepth maxNodes b forest)
    (hroom : b.nodeLimitReached = false) (input : NodeInput) :
    Grown sha256 readerId maxDepth maxNodes (b.addNode sha256 input)
      (grow sha256 b input forest) := by
  obtain ⟨hedge, htake⟩ := h.placed_edge input
  have hbares := bare_addNode sha256 hroom input
  have hlength : (b.addNode sha256 input).nodes.length = b.nodes.length + 1 := by
    have hlengths := congrArg List.length hbares
    simpa using hlengths
  have hlimit : b.nodes.length < maxNodes := by
    simpa [IRBuilder.nodeLimitReached, h.nodes_eq] using hroom
  have hstack : (b.addNode sha256 input).stack = if input.canParent then
      b.draft sha256 input (b.place input) :: (b.place input).stack else
      (b.place input).stack := by
    simp only [IRBuilder.addNode, hroom, Bool.false_eq_true, if_false]
  have hroots : (b.addNode sha256 input).roots = if (b.place input).stack.isEmpty then
      b.roots ++ [(b.draft sha256 input (b.place input)).node.nodeId] else b.roots := by
    simp only [IRBuilder.addNode, hroom, Bool.false_eq_true, if_false]
  have hkept : (b.addNode sha256 input).readerId = b.readerId ∧
      (b.addNode sha256 input).maxDepth = b.maxDepth ∧
      (b.addNode sha256 input).maxNodes = b.maxNodes := by
    simp [IRBuilder.addNode, hroom]
  refine ⟨hkept.1.trans h.reader_eq, hkept.2.1.trans h.depth_eq, hkept.2.2.trans h.nodes_eq,
    h.preorder_grow hroom input, ?_, ?_, ?_, ?_, ?_, ?_⟩
  · refine h.placed.graft hedge (fun _ => rfl) ?_ (h.added_inPlace input)
    intro outer node children hnode
    refine ⟨hnode.parentId, hnode.contextPath, hnode.depth, ?_⟩
    show node.children ++ _ = _
    rw [hnode.children]
  · rw [hroots, h.roots, grow]
    cases hplaced : (b.place input).stack with
    | nil => simp only [List.isEmpty_nil, if_true, List.length_nil, Forest.roots_graft_zero,
        List.map_append, List.map_singleton]
    | cons parent rest =>
      rw [hplaced] at hedge
      simp only [List.isEmpty_cons, Bool.false_eq_true, if_false]
      have hname : ∀ id node, (withChild id node).nodeId = node.nodeId := fun _ _ => rfl
      exact (Forest.roots_graft (hname _) (Nat.succ_pos _) hedge).symm
  · rw [hstack, grow, Forest.spine_graft (bare_withChild _) hedge, htake]
    split
    · simp only [List.reverse_cons, List.map_append, List.map_singleton, List.prefix_rfl]
    · exact List.prefix_append _ _
  · rw [hbares]
    refine h.hashed.append ?_ ?_
    · rw [List.length_map]
      rfl
    · rw [← h.reader_eq]
      rfl
  · rw [hlength]
    exact hlimit
  · intro d hd
    have hmem : bare d.node ∈ (b.addNode sha256 input).nodes.map (bare ·.node) :=
      List.mem_map_of_mem hd
    rw [hbares, List.mem_append, List.mem_singleton] at hmem
    rcases hmem with hold | hnew
    · obtain ⟨d', hd', hsame⟩ := List.mem_map.mp hold
      have hdepth := congrArg ConfigNode.depth hsame
      exact hdepth.symm.trans_le (h.depth d' hd')
    · have hdepth := congrArg ConfigNode.depth hnew
      refine hdepth.trans_le ?_
      show (b.draft sha256 input (b.place input)).node.depth ≤ maxDepth
      cases hhead : (b.place input).stack.head? with
      | none => simp [IRBuilder.draft, hhead]
      | some parent =>
        have hbound := place_depth hhead
        rw [h.depth_eq] at hbound
        simp only [IRBuilder.draft, hhead, Option.map_some, Option.getD_some]
        exact hbound

/-- What every call of a builder keeps. -/
theorem Grown.step (h : Grown sha256 readerId maxDepth maxNodes b forest) (call : BuilderCall) :
    ∃ forest', Grown sha256 readerId maxDepth maxNodes (step sha256 b call) forest' := by
  cases call with
  | addNode input =>
    cases hroom : b.nodeLimitReached with
    | false => exact ⟨_, h.addNode hroom input⟩
    | true =>
      refine ⟨forest, ?_⟩
      rw [IRForest.step, IRBuilder.addNode, if_pos hroom]
      exact h
  | resetContext =>
    exact ⟨forest, h.reader_eq, h.depth_eq, h.nodes_eq, h.preorder, h.placed, h.roots,
      List.nil_prefix, h.hashed, h.bounded, h.depth⟩
  | addDiagnostic diagnostic =>
    exact ⟨forest, h.reader_eq, h.depth_eq, h.nodes_eq, h.preorder, h.placed, h.roots, h.stack,
      h.hashed, h.bounded, h.depth⟩

/-- The order of a node can be read off the text that is hashed, whatever the reader. -/
theorem order_of_identityOf {node other : ConfigNode}
    (h : IRBuilder.identityOf readerId node = IRBuilder.identityOf readerId other) :
    node.order = other.order := by
  have hsep : "\x1f" = String.singleton '\x1f' := by decide
  have huuid : ∀ u : UUID, '\x1f' ∉ u.str.toList := fun u => u.not_mem_str (by decide) (by decide)
  have hnat : ∀ n : Nat, '\x1f' ∉ (toString n).toList :=
    fun n => Text.not_mem_toString n (by decide)
  unfold IRBuilder.identityOf IRBuilder.nodeIdentity at h
  rw [hsep] at h
  have h := (Text.join_head (huuid _) (huuid _) h).2
  have h := Text.join_cons_cancel h
  have h := (Text.join_head (hnat _) (hnat _) h).2
  have h := (Text.join_head (hnat _) (hnat _) h).2
  exact Text.toString_injective (Text.join_head (hnat _) (hnat _) h).1

theorem Grown.wellBuilt (h : Grown sha256 readerId maxDepth maxNodes b forest) (truncated : Bool)
    (hhash : HashesApart sha256 "irn_" (IRBuilder.identityOf readerId)
      (b.build truncated).nodes) :
    WellBuilt maxDepth maxNodes (b.build truncated) forest := by
  have hnodes : HashedNodes sha256 "irn_" (·.nodeId) (·.order) (IRBuilder.identityOf readerId)
      (b.build truncated).nodes := by
    refine ⟨?_, fun node hnode => ?_⟩
    · have horders := h.hashed.order_eq
      simpa [IRBuilder.build, bare, Function.comp_def] using horders
    · obtain ⟨d, hd, rfl⟩ := List.mem_map.mp hnode
      have hid := h.hashed.hashed (bare d.node) (List.mem_map_of_mem hd)
      exact hid
  have hdistinct := hnodes.nodup (fun node _ other _ hid => order_of_identityOf hid) hhash
  have hpre : forest.preorder = (b.build truncated).nodes := h.preorder
  have hok : ∀ (outer : List String) (node : ConfigNode) (children : List String),
      InPlace outer node children → node.parentId = outer.getLast? :=
    fun _ _ _ hplace => hplace.parentId
  refine ⟨hpre, h.placed, hnodes.order_eq, ?_, hdistinct, ?_, ?_, ?_, ?_⟩
  · simpa [IRBuilder.build] using h.bounded
  · intro node hnode
    rw [← hpre] at hnode hdistinct ⊢
    obtain ⟨outer, hplace⟩ := h.placed.filter_children hok hdistinct
      (fun _ _ => List.not_mem_nil) hnode
    exact hplace.children
  · intro node hnode id hid
    rw [← hpre] at hnode
    obtain ⟨outer, children, hplace, hover⟩ := h.placed.mem hnode
    rw [hplace.parentId] at hid
    rcases hover with rfl | ⟨parent, hlast, hsub⟩
    · cases hid
    · rw [hlast, Option.some.injEq] at hid
      have hincreasing : forest.preorder.Pairwise fun a b => a.order < b.order := by
        have horders : (forest.preorder.map (·.order)).Pairwise (· < ·) := by
          rw [hpre, hnodes.order_eq]
          exact List.pairwise_lt_range'
        exact List.pairwise_map.mp horders
      have hpair := hincreasing.sublist hsub
      rw [List.pairwise_pair] at hpair
      exact ⟨parent, hpre ▸ hsub.subset List.mem_cons_self, hid, hpair⟩
  · have hlast : ([] : List String).getLast? = none := rfl
    have hroots := h.placed.filter_roots hok hlast fun _ _ => Option.some_ne_none _
    rw [← hpre, hroots]
    exact h.roots
  · intro node hnode
    rw [← hpre] at hnode
    obtain ⟨outer, children, hplace, -⟩ := h.placed.mem hnode
    refine ⟨hplace.depth.trans (congrArg List.length hplace.contextPath.symm), ?_⟩
    rw [h.preorder] at hnode
    obtain ⟨d, hd, rfl⟩ := List.mem_map.mp hnode
    exact h.depth d hd

end Steps

/-- The builder a reader starts with. -/
def start (readerId : String) (source : ArtifactProvenance) (maxDepth maxNodes : Nat) : IRBuilder :=
  { readerId, source, maxDepth, maxNodes }

/-- Whatever the calls, a builder builds a forest whose pre-order is its list of nodes. -/
theorem build_wellBuilt (sha256 : String → String) (readerId : String)
    (source : ArtifactProvenance) (maxDepth maxNodes : Nat) (calls : List BuilderCall)
    (truncated : Bool)
    (hhash : HashesApart sha256 "irn_" (IRBuilder.identityOf readerId)
      ((Runs.run (step sha256) (start readerId source maxDepth maxNodes) calls).build
        truncated).nodes) :
    ∃ forest, WellBuilt maxDepth maxNodes
      ((Runs.run (step sha256) (start readerId source maxDepth maxNodes) calls).build truncated)
      forest := by
  have hstep : ∀ b call, (∃ forest, Grown sha256 readerId maxDepth maxNodes b forest) →
      ∃ forest, Grown sha256 readerId maxDepth maxNodes (step sha256 b call) forest := by
    rintro b call ⟨forest, hgrown⟩
    exact hgrown.step call
  obtain ⟨forest, hgrown⟩ := Runs.run_invariant hstep
    ⟨_, grown_empty sha256 readerId source maxDepth maxNodes⟩ calls
  exact ⟨forest, hgrown.wellBuilt truncated hhash⟩

def vtySource : ArtifactProvenance :=
  { artifactId := UUID.ofNat 1, snapshotId := none, sourceLabel := "router.cfg" }

def vtyInput (rawText : String) (indent line : Nat) : NodeInput :=
  { rawText, command := none, arguments := [], indent, sourceStart := line, sourceEnd := line,
    negated := false, kind := .statement, parseStatus := .parsed }

/-- A VTY block with two statements, and an indented statement after the context is reset. -/
def vtyCalls : List BuilderCall :=
  [.addNode (vtyInput "line vty 0 4" 0 1), .addNode (vtyInput " login local" 1 2),
    .addNode (vtyInput " transport input ssh" 1 3), .resetContext,
    .addNode (vtyInput " exec-timeout 5" 1 5)]

def vtySha256 : String → String := tabulated
  [("00000000-0000-0000-0000-000000000001\x1findentation_cli.v1\x1f1\x1f1\x1f1\x1froot\x1f" ++
      "line vty 0 4",
      "90d15fa58a764c126db65224caf534ed8b853926a5c8e11d6860fbd763a5cfcd"),
    ("00000000-0000-0000-0000-000000000001\x1findentation_cli.v1\x1f2\x1f2\x1f2\x1f" ++
      "irn_90d15fa58a764c126db65224caf534ed\x1f login local",
      "2a663e4532ce0fd71879821f1ae601bd6a16c27374b83247021e20f042eefbe8"),
    ("00000000-0000-0000-0000-000000000001\x1findentation_cli.v1\x1f3\x1f3\x1f3\x1f" ++
      "irn_90d15fa58a764c126db65224caf534ed\x1f transport input ssh",
      "68310134c5499cf92c016e2a5b846a823e3199fb3e0616f03b62507f251aaf05"),
    ("00000000-0000-0000-0000-000000000001\x1findentation_cli.v1\x1f5\x1f5\x1f4\x1froot\x1f" ++
      " exec-timeout 5",
      "3ae8c563978e851d106bf0adbe62d1fb0014e9078e75a1775b5bc188c1fee275")]

theorem build_wellBuilt_vty :
    ∃ forest, WellBuilt 8 100 ((Runs.run (step vtySha256)
      (start "indentation_cli.v1" vtySource 8 100) vtyCalls).build false) forest :=
  build_wellBuilt vtySha256 "indentation_cli.v1" vtySource 8 100 vtyCalls false
    (hashesApart_of_nodup (by decide +kernel))

end ConfigAuditor.Parsing.IRForest
