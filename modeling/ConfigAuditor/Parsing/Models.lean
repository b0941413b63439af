import ConfigAuditor.SecurityModel

/-!
# Structural intermediate representations

The trees the structural readers return (`app.parsing.models` and the XML and JSON
readers): flat lists of nodes that name their parent.
-/
namespace ConfigAuditor.Parsing

open Library

inductive ConfigNodeKind where
  | statement
  | comment
  | opaqueBlock
  deriving DecidableEq, Repr

inductive ParseStatus where
  | parsed
  | opaqueBlock
  | partialText
  | unresolved
  deriving DecidableEq, Repr

/-- The provenance fields that interpretation reads. -/
structure ArtifactProvenance where
  artifactId : UUID
  snapshotId : Option UUID
  sourceLabel : String
  deriving DecidableEq

/-- `StructuralParseRequest`: the evidence text a reader is given. -/
structure StructuralParseRequest where
  content : String
  source : ArtifactProvenance
  inputTruncated : Bool := false
  deriving DecidableEq

/-- `front + sha256(identity).hexdigest()[:32]`, the ids of the nodes of all readers. -/
def hashedId (sha256 : String → String) (front identity : String) : String :=
  front ++ String.ofList ((sha256 identity).toList.take 32)

/-- A hash function that is known on the listed texts. -/
def tabulated (table : List (String × String)) (text : String) : String :=
  ((table.find? (·.1 == text)).map (·.2)).getD ""

section NodeIds

variable {ν : Type} {sha256 : String → String} {front : String} {nodeId : ν → String}
  {order : ν → Nat} {identity : ν → String} {nodes : List ν}

/-- Orders count up from one, and ids are hashes. -/
structure HashedNodes (sha256 : String → String) (front : String) (nodeId : ν → String)
    (order : ν → Nat) (identity : ν → String) (nodes : List ν) : Prop where
  order_eq : nodes.map order = List.range' 1 nodes.length
  hashed : ∀ node ∈ nodes, nodeId node = hashedId sha256 front (identity node)

theorem HashedNodes.append (h : HashedNodes sha256 front nodeId order identity nodes) {node : ν}
    (horder : order node = nodes.length + 1)
    (hid : nodeId node = hashedId sha256 front (identity node)) :
    HashedNodes sha256 front nodeId order identity (nodes ++ [node]) := by
  constructor
  · rw [List.map_append, h.order_eq, List.length_append, List.length_singleton,
      List.range'_1_concat, List.map_singleton, horder, Nat.add_comm 1]
  · intro other hother
    rcases List.mem_append.mp hother with hother | hother
    · exact h.hashed other hother
    · obtain rfl := List.mem_singleton.mp hother
      exact hid

/-- The hashed texts of the nodes are told apart by the ids. -/
def HashesApart (sha256 : String → String) (front : String) (identity : ν → String)
    (nodes : List ν) : Prop :=
  Set.InjOn (hashedId sha256 front) {text | ∃ node ∈ nodes, text = identity node}

/-- Different hashes on the nodes are enough. -/
theorem hashesApart_of_nodup
    (h : (nodes.map fun node => hashedId sha256 front (identity node)).Nodup) :
    HashesApart sha256 front identity nodes := by
  rintro _ ⟨node, hnode, rfl⟩ _ ⟨other, hother, rfl⟩ hid
  rw [List.inj_on_of_nodup_map h hnode hother hid]

theorem HashedNodes.nodup (h : HashedNodes sha256 front nodeId order identity nodes)
    (hidentity : ∀ node ∈ nodes, ∀ other ∈ nodes, identity node = identity other →
      order node = order other)
    (hhash : HashesApart sha256 front identity nodes) : (nodes.map nodeId).Nodup := by
  have horders : (nodes.map order).Nodup := by
    rw [h.order_eq]
    exact List.nodup_range'
  refine List.Nodup.map_on (fun node hnode other hother hid => ?_) horders.of_map
  rw [h.hashed node hnode, h.hashed other hother] at hid
  have htext := hhash ⟨node, hnode, rfl⟩ ⟨other, hother, rfl⟩ hid
  exact List.inj_on_of_nodup_map horders hnode hother (hidentity node hnode other hother htext)

end NodeIds

inductive DiagnosticSeverity where
  | warning
  | error
  deriving DecidableEq, Repr

structure ParseDiagnostic where
  code : String
  message : String
  severity : DiagnosticSeverity := .warning
  sourceStart : Option Nat := none
  sourceEnd : Option Nat := none
  deriving DecidableEq

structure ConfigNode where
  nodeId : String
  artifactId : UUID
  sourceLabel : String
  rawText : String
  command : Option String
  arguments : List String
  parentId : Option String
  children : List String
  depth : Nat
  order : Nat
  contextPath : List String
  sourceStart : Nat
  sourceEnd : Nat
  negated : Bool
  inactive : Bool
  comments : List String
  kind : ConfigNodeKind
  parseStatus : ParseStatus
  deriving DecidableEq

structure StructuralIR where
  readerId : String
  source : ArtifactProvenance
  nodes : List ConfigNode
  rootNodeIds : List String
  diagnostics : List ParseDiagnostic
  truncated : Bool
  deriving DecidableEq

/-- `StructuralIR.node`, which raises `KeyError` on `none`. -/
def StructuralIR.node? (ir : StructuralIR) (nodeId : String) : Option ConfigNode :=
  ir.nodes.find? (·.nodeId == nodeId)

/-- Ids are distinct, every parent is an earlier node of the tree, and every node has
lines of the source. -/
structure StructuralIR.WellFormed (ir : StructuralIR) : Prop where
  nodup : (ir.nodes.map (·.nodeId)).Nodup
  lines : ∀ node ∈ ir.nodes, 1 ≤ node.sourceStart ∧ node.sourceStart ≤ node.sourceEnd
  parent : ∀ node ∈ ir.nodes, ∀ id, node.parentId = some id →
    ∃ parent ∈ ir.nodes, parent.nodeId = id ∧ parent.order < node.order
  order_le : ∀ node ∈ ir.nodes, node.order ≤ ir.nodes.length

theorem StructuralIR.node?_some {ir : StructuralIR} {id : String} {node : ConfigNode}
    (h : ir.node? id = some node) : node ∈ ir.nodes ∧ node.nodeId = id := by
  unfold StructuralIR.node? at h
  exact ⟨List.mem_of_find?_eq_some h, by simpa using List.find?_some h⟩

/-- Looking a node up by its own id finds it. -/
theorem StructuralIR.WellFormed.node?_self {ir : StructuralIR} (h : ir.WellFormed)
    {node : ConfigNode} (hmem : node ∈ ir.nodes) : ir.node? node.nodeId = some node := by
  cases hfind : ir.node? node.nodeId with
  | none =>
    unfold StructuralIR.node? at hfind
    have := List.find?_eq_none.mp hfind node hmem
    simp at this
  | some found =>
    obtain ⟨hfound, hid⟩ := StructuralIR.node?_some hfind
    rw [List.inj_on_of_nodup_map h.nodup hfound hmem hid]

theorem StructuralIR.WellFormed.node?_parent {ir : StructuralIR} (h : ir.WellFormed)
    {node : ConfigNode} (hmem : node ∈ ir.nodes) {id : String} (hid : node.parentId = some id) :
    ∃ parent, ir.node? id = some parent ∧ parent ∈ ir.nodes ∧ parent.order < node.order := by
  obtain ⟨parent, hparent, rfl, horder⟩ := h.parent node hmem id hid
  exact ⟨parent, h.node?_self hparent, hparent, horder⟩

/-- The text the id of a node of a tree is the hash of, which its order ends. -/
def treeIdentity (artifactId : UUID) (path : String) (order : Nat) : String :=
  artifactId.str ++ "|" ++ path ++ "|" ++ toString order

theorem order_of_treeIdentity {artifactId artifactId' : UUID} {path path' : String} {o o' : Nat}
    (h : treeIdentity artifactId path o = treeIdentity artifactId' path' o') : o = o' := by
  have hno : ∀ n : Nat, '|' ∉ (toString n).toList :=
    fun n => Text.not_mem_toString n (by decide)
  have hend : ∀ (a : UUID) (p : String) (n : Nat), (treeIdentity a p n).toList.reverse =
      (toString n).toList.reverse ++ '|' :: (a.str ++ "|" ++ p).toList.reverse := by
    intro a p n
    simp [treeIdentity, List.reverse_append]
  have hreverse := hend artifactId path o
  rw [h, hend] at hreverse
  have hfirst := congrArg (Text.splitFirst '|') hreverse
  rw [Text.splitFirst_append _ _ _ (by simpa using hno o'),
    Text.splitFirst_append _ _ _ (by simpa using hno o)] at hfirst
  simp only [Option.some.injEq, Prod.mk.injEq, List.reverse_inj, String.toList_inj] at hfirst
  exact (Text.toString_injective hfirst.1).symm

structure XmlNode where
  nodeId : String
  path : List String
  tag : String
  attributes : List (String × String)
  text : Option String
  parentId : Option String
  order : Nat
  source : ArtifactProvenance
  deriving DecidableEq

structure XmlStructuralIR where
  readerId : String
  source : ArtifactProvenance
  nodes : List XmlNode
  truncated : Bool
  deriving DecidableEq

/-- One step of a JSON path: a property or an array index. -/
inductive JsonStep where
  | key (name : String)
  | index (i : Int)
  deriving DecidableEq

structure JsonNode where
  nodeId : String
  path : List JsonStep
  value : PyValue
  parentId : Option String
  order : Nat
  source : ArtifactProvenance
  deriving DecidableEq

structure JsonStructuralIR where
  readerId : String
  source : ArtifactProvenance
  nodes : List JsonNode
  truncated : Bool
  deriving DecidableEq

end ConfigAuditor.Parsing
