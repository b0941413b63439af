import ConfigAuditor.Parsing.Models
import ConfigAuditor.Errors

/-!
# The JSON reader

`app.parsing.readers.json_tree`: the values of a document in source order, within
bounds on depth, count and length. The document parser (`json.loads` with the hooks of
the reader) and the `repr` of a path are parameters.
-/
namespace ConfigAuditor.Parsing.JsonTree

open Library

def readerId : String := "json_tree.v1"
def maxInputCharacters : Nat := 2 * 1024 * 1024
def maxDepth : Nat := 64
def maxNodes : Nat := 20000
def maxString : Nat := 16 * 1024

section Loop

variable (sha256 : String → String) (reprPath : List JsonStep → String)
  (source : ArtifactProvenance)

/-- The variables `visit` shares with `parse`. -/
structure Visit where
  nodes : List JsonNode := []
  truncated : Bool := false

/-- The text a node id is the hash of. -/
def identityOf (node : JsonNode) : String :=
  treeIdentity node.source.artifactId (reprPath node.path) node.order

def valueCut : PyValue → Bool
  | .str s => maxString < s.toList.length
  | _ => false

/-- The value of a node: a long text is cut. -/
def boundedValue : PyValue → PyValue
  | .str s => .str (String.ofList (s.toList.take maxString))
  | value => value

/-- The node `visit` makes of a value. -/
def nodeOf (value : PyValue) (parentId : Option String) (path : List JsonStep) (order : Nat) :
    JsonNode :=
  { nodeId := hashedId sha256 "jsonn_" (treeIdentity source.artifactId (reprPath path) order),
    path, value := boundedValue value, parentId, order, source }

mutual
def visit : PyValue → Option String → List JsonStep → Nat → Visit → Visit
  | value, parentId, path, depth, state =>
    if maxNodes ≤ state.nodes.length ∨ maxDepth < depth then { state with truncated := true }
    else
      let node := nodeOf sha256 reprPath source value parentId path (state.nodes.length + 1)
      let state : Visit :=
        { nodes := state.nodes ++ [node], truncated := state.truncated || valueCut value }
      match value with
      | .dict entries => visitEntries entries node.nodeId path (depth + 1) state
      | .list items => visitItems items node.nodeId path (depth + 1) 0 state
      | _ => state

def visitEntries : List (String × PyValue) → String → List JsonStep → Nat → Visit → Visit
  | [], _, _, _, state => state
  | (key, child) :: rest, parentId, path, depth, state =>
    visitEntries rest parentId path depth
      (visit child (some parentId) (path ++ [.key key]) depth state)

def visitItems : List PyValue → String → List JsonStep → Nat → Nat → Visit → Visit
  | [], _, _, _, _, state => state
  | child :: rest, parentId, path, depth, index, state =>
    visitItems rest parentId path depth (index + 1)
      (visit child (some parentId) (path ++ [.index index]) depth state)
end

variable (loads : String → Option PyValue)

/-- `JsonTreeReader.parse`. -/
def parse (request : StructuralParseRequest) : Except Error JsonStructuralIR := do
  raiseIf (decide (maxInputCharacters < request.content.toList.length))
    (.valueError "JSON input exceeds the bounded size limit")
  match loads request.content with
  | none => .error (.valueError "Malformed JSON evidence")
  | some payload =>
    let state := visit sha256 reprPath request.source payload none [] 0 {}
    return {
      readerId, source := request.source, nodes := state.nodes,
      truncated := state.truncated || request.inputTruncated }

end Loop

section NodeIds

variable {sha256 : String → String} {reprPath : List JsonStep → String}
  {source : ArtifactProvenance} {loads : String → Option PyValue}

/-- What every visit keeps. -/
structure Inv (sha256 : String → String) (reprPath : List JsonStep → String)
    (source : ArtifactProvenance) (state : Visit) : Prop where
  hashed : HashedNodes sha256 "jsonn_" (·.nodeId) (·.order) (identityOf reprPath) state.nodes
  source_eq : ∀ node ∈ state.nodes, node.source = source

mutual
theorem inv_visit (value : PyValue) (parentId : Option String) (path : List JsonStep)
    (depth : Nat) {state : Visit} (h : Inv sha256 reprPath source state) :
    Inv sha256 reprPath source (visit sha256 reprPath source value parentId path depth state) := by
  rw [visit]
  split
  · exact ⟨h.hashed, h.source_eq⟩
  have hadded : ∀ truncated, Inv sha256 reprPath source
      { nodes := state.nodes ++
          [nodeOf sha256 reprPath source value parentId path (state.nodes.length + 1)],
        truncated } := by
    intro truncated
    refine ⟨h.hashed.append rfl rfl, fun node hnode => ?_⟩
    rcases List.mem_append.mp hnode with hnode | hnode
    · exact h.source_eq node hnode
    · obtain rfl := List.mem_singleton.mp hnode
      rfl
  cases value with
  | dict entries => exact inv_visitEntries entries _ path (depth + 1) (hadded _)
  | list items => exact inv_visitItems items _ path (depth + 1) 0 (hadded _)
  | _ => exact hadded _

theorem inv_visitEntries (entries : List (String × PyValue)) (parentId : String)
    (path : List JsonStep) (depth : Nat) {state : Visit} (h : Inv sha256 reprPath source state) :
    Inv sha256 reprPath source
      (visitEntries sha256 reprPath source entries parentId path depth state) := by
  cases entries with
  | nil =>
    rw [visitEntries]
    exact h
  | cons entry rest =>
    obtain ⟨key, child⟩ := entry
    rw [visitEntries]
    exact inv_visitEntries rest parentId path depth (inv_visit child _ _ depth h)

theorem inv_visitItems (items : List PyValue) (parentId : String) (path : List JsonStep)
    (depth index : Nat) {state : Visit} (h : Inv sha256 reprPath source state) :
    Inv sha256 reprPath source
      (visitItems sha256 reprPath source items parentId path depth index state) := by
  cases items with
  | nil =>
    rw [visitItems]
    exact h
  | cons child rest =>
    rw [visitItems]
    exact inv_visitItems rest parentId path depth (index + 1) (inv_visit child _ _ depth h)
end

/-- The trees the reader returns name their source, and their ids are distinct. -/
theorem parse_spec {request : StructuralParseRequest} {ir : JsonStructuralIR}
    (h : parse sha256 reprPath loads request = .ok ir) :
    ir.readerId = readerId ∧ ir.source = request.source ∧
      (∀ node ∈ ir.nodes, node.source = request.source) ∧
      (HashesApart sha256 "jsonn_" (identityOf reprPath) ir.nodes →
        (ir.nodes.map (·.nodeId)).Nodup) := by
  simp only [parse, except_bind_eq_ok] at h
  obtain ⟨_, -, h⟩ := h
  split at h
  · cases h
  · rename_i payload _
    obtain rfl := except_pure_eq_ok.mp h
    have hinv : Inv sha256 reprPath request.source
        (visit sha256 reprPath request.source payload none [] 0 {}) :=
      inv_visit payload none [] 0 ⟨⟨rfl, by simp⟩, by simp⟩
    exact ⟨rfl, rfl, hinv.source_eq, hinv.hashed.nodup fun node _ other _ hid =>
      order_of_treeIdentity hid⟩

end NodeIds

end ConfigAuditor.Parsing.JsonTree
