import ConfigAuditor.Library.Sorting
import ConfigAuditor.Parsing.Models
import ConfigAuditor.Errors

/-!
# The XML reader

`app.parsing.readers.xml_tree`: the elements of a document in source order, within
bounds on depth, count and text. The document parser (`ElementTree.fromstring`), the
`repr` of a path and the Unicode class of word characters are parameters.
-/
namespace ConfigAuditor.Parsing.XmlTree

open Library

def readerId : String := "xml_tree.v1"
def maxInputCharacters : Nat := 2 * 1024 * 1024
def maxDepth : Nat := 64
def maxNodes : Nat := 20000
def maxText : Nat := 16 * 1024

/-- `ElementTree.Element`: tag, attributes, leading text and children. -/
inductive Element where
  | mk (tag : String) (attributes : List (String × String)) (text : Option String)
    (children : List Element)

def Element.tag : Element → String
  | .mk tag _ _ _ => tag

/-- A word of the pattern, and what follows it. -/
def afterPattern (word : String) (cs : List Char) : Option (List Char) :=
  if (cs.take word.length).map Text.foldCase = word.toList then some (cs.drop word.length)
  else none

section Declarations

variable (isWord : Char → Bool)

/-- `\s*(?:DOCTYPE|ENTITY|ELEMENT|ATTLIST)\b`. -/
def declaration (cs : List Char) : Bool :=
  ["doctype", "entity", "element", "attlist"].any fun word =>
    (afterPattern word (cs.dropWhile Text.isSpace)).any fun rest => !rest.head?.any isWord

/-- `(?:SYSTEM|PUBLIC)\s+['"]`. -/
def externalId (cs : List Char) : Bool :=
  ["system", "public"].any fun word =>
    (afterPattern word cs).any fun rest =>
      rest.head?.any Text.isSpace &&
        (rest.dropWhile Text.isSpace).head?.any fun c => c == '\'' || c == '"'

/-- The pattern searched for from a position on; `afterWord` tells whether a word
character stands before it. -/
def declaresFrom (afterWord : Bool) : List Char → Bool
  | [] => false
  | c :: cs =>
    (c == '<' && cs.head? == some '!' && declaration isWord (cs.drop 1)) ||
      (!afterWord && externalId (c :: cs)) || declaresFrom (isWord c) cs

end Declarations

section Loop

variable (sha256 : String → String) (reprPath : List String → String)
  (source : ArtifactProvenance)

/-- The variables `visit` shares with `parse`. -/
structure Visit where
  nodes : List XmlNode := []
  truncated : Bool := false

/-- The text a node id is the hash of. -/
def identityOf (node : XmlNode) : String :=
  treeIdentity node.source.artifactId (reprPath node.path) node.order

def textCut (text : Option String) : Bool := text.any fun t => maxText < t.toList.length

/-- The text of a node: cut, or stripped, or none when it is blank. -/
def boundedText (text : Option String) : Option String :=
  if textCut text then text.map fun t => String.ofList (t.toList.take maxText)
  else (text.map Text.strip).filter (!·.isEmpty)

/-- The node `visit` makes of an element. -/
def nodeOf (tag : String) (attributes : List (String × String)) (text : Option String)
    (parentId : Option String) (path : List String) (order : Nat) : XmlNode :=
  { nodeId := hashedId sha256 "xmln_" (treeIdentity source.artifactId (reprPath path) order),
    path, tag, attributes := sortedBy (·.1) attributes, text := boundedText text, parentId, order,
    source }

mutual
def visit : Element → Option String → List String → Nat → Visit → Visit
  | .mk tag attributes text children, parentId, path, depth, state =>
    if maxNodes ≤ state.nodes.length ∨ maxDepth < depth then { state with truncated := true }
    else
      let node := nodeOf sha256 reprPath source tag attributes text parentId path
        (state.nodes.length + 1)
      visitChildren children node.nodeId path (depth + 1) []
        { nodes := state.nodes ++ [node], truncated := state.truncated || textCut text }

/-- The children that follow those with the tags `seen`. -/
def visitChildren : List Element → String → List String → Nat → List String → Visit → Visit
  | [], _, _, _, _, state => state
  | child :: rest, parentId, path, depth, seen, state =>
    let step := child.tag ++ "[" ++ toString (seen.count child.tag + 1) ++ "]"
    visitChildren rest parentId path depth (child.tag :: seen)
      (visit child (some parentId) (path ++ [step]) depth state)
end

variable (isWord : Char → Bool) (fromString : String → Option Element)

/-- `XmlTreeReader.parse`. -/
def parse (request : StructuralParseRequest) : Except Error XmlStructuralIR := do
  let content := request.content.toList.take maxInputCharacters
  raiseIf (declaresFrom isWord false content)
    (.valueError "XML DTD and entity declarations are not supported")
  raiseIf (decide (maxInputCharacters < request.content.toList.length))
    (.valueError "XML input exceeds the bounded size limit")
  match fromString (String.ofList content) with
  | none => .error (.valueError "Malformed XML evidence")
  | some root =>
    let state := visit sha256 reprPath request.source root none [root.tag ++ "[1]"] 0 {}
    return {
      readerId, source := request.source, nodes := state.nodes,
      truncated := state.truncated || request.inputTruncated }

end Loop

section NodeIds

variable {sha256 : String → String} {reprPath : List String → String}
  {source : ArtifactProvenance} {isWord : Char → Bool} {fromString : String → Option Element}

/-- What every visit keeps. -/
structure Inv (sha256 : String → String) (reprPath : List String → String)
    (source : ArtifactProvenance) (state : Visit) : Prop where
  hashed : HashedNodes sha256 "xmln_" (·.nodeId) (·.order) (identityOf reprPath) state.nodes
  source_eq : ∀ node ∈ state.nodes, node.source = source

mutual
theorem inv_visit (element : Element) (parentId : Option String) (path : List String)
    (depth : Nat) {state : Visit} (h : Inv sha256 reprPath source state) :
    Inv sha256 reprPath source (visit sha256 reprPath source element parentId path depth state) := by
  cases element with
  | mk tag attributes text children =>
    rw [visit]
    split
    · exact ⟨h.hashed, h.source_eq⟩
    · refine inv_visitChildren children _ path (depth + 1) [] ⟨h.hashed.append rfl rfl, ?_⟩
      intro node hnode
      rcases List.mem_append.mp hnode with hnode | hnode
      · exact h.source_eq node hnode
      · obtain rfl := List.mem_singleton.mp hnode
        rfl

theorem inv_visitChildren (children : List Element) (parentId : String) (path : List String)
    (depth : Nat) (seen : List String) {state : Visit} (h : Inv sha256 reprPath source state) :
    Inv sha256 reprPath source
      (visitChildren sha256 reprPath source children parentId path depth seen state) := by
  cases children with
  | nil =>
    rw [visitChildren]
    exact h
  | cons child rest =>
    rw [visitChildren]
    exact inv_visitChildren rest parentId path depth _ (inv_visit child _ _ depth h)
end

/-- The trees the reader returns name their source, and their ids are distinct. -/
theorem parse_spec {request : StructuralParseRequest} {ir : XmlStructuralIR}
    (h : parse sha256 reprPath isWord fromString request = .ok ir) :
    ir.readerId = readerId ∧ ir.source = request.source ∧
      (∀ node ∈ ir.nodes, node.source = request.source) ∧
      (HashesApart sha256 "xmln_" (identityOf reprPath) ir.nodes →
        (ir.nodes.map (·.nodeId)).Nodup) := by
  simp only [parse, except_bind_eq_ok] at h
  obtain ⟨_, -, _, -, h⟩ := h
  split at h
  · cases h
  · rename_i root _
    obtain rfl := except_pure_eq_ok.mp h
    have hinv : Inv sha256 reprPath request.source
        (visit sha256 reprPath request.source root none [root.tag ++ "[1]"] 0 {}) :=
      inv_visit root none _ 0 ⟨⟨rfl, by simp⟩, by simp⟩
    exact ⟨rfl, rfl, hinv.source_eq, hinv.hashed.nodup fun node _ other _ hid =>
      order_of_treeIdentity hid⟩

end NodeIds

end ConfigAuditor.Parsing.XmlTree
