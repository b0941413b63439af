import ConfigAuditor.Library.Forest
import ConfigAuditor.Parsing.JsonTree
import ConfigAuditor.Parsing.XmlTree

/-!
# The data of structured documents

What a JSON or XML document holds, in the order of the document, and that the readers make one
node for each value or element of a document they do not cut.
-/
namespace ConfigAuditor.Parsing.Documents

open Library

mutual
/-- The values of a document in source order, each with its path. -/
def values : List JsonStep → PyValue → List (List JsonStep × PyValue)
  | path, .dict entries => (path, .dict entries) :: entryValues path entries
  | path, .list items => (path, .list items) :: itemValues path 0 items
  | path, value => [(path, value)]

def entryValues : List JsonStep → List (String × PyValue) → List (List JsonStep × PyValue)
  | _, [] => []
  | path, (key, child) :: rest => values (path ++ [.key key]) child ++ entryValues path rest

def itemValues : List JsonStep → Nat → List PyValue → List (List JsonStep × PyValue)
  | _, _, [] => []
  | path, index, child :: rest =>
    values (path ++ [.index index]) child ++ itemValues path (index + 1) rest
end

/-- The path and the value of a node. -/
def placeOf (node : JsonNode) : List JsonStep × PyValue := (node.path, node.value)

section Json

variable {sha256 : String → String} {reprPath : List JsonStep → String}
  {source : ArtifactProvenance}

theorem boundedValue_of_not_cut {value : PyValue} (h : JsonTree.valueCut value = false) :
    JsonTree.boundedValue value = value := by
  cases value with
  | str s =>
    simp only [JsonTree.valueCut, decide_eq_false_iff_not, not_lt] at h
    rw [JsonTree.boundedValue, List.take_of_length_le h, String.ofList_toList]
  | _ => rfl

mutual
/-- A visit that cuts nothing adds a node for every value. -/
theorem visit_whole (value : PyValue) (parentId : Option String) (path : List JsonStep)
    (depth : Nat) (state : JsonTree.Visit)
    (h : (JsonTree.visit sha256 reprPath source value parentId path depth state).truncated =
      false) : state.truncated = false ∧
      (JsonTree.visit sha256 reprPath source value parentId path depth state).nodes.map placeOf =
        state.nodes.map placeOf ++ values path value := by
  rw [JsonTree.visit] at h ⊢
  split at h
  · cases h
  rename_i hroom
  rw [if_neg hroom]
  cases value with
  | dict entries =>
    obtain ⟨hbefore, hnodes⟩ := visitEntries_whole entries _ path _ _ h
    refine ⟨by simpa using (Bool.or_eq_false_iff.mp hbefore).1, hnodes.trans ?_⟩
    simp [values, placeOf, JsonTree.nodeOf, JsonTree.boundedValue]
  | list items =>
    obtain ⟨hbefore, hnodes⟩ := visitItems_whole items _ path _ 0 _ h
    refine ⟨by simpa using (Bool.or_eq_false_iff.mp hbefore).1, hnodes.trans ?_⟩
    simp [values, placeOf, JsonTree.nodeOf, JsonTree.boundedValue]
  | _ =>
    obtain ⟨hbefore, hcut⟩ := Bool.or_eq_false_iff.mp h
    refine ⟨hbefore, ?_⟩
    simp [values, placeOf, JsonTree.nodeOf, boundedValue_of_not_cut hcut]

theorem visitEntries_whole (entries : List (String × PyValue)) (parentId : String)
    (path : List JsonStep) (depth : Nat) (state : JsonTree.Visit)
    (h : (JsonTree.visitEntries sha256 reprPath source entries parentId path depth
      state).truncated = false) : state.truncated = false ∧
      (JsonTree.visitEntries sha256 reprPath source entries parentId path depth
        state).nodes.map placeOf = state.nodes.map placeOf ++ entryValues path entries := by
  cases entries with
  | nil =>
    rw [JsonTree.visitEntries] at h ⊢
    exact ⟨h, by simp [entryValues]⟩
  | cons entry rest =>
    obtain ⟨key, child⟩ := entry
    rw [JsonTree.visitEntries] at h ⊢
    obtain ⟨hmiddle, hrest⟩ := visitEntries_whole rest parentId path depth _ h
    obtain ⟨hbefore, hchild⟩ := visit_whole child _ _ _ _ hmiddle
    exact ⟨hbefore, by rw [hrest, hchild, entryValues, List.append_assoc]⟩

theorem visitItems_whole (items : List PyValue) (parentId : String) (path : List JsonStep)
    (depth index : Nat) (state : JsonTree.Visit)
    (h : (JsonTree.visitItems sha256 reprPath source items parentId path depth index
      state).truncated = false) : state.truncated = false ∧
      (JsonTree.visitItems sha256 reprPath source items parentId path depth index
        state).nodes.map placeOf = state.nodes.map placeOf ++ itemValues path index items := by
  cases items with
  | nil =>
    rw [JsonTree.visitItems] at h ⊢
    exact ⟨h, by simp [itemValues]⟩
  | cons child rest =>
    rw [JsonTree.visitItems] at h ⊢
    obtain ⟨hmiddle, hrest⟩ := visitItems_whole rest parentId path depth _ _ h
    obtain ⟨hbefore, hchild⟩ := visit_whole child _ _ _ _ hmiddle
    exact ⟨hbefore, by rw [hrest, hchild, itemValues, List.append_assoc]⟩
end

/-- The nodes of a document that is not cut are its values. -/
theorem json_nodes {loads : String → Option PyValue} {request : StructuralParseRequest}
    {ir : JsonStructuralIR} (h : JsonTree.parse sha256 reprPath loads request = .ok ir)
    (hwhole : ir.truncated = false) :
    ∃ payload, loads request.content = some payload ∧ ir.nodes.map placeOf = values [] payload := by
  simp only [JsonTree.parse, except_bind_eq_ok] at h
  obtain ⟨_, -, h⟩ := h
  split at h
  · cases h
  · rename_i payload hpayload
    obtain rfl := except_pure_eq_ok.mp h
    obtain ⟨hvisit, -⟩ := Bool.or_eq_false_iff.mp hwhole
    exact ⟨payload, hpayload, (visit_whole payload none [] 0 {} hvisit).2⟩

end Json

/-- An element with all its character data: the text before its first child, and for every child
the text that follows it. The XML reader reads no `tail`. -/
inductive MixedElement where
  | mk (tag : String) (attributes : List (String × String)) (text tail : Option String)
    (children : List MixedElement)

namespace MixedElement

def tag : MixedElement → String
  | mk tag _ _ _ _ => tag

def attributes : MixedElement → List (String × String)
  | mk _ attributes _ _ _ => attributes

def text : MixedElement → Option String
  | mk _ _ text _ _ => text

def tail : MixedElement → Option String
  | mk _ _ _ tail _ => tail

def children : MixedElement → List MixedElement
  | mk _ _ _ _ children => children

mutual
/-- What the reader reads of an element. -/
def element : MixedElement → XmlTree.Element
  | mk tag attributes text _ children => .mk tag attributes text (elementList children)

def elementList : List MixedElement → List XmlTree.Element
  | [] => []
  | child :: rest => child.element :: elementList rest
end

mutual
/-- An element and all elements in it, in document order. -/
def elements : MixedElement → List MixedElement
  | mk tag attributes text tail children =>
    mk tag attributes text tail children :: elementsIn children

def elementsIn : List MixedElement → List MixedElement
  | [] => []
  | child :: rest => child.elements ++ elementsIn rest
end

@[simp] theorem element_tag (e : MixedElement) : e.element.tag = e.tag := by
  cases e
  rfl

end MixedElement

section Xml

variable (sha256 : String → String) (reprPath : List String → String)
  (source : ArtifactProvenance)

/-- The step to a child that follows children with the tags `seen`. -/
def stepTo (tag : String) (seen : List String) : String :=
  tag ++ "[" ++ toString (seen.count tag + 1) ++ "]"

theorem stepTo_nil (tag : String) : stepTo tag [] = tag ++ "[1]" := by
  rw [stepTo, List.count_nil, show toString (0 + 1) = "1" from rfl, String.append_assoc,
    String.append_assoc]
  rfl

mutual
/-- The nodes of elements of one parent with those of all elements in them, each with its element,
from a node count on. -/
def grove : List MixedElement → Option String → List String → List String → Nat →
    Forest (XmlNode × MixedElement)
  | [], _, _, _, _ => .nil
  | child :: rest, parentId, path, seen, count =>
    let here := path ++ [stepTo child.tag seen]
    let node := XmlTree.nodeOf sha256 reprPath source child.tag child.attributes child.text parentId
      here (count + 1)
    let inner := groveIn child node.nodeId here (count + 1)
    .cons (node, child) inner
      (grove rest parentId path (child.tag :: seen) (count + 1 + inner.preorder.length))

def groveIn : MixedElement → String → List String → Nat → Forest (XmlNode × MixedElement)
  | .mk _ _ _ _ children, nodeId, path, count => grove children (some nodeId) path [] count
end

variable {sha256 reprPath source}

mutual
/-- A visit that cuts nothing adds the nodes of the element and of all elements in it. -/
theorem visit_grove (child : MixedElement) (parentId : Option String) (path : List String)
    (depth : Nat) (state : XmlTree.Visit)
    (h : (XmlTree.visit sha256 reprPath source child.element parentId path depth state).truncated =
      false) : state.truncated = false ∧
      (XmlTree.visit sha256 reprPath source child.element parentId path depth state).nodes =
        state.nodes ++ XmlTree.nodeOf sha256 reprPath source child.tag child.attributes child.text
          parentId path (state.nodes.length + 1) ::
          (groveIn sha256 reprPath source child (XmlTree.nodeOf sha256 reprPath source child.tag
            child.attributes child.text parentId path (state.nodes.length + 1)).nodeId path
            (state.nodes.length + 1)).preorder.map (·.1) ∧
      ∀ e ∈ child.elements, XmlTree.textCut e.text = false := by
  obtain ⟨tag, attributes, text, tail, children⟩ := child
  rw [MixedElement.element, XmlTree.visit] at h ⊢
  split at h
  · cases h
  rename_i hroom
  rw [if_neg hroom]
  obtain ⟨hbefore, hnodes, hcuts⟩ := visitChildren_grove children _ path _ [] _ h
  obtain ⟨hstate, hcut⟩ := Bool.or_eq_false_iff.mp hbefore
  refine ⟨hstate, hnodes.trans ?_, ?_⟩
  · rw [List.append_assoc, List.length_append, List.length_singleton]
    rfl
  · intro e he
    rw [MixedElement.elements] at he
    rcases List.mem_cons.mp he with rfl | he
    · exact hcut
    · exact hcuts e he

theorem visitChildren_grove (children : List MixedElement) (parentId : String)
    (path : List String) (depth : Nat) (seen : List String) (state : XmlTree.Visit)
    (h : (XmlTree.visitChildren sha256 reprPath source (MixedElement.elementList children) parentId
      path depth seen state).truncated = false) : state.truncated = false ∧
      (XmlTree.visitChildren sha256 reprPath source (MixedElement.elementList children) parentId
        path depth seen state).nodes = state.nodes ++ (grove sha256 reprPath source children
          (some parentId) path seen state.nodes.length).preorder.map (·.1) ∧
      ∀ e ∈ MixedElement.elementsIn children, XmlTree.textCut e.text = false := by
  cases children with
  | nil =>
    rw [MixedElement.elementList, XmlTree.visitChildren] at h ⊢
    exact ⟨h, by simp [grove], fun e he => by simp [MixedElement.elementsIn] at he⟩
  | cons child rest =>
    rw [MixedElement.elementList, XmlTree.visitChildren] at h ⊢
    obtain ⟨hmiddle, hrest, hrestCuts⟩ := visitChildren_grove rest parentId path depth _ _ h
    obtain ⟨hbefore, hchild, hchildCuts⟩ := visit_grove child _ _ _ _ hmiddle
    refine ⟨hbefore, ?_, ?_⟩
    · simp only [MixedElement.element_tag] at hrest hchild ⊢
      rw [hrest, hchild]
      have hcount : ∀ n, state.nodes.length + 1 + n = state.nodes.length + (n + 1) := by
        intro n
        omega
      simp only [grove, Forest.preorder_cons, List.map_cons, List.map_append, List.append_assoc,
        List.cons_append, List.length_append, List.length_cons, List.length_map, hcount]
      rfl
    · intro e he
      rw [MixedElement.elementsIn] at he
      rcases List.mem_append.mp he with he | he
      · exact hchildCuts e he
      · exact hrestCuts e he
end

mutual
theorem grove_elements (children : List MixedElement) (parentId : Option String)
    (path seen : List String) (count : Nat) :
    (grove sha256 reprPath source children parentId path seen count).preorder.map (·.2) =
      MixedElement.elementsIn children := by
  cases children with
  | nil => simp [grove, MixedElement.elementsIn]
  | cons child rest =>
    rw [grove, MixedElement.elementsIn]
    simp only [Forest.preorder_cons, List.map_cons, List.map_append]
    rw [grove_elements rest, ← List.cons_append, groveIn_elements child]

theorem groveIn_elements (child : MixedElement) (nodeId : String) (path : List String)
    (count : Nat) :
    child :: (groveIn sha256 reprPath source child nodeId path count).preorder.map (·.2) =
      child.elements := by
  obtain ⟨tag, attributes, text, tail, children⟩ := child
  rw [groveIn, MixedElement.elements, grove_elements children]
end

/-- A node is the one of its element: it names its parent, and has children if the element has. -/
structure NodeOf (ancestors : List String) (pair : XmlNode × MixedElement)
    (children : List String) : Prop where
  parentId : pair.1.parentId = ancestors.getLast?
  tag : pair.1.tag = pair.2.tag
  text : pair.1.text = XmlTree.boundedText pair.2.text
  children : children = [] ↔ pair.2.children = []

theorem groveIn_roots (child : MixedElement) (nodeId : String) (path : List String)
    (count : Nat) : (groveIn sha256 reprPath source child nodeId path count).roots.map
      (·.1.nodeId) = [] ↔ child.children = [] := by
  obtain ⟨tag, attributes, text, tail, children⟩ := child
  cases children with
  | nil => simp [groveIn, grove, MixedElement.children]
  | cons first rest => simp [groveIn, grove, MixedElement.children]

mutual
theorem grove_all (children : List MixedElement) {parentId : Option String}
    (path seen : List String) (count : Nat) {ancestors : List String}
    (hlast : ancestors.getLast? = parentId) :
    (grove sha256 reprPath source children parentId path seen count).All (·.1.nodeId) NodeOf
      ancestors := by
  cases children with
  | nil =>
    rw [grove]
    trivial
  | cons child rest =>
    rw [grove]
    exact ⟨⟨hlast.symm, rfl, rfl, groveIn_roots child _ _ _⟩, groveIn_all child _ _ ancestors,
      grove_all rest path _ _ hlast⟩

theorem groveIn_all (child : MixedElement) {nodeId : String} (path : List String) (count : Nat)
    (ancestors : List String) :
    (groveIn sha256 reprPath source child nodeId path count).All (·.1.nodeId) NodeOf
      (ancestors ++ [nodeId]) := by
  obtain ⟨tag, attributes, text, tail, children⟩ := child
  rw [groveIn]
  exact grove_all children path [] count List.getLast?_concat
end

/-- The nodes of a document that is not cut are those of its elements, in document order. -/
theorem xml_nodes {isWord : Char → Bool} {fromString : String → Option MixedElement}
    {request : StructuralParseRequest} {ir : XmlStructuralIR}
    (h : XmlTree.parse sha256 reprPath isWord (fun content => (fromString content).map (·.element))
      request = .ok ir) (hwhole : ir.truncated = false) :
    ∃ root, fromString request.content = some root ∧
      ir.nodes = (grove sha256 reprPath request.source [root] none [] [] 0).preorder.map (·.1) ∧
      ∀ e ∈ root.elements, XmlTree.textCut e.text = false := by
  simp only [XmlTree.parse, except_bind_eq_ok] at h
  obtain ⟨_, -, _, hsize, h⟩ := h
  have hall : String.ofList (request.content.toList.take XmlTree.maxInputCharacters) =
      request.content := by
    have hle := raiseIf_eq_ok.mp hsize
    rw [List.take_of_length_le (by simpa using hle), String.ofList_toList]
  rw [hall] at h
  split at h
  · cases h
  · rename_i element helement
    obtain ⟨root, hroot, rfl⟩ := Option.map_eq_some_iff.mp helement
    obtain rfl := except_pure_eq_ok.mp h
    obtain ⟨hvisit, -⟩ := Bool.or_eq_false_iff.mp hwhole
    obtain ⟨-, hnodes, hcuts⟩ := visit_grove root none _ 0 {} hvisit
    refine ⟨root, hroot, ?_, hcuts⟩
    simp only [MixedElement.element_tag] at hnodes ⊢
    rw [hnodes]
    simp only [grove, stepTo_nil, Forest.preorder_cons, Forest.preorder_nil, List.append_nil,
      List.map_cons, List.nil_append]
    rfl

end Xml

end ConfigAuditor.Parsing.Documents
