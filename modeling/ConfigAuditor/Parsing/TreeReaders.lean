import ConfigAuditor.Library.PathTree
import ConfigAuditor.Parsing.Documents

/-!
# The tree readers are faithful

A JSON or XML document is a tree whose edges are labelled by the steps of a path. The readers
list it in pre-order; what they leave out shows in the flag `truncated`.
-/
namespace ConfigAuditor.Parsing.TreeReaders

open Library Library.PathTree Documents

section Represents

variable {ν σ α : Type}

/-- How the nodes of a reader show a tree. -/
structure Columns (ν σ : Type) where
  path : ν → List σ
  nodeId : ν → String
  parentId : ν → Option String
  order : ν → Nat

/-- A node is the root, or the child by one step of the node it names. -/
def Parented (columns : Columns ν σ) (start : List σ) (nodes : List ν) (path : List σ)
    (parentId : Option String) : Prop :=
  (path = start ∧ parentId = none) ∨
    ∃ parent ∈ nodes, ∃ step, path = columns.path parent ++ [step] ∧
      parentId = some (columns.nodeId parent)

/-- The nodes list the tree below `start` in pre-order. -/
structure Represents (columns : Columns ν σ) [DecidableEq σ] (shows : ν → α → Prop)
    (start : List σ) (tree : PathTree σ α) (nodes : List ν) : Prop where
  listed : List.Forall₂ (fun node place => columns.path node = place.1 ∧ shows node place.2)
    nodes (tree.listing start)
  orders : nodes.map columns.order = List.range' 1 nodes.length
  paths : (nodes.map columns.path).Nodup
  ids : (nodes.map columns.nodeId).Nodup
  parents : ∀ node ∈ nodes, Parented columns start nodes (columns.path node)
    (columns.parentId node)
  found : ∀ node ∈ nodes, ∃ below value, columns.path node = start ++ below ∧
    tree.valueAt below = some value ∧ shows node value

theorem Parented.mono {columns : Columns ν σ} {start : List σ} {nodes nodes' : List ν}
    (hsub : nodes ⊆ nodes') {path : List σ} {parentId : Option String}
    (h : Parented columns start nodes path parentId) :
    Parented columns start nodes' path parentId := by
  rcases h with hroot | ⟨parent, hparent, hstep⟩
  · exact .inl hroot
  · exact .inr ⟨parent, hsub hparent, hstep⟩

/-- Every node has its parent among the nodes. -/
def AllParented (columns : Columns ν σ) (start : List σ) (nodes : List ν) : Prop :=
  ∀ node ∈ nodes, Parented columns start nodes (columns.path node) (columns.parentId node)

theorem AllParented.append {columns : Columns ν σ} {start : List σ} {nodes : List ν}
    (h : AllParented columns start nodes) {node : ν}
    (hnode : Parented columns start nodes (columns.path node) (columns.parentId node)) :
    AllParented columns start (nodes ++ [node]) := by
  have hsub : nodes ⊆ nodes ++ [node] := List.subset_append_left _ _
  intro other hother
  rcases List.mem_append.mp hother with hother | hother
  · exact (h other hother).mono hsub
  · obtain rfl := List.mem_singleton.mp hother
    exact hnode.mono hsub

/-- The listing of a labelled tree gives the rest. -/
theorem represents_of_listed {columns : Columns ν σ} [DecidableEq σ] {shows : ν → α → Prop}
    {start : List σ} {tree : PathTree σ α} {nodes : List ν} (htree : tree.Labelled)
    (hlisted : List.Forall₂ (fun node place => columns.path node = place.1 ∧ shows node place.2)
      nodes (tree.listing start))
    (horders : nodes.map columns.order = List.range' 1 nodes.length)
    (hids : (nodes.map columns.nodeId).Nodup) (hparents : AllParented columns start nodes) :
    Represents columns shows start tree nodes := by
  have hpaths : nodes.map columns.path = (tree.listing start).map (·.1) := by
    clear horders hids hparents
    generalize tree.listing start = places at hlisted
    induction hlisted with
    | nil => rfl
    | cons hhead _ ih => rw [List.map_cons, List.map_cons, hhead.1, ih]
  refine ⟨hlisted, horders, ?_, hids, hparents, ?_⟩
  · rw [hpaths]
    exact nodup_listing tree htree start
  · intro node hnode
    obtain ⟨place, hplace, hpath, hshows⟩ : ∃ place ∈ tree.listing start,
        columns.path node = place.1 ∧ shows node place.2 := by
      clear hpaths horders hids hparents
      generalize tree.listing start = places at hlisted
      induction hlisted with
      | nil => cases hnode
      | cons hhead _ ih =>
        rcases List.mem_cons.mp hnode with rfl | hrest
        · exact ⟨_, List.mem_cons_self, hhead⟩
        · obtain ⟨place, hplace, hrest⟩ := ih hrest
          exact ⟨place, List.mem_cons_of_mem _ hplace, hrest⟩
    obtain ⟨path, value⟩ := place
    obtain ⟨below, rfl⟩ := mem_listing tree hplace
    exact ⟨below, value, hpath, valueAt_listing tree htree hplace, hshows⟩

end Represents

mutual
/-- A value as a tree of values. -/
def jsonTree : PyValue → PathTree JsonStep PyValue
  | .dict entries => .node (.dict entries) (entryTrees entries)
  | .list items => .node (.list items) (itemTrees 0 items)
  | value => .node value []

def entryTrees : List (String × PyValue) → List (JsonStep × PathTree JsonStep PyValue)
  | [] => []
  | (key, child) :: rest => (.key key, jsonTree child) :: entryTrees rest

def itemTrees : Nat → List PyValue → List (JsonStep × PathTree JsonStep PyValue)
  | _, [] => []
  | index, child :: rest => (.index index, jsonTree child) :: itemTrees (index + 1) rest
end

mutual
/-- Every object of the document passes `unique_object`. -/
def uniqueObjects : PyValue → Bool
  | .dict entries => decide (entries.map (·.1)).Nodup && uniqueEntries entries
  | .list items => uniqueItems items
  | _ => true

def uniqueEntries : List (String × PyValue) → Bool
  | [] => true
  | (_, child) :: rest => uniqueObjects child && uniqueEntries rest

def uniqueItems : List PyValue → Bool
  | [] => true
  | child :: rest => uniqueObjects child && uniqueItems rest
end

/-- `json.loads` with the hook of the reader: an object with a property twice is refused. -/
def hooked (loads : String → Option PyValue) (content : String) : Option PyValue :=
  (loads content).filter uniqueObjects

mutual
theorem values_eq (value : PyValue) (path : List JsonStep) :
    values path value = (jsonTree value).listing path := by
  cases value with
  | dict entries => rw [values, jsonTree, listing, entryValues_eq]
  | list items => rw [values, jsonTree, listing, itemValues_eq]
  | _ => rfl

theorem entryValues_eq (entries : List (String × PyValue)) (path : List JsonStep) :
    entryValues path entries = listingIn path (entryTrees entries) := by
  cases entries with
  | nil => rfl
  | cons entry rest => rw [entryValues, entryTrees, listingIn, values_eq, entryValues_eq]

theorem itemValues_eq (items : List PyValue) (path : List JsonStep) (index : Nat) :
    itemValues path index items = listingIn path (itemTrees index items) := by
  cases items with
  | nil => rfl
  | cons child rest => rw [itemValues, itemTrees, listingIn, values_eq, itemValues_eq]
end

theorem entryTrees_steps (entries : List (String × PyValue)) :
    (entryTrees entries).map (·.1) = (entries.map (·.1)).map .key := by
  induction entries with
  | nil => rfl
  | cons entry rest ih => rw [entryTrees, List.map_cons, List.map_cons, List.map_cons, ih]

theorem itemTrees_steps (items : List PyValue) (index : Nat) :
    (itemTrees index items).map (·.1) = (List.range' index items.length).map fun i : Nat => .index i := by
  induction items generalizing index with
  | nil => rfl
  | cons child rest ih =>
    rw [itemTrees, List.map_cons, List.length_cons, List.range'_succ, List.map_cons, ih]

mutual
theorem labelled_jsonTree (value : PyValue) (h : uniqueObjects value = true) :
    (jsonTree value).Labelled := by
  cases value with
  | dict entries =>
    rw [uniqueObjects, Bool.and_eq_true, decide_eq_true_eq] at h
    rw [jsonTree, Labelled, entryTrees_steps]
    refine ⟨h.1.map fun a b hab => ?_, labelled_entryTrees entries h.2⟩
    exact JsonStep.key.inj hab
  | list items =>
    rw [uniqueObjects] at h
    rw [jsonTree, Labelled, itemTrees_steps]
    refine ⟨List.Nodup.map (fun a b hab => ?_) List.nodup_range', labelled_itemTrees items 0 h⟩
    exact Int.ofNat.inj (JsonStep.index.inj hab)
  | _ => exact ⟨List.nodup_nil, trivial⟩

theorem labelled_entryTrees (entries : List (String × PyValue))
    (h : uniqueEntries entries = true) : LabelledIn (entryTrees entries) := by
  cases entries with
  | nil => trivial
  | cons entry rest =>
    rw [uniqueEntries, Bool.and_eq_true] at h
    exact ⟨labelled_jsonTree entry.2 h.1, labelled_entryTrees rest h.2⟩

theorem labelled_itemTrees (items : List PyValue) (index : Nat) (h : uniqueItems items = true) :
    LabelledIn (itemTrees index items) := by
  cases items with
  | nil => trivial
  | cons child rest =>
    rw [uniqueItems, Bool.and_eq_true] at h
    exact ⟨labelled_jsonTree child h.1, labelled_itemTrees rest (index + 1) h.2⟩
end

def jsonColumns : Columns JsonNode JsonStep where
  path := (·.path)
  nodeId := (·.nodeId)
  parentId := (·.parentId)
  order := (·.order)

section Json

variable {sha256 : String → String} {reprPath : List JsonStep → String}
  {source : ArtifactProvenance}

mutual
/-- A visit adds nodes whose parents are there. -/
theorem visit_parented (value : PyValue) (parentId : Option String) (path : List JsonStep)
    (depth : Nat) (state : JsonTree.Visit) (h : AllParented jsonColumns [] state.nodes)
    (hparent : Parented jsonColumns [] state.nodes path parentId) :
    AllParented jsonColumns []
        (JsonTree.visit sha256 reprPath source value parentId path depth state).nodes ∧
      state.nodes ⊆ (JsonTree.visit sha256 reprPath source value parentId path depth state).nodes := by
  rw [JsonTree.visit]
  split
  · exact ⟨h, List.Subset.refl _⟩
  generalize hnode : JsonTree.nodeOf sha256 reprPath source value parentId path
    (state.nodes.length + 1) = node
  have hpath : node.path = path := by rw [← hnode]; rfl
  have hparentId : node.parentId = parentId := by rw [← hnode]; rfl
  have hadded : AllParented jsonColumns [] (state.nodes ++ [node]) := h.append (by
    simp only [jsonColumns, hpath, hparentId]
    exact hparent)
  have hsub : state.nodes ⊆ state.nodes ++ [node] := List.subset_append_left _ _
  have hin : node ∈ state.nodes ++ [node] := by simp
  cases value with
  | dict entries =>
    obtain ⟨hall, hkept⟩ := visitEntries_parented entries node (depth + 1)
      { nodes := state.nodes ++ [node], truncated := _ } hadded hin
    rw [hpath] at hall hkept
    exact ⟨hall, List.Subset.trans hsub hkept⟩
  | list items =>
    obtain ⟨hall, hkept⟩ := visitItems_parented items node (depth + 1) 0
      { nodes := state.nodes ++ [node], truncated := _ } hadded hin
    rw [hpath] at hall hkept
    exact ⟨hall, List.Subset.trans hsub hkept⟩
  | _ => exact ⟨hadded, hsub⟩

theorem visitEntries_parented (entries : List (String × PyValue)) (parent : JsonNode)
    (depth : Nat) (state : JsonTree.Visit) (h : AllParented jsonColumns [] state.nodes)
    (hparent : parent ∈ state.nodes) :
    AllParented jsonColumns [] (JsonTree.visitEntries sha256 reprPath source entries parent.nodeId
        parent.path depth state).nodes ∧
      state.nodes ⊆ (JsonTree.visitEntries sha256 reprPath source entries parent.nodeId
        parent.path depth state).nodes := by
  cases entries with
  | nil =>
    rw [JsonTree.visitEntries]
    exact ⟨h, List.Subset.refl _⟩
  | cons entry rest =>
    obtain ⟨key, child⟩ := entry
    rw [JsonTree.visitEntries]
    obtain ⟨hchild, hkept⟩ := visit_parented child (some parent.nodeId)
      (parent.path ++ [.key key]) depth state h (.inr ⟨parent, hparent, .key key, rfl, rfl⟩)
    obtain ⟨hrest, hkept'⟩ := visitEntries_parented rest parent depth _ hchild (hkept hparent)
    exact ⟨hrest, List.Subset.trans hkept hkept'⟩

theorem visitItems_parented (items : List PyValue) (parent : JsonNode) (depth index : Nat)
    (state : JsonTree.Visit) (h : AllParented jsonColumns [] state.nodes)
    (hparent : parent ∈ state.nodes) :
    AllParented jsonColumns [] (JsonTree.visitItems sha256 reprPath source items parent.nodeId
        parent.path depth index state).nodes ∧
      state.nodes ⊆ (JsonTree.visitItems sha256 reprPath source items parent.nodeId
        parent.path depth index state).nodes := by
  cases items with
  | nil =>
    rw [JsonTree.visitItems]
    exact ⟨h, List.Subset.refl _⟩
  | cons child rest =>
    rw [JsonTree.visitItems]
    obtain ⟨hchild, hkept⟩ := visit_parented child (some parent.nodeId)
      (parent.path ++ [.index index]) depth state h
      (.inr ⟨parent, hparent, .index index, rfl, rfl⟩)
    obtain ⟨hrest, hkept'⟩ := visitItems_parented rest parent depth (index + 1) _ hchild
      (hkept hparent)
    exact ⟨hrest, List.Subset.trans hkept hkept'⟩
end

/-- A JSON document that is not cut is listed whole. -/
theorem json_listed {loads : String → Option PyValue} {request : StructuralParseRequest}
    {ir : JsonStructuralIR}
    (h : JsonTree.parse sha256 reprPath (hooked loads) request = .ok ir) :
    ∃ payload, hooked loads request.content = some payload ∧ uniqueObjects payload = true ∧
      ir.nodes.map (·.order) = List.range' 1 ir.nodes.length ∧
      AllParented jsonColumns [] ir.nodes ∧
      (ir.truncated = false →
        List.Forall₂ (fun node place => node.path = place.1 ∧ node.value = place.2) ir.nodes
          ((jsonTree payload).listing [])) := by
  have hparse := h
  simp only [JsonTree.parse, except_bind_eq_ok] at hparse
  obtain ⟨_, -, hparse⟩ := hparse
  split at hparse
  · cases hparse
  · rename_i payload hpayload
    have hir := except_pure_eq_ok.mp hparse
    refine ⟨payload, hpayload, (Option.filter_eq_some_iff.mp hpayload).2, ?_, ?_, fun hwhole => ?_⟩
    · rw [← hir]
      exact (JsonTree.inv_visit payload none [] 0 ⟨⟨rfl, by simp⟩, by simp⟩).hashed.order_eq
    · rw [← hir]
      exact (visit_parented payload none [] 0 {} (fun _ hnode => nomatch hnode)
        (.inl ⟨rfl, rfl⟩)).1
    · obtain ⟨payload', hpayload', hnodes⟩ := json_nodes h hwhole
      obtain rfl := Option.some.inj (hpayload.symm.trans hpayload')
      rw [← values_eq, ← hnodes, List.forall₂_map_right_iff, List.forall₂_same]
      exact fun node _ => ⟨rfl, rfl⟩

end Json

mutual
/-- An element as a tree of elements, the child `tag[n]` being the `n`-th with its tag. -/
def xmlTree : XmlTree.Element → PathTree String XmlTree.Element
  | .mk tag attributes text children =>
    .node (.mk tag attributes text children) (childTrees [] children)

def childTrees : List String → List XmlTree.Element →
    List (String × PathTree String XmlTree.Element)
  | _, [] => []
  | seen, child :: rest =>
    (stepTo child.tag seen, xmlTree child) :: childTrees (child.tag :: seen) rest
end

/-- The leading text without the white space around it, unless nothing is left. -/
def strippedText (text : Option String) : Option String :=
  (text.map Text.strip).filter (!·.isEmpty)

/-- A node carries the tag, the sorted attributes and the text of an element. -/
def ShowsElement (node : XmlNode) : XmlTree.Element → Prop
  | .mk tag attributes text _ =>
    node.tag = tag ∧ node.attributes = sortedBy (·.1) attributes ∧ node.text = strippedText text

/-- A step tells the tag and the number. -/
theorem step_inj {tag tag' : String} {n n' : Nat}
    (h : tag ++ "[" ++ toString n ++ "]" = tag' ++ "[" ++ toString n' ++ "]") :
    tag = tag' ∧ n = n' := by
  have hno : ∀ m : Nat, '[' ∉ (toString m).toList :=
    fun m => Text.not_mem_toString m (by decide)
  have hend : ∀ (t : String) (m : Nat), (t ++ "[" ++ toString m ++ "]").toList.reverse =
      ']' :: (toString m).toList.reverse ++ '[' :: t.toList.reverse := by
    intro t m
    simp [List.reverse_append]
  have hreverse := hend tag n
  rw [h, hend] at hreverse
  have hfirst := congrArg (Text.splitFirst '[') hreverse
  rw [Text.splitFirst_append _ _ _ (by simpa using hno n'),
    Text.splitFirst_append _ _ _ (by simpa using hno n)] at hfirst
  simp only [Option.some.injEq, Prod.mk.injEq, List.cons.injEq, true_and, List.reverse_inj,
    String.toList_inj] at hfirst
  exact ⟨hfirst.2.symm, (Text.toString_injective hfirst.1).symm⟩

/-- The numbers of later children go on from those seen. -/
theorem mem_childTrees_steps (children : List XmlTree.Element) (seen : List String) {step : String}
    (h : step ∈ (childTrees seen children).map (·.1)) :
    ∃ tag n, step = tag ++ "[" ++ toString n ++ "]" ∧ seen.count tag < n := by
  induction children generalizing seen with
  | nil => simp [childTrees] at h
  | cons child rest ih =>
    rw [childTrees, List.map_cons] at h
    rcases List.mem_cons.mp h with rfl | h
    · exact ⟨child.tag, seen.count child.tag + 1, rfl, Nat.lt_succ_self _⟩
    · obtain ⟨tag, n, hstep, hlt⟩ := ih _ h
      exact ⟨tag, n, hstep, Nat.lt_of_le_of_lt List.count_le_count_cons hlt⟩

theorem nodup_childTrees_steps (children : List XmlTree.Element) (seen : List String) :
    ((childTrees seen children).map (·.1)).Nodup := by
  induction children generalizing seen with
  | nil => simp [childTrees]
  | cons child rest ih =>
    rw [childTrees, List.map_cons, List.nodup_cons]
    refine ⟨fun hmem => ?_, ih _⟩
    obtain ⟨tag, n, hstep, hlt⟩ := mem_childTrees_steps rest _ hmem
    obtain ⟨rfl, rfl⟩ := step_inj hstep
    rw [List.count_cons_self] at hlt
    exact Nat.lt_irrefl _ hlt

mutual
theorem labelled_xmlTree (element : XmlTree.Element) : (xmlTree element).Labelled := by
  cases element with
  | mk tag attributes text children =>
    rw [xmlTree, Labelled]
    exact ⟨nodup_childTrees_steps children [], labelled_childTrees children []⟩

theorem labelled_childTrees (children : List XmlTree.Element) (seen : List String) :
    LabelledIn (childTrees seen children) := by
  cases children with
  | nil => trivial
  | cons child rest =>
    rw [childTrees, LabelledIn]
    exact ⟨labelled_xmlTree child, labelled_childTrees rest _⟩
end

def xmlColumns : Columns XmlNode String where
  path := (·.path)
  nodeId := (·.nodeId)
  parentId := (·.parentId)
  order := (·.order)

section Xml

variable {sha256 : String → String} {reprPath : List String → String}
  {source : ArtifactProvenance}

/-- The nodes added for the places of a tree. -/
def Adds (before after : List XmlNode) (places : List (List String × XmlTree.Element)) : Prop :=
  ∃ added, after = before ++ added ∧
    List.Forall₂ (fun node place => node.path = place.1 ∧ ShowsElement node place.2) added places

theorem Adds.append {before middle after : List XmlNode}
    {places places' : List (List String × XmlTree.Element)} (h : Adds before middle places)
    (h' : Adds middle after places') : Adds before after (places ++ places') := by
  obtain ⟨added, rfl, hplaces⟩ := h
  obtain ⟨added', rfl, hplaces'⟩ := h'
  exact ⟨added ++ added', by rw [List.append_assoc], List.rel_append hplaces hplaces'⟩

mutual
/-- A visit that cuts nothing adds a node for every element. -/
theorem visit_adds (element : XmlTree.Element) (parentId : Option String) (path : List String)
    (depth : Nat) (state : XmlTree.Visit)
    (h : (XmlTree.visit sha256 reprPath source element parentId path depth state).truncated =
      false) : state.truncated = false ∧
      Adds state.nodes
        (XmlTree.visit sha256 reprPath source element parentId path depth state).nodes
        ((xmlTree element).listing path) := by
  cases element with
  | mk tag attributes text children =>
    rw [XmlTree.visit] at h ⊢
    split at h
    · cases h
    rename_i hroom
    rw [if_neg hroom]
    obtain ⟨hbefore, hadds⟩ := visitChildren_adds children _ path _ [] _ h
    obtain ⟨hstate, hcut⟩ := Bool.or_eq_false_iff.mp hbefore
    refine ⟨hstate, ?_⟩
    rw [xmlTree, listing, ← List.singleton_append]
    refine Adds.append ⟨[_], rfl, .cons ⟨rfl, rfl, rfl, ?_⟩ .nil⟩ hadds
    simp [XmlTree.nodeOf, XmlTree.boundedText, strippedText, hcut]

theorem visitChildren_adds (children : List XmlTree.Element) (parentId : String)
    (path : List String) (depth : Nat) (seen : List String) (state : XmlTree.Visit)
    (h : (XmlTree.visitChildren sha256 reprPath source children parentId path depth seen
      state).truncated = false) : state.truncated = false ∧
      Adds state.nodes (XmlTree.visitChildren sha256 reprPath source children parentId path depth
        seen state).nodes (listingIn path (childTrees seen children)) := by
  cases children with
  | nil =>
    rw [XmlTree.visitChildren] at h ⊢
    exact ⟨h, [], by simp, .nil⟩
  | cons child rest =>
    rw [XmlTree.visitChildren] at h ⊢
    obtain ⟨hmiddle, hrest⟩ := visitChildren_adds rest parentId path depth _ _ h
    obtain ⟨hbefore, hchild⟩ := visit_adds child _ _ _ _ hmiddle
    rw [childTrees, listingIn]
    exact ⟨hbefore, hchild.append hrest⟩
end

mutual
theorem xml_visit_parented (element : XmlTree.Element) {start : List String}
    (parentId : Option String) (path : List String) (depth : Nat) (state : XmlTree.Visit)
    (h : AllParented xmlColumns start state.nodes)
    (hparent : Parented xmlColumns start state.nodes path parentId) :
    AllParented xmlColumns start
        (XmlTree.visit sha256 reprPath source element parentId path depth state).nodes ∧
      state.nodes ⊆
        (XmlTree.visit sha256 reprPath source element parentId path depth state).nodes := by
  cases element with
  | mk tag attributes text children =>
    rw [XmlTree.visit]
    split
    · exact ⟨h, List.Subset.refl _⟩
    generalize hnode : XmlTree.nodeOf sha256 reprPath source tag attributes text parentId path
      (state.nodes.length + 1) = node
    have hpath : node.path = path := by rw [← hnode]; rfl
    have hparentId : node.parentId = parentId := by rw [← hnode]; rfl
    have hadded : AllParented xmlColumns start (state.nodes ++ [node]) := h.append (by
      simp only [xmlColumns, hpath, hparentId]
      exact hparent)
    obtain ⟨hall, hkept⟩ := xml_visitChildren_parented children node (depth + 1) []
      { nodes := state.nodes ++ [node], truncated := _ } hadded (by simp)
    rw [hpath] at hall hkept
    exact ⟨hall, List.Subset.trans (List.subset_append_left _ _) hkept⟩

theorem xml_visitChildren_parented (children : List XmlTree.Element) {start : List String}
    (parent : XmlNode) (depth : Nat) (seen : List String) (state : XmlTree.Visit)
    (h : AllParented xmlColumns start state.nodes) (hparent : parent ∈ state.nodes) :
    AllParented xmlColumns start (XmlTree.visitChildren sha256 reprPath source children
        parent.nodeId parent.path depth seen state).nodes ∧
      state.nodes ⊆ (XmlTree.visitChildren sha256 reprPath source children parent.nodeId
        parent.path depth seen state).nodes := by
  cases children with
  | nil =>
    rw [XmlTree.visitChildren]
    exact ⟨h, List.Subset.refl _⟩
  | cons child rest =>
    rw [XmlTree.visitChildren]
    obtain ⟨hchild, hkept⟩ := xml_visit_parented child (some parent.nodeId)
      (parent.path ++ [stepTo child.tag seen]) depth state h
      (.inr ⟨parent, hparent, stepTo child.tag seen, rfl, rfl⟩)
    obtain ⟨hrest, hkept'⟩ := xml_visitChildren_parented rest parent depth _ _ hchild
      (hkept hparent)
    exact ⟨hrest, List.Subset.trans hkept hkept'⟩
end

/-- An XML document that is not cut is listed whole. -/
theorem xml_listed {isWord : Char → Bool} {fromString : String → Option XmlTree.Element}
    {request : StructuralParseRequest} {ir : XmlStructuralIR}
    (h : XmlTree.parse sha256 reprPath isWord fromString request = .ok ir) :
    ∃ root, fromString request.content = some root ∧
      ir.nodes.map (·.order) = List.range' 1 ir.nodes.length ∧
      AllParented xmlColumns [root.tag ++ "[1]"] ir.nodes ∧
      (ir.truncated = false →
        List.Forall₂ (fun node place => node.path = place.1 ∧ ShowsElement node place.2) ir.nodes
          ((xmlTree root).listing [root.tag ++ "[1]"])) := by
  simp only [XmlTree.parse, except_bind_eq_ok] at h
  obtain ⟨_, -, _, hsize, h⟩ := h
  have hall : String.ofList (request.content.toList.take XmlTree.maxInputCharacters) =
      request.content := by
    have hle := raiseIf_eq_ok.mp hsize
    rw [List.take_of_length_le (by simpa using hle), String.ofList_toList]
  rw [hall] at h
  split at h
  · cases h
  · rename_i root hroot
    obtain rfl := except_pure_eq_ok.mp h
    refine ⟨root, hroot, ?_, ?_, fun hwhole => ?_⟩
    · exact (XmlTree.inv_visit root none _ 0 ⟨⟨rfl, by simp⟩, by simp⟩).hashed.order_eq
    · exact (xml_visit_parented root none _ 0 {} (fun _ hnode => nomatch hnode)
        (.inl ⟨rfl, rfl⟩)).1
    · obtain ⟨hvisit, -⟩ := Bool.or_eq_false_iff.mp hwhole
      obtain ⟨-, added, hnodes, hlisted⟩ := visit_adds root none _ 0 {} hvisit
      rw [List.nil_append] at hnodes
      rw [hnodes]
      exact hlisted

/-- What a whole listing shows: a place no node shows is left out. -/
theorem truncated_of_left_out {ν σ α : Type} {truncated : Bool} {shows : ν → α → Prop}
    {pathOf : ν → List σ} {nodes : List ν} {places : List (List σ × α)}
    (hlisted : truncated = false →
      List.Forall₂ (fun node place => pathOf node = place.1 ∧ shows node place.2) nodes places)
    (hout : ∃ place ∈ places, ∀ node ∈ nodes, ¬(pathOf node = place.1 ∧ shows node place.2)) :
    truncated = true := by
  by_contra hwhole
  obtain ⟨place, hplace, hnone⟩ := hout
  have hlist := hlisted (Bool.eq_false_iff.mpr hwhole)
  clear hlisted
  induction hlist with
  | nil => cases hplace
  | cons hhead _ ih =>
    rcases List.mem_cons.mp hplace with rfl | hrest
    · exact hnone _ List.mem_cons_self hhead
    · exact ih hrest fun node hnode => hnone node (List.mem_cons_of_mem _ hnode)

end Xml

/-- An accepted document is listed whole, or the tree says that it is cut. -/
theorem tree_readers_faithful (sha256 : String → String) (request : StructuralParseRequest) :
    (∀ (reprPath : List JsonStep → String) (loads : String → Option PyValue) ir,
      JsonTree.parse sha256 reprPath (hooked loads) request = .ok ir →
      ∃ payload, hooked loads request.content = some payload ∧
        (ir.truncated = false → HashesApart sha256 "jsonn_" (JsonTree.identityOf reprPath) ir.nodes →
          Represents jsonColumns (fun node value => node.value = value) [] (jsonTree payload)
            ir.nodes) ∧
        ((∃ place ∈ (jsonTree payload).listing [], ∀ node ∈ ir.nodes,
            ¬(node.path = place.1 ∧ node.value = place.2)) → ir.truncated = true)) ∧
    (∀ (reprPath : List String → String) (isWord : Char → Bool)
      (fromString : String → Option XmlTree.Element) ir,
      XmlTree.parse sha256 reprPath isWord fromString request = .ok ir →
      ∃ root, fromString request.content = some root ∧
        (ir.truncated = false → HashesApart sha256 "xmln_" (XmlTree.identityOf reprPath) ir.nodes →
          Represents xmlColumns ShowsElement [root.tag ++ "[1]"] (xmlTree root) ir.nodes) ∧
        ((∃ place ∈ (xmlTree root).listing [root.tag ++ "[1]"], ∀ node ∈ ir.nodes,
            ¬(node.path = place.1 ∧ ShowsElement node place.2)) → ir.truncated = true)) := by
  constructor
  · intro reprPath loads ir h
    obtain ⟨payload, hpayload, hunique, horders, hparents, hlisted⟩ := json_listed h
    obtain ⟨-, -, -, hids⟩ := JsonTree.parse_spec h
    exact ⟨payload, hpayload, fun hwhole hhash => represents_of_listed
      (labelled_jsonTree payload hunique) (hlisted hwhole) horders (hids hhash) hparents,
      truncated_of_left_out hlisted⟩
  · intro reprPath isWord fromString ir h
    obtain ⟨root, hroot, horders, hparents, hlisted⟩ := xml_listed h
    obtain ⟨-, -, -, hids⟩ := XmlTree.parse_spec h
    exact ⟨root, hroot, fun hwhole hhash => represents_of_listed (labelled_xmlTree root)
      (hlisted hwhole) horders (hids hhash) hparents, truncated_of_left_out hlisted⟩

/-- The hashes of the nodes of the documents below. -/
def serversSha256 : String → String := tabulated
  [("00000000-0000-0000-0000-000000000001|()|1",
      "c4efa152eede2f082e71aa07f60ef594f57dd112dbfe12967ed19c351734c888"),
    ("00000000-0000-0000-0000-000000000001|('servers',)|2",
      "07dd8e3df4d615ecc291197777c9fb17bb768f04478baef4bff8376962e7500d"),
    ("00000000-0000-0000-0000-000000000001|('servers', 0)|3",
      "af6ac733b17d8dc0a9f4d5173a751b5d2033d4b47203d2aac654fe6b84a01d92"),
    ("00000000-0000-0000-0000-000000000001|('ntp[1]',)|1",
      "4c13d30dcccf9e2cc28ff938b15a483f93777b6b3bfb547a21da65df89346550"),
    ("00000000-0000-0000-0000-000000000001|('ntp[1]', 'server[1]')|2",
      "3c4b850dc1c45bd7a86d6b581222dcf3a39d399f01730ae9a9e728ac2ef0a830"),
    ("00000000-0000-0000-0000-000000000001|('ntp[1]', 'server[2]')|3",
      "64bb524452527a26eefd6b99011031be59aaab193dc7b995f9b47a79248be32f")]

def serversSource : ArtifactProvenance :=
  { artifactId := UUID.ofNat 1, snapshotId := none, sourceLabel := "servers" }

def serversPathText (path : List JsonStep) : String :=
  ["()", "('servers',)", "('servers', 0)"].getD path.length ""

def ntpPathText (path : List String) : String :=
  if path.length = 1 then "('ntp[1]',)"
  else if path = ["ntp[1]", "server[1]"] then "('ntp[1]', 'server[1]')"
  else "('ntp[1]', 'server[2]')"

def serversPayload : PyValue := .dict [("servers", .list [.str "a"])]

/-- `{"servers": ["a"]}`. -/
def serversRequest : StructuralParseRequest :=
  { content := "\x7b\"servers\": [\"a\"]\x7d", source := serversSource }

def ntpRoot : XmlTree.Element :=
  .mk "ntp" [] none [.mk "server" [] (some " a ") [], .mk "server" [] (some "b") []]

/-- `<ntp><server> a </server><server>b</server></ntp>`. -/
def ntpRequest : StructuralParseRequest :=
  { content := "<ntp><server> a </server><server>b</server></ntp>", source := serversSource }

/-- Both readers on a document they list whole. -/
theorem tree_readers_faithful_servers :
    (∃ ir, JsonTree.parse serversSha256 serversPathText (hooked fun _ => some serversPayload)
        serversRequest = .ok ir ∧ ir.nodes.length = 3 ∧
      Represents jsonColumns (fun node value => node.value = value) [] (jsonTree serversPayload)
        ir.nodes) ∧
    (∃ ir, XmlTree.parse serversSha256 ntpPathText Text.isAsciiAlnum (fun _ => some ntpRoot)
        ntpRequest = .ok ir ∧ ir.nodes.length = 3 ∧
      Represents xmlColumns ShowsElement ["ntp[1]"] (xmlTree ntpRoot) ir.nodes) := by
  constructor
  · obtain ⟨ir, hparse, hlength, hwhole, hhash⟩ : ∃ ir,
        JsonTree.parse serversSha256 serversPathText (hooked fun _ => some serversPayload)
          serversRequest = .ok ir ∧ ir.nodes.length = 3 ∧ ir.truncated = false ∧
        (ir.nodes.map fun node => hashedId serversSha256 "jsonn_"
          (JsonTree.identityOf serversPathText node)).Nodup := by
      refine ⟨_, rfl, ?_⟩
      decide +kernel
    obtain ⟨payload, hpayload, hrepresents, -⟩ :=
      (tree_readers_faithful serversSha256 serversRequest).1 _ _ ir hparse
    obtain rfl : serversPayload = payload := Option.some.inj hpayload
    exact ⟨ir, hparse, hlength, hrepresents hwhole (hashesApart_of_nodup hhash)⟩
  · obtain ⟨ir, hparse, hlength, hwhole, hhash⟩ : ∃ ir,
        XmlTree.parse serversSha256 ntpPathText Text.isAsciiAlnum (fun _ => some ntpRoot)
          ntpRequest = .ok ir ∧ ir.nodes.length = 3 ∧ ir.truncated = false ∧
        (ir.nodes.map fun node => hashedId serversSha256 "xmln_"
          (XmlTree.identityOf ntpPathText node)).Nodup := by
      refine ⟨_, rfl, ?_⟩
      decide +kernel
    obtain ⟨root, hroot, hrepresents, -⟩ :=
      (tree_readers_faithful serversSha256 ntpRequest).2 _ _ _ ir hparse
    obtain rfl : ntpRoot = root := Option.some.inj hroot
    exact ⟨ir, hparse, hlength, hrepresents hwhole (hashesApart_of_nodup hhash)⟩

end ConfigAuditor.Parsing.TreeReaders
