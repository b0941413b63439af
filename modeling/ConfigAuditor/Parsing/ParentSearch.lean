import Mathlib.Data.List.Induction
import ConfigAuditor.Library.OpenLevels
import ConfigAuditor.Parsing.IRForest

/-!
# The parent of an indented line

The open nodes of a builder are the lines whose indentation no later line has come back to. A
new line belongs to the nearest of them that is less indented, and its indentation is at fault
where there is none, or where it lies between two neighbouring open levels.
-/
namespace ConfigAuditor.Parsing.ParentSearch

open Library OpenLevels IRForest

/-- Line `j` can have children, and no line between `j` and `i` comes back to its
indentation. -/
def OpenFor (inputs : List NodeInput) (j i : Nat) (outer : NodeInput) : Prop :=
  inputs[j]? = some outer ∧ j < i ∧ outer.canParent = true ∧
    ∀ k input, j < k → k < i → inputs[k]? = some input → outer.indent < input.indent

/-- Line `j` is open for line `i` and less indented. -/
def Encloses (inputs : List NodeInput) (j i : Nat) : Prop :=
  ∃ outer inner, OpenFor inputs j i outer ∧ inputs[i]? = some inner ∧ outer.indent < inner.indent

/-- The last line that encloses line `i`. -/
def IsParent (inputs : List NodeInput) (j i : Nat) : Prop :=
  Encloses inputs j i ∧ ∀ k, Encloses inputs k i → k ≤ j

/-- Strictly between two open levels that have none between them. -/
def BetweenLevels (inputs : List NodeInput) (i indent : Nat) : Prop :=
  ∃ j low k high, OpenFor inputs j i low ∧ OpenFor inputs k i high ∧ low.indent < indent ∧
    indent < high.indent ∧ ∀ l other, OpenFor inputs l i other →
      ¬(low.indent < other.indent ∧ other.indent < high.indent)

/-- The indentation of line `i` is at fault. -/
def Misindented (inputs : List NodeInput) (i : Nat) (input : NodeInput) : Prop :=
  0 < input.indent ∧ ((∀ j, ¬Encloses inputs j i) ∨ BetweenLevels inputs i input.indent)

/-- Node `i` of a tree is where the indentation puts it. -/
structure Placed (inputs : List NodeInput) (nodes : List ConfigNode) (i : Nat)
    (node : ConfigNode) (input : NodeInput) : Prop where
  read : inputs[i]? = some input
  parent : ∀ j, IsParent inputs j i → ∃ parent, nodes[j]? = some parent ∧
    node.parentId = some parent.nodeId ∧ node.depth = parent.depth + 1 ∧
    node.contextPath = parent.contextPath ++ [parent.nodeId]
  root : (∀ j, ¬Encloses inputs j i) →
    node.parentId = none ∧ node.depth = 0 ∧ node.contextPath = []
  fault : Misindented inputs i input → node.parseStatus = .partialText
  sound : ¬Misindented inputs i input → node.parseStatus = input.parseStatus

/-- The builder after these calls of `add_node`. -/
def run (sha256 : String → String) (start : IRBuilder) (inputs : List NodeInput) : IRBuilder :=
  inputs.foldl (fun b input => b.addNode sha256 input) start

/-- The depth bound moved no node. -/
def DepthFree (diagnostics : List ParseDiagnostic) : Prop :=
  ∀ diagnostic ∈ diagnostics, diagnostic.code ≠ "maximum_depth_reached"

/-- The level of a line, and whether it can have children. -/
def levelOf (input : NodeInput) : Nat × Bool := (input.indent, input.canParent)

section Lines

variable {inputs more : List NodeInput} {i j : Nat}

theorem openAt_iff {a : Nat} :
    OpenAt ((inputs.take i).map levelOf) j a ↔
      ∃ outer, OpenFor inputs j i outer ∧ outer.indent = a := by
  have hget : ∀ k level, ((inputs.take i).map levelOf)[k]? = some level ↔
      k < i ∧ ∃ input, inputs[k]? = some input ∧ levelOf input = level := by
    intro k level
    rw [List.getElem?_map, List.getElem?_take, Option.map_eq_some_iff]
    by_cases hk : k < i
    · simp [hk]
    · simp [hk]
  rw [OpenAt]
  simp only [hget]
  constructor
  · rintro ⟨⟨hlt, outer, houter, hlevel⟩, hlater⟩
    obtain ⟨rfl, hparent⟩ := Prod.mk.inj hlevel
    refine ⟨outer, ⟨houter, hlt, hparent, fun k input hj hk hinput => ?_⟩, rfl⟩
    exact hlater k hj (levelOf input) ⟨hk, input, hinput, rfl⟩
  · rintro ⟨outer, ⟨houter, hlt, hparent, hlater⟩, rfl⟩
    refine ⟨⟨hlt, outer, houter, by rw [levelOf, hparent]⟩, ?_⟩
    rintro k hj level ⟨hk, input, hinput, rfl⟩
    exact hlater k input hj hk hinput

theorem openFor_append (hi : i ≤ inputs.length) {outer : NodeInput} :
    OpenFor (inputs ++ more) j i outer ↔ OpenFor inputs j i outer := by
  have hget : ∀ k, k < i → (inputs ++ more)[k]? = inputs[k]? := fun k hk =>
    List.getElem?_append_left (by omega)
  unfold OpenFor
  constructor
  · rintro ⟨houter, hlt, hparent, hlater⟩
    refine ⟨by rwa [hget j hlt] at houter, hlt, hparent, fun k input hj hk hinput => ?_⟩
    exact hlater k input hj hk (by rwa [hget k hk])
  · rintro ⟨houter, hlt, hparent, hlater⟩
    refine ⟨by rwa [hget j hlt], hlt, hparent, fun k input hj hk hinput => ?_⟩
    exact hlater k input hj hk (by rwa [hget k hk] at hinput)

theorem encloses_append (hi : i < inputs.length) :
    Encloses (inputs ++ more) j i ↔ Encloses inputs j i := by
  unfold Encloses
  simp only [openFor_append (Nat.le_of_lt hi), List.getElem?_append_left hi]

theorem isParent_append (hi : i < inputs.length) :
    IsParent (inputs ++ more) j i ↔ IsParent inputs j i := by
  unfold IsParent
  simp only [encloses_append hi]

theorem misindented_append (hi : i < inputs.length) {input : NodeInput} :
    Misindented (inputs ++ more) i input ↔ Misindented inputs i input := by
  unfold Misindented BetweenLevels
  simp only [encloses_append hi, openFor_append (Nat.le_of_lt hi)]

/-- More lines and nodes after a node leave it in place. -/
theorem Placed.append {nodes added : List ConfigNode} {node : ConfigNode} {input : NodeInput}
    (h : Placed inputs nodes i node input) : Placed (inputs ++ more) (nodes ++ added) i node input := by
  have hi := (List.getElem?_eq_some_iff.mp h.read).1
  refine ⟨by rw [List.getElem?_append_left hi]; exact h.read, fun j hj => ?_, fun hnone => ?_,
    fun hfault => ?_, fun hsound => ?_⟩
  · obtain ⟨parent, hparent, hrest⟩ := h.parent j ((isParent_append hi).mp hj)
    have hlt := (List.getElem?_eq_some_iff.mp hparent).1
    exact ⟨parent, by rwa [List.getElem?_append_left hlt], hrest⟩
  · exact h.root fun j hj => hnone j ((encloses_append hi).mpr hj)
  · exact h.fault ((misindented_append hi).mp hfault)
  · exact h.sound fun hfault => hsound ((misindented_append hi).mpr hfault)

/-- The lines that enclose the next one are the open levels below it. -/
theorem encloses_next {input : NodeInput} :
    Encloses (inputs ++ [input]) j inputs.length ↔
      ∃ a, OpenAt (inputs.map levelOf) j a ∧ a < input.indent := by
  have htake : inputs.take inputs.length = inputs := List.take_length
  have hopen : ∀ a, OpenAt (inputs.map levelOf) j a ↔
      ∃ outer, OpenFor inputs j inputs.length outer ∧ outer.indent = a := by
    intro a
    rw [← openAt_iff, htake]
  unfold Encloses
  simp only [openFor_append (Nat.le_refl _), hopen, List.getElem?_concat_length]
  constructor
  · rintro ⟨outer, inner, houter, hinner, hlt⟩
    cases hinner
    exact ⟨_, ⟨outer, houter, rfl⟩, hlt⟩
  · rintro ⟨_, ⟨outer, houter, rfl⟩, hlt⟩
    exact ⟨outer, input, houter, rfl, hlt⟩

theorem isParent_next {input : NodeInput} :
    IsParent (inputs ++ [input]) j inputs.length ↔ Nearest (inputs.map levelOf) input.indent j := by
  unfold IsParent Nearest
  simp only [encloses_next]
  exact and_congr_right fun _ => ⟨fun h k b hopen hlt => h k ⟨b, hopen, hlt⟩,
    fun h k ⟨b, hopen, hlt⟩ => h k b hopen hlt⟩

theorem betweenLevels_next {input : NodeInput} {indent : Nat} :
    BetweenLevels (inputs ++ [input]) inputs.length indent ↔
      Between (inputs.map levelOf) indent := by
  have htake : inputs.take inputs.length = inputs := List.take_length
  have hopen : ∀ j a, OpenAt (inputs.map levelOf) j a ↔
      ∃ outer, OpenFor inputs j inputs.length outer ∧ outer.indent = a := by
    intro j a
    rw [← openAt_iff, htake]
  unfold BetweenLevels Between
  simp only [openFor_append (Nat.le_refl _), hopen]
  constructor
  · rintro ⟨j, low, k, high, hlow, hhigh, hlt, hgt, hnone⟩
    refine ⟨j, _, k, _, ⟨low, hlow, rfl⟩, ⟨high, hhigh, rfl⟩, hlt, hgt, ?_⟩
    rintro l _ ⟨other, hother, rfl⟩
    exact hnone l other hother
  · rintro ⟨j, _, k, _, ⟨low, hlow, rfl⟩, ⟨high, hhigh, rfl⟩, hlt, hgt, hnone⟩
    exact ⟨j, low, k, high, hlow, hhigh, hlt, hgt,
      fun l other hother => hnone l _ ⟨other, hother, rfl⟩⟩

end Lines

/-- The line an open node was read from, and its level. -/
def keyOf (d : NodeDraft) : Nat × Nat := (d.node.order - 1, d.indent)

/-- The nodes of a builder without the children they get later. -/
def bareNodes (b : IRBuilder) : List ConfigNode := b.nodes.map (bare ·.node)

/-- The builder has read these lines: its open nodes are the open levels, and its nodes are
where the lines before them put them. -/
structure Built (b : IRBuilder) (lines : List NodeInput) : Prop where
  length : b.nodes.length = lines.length
  tracks : Tracks (lines.map levelOf) (b.stack.map keyOf)
  opened : ∀ d ∈ b.stack, (bareNodes b)[d.node.order - 1]? = some (bare d.node)
  placed : ∀ i node, (bareNodes b)[i]? = some node →
    ∃ input, Placed lines (bareNodes b) i node input

theorem built_start (readerId : String) (source : ArtifactProvenance) (maxDepth maxNodes : Nat) :
    Built (start readerId source maxDepth maxNodes) [] := by
  refine ⟨rfl, tracks_nil, fun d hd => ?_, fun i node hnode => ?_⟩
  · cases hd
  · cases hnode

section Steps

variable {sha256 : String → String} {b : IRBuilder} {lines : List NodeInput} {input : NodeInput}

/-- The nodes that stay open are those below the indentation. -/
theorem placeByIndent_stack (hroot : input.forceRoot = false) :
    (b.placeByIndent input).stack.map keyOf = below (b.stack.map keyOf) input.indent := by
  rw [below, List.dropWhile_map]
  unfold IRBuilder.placeByIndent
  by_cases hindent : input.indent = 0
  · have hall : b.stack.dropWhile ((fun p : Nat × Nat => decide (input.indent ≤ p.2)) ∘ keyOf) =
        [] := List.dropWhile_eq_nil_iff.mpr fun d _ => by simp [hindent]
    rw [if_pos (by simp [hindent]), hall]
  · rw [if_neg (by simp [hroot, hindent])]
    rfl

theorem isEmpty_iff (h : Built b lines) (hroot : input.forceRoot = false) :
    (b.placeByIndent input).stack = [] ↔ ∀ j, ¬Encloses (lines ++ [input]) j lines.length := by
  have hempty : (b.placeByIndent input).stack = [] ↔
      below (b.stack.map keyOf) input.indent = [] := by
    rw [← placeByIndent_stack hroot, List.map_eq_nil_iff]
  rw [hempty, h.tracks.none_below]
  simp only [encloses_next]
  exact ⟨fun hnone j ⟨a, hopen, hlt⟩ => hnone j a hopen hlt,
    fun hnone j a hopen hlt => hnone j ⟨a, hopen, hlt⟩⟩

/-- A dedent that no open node matches lies between two levels. -/
theorem unmatchedDedent_iff (h : Built b lines) (hroot : input.forceRoot = false)
    (hsome : (b.placeByIndent input).stack ≠ []) :
    b.unmatchedDedent input.indent = true ↔
      BetweenLevels (lines ++ [input]) lines.length input.indent := by
  have hbelow : below (b.stack.map keyOf) input.indent ≠ [] := by
    rw [← placeByIndent_stack hroot]
    exact fun hnil => hsome (List.map_eq_nil_iff.mp hnil)
  rw [betweenLevels_next]
  have htracks := h.tracks
  unfold IRBuilder.unmatchedDedent
  cases hstack : b.stack with
  | nil =>
    rw [hstack] at hbelow
    exact absurd rfl hbelow
  | cons top rest =>
    rw [hstack, List.map_cons] at hbelow htracks
    rw [htracks.between_iff hbelow, Bool.and_eq_true, decide_eq_true_eq, List.all_eq_true,
      ← List.map_cons, List.forall_mem_map]
    simp only [bne_iff_ne]
    rfl

/-- The status of a new node, before the depth bound. -/
theorem placeByIndent_status (h : Built b lines) (hroot : input.forceRoot = false) :
    (Misindented (lines ++ [input]) lines.length input →
      (b.placeByIndent input).status = .partialText) ∧
    (¬Misindented (lines ++ [input]) lines.length input →
      (b.placeByIndent input).status = input.parseStatus) := by
  have hempty := isEmpty_iff h hroot
  have hunmatched := unmatchedDedent_iff h hroot
  have hmis : Misindented (lines ++ [input]) lines.length input ↔ 0 < input.indent ∧
      (b.unmatchedDedent input.indent = true ∨ (b.placeByIndent input).stack = []) := by
    rw [Misindented, ← hempty]
    refine and_congr_right fun _ => ?_
    by_cases hnone : (b.placeByIndent input).stack = []
    · simp [hnone]
    · simp only [hnone, false_or, or_false]
      exact (hunmatched hnone).symm
  rw [hmis]
  by_cases hindent : input.indent = 0
  · have hstatus : (b.placeByIndent input).status = input.parseStatus := by
      rw [IRBuilder.placeByIndent, if_pos (by simp [hindent])]
    exact ⟨fun hfault => absurd hfault.1 (by omega), fun _ => hstatus⟩
  · have hplaced : b.placeByIndent input = _ :=
      if_neg (show ¬(input.forceRoot || input.indent == 0) = true by simp [hroot, hindent])
    have hstack := congrArg Placement.stack hplaced
    have hstatus := congrArg Placement.status hplaced
    dsimp only at hstack hstatus
    rw [hstatus, hstack]
    constructor
    · rintro ⟨-, hfault⟩
      rw [if_pos (by simpa using hfault)]
    · intro hsound
      rw [if_neg fun hfault => hsound ⟨by omega, by simpa using hfault⟩]

theorem bareNodes_addNode (hroom : b.nodeLimitReached = false) :
    bareNodes (b.addNode sha256 input) =
      bareNodes b ++ [bare (b.draft sha256 input (b.place input)).node] :=
  bare_addNode sha256 hroom input

/-- A new node is where the lines put it. -/
theorem placed_next (h : Built b lines) (hroot : input.forceRoot = false)
    (hplace : b.place input = b.placeByIndent input) :
    Placed (lines ++ [input])
      (bareNodes b ++ [bare (b.draft sha256 input (b.place input)).node]) lines.length
      (bare (b.draft sha256 input (b.place input)).node) input := by
  obtain ⟨hfault, hsound⟩ := placeByIndent_status h hroot
  rw [hplace]
  refine ⟨List.getElem?_concat_length, fun j hj => ?_, fun hnone => ?_, hfault, hsound⟩
  · have hnearest := isParent_next.mp hj
    cases hstack : (b.placeByIndent input).stack with
    | nil =>
      have hnone := (isEmpty_iff h hroot).mp hstack
      exact absurd hj.1 (hnone j)
    | cons parent rest =>
      have hhead : (below (b.stack.map keyOf) input.indent).head? = some (keyOf parent) := by
        rw [← placeByIndent_stack hroot, hstack]
        rfl
      obtain rfl := hnearest.unique (h.tracks.head_below hhead)
      have hmem : parent ∈ b.stack := by
        refine (place_suffix b input).subset ?_
        rw [hplace, hstack]
        exact List.mem_cons_self
      have hnode := h.opened parent hmem
      have hlt := (List.getElem?_eq_some_iff.mp hnode).1
      refine ⟨bare parent.node, by rw [keyOf, List.getElem?_append_left hlt, hnode], ?_⟩
      simp [IRBuilder.draft, hstack, bare]
  · have hstack := (isEmpty_iff h hroot).mpr hnone
    simp [IRBuilder.draft, hstack, bare]

theorem built_addNode (h : Built b lines) (hroom : b.nodeLimitReached = false)
    (hroot : input.forceRoot = false) (hplace : b.place input = b.placeByIndent input) :
    Built (b.addNode sha256 input) (lines ++ [input]) := by
  have hnodes := @bareNodes_addNode sha256 b input hroom
  have hlength : (bareNodes b).length = lines.length := by
    rw [bareNodes, List.length_map, h.length]
  have hstack : (b.addNode sha256 input).stack = if input.canParent then
      b.draft sha256 input (b.place input) :: (b.place input).stack else
      (b.place input).stack := by
    simp only [IRBuilder.addNode, hroom, Bool.false_eq_true, if_false]
  have hkey : keyOf (b.draft sha256 input (b.place input)) = (lines.length, input.indent) := by
    rw [keyOf, ← h.length]
    rfl
  refine ⟨?_, ?_, fun d hd => ?_, fun i node hnode => ?_⟩
  · have hlengths := congrArg List.length hnodes
    rw [List.length_append, hlength, List.length_singleton, bareNodes, List.length_map] at hlengths
    rw [hlengths, List.length_append, List.length_singleton]
  · have htracks := h.tracks.push (levelOf input)
    rw [List.length_map, OpenLevels.push] at htracks
    rw [List.map_append, List.map_singleton, hstack]
    cases hparent : input.canParent with
    | true =>
      rw [if_pos rfl, List.map_cons, hkey, hplace, placeByIndent_stack hroot]
      simpa [levelOf, hparent] using htracks
    | false =>
      rw [if_neg (by decide), hplace, placeByIndent_stack hroot]
      simpa [levelOf, hparent] using htracks
  · rw [hnodes]
    have hold : ∀ d ∈ (b.place input).stack,
        (bareNodes b ++ [bare (b.draft sha256 input (b.place input)).node])[d.node.order - 1]? =
          some (bare d.node) := by
      intro d hd
      have hnode := h.opened d ((place_suffix b input).subset hd)
      have hlt := (List.getElem?_eq_some_iff.mp hnode).1
      rw [List.getElem?_append_left hlt, hnode]
    rw [hstack] at hd
    split at hd
    · rcases List.mem_cons.mp hd with rfl | hd
      · have horder : (b.draft sha256 input (b.place input)).node.order - 1 =
            (bareNodes b).length := by
          rw [hlength, ← h.length]
          rfl
        rw [horder, List.getElem?_concat_length]
      · exact hold d hd
    · exact hold d hd
  · rw [hnodes] at hnode ⊢
    rcases Nat.lt_or_ge i (bareNodes b).length with hlt | hge
    · rw [List.getElem?_append_left hlt] at hnode
      obtain ⟨own, hplaced⟩ := h.placed i node hnode
      exact ⟨own, hplaced.append⟩
    · rw [List.getElem?_append_right hge, List.getElem?_singleton] at hnode
      split at hnode
      · cases hnode
        obtain rfl : i = lines.length := by omega
        exact ⟨input, placed_next h hroot hplace⟩
      · cases hnode

/-- A call only adds diagnostics, and says where the depth bound moves a node. -/
theorem addNode_diagnostics (hroom : b.nodeLimitReached = false)
    (hfree : DepthFree (b.addNode sha256 input).diagnostics) :
    DepthFree b.diagnostics ∧ b.place input = b.placeByIndent input := by
  have hsame : (b.addNode sha256 input).diagnostics = (b.place input).diagnostics := by
    simp only [IRBuilder.addNode, hroom, Bool.false_eq_true, if_false]
  have hold : ∀ d ∈ b.diagnostics, d ∈ (b.placeByIndent input).diagnostics := by
    intro d hd
    unfold IRBuilder.placeByIndent
    split
    · exact hd
    · exact List.mem_append_left _ (List.mem_append_left _ hd)
  rw [hsame] at hfree
  have hplace : b.place input = b.placeByIndent input := by
    unfold IRBuilder.place IRBuilder.boundDepth at hfree ⊢
    split
    · rfl
    · rename_i parent rest hstack
      rw [hstack] at hfree
      dsimp only at hfree
      split
      · rfl
      · rename_i hdeep
        rw [if_neg hdeep] at hfree
        exact absurd rfl (hfree _ (List.mem_append_right _ List.mem_cons_self))
  rw [hplace] at hfree
  exact ⟨fun d hd => hfree d (hold d hd), hplace⟩

theorem addNode_maxNodes : (b.addNode sha256 input).maxNodes = b.maxNodes := by
  unfold IRBuilder.addNode
  split <;> rfl

/-- After any calls the builder has read the lines up to its node limit. -/
theorem built_run {maxNodes : Nat} {startBuilder : IRBuilder} (hstart : Built startBuilder [])
    (hmax : startBuilder.maxNodes = maxNodes) (inputs : List NodeInput)
    (hroot : ∀ input ∈ inputs, input.forceRoot = false)
    (hfree : DepthFree (run sha256 startBuilder inputs).diagnostics) :
    (run sha256 startBuilder inputs).maxNodes = maxNodes ∧
      Built (run sha256 startBuilder inputs) (inputs.take maxNodes) := by
  induction inputs using List.reverseRecOn with
  | nil =>
    rw [List.take_nil]
    exact ⟨hmax, hstart⟩
  | append_singleton inputs input ih =>
    have hstep : run sha256 startBuilder (inputs ++ [input]) =
        (run sha256 startBuilder inputs).addNode sha256 input := List.foldl_concat _ _ _ _
    rw [hstep] at hfree ⊢
    have hroots : ∀ input ∈ inputs, input.forceRoot = false := fun other hother =>
      hroot other (List.mem_append_left _ hother)
    cases hroom : (run sha256 startBuilder inputs).nodeLimitReached with
    | true =>
      have hsame : (run sha256 startBuilder inputs).addNode sha256 input =
          run sha256 startBuilder inputs := by
        rw [IRBuilder.addNode, if_pos hroom]
      rw [hsame] at hfree ⊢
      obtain ⟨hkept, hbuilt⟩ := ih hroots hfree
      have hlimit : maxNodes ≤ (inputs.take maxNodes).length := by
        rw [← hbuilt.length, ← hkept]
        simpa [IRBuilder.nodeLimitReached] using hroom
      rw [List.length_take] at hlimit
      rw [List.take_append_of_le_length (by omega)]
      exact ⟨hkept, hbuilt⟩
    | false =>
      obtain ⟨hearlier, hplace⟩ := addNode_diagnostics hroom hfree
      obtain ⟨hkept, hbuilt⟩ := ih hroots hearlier
      have hlimit : (inputs.take maxNodes).length < maxNodes := by
        rw [← hbuilt.length, ← hkept]
        simpa [IRBuilder.nodeLimitReached] using hroom
      rw [List.length_take] at hlimit
      have hshort : inputs.take maxNodes = inputs := List.take_of_length_le (by omega)
      have hlonger : (inputs ++ [input]).take maxNodes = inputs ++ [input] :=
        List.take_of_length_le (by rw [List.length_append, List.length_singleton]; omega)
      rw [hshort] at hbuilt
      rw [hlonger]
      refine ⟨addNode_maxNodes.trans hkept, built_addNode hbuilt hroom ?_ hplace⟩
      exact hroot input (List.mem_append_right _ (List.mem_singleton_self input))

end Steps

/-- Without the depth bound every node is where the indentation of the lines puts it: below the
last line that encloses it, and partial for its indentation exactly where that is at fault. -/
theorem parent_search (sha256 : String → String) (readerId : String)
    (source : ArtifactProvenance) (maxDepth maxNodes : Nat) (inputs : List NodeInput)
    (truncated : Bool) (hroot : ∀ input ∈ inputs, input.forceRoot = false)
    (hfree : DepthFree
      (run sha256 (start readerId source maxDepth maxNodes) inputs).diagnostics) :
    ((run sha256 (start readerId source maxDepth maxNodes) inputs).build truncated).nodes.length =
        min maxNodes inputs.length ∧
      ∀ i node,
        ((run sha256 (start readerId source maxDepth maxNodes) inputs).build truncated).nodes[i]? =
          some node →
        ∃ input, Placed inputs ((run sha256 (start readerId source maxDepth maxNodes)
          inputs).build truncated).nodes i node input := by
  have hmax : (start readerId source maxDepth maxNodes).maxNodes = maxNodes := rfl
  obtain ⟨-, hbuilt⟩ :=
    built_run (built_start readerId source maxDepth maxNodes) hmax inputs hroot hfree
  refine ⟨?_, fun i node hnode => ?_⟩
  · rw [IRBuilder.build, List.length_map, hbuilt.length, List.length_take]
  · have hbares : bareNodes (run sha256 (start readerId source maxDepth maxNodes) inputs) =
        ((run sha256 (start readerId source maxDepth maxNodes) inputs).build truncated).nodes.map
          bare := by
      rw [bareNodes, IRBuilder.build, List.map_map]
      rfl
    have hbare : (bareNodes (run sha256 (start readerId source maxDepth maxNodes) inputs))[i]? =
        some (bare node) := by
      rw [hbares, List.getElem?_map, hnode]
      rfl
    obtain ⟨input, hplaced⟩ := hbuilt.placed i (bare node) hbare
    have hall : Placed (inputs.take maxNodes ++ inputs.drop maxNodes)
        (bareNodes (run sha256 (start readerId source maxDepth maxNodes) inputs) ++ []) i
        (bare node) input := hplaced.append
    rw [List.take_append_drop, List.append_nil] at hall
    refine ⟨input, hall.read, fun j hj => ?_, hall.root, hall.fault, hall.sound⟩
    obtain ⟨parent, hparent, hrest⟩ := hall.parent j hj
    rw [hbares, List.getElem?_map, Option.map_eq_some_iff] at hparent
    obtain ⟨own, hown, rfl⟩ := hparent
    exact ⟨own, hown, hrest⟩

/-- One line of an interface block. -/
def lineInput (number indent : Nat) (rawText : String) : NodeInput :=
  { rawText, command := none, arguments := [], indent, sourceStart := number, sourceEnd := number,
    negated := false, kind := .statement, parseStatus := .parsed }

/-- The third line goes back to a level between those of the first two. -/
def dedentInputs : List NodeInput :=
  [lineInput 1 0 "interface Gi1", lineInput 2 2 "ip address dhcp", lineInput 3 1 "no shutdown"]

def dedentSha256 : String → String := tabulated
  [("00000000-0000-0000-0000-000000000001\x1findentation_cli.v1\x1f1\x1f1\x1f1\x1froot\x1f" ++
      "interface Gi1", "4570c49f45b535b14838862dc78bce39df5b76ab517dc4e975a7f6fad6bf68f0"),
    ("00000000-0000-0000-0000-000000000001\x1findentation_cli.v1\x1f2\x1f2\x1f2\x1f" ++
      "irn_4570c49f45b535b14838862dc78bce39\x1fip address dhcp",
      "0a92d20d577a7a574cb0e4717fcdfc3ac13de9fe11da32e0b7e9d54d325db8a6"),
    ("00000000-0000-0000-0000-000000000001\x1findentation_cli.v1\x1f3\x1f3\x1f3\x1f" ++
      "irn_4570c49f45b535b14838862dc78bce39\x1fno shutdown",
      "d84eba5b4d95143f97bc171e1d1450d8ee757071aea91a71b6fb48e6b0b08567")]

def dedentSource : ArtifactProvenance :=
  { artifactId := UUID.ofNat 1, snapshotId := some (UUID.ofNat 4), sourceLabel := "router.cfg" }

def dedentIr : StructuralIR :=
  (run dedentSha256 (start "indentation_cli.v1" dedentSource 32 100) dedentInputs).build false

theorem parent_search_dedent : ∃ node input, dedentIr.nodes[2]? = some node ∧
    Placed dedentInputs dedentIr.nodes 2 node input := by
  obtain ⟨node, hnode⟩ : ∃ node, dedentIr.nodes[2]? = some node :=
    Option.isSome_iff_exists.mp (by decide +kernel)
  have hroot : ∀ input ∈ dedentInputs, input.forceRoot = false := by decide
  have hfree : DepthFree
      (run dedentSha256 (start "indentation_cli.v1" dedentSource 32 100) dedentInputs).diagnostics
      := by
    unfold DepthFree
    decide +kernel
  obtain ⟨-, hplaced⟩ := parent_search dedentSha256 "indentation_cli.v1" dedentSource 32 100
    dedentInputs false hroot hfree
  obtain ⟨input, hinput⟩ := hplaced 2 node hnode
  exact ⟨node, input, hnode, hinput⟩

end ConfigAuditor.Parsing.ParentSearch
