import ConfigAuditor.Parsing.IRBuilder

/-!
# Source lines and the nodes that carry them

A text, split into the lines its nodes name, and what the calls of a builder do to the lines
its nodes carry.
-/
namespace ConfigAuditor.Parsing.Spans

open Library

/-- The lines of a text without their ends. -/
def sourceLines (content : List Char) : List (List Char) :=
  (Text.lines content).map (Text.rstripChars ['\r', '\n'])

def blank (line : List Char) : Bool := (Text.stripList Text.isSpace line).isEmpty

/-- The text of neighbouring lines. -/
def joinLines (lines : List (List Char)) : String := String.ofList (['\n'].intercalate lines)

/-- The lines a node takes, and its text. -/
structure LineSpan where
  first : Nat
  last : Nat
  rawText : String
  deriving DecidableEq

def spanOf (node : ConfigNode) : LineSpan := ⟨node.sourceStart, node.sourceEnd, node.rawText⟩

def NodeInput.span (input : NodeInput) : LineSpan :=
  ⟨input.sourceStart, input.sourceEnd, input.rawText⟩

def LineSpan.covers (span : LineSpan) (line : Nat) : Prop := span.first ≤ line ∧ line ≤ span.last

/-- The spans of the nodes of a builder, in their order. -/
def spans (b : IRBuilder) : List LineSpan := b.nodes.map (spanOf ·.node)

theorem spans_addDiagnostic (b : IRBuilder) (diagnostic : ParseDiagnostic) :
    spans (b.addDiagnostic diagnostic) = spans b := rfl

theorem spans_resetContext (b : IRBuilder) : spans b.resetContext = spans b := rfl

theorem length_spans (b : IRBuilder) : (spans b).length = b.nodes.length := List.length_map _

theorem spans_addNode_full (sha256 : String → String) {b : IRBuilder}
    (h : b.nodeLimitReached = true) (input : NodeInput) :
    spans (b.addNode sha256 input) = spans b := by
  rw [IRBuilder.addNode, if_pos h]

/-- A new node comes last, and the other nodes keep their lines. -/
theorem spans_addNode (sha256 : String → String) {b : IRBuilder}
    (h : b.nodeLimitReached = false) (input : NodeInput) :
    spans (b.addNode sha256 input) = spans b ++ [NodeInput.span input] := by
  obtain ⟨grow, hgrow, hsame⟩ := IRBuilder.grown_eq b.nodes (b.place input).stack.head?
    (b.draft sha256 input (b.place input)).node.nodeId
  have hold : (b.nodes.map grow).map (spanOf ·.node) = b.nodes.map (spanOf ·.node) := by
    rw [List.map_map]
    refine List.map_congr_left fun d _ => ?_
    obtain ⟨children, hchildren⟩ := hsame d
    rw [Function.comp_apply, hchildren]
    rfl
  simp only [spans, IRBuilder.addNode, h, Bool.false_eq_true, if_false, List.map_append]
  rw [hgrow, hold]
  rfl

theorem maxNodes_addNode (sha256 : String → String) (b : IRBuilder) (input : NodeInput) :
    (b.addNode sha256 input).maxNodes = b.maxNodes := by
  unfold IRBuilder.addNode
  split <;> rfl

theorem spans_build (b : IRBuilder) (truncated : Bool) :
    (b.build truncated).nodes.map spanOf = spans b := by
  simp [IRBuilder.build, spans]

end ConfigAuditor.Parsing.Spans
