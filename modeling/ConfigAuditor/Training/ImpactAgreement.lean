import ConfigAuditor.Interpretation.EvidencePaths
import ConfigAuditor.Parsing.IndentationCli
import ConfigAuditor.Training.ImpactAnalysis

/-!
# Impact analysis and interpretation

Where the occurrence of a block and the node it was stored for are matched alike: the
guards that both matchers check on the same data, and those the occurrence has lost.
-/
namespace ConfigAuditor.Training.ImpactAgreement

open Library SecurityModel Parsing Interpretation.Mapping Interpretation.UnresolvedBlocks
open Training.Dsl Training.Matcher Training.ImpactAnalysis Interpretation.EvidencePaths

/-! ## Stored nodes -/

/-- A node of a reader's tree, for which a block is stored. -/
inductive StoredNode where
  | cli (ir : StructuralIR) (node : ConfigNode) (wellFormed : ir.WellFormed)
    (mem : node ∈ ir.nodes)
  | xml (node : XmlNode)
  | json (node : JsonNode)

/-- `UnresolvedBlock.occurrence` of its block. -/
def StoredNode.occurrence : StoredNode → List (String × PyValue)
  | .cli ir node _ _ => cliOccurrence ir node
  | .xml node => xmlOccurrence node
  | .json node => jsonOccurrence node

/-- The matcher the interpreter uses on the node. -/
def interpreterMatches (definition : MappingDefinition) : StoredNode → Bool
  | .cli ir node _ _ => interpreterMatchesCli definition ir node
  | .xml node => interpreterMatchesXml definition node
  | .json node => interpreterMatchesJson definition node

/-! ## Where they agree -/

section Conditions

variable (definition : MappingDefinition)

/-- What both matchers see of a statement. -/
def sharedNode (ir : StructuralIR) (node : ConfigNode) (command : String) : ValidationNode :=
  { command, arguments := node.arguments,
    parentCommand := (persistedParent ir node).bind (·.command), negated := node.negated }

/-- The guards both matchers check alike: command, negation, parent command, arguments, and the
bounds of these fields. -/
def sharedGuards (ir : StructuralIR) (node : ConfigNode) (command : String) : Bool :=
  (sharedNode ir node command).bounded &&
    (matchesContext { definition.structuralMatch with ancestorCommands := [], scopeType := none }
        (sharedNode ir node command) &&
      (matchArguments definition.structuralMatch.arguments node.arguments []).isSome)

/-- The guards on ancestors and scope, as the interpreter checks them. -/
def interpreterGuards (ir : StructuralIR) (node : ConfigNode) : Bool :=
  match ancestorCommands ir ir.nodes.length [] (persistedParent ir node) with
  | .ok ancestors =>
    definition.structuralMatch.ancestorCommands.all ancestors.contains &&
      definition.structuralMatch.scopeType.all
        (·.text == definition.scopeResolution.strategy.text)
  | .error _ => false

/-- The guards on ancestors and scope, as they are checked on the occurrence: the ancestors are
node ids there, and no scope type is stored. -/
def occurrenceGuards (node : ConfigNode) : Bool :=
  decide (node.contextPath.length ≤ 8) &&
    (definition.structuralMatch.ancestorCommands.all node.contextPath.contains &&
      definition.structuralMatch.scopeType.isNone)

/-- The path has the local names of the definition. -/
def namesAgree (source : XmlPathMatch) (node : XmlNode) : Bool :=
  node.path.length == source.path.length &&
    node.path.map normalizedStep == source.path.map (·.localName)

/-- Each step passes its segment, with its namespace and its position. -/
def stepsPass (source : XmlPathMatch) (node : XmlNode) : Bool :=
  (node.path.zip source.path).all fun pair =>
    match readStep pair.1 with
    | .ok step => stepMatches pair.2 step
    | .error _ => false

/-- The node has what an XML path match reads, of the type it is captured with. -/
def xmlReadable (source : XmlPathMatch) (node : XmlNode) : Bool :=
  ((xmlRaw source node).bind (xmlCaptures source)).isSome

/-- The node has what a JSON path match reads, of the type it is captured with. -/
def jsonReadable (source : JsonPathMatch) (node : JsonNode) : Bool :=
  match source.source with
  | .presence => !present source.capture ||
    (typed (.bool true) (source.valueType.getD .string)).isOk
  | .value => !node.value.isContainer && (!present source.capture ||
    (typed node.value (source.valueType.getD .string)).isOk)

/-- The definition matches a bare word `unknown` at the top level. -/
def MatchesUnknown : Prop :=
  matchesContext definition.structuralMatch { command := "unknown" } = true ∧
    definition.structuralMatch.arguments.all (·.operation == .optional) = true

/-- What the occurrence has lost does not decide the match. -/
def NothingLost : StoredNode → Prop
  | .cli ir node _ _ => ∀ command, node.command = some command →
    sharedGuards definition ir node command = true →
    (interpreterGuards definition ir node = true ↔ occurrenceGuards definition node = true)
  | .xml node => match definition.structuralMatch.operation with
    | .xmlPath => ∀ source, definition.structuralMatch.xmlPath = some source →
      namesAgree source node = true → stepsPass source node = true ∧ xmlReadable source node = true
    | .jsonPath => True
    | _ => ¬ MatchesUnknown definition
  | .json node => match definition.structuralMatch.operation with
    | .jsonPath => ∀ source, definition.structuralMatch.jsonPath = some source →
      source.path.map expectedStep = node.path.map some → jsonReadable source node = true
    | .xmlPath => True
    | _ => ¬ MatchesUnknown definition

end Conditions

/-! ## Command lines -/

section Cli

variable {definition : MappingDefinition} {ir : StructuralIR} {node : ConfigNode}

theorem matchesContext_split (m : StructuralMatch) (n : ValidationNode) (ancestors : List String)
    (scope : Option String) :
    matchesContext m { n with ancestorCommands := ancestors, scopeType := scope } =
      (matchesContext { m with ancestorCommands := [], scopeType := none } n &&
        (m.ancestorCommands.all ancestors.contains &&
          m.scopeType.all fun s => scope == some s.text)) := by
  rw [Bool.eq_iff_iff]
  simp only [matchesContext, Bool.and_eq_true, List.all_nil, Option.all_none, and_true]
  tauto

theorem bounded_split (n : ValidationNode) (ancestors : List String) (scope : Option String) :
    ({ n with ancestorCommands := ancestors, scopeType := scope } : ValidationNode).bounded =
      (({ n with ancestorCommands := [], scopeType := none } : ValidationNode).bounded &&
        (decide (ancestors.length ≤ 8) && atMost 64 scope)) := by
  rw [Bool.eq_iff_iff]
  simp only [ValidationNode.bounded, Bool.and_eq_true, List.length_nil, Nat.zero_le, decide_true,
    atMost, Option.all_none, and_true]
  tauto

theorem strategy_text_short (strategy : ScopeStrategy) : atMost 64 (some strategy.text) = true := by
  cases strategy <;> decide

theorem ancestorCommands_length {fuel : Nat} {found ancestors : List String}
    {ancestor : Option ConfigNode} (hfound : found.length ≤ 8)
    (h : ancestorCommands ir fuel found ancestor = .ok ancestors) : ancestors.length ≤ 8 := by
  induction fuel generalizing found ancestor with
  | zero =>
    cases ancestor with
    | none =>
      obtain rfl := Except.ok.inj h
      exact hfound
    | some ancestor =>
      unfold ancestorCommands at h
      split at h
      · obtain rfl := Except.ok.inj h
        exact hfound
      · cases h
  | succ fuel ih =>
    cases ancestor with
    | none =>
      obtain rfl := Except.ok.inj h
      exact hfound
    | some ancestor =>
      unfold ancestorCommands at h
      split at h
      · obtain rfl := Except.ok.inj h
        exact hfound
      · obtain ⟨next, -, h⟩ := except_bind_eq_ok.mp h
        refine ih ?_ h
        rw [List.length_append]
        have hone : (ancestor.command.filter (!·.isEmpty)).toList.length ≤ 1 := by
          cases ancestor.command.filter (!·.isEmpty) <;> simp
        omega

/-- In a well-formed tree the stored parent is the parent the interpreter finds. -/
theorem lookupParent_eq (hir : ir.WellFormed) (hnode : node ∈ ir.nodes) :
    lookupParent ir node = .ok (persistedParent ir node) := by
  unfold lookupParent persistedParent
  cases hid : node.parentId with
  | none => rfl
  | some id =>
    obtain ⟨parent, hfind, hparent, -⟩ := hir.node?_parent hnode hid
    have hown := (StructuralIR.node?_some hfind).2
    have hlast : ir.nodes.reverse.find? (·.nodeId == id) = some parent := by
      cases hsearch : ir.nodes.reverse.find? (·.nodeId == id) with
      | none =>
        have := List.find?_eq_none.mp hsearch parent (List.mem_reverse.mpr hparent)
        simp [hown] at this
      | some other =>
        have hother := List.mem_reverse.mp (List.mem_of_find?_eq_some hsearch)
        have hsame : other.nodeId = id := by simpa using List.find?_some hsearch
        rw [List.inj_on_of_nodup_map hir.nodup hother hparent (hsame.trans hown.symm)]
    dsimp only
    rw [hfind, Option.bind_some, hlast]
    rfl

theorem matchNode_isSome (n : ValidationNode) :
    (matchNode definition n).isSome = (matchesContext definition.structuralMatch n &&
      (matchArguments definition.structuralMatch.arguments n.arguments []).isSome) := by
  unfold matchNode
  split
  · rename_i h
    rw [h, Bool.true_and]
  · rename_i h
    rw [Bool.eq_false_iff.mpr h]
    rfl

/-- The guards on ancestors and scope of a projected node. -/
def ownGuards (definition : MappingDefinition) (ancestors : List String) (scope : Option String) :
    Bool :=
  (decide (ancestors.length ≤ 8) && atMost 64 scope) &&
    (definition.structuralMatch.ancestorCommands.all ancestors.contains &&
      definition.structuralMatch.scopeType.all fun s => scope == some s.text)

/-- A projected node is valid and matched where the shared guards and its own hold. -/
theorem matchNode_iff (command : String) (ancestors : List String) (scope : Option String) :
    (({ sharedNode ir node command with ancestorCommands := ancestors, scopeType := scope } :
        ValidationNode).bounded = true ∧
      (matchNode definition { sharedNode ir node command with
        ancestorCommands := ancestors, scopeType := scope }).isSome = true) ↔
      sharedGuards definition ir node command = true ∧
        ownGuards definition ancestors scope = true := by
  have hown : ({ sharedNode ir node command with ancestorCommands := [], scopeType := none } :
      ValidationNode) = sharedNode ir node command := rfl
  have harguments : (sharedNode ir node command).arguments = node.arguments := rfl
  rw [matchNode_isSome, matchesContext_split, bounded_split, hown]
  unfold sharedGuards ownGuards
  dsimp only
  rw [harguments]
  simp only [Bool.and_eq_true]
  tauto

/-- The node the interpreter projects a statement to. -/
theorem trainingValidationNode_eq_ok (hir : ir.WellFormed) (hnode : node ∈ ir.nodes)
    {scopeType : String} {n : ValidationNode} :
    trainingValidationNode node ir scopeType = .ok n ↔ ∃ ancestors command,
      ancestorCommands ir ir.nodes.length [] (persistedParent ir node) = .ok ancestors ∧
      node.command = some command ∧ n.bounded = true ∧
      n = { sharedNode ir node command with
        ancestorCommands := ancestors, scopeType := some scopeType } := by
  unfold trainingValidationNode
  rw [lookupParent_eq hir hnode]
  constructor
  · intro h
    obtain ⟨parent, hparent, h⟩ := except_bind_eq_ok.mp h
    obtain rfl := Except.ok.inj hparent
    obtain ⟨ancestors, hancestors, h⟩ := except_bind_eq_ok.mp h
    split at h
    · cases h
    · rename_i command hcommand
      obtain ⟨_, hbounded, h⟩ := except_bind_eq_ok.mp h
      obtain rfl := except_pure_eq_ok.mp h
      rw [raiseIf_eq_ok, Bool.not_eq_false'] at hbounded
      exact ⟨ancestors, command, hancestors, hcommand, hbounded, rfl⟩
  · rintro ⟨ancestors, command, hancestors, hcommand, hbounded, rfl⟩
    refine except_bind_eq_ok.mpr ⟨_, rfl, except_bind_eq_ok.mpr ⟨ancestors, hancestors, ?_⟩⟩
    rw [hcommand]
    refine except_bind_eq_ok.mpr ⟨(), ?_, rfl⟩
    rw [raiseIf_eq_ok, Bool.not_eq_false']
    exact hbounded

/-- The interpreter matches where the shared guards and its own hold. -/
theorem interpreterMatchesCli_iff (hir : ir.WellFormed) (hnode : node ∈ ir.nodes) :
    interpreterMatchesCli definition ir node = true ↔ ∃ command, node.command = some command ∧
      sharedGuards definition ir node command = true ∧
      interpreterGuards definition ir node = true := by
  have hmatches : interpreterMatchesCli definition ir node = true ↔ ∃ n,
      trainingValidationNode node ir definition.scopeResolution.strategy.text = .ok n ∧
      (matchNode definition n).isSome = true := by
    unfold interpreterMatchesCli
    cases trainingValidationNode node ir definition.scopeResolution.strategy.text with
    | ok n => simp
    | error e => simp
  have hguards : interpreterGuards definition ir node = true ↔ ∃ ancestors,
      ancestorCommands ir ir.nodes.length [] (persistedParent ir node) = .ok ancestors ∧
      ownGuards definition ancestors (some definition.scopeResolution.strategy.text) = true := by
    unfold interpreterGuards
    cases hancestors : ancestorCommands ir ir.nodes.length [] (persistedParent ir node) with
    | error e => simp
    | ok ancestors =>
      have hlength : ancestors.length ≤ 8 :=
        @ancestorCommands_length _ _ [] _ _ (by simp) hancestors
      have hscope : (definition.structuralMatch.scopeType.all fun s =>
          some definition.scopeResolution.strategy.text == some s.text) =
          definition.structuralMatch.scopeType.all
            (·.text == definition.scopeResolution.strategy.text) := by
        cases definition.structuralMatch.scopeType with
        | none => rfl
        | some s => simp [eq_comm]
      have hown : ownGuards definition ancestors
          (some definition.scopeResolution.strategy.text) =
          (definition.structuralMatch.ancestorCommands.all ancestors.contains &&
            definition.structuralMatch.scopeType.all
              (·.text == definition.scopeResolution.strategy.text)) := by
        rw [ownGuards, decide_eq_true hlength, strategy_text_short, hscope, Bool.true_and,
          Bool.true_and]
      dsimp only
      rw [← hown]
      constructor
      · intro h
        exact ⟨ancestors, rfl, h⟩
      · rintro ⟨_, hsame, h⟩
        obtain rfl := Except.ok.inj hsame
        exact h
  rw [hmatches, hguards]
  constructor
  · rintro ⟨n, hn, hmatch⟩
    obtain ⟨ancestors, command, hancestors, hcommand, hbounded, rfl⟩ :=
      (trainingValidationNode_eq_ok hir hnode).mp hn
    obtain ⟨hshared, hown⟩ := (matchNode_iff command ancestors _).mp ⟨hbounded, hmatch⟩
    exact ⟨command, hcommand, hshared, ancestors, hancestors, hown⟩
  · rintro ⟨command, hcommand, hshared, ancestors, hancestors, hown⟩
    obtain ⟨hbounded, hmatch⟩ := (matchNode_iff command ancestors _).mpr ⟨hshared, hown⟩
    exact ⟨_, (trainingValidationNode_eq_ok hir hnode).mpr
      ⟨ancestors, command, hancestors, hcommand, hbounded, rfl⟩, hmatch⟩

theorem textList_strings (items : List String) :
    textList (.list (items.map .str)) = some items := by
  unfold textList
  dsimp only
  induction items with
  | nil => rfl
  | cons item items ih =>
    rw [List.map_cons, List.mapM_cons, ih]
    rfl

@[simp] theorem optionalText?_optionalText (s : Option String) :
    optionalText? (optionalText s) = some s := by
  cases s <;> rfl

/-- The node the occurrence of a statement is read as. -/
theorem occurrenceNode_cli : occurrenceNode (cliOccurrence ir node) =
    node.command.bind fun command =>
      let n := { sharedNode ir node command with ancestorCommands := node.contextPath }
      if n.bounded then some n else none := by
  have hcommand : Dict.get? (cliOccurrence ir node) "command" = some (optionalText node.command) :=
    by simp [cliOccurrence, Dict.get?]
  have harguments : Dict.get? (cliOccurrence ir node) "arguments" =
      some (.list (node.arguments.map .str)) := by simp [cliOccurrence, Dict.get?]
  have hparent : Dict.get? (cliOccurrence ir node) "parent_command" =
      some (optionalText ((persistedParent ir node).bind (·.command))) := by
    simp [cliOccurrence, Dict.get?]
  have hancestors : Dict.get? (cliOccurrence ir node) "ancestor_commands" =
      some (.list (node.contextPath.map .str)) := by simp [cliOccurrence, Dict.get?]
  have hscope : Dict.get? (cliOccurrence ir node) "scope_type" = none := by
    simp [cliOccurrence, Dict.get?]
  have hnegated : Dict.get? (cliOccurrence ir node) "negated" = some (.bool node.negated) := by
    simp [cliOccurrence, Dict.get?]
  unfold occurrenceNode
  simp only [hcommand, harguments, hparent, hancestors, hscope, hnegated, Option.getD_some,
    Option.getD_none, textList_strings, optionalText?_optionalText]
  cases node.command with
  | none => rfl
  | some command => rfl

/-- A block is matched where the shared guards and those on its occurrence hold. -/
theorem blockMatches_cli_iff : blockMatches definition (cliOccurrence ir node) = true ↔
    ∃ command, node.command = some command ∧ sharedGuards definition ir node command = true ∧
      occurrenceGuards definition node = true := by
  have hown : occurrenceGuards definition node = ownGuards definition node.contextPath none := by
    unfold occurrenceGuards ownGuards
    cases definition.structuralMatch.scopeType <;> simp [atMost]
  have hstructured (h : definition.structuralMatch.operation = .xmlPath ∨
      definition.structuralMatch.operation = .jsonPath) (command : String) :
      sharedGuards definition ir node command = false := by
    obtain h | h := h <;> simp [sharedGuards, matchesContext, h]
  have hread : ((occurrenceNode (cliOccurrence ir node)).elim false
      fun n => (matchNode definition n).isSome) = true ↔ ∃ command, node.command = some command ∧
        sharedGuards definition ir node command = true ∧
        ownGuards definition node.contextPath none = true := by
    rw [occurrenceNode_cli]
    cases hcommand : node.command with
    | none => simp
    | some command =>
      have hsplit := @matchNode_iff definition ir node command
        node.contextPath none
      simp only [Option.bind_some, Option.some.injEq, exists_eq_left']
      rw [← hsplit]
      by_cases hbounded : ({ sharedNode ir node command with
          ancestorCommands := node.contextPath } : ValidationNode).bounded = true
      · rw [if_pos hbounded]
        exact (and_iff_right hbounded).symm
      · rw [if_neg hbounded]
        exact iff_of_false Bool.false_ne_true fun h => hbounded h.1
  rw [hown]
  unfold blockMatches
  dsimp only
  cases hop : definition.structuralMatch.operation with
  | xmlPath => simp [cliOccurrence, Dict.get?, hstructured (.inl hop)]
  | jsonPath => simp [cliOccurrence, Dict.get?, hstructured (.inr hop)]
  | commandEquality =>
    rw [← hread]
    cases occurrenceNode (cliOccurrence ir node) <;> exact Iff.rfl
  | commandPrefix =>
    rw [← hread]
    cases occurrenceNode (cliOccurrence ir node) <;> exact Iff.rfl

end Cli

/-! ## Definitions of commands on structured nodes -/

section Structured

variable {definition : MappingDefinition}

theorem matchArguments_nil (patterns : List ArgumentPattern) (captures : Captures) :
    (matchArguments patterns [] captures).isSome = patterns.all (·.operation == .optional) := by
  induction patterns with
  | nil => rfl
  | cons pattern patterns ih =>
    rw [List.all_cons, ← ih]
    cases h : pattern.operation <;> simp [matchArguments, h]

/-- An occurrence without a command is read as the bare word `unknown`. -/
theorem occurrenceNode_unknown {occurrence : List (String × PyValue)}
    (h : ∀ key ∈ ["command", "arguments", "parent_command", "ancestor_commands", "scope_type",
      "negated"], Dict.get? occurrence key = none) :
    occurrenceNode occurrence = some { command := "unknown" } := by
  simp only [List.forall_mem_cons, List.not_mem_nil, false_implies, implies_true, and_true] at h
  obtain ⟨h₁, h₂, h₃, h₄, h₅, h₆⟩ := h
  unfold occurrenceNode
  simp only [h₁, h₂, h₃, h₄, h₅, h₆, Option.getD_none]
  rfl

/-- A definition of commands matches a structured block where it matches that word. -/
theorem blockMatches_unknown {occurrence : List (String × PyValue)}
    (h : ∀ key ∈ ["command", "arguments", "parent_command", "ancestor_commands", "scope_type",
      "negated"], Dict.get? occurrence key = none)
    (hxml : definition.structuralMatch.operation ≠ .xmlPath)
    (hjson : definition.structuralMatch.operation ≠ .jsonPath) :
    blockMatches definition occurrence = true ↔ MatchesUnknown definition := by
  have hread : blockMatches definition occurrence =
      (matchNode definition { command := "unknown" }).isSome := by
    unfold blockMatches
    rw [occurrenceNode_unknown h]
    dsimp only
    cases hop : definition.structuralMatch.operation with
    | xmlPath => exact absurd hop hxml
    | jsonPath => exact absurd hop hjson
    | commandEquality => rfl
    | commandPrefix => rfl
  rw [hread, matchNode_isSome, Bool.and_eq_true, matchArguments_nil]
  rfl

end Structured

/-! ## XML paths -/

section Xml

/-- The name of a tag without its namespace is what stands after its last brace. -/
theorem xmlName_local {tag name : String} (hname : '\x7d' ∉ name.toList)
    (h : (xmlName tag).2 = name) : (Text.splitAll '\x7d' tag.toList).getLastD [] = name.toList := by
  unfold xmlName at h
  split at h
  · rename_i rest htag
    split at h
    · rename_i namespaceUri localName hsplit
      obtain rfl : String.ofList localName = name := h
      rw [String.toList_ofList] at hname ⊢
      obtain ⟨hrest, -⟩ := Text.splitFirst_some hsplit
      rw [htag, hrest, ← List.cons_append, Text.splitAll_between, Text.splitAll_of_not_mem hname,
        List.getLastD_concat]
    · obtain rfl : tag = name := h
      rw [Text.splitAll_of_not_mem hname]
      rfl
  · obtain rfl : tag = name := h
    rw [Text.splitAll_of_not_mem hname]
    rfl

theorem safeName_brace {segment : XmlPathSegment} (h : segment.safeName = true) :
    '\x7d' ∉ segment.localName.toList := by
  unfold XmlPathSegment.safeName at h
  simp only [Bool.and_eq_true] at h
  obtain ⟨⟨⟨hname, -⟩, -⟩, -⟩ := h
  intro hmem
  cases hlist : segment.localName.toList with
  | nil => rw [hlist] at hmem; cases hmem
  | cons c cs =>
    rw [hlist] at hmem hname
    simp only [Bool.and_eq_true, List.all_eq_true] at hname
    obtain rfl | hmem := List.mem_cons.mp hmem
    · exact absurd hname.1.1 (by decide)
    · exact absurd (hname.2 _ hmem) (by decide)

/-- A step that passes its segment has its local name. -/
theorem normalizedStep_of_stepMatches {actual : String} {segment : XmlPathSegment}
    {step : String × Int} (hsafe : segment.safeName = true) (hread : readStep actual = .ok step)
    (hstep : stepMatches segment step = true) : normalizedStep actual = segment.localName := by
  unfold readStep at hread
  unfold normalizedStep
  split at hread
  · cases hread
  · rename_i tag index hsplit
    obtain ⟨occurrence, -, h⟩ := except_bind_eq_ok.mp hread
    obtain rfl := except_pure_eq_ok.mp h
    unfold stepMatches at hstep
    simp only [Bool.and_eq_true, beq_iff_eq] at hstep
    have hlocal := xmlName_local (safeName_brace hsafe) hstep.1.1
    rw [String.toList_ofList] at hlocal
    rw [hsplit]
    dsimp only
    rw [hlocal, String.ofList_toList]

theorem pathMatches_iff {path : List String} {segments : List XmlPathSegment} :
    pathMatches path segments = .ok true ↔ ((path.zip segments).all fun pair =>
      match readStep pair.1 with
      | .ok step => stepMatches pair.2 step
      | .error _ => false) = true := by
  induction path generalizing segments with
  | nil => simp [pathMatches, pure, Except.pure]
  | cons actual path ih =>
    cases segments with
    | nil => simp [pathMatches, pure, Except.pure]
    | cons segment segments =>
      rw [List.zip_cons_cons, List.all_cons, Bool.and_eq_true, ← ih, pathMatches]
      cases hread : readStep actual with
      | error e => simp [bind, Except.bind]
      | ok step =>
        cases hstep : stepMatches segment step with
        | true => simp [bind, Except.bind, hstep]
        | false => simp [bind, Except.bind, hstep, pure, Except.pure]

variable {source : XmlPathMatch} {node : XmlNode}

/-- Where the steps pass, the names agree. -/
theorem namesAgree_of_stepsPass (hsafe : source.path.all (·.safeName) = true)
    (hlength : node.path.length = source.path.length) (h : stepsPass source node = true) :
    namesAgree source node = true := by
  unfold stepsPass at h
  unfold namesAgree
  rw [Bool.and_eq_true, beq_iff_eq, beq_iff_eq]
  refine ⟨hlength, ?_⟩
  generalize node.path = path at h hlength
  generalize source.path = segments at h hlength hsafe
  induction path generalizing segments with
  | nil =>
    obtain rfl := List.length_eq_zero_iff.mp hlength.symm
    rfl
  | cons actual path ih =>
    cases segments with
    | nil => cases hlength
    | cons segment segments =>
      rw [List.all_cons, Bool.and_eq_true] at hsafe
      rw [List.zip_cons_cons, List.all_cons, Bool.and_eq_true] at h
      rw [List.map_cons, List.map_cons, ih segments h.2 (Nat.succ.inj hlength) hsafe.2]
      cases hread : readStep actual with
      | error e => simp [hread] at h
      | ok step =>
        have hstep : stepMatches segment step = true := by simpa [hread] using h.1
        rw [normalizedStep_of_stepMatches hsafe.1 hread hstep]

/-- `matches_xml` matches a node where the path has the right length, every step passes, and the
node has what is read. -/
theorem matchXmlNode_iff : (match matchXmlNode source node with
      | .ok captures => captures.isSome
      | .error _ => false) = true ↔
    node.path.length = source.path.length ∧ stepsPass source node = true ∧
      xmlReadable source node = true := by
  have hsteps := @pathMatches_iff node.path source.path
  unfold matchXmlNode stepsPass xmlReadable
  rw [← hsteps]
  by_cases hlength : node.path.length = source.path.length
  · rw [if_neg (by simpa using hlength)]
    cases hmatches : pathMatches node.path source.path with
    | error e => simp [bind, Except.bind]
    | ok found => cases found <;> simp [bind, Except.bind, pure, Except.pure, hlength]
  · rw [if_pos (by simpa using hlength)]
    simp [pure, Except.pure, hlength]

end Xml

/-! ## JSON paths -/

section Json

theorem eqList_expected (path : List JsonStep) (segments : List JsonPathSegment) :
    PyValue.eqList (path.map stepValue) (segments.map expectedValue) = true ↔
      segments.map expectedStep = path.map some := by
  induction path generalizing segments with
  | nil => cases segments <;> simp [PyValue.eqList]
  | cons step path ih =>
    cases segments with
    | nil => simp [PyValue.eqList]
    | cons segment segments =>
      have hstep : PyValue.eq (stepValue step) (expectedValue segment) = true ↔
          expectedStep segment = some step := by
        unfold expectedValue expectedStep
        cases hkey : segment.key with
        | some key =>
          cases step with
          | key name =>
            simp only [stepValue, PyValue.eq, beq_iff_eq, Option.some.injEq, JsonStep.key.injEq]
            exact eq_comm
          | index i => simp [stepValue, PyValue.eq, PyValue.number?]
        | none =>
          cases hindex : segment.index with
          | none => cases step <;> simp [stepValue, PyValue.eq, PyValue.number?]
          | some index =>
            cases step with
            | key name => simp [stepValue, PyValue.eq, PyValue.number?]
            | index i =>
              simp only [stepValue, PyValue.eq, PyValue.number?, PyValue.Number.eq, beq_iff_eq,
                Option.map_some, Option.some.injEq, JsonStep.index.injEq]
              exact eq_comm
      rw [List.map_cons, List.map_cons, List.map_cons, List.map_cons, PyValue.eqList,
        Bool.and_eq_true, hstep, ih, List.cons.injEq]

variable {source : JsonPathMatch} {node : JsonNode}

theorem jsonCaptures_iff (raw : PyValue) : (match jsonCaptures source raw with
      | .ok captures => captures.isSome
      | .error _ => false) = true ↔
    (!present source.capture || (typed raw (source.valueType.getD .string)).isOk) = true := by
  unfold jsonCaptures
  cases present source.capture with
  | false => simp [pure, Except.pure]
  | true =>
    cases typed raw (source.valueType.getD .string) with
    | ok captured => simp [pure, Except.pure, Except.isOk, Except.toBool]
    | error e =>
      cases hskip : skipsMatch e <;>
        simp [pure, Except.pure, Except.isOk, Except.toBool, hskip]

/-- `matches_json` matches a node at the path that has what is read. -/
theorem matchJsonNode_iff : (match matchJsonNode source node with
      | .ok captures => captures.isSome
      | .error _ => false) = true ↔
    source.path.map expectedStep = node.path.map some ∧ jsonReadable source node = true := by
  unfold matchJsonNode jsonReadable
  by_cases hpath : source.path.map expectedStep = node.path.map some
  · rw [if_neg (by simpa using hpath), and_iff_right hpath]
    cases source.source with
    | presence => exact jsonCaptures_iff (.bool true)
    | value =>
      cases node.value.isContainer with
      | true => simp [pure, Except.pure]
      | false => simpa using jsonCaptures_iff node.value
  · rw [if_pos (by simpa using hpath)]
    simp [pure, Except.pure, hpath]

end Json

/-! ## Agreement -/

section Agreement

variable (definition : MappingDefinition)

theorem cli_agrees_iff {ir : StructuralIR} {node : ConfigNode} (hir : ir.WellFormed)
    (hnode : node ∈ ir.nodes) :
    (blockMatches definition (cliOccurrence ir node) = true ↔
        interpreterMatchesCli definition ir node = true) ↔
      NothingLost definition (.cli ir node hir hnode) := by
  rw [blockMatches_cli_iff, interpreterMatchesCli_iff hir hnode]
  unfold NothingLost
  constructor
  · intro h command hcommand hshared
    constructor
    · intro hown
      obtain ⟨_, -, -, hfound⟩ := h.mpr ⟨command, hcommand, hshared, hown⟩
      exact hfound
    · intro hown
      obtain ⟨_, -, -, hfound⟩ := h.mp ⟨command, hcommand, hshared, hown⟩
      exact hfound
  · intro h
    constructor
    · rintro ⟨command, hcommand, hshared, hown⟩
      exact ⟨command, hcommand, hshared, (h command hcommand hshared).mpr hown⟩
    · rintro ⟨command, hcommand, hshared, hown⟩
      exact ⟨command, hcommand, hshared, (h command hcommand hshared).mp hown⟩

theorem safeMatcher_xmlPath {source : XmlPathMatch}
    (h : definition.structuralMatch.xmlPath = some source) :
    source.path.all (·.safeName) = true := by
  have hvalid := definition.isValid
  simp only [MappingFields.valid, StructuralMatch.safeMatcher, Bool.and_eq_true, h,
    Option.all_some, XmlPathMatch.validSource] at hvalid
  tauto

theorem blockMatches_xml {source : XmlPathMatch} {node : XmlNode}
    (hop : definition.structuralMatch.operation = .xmlPath)
    (hsource : definition.structuralMatch.xmlPath = some source) :
    blockMatches definition (xmlOccurrence node) = namesAgree source node := by
  have hpath : Dict.get? (xmlOccurrence node) "xml_path" =
      some (.list (node.path.map .str)) := by simp [xmlOccurrence, Dict.get?]
  have hsteps : (node.path.map PyValue.str).map
      (fun item => item.text.toOption.map normalizedStep) =
      (node.path.map normalizedStep).map some := by
    rw [List.map_map, List.map_map]
    rfl
  have hnames : source.path.map (fun segment => some segment.localName) =
      (source.path.map (·.localName)).map some := by
    rw [List.map_map]
    rfl
  unfold blockMatches namesAgree
  dsimp only
  rw [hop, hpath, hsource]
  dsimp only
  rw [List.length_map, hsteps, hnames, Bool.eq_iff_iff]
  simp only [Bool.and_eq_true, beq_iff_eq, List.map_inj_right fun _ _ => Option.some.inj]

theorem blockMatches_json {source : JsonPathMatch} {node : JsonNode}
    (hop : definition.structuralMatch.operation = .jsonPath)
    (hsource : definition.structuralMatch.jsonPath = some source) :
    blockMatches definition (jsonOccurrence node) = true ↔
      source.path.map expectedStep = node.path.map some := by
  have hpath : Dict.get? (jsonOccurrence node) "json_path" =
      some (.list (node.path.map stepValue)) := by simp [jsonOccurrence, Dict.get?]
  unfold blockMatches
  dsimp only
  rw [hop, hpath, hsource]
  exact eqList_expected node.path source.path

theorem xml_agrees_iff (node : XmlNode) :
    (blockMatches definition (xmlOccurrence node) = true ↔
        interpreterMatchesXml definition node = true) ↔
      NothingLost definition (.xml node) := by
  have hother (hxml : definition.structuralMatch.operation ≠ .xmlPath)
      (hjson : definition.structuralMatch.operation ≠ .jsonPath) :
      (blockMatches definition (xmlOccurrence node) = true ↔
        interpreterMatchesXml definition node = true) ↔ ¬ MatchesUnknown definition := by
    have hnever : interpreterMatchesXml definition node = false := by
      unfold interpreterMatchesXml
      split
      · rename_i hop _
        exact absurd hop hxml
      · rfl
    rw [blockMatches_unknown (by simp [xmlOccurrence, Dict.get?]) hxml hjson, hnever]
    simp
  unfold NothingLost
  cases hop : definition.structuralMatch.operation with
  | commandEquality => exact hother (by simp [hop]) (by simp [hop])
  | commandPrefix => exact hother (by simp [hop]) (by simp [hop])
  | jsonPath =>
    have hpath : Dict.get? (xmlOccurrence node) "json_path" = none := by
      simp [xmlOccurrence, Dict.get?]
    simp [blockMatches, interpreterMatchesXml, hop, hpath]
  | xmlPath =>
    cases hsource : definition.structuralMatch.xmlPath with
    | none => simp [blockMatches, interpreterMatchesXml, hop, hsource]
    | some source =>
      have hmatch : interpreterMatchesXml definition node = true ↔
          node.path.length = source.path.length ∧ stepsPass source node = true ∧
            xmlReadable source node = true := by
        rw [← matchXmlNode_iff]
        unfold interpreterMatchesXml
        rewrite [hop, hsource]
        exact Iff.rfl
      rw [blockMatches_xml definition hop hsource, hmatch]
      simp only [Option.some.injEq, forall_eq']
      constructor
      · intro h hnames
        exact (h.mp hnames).2
      · intro h
        constructor
        · intro hnames
          have hlength := (Bool.and_eq_true_iff.mp hnames).1
          exact ⟨eq_of_beq hlength, h hnames⟩
        · intro hpass
          obtain ⟨hlength, hsteps, -⟩ := hpass
          exact namesAgree_of_stepsPass (safeMatcher_xmlPath definition hsource) hlength hsteps

theorem json_agrees_iff (node : JsonNode) :
    (blockMatches definition (jsonOccurrence node) = true ↔
        interpreterMatchesJson definition node = true) ↔
      NothingLost definition (.json node) := by
  have hother (hxml : definition.structuralMatch.operation ≠ .xmlPath)
      (hjson : definition.structuralMatch.operation ≠ .jsonPath) :
      (blockMatches definition (jsonOccurrence node) = true ↔
        interpreterMatchesJson definition node = true) ↔ ¬ MatchesUnknown definition := by
    have hnever : interpreterMatchesJson definition node = false := by
      unfold interpreterMatchesJson
      split
      · rename_i hop _
        exact absurd hop hjson
      · rfl
    rw [blockMatches_unknown (by simp [jsonOccurrence, Dict.get?]) hxml hjson, hnever]
    simp
  unfold NothingLost
  cases hop : definition.structuralMatch.operation with
  | commandEquality => exact hother (by simp [hop]) (by simp [hop])
  | commandPrefix => exact hother (by simp [hop]) (by simp [hop])
  | xmlPath =>
    have hpath : Dict.get? (jsonOccurrence node) "xml_path" = none := by
      simp [jsonOccurrence, Dict.get?]
    simp [blockMatches, interpreterMatchesJson, hop, hpath]
  | jsonPath =>
    cases hsource : definition.structuralMatch.jsonPath with
    | none => simp [blockMatches, interpreterMatchesJson, hop, hsource]
    | some source =>
      have hmatch : interpreterMatchesJson definition node = true ↔
          source.path.map expectedStep = node.path.map some ∧ jsonReadable source node = true := by
        rw [← matchJsonNode_iff]
        unfold interpreterMatchesJson
        rewrite [hop, hsource]
        exact Iff.rfl
      rw [blockMatches_json definition hop hsource, hmatch]
      simp only [Option.some.injEq, forall_eq']
      constructor
      · intro h hpath
        exact (h.mp hpath).2
      · intro h
        exact ⟨fun hpath => ⟨hpath, h hpath⟩, fun hmatched => hmatched.1⟩

end Agreement

/-- A stored block and the interpreter agree on a node exactly where nothing that the occurrence
has lost decides the match. -/
theorem blockMatches_agrees_iff (definition : MappingDefinition) (node : StoredNode) :
    (blockMatches definition node.occurrence = true ↔ interpreterMatches definition node = true) ↔
      NothingLost definition node := by
  cases node with
  | cli ir node hir hnode => exact cli_agrees_iff definition hir hnode
  | xml node => exact xml_agrees_iff definition node
  | json node => exact json_agrees_iff definition node

/-! ## A statement below a line -/

/-- `idle-timeout 10` below `line`. -/
def lineTimeout : MappingDefinition where
  toMappingFields := timeoutFields
    { command := "idle-timeout", arguments := [minutesArgument], ancestorCommands := ["line"] }
  isValid := by decide +kernel

def lineSha256 : String → String := tabulated
  [("00000000-0000-0000-0000-000000000001\x1findentation_cli.v1\x1f1\x1f1\x1f1\x1froot\x1f" ++
      "line vty 0 4",
      "90d15fa58a764c126db65224caf534ed8b853926a5c8e11d6860fbd763a5cfcd"),
    ("00000000-0000-0000-0000-000000000001\x1findentation_cli.v1\x1f2\x1f2\x1f2\x1f" ++
      "irn_90d15fa58a764c126db65224caf534ed\x1f idle-timeout 10",
      "3fff980e61f2d549a9a3fe443104803d67e2a2e910e308ef197f08b79938b691")]

def lineIr : StructuralIR := IndentationCli.parse lineSha256
  { content := "line vty 0 4\n idle-timeout 10\n", source := timeoutSource }

theorem lineIr_wellFormed : lineIr.WellFormed :=
  IndentationCli.parse_wellFormed (hashesApart_of_nodup (by decide +kernel))

/-- The occurrence of the statement has the id of the line where the definition has `line`. -/
theorem line_disagrees : ∃ (node : ConfigNode) (mem : node ∈ lineIr.nodes),
    interpreterMatches lineTimeout (.cli lineIr node lineIr_wellFormed mem) = true ∧
    blockMatches lineTimeout
      (StoredNode.cli lineIr node lineIr_wellFormed mem).occurrence = false := by
  obtain ⟨node, hmem, hboth⟩ : ∃ node ∈ lineIr.nodes,
      (interpreterMatchesCli lineTimeout lineIr node &&
        !blockMatches lineTimeout (cliOccurrence lineIr node)) = true :=
    List.any_eq_true.mp (by decide +kernel)
  rw [Bool.and_eq_true, Bool.not_eq_true'] at hboth
  exact ⟨node, hmem, hboth⟩

end ConfigAuditor.Training.ImpactAgreement
