import ConfigAuditor.Interpretation.UnresolvedBlocks

/-!
# Which pairs of a statement and a mapping yield a fact

The loops of the interpreters, described by the pure conditions under which a
matched node gives a fact, and what a finished run reports of the other matches.
-/
namespace ConfigAuditor.Interpretation.Outcomes

open Library SecurityModel Parsing KnowledgePacks Training.Dsl Training.Matcher
  ProfileResolution Compliance.Model Extractors Scopes Mapping Service UnresolvedBlocks

section Pair

variable (mapping : DeclarativeMapping) (ir : StructuralIR) (node : ConfigNode)

/-- The scope a mapping's resolver establishes for a statement, and its container. -/
def HasScope (scope : ScopeRef) (container : Option ConfigNode) : Prop :=
  ∃ outcome, resolveScope mapping.scopeResolver node ir = .ok outcome ∧
    outcome.scope = some scope ∧ outcome.contextNode = container

/-- The value a mapping's extractor reads from a statement. -/
def HasValue (value : TypedValue) : Prop :=
  ∃ extraction, extractMapping mapping node ir = .ok extraction ∧ extraction.value = some value

/-- A negated statement gives a fact: what each negation behavior asks for. -/
def YieldsNegated : Prop :=
  node.parseStatus = .parsed ∧ ∃ scope container, HasScope mapping ir node scope container ∧
    match mapping.negationBehavior with
    | .unsupported => False
    | .resetToDefault =>
      node.arguments.map Text.lower = mapping.matcher.argumentsPrefix.map Text.lower ∧
        ∃ field, fieldRegistry mapping.fieldId = some field ∧
          scope.type ∈ field.allowedScopeTypes
    | .removeValue => ∃ value, HasValue mapping ir node value ∧
        outputValid mapping.fieldId value scope = true
    | .invertBoolean => ∃ value, HasValue mapping ir node value ∧ value.type = .boolean

/-- A positive statement gives a fact: it was read whole, and has a value and a scope. -/
def YieldsPositive (container : Option ConfigNode) : Prop :=
  node.parseStatus = .parsed ∧ (∃ value, HasValue mapping ir node value) ∧
    ∃ scope, HasScope mapping ir node scope container

/-- The mapping gives a fact on the statement it matches. -/
def Yields : Prop :=
  if node.negated = true then YieldsNegated mapping ir node
  else ∃ container, YieldsPositive mapping ir node container

/-- The mapping matches the statement but gives no fact. -/
def Misses : Prop := mappingMatches mapping node ir = .ok true ∧ ¬ Yields mapping ir node

/-- The extraction fails without a code, so that nothing is recorded. -/
def FailsSilently : Prop :=
  node.negated = false ∧ node.parseStatus = .parsed ∧
    ∃ extraction, extractMapping mapping node ir = .ok extraction ∧ extraction.value = none ∧
      extraction.diagnosticCode = none

end Pair

section PairSpec

variable {uuid5 : UUID → String → UUID} {context : InterpretationContext}
  {pack : KnowledgePack} {mapping : DeclarativeMapping} {ir : StructuralIR} {node : ConfigNode}

theorem hasScope_iff {outcome : ScopeOutcome}
    (h : resolveScope mapping.scopeResolver node ir = .ok outcome) {scope : ScopeRef}
    {container : Option ConfigNode} :
    HasScope mapping ir node scope container ↔
      outcome.scope = some scope ∧ outcome.contextNode = container := by
  simp [HasScope, h]

theorem hasValue_iff {extraction : ExtractionOutcome}
    (h : extractMapping mapping node ir = .ok extraction) {value : TypedValue} :
    HasValue mapping ir node value ↔ extraction.value = some value := by
  simp [HasValue, h]

/-- A finished negated attempt gives a fact exactly when the statement yields one. -/
theorem buildNegatedFact_spec {result : Option SecurityFactDraft}
    (h : buildNegatedFact uuid5 context pack mapping ir node = .ok result) :
    result.isSome = true ↔ YieldsNegated mapping ir node := by
  unfold buildNegatedFact at h
  split at h
  · rename_i hnone
    obtain rfl := except_pure_eq_ok.mp h
    simp only [Bool.or_eq_true, decide_eq_true_eq, bne_iff_ne, ne_eq] at hnone
    simp only [Option.isSome_none, Bool.false_eq_true, false_iff]
    rintro ⟨hparsed, scope, container, -, hbehavior⟩
    rcases hnone with hunsupported | hstatus
    · simp [hunsupported] at hbehavior
    · exact hstatus hparsed
  rename_i hsupported
  simp only [Bool.or_eq_true, decide_eq_true_eq, bne_iff_ne, ne_eq, not_or, not_not] at hsupported
  obtain ⟨hbehavior, hparsed⟩ := hsupported
  obtain ⟨outcome, hscope, h⟩ := except_bind_eq_ok.mp h
  rw [liftM_eq_ok] at hscope
  simp only [YieldsNegated, hparsed, true_and, hasScope_iff hscope]
  split at h
  · rename_i hnone
    obtain rfl := except_pure_eq_ok.mp h
    simp [hnone]
  rename_i scope hsome
  simp only [hsome, Option.some.injEq]
  revert h
  cases heq : mapping.negationBehavior with
  | unsupported => exact absurd heq hbehavior
  | resetToDefault =>
    intro h
    dsimp only at h ⊢
    split at h
    · rename_i hargs
      obtain rfl := except_pure_eq_ok.mp h
      simp only [bne_iff_ne, ne_eq] at hargs
      simp [hargs]
    · rename_i hargs
      simp only [bne_iff_ne, ne_eq, not_not] at hargs
      obtain ⟨field, hfield, h⟩ := except_bind_eq_ok.mp h
      rw [getField_eq_ok] at hfield
      simp only [hargs, hfield, true_and, Option.some.injEq, exists_eq_left']
      split at h
      · rename_i hallowed
        obtain rfl := except_pure_eq_ok.mp h
        simpa using hallowed
      · rename_i hallowed
        obtain ⟨fact, -, h⟩ := except_bind_eq_ok.mp h
        obtain rfl := except_pure_eq_ok.mp h
        simpa using hallowed
  | removeValue =>
    intro h
    dsimp only at h ⊢
    obtain ⟨extraction, hextract, h⟩ := except_bind_eq_ok.mp h
    simp only [hasValue_iff hextract]
    split at h
    · rename_i hvalue
      obtain rfl := except_pure_eq_ok.mp h
      simp [hvalue]
    · rename_i value hvalue
      simp only [hvalue, Option.some.injEq, exists_eq_left']
      split at h
      · rename_i hinvalid
        obtain rfl := except_pure_eq_ok.mp h
        simpa using hinvalid
      · rename_i hvalid
        obtain ⟨fact, -, h⟩ := except_bind_eq_ok.mp h
        obtain rfl := except_pure_eq_ok.mp h
        simpa using hvalid
  | invertBoolean =>
    intro h
    dsimp only at h ⊢
    obtain ⟨extraction, hextract, h⟩ := except_bind_eq_ok.mp h
    simp only [hasValue_iff hextract]
    split at h
    · rename_i hvalue
      obtain rfl := except_pure_eq_ok.mp h
      simp [hvalue]
    · rename_i value hvalue
      simp only [hvalue, Option.some.injEq, exists_eq_left']
      split at h
      · rename_i htype
        obtain rfl := except_pure_eq_ok.mp h
        simpa using htype
      · rename_i htype
        obtain ⟨fact, -, h⟩ := except_bind_eq_ok.mp h
        obtain rfl := except_pure_eq_ok.mp h
        simpa using htype

/-- A positive attempt gives a fact from its value and scope, or a diagnostic. -/
theorem interpretPositive_spec {outcome : PairOutcome}
    (h : interpretPositive uuid5 context pack mapping ir node = .ok outcome) :
    (∃ fact container, outcome = .emitted fact container ∧
      YieldsPositive mapping ir node container) ∨
    ((¬ ∃ container, YieldsPositive mapping ir node container) ∧
      ∃ code, outcome = .diagnosed code ∧
        (code = none ↔ node.parseStatus = .parsed ∧ ∃ extraction,
          extractMapping mapping node ir = .ok extraction ∧ extraction.value = none ∧
            extraction.diagnosticCode = none)) := by
  unfold interpretPositive at h
  split at h
  · rename_i hstatus
    obtain rfl := except_pure_eq_ok.mp h
    simp only [bne_iff_ne, ne_eq] at hstatus
    exact Or.inr ⟨fun ⟨_, hparsed, _⟩ => hstatus hparsed, _, rfl, by simp [hstatus]⟩
  rename_i hstatus
  simp only [bne_iff_ne, ne_eq, not_not] at hstatus
  obtain ⟨extraction, hextract, h⟩ := except_bind_eq_ok.mp h
  split at h
  · rename_i hvalue
    obtain rfl := except_pure_eq_ok.mp h
    refine Or.inr ⟨?_, _, rfl, by simp [hstatus, hextract, hvalue]⟩
    rintro ⟨container, -, ⟨value, hhas⟩, -⟩
    rw [hasValue_iff hextract, hvalue] at hhas
    cases hhas
  rename_i value hvalue
  obtain ⟨resolved, hscope, h⟩ := except_bind_eq_ok.mp h
  rw [liftM_eq_ok] at hscope
  split at h
  · rename_i hnone
    obtain rfl := except_pure_eq_ok.mp h
    refine Or.inr ⟨?_, _, rfl, by simp [hextract, hvalue]⟩
    rintro ⟨container, -, -, scope, hhas⟩
    rw [hasScope_iff hscope, hnone] at hhas
    cases hhas.1
  · rename_i scope hsome
    obtain ⟨_, -, h⟩ := except_bind_eq_ok.mp h
    obtain ⟨fact, -, h⟩ := except_bind_eq_ok.mp h
    obtain rfl := except_pure_eq_ok.mp h
    exact Or.inl ⟨fact, resolved.contextNode, rfl, hstatus,
      ⟨value, (hasValue_iff hextract).mpr hvalue⟩, scope, (hasScope_iff hscope).mpr ⟨hsome, rfl⟩⟩

/-- The three ways a finished attempt ends. -/
inductive AttemptSpec (mapping : DeclarativeMapping) (ir : StructuralIR) (node : ConfigNode) :
    PairOutcome → Prop
  | unmatched (h : mappingMatches mapping node ir = .ok false) :
    AttemptSpec mapping ir node .unmatched
  | diagnosed (code : Option String) (h : Misses mapping ir node)
    (hcode : code = none ↔ FailsSilently mapping ir node) :
    AttemptSpec mapping ir node (.diagnosed code)
  | negated (fact : SecurityFactDraft) (h : mappingMatches mapping node ir = .ok true)
    (hneg : node.negated = true) (hyields : YieldsNegated mapping ir node) :
    AttemptSpec mapping ir node (.emitted fact none)
  | positive (fact : SecurityFactDraft) (container : Option ConfigNode)
    (h : mappingMatches mapping node ir = .ok true) (hneg : node.negated = false)
    (hyields : YieldsPositive mapping ir node container) :
    AttemptSpec mapping ir node (.emitted fact container)

theorem interpretPair_spec {outcome : PairOutcome}
    (h : interpretPair uuid5 context pack mapping ir node = .ok outcome) :
    AttemptSpec mapping ir node outcome := by
  unfold interpretPair at h
  obtain ⟨matched, hmatched, h⟩ := except_bind_eq_ok.mp h
  cases matched with
  | false =>
    obtain rfl := except_pure_eq_ok.mp h
    exact .unmatched hmatched
  | true =>
    simp only [Bool.not_true, Bool.false_eq_true, if_false] at h
    cases hneg : node.negated with
    | true =>
      simp only [hneg, if_true] at h
      obtain ⟨result, hbuild, h⟩ := except_bind_eq_ok.mp h
      have hspec := buildNegatedFact_spec hbuild
      cases result with
      | none =>
        obtain rfl := except_pure_eq_ok.mp h
        refine .diagnosed _ ⟨hmatched, ?_⟩ (by simp [FailsSilently, hneg])
        simpa [Yields, hneg] using hspec
      | some fact =>
        obtain rfl := except_pure_eq_ok.mp h
        exact .negated fact hmatched hneg (hspec.mp rfl)
    | false =>
      simp only [hneg, Bool.false_eq_true, if_false] at h
      rcases interpretPositive_spec h with
        ⟨fact, container, rfl, hyields⟩ | ⟨hnot, code, rfl, hcode⟩
      · exact .positive fact container hmatched hneg hyields
      · exact .diagnosed code ⟨hmatched, by simpa [Yields, hneg] using hnot⟩
          (by simpa [FailsSilently, hneg] using hcode)

end PairSpec

section Run

variable {uuid5 : UUID → String → UUID} {context : InterpretationContext}
  {pack : KnowledgePack} {ir : StructuralIR} {attempts : List Attempt}

/-- Another statement's fact takes its scope from this node. -/
def EstablishesScope (pack : KnowledgePack) (ir : StructuralIR) (node : ConfigNode) : Prop :=
  ∃ other ∈ statements ir, ∃ mapping ∈ pack.mappings,
    mappingMatches mapping other ir = .ok true ∧ other.negated = false ∧
      ∃ container, YieldsPositive mapping ir other (some container) ∧
        container.nodeId = node.nodeId

/-- Some mapping gives a fact on the node. Only statements are tried. -/
def YieldsSome (pack : KnowledgePack) (ir : StructuralIR) (node : ConfigNode) : Prop :=
  node.kind = .statement ∧
    ∃ mapping ∈ pack.mappings, mappingMatches mapping node ir = .ok true ∧ Yields mapping ir node

/-- The node is in the list of unresolved nodes: configuration evidence on which no
mapping gives a fact, and from which no other fact takes its scope. -/
def StaysUnresolved (pack : KnowledgePack) (ir : StructuralIR) (node : ConfigNode) : Prop :=
  node.kind ≠ .comment ∧ ¬ YieldsSome pack ir node ∧ ¬ EstablishesScope pack ir node

/-- A match without a fact that leaves a diagnostic. -/
def CodedMiss (mapping : DeclarativeMapping) (ir : StructuralIR) (node : ConfigNode) : Prop :=
  node.kind = .statement ∧ Misses mapping ir node ∧ ¬ FailsSilently mapping ir node

theorem mem_pairs {node : ConfigNode} {mapping : DeclarativeMapping} :
    (node, mapping) ∈ pairs ir pack ↔ node ∈ statements ir ∧ mapping ∈ pack.mappings := by
  simp [pairs]

theorem mem_statements {node : ConfigNode} :
    node ∈ statements ir ↔ node ∈ ir.nodes ∧ node.kind = .statement := by
  simp [statements]

/-- Every pair has its attempt, and every attempt comes from a pair. -/
theorem attempt_of_pair (h : (pairs ir pack).mapM (attemptPair uuid5 context ir pack) = .ok attempts)
    {node : ConfigNode} {mapping : DeclarativeMapping} (hnode : node ∈ statements ir)
    (hmapping : mapping ∈ pack.mappings) :
    ∃ outcome, AttemptSpec mapping ir node outcome ∧
      { nodeId := node.nodeId, mapping, outcome } ∈ attempts := by
  obtain ⟨attempt, hmem, hrun⟩ := mapM_exists_output h (mem_pairs.mpr ⟨hnode, hmapping⟩)
  obtain ⟨outcome, houtcome, hrun⟩ := except_bind_eq_ok.mp hrun
  obtain rfl := except_pure_eq_ok.mp hrun
  exact ⟨outcome, interpretPair_spec houtcome, hmem⟩

theorem pair_of_attempt (h : (pairs ir pack).mapM (attemptPair uuid5 context ir pack) = .ok attempts)
    {attempt : Attempt} (hmem : attempt ∈ attempts) :
    ∃ node ∈ statements ir, attempt.nodeId = node.nodeId ∧ attempt.mapping ∈ pack.mappings ∧
      AttemptSpec attempt.mapping ir node attempt.outcome := by
  obtain ⟨⟨node, mapping⟩, hpair, hrun⟩ := mapM_exists_input h hmem
  obtain ⟨outcome, houtcome, hrun⟩ := except_bind_eq_ok.mp hrun
  obtain rfl := except_pure_eq_ok.mp hrun
  obtain ⟨hnode, hmapping⟩ := mem_pairs.mp hpair
  exact ⟨node, hnode, rfl, hmapping, interpretPair_spec houtcome⟩

theorem node_eq_of_id (hwf : ir.WellFormed) {a b : ConfigNode} (ha : a ∈ ir.nodes)
    (hb : b ∈ ir.nodes) (h : a.nodeId = b.nodeId) : a = b :=
  List.inj_on_of_nodup_map hwf.nodup ha hb h

theorem AttemptSpec.yields {mapping : DeclarativeMapping} {node : ConfigNode}
    {fact : SecurityFactDraft} {container : Option ConfigNode}
    (h : AttemptSpec mapping ir node (.emitted fact container)) :
    mappingMatches mapping node ir = .ok true ∧ Yields mapping ir node := by
  cases h with
  | negated _ hm hneg hyields => exact ⟨hm, by simpa [Yields, hneg] using hyields⟩
  | positive _ _ hm hneg hyields => exact ⟨hm, by simpa [Yields, hneg] using ⟨_, hyields⟩⟩

/-- The matched ids are those of the statements on which some mapping yields a fact. -/
theorem mem_matchedIds (hwf : ir.WellFormed)
    (h : (pairs ir pack).mapM (attemptPair uuid5 context ir pack) = .ok attempts)
    {node : ConfigNode} (hnode : node ∈ ir.nodes) :
    node.nodeId ∈ matchedIds attempts ↔ YieldsSome pack ir node := by
  simp only [matchedIds, List.mem_filterMap]
  constructor
  · rintro ⟨attempt, hmem, hid⟩
    obtain ⟨other, hother, hother_id, hmapping, hspec⟩ := pair_of_attempt h hmem
    simp only [Attempt.matched?, Attempt.fact?] at hid
    split at hid
    · rename_i fact container houtcome
      simp only [Option.map_some, Option.some.injEq] at hid
      obtain ⟨hother, hkind⟩ := mem_statements.mp hother
      have : other = node := node_eq_of_id hwf hother hnode (by rw [← hother_id, hid])
      subst this
      rw [houtcome] at hspec
      exact ⟨hkind, _, hmapping, hspec.yields⟩
    · cases hid
  · rintro ⟨hkind, mapping, hmapping, hmatch, hyields⟩
    obtain ⟨outcome, hspec, hmem⟩ := attempt_of_pair h (mem_statements.mpr ⟨hnode, hkind⟩) hmapping
    refine ⟨_, hmem, ?_⟩
    cases hspec with
    | unmatched hm => rw [hm] at hmatch; cases hmatch
    | diagnosed code hm _ => exact absurd hyields hm.2
    | negated fact => rfl
    | positive fact container => rfl

/-- The consumed ids are those of the nodes that establish the scope of a fact. -/
theorem mem_consumedIds
    (h : (pairs ir pack).mapM (attemptPair uuid5 context ir pack) = .ok attempts)
    {node : ConfigNode} :
    node.nodeId ∈ consumedIds attempts ↔ EstablishesScope pack ir node := by
  simp only [consumedIds, List.mem_filterMap]
  constructor
  · rintro ⟨attempt, hmem, hid⟩
    obtain ⟨other, hother, -, hmapping, hspec⟩ := pair_of_attempt h hmem
    simp only [Attempt.consumed?] at hid
    split at hid
    · rename_i fact container houtcome
      rw [houtcome] at hspec
      cases hspec with
      | positive _ _ hm hneg hyields =>
        exact ⟨other, hother, _, hmapping, hm, hneg, container, hyields, by simpa using hid⟩
    · cases hid
  · rintro ⟨other, hother, mapping, hmapping, hmatch, hneg, container, hyields, hid⟩
    obtain ⟨outcome, hspec, hmem⟩ := attempt_of_pair h hother hmapping
    refine ⟨_, hmem, ?_⟩
    cases hspec with
    | unmatched hm => rw [hm] at hmatch; cases hmatch
    | diagnosed code hm _ =>
      exact absurd (by simpa [Yields, hneg] using ⟨_, hyields⟩) hm.2
    | negated fact _ hneg' => rw [hneg] at hneg'; cases hneg'
    | positive fact other_container _ _ hyields' =>
      obtain ⟨_, -, scope, hscope⟩ := hyields
      obtain ⟨_, -, scope', hscope'⟩ := hyields'
      obtain ⟨outcome, houtcome, -, hcontainer⟩ := hscope
      obtain ⟨outcome', houtcome', -, hcontainer'⟩ := hscope'
      rw [houtcome] at houtcome'
      obtain rfl := Except.ok.inj houtcome'
      rw [← hcontainer', hcontainer]
      simpa [Attempt.consumed?] using hid

theorem mem_unresolvedNodeIds (hwf : ir.WellFormed)
    (h : (pairs ir pack).mapM (attemptPair uuid5 context ir pack) = .ok attempts)
    {node : ConfigNode} (hnode : node ∈ ir.nodes) :
    node.nodeId ∈ (cliResult ir attempts).unresolvedNodeIds ↔ StaysUnresolved pack ir node := by
  rw [StaysUnresolved, ← mem_matchedIds hwf h hnode, ← mem_consumedIds h]
  simp only [cliResult, unresolvedNodes, evidenceNodes, List.mem_map, List.mem_filter,
    Bool.and_eq_true, Bool.not_eq_true', List.contains_eq_mem, decide_eq_false_iff_not]
  have hkind : ∀ k : ConfigNodeKind, (k == .statement || k == .opaqueBlock) = true ↔
      k ≠ .comment := by
    intro k
    cases k <;> simp
  simp only [hkind]
  constructor
  · rintro ⟨other, ⟨⟨hother, hcomment⟩, hmatched, hconsumed⟩, hid⟩
    obtain rfl := node_eq_of_id hwf hother hnode hid
    exact ⟨hcomment, hmatched, hconsumed⟩
  · rintro ⟨hcomment, hmatched, hconsumed⟩
    exact ⟨node, ⟨⟨hnode, hcomment⟩, hmatched, hconsumed⟩, rfl⟩

/-- The diagnostics of a node name the mappings that miss it with a code. -/
theorem mem_diagnostics (hwf : ir.WellFormed)
    (h : (pairs ir pack).mapM (attemptPair uuid5 context ir pack) = .ok attempts)
    {node : ConfigNode} (hnode : node ∈ ir.nodes) {mappingId : UUID} :
    (∃ d ∈ (cliResult ir attempts).diagnostics, d.nodeId = some node.nodeId ∧
        d.mappingId = some mappingId) ↔
      ∃ mapping ∈ pack.mappings, mapping.mappingId = mappingId ∧ CodedMiss mapping ir node := by
  simp only [cliResult, cliDiagnostics, diagnosticsOf, List.mem_eraseDups, List.mem_filterMap]
  constructor
  · rintro ⟨d, ⟨attempt, hmem, hd⟩, hid, hmid⟩
    obtain ⟨other, hother, hother_id, hmapping, hspec⟩ := pair_of_attempt h hmem
    obtain ⟨hother, hkind⟩ := mem_statements.mp hother
    simp only [Attempt.diagnostic?] at hd
    split at hd
    · rename_i code houtcome
      obtain rfl := Option.some.inj hd
      simp only [Option.some.injEq] at hid hmid
      obtain rfl := node_eq_of_id hwf hother hnode (by rw [← hother_id, hid])
      rw [houtcome] at hspec
      cases hspec with
      | diagnosed _ hm hcode =>
        exact ⟨_, hmapping, hmid, hkind, hm, fun hsilent => by simpa using hcode.mpr hsilent⟩
    · cases hd
  · rintro ⟨mapping, hmapping, rfl, hkind, hmiss, hsilent⟩
    obtain ⟨outcome, hspec, hmem⟩ := attempt_of_pair h (mem_statements.mpr ⟨hnode, hkind⟩) hmapping
    cases hspec with
    | unmatched hm =>
      have hmatch := hmiss.1
      rw [hm] at hmatch
      cases hmatch
    | diagnosed code _ hcode =>
      cases code with
      | none => exact absurd (hcode.mp rfl) hsilent
      | some code => exact ⟨_, ⟨_, hmem, rfl⟩, rfl, rfl⟩
    | negated fact hm hneg hyields =>
      exact absurd (by simpa [Yields, hneg] using hyields) hmiss.2
    | positive fact container hm hneg hyields =>
      exact absurd (by simpa [Yields, hneg] using ⟨_, hyields⟩) hmiss.2

theorem reportInvalid_eq_ok {check : Except Error KnowledgePack} {found : KnowledgePack} :
    reportInvalid check = .ok found ↔ check = .ok found := by
  cases check <;> simp [reportInvalid]

/-- A finished run validated the pack and tried every pair. -/
theorem interpretStructuralIr_ok {profileVersionId : String} {profile : ProfileManifest}
    {result : InterpretationResult} (h : interpretStructuralIr uuid5 context ir profileVersionId
      (some pack) (some profile) = .ok result) :
    (pack.mappings.map (·.mappingId)).Nodup ∧ ∃ attempts,
      (pairs ir pack).mapM (attemptPair uuid5 context ir pack) = .ok attempts ∧
        result = cliResult ir attempts := by
  simp only [interpretStructuralIr, requirePack, except_bind_eq_ok, except_pure_eq_ok,
    reportInvalid_eq_ok] at h
  obtain ⟨_, -, _, -, _, rfl, _, hvalid, attempts, hattempts, rfl⟩ := h
  exact ⟨(validateKnowledgePack_ok hvalid).2.2.2.2.1, attempts, hattempts, rfl⟩

end Run

section Structured

variable {ν : Type} {nodeId : ν → String}
  {find : MappingDefinition → Except PyError (List (ν × Captures))}
  {body : DeclarativeMapping → MappingDefinition → ν → Captures → Except Error PairOutcome}
  {mappings : List DeclarativeMapping} {groups : List (List Attempt)}

/-- The nodes a definition finds, and those whose captures give a value. -/
structure StructuredSpec (find : MappingDefinition → Except PyError (List (ν × Captures)))
    (body : DeclarativeMapping → MappingDefinition → ν → Captures → Except Error PairOutcome)
    (Found Good : MappingDefinition → ν → Captures → Prop) : Prop where
  found : ∀ definition matches_, find definition = .ok matches_ →
    ∀ node captures, (node, captures) ∈ matches_ ↔ Found definition node captures
  good : ∀ mapping definition node captures outcome,
    body mapping definition node captures = .ok outcome →
      (∃ fact, outcome = .emitted fact none ∧ Good definition node captures) ∨
      (∃ code, outcome = .diagnosed (some code) ∧ ¬ Good definition node captures)

variable {Found Good : MappingDefinition → ν → Captures → Prop}

/-- The mapping matches the node and gives a fact on it. -/
def StructuredYields (Found Good : MappingDefinition → ν → Captures → Prop)
    (mapping : DeclarativeMapping) (node : ν) : Prop :=
  ∃ definition captures, mapping.trainingDefinition = some definition ∧
    Found definition node captures ∧ Good definition node captures

/-- The mapping matches the node but gives no fact. -/
def StructuredMisses (Found Good : MappingDefinition → ν → Captures → Prop)
    (mapping : DeclarativeMapping) (node : ν) : Prop :=
  ∃ definition captures, mapping.trainingDefinition = some definition ∧
    Found definition node captures ∧ ¬ Good definition node captures

theorem structured_attempt_iff (hspec : StructuredSpec find body Found Good)
    (h : mappings.mapM (attemptStructured nodeId find body) = .ok groups) {attempt : Attempt}
    (hmem : attempt ∈ groups.flatten) :
    attempt.mapping ∈ mappings ∧ ∃ node, attempt.nodeId = nodeId node ∧
      ((∃ fact, attempt.outcome = .emitted fact none ∧
          StructuredYields Found Good attempt.mapping node) ∨
        (∃ code, attempt.outcome = .diagnosed (some code) ∧
          StructuredMisses Found Good attempt.mapping node)) := by
  obtain ⟨group, hgroup, hattempt⟩ := List.mem_flatten.mp hmem
  obtain ⟨mapping, hmapping, hrun⟩ := mapM_exists_input h hgroup
  unfold attemptStructured at hrun
  split at hrun
  · obtain rfl := except_pure_eq_ok.mp hrun
    cases hattempt
  rename_i definition hdefinition
  obtain ⟨found, hfound, hrun⟩ := except_bind_eq_ok.mp hrun
  rw [liftM_eq_ok] at hfound
  obtain ⟨⟨node, captures⟩, hnode, hbody⟩ := mapM_exists_input hrun hattempt
  obtain ⟨outcome, houtcome, hbody⟩ := except_bind_eq_ok.mp hbody
  obtain rfl := except_pure_eq_ok.mp hbody
  have hmatch := (hspec.found definition found hfound node captures).mp hnode
  refine ⟨hmapping, node, rfl, ?_⟩
  rcases hspec.good mapping definition node captures outcome houtcome with
    ⟨fact, rfl, hgood⟩ | ⟨code, rfl, hbad⟩
  · exact Or.inl ⟨fact, rfl, definition, captures, hdefinition, hmatch, hgood⟩
  · exact Or.inr ⟨code, rfl, definition, captures, hdefinition, hmatch, hbad⟩

theorem structured_body_of_found (hspec : StructuredSpec find body Found Good)
    (h : mappings.mapM (attemptStructured nodeId find body) = .ok groups)
    {mapping : DeclarativeMapping} (hmapping : mapping ∈ mappings)
    {definition : MappingDefinition} (hdefinition : mapping.trainingDefinition = some definition)
    {node : ν} {captures : Captures} (hmatch : Found definition node captures) :
    ∃ outcome, body mapping definition node captures = .ok outcome ∧
      { nodeId := nodeId node, mapping, outcome } ∈ groups.flatten := by
  obtain ⟨group, hgroup, hrun⟩ := mapM_exists_output h hmapping
  simp only [attemptStructured, hdefinition] at hrun
  obtain ⟨found, hfound, hrun⟩ := except_bind_eq_ok.mp hrun
  rw [liftM_eq_ok] at hfound
  have hnode := (hspec.found definition found hfound node captures).mpr hmatch
  obtain ⟨attempt, hattempt, hbody⟩ := mapM_exists_output hrun hnode
  obtain ⟨outcome, houtcome, hbody⟩ := except_bind_eq_ok.mp hbody
  obtain rfl := except_pure_eq_ok.mp hbody
  exact ⟨outcome, houtcome, List.mem_flatten.mpr ⟨group, hgroup, hattempt⟩⟩

theorem structured_attempt_of_found (hspec : StructuredSpec find body Found Good)
    (h : mappings.mapM (attemptStructured nodeId find body) = .ok groups)
    {mapping : DeclarativeMapping} (hmapping : mapping ∈ mappings)
    {definition : MappingDefinition} (hdefinition : mapping.trainingDefinition = some definition)
    {node : ν} {captures : Captures} (hmatch : Found definition node captures) :
    ∃ outcome, { nodeId := nodeId node, mapping, outcome } ∈ groups.flatten ∧
      ((∃ fact, outcome = .emitted fact none ∧ Good definition node captures) ∨
        (∃ code, outcome = .diagnosed (some code) ∧ ¬ Good definition node captures)) := by
  obtain ⟨outcome, houtcome, hmem⟩ :=
    structured_body_of_found hspec h hmapping hdefinition hmatch
  exact ⟨outcome, hmem, hspec.good mapping definition node captures outcome houtcome⟩

/-- The matched ids of a structured run. -/
theorem structured_mem_matchedIds (hspec : StructuredSpec find body Found Good)
    (h : mappings.mapM (attemptStructured nodeId find body) = .ok groups) {id : String} :
    id ∈ matchedIds groups.flatten ↔
      ∃ node, nodeId node = id ∧ ∃ mapping ∈ mappings, StructuredYields Found Good mapping node := by
  simp only [matchedIds, List.mem_filterMap]
  constructor
  · rintro ⟨attempt, hmem, hid⟩
    obtain ⟨hmapping, node, hnode, ⟨fact, houtcome, hyields⟩ | ⟨code, houtcome, -⟩⟩ :=
      structured_attempt_iff hspec h hmem
    · simp only [Attempt.matched?, Attempt.fact?, houtcome, Option.map_some,
        Option.some.injEq] at hid
      exact ⟨node, by rw [← hnode, hid], attempt.mapping, hmapping, hyields⟩
    · simp [Attempt.matched?, Attempt.fact?, houtcome] at hid
  · rintro ⟨node, rfl, mapping, hmapping, definition, captures, hdefinition, hmatch, hgood⟩
    obtain ⟨outcome, hmem, ⟨fact, rfl, -⟩ | ⟨code, rfl, hbad⟩⟩ :=
      structured_attempt_of_found hspec h hmapping hdefinition hmatch
    · exact ⟨_, hmem, rfl⟩
    · exact absurd hgood hbad

/-- The diagnostics of a structured run. -/
theorem structured_mem_diagnostics (hspec : StructuredSpec find body Found Good)
    (h : mappings.mapM (attemptStructured nodeId find body) = .ok groups) {id : String}
    {mappingId : UUID} :
    (∃ d ∈ diagnosticsOf groups.flatten, d.nodeId = some id ∧ d.mappingId = some mappingId) ↔
      ∃ mapping ∈ mappings, mapping.mappingId = mappingId ∧
        ∃ node, nodeId node = id ∧ StructuredMisses Found Good mapping node := by
  simp only [diagnosticsOf, List.mem_filterMap]
  constructor
  · rintro ⟨d, ⟨attempt, hmem, hd⟩, hid, hmid⟩
    obtain ⟨hmapping, node, hnode, ⟨fact, houtcome, -⟩ | ⟨code, houtcome, hmisses⟩⟩ :=
      structured_attempt_iff hspec h hmem
    · simp [Attempt.diagnostic?, houtcome] at hd
    · simp only [Attempt.diagnostic?, houtcome, Option.some.injEq] at hd
      subst hd
      simp only [Option.some.injEq] at hid hmid
      exact ⟨attempt.mapping, hmapping, hmid, node, by rw [← hnode, hid], hmisses⟩
  · rintro ⟨mapping, hmapping, rfl, node, rfl, definition, captures, hdefinition, hmatch, hbad⟩
    obtain ⟨outcome, hmem, ⟨fact, rfl, hgood⟩ | ⟨code, rfl, -⟩⟩ :=
      structured_attempt_of_found hspec h hmapping hdefinition hmatch
    · exact absurd hgood hbad
    · exact ⟨_, ⟨_, hmem, rfl⟩, rfl, rfl⟩

/-- The leaves of a tree on which no mapping gives a fact. -/
theorem structured_mem_unresolved (hspec : StructuredSpec find body Found Good)
    (h : mappings.mapM (attemptStructured nodeId find body) = .ok groups) {nodes : List ν}
    (hfound : ∀ definition node captures, Found definition node captures → node ∈ nodes)
    (hids : (nodes.map nodeId).Nodup) {leaf : ν → Bool} {node : ν} (hnode : node ∈ nodes) :
    nodeId node ∈ ((nodes.filter leaf).filter fun other =>
        !(matchedIds groups.flatten).contains (nodeId other)).map nodeId ↔
      leaf node = true ∧ ¬ ∃ mapping ∈ mappings, StructuredYields Found Good mapping node := by
  have hmatched : nodeId node ∈ matchedIds groups.flatten ↔
      ∃ mapping ∈ mappings, StructuredYields Found Good mapping node := by
    rw [structured_mem_matchedIds hspec h]
    constructor
    · rintro ⟨other, hid, mapping, hmapping, hyields⟩
      have hyields' := hyields
      obtain ⟨definition, captures, -, hother, -⟩ := hyields'
      obtain rfl := List.inj_on_of_nodup_map hids (hfound _ _ _ hother) hnode hid
      exact ⟨mapping, hmapping, hyields⟩
    · exact fun hyields => ⟨node, rfl, hyields⟩
  simp only [List.mem_map, List.mem_filter, Bool.not_eq_true', List.contains_eq_mem,
    decide_eq_false_iff_not]
  rw [← hmatched]
  constructor
  · rintro ⟨other, ⟨⟨hother, hleaf⟩, hopen⟩, hid⟩
    obtain rfl := List.inj_on_of_nodup_map hids hother hnode hid
    exact ⟨hleaf, hopen⟩
  · rintro ⟨hleaf, hopen⟩
    exact ⟨node, ⟨⟨hnode, hleaf⟩, hopen⟩, rfl⟩

/-- The diagnostics of a node name the mappings that miss it. -/
theorem structured_diagnosedBy (hspec : StructuredSpec find body Found Good) {pack : KnowledgePack}
    (h : pack.mappings.mapM (attemptStructured nodeId find body) = .ok groups) {nodes : List ν}
    (hfound : ∀ definition node captures, Found definition node captures → node ∈ nodes)
    (hids : (nodes.map nodeId).Nodup) {node : ν} (hnode : node ∈ nodes) :
    DiagnosedBy pack (diagnosticsOf groups.flatten) (nodeId node)
      fun mapping => StructuredMisses Found Good mapping node := by
  intro mappingId
  rw [structured_mem_diagnostics hspec h]
  refine exists_congr fun mapping => and_congr_right fun hmapping => and_congr_right fun _ => ?_
  constructor
  · rintro ⟨other, hid, hmisses⟩
    have hmisses' := hmisses
    obtain ⟨definition, captures, -, hother, -⟩ := hmisses'
    obtain rfl := List.inj_on_of_nodup_map hids (hfound _ _ _ hother) hnode hid
    exact hmisses
  · exact fun hmisses => ⟨node, rfl, hmisses⟩

end Structured

/-- A definition matches an XML node with these captures. -/
def XmlMatches (definition : MappingDefinition) (node : XmlNode) (captures : Captures) : Prop :=
  ∃ source, definition.structuralMatch.operation = .xmlPath ∧
    definition.structuralMatch.xmlPath = some source ∧
      matchXmlNode source node = .ok (some captures)

/-- A definition matches a JSON node with these captures. -/
def JsonMatches (definition : MappingDefinition) (node : JsonNode) (captures : Captures) : Prop :=
  ∃ source, definition.structuralMatch.operation = .jsonPath ∧
    definition.structuralMatch.jsonPath = some source ∧
      matchJsonNode source node = .ok (some captures)

/-- The captures give a value and scope the field registry accepts. -/
def GivesOutput (definition : MappingDefinition) (captures : Captures) : Prop :=
  ∃ output, structuredOutput definition captures = .ok output

def XmlGood (ir : XmlStructuralIR) (definition : MappingDefinition) (node : XmlNode)
    (captures : Captures) : Prop :=
  hasUnsupportedQualifier definition ir node = false ∧ GivesOutput definition captures

def JsonGood (definition : MappingDefinition) (_node : JsonNode) (captures : Captures) : Prop :=
  GivesOutput definition captures

theorem mem_matchesXml {definition : MappingDefinition} {ir : XmlStructuralIR}
    {found : List (XmlNode × Captures)} (h : matchesXml definition ir = .ok found) (node : XmlNode)
    (captures : Captures) :
    (node, captures) ∈ found ↔ node ∈ ir.nodes ∧ XmlMatches definition node captures := by
  unfold matchesXml at h
  split at h
  · rename_i source hop hpath
    rw [mem_collectMatches h]
    simp [XmlMatches, hop, hpath]
  · rename_i hno
    obtain rfl := except_pure_eq_ok.mp h
    simp only [List.not_mem_nil, false_iff]
    rintro ⟨-, source, hop, hpath, -⟩
    exact hno source hop hpath

theorem mem_matchesJson {definition : MappingDefinition} {ir : JsonStructuralIR}
    {found : List (JsonNode × Captures)} (h : matchesJson definition ir = .ok found)
    (node : JsonNode) (captures : Captures) :
    (node, captures) ∈ found ↔ node ∈ ir.nodes ∧ JsonMatches definition node captures := by
  unfold matchesJson at h
  split at h
  · rename_i source hop hpath
    rw [mem_collectMatches h]
    simp [JsonMatches, hop, hpath]
  · rename_i hno
    obtain rfl := except_pure_eq_ok.mp h
    simp only [List.not_mem_nil, false_iff]
    rintro ⟨-, source, hop, hpath, -⟩
    exact hno source hop hpath

theorem caughtOutput_eq_ok {definition : MappingDefinition} {captures : Captures}
    {output : Option (TypedValue × ScopeRef)} (h : caughtOutput definition captures = .ok output) :
    output.isSome = true ↔ GivesOutput definition captures := by
  unfold caughtOutput at h
  split at h
  · rename_i found hfound
    obtain rfl := except_pure_eq_ok.mp h
    simp [GivesOutput, hfound]
  · rename_i e herror
    split at h
    · obtain rfl := except_pure_eq_ok.mp h
      simp [GivesOutput, herror]
    · cases h

section Formats

variable {uuid5 : UUID → String → UUID} {context : InterpretationContext} {pack : KnowledgePack}

theorem xml_spec (ir : XmlStructuralIR) : StructuredSpec (matchesXml · ir)
    (fun mapping definition => interpretXmlMatch uuid5 context pack mapping definition ir)
    (fun definition node captures => node ∈ ir.nodes ∧ XmlMatches definition node captures)
    (XmlGood ir) := by
  refine ⟨fun definition found h => mem_matchesXml h, ?_⟩
  intro mapping definition node captures outcome h
  unfold interpretXmlMatch at h
  split at h
  · rename_i hqualifier
    obtain rfl := except_pure_eq_ok.mp h
    exact Or.inr ⟨_, rfl, fun hgood => by simp [hgood.1] at hqualifier⟩
  · rename_i hqualifier
    obtain ⟨output, houtput, h⟩ := except_bind_eq_ok.mp h
    have hgives := caughtOutput_eq_ok houtput
    cases output with
    | none =>
      obtain rfl := except_pure_eq_ok.mp h
      exact Or.inr ⟨_, rfl, fun hgood => by simpa using hgives.mpr hgood.2⟩
    | some output =>
      obtain ⟨fact, -, h⟩ := except_bind_eq_ok.mp h
      obtain rfl := except_pure_eq_ok.mp h
      exact Or.inl ⟨fact, rfl, by simpa using hqualifier, hgives.mp rfl⟩

theorem json_spec (ir : JsonStructuralIR) : StructuredSpec (matchesJson · ir)
    (interpretJsonMatch uuid5 context pack)
    (fun definition node captures => node ∈ ir.nodes ∧ JsonMatches definition node captures)
    JsonGood := by
  refine ⟨fun definition found h => mem_matchesJson h, ?_⟩
  intro mapping definition node captures outcome h
  unfold interpretJsonMatch at h
  obtain ⟨output, houtput, h⟩ := except_bind_eq_ok.mp h
  have hgives := caughtOutput_eq_ok houtput
  cases output with
  | none =>
    obtain rfl := except_pure_eq_ok.mp h
    exact Or.inr ⟨_, rfl, fun hgood => by simpa using hgives.mpr hgood⟩
  | some output =>
    obtain ⟨fact, -, h⟩ := except_bind_eq_ok.mp h
    obtain rfl := except_pure_eq_ok.mp h
    exact Or.inl ⟨fact, rfl, hgives.mp rfl⟩

theorem interpretXmlStructuralIr_ok {ir : XmlStructuralIR} {profileVersionId : String}
    {profile : ProfileManifest} {result : InterpretationResult}
    (h : interpretXmlStructuralIr uuid5 context ir profileVersionId (some pack) (some profile) =
      .ok result) :
    (pack.mappings.map (·.mappingId)).Nodup ∧ ∃ groups,
      pack.mappings.mapM (attemptXml uuid5 context ir pack) = .ok groups ∧
        result = xmlResult ir groups.flatten := by
  simp only [interpretXmlStructuralIr, requirePack, except_bind_eq_ok, except_pure_eq_ok] at h
  obtain ⟨_, -, _, -, _, rfl, _, hvalid, groups, hgroups, rfl⟩ := h
  exact ⟨(validateKnowledgePack_ok hvalid).2.2.2.2.1, groups, hgroups, rfl⟩

theorem interpretJsonStructuralIr_ok {ir : JsonStructuralIR} {profileVersionId : String}
    {profile : ProfileManifest} {result : InterpretationResult}
    (h : interpretJsonStructuralIr uuid5 context ir profileVersionId (some pack) (some profile) =
      .ok result) :
    (pack.mappings.map (·.mappingId)).Nodup ∧
      ((ir.truncated = true ∧ result = jsonIncomplete ir) ∨
        (ir.truncated = false ∧ ∃ groups,
          pack.mappings.mapM (attemptJson uuid5 context ir pack) = .ok groups ∧
            result = jsonResult ir groups.flatten)) := by
  simp only [interpretJsonStructuralIr, requirePack, except_bind_eq_ok, except_pure_eq_ok] at h
  obtain ⟨_, -, _, -, _, rfl, _, hvalid, h⟩ := h
  refine ⟨(validateKnowledgePack_ok hvalid).2.2.2.2.1, ?_⟩
  split at h
  · rename_i htruncated
    exact Or.inl ⟨htruncated, (except_pure_eq_ok.mp h).symm⟩
  · rename_i hwhole
    obtain ⟨groups, hgroups, h⟩ := except_bind_eq_ok.mp h
    exact Or.inr ⟨by simpa using hwhole, groups, hgroups, (except_pure_eq_ok.mp h).symm⟩

end Formats

end ConfigAuditor.Interpretation.Outcomes
