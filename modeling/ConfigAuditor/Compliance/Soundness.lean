import ConfigAuditor.Compliance.Service
import ConfigAuditor.Compliance.Rules

/-!
# Soundness and monotonicity of the baseline evaluator

A finding is a pass only when the state is resolved, the condition of the rule
holds of its value and no block affects the rule. More unresolved blocks keep the
findings and can only turn a pass into an unknown.
-/
namespace ConfigAuditor.Compliance.Soundness

open Library SecurityModel EffectiveState.Model Model Evaluator Service

variable {uuid5 : UUID → String → UUID} {repr : PyValue → Except PyError String}
  {evidenceByFact : UUID → List PyValue} {audit : Audit} {pack : RulePack}
  {policy : Option OrganizationPolicyVersion}

/-- The parts of a finding the results below speak of. -/
structure DraftSpec (uuid5 : UUID → String → UUID) (audit : Audit) (rule : RuleDefinition)
    (verdict : FindingVerdict) (scope : Option ScopeRef) (states : List EffectiveStateRow)
    (reason : Option UnresolvedReason) (finding : FindingDraft) : Prop where
  findingId : finding.findingId = uuid5 findingNamespace
    (findingIdentity audit.auditId rule.ruleId scope)
  ruleId : finding.ruleId = rule.ruleId
  verdict_eq : finding.verdict = verdict
  scope_eq : finding.affectedScope = scope
  states_eq : finding.effectiveStateRefs = states.map (·.effectiveStateId)
  reason_eq : finding.unknownReason = reason

section Draft

variable {rule : RuleDefinition} {verdict : FindingVerdict} {scope : Option ScopeRef}
  {states : List EffectiveStateRow} {observed : Option TypedValue} {expected : Option PyValue}
  {reason : Option UnresolvedReason} {evidence : List PyValue} {finding : FindingDraft}

theorem draft_spec (h : draft uuid5 repr audit pack rule verdict scope states observed expected
    reason evidence = .ok finding) :
    DraftSpec uuid5 audit rule verdict scope states reason finding := by
  simp only [draft, deterministicFindingId, except_bind_eq_ok, except_pure_eq_ok] at h
  obtain ⟨_, ⟨_, -, rfl⟩, _, -, _, -, rfl⟩ := h
  exact ⟨rfl, rfl, rfl, rfl, rfl, rfl⟩

/-- Whether a finding can be built depends on its verdict through the explanation only. -/
theorem draft_unknown_of_draft {observed' : Option TypedValue} {expected' : Option PyValue}
    {reason' : UnresolvedReason} {evidence' : List PyValue}
    (h : draft uuid5 repr audit pack rule verdict scope states observed expected reason evidence =
      .ok finding) :
    ∃ finding', draft uuid5 repr audit pack rule .unknown scope states observed' expected'
      (some reason') evidence' = .ok finding' := by
  simp only [draft, except_bind_eq_ok, except_pure_eq_ok] at h ⊢
  obtain ⟨id, hid, key, hkey, -, -, -⟩ := h
  exact ⟨_, id, hid, key, hkey, _, rfl, rfl⟩

end Draft

section State

variable {blocks : List UnresolvedBlock} {rule : RuleDefinition} {state : EffectiveStateRow}
  {finding : FindingDraft}

theorem mem_blockersOf {block : UnresolvedBlock} :
    block ∈ blockersOf pack blocks rule ↔ block ∈ blocks ∧ affects pack rule.ruleId block = true := by
  simp [blockersOf]

/-- The identity, rule, scope and state reference of a finding on a state. -/
theorem evaluateState_spec
    (h : evaluateState uuid5 repr evidenceByFact audit pack policy blocks rule state = .ok finding) :
    ∃ verdict reason, DraftSpec uuid5 audit rule verdict (some state.scope) [state] reason
      finding := by
  unfold evaluateState at h
  simp only at h
  split at h
  · exact ⟨_, _, draft_spec h⟩
  split at h
  · exact ⟨_, _, draft_spec h⟩
  split at h
  · split at h <;> exact ⟨_, _, draft_spec h⟩
  · exact ⟨_, _, draft_spec h⟩
  · cases h

/-- A pass has a resolved state, its parameter, a condition that holds and no blocker. -/
theorem evaluateState_pass
    (h : evaluateState uuid5 repr evidenceByFact audit pack policy blocks rule state = .ok finding)
    (hpass : finding.verdict = .pass) :
    state.resolutionStatus = .resolved ∧
      (rule.requiredPolicyParameters ≠ [] → (ruleParameter policy rule).isSome = true) ∧
      evaluateCondition rule state.effectiveValue (ruleParameter policy rule) = .ok .pass ∧
      blockersOf pack blocks rule = [] := by
  unfold evaluateState at h
  simp only at h
  split at h
  · have := (draft_spec h).verdict_eq; simp [hpass] at this
  rename_i hresolved
  split at h
  · have := (draft_spec h).verdict_eq; simp [hpass] at this
  rename_i hparameter
  split at h
  · rename_i verdict hverdict
    split at h
    · have := (draft_spec h).verdict_eq; simp [hpass] at this
    · rename_i hblockers
      have hv : verdict = .pass := by rw [← (draft_spec h).verdict_eq, hpass]
      subst hv
      refine ⟨by simpa using hresolved, ?_, hverdict, by simpa using hblockers⟩
      intro hne
      cases hsome : ruleParameter policy rule with
      | none => simp [hne, hsome] at hparameter
      | some parameter => rfl
  · have := (draft_spec h).verdict_eq; simp [hpass] at this
  · cases h

/-- More blocks keep a finding's identity, and change its verdict from pass to unknown only. -/
theorem evaluateState_mono {blocks' : List UnresolvedBlock} (hsub : ∀ b ∈ blocks, b ∈ blocks')
    (h : evaluateState uuid5 repr evidenceByFact audit pack policy blocks rule state = .ok finding) :
    ∃ finding', evaluateState uuid5 repr evidenceByFact audit pack policy blocks' rule state =
        .ok finding' ∧ finding'.findingId = finding.findingId ∧
      (finding'.verdict = finding.verdict ∨
        finding.verdict = .pass ∧ finding'.verdict = .unknown) := by
  have hblockers : blockersOf pack blocks rule ≠ [] → blockersOf pack blocks' rule ≠ [] := by
    intro hne
    obtain ⟨b, hb⟩ := List.exists_mem_of_ne_nil _ hne
    obtain ⟨hmem, haff⟩ := mem_blockersOf.mp hb
    exact List.ne_nil_of_mem (mem_blockersOf.mpr ⟨hsub b hmem, haff⟩)
  unfold evaluateState at h ⊢
  simp only at h ⊢
  split at h
  · rename_i hunresolved
    exact ⟨finding, by rw [if_pos hunresolved]; exact h, rfl, Or.inl rfl⟩
  rename_i hresolved
  rw [if_neg hresolved]
  split at h
  · rename_i hparameter
    exact ⟨finding, by rw [if_pos hparameter]; exact h, rfl, Or.inl rfl⟩
  rename_i hparameter
  rw [if_neg hparameter]
  cases hverdict : evaluateCondition rule state.effectiveValue (ruleParameter policy rule) with
  | error e =>
    simp only [hverdict] at h ⊢
    cases e with
    | evaluation message => exact ⟨finding, h, rfl, Or.inl rfl⟩
    | _ => cases h
  | ok verdict =>
    simp only [hverdict] at h ⊢
    by_cases hold : verdict = .pass ∧ blockersOf pack blocks rule ≠ []
    · -- Blocked before: the finding is unknown in both runs.
      rw [if_pos hold] at h
      rw [if_pos ⟨hold.1, hblockers hold.2⟩]
      obtain ⟨finding', hf⟩ := draft_unknown_of_draft h
      have hs := draft_spec h
      have hs' := draft_spec hf
      exact ⟨finding', hf, by rw [hs.findingId, hs'.findingId],
        Or.inl (by rw [hs.verdict_eq, hs'.verdict_eq])⟩
    · rw [if_neg hold] at h
      have hs := draft_spec h
      by_cases hnew : verdict = .pass ∧ blockersOf pack blocks' rule ≠ []
      · -- Newly blocked: a pass becomes unknown.
        rw [if_pos hnew]
        obtain ⟨finding', hf⟩ := draft_unknown_of_draft h
        have hs' := draft_spec hf
        exact ⟨finding', hf, by rw [hs.findingId, hs'.findingId],
          Or.inr ⟨by rw [hs.verdict_eq, hnew.1], hs'.verdict_eq⟩⟩
      · rw [if_neg hnew]
        exact ⟨finding, h, rfl, Or.inl rfl⟩

end State

/-- The states of the field a rule requires, in the order they were given. -/
def requiredStates (states : List EffectiveStateRow) (rule : RuleDefinition) :
    List EffectiveStateRow :=
  states.filter fun state => rule.requiredEffectiveStates.head? == some state.fieldId

/-- One finding for each state of the rule's field, or the single unscoped one. -/
def OneFindingPerState (states : List EffectiveStateRow) (rule : RuleDefinition)
    (findings : List FindingDraft) : Prop :=
  match requiredStates states rule with
  | [] => ∃ finding, findings = [finding] ∧ finding.affectedScope = none ∧
      finding.verdict = .unknown ∧ finding.unknownReason = some .missingEvidence
  | found => List.Forall₂ (fun state finding => finding.affectedScope = some state.scope ∧
      finding.effectiveStateRefs = [state.effectiveStateId]) found findings

/-- What a pass of a rule on a state rests on. -/
structure PassJustified (pack : RulePack) (policy : Option OrganizationPolicyVersion)
    (blocks : List UnresolvedBlock) (rule : RuleDefinition) (state : EffectiveStateRow) :
    Prop where
  resolved : state.resolutionStatus = .resolved
  parameter : rule.requiredPolicyParameters ≠ [] → (ruleParameter policy rule).isSome = true
  condition : ∃ value, state.effectiveValue = some value ∧
    ConditionHolds rule.condition value (ruleParameter policy rule)
  unblocked : ∀ block ∈ blocks, affects pack rule.ruleId block = false

/-- What a second evaluation may do to a finding when blocks are added. -/
def OnlyWithheld (before after : FindingDraft) : Prop :=
  after.findingId = before.findingId ∧
    (after.verdict = before.verdict ∨ before.verdict = .pass ∧ after.verdict = .unknown)

theorem onlyWithheld_refl (finding : FindingDraft) : OnlyWithheld finding finding :=
  ⟨rfl, Or.inl rfl⟩

section Rule

variable {blocks : List UnresolvedBlock} {rule : RuleDefinition}
  {states : List EffectiveStateRow} {findings : List FindingDraft}

/-- What a finding of a rule says of its identity, whatever made it. -/
structure RuleFinding (uuid5 : UUID → String → UUID) (audit : Audit)
    (states : List EffectiveStateRow) (rule : RuleDefinition) (finding : FindingDraft) :
    Prop where
  ruleId : finding.ruleId = rule.ruleId
  findingId : finding.findingId = uuid5 findingNamespace
    (findingIdentity audit.auditId rule.ruleId finding.affectedScope)
  scope : finding.affectedScope = none ∨ ∃ state ∈ states, finding.affectedScope = some state.scope

theorem ruleFinding_of_draft {verdict : FindingVerdict} {scope : Option ScopeRef}
    {refs : List EffectiveStateRow} {reason : Option UnresolvedReason} {finding : FindingDraft}
    (h : DraftSpec uuid5 audit rule verdict scope refs reason finding)
    (hscope : scope = none ∨ ∃ state ∈ states, scope = some state.scope) :
    RuleFinding uuid5 audit states rule finding :=
  ⟨h.ruleId, by rw [h.findingId, h.scope_eq], by rw [h.scope_eq]; exact hscope⟩

/-- The ways a rule is evaluated: one unscoped finding, or one finding for each state. -/
theorem evaluateRule_cases
    (h : evaluateRule uuid5 repr evidenceByFact audit pack policy states blocks rule =
      .ok findings) :
    (∃ verdict reason finding, findings = [finding] ∧
      DraftSpec uuid5 audit rule verdict none [] reason finding ∧ verdict ≠ .pass ∧
      (determineApplicability audit pack = .applicable →
        requiredStates states rule = [] ∧ verdict = .unknown ∧
          reason = some .missingEvidence) ∧
      ∀ blocks', evaluateRule uuid5 repr evidenceByFact audit pack policy states blocks' rule =
        .ok findings) ∨
    (determineApplicability audit pack = .applicable ∧ requiredStates states rule ≠ [] ∧
      List.Forall₂ (fun state finding => evaluateState uuid5 repr evidenceByFact audit pack policy
        blocks rule state = .ok finding) (requiredStates states rule) findings ∧
      ∀ blocks', evaluateRule uuid5 repr evidenceByFact audit pack policy states blocks' rule =
        (requiredStates states rule).mapM
          (evaluateState uuid5 repr evidenceByFact audit pack policy blocks' rule)) := by
  unfold evaluateRule at h ⊢
  simp only at h ⊢
  split at h
  · rename_i happ
    obtain ⟨finding, hf, h⟩ := except_bind_eq_ok.mp h
    obtain rfl := except_pure_eq_ok.mp h
    refine Or.inl ⟨_, _, finding, rfl, draft_spec hf, by simp, by simp [happ], fun blocks' => ?_⟩
    rw [hf]
    rfl
  · rename_i reason happ
    obtain ⟨finding, hf, h⟩ := except_bind_eq_ok.mp h
    obtain rfl := except_pure_eq_ok.mp h
    refine Or.inl ⟨_, _, finding, rfl, draft_spec hf, by simp, by simp [happ], fun blocks' => ?_⟩
    rw [hf]
    rfl
  · rename_i happ
    split at h
    · cases h
    · rename_i field rest hfield
      have hstates : states.filter (·.fieldId == field) = requiredStates states rule := by
        refine List.filter_congr fun state _ => ?_
        rw [hfield, List.head?_cons, Option.some_beq_some, BEq.comm]
      rw [hstates] at h ⊢
      split at h
      · rename_i hnone
        obtain ⟨finding, hf, h⟩ := except_bind_eq_ok.mp h
        obtain rfl := except_pure_eq_ok.mp h
        refine Or.inl ⟨_, _, finding, rfl, draft_spec hf, by simp,
          fun _ => ⟨hnone, rfl, rfl⟩, fun blocks' => ?_⟩
        rw [hf]
        rfl
      · rename_i hsome
        exact Or.inr ⟨happ, hsome, mapM_eq_ok.mp h, fun blocks' => rfl⟩

theorem mem_requiredStates {state : EffectiveStateRow} (h : state ∈ requiredStates states rule) :
    state ∈ states ∧ rule.requiredEffectiveStates.head? = some state.fieldId := by
  simpa [requiredStates] using h

theorem evaluateRule_finding
    (h : evaluateRule uuid5 repr evidenceByFact audit pack policy states blocks rule =
      .ok findings) : ∀ finding ∈ findings, RuleFinding uuid5 audit states rule finding := by
  intro finding hmem
  rcases evaluateRule_cases h with ⟨verdict, reason, single, rfl, hspec, -⟩ | ⟨-, -, hall, -⟩
  · rw [List.mem_singleton.mp hmem]
    exact ruleFinding_of_draft hspec (Or.inl rfl)
  · obtain ⟨state, hstate, heval⟩ := mapM_exists_input (mapM_eq_ok.mpr hall) hmem
    obtain ⟨verdict, reason, hspec⟩ := evaluateState_spec heval
    exact ruleFinding_of_draft hspec (Or.inr ⟨state, (mem_requiredStates hstate).1, rfl⟩)

theorem evaluateRule_coverage (happ : determineApplicability audit pack = .applicable)
    (h : evaluateRule uuid5 repr evidenceByFact audit pack policy states blocks rule =
      .ok findings) : OneFindingPerState states rule findings := by
  unfold OneFindingPerState
  rcases evaluateRule_cases h with
    ⟨verdict, reason, finding, rfl, hspec, -, hmissing, -⟩ | ⟨-, hne, hall, -⟩
  · obtain ⟨hnone, rfl, rfl⟩ := hmissing happ
    rw [hnone]
    exact ⟨finding, rfl, hspec.scope_eq, hspec.verdict_eq, hspec.reason_eq⟩
  · split
    · rename_i hnone
      exact absurd hnone hne
    · refine hall.imp fun state finding heval => ?_
      obtain ⟨verdict, reason, hspec⟩ := evaluateState_spec heval
      exact ⟨hspec.scope_eq, hspec.states_eq⟩

/-- A pass of a rule stands on a state of the rule's field. -/
theorem evaluateRule_pass
    (h : evaluateRule uuid5 repr evidenceByFact audit pack policy states blocks rule =
      .ok findings) {finding : FindingDraft} (hmem : finding ∈ findings)
    (hpass : finding.verdict = .pass) :
    ∃ state ∈ requiredStates states rule, finding.affectedScope = some state.scope ∧
      finding.effectiveStateRefs = [state.effectiveStateId] ∧
      PassJustified pack policy blocks rule state := by
  rcases evaluateRule_cases h with ⟨verdict, reason, single, rfl, hspec, hne, -⟩ | ⟨-, -, hall, -⟩
  · rw [List.mem_singleton.mp hmem, hspec.verdict_eq] at hpass
    exact absurd hpass hne
  · obtain ⟨state, hstate, heval⟩ := mapM_exists_input (mapM_eq_ok.mpr hall) hmem
    obtain ⟨verdict, reason, hspec⟩ := evaluateState_spec heval
    obtain ⟨hresolved, hparameter, hcondition, hblockers⟩ := evaluateState_pass heval hpass
    refine ⟨state, hstate, hspec.scope_eq, hspec.states_eq, hresolved, hparameter,
      evaluateCondition_pass.mp hcondition, fun block hblock => ?_⟩
    by_contra haffects
    have : block ∈ blockersOf pack blocks rule :=
      mem_blockersOf.mpr ⟨hblock, by simpa using haffects⟩
    rw [hblockers] at this
    exact absurd this (List.not_mem_nil)

theorem evaluateRule_mono {blocks' : List UnresolvedBlock} (hsub : ∀ b ∈ blocks, b ∈ blocks')
    (h : evaluateRule uuid5 repr evidenceByFact audit pack policy states blocks rule =
      .ok findings) :
    ∃ findings', evaluateRule uuid5 repr evidenceByFact audit pack policy states blocks' rule =
      .ok findings' ∧ List.Forall₂ OnlyWithheld findings findings' := by
  rcases evaluateRule_cases h with ⟨_, _, _, -, -, -, -, hsame⟩ | ⟨-, -, hall, hrun⟩
  · exact ⟨findings, hsame blocks', List.forall₂_same.mpr fun f _ => onlyWithheld_refl f⟩
  · rw [hrun blocks']
    -- One state at a time: each finding of the first run has its counterpart in the second.
    clear h hrun
    generalize requiredStates states rule = found at hall
    induction hall with
    | nil => exact ⟨[], rfl, .nil⟩
    | cons heval _ ih =>
      obtain ⟨rest', hrest', hwithheld⟩ := ih
      obtain ⟨finding', hf', hid, hverdict⟩ := evaluateState_mono hsub heval
      exact ⟨finding' :: rest', mapM_eq_ok.mpr (.cons hf' (mapM_eq_ok.mp hrest')),
        .cons ⟨hid, hverdict⟩ hwithheld⟩

end Rule

section Run

variable {blocks : List UnresolvedBlock} {states : List EffectiveStateRow}
  {findings : List FindingDraft}

theorem evaluateAuditCompliance_cases
    (h : evaluateAuditCompliance uuid5 repr evidenceByFact audit pack policy states blocks =
      .ok findings) :
    ∃ groups, findings = groups.flatten ∧ List.Forall₂ (fun rule group =>
      evaluateRule uuid5 repr evidenceByFact audit pack policy states blocks rule = .ok group)
        pack.rules groups ∧
      ∀ blocks', (∀ b ∈ blocks', b.auditId = audit.auditId) →
        evaluateAuditCompliance uuid5 repr evidenceByFact audit pack policy states blocks' = do
          let groups ← pack.rules.mapM
            (evaluateRule uuid5 repr evidenceByFact audit pack policy states blocks')
          return groups.flatten := by
  simp only [evaluateAuditCompliance, except_bind_eq_ok, except_pure_eq_ok, raiseIf_eq_ok] at h
  obtain ⟨_, hstatus, _, hpolicy, _, hdevice, _, -, groups, hgroups, rfl⟩ := h
  refine ⟨groups, rfl, mapM_eq_ok.mp hgroups, fun blocks' haudit => ?_⟩
  have hblocks : blocks'.any (·.auditId != audit.auditId) = false := by
    rw [List.any_eq_false]
    intro b hb
    simp [haudit b hb]
  simp only [evaluateAuditCompliance, hstatus, hpolicy, hdevice, hblocks]
  rfl

/-- The texts the finding ids of a run are made from. -/
def findingIdentities (audit : Audit) (pack : RulePack) (states : List EffectiveStateRow) :
    Set String :=
  { text | ∃ rule ∈ pack.rules, ∃ scope : Option ScopeRef,
    (scope = none ∨ ∃ state ∈ states, scope = some state.scope) ∧
      text = findingIdentity audit.auditId rule.ruleId scope }

/-- Rule ids without a colon and the scope key are read off the identity. -/
theorem findingIdentity_inj {auditId : UUID} {r₁ r₂ : String} {s₁ s₂ : Option ScopeRef}
    (h₁ : ':' ∉ r₁.toList) (h₂ : ':' ∉ r₂.toList)
    (h : findingIdentity auditId r₁ s₁ = findingIdentity auditId r₂ s₂) :
    r₁ = r₂ ∧ findingScopeKey s₁ = findingScopeKey s₂ := by
  have hchars := congrArg String.toList h
  simp only [findingIdentity, String.toList_append, List.append_assoc,
    List.append_cancel_left_eq] at hchars
  have e₁ := Text.splitFirst_append ':' r₁.toList (findingScopeKey s₁).toList h₁
  have e₂ := Text.splitFirst_append ':' r₂.toList (findingScopeKey s₂).toList h₂
  have hcolon : ":".toList = [':'] := by decide
  rw [hcolon, List.singleton_append, List.singleton_append] at hchars
  rw [hchars, e₂, Option.some.injEq, Prod.mk.injEq] at e₁
  exact ⟨String.toList_injective e₁.1.symm, String.toList_injective e₁.2.symm⟩

/-- A rule's findings have distinct scope keys when the states of one field do. -/
theorem evaluateRule_scopes_nodup {rule : RuleDefinition}
    (hstates : (states.map fun s => (s.fieldId, findingScopeKey (some s.scope))).Nodup)
    (h : evaluateRule uuid5 repr evidenceByFact audit pack policy states blocks rule =
      .ok findings) : (findings.map fun f => findingScopeKey f.affectedScope).Nodup := by
  rcases evaluateRule_cases h with ⟨_, _, single, rfl, -⟩ | ⟨-, -, hall, -⟩
  · simp
  · have hkeys : findings.map (fun f => findingScopeKey f.affectedScope) =
        (requiredStates states rule).map fun s => findingScopeKey (some s.scope) := by
      refine mapM_map (mapM_eq_ok.mpr hall) fun state finding heval => ?_
      obtain ⟨_, _, hspec⟩ := evaluateState_spec heval
      rw [hspec.scope_eq]
    rw [hkeys]
    have hsub : (requiredStates states rule).Sublist states := List.filter_sublist
    have hpairs := List.Nodup.sublist (hsub.map _) hstates
    refine List.Nodup.of_map (fun key => (rule.requiredEffectiveStates.headD "", key)) ?_
    rw [List.map_map]
    -- The required states share one field, so their keys alone are distinct.
    convert hpairs using 1
    refine List.map_congr_left fun state hstate => ?_
    have hfield := (mem_requiredStates hstate).2
    simp [List.headD_eq_head?_getD, hfield]

/-- What one evaluation of an audit guarantees. -/
structure Sound (uuid5 : UUID → String → UUID) (repr : PyValue → Except PyError String)
    (evidenceByFact : UUID → List PyValue) (audit : Audit) (pack : RulePack)
    (policy : Option OrganizationPolicyVersion) (states : List EffectiveStateRow)
    (blocks : List UnresolvedBlock) (findings : List FindingDraft) : Prop where
  coverage : determineApplicability audit pack = .applicable → ∀ rule ∈ pack.rules,
    OneFindingPerState states rule (findings.filter (·.ruleId = rule.ruleId))
  distinct : (findings.map (·.findingId)).Nodup
  justified : ∀ finding ∈ findings, finding.verdict = .pass → ∃ rule ∈ pack.rules,
    finding.ruleId = rule.ruleId ∧ ∃ state ∈ requiredStates states rule,
      finding.affectedScope = some state.scope ∧
        finding.effectiveStateRefs = [state.effectiveStateId] ∧
        PassJustified pack policy blocks rule state
  monotone : ∀ blocks', (∀ b ∈ blocks, b ∈ blocks') → (∀ b ∈ blocks', b.auditId = audit.auditId) →
    ∃ findings', evaluateAuditCompliance uuid5 repr evidenceByFact audit pack policy states
      blocks' = .ok findings' ∧ List.Forall₂ OnlyWithheld findings findings'

theorem rules_tagged {groups : List (List FindingDraft)} {rules : List RuleDefinition}
    (h : List.Forall₂ (fun rule group => evaluateRule uuid5 repr evidenceByFact audit pack policy
      states blocks rule = .ok group) rules groups) :
    Tagged (·.ruleId) (·.ruleId) rules groups :=
  h.imp fun _ _ heval finding hmem => (evaluateRule_finding heval finding hmem).ruleId

theorem rules_finding {groups : List (List FindingDraft)} {rules : List RuleDefinition}
    (h : List.Forall₂ (fun rule group => evaluateRule uuid5 repr evidenceByFact audit pack policy
      states blocks rule = .ok group) rules groups) {finding : FindingDraft}
    (hmem : finding ∈ groups.flatten) : ∃ rule ∈ rules, ∃ group, finding ∈ group ∧
      evaluateRule uuid5 repr evidenceByFact audit pack policy states blocks rule = .ok group := by
  obtain ⟨group, hgroup, hfinding⟩ := List.mem_flatten.mp hmem
  obtain ⟨rule, hrule, heval⟩ := mapM_exists_input (mapM_eq_ok.mpr h) hgroup
  exact ⟨rule, hrule, group, hfinding, heval⟩

/-- Every finding's id is made from its own rule and scope. -/
theorem rules_identity {groups : List (List FindingDraft)}
    (h : List.Forall₂ (fun rule group => evaluateRule uuid5 repr evidenceByFact audit pack policy
      states blocks rule = .ok group) pack.rules groups) {finding : FindingDraft}
    (hmem : finding ∈ groups.flatten) :
    (∃ rule ∈ pack.rules, finding.ruleId = rule.ruleId) ∧
      finding.findingId = uuid5 findingNamespace
        (findingIdentity audit.auditId finding.ruleId finding.affectedScope) ∧
      findingIdentity audit.auditId finding.ruleId finding.affectedScope ∈
        findingIdentities audit pack states := by
  obtain ⟨rule, hrule, group, hfinding, heval⟩ := rules_finding h hmem
  have hspec := evaluateRule_finding heval finding hfinding
  refine ⟨⟨rule, hrule, hspec.ruleId⟩, by rw [hspec.findingId, hspec.ruleId], rule, hrule, _,
    hspec.scope, by rw [hspec.ruleId]⟩

theorem rules_mono {groups : List (List FindingDraft)} {rules : List RuleDefinition}
    {blocks' : List UnresolvedBlock} (hsub : ∀ b ∈ blocks, b ∈ blocks')
    (h : List.Forall₂ (fun rule group => evaluateRule uuid5 repr evidenceByFact audit pack policy
      states blocks rule = .ok group) rules groups) :
    ∃ groups', rules.mapM (evaluateRule uuid5 repr evidenceByFact audit pack policy states
      blocks') = .ok groups' ∧ List.Forall₂ OnlyWithheld groups.flatten groups'.flatten := by
  induction h with
  | nil => exact ⟨[], rfl, .nil⟩
  | cons heval _ ih =>
    obtain ⟨groups', hrun, hwithheld⟩ := ih
    obtain ⟨group', hgroup', hhead⟩ := evaluateRule_mono hsub heval
    refine ⟨group' :: groups', mapM_eq_ok.mpr (.cons hgroup' (mapM_eq_ok.mp hrun)), ?_⟩
    rw [List.flatten_cons, List.flatten_cons]
    exact List.rel_append hhead hwithheld

/-- The findings of an evaluation are complete, distinct, justified and monotone in the blocks. -/
theorem evaluateAuditCompliance_sound (hpack : rulePackOk pack = true)
    (hcolon : ∀ rule ∈ pack.rules, ':' ∉ rule.ruleId.toList)
    (hstates : (states.map fun s => (s.fieldId, findingScopeKey (some s.scope))).Nodup)
    (huuid5 : Set.InjOn (uuid5 findingNamespace) (findingIdentities audit pack states))
    (h : evaluateAuditCompliance uuid5 repr evidenceByFact audit pack policy states blocks =
      .ok findings) :
    Sound uuid5 repr evidenceByFact audit pack policy states blocks findings := by
  obtain ⟨groups, rfl, hgroups, hrun⟩ := evaluateAuditCompliance_cases h
  have htagged := rules_tagged hgroups
  have hkeys := rulePackOk_nodup hpack
  refine ⟨fun happ => ?_, ?_, ?_, fun blocks' hsub haudit => ?_⟩
  · exact tagged_filter (hgroups.imp fun _ _ => evaluateRule_coverage happ) htagged hkeys
  · have hscopes : ∀ group ∈ groups,
        (group.map fun f => findingScopeKey f.affectedScope).Nodup := by
      intro group hgroup
      obtain ⟨rule, -, heval⟩ := mapM_exists_input (mapM_eq_ok.mpr hgroups) hgroup
      exact evaluateRule_scopes_nodup hstates heval
    have hpairs := tagged_nodup htagged hkeys hscopes
    refine List.Nodup.map_on ?_ (List.Nodup.of_map _ hpairs)
    intro f hf g hg hid
    obtain ⟨⟨r, hr, hfr⟩, hfid, hfmem⟩ := rules_identity hgroups hf
    obtain ⟨⟨q, hq, hgq⟩, hgid, hgmem⟩ := rules_identity hgroups hg
    rw [hfid, hgid] at hid
    have hsame := findingIdentity_inj (hfr ▸ hcolon r hr) (hgq ▸ hcolon q hq)
      (huuid5 hfmem hgmem hid)
    exact List.inj_on_of_nodup_map hpairs hf hg (Prod.ext hsame.1 hsame.2)
  · intro finding hmem hpass
    obtain ⟨rule, hrule, group, hfinding, heval⟩ := rules_finding hgroups hmem
    exact ⟨rule, hrule, (evaluateRule_finding heval finding hfinding).ruleId,
      evaluateRule_pass heval hfinding hpass⟩
  · obtain ⟨groups', hmap, hwithheld⟩ := rules_mono hsub hgroups
    refine ⟨groups'.flatten, ?_, hwithheld⟩
    rw [hrun blocks' haudit, hmap]
    rfl

end Run

def vtyAudit : Audit :=
  { auditId := UUID.ofNat 1, organizationId := UUID.ofNat 2, deviceId := UUID.ofNat 3,
    status := .processing, resolutionStatus := some "resolved",
    profileVersionId := some "cisco.ios_xe.17@1.0.0" }

def vtyScope (start stop : Int) (key : String) : ScopeRef :=
  { type := "vty_range", key, attributes := [("start", .int start), ("end", .int stop)] }

def vtyState (id : Nat) (fieldId : String) (scope : ScopeRef) (value : Bool) : EffectiveStateRow :=
  { effectiveStateId := UUID.ofNat id, auditId := UUID.ofNat 1, deviceId := UUID.ofNat 3, fieldId,
    scope, scopeKey := "vty_range::" ++ scope.key,
    effectiveValue := some { type := .boolean, value := .bool value },
    resolutionStatus := .resolved, sourceFactIds := [UUID.ofNat 7], unresolvedReason := none }

/-- Telnet is off on the first lines and on on the others. -/
def vtyStates : List EffectiveStateRow :=
  [vtyState 4 "management.remote.telnet.enabled" (vtyScope 0 4 "vty:0-4") false,
    vtyState 5 "management.remote.telnet.enabled" (vtyScope 5 15 "vty:5-15") true,
    vtyState 6 "management.remote.ssh.enabled" (vtyScope 0 4 "vty:0-4") true]

/-- A statement that may concern SSH. -/
def sshBlock : UnresolvedBlock :=
  { auditId := UUID.ofNat 1, organizationId := UUID.ofNat 2, deviceId := UUID.ofNat 3,
    snapshotId := UUID.ofNat 8, profileId := some "cisco.ios_xe.17",
    profileVersionId := some "cisco.ios_xe.17@1.0.0", sourceIrNodeIds := ["n1"],
    evidenceRefs := [.dict [("line_start", .int 9)]], unknownReason := "unmapped_syntax",
    candidateFieldIds := ["management.remote.ssh.enabled"],
    affectedRuleIds := ["management.ssh.enabled"], fingerprint := "f1" }

def vtyEvidence (_ : UUID) : List PyValue := [.dict [("line_start", .int 3)]]

/-- The texts of the finding ids: each rule with no scope and with the two ranges. -/
def vtyIdentities : List String :=
  Rules.rulePackV1.rules.flatMap fun rule =>
    [none, some (vtyScope 0 4 "vty:0-4"), some (vtyScope 5 15 "vty:5-15")].map
      (findingIdentity vtyAudit.auditId rule.ruleId)

def vtyUuid5 : UUID → String → UUID := UUID.ofTable (vtyIdentities.zip
    [0x7287e1145fc456f1898e3d80e68a1a8d, 0xbf98a303c6ea537bbe1673c8f3a4c3df,
      0x97662dd61015584187637e3b9bc587e9, 0x77e6b90c904758df81aae4dd7f0e8df3,
      0x979716d604ac5ea8a2a964f7ad813bc2, 0x5aa01e037edb5111b36f0b70cdb796d6,
      0xc23f2b80826650e99758afba8e6ff25c, 0x9bf30ba76229553f9a7c0224f7ac5395,
      0xbe3a52bbce715438851ccd4f2967d463, 0x0582f852941f521dbba96b5bb6f174c5,
      0x6edfca499f7e55aea23772331e3f455d, 0x27c4055afdac56e3a29e2d3ddba162bf,
      0xe4b7cb66e97e5b32ac54b4f67f515e80, 0xb3005b651ea15109b684c38449603e45,
      0xc896eb112bc6574a831c2d9d64298964, 0x457a8b0e50fb5ef09b290a6c1bdac6d5,
      0xe9920992f0d058b79bea38b5e0731387, 0x2a107690900e5376a760893849b43c27,
      0xd95defd317b8512182232a533c1b1aa5, 0x1e9b021bd6d256b8b53cefa1d119ffdf,
      0x51365b19f8645669bb22e58b31db2c1d, 0x5f86719e593854989b3fd389421bc5e7,
      0xd4cc1eff0a4559a8ba549d76510e3899, 0xf30729339f625371bdf13a40a451db5c,
      0x670763f1d11759418f0db2383e6426d9, 0x3bb6477c49d05f36b9d488ece1528315,
      0xd6edef9c27f95da08054bd4ab3d1bc13, 0xbdd0a6c0d57f5f5cbf0a74e2150d624f,
      0x3ff0998f90bb5efbbabe550c2b007c30, 0x99fd4da1b8f65385bbb39500b4696275,
      0x77e64cac36f05a26b324aac3373c06e9, 0x5da02f3342dc5480932187c0ed368ece,
      0xa44afa16b52c5c1d9d8a3729578fc210, 0x47f065970dec5441af61d6909f037089,
      0x31bac70bf8fb5648a04497ccce9d3b71, 0x55ca0797b89d5f57912073a18de38ff0])

theorem vtyIdentities_complete :
    findingIdentities vtyAudit Rules.rulePackV1 vtyStates ⊆ { text | text ∈ vtyIdentities } := by
  rintro text ⟨rule, hrule, scope, hscope, rfl⟩
  refine List.mem_flatMap.mpr ⟨rule, hrule, List.mem_map_of_mem ?_⟩
  rcases hscope with rfl | ⟨state, hstate, rfl⟩
  · exact List.mem_cons_self
  · have hscopes : ∀ state ∈ vtyStates, some state.scope ∈
        [none, some (vtyScope 0 4 "vty:0-4"), some (vtyScope 5 15 "vty:5-15")] := by decide
    exact hscopes state hstate

/-- Telnet passes on one range and fails on the other, and the pass of SSH is withheld. -/
theorem evaluateAuditCompliance_sound_vty :
    ∃ findings, evaluateAuditCompliance vtyUuid5 PyValue.text vtyEvidence vtyAudit
        Rules.rulePackV1 none vtyStates [sshBlock] = .ok findings ∧
      (findings.filter (·.affectedScope.isSome)).map (fun f => (f.ruleId, f.verdict)) =
        [("management.telnet.disabled", .pass), ("management.telnet.disabled", .fail),
          ("management.ssh.enabled", .unknown)] ∧
      Sound vtyUuid5 PyValue.text vtyEvidence vtyAudit Rules.rulePackV1 none vtyStates [sshBlock]
        findings := by
  have hrun : ((evaluateAuditCompliance vtyUuid5 PyValue.text vtyEvidence vtyAudit
      Rules.rulePackV1 none vtyStates [sshBlock]).map fun findings =>
        (findings.filter (·.affectedScope.isSome)).map fun f => (f.ruleId, f.verdict)) =
      .ok [("management.telnet.disabled", .pass), ("management.telnet.disabled", .fail),
        ("management.ssh.enabled", .unknown)] := by
    decide +kernel
  obtain ⟨findings, hfindings, hverdicts⟩ := except_map_eq_ok.mp hrun
  have hpack : Rules.rulePackV1 ∈ Rules.registry := List.mem_cons_self
  refine ⟨findings, hfindings, hverdicts, evaluateAuditCompliance_sound
    (Rules.registry_validated _ hpack) (Rules.registry_no_colon hpack) (by decide) ?_ hfindings⟩
  have hdistinct : (vtyIdentities.map (vtyUuid5 findingNamespace)).Nodup := by decide +kernel
  have hinjective : Set.InjOn (vtyUuid5 findingNamespace) { text | text ∈ vtyIdentities } :=
    fun a ha b hb hab => List.inj_on_of_nodup_map hdistinct ha hb hab
  exact hinjective.mono vtyIdentities_complete

end ConfigAuditor.Compliance.Soundness
