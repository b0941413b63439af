import ConfigAuditor.Library.Sorting
import ConfigAuditor.Compliance.Evaluator

/-!
# Baseline evaluation of an audit

`evaluate_audit_compliance`: every rule of a pack against the effective states of
its field, with a pass withheld while unresolved evidence affects the rule. The
printed form of a value and the stored evidence of a fact are parameters.
-/
namespace ConfigAuditor.Compliance.Service

open Library SecurityModel EffectiveState.Model Model Evaluator

inductive Applicability where
  | applicable
  | notApplicable
  | unresolved (reason : UnresolvedReason)
  deriving DecidableEq

/-- `determine_applicability`. -/
def determineApplicability (audit : Audit) (pack : RulePack) : Applicability :=
  if audit.resolutionStatus ≠ some "resolved" then .unresolved .unsupportedProfile
  else if audit.profileVersionId ≠ some pack.profileVersionId then .notApplicable
  else .applicable

/-- `_expected`. -/
def expectedState (rule : RuleDefinition) (parameter : Option PyValue) : PyValue :=
  let operator := ("operator", PyValue.str rule.condition.operator.text)
  let lowerBound := match rule.condition.minimumExclusive with
    | some minimum => [("minimum_exclusive", minimum)]
    | none => []
  match rule.condition.expected, parameter with
  | some expected, _ => .dict (operator :: ("value", expected) :: lowerBound)
  | none, some parameter =>
    .dict (operator :: ("parameter", optionText rule.condition.parameter) ::
      ("value", parameter) :: lowerBound)
  | none, none => .dict (operator :: lowerBound)

/-- A block without rules and fields, from before such blocks named them. -/
def legacyUnattributed (pack : RulePack) (block : UnresolvedBlock) : Bool :=
  block.affectedRuleIds.isEmpty && block.candidateFieldIds.isEmpty &&
    block.profileVersionId == some pack.profileVersionId && !block.sourceIrNodeIds.isEmpty

/-- The rules a block affects. -/
def affectedRules (pack : RulePack) (block : UnresolvedBlock) : List String :=
  if legacyUnattributed pack block then pack.rules.map (·.ruleId) else block.affectedRuleIds

def affects (pack : RulePack) (ruleId : String) (block : UnresolvedBlock) : Bool :=
  (affectedRules pack block).contains ruleId

section Evaluation

variable (uuid5 : UUID → String → UUID) (repr : PyValue → Except PyError String)
  (evidenceByFact : UUID → List PyValue) (audit : Audit) (pack : RulePack)
  (policy : Option OrganizationPolicyVersion)

/-- `state_evidence`: the references of the state's facts, each once. -/
def stateEvidence (state : EffectiveStateRow) : List PyValue :=
  let references := (state.sourceFactIds.flatMap evidenceByFact).filterMap fun reference =>
    match reference with
    | .dict entries => some (sortedBy (·.1) entries, reference)
    | _ => none
  (Dict.ofList references).map (·.2)

/-- `_explanation`. -/
def explanation (verdict : FindingVerdict) (rule : RuleDefinition) (observed : Option TypedValue)
    (reason : Option UnresolvedReason) : Except Error String :=
  match verdict with
  | .unknown =>
    match reason with
    | none => .error (.python .attributeError)
    | some reason =>
      .ok ("The required EffectiveState is unresolved because " ++ reason.words ++ ".")
  | .manualReview => .ok "The required organization policy parameter is unavailable."
  | .notApplicable =>
    .ok "This technical baseline does not apply to the resolved device profile."
  | .processError =>
    .ok "Deterministic evaluation could not validate the canonical EffectiveState contract."
  | verdict => do
    let actual ← repr ((observed.map (·.value)).getD .none)
    let outcome := if verdict = .pass then "satisfied" else "not satisfied"
    return "Observed canonical value is " ++ actual ++ "; rule " ++
      rule.condition.operator.text ++ " " ++ outcome ++ "."

/-- `_draft`. -/
def draft (rule : RuleDefinition) (verdict : FindingVerdict) (scope : Option ScopeRef)
    (states : List EffectiveStateRow) (observed : Option TypedValue) (expected : Option PyValue)
    (reason : Option UnresolvedReason) (evidence : List PyValue) : Except Error FindingDraft := do
  let findingId ← deterministicFindingId uuid5 audit.auditId rule.ruleId scope
  let key ← comparisonKey rule.ruleId scope
  let text ← explanation repr verdict rule observed reason
  return {
    findingId, auditId := audit.auditId, deviceId := audit.deviceId, comparisonKey := key,
    ruleId := rule.ruleId, rulePackVersionId := pack.rulePackVersionId, title := rule.title,
    securityDomain := rule.securityDomain, verdict, severity := rule.severity,
    expectedState := expected, observedState := observed, explanation := text,
    affectedScope := scope, effectiveStateRefs := states.map (·.effectiveStateId),
    evidenceRefs := evidence, unknownReason := reason,
    frameworkReferences := rule.frameworkReferences }

/-- The parameter of a rule that requires one. -/
def ruleParameter (rule : RuleDefinition) : Option PyValue :=
  if rule.requiredPolicyParameters.isEmpty then none
  else resolveParameter policy (rule.condition.parameter.getD "")

/-- The blocks that withhold a pass of a rule, in the order they were given. -/
def blockersOf (blocks : List UnresolvedBlock) (rule : RuleDefinition) : List UnresolvedBlock :=
  blocks.filter (affects pack rule.ruleId)

def blockerEvidence (blockers : List UnresolvedBlock) : List PyValue :=
  (blockers.flatMap (·.evidenceRefs)).filter fun reference => match reference with
    | .dict _ => true
    | _ => false

/-- One rule on one state of its field. -/
def evaluateState (blocks : List UnresolvedBlock) (rule : RuleDefinition)
    (state : EffectiveStateRow) : Except Error FindingDraft :=
  let scope := some state.scope
  let evidence := stateEvidence evidenceByFact state
  let make := draft uuid5 repr audit pack rule
  if state.resolutionStatus ≠ .resolved then
    let reason := if state.resolutionStatus = .conflicting then some .conflictingEvidence
      else state.unresolvedReason
    make .unknown scope [state] none none reason evidence
  else
    let parameter := ruleParameter policy rule
    if !rule.requiredPolicyParameters.isEmpty && parameter.isNone then
      make .manualReview scope [state] state.effectiveValue (some (expectedState rule none)) none
        evidence
    else
      match evaluateCondition rule state.effectiveValue parameter with
      | .ok verdict =>
        let blockers := blockersOf pack blocks rule
        if verdict = .pass ∧ blockers ≠ [] then
          make .unknown scope [state] state.effectiveValue (some (expectedState rule parameter))
            (some .unsupportedFeature) (blockerEvidence blockers)
        else
          make verdict scope [state] state.effectiveValue (some (expectedState rule parameter))
            none evidence
      | .error (.evaluation _) =>
        make .processError scope [state] state.effectiveValue none none evidence
      | .error e => .error e

/-- One rule: a finding for each state of its field, or one unscoped finding. -/
def evaluateRule (states : List EffectiveStateRow) (blocks : List UnresolvedBlock)
    (rule : RuleDefinition) : Except Error (List FindingDraft) :=
  let unscoped (verdict : FindingVerdict) (reason : Option UnresolvedReason) := do
    let finding ← draft uuid5 repr audit pack rule verdict none [] none none reason []
    return [finding]
  match determineApplicability audit pack with
  | .notApplicable => unscoped .notApplicable none
  | .unresolved reason => unscoped .unknown (some reason)
  | .applicable =>
    match rule.requiredEffectiveStates with
    | [] => .error (.python .indexError)
    | field :: _ =>
      match states.filter (·.fieldId == field) with
      | [] => unscoped .unknown (some .missingEvidence)
      | found => found.mapM (evaluateState uuid5 repr evidenceByFact audit pack policy blocks rule)

/-- `evaluate_audit_compliance`. -/
def evaluateAuditCompliance (states : List EffectiveStateRow) (blocks : List UnresolvedBlock) :
    Except Error (List FindingDraft) := do
  raiseIf (audit.status != .processing)
    (.compliance "Only still-processing Audits are eligible for compliance evaluation")
  raiseIf (policy.any (·.organizationId != audit.organizationId))
    (.compliance "Organization policy crosses the Audit boundary")
  raiseIf (states.any (·.deviceId != audit.deviceId))
    (.compliance "EffectiveState crosses the Audit boundary")
  raiseIf (blocks.any (·.auditId != audit.auditId))
    (.compliance "Unresolved evidence crosses the Audit boundary")
  let findings ← pack.rules.mapM
    (evaluateRule uuid5 repr evidenceByFact audit pack policy states blocks)
  return findings.flatten

end Evaluation

end ConfigAuditor.Compliance.Service
