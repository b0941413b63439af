import ConfigAuditor.Compliance.RuntimeRules
import ConfigAuditor.Compliance.Evaluator

/-!
# Assessment packs and obligations

`app.assessment_packs.contracts` and the tables behind it: a pack is an immutable catalog of
obligations, an audit pins packs, and each obligation gets one result.
-/
namespace ConfigAuditor.Assessment.Model

open Library SecurityModel Compliance.Model Compliance.RuntimeRules Compliance.Evaluator

inductive AssessmentMethod where
  | automatic
  | manual
  deriving DecidableEq, Repr

inductive ImplementationStatus where
  | implemented
  | manual
  | unimplemented
  deriving DecidableEq, Repr

inductive ApplicabilityStatus where
  | applicable
  | notApplicable
  | unknown
  deriving DecidableEq, Repr

inductive PackStatus where
  | available
  | published
  | retired
  deriving DecidableEq, Repr

/-- A row of `AssessmentPackVersion`; instants count microseconds. -/
structure AssessmentPackVersion where
  assessmentPackVersionId : UUID
  organizationId : Option UUID
  packKey : String
  family : String
  name : String
  version : Int
  profileVersionIds : List String
  sourceMetadata : Payload
  sourceVersionLabel : String
  contentDigest : String
  applicability : Payload
  status : PackStatus := .published
  publishedAt : Option Int := none
  createdAt : Int := 0
  schemaVersion : String := "1.0.0"
  deriving DecidableEq

/-- A row of `AssessmentObligation`. -/
structure AssessmentObligation where
  assessmentObligationId : UUID
  assessmentPackVersionId : UUID
  obligationKey : String
  title : String
  frameworkVersion : String
  sourceUrl : String
  sourceDigest : String
  controlId : String
  severity : String
  scope : String
  /-- `applicability.get("profile_version_ids")`, when the key is there. -/
  profileVersionIds : Option (List String)
  assessmentMethod : AssessmentMethod
  implementationStatus : ImplementationStatus
  evaluatorRuleId : Option String
  policyParameters : Payload
  deriving DecidableEq

/-- The condition of a rule with the obligation's expected value in it. -/
def overriddenCondition (condition : RuleCondition) (policy : Payload) : RuleCondition :=
  match PyValue.lookup "expected" policy with
  | some expected => { condition with expected := some expected }
  | none => condition

/-- `replace(rule, condition=condition)`. -/
def overriddenRule (rule : RuleDefinition) (policy : Payload) : RuleDefinition :=
  { rule with condition := overriddenCondition rule.condition policy }

/-- `policy_parameters.get(condition.get("parameter"))`, when the condition names one. -/
def obligationParameter (condition : RuleCondition) (policy : Payload) : Option PyValue :=
  match condition.parameter with
  | some name => if name.isEmpty then none else PyValue.lookup name policy
  | none => none

/-- The evaluation of an obligation's rule on a resolved value. -/
def evaluateObligation (rule : RuleDefinition) (policy : Payload) (value : Option TypedValue) :
    Except Error FindingVerdict :=
  evaluateCondition (overriddenRule rule policy) value (obligationParameter rule.condition policy)

@[simp] theorem overriddenCondition_operator (condition : RuleCondition) (policy : Payload) :
    (overriddenCondition condition policy).operator = condition.operator := by
  unfold overriddenCondition
  split <;> rfl

@[simp] theorem overriddenCondition_order (condition : RuleCondition) (policy : Payload) :
    (overriddenCondition condition policy).order = condition.order := by
  unfold overriddenCondition
  split <;> rfl

@[simp] theorem minimumOf_overriddenCondition (condition : RuleCondition) (policy : Payload) :
    minimumOf (overriddenCondition condition policy) = minimumOf condition := by
  unfold overriddenCondition
  split <;> rfl

end ConfigAuditor.Assessment.Model
