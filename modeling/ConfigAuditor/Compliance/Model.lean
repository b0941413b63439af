import ConfigAuditor.EffectiveState.Model

/-!
# Rules, policies and findings

The data of `app.compliance`: declarative rules, the packs that group them for a
profile, organization policies, unresolved evidence blocks and finding drafts.
-/
namespace ConfigAuditor.Compliance.Model

open Library SecurityModel EffectiveState.Model

inductive FindingVerdict where
  | pass
  | fail
  | unknown
  | manualReview
  | notApplicable
  | processError
  deriving DecidableEq, Repr

inductive FindingSeverity where
  | critical
  | high
  | medium
  | low
  | informational
  deriving DecidableEq, Repr

/-- The operator vocabulary; any other text is kept as it is. -/
inductive Operator where
  | equals
  | lessThanOrEqual
  | nonEmpty
  | allMembersInParameterSet
  | enumAtLeast
  | other (name : String)
  deriving DecidableEq, Repr

def Operator.text : Operator → String
  | equals => "equals"
  | lessThanOrEqual => "less_than_or_equal"
  | nonEmpty => "non_empty"
  | allMembersInParameterSet => "all_members_in_parameter_set"
  | enumAtLeast => "enum_at_least"
  | other name => name

def Operator.supported : Operator → Bool
  | other _ => false
  | _ => true

/-- The `condition` mapping of a rule; an absent key is `none`. -/
structure RuleCondition where
  operator : Operator
  expected : Option PyValue := none
  parameter : Option String := none
  minimumExclusive : Option PyValue := none
  order : Option (List PyValue) := none
  deriving DecidableEq

structure FrameworkReference where
  framework : String
  revision : String
  controlId : String
  controlTitle : String
  deriving DecidableEq

structure RuleDefinition where
  ruleId : String
  title : String
  securityDomain : String
  severity : FindingSeverity
  requiredEffectiveStates : List String
  condition : RuleCondition
  requiredPolicyParameters : List String
  frameworkReferences : List FrameworkReference := []
  deriving DecidableEq

structure RulePack where
  rulePackVersionId : UUID
  name : String
  version : String
  profileVersionId : String
  rules : List RuleDefinition
  schemaVersion : String := "1.0.0"
  deriving DecidableEq

structure OrganizationPolicyVersion where
  organizationId : UUID
  parameters : List (String × PyValue)

inductive AuditStatus where
  | created
  | processing
  | completed
  | failed
  deriving DecidableEq, Repr

/-- The columns of an audit that evaluation reads. -/
structure Audit where
  auditId : UUID
  organizationId : UUID
  deviceId : UUID
  status : AuditStatus
  resolutionStatus : Option String
  profileVersionId : Option String

/-- Configuration evidence no mapping resolved. -/
structure UnresolvedBlock where
  auditId : UUID
  organizationId : UUID
  deviceId : UUID
  snapshotId : UUID
  profileId : Option String
  profileVersionId : Option String
  sourceIrNodeIds : List String
  evidenceRefs : List PyValue
  unknownReason : String
  candidateFieldIds : List String
  affectedRuleIds : List String
  fingerprint : String
  deriving DecidableEq

structure FindingDraft where
  findingId : UUID
  auditId : UUID
  deviceId : UUID
  comparisonKey : String
  ruleId : String
  rulePackVersionId : UUID
  title : String
  securityDomain : String
  verdict : FindingVerdict
  severity : FindingSeverity
  expectedState : Option PyValue
  observedState : Option TypedValue
  explanation : String
  affectedScope : Option ScopeRef
  effectiveStateRefs : List UUID
  evidenceRefs : List PyValue
  unknownReason : Option UnresolvedReason
  frameworkReferences : List FrameworkReference
  deriving DecidableEq

def findingNamespace : UUID := UUID.ofNat 0xf523ecac29ae5ed388f859a30521f8fe

/-- `canonical_scope_key` of a finding. -/
def findingScopeKey : Option ScopeRef → String
  | none => "unscoped::rule"
  | some scope => scope.type ++ "::" ++ scope.key

def findingIdentity (auditId : UUID) (ruleId : String) (scope : Option ScopeRef) : String :=
  auditId.str ++ ":" ++ ruleId ++ ":" ++ findingScopeKey scope

def deterministicFindingId (uuid5 : UUID → String → UUID) (auditId : UUID) (ruleId : String)
    (scope : Option ScopeRef) : Except Error UUID := do
  raiseIf (auditId.int == 0 || (Text.strip ruleId).isEmpty) (.python .valueError)
  return uuid5 findingNamespace (findingIdentity auditId ruleId scope)

def comparisonKey (ruleId : String) (scope : Option ScopeRef) : Except Error String := do
  raiseIf (Text.strip ruleId).isEmpty (.python .valueError)
  return ruleId ++ "::" ++ findingScopeKey scope

/-- `resolve_parameter`; an absent policy, key or value is `None`. -/
def resolveParameter (policy : Option OrganizationPolicyVersion) (name : String) :
    Option PyValue :=
  match policy with
  | none => none
  | some policy =>
    match PyValue.lookup name policy.parameters with
    | some .none => none
    | value => value

/-- `isinstance(value, (int, float)) and not isinstance(value, bool)`. -/
def isRealNumber (value : PyValue) : Bool := value.isNumber

/-- `value in items` by Python equality. -/
def memberOf (value : PyValue) (items : List PyValue) : Bool := items.any (PyValue.eq value)

def verifiedNistTitles : List (String × String) :=
  [("AC-11", "Device Lock"), ("AC-17", "Remote Access"), ("AU-8", "Time Stamps"),
    ("AU-12", "Audit Record Generation")]

def referenceIdentity (r : FrameworkReference) : String × String × String :=
  (r.framework, r.revision, r.controlId)

def referenceOk (r : FrameworkReference) : Bool :=
  !(Text.strip r.framework).isEmpty && !(Text.strip r.revision).isEmpty &&
    !(Text.strip r.controlId).isEmpty && !(Text.strip r.controlTitle).isEmpty &&
    (r.framework != "NIST SP 800-53" || r.revision != "Rev. 5" ||
      Dict.get? verifiedNistTitles r.controlId == some r.controlTitle)

/-- A lower bound that is present and not `None`. -/
def minimumOf (condition : RuleCondition) : Option PyValue :=
  match condition.minimumExclusive with
  | some .none => none
  | minimum => minimum

def conditionOk (condition : RuleCondition) : Bool :=
  condition.operator.supported &&
    ((minimumOf condition).all fun minimum =>
      condition.operator == .lessThanOrEqual && isRealNumber minimum) &&
    (condition.operator != .enumAtLeast ||
      match condition.expected, condition.order with
      | some expected, some order =>
        expected.isStr && memberOf expected order && order.all (·.isStr)
      | _, _ => false)

def ruleOk (rule : RuleDefinition) : Bool :=
  rule.requiredEffectiveStates.length == 1 && conditionOk rule.condition &&
    rule.frameworkReferences.all referenceOk &&
    decide ((rule.frameworkReferences.map referenceIdentity).Nodup)

/-- `RuleRegistry._validate` accepts the pack. -/
def rulePackOk (pack : RulePack) : Bool :=
  !(Text.strip pack.name).isEmpty && !(Text.strip pack.version).isEmpty && !pack.rules.isEmpty &&
    decide ((pack.rules.map (·.ruleId)).Nodup) &&
    pack.rules.all (fun rule => !(Text.strip rule.ruleId).isEmpty) &&
    pack.schemaVersion == "1.0.0" && !(Text.strip pack.profileVersionId).isEmpty &&
    pack.rules.all ruleOk

theorem rulePackOk_nodup {pack : RulePack} (h : rulePackOk pack = true) :
    (pack.rules.map (·.ruleId)).Nodup := by
  simp only [rulePackOk, Bool.and_eq_true, decide_eq_true_eq] at h
  exact h.1.1.1.1.2

end ConfigAuditor.Compliance.Model
