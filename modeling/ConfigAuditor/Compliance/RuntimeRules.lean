import ConfigAuditor.Compliance.Rules
import ConfigAuditor.Training.Model

/-!
# Tenant-scoped runtime rules

`app.compliance.runtime_rules`: an administrator publishes a declarative rule as a JSON
payload. The payload is compiled to a rule definition, stored as a new version, and the
latest stored version for a profile is the rule an assessment evaluates.
-/
namespace ConfigAuditor.Compliance.RuntimeRules

open Library SecurityModel ProfileResolution Model

abbrev Payload := List (String × PyValue)

/-- `payload.get(key)`: an absent key is `None`. -/
def get (payload : Payload) (key : String) : PyValue := (PyValue.lookup key payload).getD .none

def refused (subject : String) : Error := .runtimeRule ("Runtime rule " ++ subject ++ " is invalid")

def isIdChar (c : Char) : Bool :=
  Text.isAsciiAlnum c || c == '.' || c == '_' || c == ':' || c == '-'

/-- A full match of `_ID`. -/
def isId (text : String) : Bool :=
  match text.toList with
  | [] => false
  | c :: cs => Text.isAsciiLetter c && cs.length ≤ 254 && cs.all isIdChar

/-- `value.strip() if isinstance(value, str) else ""`. -/
def stripped (value : PyValue) : String :=
  match value with
  | .str text => Text.strip text
  | _ => ""

/-- `_text`. -/
def ruleText (value : PyValue) (label : String) (limit : Nat := 255) : Except Error String := do
  raiseIf ((stripped value).isEmpty || limit < (stripped value).length) (refused label)
  return stripped value

/-- `len(set(items)) != len(items)`. -/
def hasDuplicate : List PyValue → Bool
  | [] => false
  | value :: rest => memberOf value rest || hasDuplicate rest

/-- A set of the items can be built: lists and dictionaries have no hash. -/
def requireHashable (items : List PyValue) : Except Error Unit :=
  raiseIf (items.any (·.isContainer)) (.python .typeError)

/-- The text of every item, when each is a string that is not empty. -/
def namesOf (items : List PyValue) : Option (List String) :=
  items.mapM fun item => item.str?.filter fun s => !s.isEmpty

/-- The check on `profile_version_ids`. -/
def profileIds (value : PyValue) : Except Error (List String) :=
  match value with
  | .list items => do
    raiseIf (items.isEmpty || 32 < items.length) (refused "definition")
    requireHashable items
    raiseIf (hasDuplicate items) (refused "definition")
    match namesOf items with
    | some names => return names
    | none => .error (refused "definition")
  | _ => .error (refused "definition")

/-- `_OPS`. -/
def operators : List Operator :=
  [.equals, .lessThanOrEqual, .nonEmpty, .allMembersInParameterSet, .enumAtLeast]

def operatorOf (value : PyValue) : Except Error Operator :=
  match value with
  | .str text =>
    match operators.find? (·.text == text) with
    | some operator => .ok operator
    | none => .error (refused "definition")
  | value => do
    requireHashable [value]
    .error (refused "definition")

/-- `required_type`: the field types an operator is accepted for. -/
def requiredTypes : Operator → List TypedValueType
  | .equals => [.boolean, .integer]
  | .lessThanOrEqual => [.duration]
  | .nonEmpty => [.list]
  | .allMembersInParameterSet => [.list]
  | .enumAtLeast => [.enum]
  | .other _ => []

/-- `condition["expected"]`. -/
def expectedOf (operator : Operator) (value : PyValue) : Except Error (Option PyValue) :=
  match operator with
  | .equals => do
    raiseIf (!value.isBool && !value.isInt) (refused "expected value")
    return some value
  | .enumAtLeast => do
    raiseIf (!value.isStr) (refused "expected value")
    return some value
  | _ => .ok none

/-- `condition["parameter"]`, which keeps the white space of the payload. -/
def parameterOf (operator : Operator) (value : PyValue) : Except Error (Option String) :=
  if operator = .lessThanOrEqual ∨ operator = .allMembersInParameterSet then do
    let name ← ruleText value "policy parameter"
    raiseIf (!isId name) (refused "policy parameter")
    return value.str?
  else do
    raiseIf (value != .none) (refused "policy parameter")
    return none

/-- `condition["minimum_exclusive"]`. -/
def lowerBoundOf (operator : Operator) (value : PyValue) : Except Error (Option PyValue) :=
  if value = .none then .ok none
  else do
    raiseIf (operator != .lessThanOrEqual || !value.isNumber) (refused "lower bound")
    return some value

/-- `condition["order"]`. -/
def orderOf (operator : Operator) (expected : Option PyValue) (value : PyValue) :
    Except Error (Option (List PyValue)) :=
  if operator = .enumAtLeast then
    match value with
    | .list items => do
      raiseIf (items.length < 2) (refused "enum order")
      requireHashable items
      raiseIf (hasDuplicate items || (namesOf items).isNone ||
        !memberOf (expected.getD .none) items) (refused "enum order")
      return some items
    | _ => .error (refused "enum order")
  else do
    raiseIf (value != .none) (refused "enum order")
    return none

/-- The text of a key of a framework reference. -/
def referenceText (entries : Payload) (key : String) : Option String :=
  (PyValue.lookup key entries).bind (·.str?)

/-- A framework reference with its four required keys. -/
def referenceOf (value : PyValue) : Option FrameworkReference :=
  match value with
  | .dict entries => do
    let framework ← referenceText entries "framework"
    let revision ← referenceText entries "revision"
    let controlId ← referenceText entries "control_id"
    let controlTitle ← referenceText entries "control_title"
    return { framework, revision, controlId, controlTitle }
  | _ => none

/-- `payload.get("framework_references", [])`, each reference with its required keys. -/
def referencesOf (payload : Payload) : Except Error (List PyValue) :=
  match PyValue.lookup "framework_references" payload with
  | none => .ok []
  | some (.list items) => .ok items
  | some _ => .error (refused "framework provenance")

def severityText : FindingSeverity → String
  | .critical => "critical"
  | .high => "high"
  | .medium => "medium"
  | .low => "low"
  | .informational => "informational"

def severities : List FindingSeverity := [.critical, .high, .medium, .low, .informational]

/-- `FindingSeverity(_text(value))`. -/
def severityOf (value : PyValue) : Except Error FindingSeverity := do
  let text ← ruleText value "severity" 32
  match severities.find? (severityText · == text) with
  | some severity => return severity
  | none => .error (refused "severity")

/-- A rule with the parts of a runtime definition that no evaluation reads. -/
structure RuntimeRule where
  definition : RuleDefinition
  description : String
  profileVersionIds : List String
  deriving DecidableEq

/-- The pack `RuleRegistry._validate` is given. -/
def runtimePack (rule : RuntimeRule) : RulePack :=
  { rulePackVersionId := UUID.ofNat 0, name := "runtime", version := "1",
    profileVersionId := rule.profileVersionIds.headD "", rules := [rule.definition] }

/-- The condition of a payload: operator, expected value, parameter, bound and order. -/
def conditionOf (payload : Payload) (operator : Operator) : Except Error RuleCondition := do
  let expected ← expectedOf operator (get payload "expected")
  let parameter ← parameterOf operator (get payload "required_policy_parameter")
  let minimumExclusive ← lowerBoundOf operator (get payload "minimum_exclusive")
  let order ← orderOf operator expected (get payload "order")
  return { operator, expected, parameter, minimumExclusive, order }

/-- `_definition`. -/
def definition (payload : Payload) : Except Error RuntimeRule := do
  let ruleId ← ruleText (get payload "rule_id") "ID"
  let fieldId ← ruleText (get payload "canonical_field") "canonical field"
  raiseIf (!isId ruleId) (refused "definition")
  let profileVersionIds ← profileIds (get payload "profile_version_ids")
  match fieldRegistry fieldId with
  | none => .error (refused "definition")
  | some field => do
    let operator ← operatorOf (get payload "operator")
    raiseIf (!field.expectedTypes.all ((requiredTypes operator).contains ·))
      (.runtimeRule "Runtime rule operator is incompatible with its canonical field")
    let condition ← conditionOf payload operator
    let references ← referencesOf payload
    let severity ← severityOf (get payload "severity")
    let title ← ruleText (get payload "title") "title"
    let description ← ruleText
      ((PyValue.lookup "description" payload).getD (get payload "title")) "description" 2048
    let securityDomain ← ruleText (get payload "security_domain") "security domain" 128
    match references.mapM referenceOf with
    | none => .error (refused "definition")
    | some frameworkReferences => do
      let rule : RuntimeRule :=
        { definition :=
            { ruleId, title, securityDomain, severity, requiredEffectiveStates := [fieldId],
              condition, requiredPolicyParameters := condition.parameter.toList,
              frameworkReferences },
          description, profileVersionIds }
      raiseIf (!rulePackOk (runtimePack rule)) (refused "definition")
      return rule

/-- A row of `RuntimeRuleVersion`; its status is always `published`. -/
structure RuntimeRuleVersion where
  organizationId : UUID
  ruleId : String
  version : Nat
  profileVersionIds : List String
  canonicalField : String
  condition : RuleCondition
  requiredPolicyParameters : List String
  title : String
  securityDomain : String
  severity : FindingSeverity
  frameworkReferences : List FrameworkReference
  contentDigest : String
  deriving DecidableEq

/-- What validation looks up: profiles and the mappings of the organization. -/
structure Environment where
  profileFor : UUID → String → Except Error (Option ProfileManifest)
  training : Training.Database

/-- `_mapped`. -/
def mapped (env : Environment) (organizationId : UUID) (profileVersionId fieldId : String) : Bool :=
  env.training.mappings.any fun mapping =>
    mapping.organizationId == organizationId && mapping.status == .published &&
      mapping.definition.targetFieldId == fieldId &&
      mapping.definition.profileApplicability.profileVersionIds.contains profileVersionId

/-- One turn of the loop of `validate_runtime_rule`. -/
def checkProfile (env : Environment) (organizationId : UUID) (fieldId profileVersionId : String) :
    Except Error Unit := do
  let unavailable : Error := .runtimeRule "Runtime rule references an unavailable profile"
  let unsupported : Error := .runtimeRule "Runtime rule canonical field is unsupported"
  match env.profileFor organizationId profileVersionId with
  | .error (.runtimeProfile _) => .error unavailable
  | .error e => .error e
  | .ok none => .error unavailable
  | .ok (some profile) =>
    if (Rules.rulePackByProfile profileVersionId).isSome then
      raiseIf (!profile.canonicalFields.contains fieldId) unsupported
    else raiseIf (!mapped env organizationId profileVersionId fieldId) unsupported

/-- `validate_runtime_rule`. -/
def validateRuntimeRule (env : Environment) (organizationId : UUID) (payload : Payload) :
    Except Error RuntimeRule := do
  let rule ← definition payload
  rule.profileVersionIds.forM
    (checkProfile env organizationId (rule.definition.requiredEffectiveStates.headD ""))
  return rule

/-- The next version number of a rule of the organization. -/
def nextVersion (rows : List RuntimeRuleVersion) (organizationId : UUID) (ruleId : String) : Nat :=
  ((rows.filter fun row => row.organizationId == organizationId && row.ruleId == ruleId).map
    (·.version)).foldl max 0 + 1

/-- The row `publish_runtime_rule` adds. -/
def versionRow (organizationId : UUID) (version : Nat) (rule : RuntimeRule)
    (contentDigest : String) : RuntimeRuleVersion :=
  { organizationId, ruleId := rule.definition.ruleId, version,
    profileVersionIds := rule.profileVersionIds,
    canonicalField := rule.definition.requiredEffectiveStates.headD "",
    condition := rule.definition.condition,
    requiredPolicyParameters := rule.definition.requiredPolicyParameters,
    title := rule.definition.title, securityDomain := rule.definition.securityDomain,
    severity := rule.definition.severity,
    frameworkReferences := rule.definition.frameworkReferences, contentDigest }

/-- `publish_runtime_rule`. -/
def publishRuntimeRule (sha256 : String → String) (env : Environment)
    (rows : List RuntimeRuleVersion) (organizationId : UUID) (payload : Payload) :
    Except Error (List RuntimeRuleVersion) := do
  let rule ← validateRuntimeRule env organizationId payload
  let version := nextVersion rows organizationId rule.definition.ruleId
  let content ← (PyValue.dict payload).dumps
  return rows ++ [versionRow organizationId version rule (sha256 content)]

/-- The definition a row stands for. -/
def RuntimeRuleVersion.rule (row : RuntimeRuleVersion) : RuleDefinition :=
  { ruleId := row.ruleId, title := row.title, securityDomain := row.securityDomain,
    severity := row.severity, requiredEffectiveStates := [row.canonicalField],
    condition := row.condition, requiredPolicyParameters := row.requiredPolicyParameters,
    frameworkReferences := row.frameworkReferences }

/-- The stored versions of a rule for a profile, oldest first. -/
def versionsFor (rows : List RuntimeRuleVersion) (organizationId : UUID)
    (ruleId profileVersionId : String) : List RuntimeRuleVersion :=
  (sortedBy (·.version) (rows.filter fun row =>
    row.organizationId == organizationId && row.ruleId == ruleId)).filter fun row =>
      row.profileVersionIds.contains profileVersionId

/-- `runtime_rule_for`: the latest version, else the technical baseline. -/
def runtimeRuleFor (rows : List RuntimeRuleVersion) (organizationId : UUID)
    (ruleId profileVersionId : String) : Except Error RuleDefinition :=
  match (versionsFor rows organizationId ruleId profileVersionId).getLast? with
  | some row => .ok row.rule
  | none =>
    match (((Rules.rulePackByProfile profileVersionId).map (·.rules)).getD []).find?
        (·.ruleId == ruleId) with
    | some rule => .ok rule
    | none => .error (.runtimeRule "Runtime rule evaluator is unavailable")

/-- The stored versions after some publications, whoever made them. -/
inductive Published (sha256 : String → String) : List RuntimeRuleVersion → Prop
  | empty : Published sha256 []
  | publish {env : Environment} {rows rows' : List RuntimeRuleVersion} {organizationId : UUID}
      {payload : Payload} (earlier : Published sha256 rows)
      (published : publishRuntimeRule sha256 env rows organizationId payload = .ok rows') :
      Published sha256 rows'

/-- A publication adds the row of an accepted payload. -/
theorem publishRuntimeRule_eq_ok {sha256 : String → String} {env : Environment}
    {rows rows' : List RuntimeRuleVersion} {organizationId : UUID} {payload : Payload}
    (h : publishRuntimeRule sha256 env rows organizationId payload = .ok rows') :
    ∃ rule digest, definition payload = .ok rule ∧
      rows' = rows ++ [versionRow organizationId
        (nextVersion rows organizationId rule.definition.ruleId) rule digest] := by
  simp only [publishRuntimeRule, validateRuntimeRule, except_bind_eq_ok, except_pure_eq_ok] at h
  obtain ⟨rule, ⟨rule', hdefinition, _, -, rfl⟩, content, -, rfl⟩ := h
  exact ⟨rule', sha256 content, hdefinition, rfl⟩

theorem published_mem {sha256 : String → String} {rows : List RuntimeRuleVersion}
    (h : Published sha256 rows) {row : RuntimeRuleVersion} (hrow : row ∈ rows) :
    ∃ payload rule organizationId version digest, definition payload = .ok rule ∧
      row = versionRow organizationId version rule digest := by
  induction h with
  | empty => cases hrow
  | publish earlier published ih =>
    obtain ⟨rule, digest, hdefinition, rfl⟩ := publishRuntimeRule_eq_ok published
    rcases List.mem_append.mp hrow with hold | hnew
    · exact ih hold
    · exact ⟨_, rule, _, _, digest, hdefinition, List.mem_singleton.mp hnew⟩

theorem runtimeRuleFor_cases {rows : List RuntimeRuleVersion} {organizationId : UUID}
    {ruleId profileVersionId : String} {rule : RuleDefinition}
    (h : runtimeRuleFor rows organizationId ruleId profileVersionId = .ok rule) :
    (∃ row ∈ rows, row.rule = rule) ∨ rule ∈ Rules.rules := by
  unfold runtimeRuleFor at h
  split at h
  · rename_i row hlast
    have hmem := List.mem_of_getLast? hlast
    simp only [versionsFor, List.mem_filter, mem_sortedBy] at hmem
    exact .inl ⟨row, hmem.1.1, by simpa using h⟩
  · split at h
    · rename_i found hfind
      obtain rfl : found = rule := by simpa using h
      exact .inr (Rules.mem_rules_of_active (List.mem_of_find?_eq_some hfind))
    · cases h

end ConfigAuditor.Compliance.RuntimeRules
