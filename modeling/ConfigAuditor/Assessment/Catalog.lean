import ConfigAuditor.Assessment.Model

/-!
# Tenant-published catalogs

`parse_runtime_catalog`: the JSON schema of an assessment pack, its profiles, and for each
automatic obligation the evaluator rule and the policy it is evaluated with.
-/
namespace ConfigAuditor.Assessment.Catalog

open Library SecurityModel ProfileResolution Compliance.Model Compliance.RuntimeRules
  Assessment.Model

def importError (message : String) : Error := .catalogImport message

def invalid (subject : String) : Error := importError ("Runtime catalog " ++ subject ++ " is invalid")

/-- An uploaded file: its size, its digest, and the JSON value of its text if it has one. -/
structure CatalogContent where
  size : Nat
  sha256 : String
  json : Option PyValue

/-- One obligation of a parsed catalog. -/
structure RuntimeObligation where
  obligationKey : String
  controlId : String
  title : String
  severity : String
  scope : String
  assessmentMethod : AssessmentMethod
  implementationStatus : ImplementationStatus
  evaluatorRuleId : Option String
  policyParameters : Payload
  profileVersionIds : List String
  deriving DecidableEq

structure RuntimeCatalog where
  packKey : String
  family : String
  name : String
  version : Int
  sourceVersion : String
  sourceUrl : String
  sourceDigest : String
  profileVersionIds : List String
  obligations : List RuntimeObligation
  deriving DecidableEq

/-- A full match of `_IDENTIFIER`. -/
def isIdentifier (text : String) : Bool :=
  match text.toList with
  | [] => false
  | c :: cs => Text.isAsciiAlnum c && cs.length ≤ 254 && cs.all isIdChar

/-- `_runtime_text`. -/
def runtimeText (value : PyValue) (label : String) (limit : Nat) : Except Error String := do
  raiseIf ((stripped value).isEmpty || limit < (stripped value).length) (invalid label)
  return stripped value

def maxExternalCatalogBytes : Nat := 10 * 1024 * 1024

def maxExternalControls : Nat := 20000

section Parse

variable (profileLookup : String → Except Error (Option ProfileManifest))
  (ruleLookup : String → String → Except Error RuleDefinition)

def unsupportedProfile : Error :=
  importError "Runtime catalog references an unsupported profile"

def checkProfile (profileVersionId : String) : Except Error Unit :=
  match profileLookup profileVersionId with
  | .ok (some _) => .ok ()
  | .ok none => .error unsupportedProfile
  | .error (.runtimeProfile _) => .error unsupportedProfile
  | .error e => .error e

/-- `_runtime_profiles`. -/
def runtimeProfiles (value : PyValue) (allowed : Option (List String)) :
    Except Error (List String) :=
  match value with
  | .list items => do
    raiseIf (items.isEmpty || 32 < items.length) (invalid "profile applicability")
    let names ← items.mapM fun item => runtimeText item "profile" 255
    let profiles := names.eraseDups
    profiles.forM (checkProfile profileLookup)
    raiseIf (!(allowed.all fun allowed => profiles.all (allowed.contains ·)))
      (importError "Runtime obligation applicability exceeds the pack profiles")
    return profiles
  | _ => .error (invalid "profile applicability")

def optionEq (a b : Option PyValue) : Bool :=
  match a, b with
  | none, none => true
  | some x, some y => x.eq y
  | _, _ => false

/-- `condition == other`. -/
def sameCondition (a b : RuleCondition) : Bool :=
  a.operator == b.operator && a.parameter == b.parameter && optionEq a.expected b.expected &&
    optionEq a.minimumExclusive b.minimumExclusive &&
      optionEq (a.order.map .list) (b.order.map .list)

def sameEvaluator (a b : RuleDefinition) : Bool :=
  a.requiredEffectiveStates == b.requiredEffectiveStates && sameCondition a.condition b.condition &&
    a.requiredPolicyParameters == b.requiredPolicyParameters

def lookupRule (ruleId profileVersionId : String) : Except Error RuleDefinition :=
  match ruleLookup ruleId profileVersionId with
  | .error (.runtimeRule _) =>
    .error (importError "Runtime obligation evaluator is unavailable for an applicable profile")
  | result => result

/-- `_runtime_rule`. -/
def runtimeRule (ruleId : String) (profiles : List String) : Except Error RuleDefinition := do
  let rules ← profiles.mapM (lookupRule ruleLookup ruleId)
  match rules with
  | [] => .error (.python .indexError)
  | first :: rest => do
    raiseIf (!rest.all (sameEvaluator · first))
      (importError "Runtime obligation evaluator differs between applicable profiles")
    return first

def policyError (subject : String) : Error :=
  importError ("Runtime obligation " ++ subject ++ " invalid")

/-- `isfinite(value)`; an integer too large for a float raises. -/
def isFinite (value : PyValue) : Except Error Bool :=
  match value with
  | .float x => .ok x.isFinite
  | .int i => if (PyFloat.ofInt? i).isSome then .ok true else .error (.python .overflowError)
  | _ => .ok true

/-- `parameter <= 0`. -/
def notPositive (value : PyValue) : Bool := Compliance.Evaluator.numberLe value (.int 0)

/-- One turn of the loop over the required parameters. -/
def checkParameter (policy : Payload) (key : String) : Except Error Unit :=
  match get policy key with
  | .list items => do
    raiseIf (key == "maximum_admin_idle_timeout_seconds") (policyError "timeout parameter is")
    raiseIf (namesOf items).isNone (policyError "allow-list parameter is")
  | parameter => do
    raiseIf (!parameter.isNumber) (policyError "evaluator parameter is")
    let finite ← isFinite parameter
    raiseIf (!finite) (policyError "evaluator parameter is")
    raiseIf (key == "maximum_admin_idle_timeout_seconds" && notPositive parameter)
      (policyError "timeout parameter is")

/-- `type(a) is type(b)`. -/
def sameType (a b : PyValue) : Bool :=
  match a, b with
  | .none, .none => true
  | .bool _, .bool _ => true
  | .int _, .int _ => true
  | .float _, .float _ => true
  | .str _, .str _ => true
  | .list _, .list _ => true
  | .dict _, .dict _ => true
  | _, _ => false

/-- The check on an expected value the policy gives. -/
def checkExpected (rule : RuleDefinition) (policy : Payload) : Except Error Unit :=
  match PyValue.lookup "expected" policy with
  | none => .ok ()
  | some expected =>
    let original := rule.condition.expected.getD .none
    let finite := match expected with
      | .float x => x.isFinite
      | _ => true
    raiseIf (original == .none || !sameType expected original || !finite)
      (policyError "expected value is")

/-- The entries of a given policy; `None` is an empty one. -/
def suppliedPolicy (value : PyValue) : Except Error Payload :=
  match value with
  | .none => .ok []
  | .dict entries => .ok entries
  | _ => .error (policyError "policy parameters are")

/-- `_runtime_policy`. -/
def runtimePolicy (value : PyValue) (rule : RuleDefinition) : Except Error Payload := do
  let supplied ← suppliedPolicy value
  raiseIf (supplied.any (·.1.isEmpty)) (policyError "policy parameters are")
  let required : PyValue := .list (rule.requiredEffectiveStates.map .str)
  raiseIf (!(((PyValue.lookup "required_canonical_fields" supplied).getD required).eq required))
    (policyError "canonical evidence requirements are")
  let policy := supplied.filter (·.1 != "required_canonical_fields") ++
    [("required_canonical_fields", required)]
  let permitted := rule.requiredPolicyParameters ++ ["expected", "required_canonical_fields"]
  raiseIf (!(policy.all fun entry => permitted.contains entry.1) ||
    rule.requiredPolicyParameters.any fun key => (PyValue.lookup key policy).isNone)
    (importError "Runtime obligation policy parameters do not match its evaluator")
  rule.requiredPolicyParameters.forM (checkParameter policy)
  checkExpected rule policy
  return policy

def methodOf (text : String) : Option AssessmentMethod :=
  if text = "automatic" then some .automatic else if text = "manual" then some .manual else none

def implementationOf (text : String) : Option ImplementationStatus :=
  if text = "implemented" then some .implemented
  else if text = "manual" then some .manual
  else if text = "unimplemented" then some .unimplemented
  else none

/-- The evaluator binding and the policy of an obligation. -/
def evaluatorOf (item : Payload) (method : AssessmentMethod)
    (implementation : ImplementationStatus) (profiles : List String) :
    Except Error (Option String × Payload) := do
  if method = .automatic ∧ implementation = .implemented then
    let evaluator ← runtimeText (get item "evaluator_rule_id") "evaluator rule ID" 255
    let rule ← runtimeRule ruleLookup evaluator profiles
    let policy ← runtimePolicy (get item "policy_parameters") rule
    return (some evaluator, policy)
  else do
    raiseIf (get item "evaluator_rule_id" != .none || method != .manual ||
      implementation == .implemented)
      (importError "Manual or unimplemented obligations cannot define automatic evaluators")
    raiseIf (get item "policy_parameters" != .none && get item "policy_parameters" != .dict [])
      (importError "Manual or unimplemented obligations cannot define evaluator policy")
    return (none, [])

/-- `item.get(key, default)`. -/
def getOr (payload : Payload) (key : String) (otherwise : PyValue) : PyValue :=
  (PyValue.lookup key payload).getD otherwise

/-- One turn of the loop over the obligations, given those already read. -/
def parseObligation (packProfiles : List String) (seen : List RuntimeObligation)
    (value : PyValue) : Except Error RuntimeObligation :=
  match value with
  | .dict item => do
    let obligationKey ← runtimeText (get item "obligation_key") "obligation key" 255
    let controlId ← runtimeText (get item "control_id") "control ID" 255
    raiseIf (!isIdentifier obligationKey || !isIdentifier controlId ||
      seen.any (·.obligationKey == obligationKey) || seen.any (·.controlId == controlId))
      (importError "Runtime obligation or control ID is invalid or duplicated")
    let method ← runtimeText (get item "assessment_method") "assessment method" 16
    let implementation ← runtimeText (get item "implementation_status") "implementation status" 16
    match methodOf (Text.lower method), implementationOf (Text.lower implementation) with
    | some assessmentMethod, some implementationStatus => do
      let profileVersionIds ← runtimeProfiles profileLookup
        (getOr item "profile_version_ids" (.list (packProfiles.map .str))) (some packProfiles)
      let (evaluatorRuleId, policyParameters) ←
        evaluatorOf ruleLookup item assessmentMethod implementationStatus profileVersionIds
      let title ← runtimeText (get item "title") "title" 255
      let severity ← runtimeText (getOr item "severity" (.str "not_assigned")) "severity" 32
      let scope ← runtimeText (getOr item "scope" (.str "organization-defined")) "scope" 512
      return {
        obligationKey, controlId, title, severity, scope, assessmentMethod,
        implementationStatus, evaluatorRuleId, policyParameters, profileVersionIds }
    | _, _ => .error (importError "Runtime obligation assessment status is invalid")
  | _ => .error (importError "Runtime obligation is invalid")

def parseObligations (packProfiles : List String) (values : List PyValue) :
    Except Error (List RuntimeObligation) :=
  values.foldlM (fun seen value => do
    let obligation ← parseObligation profileLookup ruleLookup packProfiles seen value
    return seen ++ [obligation]) []

/-- `version` is a positive integer. -/
def versionOf (value : PyValue) : Option Int :=
  match value with
  | .int i => if 1 ≤ i then some i else none
  | _ => none

/-- `parse_runtime_catalog`. -/
def parseRuntimeCatalog (content : CatalogContent) : Except Error RuntimeCatalog := do
  raiseIf (content.size == 0 || maxExternalCatalogBytes < content.size) (invalid "file size")
  match content.json with
  | none => .error (importError "Runtime catalog must be valid UTF-8 JSON")
  | some (.dict payload) => do
    raiseIf (get payload "schema_version" != .str "1.0.0")
      (importError "Runtime catalog schema_version must be 1.0.0")
    let packKey ← runtimeText (get payload "pack_key") "pack key" 255
    raiseIf (!isIdentifier packKey) (invalid "pack key")
    let family ← runtimeText (get payload "family") "family" 128
    let name ← runtimeText (get payload "name") "name" 255
    let sourceVersion ← runtimeText (get payload "source_version") "source version" 128
    let sourceUrl ← runtimeText (get payload "source_url") "source URL" 2048
    match versionOf (get payload "version") with
    | none => .error (invalid "identity or provenance")
    | some version => do
      raiseIf (!Text.startsWith sourceUrl "https://") (invalid "identity or provenance")
      let profileVersionIds ← runtimeProfiles profileLookup (get payload "profile_version_ids") none
      match get payload "obligations" with
      | .list values => do
        raiseIf (values.isEmpty || maxExternalControls < values.length)
          (importError "Runtime catalog must contain bounded obligations")
        let obligations ← parseObligations profileLookup ruleLookup profileVersionIds values
        return {
          packKey, family, name, version, sourceVersion, sourceUrl,
          sourceDigest := content.sha256, profileVersionIds, obligations }
      | _ => .error (importError "Runtime catalog must contain bounded obligations")
  | some _ => .error (importError "Runtime catalog schema_version must be 1.0.0")

end Parse

end ConfigAuditor.Assessment.Catalog
