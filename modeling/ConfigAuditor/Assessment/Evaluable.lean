import ConfigAuditor.Assessment.Catalog
import ConfigAuditor.Compliance.RuntimeTyping

/-!
# Automatic obligations and the rules they are accepted against

A catalog is accepted with a policy for each automatic obligation. Where the obligation's
rule decides a value, the obligation decides it exactly when its policy fits the operator.
-/
namespace ConfigAuditor.Assessment.Evaluable

open Library SecurityModel ProfileResolution EffectiveState.Resolved Compliance.Model
  Compliance.Evaluator Compliance.RuntimeRules Compliance.RuntimeTyping Assessment.Model
  Assessment.Catalog

/-- A rule with a policy parameter names it among its required parameters. -/
def ParameterNamed (rule : RuleDefinition) : Prop :=
  rule.condition.operator = .lessThanOrEqual ∨
      rule.condition.operator = .allMembersInParameterSet →
    ∃ name, rule.condition.parameter = some name ∧ name.isEmpty = false ∧
      name ∈ rule.requiredPolicyParameters

theorem rules_parameterNamed : ∀ rule ∈ Compliance.Rules.rules,
    rule.condition.operator = .lessThanOrEqual ∨
        rule.condition.operator = .allMembersInParameterSet →
      (rule.condition.parameter.any fun name =>
        !name.isEmpty && rule.requiredPolicyParameters.contains name) = true := by
  decide +kernel

theorem stripped_empty {value : PyValue} (h : (stripped value).isEmpty = false) :
    ∃ text, value = .str text ∧ text.isEmpty = false := by
  cases value with
  | str text =>
    refine ⟨text, rfl, ?_⟩
    by_contra hempty
    rw [Bool.not_eq_false, String.isEmpty_iff] at hempty
    subst hempty
    exact absurd h (by decide)
  | _ => simp [stripped] at h

theorem parameterNamed_of_definition {payload : Payload} {rule : RuntimeRule}
    (h : definition payload = .ok rule) : ParameterNamed rule.definition := by
  obtain ⟨field, operator, haccepted⟩ := accepted_of_definition h
  have hparameter := haccepted.condition.parameter
  intro hop
  rw [haccepted.condition.kind] at hop
  rw [parameterOf, if_pos hop] at hparameter
  simp only [except_bind_eq_ok, except_pure_eq_ok, raiseIf_eq_ok] at hparameter
  obtain ⟨name, htext, _, -, hvalue⟩ := hparameter
  obtain ⟨hbound, -⟩ := ruleText_eq_ok.mp htext
  rw [Bool.or_eq_false_iff] at hbound
  obtain ⟨text, hstr, hempty⟩ := stripped_empty hbound.1
  rw [hstr] at hvalue
  refine ⟨text, hvalue.symm, hempty, ?_⟩
  rw [haccepted.parameters, ← hvalue]
  simp [PyValue.str?]

theorem parameterNamed_of_lookup {sha256 : String → String} {rows : List RuntimeRuleVersion}
    (hrows : Published sha256 rows) {organizationId : UUID} {ruleId profileVersionId : String}
    {rule : RuleDefinition}
    (h : runtimeRuleFor rows organizationId ruleId profileVersionId = .ok rule) :
    ParameterNamed rule := by
  rcases runtimeRuleFor_cases h with ⟨row, hrow, rfl⟩ | hsealed
  · obtain ⟨payload, rule, _, _, _, hdefinition, rfl⟩ := published_mem hrows hrow
    exact parameterNamed_of_definition hdefinition
  · intro hop
    have hnamed := rules_parameterNamed rule hsealed hop
    rw [Option.any_eq_true] at hnamed
    obtain ⟨name, hname, hparts⟩ := hnamed
    rw [Bool.and_eq_true, Bool.not_eq_true', List.contains_iff_mem] at hparts
    exact ⟨name, hname, hparts.1, hparts.2⟩

section Parse

variable {profileLookup : String → Except Error (Option ProfileManifest)}
  {ruleLookup : String → String → Except Error RuleDefinition}

/-- The obligations already read stay, and each new one was parsed. -/
theorem parseObligations_mem {packProfiles : List String} {values : List PyValue}
    {obligations : List RuntimeObligation}
    (h : parseObligations profileLookup ruleLookup packProfiles values = .ok obligations)
    {obligation : RuntimeObligation} (hmem : obligation ∈ obligations) :
    ∃ seen value, parseObligation profileLookup ruleLookup packProfiles seen value =
      .ok obligation := by
  have hfold : ∀ (values : List PyValue) (seen : List RuntimeObligation),
      values.foldlM (fun seen value => do
        let obligation ← parseObligation profileLookup ruleLookup packProfiles seen value
        return seen ++ [obligation]) seen = .ok obligations →
      (∀ o ∈ seen, ∃ seen' value,
        parseObligation profileLookup ruleLookup packProfiles seen' value = .ok o) →
      ∃ seen' value, parseObligation profileLookup ruleLookup packProfiles seen' value =
        .ok obligation := by
    intro values
    induction values with
    | nil =>
      intro seen hrun hseen
      simp only [List.foldlM_nil, except_pure_eq_ok] at hrun
      exact hseen obligation (hrun ▸ hmem)
    | cons value rest ih =>
      intro seen hrun hseen
      simp only [List.foldlM_cons, except_bind_eq_ok, except_pure_eq_ok] at hrun
      obtain ⟨_, ⟨parsed, hparsed, rfl⟩, hrest⟩ := hrun
      refine ih _ hrest fun o ho => ?_
      rcases List.mem_append.mp ho with hold | hnew
      · exact hseen o hold
      · exact ⟨seen, value, List.mem_singleton.mp hnew ▸ hparsed⟩
  exact hfold values [] h fun o ho => absurd ho List.not_mem_nil

theorem parseRuntimeCatalog_obligation {content : CatalogContent} {catalog : RuntimeCatalog}
    (h : parseRuntimeCatalog profileLookup ruleLookup content = .ok catalog)
    {obligation : RuntimeObligation} (hmem : obligation ∈ catalog.obligations) :
    ∃ packProfiles seen value,
      parseObligation profileLookup ruleLookup packProfiles seen value = .ok obligation := by
  simp only [parseRuntimeCatalog, except_bind_eq_ok] at h
  obtain ⟨_, -, h⟩ := h
  split at h
  · cases h
  · simp only [except_bind_eq_ok] at h
    obtain ⟨_, -, _, -, _, -, _, -, _, -, _, -, _, -, h⟩ := h
    split at h
    · cases h
    · simp only [except_bind_eq_ok] at h
      obtain ⟨_, -, profiles, -, h⟩ := h
      split at h
      · simp only [except_bind_eq_ok, except_pure_eq_ok] at h
        obtain ⟨_, -, obligations, hobligations, rfl⟩ := h
        obtain ⟨seen, value, hparsed⟩ := parseObligations_mem hobligations hmem
        exact ⟨profiles, seen, value, hparsed⟩
      · cases h
  · cases h

/-- An automatic obligation has a rule for its profiles, and a policy accepted for the rule. -/
theorem parseObligation_automatic {packProfiles : List String} {seen : List RuntimeObligation}
    {value : PyValue} {obligation : RuntimeObligation}
    (h : parseObligation profileLookup ruleLookup packProfiles seen value = .ok obligation)
    (hmethod : obligation.assessmentMethod = .automatic)
    (himplemented : obligation.implementationStatus = .implemented) :
    ∃ evaluator first supplied, obligation.evaluatorRuleId = some evaluator ∧
      runtimeRule ruleLookup evaluator obligation.profileVersionIds = .ok first ∧
      runtimePolicy supplied first = .ok obligation.policyParameters := by
  unfold parseObligation at h
  split at h
  · rename_i item
    simp only [except_bind_eq_ok] at h
    obtain ⟨key, -, control, -, _, -, method, -, implementation, -, h⟩ := h
    split at h
    · simp only [except_bind_eq_ok, except_pure_eq_ok] at h
      obtain ⟨profiles, -, ⟨evaluatorRuleId, policy⟩, hevaluator, title, -, severity, -, scope, -,
        rfl⟩ := h
      simp only at hmethod himplemented ⊢
      rw [evaluatorOf, if_pos ⟨hmethod, himplemented⟩] at hevaluator
      simp only [except_bind_eq_ok, except_pure_eq_ok, Prod.mk.injEq] at hevaluator
      obtain ⟨evaluator, -, first, hfirst, policy', hpolicy, rfl, rfl⟩ := hevaluator
      exact ⟨evaluator, first, _, rfl, hfirst, hpolicy⟩
    · cases h
  · cases h

/-- The rule of each profile has the operator, the parameter and the requirements of the
first one. -/
theorem runtimeRule_same {ruleId : String} {profiles : List String} {first : RuleDefinition}
    (h : runtimeRule ruleLookup ruleId profiles = .ok first) {profile : String}
    (hprofile : profile ∈ profiles) {rule : RuleDefinition}
    (hrule : ruleLookup ruleId profile = .ok rule) :
    rule.condition.operator = first.condition.operator ∧
      rule.condition.parameter = first.condition.parameter ∧
      rule.requiredPolicyParameters = first.requiredPolicyParameters := by
  simp only [runtimeRule, except_bind_eq_ok] at h
  obtain ⟨rules, hrules, h⟩ := h
  obtain ⟨found, hfound, hlookup⟩ := mapM_exists_output hrules hprofile
  obtain rfl : found = rule := by
    rw [lookupRule, hrule] at hlookup
    simpa using hlookup.symm
  split at h
  · cases hfound
  · rename_i head rest
    simp only [except_bind_eq_ok, raiseIf_eq_ok, except_pure_eq_ok, Bool.not_eq_false',
      List.all_eq_true] at h
    obtain ⟨_, hsame, rfl⟩ := h
    rcases List.mem_cons.mp hfound with rfl | hrest
    · exact ⟨rfl, rfl, rfl⟩
    · have heq := hsame found hrest
      simp only [sameEvaluator, sameCondition, Bool.and_eq_true, beq_iff_eq] at heq
      exact ⟨heq.1.2.1.1.1.1, heq.1.2.1.1.1.2, heq.2⟩

theorem isStr_of_namesOf {items : List PyValue} (h : (namesOf items).isNone = false) :
    ∀ item ∈ items, item.isStr = true := by
  induction items with
  | nil => simp
  | cons item rest ih =>
    unfold namesOf at h ih
    rw [List.mapM_cons] at h
    intro other hother
    cases item with
    | str text =>
      rcases List.mem_cons.mp hother with rfl | hrest
      · rfl
      · refine ih ?_ other hrest
        by_contra hnone
        rw [Bool.not_eq_false, Option.isNone_iff_eq_none] at hnone
        simp [hnone] at h
    | _ => simp [PyValue.str?] at h

/-- A required parameter of an accepted policy is a number or a list of texts. -/
theorem runtimePolicy_parameter {supplied : PyValue} {rule : RuleDefinition} {policy : Payload}
    (h : runtimePolicy supplied rule = .ok policy) {name : String}
    (hname : name ∈ rule.requiredPolicyParameters) :
    (∃ parameter, PyValue.lookup name policy = some parameter ∧ parameter.isNumber = true) ∨
      ∃ items, PyValue.lookup name policy = some (.list items) ∧
        ∀ item ∈ items, item.isStr = true := by
  simp only [runtimePolicy, except_bind_eq_ok, except_pure_eq_ok] at h
  obtain ⟨entries, -, _, -, _, -, _, hpresent, _, hchecked, _, -, hentries⟩ := h
  rw [hentries, raiseIf_eq_ok, Bool.or_eq_false_iff, List.any_eq_false] at hpresent
  rw [hentries] at hchecked
  have hsome : PyValue.lookup name policy ≠ none := by simpa using hpresent.2 name hname
  obtain ⟨value, hvalue⟩ := Option.ne_none_iff_exists'.mp hsome
  have hcheck := forM_eq_ok.mp hchecked name hname
  rw [checkParameter, Compliance.RuntimeRules.get, hvalue, Option.getD_some] at hcheck
  cases value with
  | list items =>
    simp only [except_bind_eq_ok, raiseIf_eq_ok] at hcheck
    obtain ⟨_, -, hnames⟩ := hcheck
    exact .inr ⟨items, hvalue, isStr_of_namesOf hnames⟩
  | _ =>
    simp only [except_bind_eq_ok, raiseIf_eq_ok, Bool.not_eq_false'] at hcheck
    obtain ⟨_, hnumber, -⟩ := hcheck
    exact .inl ⟨_, hvalue, hnumber⟩

end Parse

/-- The policy fits the operator: a maximum is a number, an allow-list is a list, and an
expected value is one of the ranked ones. -/
def PolicyFits (condition : RuleCondition) (policy : Payload) : Prop :=
  match condition.operator with
  | .lessThanOrEqual => ∀ name, condition.parameter = some name →
      ∃ parameter, PyValue.lookup name policy = some parameter ∧ parameter.isNumber = true
  | .allMembersInParameterSet => ∀ name, condition.parameter = some name →
      ∃ items, PyValue.lookup name policy = some (.list items)
  | .enumAtLeast => ∀ expected, PyValue.lookup "expected" policy = some expected →
      memberOf expected (condition.order.getD []) = true
  | _ => True

/-- The evaluation of an obligation on a value ends with PASS or FAIL. -/
def ObligationDecides (rule : RuleDefinition) (policy : Payload) (value : TypedValue) : Prop :=
  evaluateObligation rule policy (some value) = .ok .pass ∨
    evaluateObligation rule policy (some value) = .ok .fail

theorem obligationDecides_iff {rule : RuleDefinition} {policy : Payload} {value : TypedValue} :
    ObligationDecides rule policy value ↔
      Evaluable (overriddenCondition rule.condition policy) value
        (obligationParameter rule.condition policy) :=
  @decides_iff (overriddenRule rule policy) _ _

/-- A value the rule decides is decided by the obligation when the policy fits, and only then. -/
theorem obligation_decides_iff {rule : RuleDefinition} {policy : Payload} {value : TypedValue}
    (hnamed : ParameterNamed rule)
    (hpolicy : ∀ name ∈ rule.requiredPolicyParameters,
      (∃ parameter, PyValue.lookup name policy = some parameter ∧ parameter.isNumber = true) ∨
        ∃ items, PyValue.lookup name policy = some (.list items) ∧
          ∀ item ∈ items, item.isStr = true)
    (hrule : Decides rule value (anyParameter rule.condition.operator)) :
    ObligationDecides rule policy value ↔ PolicyFits rule.condition policy := by
  rw [obligationDecides_iff]
  rw [decides_iff] at hrule
  unfold Evaluable PolicyFits at *
  rw [overriddenCondition_operator]
  cases hop : rule.condition.operator with
  | equals =>
    rw [hop] at hrule
    simp only [iff_true]
    refine ⟨hrule.1, ?_⟩
    unfold overriddenCondition
    split
    · rfl
    · exact hrule.2
  | nonEmpty =>
    rw [hop] at hrule
    simpa using hrule
  | other name =>
    rw [hop] at hrule
    exact hrule.elim
  | lessThanOrEqual =>
    rw [hop] at hrule
    obtain ⟨name, hname, hempty, hrequired⟩ := hnamed (.inl hop)
    simp only [minimumOf_overriddenCondition, hname, Option.some.injEq, forall_eq',
      obligationParameter, hempty, Bool.false_eq_true, if_false]
    constructor
    · intro ⟨_, _, hnumber, _⟩
      rcases hpolicy name hrequired with hfits | ⟨items, hlookup, -⟩
      · exact hfits
      · rw [hlookup] at hnumber
        cases hnumber
    · intro ⟨parameter, hlookup, hnumber⟩
      exact ⟨hrule.1, hrule.2.1, by rw [hlookup]; exact hnumber, hrule.2.2.2⟩
  | allMembersInParameterSet =>
    rw [hop] at hrule
    obtain ⟨name, hname, hempty, hrequired⟩ := hnamed (.inr hop)
    simp only [hname, Option.some.injEq, forall_eq', obligationParameter, hempty,
      Bool.false_eq_true, if_false]
    constructor
    · intro ⟨_, allowed, hlookup, _⟩
      exact ⟨allowed, hlookup⟩
    · intro ⟨items, hlookup⟩
      refine ⟨hrule.1, items, hlookup, ?_⟩
      rcases hpolicy name hrequired with ⟨parameter, hparameter, hnumber⟩ | ⟨items', hitems, hstr⟩
      · rw [hlookup] at hparameter
        cases hparameter
        cases hnumber
      · rw [hlookup] at hitems
        cases hitems
        exact hstr
  | enumAtLeast =>
    rw [hop] at hrule
    obtain ⟨htype, hstr, order, horder, hmem, hexpected⟩ := hrule
    simp only [overriddenCondition_order, horder, Option.some.injEq, exists_eq_left',
      Option.getD_some, htype, hstr, hmem, true_and]
    cases hlookup : PyValue.lookup "expected" policy with
    | none => simpa [overriddenCondition, hlookup] using hexpected
    | some expected => simp [overriddenCondition, hlookup]

/-- Accepted automatic obligations are evaluable. An accepted obligation decides the values
its rule decides, any set of them, exactly when its policy fits the operator of the rule. -/
theorem accepted_obligation_decides_iff {sha256 : String → String}
    {rows : List RuntimeRuleVersion} {organizationId : UUID}
    {profileLookup : String → Except Error (Option ProfileManifest)} {content : CatalogContent}
    {catalog : RuntimeCatalog} {obligation : RuntimeObligation} {profile : String}
    {rule : RuleDefinition} {states : Set TypedValue} (hrows : Published sha256 rows)
    (hcatalog : parseRuntimeCatalog profileLookup (runtimeRuleFor rows organizationId) content =
      .ok catalog)
    (hobligation : obligation ∈ catalog.obligations)
    (hmethod : obligation.assessmentMethod = .automatic)
    (himplemented : obligation.implementationStatus = .implemented)
    (hprofile : profile ∈ obligation.profileVersionIds)
    (hrule : runtimeRuleFor rows organizationId (obligation.evaluatorRuleId.getD "") profile =
      .ok rule)
    (hstates : states.Nonempty)
    (hdecides : ∀ value ∈ states, ∀ parameter, ParameterFits rule.condition.operator parameter →
      Decides rule value parameter) :
    (∀ value ∈ states, ObligationDecides rule obligation.policyParameters value) ↔
      PolicyFits rule.condition obligation.policyParameters := by
  obtain ⟨packProfiles, seen, value, hparsed⟩ := parseRuntimeCatalog_obligation hcatalog hobligation
  obtain ⟨evaluator, first, supplied, hevaluator, hfirst, hpolicy⟩ :=
    parseObligation_automatic hparsed hmethod himplemented
  rw [hevaluator, Option.getD_some] at hrule
  obtain ⟨-, -, hrequired⟩ := runtimeRule_same hfirst hprofile hrule
  have hparameters := fun name (hname : name ∈ rule.requiredPolicyParameters) =>
    runtimePolicy_parameter hpolicy (hrequired ▸ hname)
  have hiff : ∀ value ∈ states, ObligationDecides rule obligation.policyParameters value ↔
      PolicyFits rule.condition obligation.policyParameters := fun value hvalue =>
    obligation_decides_iff (parameterNamed_of_lookup hrows hrule) hparameters
      (hdecides value hvalue _ (anyParameter_fits _))
  constructor
  · intro h
    obtain ⟨value, hvalue⟩ := hstates
    exact (hiff value hvalue).mp (h value hvalue)
  · intro h value hvalue
    exact (hiff value hvalue).mpr h

/-- A catalog with one obligation: the logging destinations are approved ones. -/
def loggingCatalog (size : Nat) (sha256 : String) (approved : PyValue) : CatalogContent :=
  { size, sha256,
    json := some (.dict
      [("schema_version", .str "1.0.0"), ("pack_key", .str "acme.baseline"),
        ("family", .str "Acme Baseline"), ("name", .str "Acme Baseline"), ("version", .int 1),
        ("source_version", .str "2024"), ("source_url", .str "https://acme.example/baseline"),
        ("profile_version_ids", .list [.str "generic.cli@1.0.0"]),
        ("obligations", .list [.dict
          [("obligation_key", .str "acme.logging"), ("control_id", .str "LOG-1"),
            ("title", .str "Approved logging destinations"),
            ("assessment_method", .str "automatic"),
            ("implementation_status", .str "implemented"),
            ("evaluator_rule_id", .str "logging.remote.destination.approved"),
            ("policy_parameters", .dict [("approved_logging_destinations", approved)])]])]) }

def listCatalog : CatalogContent :=
  loggingCatalog 563 "367dbc2748f2a00782441f80fbefb410e79f29ce604433cd9c97dec16e349f26"
    (.list [.str "10.0.0.5"])

def numberCatalog : CatalogContent :=
  loggingCatalog 552 "fc516d6949e9f6e76d301e6d3096d2755a1aa5d152a294326dd86a4353a0b39d" (.int 5)

def loggingProfiles (profileVersionId : String) : Except Error (Option ProfileManifest) :=
  .ok (profileRegistry profileVersionId)

def loggingObligation (approved : PyValue) : RuntimeObligation :=
  { obligationKey := "acme.logging", controlId := "LOG-1",
    title := "Approved logging destinations", severity := "not_assigned",
    scope := "organization-defined", assessmentMethod := .automatic,
    implementationStatus := .implemented,
    evaluatorRuleId := some "logging.remote.destination.approved",
    policyParameters := [("approved_logging_destinations", approved),
      ("required_canonical_fields", .list [.str "logging.remote.destination"])],
    profileVersionIds := ["generic.cli@1.0.0"] }

def loggingField : CanonicalField :=
  ⟨"logging.remote.destination", [.ipAddress, .string], ["device"], true⟩

def loggingRule : RuleDefinition :=
  Compliance.Rules.rule "logging.remote.destination.approved"
    "Remote logging destinations approved by organization policy" "logging" .medium
    "logging.remote.destination"
    { operator := .allMembersInParameterSet, parameter := some "approved_logging_destinations" }

/-- The identifier of the state the statement `logging host` resolves to. -/
def loggingUuid5 : UUID → String → UUID := UUID.ofTable
  [("00000000-0000-0000-0000-000000000001:logging.remote.destination:device::device",
    0x75f374e72f57501f9d9d0de8bc8a153c)]

theorem loggingField_registered : fieldRegistry "logging.remote.destination" = some loggingField := by
  decide +kernel

theorem loggingRule_lookup : runtimeRuleFor [] (UUID.ofNat 1) "logging.remote.destination.approved"
    "generic.cli@1.0.0" = .ok loggingRule := by decide +kernel

/-- The rule decides every list of destinations. -/
theorem loggingRule_decides {value : TypedValue}
    (h : CanResolve loggingUuid5 "logging.remote.destination" value) {parameter : Option PyValue}
    (hparameter : ParameterFits .allMembersInParameterSet parameter) :
    Decides loggingRule value parameter := by
  obtain ⟨members, rfl, hfits⟩ := resolvedValue_of_canResolve loggingField_registered h
  have hstr : ∀ member ∈ members, member.value.isStr = true := by
    intro member hmember
    have htype := (hfits member hmember).1
    refine isStr_of_textType ?_ (hfits member hmember).2
    simp only [loggingField, List.mem_cons, List.not_mem_nil, or_false] at htype
    rcases htype with h | h <;> rw [h] <;> decide
  exact decides_iff.mpr ⟨collectionOf_texts hstr, hparameter⟩

theorem logging_resolved :
    CanResolve loggingUuid5 "logging.remote.destination" (listOf [valueOf .string]) := by
  have hfield : loggingField ∈ fields := (fieldRegistry_fieldId loggingField_registered).2
  have htype : TypedValueType.string ∈ loggingField.expectedTypes := by decide
  exact canResolve_valueOf hfield htype

theorem loggingCatalog_accepted :
    ((parseRuntimeCatalog loggingProfiles (runtimeRuleFor [] (UUID.ofNat 1))
        listCatalog).toOption.map (·.obligations)) =
        some [loggingObligation (.list [.str "10.0.0.5"])] ∧
      ((parseRuntimeCatalog loggingProfiles (runtimeRuleFor [] (UUID.ofNat 1))
        numberCatalog).toOption.map (·.obligations)) =
        some [loggingObligation (.int 5)] := by decide +kernel

/-- With a list of destinations the obligation decides all that its field resolves to. -/
theorem accepted_obligation_decides_logging :
    (∀ value ∈ { value | CanResolve loggingUuid5 "logging.remote.destination" value },
      ObligationDecides loggingRule
        (loggingObligation (.list [.str "10.0.0.5"])).policyParameters value) ↔
      PolicyFits loggingRule.condition
        (loggingObligation (.list [.str "10.0.0.5"])).policyParameters := by
  obtain ⟨catalog, hcatalog, hobligations⟩ := exists_of_toOption loggingCatalog_accepted.1
  have hrows : Published (fun text => text) [] := .empty
  have hmem : loggingObligation (.list [.str "10.0.0.5"]) ∈ catalog.obligations := by
    rw [hobligations]
    exact List.mem_singleton.mpr rfl
  exact accepted_obligation_decides_iff hrows hcatalog hmem rfl rfl
    (List.mem_singleton.mpr rfl) loggingRule_lookup ⟨_, logging_resolved⟩
    fun value hvalue parameter hparameter => loggingRule_decides hvalue hparameter

/-- A number is accepted for the destinations, and no resolved value can be evaluated. -/
theorem numeric_allow_list_undecided :
    (∃ catalog, parseRuntimeCatalog loggingProfiles (runtimeRuleFor [] (UUID.ofNat 1))
        numberCatalog = .ok catalog ∧
      loggingObligation (.int 5) ∈ catalog.obligations) ∧
    (∀ value, CanResolve loggingUuid5 "logging.remote.destination" value →
      ∀ parameter, ParameterFits .allMembersInParameterSet parameter →
        Decides loggingRule value parameter) ∧
    CanResolve loggingUuid5 "logging.remote.destination" (listOf [valueOf .string]) ∧
    evaluateObligation loggingRule (loggingObligation (.int 5)).policyParameters
        (some (listOf [valueOf .string])) =
      .error (.evaluation "Policy allow-list is malformed") := by
  obtain ⟨catalog, hcatalog, hobligations⟩ := exists_of_toOption loggingCatalog_accepted.2
  refine ⟨⟨catalog, hcatalog, ?_⟩, ?_, logging_resolved, rfl⟩
  · rw [hobligations]
    exact List.mem_singleton.mpr rfl
  · intro value hvalue parameter hparameter
    exact loggingRule_decides hvalue hparameter

end ConfigAuditor.Assessment.Evaluable
