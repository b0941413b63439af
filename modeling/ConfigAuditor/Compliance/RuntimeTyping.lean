import Mathlib.Data.Fintype.EquivFin
import ConfigAuditor.Compliance.RuntimeRules
import ConfigAuditor.Compliance.Evaluator
import ConfigAuditor.EffectiveState.Resolved

/-!
# Runtime rules and the values they meet

Which accepted runtime rules decide every value their field can be resolved to, with
values of the field's own type, and which operators a field can be given a rule for.
-/
namespace ConfigAuditor.Compliance.RuntimeTyping

open Library SecurityModel Model Evaluator RuntimeRules EffectiveState.Resolved

/-- The condition of an accepted payload, part by part. -/
structure ConditionSpec (payload : Payload) (operator : Operator) (condition : RuleCondition) :
    Prop where
  kind : condition.operator = operator
  expected : expectedOf operator (get payload "expected") = .ok condition.expected
  parameter : parameterOf operator (get payload "required_policy_parameter") =
    .ok condition.parameter
  minimum : lowerBoundOf operator (get payload "minimum_exclusive") =
    .ok condition.minimumExclusive
  order : orderOf operator condition.expected (get payload "order") = .ok condition.order

theorem conditionOf_spec {payload : Payload} {operator : Operator} {condition : RuleCondition}
    (h : conditionOf payload operator = .ok condition) :
    ConditionSpec payload operator condition := by
  simp only [conditionOf, except_bind_eq_ok, except_pure_eq_ok] at h
  obtain ⟨expected, hexpected, parameter, hparameter, minimum, hminimum, order, horder, rfl⟩ := h
  exact ⟨rfl, hexpected, hparameter, hminimum, horder⟩

theorem operatorOf_eq_ok {value : PyValue} {operator : Operator}
    (h : operatorOf value = .ok operator) :
    value = .str operator.text ∧ operator ∈ operators := by
  unfold operatorOf at h
  split at h
  · split at h
    · rename_i text _ found hfound
      obtain rfl : found = operator := by simpa using h
      have htext : found.text = text := by simpa using List.find?_some hfound
      exact ⟨by rw [htext], List.mem_of_find?_eq_some hfound⟩
    · cases h
  · simp at h

/-- An accepted payload: its field, its operator and the condition it compiles to. -/
structure Accepted (payload : Payload) (rule : RuntimeRule) (field : CanonicalField)
    (operator : Operator) : Prop where
  registered : fieldRegistry (stripped (get payload "canonical_field")) = some field
  required : rule.definition.requiredEffectiveStates = [field.fieldId]
  operatorText : get payload "operator" = .str operator.text
  operatorKnown : operator ∈ operators
  types : ∀ type ∈ field.expectedTypes, type ∈ requiredTypes operator
  condition : ConditionSpec payload operator rule.definition.condition
  parameters : rule.definition.requiredPolicyParameters =
    rule.definition.condition.parameter.toList

theorem ruleText_eq_ok {value : PyValue} {label text : String} {limit : Nat} :
    ruleText value label limit = .ok text ↔
      ((stripped value).isEmpty || limit < (stripped value).length) = false ∧
        stripped value = text := by
  simp only [ruleText, except_bind_eq_ok, raiseIf_eq_ok, except_pure_eq_ok, exists_const]

theorem accepted_of_definition {payload : Payload} {rule : RuntimeRule}
    (h : definition payload = .ok rule) :
    ∃ field operator, Accepted payload rule field operator := by
  simp only [definition, except_bind_eq_ok, raiseIf_eq_ok] at h
  obtain ⟨ruleId, -, fieldId, hfieldId, _, -, profiles, -, h⟩ := h
  obtain ⟨-, rfl⟩ := ruleText_eq_ok.mp hfieldId
  cases hfield : fieldRegistry (stripped (get payload "canonical_field")) with
  | none => simp [hfield] at h
  | some field =>
    simp only [hfield, except_bind_eq_ok, raiseIf_eq_ok, Bool.not_eq_false', List.all_eq_true,
      List.contains_iff_mem] at h
    obtain ⟨operator, hoperator, _, htypes, condition, hcondition, references, -, severity, -,
      title, -, description, -, domain, -, h⟩ := h
    obtain ⟨htext, hknown⟩ := operatorOf_eq_ok hoperator
    cases hreferences : references.mapM referenceOf with
    | none => simp [hreferences] at h
    | some frameworkReferences =>
      simp only [hreferences, except_bind_eq_ok, except_pure_eq_ok] at h
      obtain ⟨_, -, rfl⟩ := h
      have hname := (fieldRegistry_fieldId hfield).1
      exact ⟨field, operator, hfield, by rw [hname], htext, hknown, htypes,
        conditionOf_spec hcondition, rfl⟩

/-- A parameter of the operator's type; the other operators have none. -/
def ParameterFits (operator : Operator) (parameter : Option PyValue) : Prop :=
  match operator with
  | .lessThanOrEqual => ∃ maximum, parameter = some maximum ∧ isRealNumber maximum = true
  | .allMembersInParameterSet =>
      ∃ allowed, parameter = some (.list allowed) ∧ ∀ a ∈ allowed, a.isStr = true
  | _ => True

/-- The value a rule expects has the type of the value it is compared with. -/
def ComparesOwnType (rule : RuleDefinition) (value : TypedValue) : Prop :=
  ∀ expected, rule.condition.expected = some expected → hasType value.type expected = true

/-- The rule decides every value its field can be resolved to, and compares like with like. -/
def NeverWrong (uuid5 : UUID → String → UUID) (rule : RuleDefinition) : Prop :=
  ∀ fieldId ∈ rule.requiredEffectiveStates, ∀ value, CanResolve uuid5 fieldId value →
    ∀ parameter, ParameterFits rule.condition.operator parameter →
      Decides rule value parameter ∧ ComparesOwnType rule value

/-- The payload is a maximum, or an equality of a single-valued field with a value of the
field's own type. -/
def WellTyped (payload : Payload) : Prop :=
  get payload "operator" = .str "less_than_or_equal" ∨
    get payload "operator" = .str "equals" ∧
      ∃ field, fieldRegistry (stripped (get payload "canonical_field")) = some field ∧
        field.repeatable = false ∧
          ∀ type ∈ field.expectedTypes, hasType type (get payload "expected") = true

/-- A value of a type. -/
def valueOf (type : TypedValueType) : TypedValue :=
  { type, value := match type with
      | .boolean => .bool true
      | .integer | .number | .duration => .int 1
      | .string | .enum | .ipAddress | .ipNetwork => .str "a"
      | .list => .list []
      | .object => .dict []
      | .null => .none }

theorem valueOf_hasType (type : TypedValueType) : hasType type (valueOf type).value = true := by
  cases type <;> rfl

theorem valueOf_key (type : TypedValueType) :
    ∃ key, EffectiveState.Resolver.valueKey (valueOf type) = .ok key :=
  exists_of_isOk (by cases type <;> decide +kernel)

theorem fields_registered : ∀ field ∈ fields, fieldRegistry field.fieldId = some field := by
  decide +kernel

theorem fields_typed : ∀ field ∈ fields, field.expectedTypes ≠ [] := by decide

variable {uuid5 : UUID → String → UUID} {field : CanonicalField}

/-- Each type of a field occurs among its resolved values. -/
theorem canResolve_valueOf (hfield : field ∈ fields) {type : TypedValueType}
    (htype : type ∈ field.expectedTypes) :
    CanResolve uuid5 field.fieldId
      (if field.repeatable then listOf [valueOf type] else valueOf type) := by
  obtain ⟨key, hkey⟩ := valueOf_key type
  exact canResolve_of_fits uuid5 hfield ⟨htype, valueOf_hasType type⟩ hkey

theorem enum_text_key (text : String) :
    ∃ key, EffectiveState.Resolver.valueKey { type := .enum, value := .str text } = .ok key := by
  simp [EffectiveState.Resolver.valueKey, TypedValue.toDict, PyValue.dumps, PyValue.encode,
    PyValue.encodeEntries, optionText, bind, Except.bind, pure, Except.pure, Except.map]

/-- No finite order has every text. -/
theorem exists_text_outside (order : List PyValue) :
    ∃ text, memberOf (.str text) order = false := by
  have : Infinite String :=
    Infinite.of_injective (fun n : Nat => String.ofList (List.replicate n 'a'))
      fun m n h => by simpa using congrArg (fun s : String => s.toList.length) h
  obtain ⟨text, htext⟩ := Infinite.exists_notMem_finset (order.filterMap (·.str?)).toFinset
  refine ⟨text, ?_⟩
  simp only [memberOf, List.any_eq_false]
  intro item hitem heq
  refine htext (List.mem_toFinset.mpr (List.mem_filterMap.mpr ⟨item, hitem, ?_⟩))
  cases item <;> simp_all [PyValue.eq, PyValue.str?, PyValue.number?]

variable {payload : Payload} {rule : RuntimeRule} {operator : Operator}

theorem listOf_undecided {definition : RuleDefinition} {values : List TypedValue}
    {parameter : Option PyValue} (h : Decides definition (listOf values) parameter) :
    definition.condition.operator = .nonEmpty ∨
      definition.condition.operator = .allMembersInParameterSet := by
  rw [decides_iff, Evaluable] at h
  cases hop : definition.condition.operator with
  | nonEmpty => exact .inl rfl
  | allMembersInParameterSet => exact .inr rfl
  | other name =>
    rw [hop] at h
    exact h.elim
  | equals =>
    rw [hop] at h
    rcases h.1 with h | h <;> cases h
  | lessThanOrEqual =>
    rw [hop] at h
    cases h.1
  | enumAtLeast =>
    rw [hop] at h
    cases h.1

/-- A rule whose operator reads no list decides nothing of a repeatable field. -/
theorem not_repeatable_of_decides (hfield : field ∈ fields) {definition : RuleDefinition}
    {parameter : Option PyValue} (hnonEmpty : definition.condition.operator ≠ .nonEmpty)
    (hall : definition.condition.operator ≠ .allMembersInParameterSet)
    (h : ∀ value, CanResolve uuid5 field.fieldId value → Decides definition value parameter) :
    field.repeatable = false := by
  by_contra hrep
  rw [Bool.not_eq_false] at hrep
  obtain ⟨type, htype⟩ := List.exists_mem_of_ne_nil _ (fields_typed field hfield)
  have hdecides := h _ (canResolve_valueOf hfield htype)
  rw [if_pos hrep] at hdecides
  rcases listOf_undecided hdecides with hop | hop
  · exact hnonEmpty hop
  · exact hall hop

/-- A single-valued field meets every value that fits it. -/
theorem canResolve_single (hfield : field ∈ fields) (hsingle : field.repeatable = false)
    {value : TypedValue} (hfits : FitsField field value) {key : String}
    (hkey : EffectiveState.Resolver.valueKey value = .ok key) :
    CanResolve uuid5 field.fieldId value := by
  have h := canResolve_of_fits uuid5 hfield hfits hkey
  rwa [if_neg (by rw [hsingle]; decide)] at h

theorem fits_of_single (hsingle : field.repeatable = false)
    (hregistered : fieldRegistry field.fieldId = some field) {value : TypedValue}
    (h : CanResolve uuid5 field.fieldId value) : FitsField field value := by
  have hvalue := resolvedValue_of_canResolve hregistered h
  rwa [ResolvedValue, if_neg (by rw [hsingle]; decide)] at hvalue

theorem durations_single : ∀ field ∈ fields,
    (∀ type ∈ field.expectedTypes, type ∈ requiredTypes .lessThanOrEqual) →
      field.repeatable = false := by decide

theorem no_list_fields : ∀ field ∈ fields,
    ¬∀ type ∈ field.expectedTypes, type ∈ [TypedValueType.list] := by decide

theorem equals_neverWrong_iff (haccepted : Accepted payload rule field .equals) :
    NeverWrong uuid5 rule.definition ↔ field.repeatable = false ∧
      ∀ type ∈ field.expectedTypes, hasType type (get payload "expected") = true := by
  have hname := fieldRegistry_fieldId haccepted.registered
  have hfield := hname.2
  have hregistered : fieldRegistry field.fieldId = some field := by
    rw [hname.1]
    exact haccepted.registered
  have hop := haccepted.condition.kind
  have hexpected : rule.definition.condition.expected = some (get payload "expected") := by
    have h := haccepted.condition.expected
    simp only [expectedOf, except_bind_eq_ok, except_pure_eq_ok] at h
    obtain ⟨_, -, h⟩ := h
    exact h.symm
  constructor
  · intro h
    have h' : ∀ value, CanResolve uuid5 field.fieldId value →
        Decides rule.definition value none ∧ ComparesOwnType rule.definition value := by
      intro value hvalue
      refine h field.fieldId (by simp [haccepted.required]) value hvalue none ?_
      rw [hop]
      trivial
    have hsingle := not_repeatable_of_decides hfield (by simp [hop]) (by simp [hop])
      fun value hvalue => (h' value hvalue).1
    refine ⟨hsingle, fun type htype => ?_⟩
    obtain ⟨key, hkey⟩ := valueOf_key type
    have hfits : FitsField field (valueOf type) := ⟨htype, valueOf_hasType type⟩
    exact (h' _ (canResolve_single hfield hsingle hfits hkey)).2 _ hexpected
  · intro htyped fieldId hfieldId value hvalue parameter _
    obtain ⟨hsingle, htypes⟩ := htyped
    rw [haccepted.required, List.mem_singleton] at hfieldId
    subst hfieldId
    have hfits := fits_of_single hsingle hregistered hvalue
    have hrequired := haccepted.types _ hfits.1
    simp only [requiredTypes, List.mem_cons, List.not_mem_nil, or_false] at hrequired
    constructor
    · rw [decides_iff, Evaluable, hop]
      exact ⟨hrequired, by rw [hexpected]; rfl⟩
    · intro expected hex
      obtain rfl : get payload "expected" = expected := by simpa [hexpected] using hex
      exact htypes _ hfits.1

theorem lowerBoundOf_number {value minimum : PyValue}
    (h : lowerBoundOf operator value = .ok (some minimum)) : minimum.isNumber = true := by
  unfold lowerBoundOf at h
  split at h
  · cases h
  · simp only [except_bind_eq_ok, raiseIf_eq_ok, except_pure_eq_ok, Bool.or_eq_false_iff,
      Bool.not_eq_false', Option.some.injEq] at h
    obtain ⟨_, ⟨-, hnumber⟩, rfl⟩ := h
    exact hnumber

theorem maximum_neverWrong (haccepted : Accepted payload rule field .lessThanOrEqual) :
    NeverWrong uuid5 rule.definition := by
  have hname := fieldRegistry_fieldId haccepted.registered
  have hregistered : fieldRegistry field.fieldId = some field := by
    rw [hname.1]
    exact haccepted.registered
  have hop := haccepted.condition.kind
  have hsingle := durations_single field hname.2 haccepted.types
  have hexpected : rule.definition.condition.expected = none := by
    simpa [expectedOf, eq_comm] using haccepted.condition.expected
  have hminimum : (minimumOf rule.definition.condition).all isRealNumber = true := by
    cases hvalue : rule.definition.condition.minimumExclusive with
    | none => simp [minimumOf, hvalue]
    | some minimum =>
      have hnumber := lowerBoundOf_number (hvalue ▸ haccepted.condition.minimum)
      cases minimum <;> simp_all [minimumOf, isRealNumber, PyValue.isNumber]
  intro fieldId hfieldId value hvalue parameter hparameter
  rw [haccepted.required, List.mem_singleton] at hfieldId
  subst hfieldId
  have hfits := fits_of_single hsingle hregistered hvalue
  have htype : value.type = .duration := by
    simpa [requiredTypes] using haccepted.types _ hfits.1
  constructor
  · rw [decides_iff, Evaluable, hop]
    rw [hop] at hparameter
    obtain ⟨maximum, rfl, hmaximum⟩ := hparameter
    have hnumber : isRealNumber value.value = true := by
      have h := hfits.2
      rwa [htype] at h
    exact ⟨htype, hnumber, hmaximum, hminimum⟩
  · intro expected hex
    rw [hexpected] at hex
    cases hex

/-- Whatever its order, an enumeration rule meets a text it does not rank. -/
theorem enum_wrong (haccepted : Accepted payload rule field .enumAtLeast) :
    ¬NeverWrong uuid5 rule.definition := by
  have hname := fieldRegistry_fieldId haccepted.registered
  have hop := haccepted.condition.kind
  intro h
  have h' : ∀ value, CanResolve uuid5 field.fieldId value → Decides rule.definition value none := by
    intro value hvalue
    refine (h field.fieldId (by simp [haccepted.required]) value hvalue none ?_).1
    rw [hop]
    trivial
  have hsingle := not_repeatable_of_decides hname.2 (by simp [hop]) (by simp [hop]) h'
  obtain ⟨type, htype⟩ := List.exists_mem_of_ne_nil _ (fields_typed field hname.2)
  obtain rfl : type = .enum := by simpa [requiredTypes] using haccepted.types type htype
  obtain ⟨text, htext⟩ := exists_text_outside (rule.definition.condition.order.getD [])
  obtain ⟨key, hkey⟩ := enum_text_key text
  have hfits : FitsField field { type := .enum, value := .str text } := ⟨htype, rfl⟩
  have hdecides := h' _ (canResolve_single hname.2 hsingle hfits hkey)
  rw [decides_iff, Evaluable, hop] at hdecides
  obtain ⟨-, -, order, horder, hmem, -⟩ := hdecides
  rw [horder, Option.getD_some] at htext
  exact absurd hmem (by rw [htext]; decide)

/-- An accepted rule is never wrong exactly when its payload is well typed. -/
theorem neverWrong_iff (h : definition payload = .ok rule) :
    NeverWrong uuid5 rule.definition ↔ WellTyped payload := by
  obtain ⟨field, operator, haccepted⟩ := accepted_of_definition h
  have hname := fieldRegistry_fieldId haccepted.registered
  have htext := haccepted.operatorText
  have hknown := haccepted.operatorKnown
  simp only [operators, List.mem_cons, List.not_mem_nil, or_false] at hknown
  unfold WellTyped
  rcases hknown with rfl | rfl | rfl | rfl | rfl
  · rw [equals_neverWrong_iff haccepted]
    simp [htext, Operator.text, haccepted.registered]
  · simp [htext, Operator.text, maximum_neverWrong haccepted]
  · exact absurd haccepted.types (no_list_fields field hname.2)
  · exact absurd haccepted.types (no_list_fields field hname.2)
  · simp [htext, Operator.text, enum_wrong haccepted]

/-- Some rule with the operator decides every value the field can be resolved to. -/
def CanDecide (uuid5 : UUID → String → UUID) (field : CanonicalField) (operator : Operator) :
    Prop :=
  ∃ rule : RuleDefinition, rule.requiredEffectiveStates = [field.fieldId] ∧
    rule.condition.operator = operator ∧ ∀ value, CanResolve uuid5 field.fieldId value →
      ∀ parameter, ParameterFits operator parameter → Decides rule value parameter

/-- Some payload with the operator is accepted for the field. -/
def CanPublish (field : CanonicalField) (operator : Operator) : Prop :=
  ∃ payload rule, definition payload = .ok rule ∧
    rule.definition.requiredEffectiveStates = [field.fieldId] ∧
      rule.definition.condition.operator = operator

/-- The types whose values are texts. -/
def textTypes : List TypedValueType := [.string, .enum, .ipAddress, .ipNetwork]

/-- A repeatable field whose members are texts. -/
def TextCollection (field : CanonicalField) : Prop :=
  field.repeatable = true ∧ ∀ type ∈ field.expectedTypes, type ∈ textTypes

def IsCollectionOperator (operator : Operator) : Prop :=
  operator = .nonEmpty ∨ operator = .allMembersInParameterSet

/-- A payload for a field and an operator, with a value of each key the operator reads. -/
def samplePayload (field : CanonicalField) (operator : Operator) : Payload :=
  let keys : Payload := match operator with
    | .equals => [("expected", .bool true)]
    | .lessThanOrEqual => [("required_policy_parameter", .str "maximum")]
    | .enumAtLeast => [("expected", .str "a"), ("order", .list [.str "a", .str "b"])]
    | _ => []
  keys ++ [("rule_id", .str "tenant.rule"),
    ("profile_version_ids", .list [.str "generic.cli@1.0.0"]),
    ("canonical_field", .str field.fieldId), ("operator", .str operator.text),
    ("title", .str "Tenant rule"), ("security_domain", .str "management"),
    ("severity", .str "high")]

theorem samplePayload_accepted : ∀ operator ∈ operators, ∀ field ∈ fields,
    (∀ type ∈ field.expectedTypes, type ∈ requiredTypes operator) →
      ((definition (samplePayload field operator)).toOption.map fun rule =>
        (rule.definition.requiredEffectiveStates, rule.definition.condition.operator)) =
        some ([field.fieldId], operator) := by
  intro operator hoperator
  simp only [operators, List.mem_cons, List.not_mem_nil, or_false] at hoperator
  -- each field on its own
  rw [fields]
  simp only [List.forall_mem_cons]
  rcases hoperator with rfl | rfl | rfl | rfl | rfl <;> and_intros <;> decide +kernel

theorem canPublish_of_types (hfield : field ∈ fields) (hoperator : operator ∈ operators)
    (htypes : ∀ type ∈ field.expectedTypes, type ∈ requiredTypes operator) :
    CanPublish field operator := by
  obtain ⟨rule, hrule, hparts⟩ := exists_of_toOption
    (samplePayload_accepted operator hoperator field hfield htypes)
  exact ⟨_, rule, hrule, (Prod.mk.inj hparts).1, (Prod.mk.inj hparts).2⟩

/-- No payload is accepted for an operator on collections. -/
theorem not_canPublish_collection (hoperator : IsCollectionOperator operator) :
    ¬CanPublish field operator := by
  intro ⟨payload, rule, hrule, _, hop⟩
  obtain ⟨field', operator', haccepted⟩ := accepted_of_definition hrule
  obtain rfl : operator' = operator := haccepted.condition.kind.symm.trans hop
  have hmem := (fieldRegistry_fieldId haccepted.registered).2
  rcases hoperator with rfl | rfl
  · exact no_list_fields field' hmem haccepted.types
  · exact no_list_fields field' hmem haccepted.types

theorem collectionMembers_texts {values : List TypedValue}
    (h : ∀ value ∈ values, value.value.isStr = true) :
    ∃ members, collectionMembers (values.map (·.toDict)) = some members := by
  induction values with
  | nil => exact ⟨[], rfl⟩
  | cons value rest ih =>
    obtain ⟨members, hmembers⟩ := ih fun v hv => h v (List.mem_cons_of_mem _ hv)
    have hstr := h value (by simp)
    cases hvalue : value.value with
    | str text =>
      refine ⟨text :: members, ?_⟩
      unfold collectionMembers at hmembers ⊢
      rw [List.map_cons, List.mapM_cons, hmembers]
      simp [TypedValue.toDict, PyValue.lookup, hvalue, PyValue.str?]
    | _ => simp [hvalue, PyValue.isStr] at hstr

/-- A list of texts is a collection. -/
theorem collectionOf_texts {values : List TypedValue}
    (h : ∀ value ∈ values, value.value.isStr = true) :
    ∃ members, collectionOf (listOf values) = .ok members := by
  obtain ⟨members, hmembers⟩ := collectionMembers_texts h
  exact ⟨members, collectionOf_eq_ok.mpr ⟨_, rfl, rfl, hmembers⟩⟩

theorem isStr_of_textType {type : TypedValueType} {value : PyValue} (htype : type ∈ textTypes)
    (h : hasType type value = true) : value.isStr = true := by
  simp only [textTypes, List.mem_cons, List.not_mem_nil, or_false] at htype
  rcases htype with rfl | rfl | rfl | rfl <;> exact h

theorem textType_of_isStr {type : TypedValueType} (h : (valueOf type).value.isStr = true) :
    type ∈ textTypes := by
  cases type <;> first | decide | cases h

/-- A parameter every operator accepts. -/
def anyParameter (operator : Operator) : Option PyValue :=
  if operator = .lessThanOrEqual then some (.int 1) else some (.list [])

theorem anyParameter_fits (operator : Operator) : ParameterFits operator (anyParameter operator) := by
  cases operator with
  | lessThanOrEqual => exact ⟨.int 1, rfl, rfl⟩
  | allMembersInParameterSet => exact ⟨[], rfl, nofun⟩
  | _ => trivial

theorem collectionOf_of_decides (hoperator : IsCollectionOperator operator)
    {definition : RuleDefinition} (hop : definition.condition.operator = operator)
    {value : TypedValue} {parameter : Option PyValue}
    (h : Decides definition value parameter) : ∃ members, collectionOf value = .ok members := by
  rw [decides_iff, Evaluable, hop] at h
  rcases hoperator with rfl | rfl
  · exact h
  · exact h.1

/-- A collection operator decides every value of a field exactly when they are lists of texts. -/
theorem canDecide_collection_iff (hfield : field ∈ fields)
    (hregistered : fieldRegistry field.fieldId = some field)
    (hoperator : IsCollectionOperator operator) :
    CanDecide uuid5 field operator ↔ TextCollection field := by
  constructor
  · intro hcan
    obtain ⟨rule, _, hop, hdecides⟩ := hcan
    have hcollection : ∀ type ∈ field.expectedTypes, ∃ members, collectionOf
        (if field.repeatable then listOf [valueOf type] else valueOf type) = .ok members :=
      fun type htype => collectionOf_of_decides hoperator hop
        (hdecides _ (canResolve_valueOf hfield htype) _ (anyParameter_fits operator))
    have hrep : field.repeatable = true := by
      by_contra hrep
      obtain ⟨type, htype⟩ := List.exists_mem_of_ne_nil _ (fields_typed field hfield)
      obtain ⟨members, hmembers⟩ := hcollection type htype
      rw [if_neg hrep, collectionOf_eq_ok] at hmembers
      obtain ⟨items, hlist, -⟩ := hmembers
      obtain rfl : type = .list := hlist
      exact fields_no_list field hfield htype
    refine ⟨hrep, fun type htype => textType_of_isStr ?_⟩
    obtain ⟨members, hmembers⟩ := hcollection type htype
    rw [if_pos hrep, collectionOf_eq_ok] at hmembers
    obtain ⟨items, -, hitems, hmembers⟩ := hmembers
    obtain rfl : [(valueOf type).toDict] = items := by simpa [listOf] using hitems
    cases type <;> first | rfl | cases hmembers
  · intro htexts
    obtain ⟨hrep, htypes⟩ := htexts
    refine ⟨⟨"", "", "", .low, [field.fieldId], { operator }, [], []⟩, rfl, rfl, ?_⟩
    intro value hvalue parameter hparameter
    have hresolved := resolvedValue_of_canResolve hregistered hvalue
    rw [ResolvedValue, if_pos hrep] at hresolved
    obtain ⟨members, rfl, hfits⟩ := hresolved
    have hcollection := collectionOf_texts fun value hvalue =>
      isStr_of_textType (htypes _ (hfits value hvalue).1) (hfits value hvalue).2
    rw [decides_iff]
    rcases hoperator with rfl | rfl
    · exact hcollection
    · exact ⟨hcollection, hparameter⟩

/-- An operator on single values that decides every value of a field has a rule for it. -/
theorem canPublish_of_canDecide (hfield : field ∈ fields)
    (hoperator : ¬IsCollectionOperator operator) (h : CanDecide uuid5 field operator) :
    CanPublish field operator := by
  obtain ⟨rule, _, hop, hdecides⟩ := h
  have hall : ∀ value, CanResolve uuid5 field.fieldId value →
      Decides rule value (anyParameter operator) :=
    fun value hvalue => hdecides value hvalue _ (anyParameter_fits operator)
  have hsingle : field.repeatable = false :=
    not_repeatable_of_decides hfield (fun h => hoperator (.inl (hop.symm.trans h)))
      (fun h => hoperator (.inr (hop.symm.trans h))) hall
  have hvalues : ∀ type ∈ field.expectedTypes,
      Evaluable rule.condition (valueOf type) (anyParameter operator) := by
    intro type htype
    have hvalue := @canResolve_valueOf uuid5 _ hfield _ htype
    rw [if_neg (by rw [hsingle]; decide)] at hvalue
    exact decides_iff.mp (hall _ hvalue)
  cases operator with
  | nonEmpty => exact absurd (.inl rfl) hoperator
  | allMembersInParameterSet => exact absurd (.inr rfl) hoperator
  | other name =>
    obtain ⟨type, htype⟩ := List.exists_mem_of_ne_nil _ (fields_typed field hfield)
    have hvalue := hvalues type htype
    rw [Evaluable, hop] at hvalue
    exact hvalue.elim
  | equals =>
    refine canPublish_of_types hfield (by decide) fun type htype => ?_
    have hvalue := hvalues type htype
    rw [Evaluable, hop] at hvalue
    simpa [requiredTypes, valueOf] using hvalue.1
  | lessThanOrEqual =>
    refine canPublish_of_types hfield (by decide) fun type htype => ?_
    have hvalue := hvalues type htype
    rw [Evaluable, hop] at hvalue
    simpa [requiredTypes, valueOf] using hvalue.1
  | enumAtLeast =>
    refine canPublish_of_types hfield (by decide) fun type htype => ?_
    have hvalue := hvalues type htype
    rw [Evaluable, hop] at hvalue
    simpa [requiredTypes, valueOf] using hvalue.1

/-- Well-typed runtime rules do not go wrong. An accepted rule decides every value its field
can be resolved to, comparing like with like, exactly when its payload is well typed; and a
field gets a rule for every operator that can decide its values, except for the operators
on collections. -/
theorem runtime_rules_decide_iff (uuid5 : UUID → String → UUID) :
    (∀ payload rule, definition payload = .ok rule →
      (NeverWrong uuid5 rule.definition ↔ WellTyped payload)) ∧
    ∀ field ∈ fields, ∀ operator,
      (CanDecide uuid5 field operator → CanPublish field operator) ↔
        ¬(IsCollectionOperator operator ∧ TextCollection field) := by
  refine ⟨fun payload rule h => neverWrong_iff h, fun field hfield operator => ?_⟩
  have hregistered := fields_registered field hfield
  by_cases hoperator : IsCollectionOperator operator
  · rw [canDecide_collection_iff hfield hregistered hoperator]
    simp [hoperator, not_canPublish_collection hoperator]
  · simp only [hoperator, false_and, not_false_eq_true, iff_true]
    exact canPublish_of_canDecide hfield hoperator

/-- An equality on the identifiers of NTP keys, a repeatable integer field. -/
def keyIdPayload : Payload :=
  [("rule_id", .str "tenant.ntp.key_id"),
    ("profile_version_ids", .list [.str "generic.cli@1.0.0"]),
    ("canonical_field", .str "time.ntp.authentication.key_id"), ("operator", .str "equals"),
    ("expected", .int 1), ("title", .str "NTP key"), ("security_domain", .str "time"),
    ("severity", .str "medium"), ("framework_references", .list [])]

/-- The identifier of the state the one statement `ntp authentication-key 1` resolves to. -/
def keyIdUuid5 : UUID → String → UUID := UUID.ofTable
  [("00000000-0000-0000-0000-000000000001:time.ntp.authentication.key_id:device::device",
    0x6a68d142c6625cc0a281eb8e4e0170b5)]

/-- The rule is accepted, and the list its field resolves to is no value it can compare. -/
theorem key_id_rule_wrong :
    ∃ rule, definition keyIdPayload = .ok rule ∧
      ∃ value, CanResolve keyIdUuid5 "time.ntp.authentication.key_id" value ∧
        evaluateCondition rule.definition (some value) none =
          .error (.evaluation "TypedValue is incompatible with equality rule") := by
  obtain ⟨rule, hrule, hkind⟩ := exists_of_toOption
    (x := definition keyIdPayload) (f := fun rule => rule.definition.condition.operator)
    (b := .equals) (by decide +kernel)
  refine ⟨rule, hrule, listOf [valueOf .integer], ?_, ?_⟩
  · have hfield : (⟨"time.ntp.authentication.key_id", [.integer], ["device"], true⟩ :
        CanonicalField) ∈ fields := by decide +kernel
    exact canResolve_valueOf hfield (List.mem_singleton.mpr rfl)
  · simp only [evaluateCondition, hkind]
    rfl

end ConfigAuditor.Compliance.RuntimeTyping
