import ConfigAuditor.Compliance.Model

/-!
# Evaluating one rule condition

`evaluate_condition` on the value of a resolved state, and what its verdict PASS
says of the value: the condition of the rule holds.
-/
namespace ConfigAuditor.Compliance.Evaluator

open Library SecurityModel Model

/-- `a <= b` and `a > b` on numbers. -/
def numberLe (a b : PyValue) : Bool :=
  match a.number?, b.number? with
  | some x, some y => x.le y
  | _, _ => false

def numberGt (a b : PyValue) : Bool :=
  match a.number?, b.number? with
  | some x, some y => y.le x && !y.eq x
  | _, _ => false

def verdictOf (holds : Bool) : FindingVerdict := if holds then .pass else .fail

/-- The text members of a collection, `none` when some member is malformed. -/
def collectionMembers (items : List PyValue) : Option (List String) :=
  items.mapM fun item => match item with
    | .dict entries => (PyValue.lookup "value" entries).bind (·.str?)
    | _ => none

/-- `order.index(value)`. -/
def orderIndex (order : List PyValue) (value : PyValue) : Nat :=
  order.findIdx fun item => item.eq value

def evaluationError (message : String) : Error := .evaluation message

/-- The `equals` branch. -/
def evaluateEquals (rule : RuleDefinition) (value : TypedValue) : Except Error FindingVerdict := do
  raiseIf (value.type != .boolean && value.type != .integer)
    (evaluationError "TypedValue is incompatible with equality rule")
  match rule.condition.expected with
  | none => .error (.python .keyError)
  | some expected => return verdictOf (value.value.eq expected)

/-- The `less_than_or_equal` branch. -/
def evaluateMaximum (rule : RuleDefinition) (value : TypedValue) (parameter : PyValue) :
    Except Error FindingVerdict := do
  raiseIf (value.type != .duration || !isRealNumber value.value)
    (evaluationError "TypedValue is incompatible with duration rule")
  raiseIf (!isRealNumber parameter) (evaluationError "Policy maximum is malformed")
  raiseIf (!(minimumOf rule.condition).all isRealNumber)
    (evaluationError "Rule minimum is malformed")
  return verdictOf ((minimumOf rule.condition).all (numberGt value.value) &&
    numberLe value.value parameter)

/-- The `enum_at_least` branch. -/
def evaluateEnum (rule : RuleDefinition) (value : TypedValue) : Except Error FindingVerdict :=
  let incompatible := evaluationError "TypedValue is incompatible with ordered-enum rule"
  match rule.condition.order with
  | none => .error incompatible
  | some order => do
    let expected := rule.condition.expected.getD .none
    raiseIf (value.type != .enum || !value.value.isStr || !memberOf value.value order ||
      !memberOf expected order) incompatible
    return verdictOf (orderIndex order expected ≤ orderIndex order value.value)

/-- The members of a collection value, for the two collection operators. -/
def collectionOf (value : TypedValue) : Except Error (List String) :=
  match value.type, value.value with
  | .list, .list items =>
    match collectionMembers items with
    | some members => .ok members
    | none => .error (evaluationError "Collection member is malformed")
  | _, _ => .error (evaluationError "TypedValue is incompatible with collection rule")

/-- The `all_members_in_parameter_set` branch, after the members are read. -/
def evaluateAllowList (members : List String) (parameter : PyValue) : Except Error FindingVerdict :=
  match parameter with
  | .list allowed =>
    if allowed.all (·.isStr) then
      .ok (verdictOf (members.all fun member => allowed.contains (.str member)))
    else .error (evaluationError "Policy allow-list is malformed")
  | _ => .error (evaluationError "Policy allow-list is malformed")

/-- `evaluate_condition`. A state without a value has no `get`. -/
def evaluateCondition (rule : RuleDefinition) (value : Option TypedValue)
    (parameter : Option PyValue) : Except Error FindingVerdict :=
  match value with
  | none => .error (.python .attributeError)
  | some value =>
    match rule.condition.operator with
    | .equals => evaluateEquals rule value
    | .lessThanOrEqual => evaluateMaximum rule value (parameter.getD .none)
    | .enumAtLeast => evaluateEnum rule value
    | .nonEmpty => do
      let members ← collectionOf value
      return verdictOf (!members.isEmpty)
    | .allMembersInParameterSet => do
      let members ← collectionOf value
      evaluateAllowList members (parameter.getD .none)
    | .other _ => .error (evaluationError "Rule operator is unsupported")

/-- The condition of a rule holds of a typed value under a policy parameter. -/
def ConditionHolds (condition : RuleCondition) (value : TypedValue) (parameter : Option PyValue) :
    Prop :=
  match condition.operator with
  | .equals => (value.type = .boolean ∨ value.type = .integer) ∧
      ∃ expected, condition.expected = some expected ∧ value.value.eq expected = true
  | .lessThanOrEqual => value.type = .duration ∧ isRealNumber value.value = true ∧
      ∃ maximum, parameter = some maximum ∧ isRealNumber maximum = true ∧
        numberLe value.value maximum = true ∧
        ∀ minimum, minimumOf condition = some minimum →
          isRealNumber minimum = true ∧ numberGt value.value minimum = true
  | .enumAtLeast => value.type = .enum ∧ value.value.isStr = true ∧
      ∃ order, condition.order = some order ∧ memberOf value.value order = true ∧
        memberOf (condition.expected.getD .none) order = true ∧
        orderIndex order (condition.expected.getD .none) ≤ orderIndex order value.value
  | .nonEmpty => ∃ items members, value.type = .list ∧ value.value = .list items ∧
      collectionMembers items = some members ∧ members ≠ []
  | .allMembersInParameterSet => ∃ items members allowed, value.type = .list ∧
      value.value = .list items ∧ collectionMembers items = some members ∧
      parameter = some (.list allowed) ∧ (∀ a ∈ allowed, a.isStr = true) ∧
      ∀ member ∈ members, PyValue.str member ∈ allowed
  | .other _ => False

@[simp] theorem verdictOf_eq_pass {holds : Bool} : verdictOf holds = .pass ↔ holds = true := by
  cases holds <;> simp [verdictOf]

theorem evaluateEquals_pass {rule : RuleDefinition} {value : TypedValue} :
    evaluateEquals rule value = .ok .pass ↔
      (value.type = .boolean ∨ value.type = .integer) ∧
        ∃ expected, rule.condition.expected = some expected ∧ value.value.eq expected = true := by
  simp only [evaluateEquals, except_bind_eq_ok, raiseIf_eq_ok, Bool.and_eq_false_iff,
    bne_eq_false_iff_eq]
  cases rule.condition.expected with
  | none => simp
  | some expected => simp

theorem evaluateMaximum_pass {rule : RuleDefinition} {value : TypedValue} {parameter : PyValue} :
    evaluateMaximum rule value parameter = .ok .pass ↔
      value.type = .duration ∧ isRealNumber value.value = true ∧ isRealNumber parameter = true ∧
        numberLe value.value parameter = true ∧
        ∀ minimum, minimumOf rule.condition = some minimum →
          isRealNumber minimum = true ∧ numberGt value.value minimum = true := by
  simp only [evaluateMaximum, except_bind_eq_ok, raiseIf_eq_ok, except_pure_eq_ok,
    Bool.or_eq_false_iff, bne_eq_false_iff_eq, Bool.not_eq_false', verdictOf_eq_pass,
    Bool.and_eq_true]
  cases minimumOf rule.condition with
  | none => simp; tauto
  | some minimum => simp; tauto

theorem evaluateEnum_pass {rule : RuleDefinition} {value : TypedValue} :
    evaluateEnum rule value = .ok .pass ↔
      value.type = .enum ∧ value.value.isStr = true ∧
        ∃ order, rule.condition.order = some order ∧ memberOf value.value order = true ∧
          memberOf (rule.condition.expected.getD .none) order = true ∧
          orderIndex order (rule.condition.expected.getD .none) ≤
            orderIndex order value.value := by
  unfold evaluateEnum
  cases rule.condition.order with
  | none => simp
  | some order =>
    simp only [except_bind_eq_ok, raiseIf_eq_ok, except_pure_eq_ok, Bool.or_eq_false_iff,
      bne_eq_false_iff_eq, Bool.not_eq_false', verdictOf_eq_pass, decide_eq_true_eq,
      Option.some.injEq, exists_eq_left']
    tauto

theorem collectionOf_eq_ok {value : TypedValue} {members : List String} :
    collectionOf value = .ok members ↔ ∃ items, value.type = .list ∧ value.value = .list items ∧
      collectionMembers items = some members := by
  unfold collectionOf
  split
  · rename_i items htype hvalue
    cases hm : collectionMembers items with
    | none => simp [htype, hvalue, hm]
    | some found => simp [htype, hvalue, hm]
  · rename_i hno
    constructor
    · simp
    · rintro ⟨items, htype, hvalue, -⟩
      exact absurd hvalue (hno items htype)

theorem evaluateAllowList_pass {members : List String} {parameter : PyValue} :
    evaluateAllowList members parameter = .ok .pass ↔ ∃ allowed, parameter = .list allowed ∧
      (∀ a ∈ allowed, a.isStr = true) ∧ ∀ member ∈ members, PyValue.str member ∈ allowed := by
  unfold evaluateAllowList
  cases parameter with
  | list allowed =>
    simp only [List.all_eq_true, PyValue.list.injEq, exists_eq_left']
    split
    · rename_i hall
      simp only [Except.ok.injEq, verdictOf_eq_pass, List.all_eq_true, List.contains_iff_mem]
      exact ⟨fun h => ⟨hall, h⟩, fun h => h.2⟩
    · rename_i hall
      simp [hall]
  | _ => simp

/-- A rule passes exactly when its condition holds of the state's value. -/
theorem evaluateCondition_pass {rule : RuleDefinition} {value : Option TypedValue}
    {parameter : Option PyValue} :
    evaluateCondition rule value parameter = .ok .pass ↔
      ∃ v, value = some v ∧ ConditionHolds rule.condition v parameter := by
  cases value with
  | none => simp [evaluateCondition]
  | some value =>
    simp only [evaluateCondition, Option.some.injEq, exists_eq_left', ConditionHolds]
    cases rule.condition.operator with
    | equals => exact evaluateEquals_pass
    | lessThanOrEqual =>
      rw [evaluateMaximum_pass]
      cases parameter with
      | none => simp [isRealNumber, PyValue.isNumber]
      | some parameter => simp
    | enumAtLeast => exact evaluateEnum_pass
    | nonEmpty =>
      simp only [except_bind_eq_ok, collectionOf_eq_ok, except_pure_eq_ok, verdictOf_eq_pass,
        Bool.not_eq_true', List.isEmpty_eq_false_iff]
      constructor
      · rintro ⟨members, ⟨items, h1, h2, h3⟩, h4⟩
        exact ⟨items, members, h1, h2, h3, h4⟩
      · rintro ⟨items, members, h1, h2, h3, h4⟩
        exact ⟨members, ⟨items, h1, h2, h3⟩, h4⟩
    | allMembersInParameterSet =>
      simp only [except_bind_eq_ok, collectionOf_eq_ok, evaluateAllowList_pass]
      constructor
      · rintro ⟨members, ⟨items, h1, h2, h3⟩, allowed, h4, h5, h6⟩
        refine ⟨items, members, allowed, h1, h2, h3, ?_, h5, h6⟩
        cases parameter with
        | none => simp at h4
        | some parameter => simpa using h4
      · rintro ⟨items, members, allowed, h1, h2, h3, rfl, h5, h6⟩
        exact ⟨members, ⟨items, h1, h2, h3⟩, allowed, rfl, h5, h6⟩
    | other name => simp

/-- The evaluation ends with a verdict on the value, PASS or FAIL. -/
def Decides (rule : RuleDefinition) (value : TypedValue) (parameter : Option PyValue) : Prop :=
  evaluateCondition rule (some value) parameter = .ok .pass ∨
    evaluateCondition rule (some value) parameter = .ok .fail

/-- What a condition needs of a value and a parameter. -/
def Evaluable (condition : RuleCondition) (value : TypedValue) (parameter : Option PyValue) :
    Prop :=
  match condition.operator with
  | .equals => (value.type = .boolean ∨ value.type = .integer) ∧ condition.expected.isSome = true
  | .lessThanOrEqual => value.type = .duration ∧ isRealNumber value.value = true ∧
      isRealNumber (parameter.getD .none) = true ∧ (minimumOf condition).all isRealNumber = true
  | .enumAtLeast => value.type = .enum ∧ value.value.isStr = true ∧
      ∃ order, condition.order = some order ∧ memberOf value.value order = true ∧
        memberOf (condition.expected.getD .none) order = true
  | .nonEmpty => ∃ members, collectionOf value = .ok members
  | .allMembersInParameterSet => (∃ members, collectionOf value = .ok members) ∧
      ∃ allowed, parameter = some (.list allowed) ∧ ∀ a ∈ allowed, a.isStr = true
  | .other _ => False

theorem verdictOf_cases (holds : Bool) : verdictOf holds = .pass ∨ verdictOf holds = .fail := by
  cases holds <;> simp [verdictOf]

theorem evaluateEquals_decided {rule : RuleDefinition} {value : TypedValue} :
    (evaluateEquals rule value = .ok .pass ∨ evaluateEquals rule value = .ok .fail) ↔
      (value.type = .boolean ∨ value.type = .integer) ∧
        rule.condition.expected.isSome = true := by
  simp only [evaluateEquals, except_bind_eq_ok, raiseIf_eq_ok, Bool.and_eq_false_iff,
    bne_eq_false_iff_eq]
  cases rule.condition.expected with
  | none => simp
  | some expected =>
    have hv := verdictOf_cases (value.value.eq expected)
    simp only [except_pure_eq_ok, Option.isSome_some, and_true]
    constructor
    · rintro (⟨_, htype, -⟩ | ⟨_, htype, -⟩) <;> exact htype
    · intro htype
      exact hv.imp (fun h => ⟨(), htype, h⟩) fun h => ⟨(), htype, h⟩

theorem evaluateMaximum_decided {rule : RuleDefinition} {value : TypedValue}
    {parameter : PyValue} :
    (evaluateMaximum rule value parameter = .ok .pass ∨
        evaluateMaximum rule value parameter = .ok .fail) ↔
      value.type = .duration ∧ isRealNumber value.value = true ∧
        isRealNumber parameter = true ∧ (minimumOf rule.condition).all isRealNumber = true := by
  simp only [evaluateMaximum, except_bind_eq_ok, raiseIf_eq_ok, except_pure_eq_ok,
    Bool.or_eq_false_iff, bne_eq_false_iff_eq, Bool.not_eq_false']
  constructor
  · rintro (⟨_, hvalue, _, hparameter, _, hminimum, -⟩ |
      ⟨_, hvalue, _, hparameter, _, hminimum, -⟩) <;>
      exact ⟨hvalue.1, hvalue.2, hparameter, hminimum⟩
  · intro hfits
    obtain ⟨htype, hvalue, hparameter, hminimum⟩ := hfits
    refine (verdictOf_cases _).imp (fun h => ⟨(), ⟨htype, hvalue⟩, (), hparameter, (), hminimum, h⟩)
      fun h => ⟨(), ⟨htype, hvalue⟩, (), hparameter, (), hminimum, h⟩

theorem evaluateEnum_decided {rule : RuleDefinition} {value : TypedValue} :
    (evaluateEnum rule value = .ok .pass ∨ evaluateEnum rule value = .ok .fail) ↔
      value.type = .enum ∧ value.value.isStr = true ∧
        ∃ order, rule.condition.order = some order ∧ memberOf value.value order = true ∧
          memberOf (rule.condition.expected.getD .none) order = true := by
  unfold evaluateEnum
  cases rule.condition.order with
  | none => simp
  | some order =>
    simp only [except_bind_eq_ok, raiseIf_eq_ok, except_pure_eq_ok, Bool.or_eq_false_iff,
      bne_eq_false_iff_eq, Bool.not_eq_false', Option.some.injEq, exists_eq_left']
    constructor
    · rintro (⟨_, ⟨⟨⟨htype, hstr⟩, hmem⟩, hexpected⟩, -⟩ |
        ⟨_, ⟨⟨⟨htype, hstr⟩, hmem⟩, hexpected⟩, -⟩) <;> exact ⟨htype, hstr, hmem, hexpected⟩
    · intro hfits
      obtain ⟨htype, hstr, hmem, hexpected⟩ := hfits
      exact (verdictOf_cases _).imp (fun h => ⟨(), ⟨⟨⟨htype, hstr⟩, hmem⟩, hexpected⟩, h⟩)
        fun h => ⟨(), ⟨⟨⟨htype, hstr⟩, hmem⟩, hexpected⟩, h⟩

theorem evaluateAllowList_decided {members : List String} {parameter : PyValue} :
    (evaluateAllowList members parameter = .ok .pass ∨
        evaluateAllowList members parameter = .ok .fail) ↔
      ∃ allowed, parameter = .list allowed ∧ ∀ a ∈ allowed, a.isStr = true := by
  unfold evaluateAllowList
  cases parameter with
  | list allowed =>
    simp only [List.all_eq_true, PyValue.list.injEq, exists_eq_left']
    split
    · rename_i hall
      simp only [Except.ok.injEq]
      exact ⟨fun _ => hall, fun _ => verdictOf_cases _⟩
    · rename_i hall
      simp [hall]
  | _ => simp

/-- A rule decides a value exactly when its condition can be evaluated on it. -/
theorem decides_iff {rule : RuleDefinition} {value : TypedValue} {parameter : Option PyValue} :
    Decides rule value parameter ↔ Evaluable rule.condition value parameter := by
  simp only [Decides, evaluateCondition, Evaluable]
  cases rule.condition.operator with
  | equals => exact evaluateEquals_decided
  | lessThanOrEqual => exact evaluateMaximum_decided
  | enumAtLeast => exact evaluateEnum_decided
  | nonEmpty =>
    simp only [except_bind_eq_ok, except_pure_eq_ok]
    constructor
    · rintro (⟨members, h, -⟩ | ⟨members, h, -⟩) <;> exact ⟨members, h⟩
    · intro hcollection
      obtain ⟨members, h⟩ := hcollection
      exact (verdictOf_cases _).imp (fun hv => ⟨members, h, hv⟩) fun hv => ⟨members, h, hv⟩
  | allMembersInParameterSet =>
    have hparameter : (∃ allowed, parameter.getD .none = .list allowed ∧
        ∀ a ∈ allowed, a.isStr = true) ↔
        ∃ allowed, parameter = some (.list allowed) ∧ ∀ a ∈ allowed, a.isStr = true := by
      cases parameter <;> simp
    simp only [except_bind_eq_ok]
    rw [← hparameter]
    constructor
    · rintro (⟨members, h, hv⟩ | ⟨members, h, hv⟩)
      · exact ⟨⟨members, h⟩, evaluateAllowList_decided.mp (.inl hv)⟩
      · exact ⟨⟨members, h⟩, evaluateAllowList_decided.mp (.inr hv)⟩
    · intro hboth
      obtain ⟨⟨members, h⟩, hlist⟩ := hboth
      exact (evaluateAllowList_decided.mpr hlist).imp (fun hv => ⟨members, h, hv⟩)
        fun hv => ⟨members, h, hv⟩
  | other name => simp

end ConfigAuditor.Compliance.Evaluator
