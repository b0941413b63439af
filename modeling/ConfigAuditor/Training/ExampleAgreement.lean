import ConfigAuditor.Interpretation.FactIds
import ConfigAuditor.Library.Numerals
import ConfigAuditor.Training.Publication

/-!
# The examples of a definition and the interpreter

An example is recorded with the value that the matcher and the extractor give. Production
also asks how the statement was read, what the mapping says of negated statements and
whether the field takes the value.
-/
namespace ConfigAuditor.Training.ExampleAgreement

open Library SecurityModel Parsing KnowledgePacks ProfileResolution Dsl Matcher Service Publication
  Interpretation.Extractors Interpretation.Scopes Interpretation.Mapping Interpretation.Service
  Interpretation.Outcomes Interpretation.FactIds Interpretation.Published Interpretation.FailClosed

/-- What `validate_definition` records of an example. -/
structure ExampleRecord where
  passed : Bool
  matched : Bool
  value : PyValue := .none
  failed : Bool := false
  deriving DecidableEq

/-- The body of the loop of `validate_definition`. -/
def recordExample (definition : MappingDefinition) (example_ : MappingExample) :
    Except Error ExampleRecord :=
  match matchNode definition example_.node with
  | none => return { passed := example_.expectedMatch == false, matched := false }
  | some captures =>
    match extract definition captures with
    | .ok value =>
      return {
        passed := example_.expectedMatch &&
          (example_.expectedValue == .none || PyValue.eq value example_.expectedValue)
        matched := true, value }
    | .error e =>
      if (Error.python e).isOutputError then
        return { passed := false, matched := true, failed := true }
      else .error (.python e)

/-- The verdict on an example is the one of its record. -/
theorem examplePassed_eq (definition : MappingDefinition) (example_ : MappingExample) :
    examplePassed definition example_ = (recordExample definition example_).map (·.passed) := by
  unfold examplePassed recordExample
  cases matchNode definition example_.node with
  | none => rfl
  | some captures =>
    dsimp only
    cases extract definition captures with
    | ok value => rfl
    | error e =>
      dsimp only
      split <;> rfl

/-- A fact on the statement with this value. -/
def Emits (uuid5 : UUID → String → UUID) (context : InterpretationContext) (pack : KnowledgePack)
    (mapping : DeclarativeMapping) (ir : StructuralIR) (node : ConfigNode) (value : TypedValue) :
    Prop :=
  ∃ fact container, interpretPair uuid5 context pack mapping ir node =
    .ok (.emitted fact container) ∧ fact.value = value

/-- The finished run has a fact of the mapping on the statement with this value. -/
def EmittedIn (result : InterpretationResult) (mapping : DeclarativeMapping) (node : ConfigNode)
    (value : TypedValue) : Prop :=
  ∃ fact ∈ result.facts, fact.mappingId = some mapping.mappingId ∧
    fact.sourceIrNodeIds.head? = some node.nodeId ∧ fact.value = value

/-- The interpreter does on a statement what the record of an example says. -/
def Agrees (emits : TypedValue → Prop) (type : TypedValueType) (record : ExampleRecord) : Prop :=
  (record.passed = true → record.matched = true → emits { type, value := record.value }) ∧
    (record.matched = false → ∀ value, ¬ emits value)

/-- What production asks of a statement besides its match: it was read whole, a negated
one removes its value, the value has the output type, and JSON can hold it. -/
structure Accepted (definition : MappingDefinition) (node : ConfigNode) (value : PyValue) :
    Prop where
  parsed : node.parseStatus = .parsed
  removes : node.negated = true → definition.negationBehavior = .removeValue
  typed : hasType definition.valueExtraction.outputType value = true
  written : value.dumps.isOk = true

/-- Where the example matches as it expects, production accepts the statement. -/
def Honoured (definition : MappingDefinition) (example_ : MappingExample) (node : ConfigNode) :
    Prop :=
  ∀ captures value, matchNode definition example_.node = some captures →
    extract definition captures = .ok value → example_.expectedMatch = true →
    (example_.expectedValue = .none ∨ PyValue.eq value example_.expectedValue = true) →
    Accepted definition node value

section Scopes

variable {ir : StructuralIR} {node : ConfigNode}

theorem encode_small {i : Int} (h : 0 ≤ i) (hmost : i ≤ 999) :
    ∃ text, PyValue.encode true (.int i) = .ok text := by
  obtain ⟨n, rfl⟩ := Int.eq_ofNat_of_zero_le h
  have hlength : (Nat.toDigits 10 n).length ≤ PyValue.maxStrDigits :=
    (Text.toDigits_length_le n 3 (by omega) (by omega)).trans (by decide)
  refine ⟨(toString (n : Int)).toList, ?_⟩
  rw [PyValue.encode, PyValue.intText, Int.natAbs_natCast, if_pos hlength]
  rfl

/-- A line number of a configuration is not negative. -/
theorem intOfText_nonneg {text : String} {i : Int} (hdigits : isInteger text = true)
    (h : PyValue.intOfText text = .ok i) : 0 ≤ i := by
  simp only [isInteger, Bool.and_eq_true, Bool.not_eq_true', List.all_eq_true] at hdigits
  obtain ⟨hne, hall⟩ := hdigits
  have hdigit : ∀ c ∈ text.toList, PyFloat.isDigit c = true := fun c hc =>
    Numerals.isDigit_of_isAsciiDigit (hall c hc)
  have hnonempty : text.toList ≠ [] := by
    simpa [String.isEmpty_iff] using hne
  obtain ⟨n, hn⟩ := Numerals.digitsValue_isSome hdigit
  rw [← String.ofList_toList (s := text), Numerals.intOfText_digits hdigit hnonempty hn] at h
  split at h
  · obtain rfl := Except.ok.inj h
    exact Int.natCast_nonneg n
  · cases h

theorem encode_scope {scope : ScopeRef} {parts : List (String × List Char)}
    (h : PyValue.encodeEntries true scope.attributes = .ok parts) :
    ∃ text, PyValue.encode true scope.toDict = .ok text := by
  rw [ScopeRef.toDict]
  simp only [PyValue.encode, PyValue.encodeEntries, h, bind, Except.bind, pure, Except.pure]
  exact ⟨_, rfl⟩

/-- The bounds of a line range are small numbers. -/
theorem vtyRange_spec {outcome : ScopeOutcome} {scope : ScopeRef}
    (h : resolveVtyRange node ir = .ok outcome) (hscope : outcome.scope = some scope) :
    scope.type = "vty_range" ∧ scope.key.isEmpty = false ∧
      ∃ text, PyValue.encode true scope.toDict = .ok text := by
  unfold resolveVtyRange at h
  split at h
  · obtain rfl := except_pure_eq_ok.mp h
    cases hscope
  rename_i parent hparent
  split at h
  · obtain rfl := except_pure_eq_ok.mp h
    cases hscope
  rename_i hline
  simp only [isVtyLine, Bool.not_eq_true, Bool.not_eq_false', Bool.and_eq_true,
    List.all_eq_true] at hline
  obtain ⟨start, hstart, h⟩ := except_bind_eq_ok.mp h
  obtain ⟨finish, h⟩ : ∃ finish : Int,
      (if (decide (finish < start) || decide (999 < finish)) = true
      then pure (unresolvedScope (some parent) "unsupported_vty_scope")
      else pure { scope := some (vtyRangeScope start finish), contextNode := some parent } :
        Except PyError ScopeOutcome) = .ok outcome := by
    dsimp only at h
    split at h <;> obtain ⟨finish, -, h⟩ := except_bind_eq_ok.mp h <;> exact ⟨finish, h⟩
  split at h
  · obtain rfl := except_pure_eq_ok.mp h
    cases hscope
  rename_i hbounds
  simp only [Bool.or_eq_true, decide_eq_true_eq, not_or, not_lt] at hbounds
  obtain rfl := except_pure_eq_ok.mp h
  obtain rfl := Option.some.inj hscope
  have hnonneg : 0 ≤ start := by
    refine intOfText_nonneg (hline.2 _ ?_) hstart
    have hlength : 1 < parent.arguments.length := by
      rcases Bool.or_eq_true _ _ |>.mp hline.1.1.2 with h | h <;> simp at h <;> omega
    rw [List.getD_eq_getElem?_getD, List.getElem?_eq_getElem hlength, Option.getD_some]
    exact List.mem_drop_iff_getElem.mpr ⟨0, by omega, rfl⟩
  obtain ⟨startText, hstartText⟩ := encode_small hnonneg (hbounds.1.trans hbounds.2)
  obtain ⟨finishText, hfinishText⟩ := encode_small (hnonneg.trans hbounds.1) hbounds.2
  have hparts : PyValue.encodeEntries true (vtyRangeScope start finish).attributes =
      .ok [("start", startText), ("end", finishText)] := by
    simp only [vtyRangeScope, PyValue.encodeEntries, hstartText, hfinishText, bind, Except.bind,
      pure, Except.pure]
  exact ⟨rfl, by simp [vtyRangeScope], encode_scope hparts⟩

/-- What a resolver of the language's strategies establishes. -/
theorem scope_spec {strategy : ScopeStrategy} {outcome : ScopeOutcome} {scope : ScopeRef}
    (h : resolveScope strategy.text node ir = .ok outcome) (hscope : outcome.scope = some scope) :
    scope.type = strategy.text ∧ scope.key.isEmpty = false ∧
      ∃ text, PyValue.encode true scope.toDict = .ok text := by
  cases strategy with
  | device =>
    obtain rfl := except_pure_eq_ok.mp h
    obtain rfl := Option.some.inj hscope
    exact ⟨rfl, by decide, _, rfl⟩
  | vtyRange => exact vtyRange_spec h hscope
  | interface =>
    obtain rfl := except_pure_eq_ok.mp h
    unfold resolveFortiosInterface resolveFortiosEntry at hscope
    dsimp only at hscope
    split at hscope
    · split at hscope
      · cases hscope
      · split at hscope
        · cases hscope
        · obtain rfl := Option.some.inj hscope
          exact ⟨rfl, by simp [namedScope], encode_scope rfl⟩
    · cases hscope
  | currentScope | parentScope | managementPlane | interfaceRange | vrf | securityZone | global =>
    cases h

end Scopes

section Pair

variable {uuid5 : UUID → String → UUID} {context : InterpretationContext} {pack : KnowledgePack}
  {row : MappingVersion} {ir : StructuralIR} {node : ConfigNode} {projected : ValidationNode}
  {captures : Captures} {value : PyValue} {outcome : ScopeOutcome} {scope : ScopeRef}

theorem mappingMatches_eq
    (hnode : trainingValidationNode node ir row.definition.scopeResolution.strategy.text =
      .ok projected) :
    mappingMatches (adapterOf row) node ir = .ok (matchNode row.definition projected).isSome := by
  simp only [mappingMatches, adapterOf, hnode]
  rfl

theorem extractMapping_eq
    (hnode : trainingValidationNode node ir row.definition.scopeResolution.strategy.text =
      .ok projected) (hmatch : matchNode row.definition projected = some captures)
    (hvalue : extract row.definition captures = .ok value) :
    extractMapping (adapterOf row) node ir =
      .ok (extracted { type := row.definition.valueExtraction.outputType, value }) := by
  simp only [extractMapping, adapterOf, hnode, hmatch, hvalue, bind, Except.bind, pure, Except.pure]
  rfl

/-- The field takes the value in the scope when it has the output type. -/
theorem outputValid_iff
    (hscope : resolveScope row.definition.scopeResolution.strategy.text node ir = .ok outcome)
    (hsome : outcome.scope = some scope) :
    outputValid row.definition.targetFieldId
        { type := row.definition.valueExtraction.outputType, value } scope = true ↔
      hasType row.definition.valueExtraction.outputType value = true := by
  obtain ⟨htype, hkey, -⟩ := scope_spec hscope hsome
  obtain ⟨field, hfield, houtput, hallowed⟩ := row.definition.field_spec
  unfold outputValid
  constructor
  · intro h
    obtain ⟨found, hfound⟩ := exists_of_isOk h
    exact (validateFieldValueScope_eq_ok.mp hfound).2.2.2.1
  · intro h
    rw [validateFieldValueScope_eq_ok.mpr ⟨hfield, houtput, htype ▸ hallowed, h, hkey⟩]
    rfl

/-- A fact is built when JSON can hold its value. -/
theorem buildFact_ok_iff {mapping : DeclarativeMapping} {typed : TypedValue}
    (hscope : ∃ text, PyValue.encode true scope.toDict = .ok text) (nodes : List ConfigNode)
    (quality : FactQuality) (versionId : Option UUID) :
    (∃ fact, buildFact uuid5 context pack mapping typed scope nodes quality versionId = .ok fact ∧
      fact.value = typed) ↔ ∃ text, PyValue.encode true typed.toDict = .ok text := by
  have hidentity : ∀ ids, factIdentity context mapping (versionId.getD mapping.mappingVersionId) ids
      typed scope = identityObject context.auditId.str
        (versionId.getD mapping.mappingVersionId).str mapping.fieldId ids scope typed :=
    fun _ => rfl
  simp only [buildFact, draftFact, hidentity]
  constructor
  · rintro ⟨fact, h, -⟩
    obtain ⟨text, htext, -⟩ := except_bind_eq_ok.mp h
    obtain ⟨_, valueText, -, hvalue, -⟩ := identityObject_dumps.mp (liftM_eq_ok.mp htext)
    exact ⟨valueText, hvalue⟩
  · rintro ⟨valueText, hvalue⟩
    obtain ⟨scopeText, hscope⟩ := hscope
    have hdumps := identityObject_dumps.mpr ⟨scopeText, valueText, hscope, hvalue,
      String.toList_ofList (l := identityText context.auditId.str
        (versionId.getD mapping.mappingVersionId).str mapping.fieldId
        (nodes.map (·.nodeId)) scopeText valueText)⟩
    simp only [hdumps]
    exact ⟨_, rfl, rfl⟩

theorem encode_typed_iff {type : TypedValueType} :
    (∃ text, PyValue.encode true (TypedValue.toDict { type, value }) = .ok text) ↔
      value.dumps.isOk = true := by
  rw [TypedValue.toDict, PyValue.dumps]
  cases hvalue : PyValue.encode true value with
  | ok text =>
    simp [PyValue.encode, PyValue.encodeEntries, optionText, hvalue, bind, Except.bind, pure,
      Except.pure, Except.map, Except.isOk, Except.toBool]
  | error e =>
    simp [PyValue.encode, PyValue.encodeEntries, hvalue, bind, Except.bind, Except.map,
      Except.isOk, Except.toBool]

/-- The fact of a value of the definition in the scope that the resolver establishes. -/
theorem stated_iff {type : TypedValueType}
    (hscope : resolveScope row.definition.scopeResolution.strategy.text node ir = .ok outcome)
    (hsome : outcome.scope = some scope) :
    (∃ fact, buildFact uuid5 context pack (adapterOf row) { type, value } scope
        (node :: outcome.contextNode.toList) {} none = .ok fact ∧
      fact.value = { type, value }) ↔ value.dumps.isOk = true :=
  (buildFact_ok_iff (scope_spec hscope hsome).2.2 _ {} none).trans encode_typed_iff

theorem positive_iff
    (hnode : trainingValidationNode node ir row.definition.scopeResolution.strategy.text =
      .ok projected) (hmatch : matchNode row.definition projected = some captures)
    (hvalue : extract row.definition captures = .ok value)
    (hscope : resolveScope row.definition.scopeResolution.strategy.text node ir = .ok outcome)
    (hsome : outcome.scope = some scope) :
    (∃ fact container, interpretPositive uuid5 context pack (adapterOf row) ir node =
        .ok (.emitted fact container) ∧
      fact.value = { type := row.definition.valueExtraction.outputType, value }) ↔
      node.parseStatus = .parsed ∧
        hasType row.definition.valueExtraction.outputType value = true ∧
        value.dumps.isOk = true := by
  have hresolved : resolveScope (adapterOf row).scopeResolver node ir = .ok outcome := hscope
  have hbuilds : (∃ fact, buildFact uuid5 context pack (adapterOf row)
      { type := row.definition.valueExtraction.outputType, value } scope
      (node :: outcome.contextNode.toList) {} none = .ok fact ∧ fact.value = _) ↔
        value.dumps.isOk = true := stated_iff hscope hsome
  rw [← outputValid_iff hscope hsome, ← hbuilds]
  have hextract := extractMapping_eq hnode hmatch hvalue
  constructor
  · rintro ⟨fact, container, h, hfact⟩
    unfold interpretPositive at h
    split at h
    · cases except_pure_eq_ok.mp h
    rename_i hparsed
    simp only [bne_iff_ne, ne_eq, not_not] at hparsed
    obtain ⟨extraction, hextraction, h⟩ := except_bind_eq_ok.mp h
    obtain rfl := Except.ok.inj (hextract.symm.trans hextraction)
    obtain ⟨found, hfound, h⟩ := except_bind_eq_ok.mp h
    obtain rfl := Except.ok.inj (hresolved.symm.trans (liftM_eq_ok.mp hfound))
    simp only [hsome] at h
    obtain ⟨_, hvalid, h⟩ := except_bind_eq_ok.mp h
    obtain ⟨built, hbuilt, h⟩ := except_bind_eq_ok.mp h
    cases except_pure_eq_ok.mp h
    rw [raiseIf_eq_ok, Bool.not_eq_false'] at hvalid
    exact ⟨hparsed, hvalid, _, hbuilt, hfact⟩
  · rintro ⟨hparsed, hvalid, fact, hbuilt, hfact⟩
    refine ⟨fact, outcome.contextNode, ?_, hfact⟩
    unfold interpretPositive
    rw [if_neg (by simp [hparsed])]
    refine except_bind_eq_ok.mpr ⟨_, hextract, except_bind_eq_ok.mpr
      ⟨outcome, liftM_eq_ok.mpr hresolved, ?_⟩⟩
    simp only [hsome]
    refine except_bind_eq_ok.mpr ⟨(), ?_, except_bind_eq_ok.mpr ⟨fact, hbuilt, rfl⟩⟩
    rw [raiseIf_eq_ok, Bool.not_eq_false']
    exact hvalid

/-- Of the behaviors only a removal states the value that was read. -/
theorem negatedValue_read
    (hextract : extractMapping (adapterOf row) node ir =
      .ok (extracted { type := row.definition.valueExtraction.outputType, value }))
    (h : NegatedValue (adapterOf row) ir node scope
      { type := row.definition.valueExtraction.outputType, value }) :
    row.definition.negationBehavior = .removeValue ∧ outputValid row.definition.targetFieldId
      { type := row.definition.valueExtraction.outputType, value } scope = true := by
  cases hbehavior : row.definition.negationBehavior with
  | unsupported | emitValue | unknown =>
    simp [NegatedValue, adapterOf, negationBehaviorOf, hbehavior] at h
  | resetToDefault =>
    simp only [NegatedValue, adapterOf, negationBehaviorOf, hbehavior] at h
    exact absurd (congrArg TypedValue.type h.2.2) (outputType_ne_null _)
  | removeValue =>
    simp only [NegatedValue, adapterOf, negationBehaviorOf, hbehavior] at h
    exact ⟨rfl, h.2⟩
  | invertBoolean =>
    simp only [NegatedValue, adapterOf, negationBehaviorOf, hbehavior] at h
    obtain ⟨read, ⟨extraction, hextraction, hread⟩, -, hinverted⟩ := h
    obtain rfl := Except.ok.inj (hextract.symm.trans hextraction)
    obtain rfl := Option.some.inj hread
    -- no value is its own negation
    have hvalue : value = .bool (!value.truthy) := congrArg TypedValue.value hinverted
    cases value with
    | bool b => cases b <;> simp [PyValue.truthy] at hvalue
    | _ => cases hvalue

/-- A negated statement gives the recorded value only where the mapping removes it. -/
theorem negated_iff
    (hnode : trainingValidationNode node ir row.definition.scopeResolution.strategy.text =
      .ok projected) (hmatch : matchNode row.definition projected = some captures)
    (hvalue : extract row.definition captures = .ok value)
    (hscope : resolveScope row.definition.scopeResolution.strategy.text node ir = .ok outcome)
    (hsome : outcome.scope = some scope) :
    (∃ fact, buildNegatedFact uuid5 context pack (adapterOf row) ir node = .ok (some fact) ∧
      fact.value = { type := row.definition.valueExtraction.outputType, value }) ↔
      node.parseStatus = .parsed ∧ row.definition.negationBehavior = .removeValue ∧
        hasType row.definition.valueExtraction.outputType value = true ∧
        value.dumps.isOk = true := by
  have hresolved : resolveScope (adapterOf row).scopeResolver node ir = .ok outcome := hscope
  have hbuilds : (∃ fact, buildFact uuid5 context pack (adapterOf row)
      { type := row.definition.valueExtraction.outputType, value } scope
      (node :: outcome.contextNode.toList) {} none = .ok fact ∧ fact.value = _) ↔
        value.dumps.isOk = true := stated_iff hscope hsome
  rw [← outputValid_iff hscope hsome, ← hbuilds]
  have hextract := extractMapping_eq hnode hmatch hvalue
  constructor
  · rintro ⟨fact, h, hfact⟩
    obtain ⟨place, own, stated, hstates, hdraft⟩ := buildNegatedFact_drafted h
    have hsame : stated = { type := row.definition.valueExtraction.outputType, value } :=
      hdraft.value.symm.trans hfact
    obtain ⟨hbehavior, hvalid⟩ := negatedValue_read hextract (hsame ▸ hstates.stated)
    obtain ⟨found, hfound, hplace, -⟩ := hstates.placed
    obtain rfl := Except.ok.inj (hresolved.symm.trans hfound)
    obtain rfl := Option.some.inj (hsome.symm.trans hplace)
    obtain ⟨text, htext, -⟩ := hdraft.identity
    obtain ⟨_, valueText, -, hvalueText, -⟩ := identityObject_dumps.mp htext
    rw [hfact] at hvalueText
    exact ⟨hstates.parsed, hbehavior, hvalid,
      hbuilds.mpr (encode_typed_iff.mp ⟨valueText, hvalueText⟩)⟩
  · rintro ⟨hparsed, hbehavior, hvalid, fact, hbuilt, hfact⟩
    refine ⟨fact, ?_, hfact⟩
    have hremoves : (adapterOf row).negationBehavior = .removeValue := by
      simp [adapterOf, negationBehaviorOf, hbehavior]
    unfold buildNegatedFact
    rw [if_neg (by simp [hparsed, hremoves])]
    refine except_bind_eq_ok.mpr ⟨outcome, liftM_eq_ok.mpr hresolved, ?_⟩
    simp only [hsome, hremoves]
    refine except_bind_eq_ok.mpr ⟨_, hextract, ?_⟩
    simp only [extracted]
    have hvalid : outputValid (adapterOf row).fieldId
        { type := row.definition.valueExtraction.outputType, value } scope = true := hvalid
    rw [if_neg (by simp [hvalid])]
    exact except_bind_eq_ok.mpr ⟨fact, hbuilt, rfl⟩

theorem emits_iff
    (hnode : trainingValidationNode node ir row.definition.scopeResolution.strategy.text =
      .ok projected) (hmatch : matchNode row.definition projected = some captures)
    (hvalue : extract row.definition captures = .ok value)
    (hscope : resolveScope row.definition.scopeResolution.strategy.text node ir = .ok outcome)
    (hsome : outcome.scope = some scope) :
    Emits uuid5 context pack (adapterOf row) ir node
        { type := row.definition.valueExtraction.outputType, value } ↔
      Accepted row.definition node value := by
  have hmatches : mappingMatches (adapterOf row) node ir = .ok true := by
    rw [mappingMatches_eq hnode, hmatch]
    rfl
  cases hneg : node.negated with
  | false =>
    have hpair : interpretPair uuid5 context pack (adapterOf row) ir node =
        interpretPositive uuid5 context pack (adapterOf row) ir node := by
      unfold interpretPair
      rw [hmatches, hneg]
      rfl
    rw [Emits, hpair, positive_iff hnode hmatch hvalue hscope hsome]
    constructor
    · rintro ⟨hparsed, htyped, hwritten⟩
      exact ⟨hparsed, fun h => absurd (hneg.symm.trans h) (by decide), htyped, hwritten⟩
    · rintro ⟨hparsed, -, htyped, hwritten⟩
      exact ⟨hparsed, htyped, hwritten⟩
  | true =>
    have hpair : ∀ fact, (∃ container, interpretPair uuid5 context pack (adapterOf row) ir node =
        .ok (.emitted fact container)) ↔
          buildNegatedFact uuid5 context pack (adapterOf row) ir node = .ok (some fact) := by
      intro fact
      unfold interpretPair
      simp only [hmatches, hneg, bind, Except.bind]
      cases buildNegatedFact uuid5 context pack (adapterOf row) ir node with
      | error e => simp
      | ok result => cases result <;> simp [pure, Except.pure]
    have hboth : (∃ fact, buildNegatedFact uuid5 context pack (adapterOf row) ir node =
        .ok (some fact) ∧ fact.value = _) ↔ _ := negated_iff hnode hmatch hvalue hscope hsome
    simp only [← hpair] at hboth
    unfold Emits
    constructor
    · rintro ⟨fact, container, h, hfact⟩
      obtain ⟨hparsed, hremoves, htyped, hwritten⟩ := hboth.mp ⟨fact, ⟨container, h⟩, hfact⟩
      exact ⟨hparsed, fun _ => hremoves, htyped, hwritten⟩
    · rintro ⟨hparsed, hremoves, htyped, hwritten⟩
      obtain ⟨fact, ⟨container, h⟩, hfact⟩ := hboth.mpr ⟨hparsed, hremoves hneg, htyped, hwritten⟩
      exact ⟨fact, container, h, hfact⟩

/-- A statement that the definition does not match gives nothing. -/
theorem not_emits_of_unmatched
    (hnode : trainingValidationNode node ir row.definition.scopeResolution.strategy.text =
      .ok projected) (hmatch : matchNode row.definition projected = none) (value : TypedValue) :
    ¬ Emits uuid5 context pack (adapterOf row) ir node value := by
  rintro ⟨fact, container, h, -⟩
  unfold interpretPair at h
  rw [mappingMatches_eq hnode, hmatch] at h
  cases h

end Pair

section Examples

variable {definition : MappingDefinition} {example_ : MappingExample} {record : ExampleRecord}
  {captures : Captures}

/-- A passed example that matched records the value extracted from it. -/
theorem recordExample_matched (h : recordExample definition example_ = .ok record)
    (hmatch : matchNode definition example_.node = some captures) :
    record.matched = true ∧ ∀ value, extract definition captures = .ok value →
      record.value = value ∧ (record.passed = true ↔ example_.expectedMatch = true ∧
        (example_.expectedValue = .none ∨
          PyValue.eq value example_.expectedValue = true)) := by
  unfold recordExample at h
  simp only [hmatch] at h
  cases hextract : extract definition captures with
  | ok value =>
    simp only [hextract] at h
    obtain rfl := except_pure_eq_ok.mp h
    refine ⟨rfl, fun other hother => ?_⟩
    obtain rfl := Except.ok.inj hother
    simp
  | error e =>
    simp only [hextract] at h
    split at h
    · obtain rfl := except_pure_eq_ok.mp h
      exact ⟨rfl, fun value hvalue => by cases hvalue⟩
    · cases h

/-- An example whose extraction fails does not pass. -/
theorem extract_of_passed (h : recordExample definition example_ = .ok record)
    (hmatch : matchNode definition example_.node = some captures) (hpassed : record.passed = true) :
    ∃ value, extract definition captures = .ok value := by
  unfold recordExample at h
  simp only [hmatch] at h
  cases hextract : extract definition captures with
  | ok value => exact ⟨value, rfl⟩
  | error e =>
    simp only [hextract] at h
    split at h
    · obtain rfl := except_pure_eq_ok.mp h
      cases hpassed
    · cases h

theorem recordExample_unmatched (h : recordExample definition example_ = .ok record)
    (hmatch : matchNode definition example_.node = none) : record.matched = false := by
  unfold recordExample at h
  simp only [hmatch] at h
  obtain rfl := except_pure_eq_ok.mp h
  rfl

end Examples

section Runs

variable {uuid5 : UUID → String → UUID} {context : InterpretationContext} {pack : KnowledgePack}
  {mapping : DeclarativeMapping} {ir : StructuralIR} {node : ConfigNode}

/-- A finished run holds what the interpreter makes of each pair, and nothing else. -/
theorem emittedIn_iff {profileVersionId : String} {profile : ProfileManifest}
    {result : InterpretationResult}
    (h : interpretStructuralIr uuid5 context ir profileVersionId (some pack) (some profile) =
      .ok result)
    (hids : ((statements ir).map (·.nodeId)).Nodup) (hnode : node ∈ statements ir)
    (hmapping : mapping ∈ pack.mappings) (value : TypedValue) :
    EmittedIn result mapping node value ↔ Emits uuid5 context pack mapping ir node value := by
  obtain ⟨hmappings, attempts, hrun, rfl⟩ := interpretStructuralIr_ok h
  constructor
  · rintro ⟨fact, hfact, hmappingId, hhead, hvalue⟩
    obtain ⟨attempt, hattempt, hemitted⟩ := List.mem_filterMap.mp hfact
    obtain ⟨⟨other, own⟩, hpair, hone⟩ := mapM_exists_input hrun hattempt
    obtain ⟨consumed, houtcome⟩ := attemptPair_fact hone hemitted
    obtain ⟨versionId, container, stated, scope, hdraft, -, -⟩ := interpretPair_drafted houtcome
    obtain ⟨hother, hown⟩ := mem_pairs.mp hpair
    obtain rfl : own = mapping := List.inj_on_of_nodup_map hmappings hown hmapping
      (Option.some.inj (hdraft.mappingId.symm.trans hmappingId))
    obtain rfl : other = node := by
      refine List.inj_on_of_nodup_map hids hother hnode ?_
      rw [hdraft.nodes] at hhead
      exact Option.some.inj hhead
    exact ⟨fact, consumed, houtcome, hvalue⟩
  · rintro ⟨fact, consumed, houtcome, hvalue⟩
    obtain ⟨attempt, hattempt, hone⟩ := mapM_exists_output hrun (mem_pairs.mpr ⟨hnode, hmapping⟩)
    obtain ⟨versionId, container, stated, scope, hdraft, -, -⟩ := interpretPair_drafted houtcome
    have hemitted : attempt.fact? = some fact := by
      obtain ⟨outcome, houtcome', hone⟩ := except_bind_eq_ok.mp hone
      obtain rfl := Except.ok.inj (houtcome.symm.trans houtcome')
      obtain rfl := except_pure_eq_ok.mp hone
      rfl
    refine ⟨fact, List.mem_filterMap.mpr ⟨attempt, hattempt, hemitted⟩, hdraft.mappingId, ?_,
      hvalue⟩
    rw [hdraft.nodes]
    rfl

end Runs

/-- Of one pair, whatever the rest of the pack is. -/
theorem pair_agrees_iff {uuid5 : UUID → String → UUID} {context : InterpretationContext}
    {pack : KnowledgePack} {row : MappingVersion} {example_ : MappingExample}
    {record : ExampleRecord} (hrecord : recordExample row.definition example_ = .ok record)
    {ir : StructuralIR} {node : ConfigNode}
    (hnode : trainingValidationNode node ir row.definition.scopeResolution.strategy.text =
      .ok example_.node) {outcome : ScopeOutcome}
    (hscope : resolveScope row.definition.scopeResolution.strategy.text node ir = .ok outcome)
    {scope : ScopeRef} (hsome : outcome.scope = some scope) :
    Agrees (Emits uuid5 context pack (adapterOf row) ir node)
        row.definition.valueExtraction.outputType record ↔
      Honoured row.definition example_ node := by
  cases hmatch : matchNode row.definition example_.node with
  | none =>
    have hunmatched := recordExample_unmatched hrecord hmatch
    constructor
    · intro _ captures value hsome'
      rw [hmatch] at hsome'
      cases hsome'
    · intro _
      exact ⟨fun _ hmatched => absurd (hunmatched.symm.trans hmatched) (by decide),
        fun _ value => not_emits_of_unmatched hnode hmatch value⟩
  | some captures =>
    obtain ⟨hmatched, hreads⟩ := recordExample_matched hrecord hmatch
    constructor
    · rintro ⟨hagrees, -⟩ captures' value hmatch' hvalue hexpected hequal
      obtain rfl := Option.some.inj (hmatch.symm.trans hmatch')
      obtain ⟨hrecorded, hpassed⟩ := hreads value hvalue
      have hemits := hagrees (hpassed.mpr ⟨hexpected, hequal⟩) hmatched
      rw [hrecorded] at hemits
      exact (emits_iff hnode hmatch hvalue hscope hsome).mp hemits
    · intro hhonoured
      refine ⟨fun hpassed _ => ?_, fun hunmatched => absurd (hunmatched.symm.trans hmatched)
        (by decide)⟩
      obtain ⟨value, hvalue⟩ := extract_of_passed hrecord hmatch hpassed
      obtain ⟨hrecorded, hpasses⟩ := hreads value hvalue
      obtain ⟨hexpected, hequal⟩ := hpasses.mp hpassed
      rw [hrecorded]
      exact (emits_iff hnode hmatch hvalue hscope hsome).mpr
        (hhonoured captures value hmatch hvalue hexpected hequal)

/-- Production repeats what the validation of an example recorded exactly where it accepts
the statement: a negated one only where the definition removes its value. -/
theorem validation_agrees_iff (uuid5 : UUID → String → UUID) (context : InterpretationContext)
    (pack : KnowledgePack) {row : MappingVersion} {profileVersionId : String}
    {mapping : DeclarativeMapping} (hmapping : trainingMapping row profileVersionId = .ok mapping)
    {example_ : MappingExample} {record : ExampleRecord}
    (hrecord : recordExample row.definition example_ = .ok record)
    {ir : StructuralIR} {node : ConfigNode}
    (hnode : trainingValidationNode node ir mapping.scopeResolver = .ok example_.node)
    {outcome : ScopeOutcome} (hscope : resolveScope mapping.scopeResolver node ir = .ok outcome)
    (hestablished : outcome.scope.isSome = true) :
    (Agrees (Emits uuid5 context pack mapping ir node)
        row.definition.valueExtraction.outputType record ↔
      Honoured row.definition example_ node) ∧
    ∀ profile result, mapping ∈ pack.mappings → node ∈ statements ir →
      ((statements ir).map (·.nodeId)).Nodup →
      interpretStructuralIr uuid5 context ir profileVersionId (some pack) (some profile) =
        .ok result →
      (Agrees (EmittedIn result mapping node) row.definition.valueExtraction.outputType record ↔
        Honoured row.definition example_ node) := by
  obtain ⟨_, -, hmapping⟩ := except_bind_eq_ok.mp hmapping
  obtain rfl := except_pure_eq_ok.mp hmapping
  obtain ⟨scope, hsome⟩ := Option.isSome_iff_exists.mp hestablished
  have hpair : Agrees (Emits uuid5 context pack (adapterOf row) ir node)
      row.definition.valueExtraction.outputType record ↔ Honoured row.definition example_ node :=
    pair_agrees_iff hrecord hnode hscope hsome
  refine ⟨hpair, fun profile result hmem hstatement hids hrun => ?_⟩
  have hsame : EmittedIn result (adapterOf row) node =
      Emits uuid5 context pack (adapterOf row) ir node :=
    funext fun value => propext (emittedIn_iff hrun hids hstatement hmem value)
  rw [hsame]
  exact hpair

def serverExample (family : ExampleFamily) (address : String) (negated : Bool) : MappingExample :=
  { family
    node :=
      { command := "ntp", arguments := ["server", address], scopeType := some "device", negated }
    expectedMatch := true, expectedValue := .str address }

/-- The addresses of time servers, with an example of `no`. -/
def serverFields (negationBehavior : ExplicitBehavior) : MappingFields :=
  { profileApplicability := { profileVersionIds := ["acme@1.0.0"] }
    structuralMatch :=
      { command := "ntp"
        arguments := [{ operation := .literal, value := some "server" },
          { operation := .capture, name := some "server", valueType := some .string }] }
    targetFieldId := "time.ntp.server"
    valueExtraction := { operation := .capture, capture := some "server", outputType := .string }
    scopeResolution := { strategy := .device }
    negationBehavior, removalBehavior := .removeValue
    defaultBehavior := .unsupported
    examples := [serverExample .positive "192.0.2.1" false,
      serverExample .alternateValues "192.0.2.2" false, plainExample .negative "ntp" false,
      plainExample .wrongScope "a" false, serverExample .negation "192.0.2.1" true,
      plainExample .conflict "a" false, plainExample .regression "a" false] }

def serverDefinition : MappingDefinition := ⟨serverFields .removeValue, by decide +kernel⟩

/-- A removal is not supported, and the example of `no` still expects a value. -/
def additiveDefinition : MappingDefinition := ⟨serverFields .unsupported, by decide +kernel⟩

/-- The mapping of a definition. -/
def serverMapping (definition : MappingDefinition) : DeclarativeMapping :=
  adapterOf (draftRow acmeAdmin (acmeInput definition))

def serverPack (definition : MappingDefinition) : KnowledgePack :=
  { knowledgePackId := drawnId 6, knowledgePackVersionId := drawnId 7
    name := "Administrator validated mappings", version := "1", schemaVersion := "1.0.0"
    profileId := "acme", profileVersionId := "acme@1.0.0", mappings := [serverMapping definition] }

/-- The text that the id of a server's fact is made from. -/
def serverIdentity (nodeId : String) : String :=
  "\x7b\"audit_id\":\"00000000-0000-0000-0000-000000000002\",\"entity\":null," ++
    "\"field_id\":\"time.ntp.server\",\"mapping_version_id\":" ++
    "\"00000000-0000-4000-8000-000000000003\",\"scope\":\x7b\"attributes\":\x7b\x7d,\"key\":" ++
    "\"device\",\"type\":\"device\"\x7d,\"source_ir_node_ids\":[\"" ++ nodeId ++
    "\"],\"value\":\x7b\"original_unit\":null,\"original_value\":null,\"type\":\"string\"," ++
    "\"unit\":null,\"value\":\"192.0.2.1\"\x7d\x7d"

/-- The ids of an addition and of its removal, and of the baseline of the profile. -/
def serverUuid5 : UUID → String → UUID := UUID.ofTable
  [(serverIdentity "irn_ca56aea3f696e7f3133a94ad95e8f482", 0xcc62996c7f0c5b48811215198afdb3eb),
    (serverIdentity "irn_16fe0ae409ee332a76441a47494582f8", 0x5adac885153a5d189a65495acdcc9a12),
    ("runtime-profile:acme@1.0.0", 0xace63d972035232bfc4f49253280387)]

def removalExample : MappingExample := serverExample .negation "192.0.2.1" true

def removalRecord : ExampleRecord := { passed := true, matched := true, value := .str "192.0.2.1" }

/-- `no ntp server 192.0.2.1` is a statement that the example stands for. -/
theorem removal_projected : ∃ node ∈ statements removalIr, node.parseStatus = .parsed ∧
    (trainingValidationNode node removalIr "device").toOption = some removalExample.node := by
  decide +kernel

/-- A removal that the definition supports is recorded and read alike. -/
theorem validation_agrees_removal : removalExample ∈ serverDefinition.examples ∧
    recordExample serverDefinition removalExample = .ok removalRecord ∧
    ∃ node ∈ statements removalIr, ∃ result,
      interpretStructuralIr serverUuid5 exampleContext removalIr "acme@1.0.0"
        (some (serverPack serverDefinition)) (some acmeProfile) = .ok result ∧
      Agrees (EmittedIn result (serverMapping serverDefinition) node) .string removalRecord := by
  obtain ⟨node, hnode, hparsed, hprojected⟩ := removal_projected
  have hrecord : recordExample serverDefinition removalExample = .ok removalRecord :=
    toOption_eq_some.mp (by decide +kernel)
  obtain ⟨result, hrun⟩ := exists_of_isOk (x := interpretStructuralIr serverUuid5 exampleContext
    removalIr "acme@1.0.0" (some (serverPack serverDefinition)) (some acmeProfile))
    (by decide +kernel)
  have hhonoured : Honoured serverDefinition removalExample node := by
    intro captures value hmatch hvalue _ _
    have hcaptures : matchNode serverDefinition removalExample.node =
        some [("server", .str "192.0.2.1")] := by decide +kernel
    obtain rfl := Option.some.inj (hcaptures.symm.trans hmatch)
    have hread : extract serverDefinition [("server", .str "192.0.2.1")] =
        .ok (.str "192.0.2.1") := rfl
    obtain rfl := Except.ok.inj (hread.symm.trans hvalue)
    exact ⟨hparsed, fun _ => rfl, rfl, rfl⟩
  have hmapping : trainingMapping (draftRow acmeAdmin (acmeInput serverDefinition)) "acme@1.0.0" =
      .ok (serverMapping serverDefinition) := rfl
  have hscope : resolveScope (serverMapping serverDefinition).scopeResolver node removalIr =
      .ok { scope := some deviceScope } := rfl
  have hagrees := (validation_agrees_iff serverUuid5 exampleContext (serverPack serverDefinition)
    hmapping hrecord (toOption_eq_some.mp hprojected) hscope rfl).2 acmeProfile result
    (List.mem_singleton_self _) hnode (by decide +kernel) hrun
  exact ⟨by decide +kernel, hrecord, node, hnode, result, hrun, hagrees.mpr hhonoured⟩

/-- The same example passes where removals are not supported, and production states nothing. -/
theorem removal_recorded_not_emitted : removalExample ∈ additiveDefinition.examples ∧
    trainingMapping (draftRow acmeAdmin (acmeInput additiveDefinition)) "acme@1.0.0" =
      .ok (serverMapping additiveDefinition) ∧
    recordExample additiveDefinition removalExample = .ok removalRecord ∧
    ∃ node ∈ statements removalIr,
      trainingValidationNode node removalIr (serverMapping additiveDefinition).scopeResolver =
        .ok removalExample.node ∧
      resolveScope (serverMapping additiveDefinition).scopeResolver node removalIr =
        .ok { scope := some deviceScope } ∧
      ∃ result, interpretStructuralIr serverUuid5 exampleContext removalIr "acme@1.0.0"
          (some (serverPack additiveDefinition)) (some acmeProfile) = .ok result ∧
        result.facts = [] ∧
        ¬ Agrees (EmittedIn result (serverMapping additiveDefinition) node) .string
          removalRecord := by
  obtain ⟨node, hnode, -, hprojected⟩ := removal_projected
  have hrecord : recordExample additiveDefinition removalExample = .ok removalRecord :=
    toOption_eq_some.mp (by decide +kernel)
  have hdecided : ((interpretStructuralIr serverUuid5 exampleContext removalIr "acme@1.0.0"
      (some (serverPack additiveDefinition)) (some acmeProfile)).toOption.map (·.facts)) =
        some [] := by
    decide +kernel
  obtain ⟨result, hrun, hfacts⟩ := Option.map_eq_some_iff.mp hdecided
  refine ⟨by decide +kernel, rfl, hrecord, node, hnode, toOption_eq_some.mp hprojected, rfl, result,
    toOption_eq_some.mp hrun, hfacts, fun hagrees => ?_⟩
  obtain ⟨fact, hfact, -⟩ := hagrees.1 rfl rfl
  rw [hfacts] at hfact
  cases hfact

end ConfigAuditor.Training.ExampleAgreement
