import ConfigAuditor.Library.JsonStrings
import ConfigAuditor.Interpretation.FailClosed

/-!
# The identities of the facts of an audit

The id of a fact is made from the version of its mapping, its nodes, its field, scope and
value. A negated statement may be stated under another version than the mapping's own, which no
check keeps apart from the versions of other mappings.
-/
namespace ConfigAuditor.Interpretation.FactIds

open Library SecurityModel Parsing KnowledgePacks Training.Dsl Training.Matcher
  ProfileResolution Mapping Service UnresolvedBlocks Outcomes FailClosed JsonText

/-! ## The text of an identity -/

/-- `"name":text`. -/
def field (name : String) (text : List Char) : List Char := PyValue.jsonString name ++ ':' :: text

theorem passed_field {name : String} {text : List Char} (h : Passed text) :
    Passed (field name text) := by
  refine (passed_jsonString name).append ?_
  exact (passed_ordinary (ordinary_of_all (by decide : [':'].all ordinary = true))).append h

/-- The text from the scope on, the members in the order of their names. -/
def placeText (nodeIds : List String) (scope value : List Char) : List Char :=
  field "scope" scope ++ ',' :: (field "source_ir_node_ids"
    ('[' :: PyValue.commaSeparated (nodeIds.map PyValue.jsonString) ++ [']']) ++ ',' ::
      (field "value" value ++ ['\x7d']))

def identityText (auditId versionId fieldId : String) (nodeIds : List String)
    (scope value : List Char) : List Char :=
  '\x7b' :: (field "audit_id" (PyValue.jsonString auditId) ++ ',' ::
    (field "entity" "null".toList ++ ',' ::
      (field "field_id" (PyValue.jsonString fieldId) ++ ',' ::
        (field "mapping_version_id" (PyValue.jsonString versionId) ++ ',' ::
          placeText nodeIds scope value))))

theorem ordered_fields (audit version nodes field scope entity value : List Char) :
    PyValue.ordered true [("audit_id", audit), ("mapping_version_id", version),
        ("source_ir_node_ids", nodes), ("field_id", field), ("scope", scope),
        ("entity", entity), ("value", value)] =
      [("audit_id", audit), ("entity", entity), ("field_id", field),
        ("mapping_version_id", version), ("scope", scope), ("source_ir_node_ids", nodes),
        ("value", value)] := by
  have hle : ∀ a ∈ ["audit_id", "entity", "field_id", "mapping_version_id", "scope",
        "source_ir_node_ids", "value"],
      ∀ b ∈ ["audit_id", "entity", "field_id", "mapping_version_id", "scope",
        "source_ir_node_ids", "value"],
      (a ≤ b ↔ ["audit_id", "entity", "field_id", "mapping_version_id", "scope",
          "source_ir_node_ids", "value"].idxOf a ≤
        ["audit_id", "entity", "field_id", "mapping_version_id", "scope",
          "source_ir_node_ids", "value"].idxOf b) := by decide
  simp only [PyValue.ordered, if_true, List.insertionSort_cons, List.insertionSort_nil,
    List.orderedInsert]
  simp [hle]

theorem encodeList_strings (xs : List String) :
    PyValue.encodeList true (xs.map .str) = .ok (xs.map PyValue.jsonString) := by
  induction xs with
  | nil => rfl
  | cons x xs ih =>
    rw [List.map_cons, PyValue.encodeList, ih]
    rfl

/-- The object a fact id is made from. -/
def identityObject (auditId versionId fieldId : String) (nodeIds : List String)
    (scope : ScopeRef) (value : TypedValue) : PyValue :=
  .dict [("audit_id", .str auditId), ("mapping_version_id", .str versionId),
    ("source_ir_node_ids", .list (nodeIds.map .str)), ("field_id", .str fieldId),
    ("scope", scope.toDict), ("entity", .none), ("value", value.toDict)]

theorem identityObject_dumps {auditId versionId fieldId text : String} {nodeIds : List String}
    {scope : ScopeRef} {value : TypedValue} :
    (identityObject auditId versionId fieldId nodeIds scope value).dumps = .ok text ↔
      ∃ scopeText valueText, PyValue.encode true scope.toDict = .ok scopeText ∧
        PyValue.encode true value.toDict = .ok valueText ∧
        text.toList = identityText auditId versionId fieldId nodeIds scopeText valueText := by
  rw [PyValue.dumps, identityObject]
  cases hscope : PyValue.encode true scope.toDict with
  | error e =>
    simp [PyValue.encode, PyValue.encodeEntries, encodeList_strings, hscope, bind, Except.bind,
      pure, Except.pure, Except.map]
  | ok scopeText =>
    cases hvalue : PyValue.encode true value.toDict with
    | error e =>
      simp [PyValue.encode, PyValue.encodeEntries, encodeList_strings, hscope, hvalue, bind,
        Except.bind, pure, Except.pure, Except.map]
    | ok valueText =>
      simp only [PyValue.encode, PyValue.encodeEntries, encodeList_strings, hscope, hvalue, bind,
        Except.bind, pure, Except.pure, ordered_fields, Except.map, Except.ok.injEq]
      constructor
      · rintro rfl
        refine ⟨scopeText, valueText, rfl, rfl, ?_⟩
        simp [identityText, placeText, field, PyValue.commaSeparated, List.intercalate]
      · rintro ⟨_, _, rfl, rfl, htext⟩
        rw [← String.toList_inj, htext]
        simp [identityText, placeText, field, PyValue.commaSeparated, List.intercalate]

theorem field_cancel {name : String} {text text' : List Char}
    (h : field name text = field name text') : text = text' := by
  simpa [field] using h

theorem stringField_cancel {name s t : String} {rest rest' : List Char}
    (h : field name (PyValue.jsonString s) ++ ',' :: rest =
      field name (PyValue.jsonString t) ++ ',' :: rest') : s = t ∧ rest = rest' := by
  simp only [field, List.append_assoc, List.cons_append, List.append_cancel_left_eq,
    List.cons.injEq, true_and] at h
  obtain ⟨hsame, hrest⟩ := jsonString_cancel h
  exact ⟨hsame, (List.cons.inj hrest).2⟩

/-- An identity says all it is made from. -/
theorem identityText_injective {auditId versionId fieldId auditId' versionId' fieldId' : String}
    {nodeIds nodeIds' : List String} {scope value scope' value' : List Char}
    (hscope : Passed scope) (hscope' : Passed scope')
    (h : identityText auditId versionId fieldId nodeIds scope value =
      identityText auditId' versionId' fieldId' nodeIds' scope' value') :
    versionId = versionId' ∧ fieldId = fieldId' ∧ nodeIds = nodeIds' ∧ scope = scope' ∧
      value = value' := by
  simp only [identityText, List.cons.injEq, true_and] at h
  obtain ⟨-, h⟩ := stringField_cancel h
  have h := (List.cons.inj (List.append_cancel_left h)).2
  obtain ⟨hfield, h⟩ := stringField_cancel h
  obtain ⟨hversion, h⟩ := stringField_cancel h
  obtain ⟨hplace, h⟩ := passed_comma_cancel (passed_field hscope) (passed_field hscope') h
  simp only [field, List.append_assoc, List.cons_append, List.append_cancel_left_eq,
    List.cons.injEq, true_and, List.nil_append] at h
  obtain ⟨hnodes, h⟩ := jsonStrings_cancel h
  refine ⟨hversion, hfield, hnodes, field_cancel hplace, ?_⟩
  simpa using h

/-! ## The identity of a fact -/

/-- The text the id of a fact is made from. -/
def identityOf (fact : SecurityFactDraft) : Except PyError String :=
  (identityObject fact.auditId.str ((fact.mappingVersionId.map (·.str)).getD "") fact.fieldId
    fact.sourceIrNodeIds fact.scope fact.value).dumps

/-- Different texts among those of the facts have different ids. -/
def NamesApart (uuid5 : UUID → String → UUID) (namespaceId : UUID)
    (facts : List SecurityFactDraft) : Prop :=
  ∀ a ∈ facts, ∀ b ∈ facts, ∀ text text', identityOf a = .ok text → identityOf b = .ok text' →
    uuid5 namespaceId text = uuid5 namespaceId text' → text = text'

/-- What the id of a fact is made from, besides the audit. -/
structure SameIdentity (a b : SecurityFactDraft) : Prop where
  version : a.mappingVersionId = b.mappingVersionId
  field : a.fieldId = b.fieldId
  nodes : a.sourceIrNodeIds = b.sourceIrNodeIds
  scope : a.scope.toDict.dumps = b.scope.toDict.dumps
  value : a.value.toDict.dumps = b.value.toDict.dumps

theorem outputType_ne_null (definition : MappingDefinition) :
    definition.valueExtraction.outputType ≠ .null := by
  obtain ⟨field, hfield, htype, -⟩ := definition.field_spec
  intro hnull
  exact fields_no_null field (fieldRegistry_fieldId hfield).2 (hnull ▸ htype)

section Draft

variable {uuid5 : UUID → String → UUID} {context : InterpretationContext} {pack : KnowledgePack}
  {mapping mapping' : DeclarativeMapping}

/-- A fact as the builders make it. -/
structure Drafted (uuid5 : UUID → String → UUID) (context : InterpretationContext)
    (pack : KnowledgePack) (mapping : DeclarativeMapping) (versionId : UUID)
    (nodeIds : List String) (value : TypedValue) (scope : ScopeRef) (fact : SecurityFactDraft) :
    Prop where
  audit : fact.auditId = context.auditId
  packVersion : fact.knowledgePackVersionId = pack.knowledgePackVersionId
  mappingId : fact.mappingId = some mapping.mappingId
  version : fact.mappingVersionId = some versionId
  field : fact.fieldId = mapping.fieldId
  nodes : fact.sourceIrNodeIds = nodeIds
  value : fact.value = value
  scope : fact.scope = scope
  identity : ∃ text, identityOf fact = .ok text ∧
    fact.factId = uuid5 pack.knowledgePackVersionId text

theorem draftFact_drafted {versionId : UUID} {evidence : List EvidenceRef} {nodeIds : List String}
    {value : TypedValue} {scope : ScopeRef} {quality : FactQuality} {fact : SecurityFactDraft}
    (h : draftFact uuid5 context pack mapping versionId evidence nodeIds value scope quality =
      .ok fact) :
    Drafted uuid5 context pack mapping versionId nodeIds value scope fact := by
  obtain ⟨text, htext, h⟩ := except_bind_eq_ok.mp h
  rw [liftM_eq_ok] at htext
  obtain rfl := except_pure_eq_ok.mp h
  exact ⟨rfl, rfl, rfl, rfl, rfl, rfl, rfl, rfl, text, htext, rfl⟩

theorem dumps_eq_ok {value : PyValue} {chars : List Char}
    (h : PyValue.encode true value = .ok chars) : value.dumps = .ok (String.ofList chars) := by
  rw [PyValue.dumps, h]
  rfl

section Identities

variable {a b : SecurityFactDraft} {versionId versionId' : UUID} {nodeIds nodeIds' : List String}
  {value value' : TypedValue} {scope scope' : ScopeRef} {text text' : String}

theorem text_of_same (hdraft : Drafted uuid5 context pack mapping versionId nodeIds value scope a)
    (hdraft' : Drafted uuid5 context pack mapping' versionId' nodeIds' value' scope' b)
    (hsame : SameIdentity a b) (htext : identityOf a = .ok text) (htext' : identityOf b = .ok text') :
    text = text' := by
  obtain ⟨scopeText, valueText, hscope, hvalue, hwritten⟩ := identityObject_dumps.mp htext
  obtain ⟨scopeText', valueText', hscope', hvalue', hwritten'⟩ := identityObject_dumps.mp htext'
  have hscopes : scopeText = scopeText' := by
    have hdumps := hsame.scope
    rw [dumps_eq_ok hscope, dumps_eq_ok hscope', Except.ok.injEq, String.ofList_inj] at hdumps
    exact hdumps
  have hvalues : valueText = valueText' := by
    have hdumps := hsame.value
    rw [dumps_eq_ok hvalue, dumps_eq_ok hvalue', Except.ok.injEq, String.ofList_inj] at hdumps
    exact hdumps
  rw [← String.toList_inj, hwritten, hwritten', hscopes, hvalues, hsame.version, hsame.field,
    hsame.nodes, hdraft.audit, hdraft'.audit]

/-- Facts of one audit have one id exactly when their identities are alike. -/
theorem factId_eq_iff {facts : List SecurityFactDraft}
    (hnames : NamesApart uuid5 pack.knowledgePackVersionId facts) (ha : a ∈ facts) (hb : b ∈ facts)
    (hdraft : Drafted uuid5 context pack mapping versionId nodeIds value scope a)
    (hdraft' : Drafted uuid5 context pack mapping' versionId' nodeIds' value' scope' b) :
    a.factId = b.factId ↔ SameIdentity a b := by
  obtain ⟨text, htext, hid⟩ := hdraft.identity
  obtain ⟨text', htext', hid'⟩ := hdraft'.identity
  constructor
  · intro hsame
    have hequal := hnames a ha b hb text text' htext htext' (by rw [← hid, ← hid', hsame])
    obtain ⟨scopeText, valueText, hscope, hvalue, hwritten⟩ := identityObject_dumps.mp htext
    obtain ⟨scopeText', valueText', hscope', hvalue', hwritten'⟩ := identityObject_dumps.mp htext'
    rw [hdraft.version] at hwritten
    rw [hdraft'.version] at hwritten'
    rw [hequal, hwritten'] at hwritten
    obtain ⟨hversion, hfield, hnodes, hscopes, hvalues⟩ := identityText_injective
      (passed_encode _ _ hscope') (passed_encode _ _ hscope) hwritten
    refine ⟨?_, hfield.symm, hnodes.symm, ?_, ?_⟩
    · rw [hdraft.version, hdraft'.version]
      exact congrArg some (UUID.str_injective hversion).symm
    · rw [dumps_eq_ok hscope, dumps_eq_ok hscope', hscopes]
    · rw [dumps_eq_ok hvalue, dumps_eq_ok hvalue', hvalues]
  · intro hsame
    rw [hid, hid', text_of_same hdraft hdraft' hsame htext htext']

end Identities

/-! ## What a negated statement states -/

/-- The version a mapping states a negated fact under. -/
def writtenVersion (mapping : DeclarativeMapping) : UUID :=
  match mapping.negationBehavior with
  | .resetToDefault => mapping.resetMappingVersionId.getD mapping.mappingVersionId
  | .removeValue => mapping.removalMappingVersionId.getD mapping.mappingVersionId
  | .invertBoolean | .unsupported => mapping.mappingVersionId

/-- The value a mapping reads from a negated statement in its scope. -/
def NegatedValue (mapping : DeclarativeMapping) (ir : StructuralIR) (node : ConfigNode)
    (scope : ScopeRef) (value : TypedValue) : Prop :=
  match mapping.negationBehavior with
  | .unsupported => False
  | .resetToDefault =>
    node.arguments.map Text.lower = mapping.matcher.argumentsPrefix.map Text.lower ∧
      (∃ field, fieldRegistry mapping.fieldId = some field ∧
        scope.type ∈ field.allowedScopeTypes) ∧
      value = { type := .null, value := .none }
  | .removeValue => HasValue mapping ir node value ∧ outputValid mapping.fieldId value scope = true
  | .invertBoolean => ∃ read, HasValue mapping ir node read ∧ read.type = .boolean ∧
      value = { type := .boolean, value := .bool (!read.value.truthy),
                originalValue := read.originalValue }

/-- What a mapping states on a negated statement: a value in a scope that a container gives. -/
structure StatesNegated (mapping : DeclarativeMapping) (ir : StructuralIR) (node : ConfigNode)
    (scope : ScopeRef) (container : Option ConfigNode) (value : TypedValue) : Prop where
  parsed : node.parseStatus = .parsed
  placed : HasScope mapping ir node scope container
  stated : NegatedValue mapping ir node scope value

variable {ir : StructuralIR} {node : ConfigNode}

theorem StatesNegated.yields {scope : ScopeRef} {container : Option ConfigNode}
    {value : TypedValue} (h : StatesNegated mapping ir node scope container value) :
    YieldsNegated mapping ir node := by
  refine ⟨h.parsed, scope, container, h.placed, ?_⟩
  have hvalue := h.stated
  unfold NegatedValue at hvalue
  cases hbehavior : mapping.negationBehavior with
  | unsupported => simp [hbehavior] at hvalue
  | resetToDefault =>
    simp only [hbehavior] at hvalue ⊢
    exact ⟨hvalue.1, hvalue.2.1⟩
  | removeValue =>
    simp only [hbehavior] at hvalue ⊢
    exact ⟨value, hvalue⟩
  | invertBoolean =>
    simp only [hbehavior] at hvalue ⊢
    obtain ⟨read, hread, htype, -⟩ := hvalue
    exact ⟨read, hread, htype⟩

/-- A mapping states one thing on a negated statement. -/
theorem StatesNegated.unique {scope scope' : ScopeRef} {container container' : Option ConfigNode}
    {value value' : TypedValue} (h : StatesNegated mapping ir node scope container value)
    (h' : StatesNegated mapping ir node scope' container' value') :
    scope = scope' ∧ container = container' ∧ value = value' := by
  obtain ⟨outcome, hrun, hscope, hcontainer⟩ := h.placed
  obtain ⟨outcome', hrun', hscope', hcontainer'⟩ := h'.placed
  rw [hrun] at hrun'
  cases hrun'
  rw [hscope] at hscope'
  cases hscope'
  refine ⟨rfl, hcontainer.symm.trans hcontainer', ?_⟩
  have hvalue := h.stated
  have hvalue' := h'.stated
  have hread : ∀ {a b}, HasValue mapping ir node a → HasValue mapping ir node b → a = b := by
    rintro a b ⟨extraction, hextract, ha⟩ ⟨extraction', hextract', hb⟩
    rw [hextract] at hextract'
    cases hextract'
    rw [ha] at hb
    exact Option.some.inj hb
  unfold NegatedValue at hvalue hvalue'
  cases hbehavior : mapping.negationBehavior with
  | unsupported => simp [hbehavior] at hvalue
  | resetToDefault =>
    simp only [hbehavior] at hvalue hvalue'
    rw [hvalue.2.2, hvalue'.2.2]
  | removeValue =>
    simp only [hbehavior] at hvalue hvalue'
    exact hread hvalue.1 hvalue'.1
  | invertBoolean =>
    simp only [hbehavior] at hvalue hvalue'
    obtain ⟨read, hhas, -, rfl⟩ := hvalue
    obtain ⟨read', hhas', -, rfl⟩ := hvalue'
    rw [hread hhas hhas']

/-- A negated fact is built from what the mapping states. -/
theorem buildNegatedFact_built {fact : SecurityFactDraft}
    (h : buildNegatedFact uuid5 context pack mapping ir node = .ok (some fact)) :
    ∃ scope container value quality versionId,
      StatesNegated mapping ir node scope container value ∧
      versionId.getD mapping.mappingVersionId = writtenVersion mapping ∧
      buildFact uuid5 context pack mapping value scope (node :: container.toList) quality
        versionId = .ok fact := by
  unfold buildNegatedFact at h
  split at h
  · cases except_pure_eq_ok.mp h
  rename_i hsupported
  simp only [Bool.or_eq_true, decide_eq_true_eq, bne_iff_ne, ne_eq, not_or, not_not] at hsupported
  obtain ⟨hbehavior, hparsed⟩ := hsupported
  obtain ⟨outcome, hscope, h⟩ := except_bind_eq_ok.mp h
  rw [liftM_eq_ok] at hscope
  split at h
  · cases except_pure_eq_ok.mp h
  rename_i scope hsome
  have hplaced : HasScope mapping ir node scope outcome.contextNode :=
    ⟨outcome, hscope, hsome, rfl⟩
  revert h
  cases heq : mapping.negationBehavior with
  | unsupported => exact absurd heq hbehavior
  | resetToDefault =>
    intro h
    dsimp only at h
    split at h
    · cases except_pure_eq_ok.mp h
    rename_i hargs
    simp only [bne_iff_ne, ne_eq, not_not] at hargs
    obtain ⟨field, hfield, h⟩ := except_bind_eq_ok.mp h
    rw [getField_eq_ok] at hfield
    split at h
    · cases except_pure_eq_ok.mp h
    rename_i hallowed
    obtain ⟨built, hbuilt, h⟩ := except_bind_eq_ok.mp h
    obtain rfl := Option.some.inj (except_pure_eq_ok.mp h)
    have hversion : mapping.resetMappingVersionId.getD mapping.mappingVersionId =
        writtenVersion mapping := by
      rw [writtenVersion, heq]
    refine ⟨scope, outcome.contextNode, _, _, _, ⟨hparsed, hplaced, ?_⟩, hversion, hbuilt⟩
    rw [NegatedValue, heq]
    exact ⟨hargs, ⟨field, hfield, by simpa using hallowed⟩, rfl⟩
  | removeValue =>
    intro h
    dsimp only at h
    obtain ⟨extraction, hextract, h⟩ := except_bind_eq_ok.mp h
    split at h
    · cases except_pure_eq_ok.mp h
    rename_i value hvalue
    split at h
    · cases except_pure_eq_ok.mp h
    rename_i hvalid
    obtain ⟨built, hbuilt, h⟩ := except_bind_eq_ok.mp h
    obtain rfl := Option.some.inj (except_pure_eq_ok.mp h)
    have hversion : mapping.removalMappingVersionId.getD mapping.mappingVersionId =
        writtenVersion mapping := by
      rw [writtenVersion, heq]
    refine ⟨scope, outcome.contextNode, _, _, _, ⟨hparsed, hplaced, ?_⟩, hversion, hbuilt⟩
    rw [NegatedValue, heq]
    exact ⟨⟨extraction, hextract, hvalue⟩, by simpa using hvalid⟩
  | invertBoolean =>
    intro h
    dsimp only at h
    obtain ⟨extraction, hextract, h⟩ := except_bind_eq_ok.mp h
    split at h
    · cases except_pure_eq_ok.mp h
    rename_i value hvalue
    split at h
    · cases except_pure_eq_ok.mp h
    rename_i htype
    obtain ⟨built, hbuilt, h⟩ := except_bind_eq_ok.mp h
    obtain rfl := Option.some.inj (except_pure_eq_ok.mp h)
    have hversion : mapping.mappingVersionId = writtenVersion mapping := by
      rw [writtenVersion, heq]
    refine ⟨scope, outcome.contextNode, _, _, none, ⟨hparsed, hplaced, ?_⟩, hversion, hbuilt⟩
    rw [NegatedValue, heq]
    exact ⟨value, ⟨extraction, hextract, hvalue⟩, by simpa using htype, rfl⟩

/-- A negated fact is drafted from what the mapping states. -/
theorem buildNegatedFact_drafted {fact : SecurityFactDraft}
    (h : buildNegatedFact uuid5 context pack mapping ir node = .ok (some fact)) :
    ∃ scope container value, StatesNegated mapping ir node scope container value ∧
      Drafted uuid5 context pack mapping (writtenVersion mapping)
        ((node :: container.toList).map (·.nodeId)) value scope fact := by
  obtain ⟨scope, container, value, quality, versionId, hstates, hversion, hbuilt⟩ :=
    buildNegatedFact_built h
  exact ⟨scope, container, value, hstates, hversion ▸ draftFact_drafted hbuilt⟩

/-- What a mapping reads from a statement that it gives a fact on: a positive value under its
own version, or what it states on a negated one. -/
structure Gives (mapping : DeclarativeMapping) (ir : StructuralIR) (node : ConfigNode)
    (scope : ScopeRef) (container : Option ConfigNode) (value : TypedValue) (versionId : UUID) :
    Prop where
  matched : mappingMatches mapping node ir = .ok true
  parsed : node.parseStatus = .parsed
  placed : HasScope mapping ir node scope container
  positive : node.negated = false → versionId = mapping.mappingVersionId ∧
    HasValue mapping ir node value ∧ outputValid mapping.fieldId value scope = true
  negated : node.negated = true → versionId = writtenVersion mapping ∧
    NegatedValue mapping ir node scope value

/-- A positive fact is built from the value read, under the mapping's own version. -/
theorem interpretPositive_built {fact : SecurityFactDraft} {consumed : Option ConfigNode}
    (h : interpretPositive uuid5 context pack mapping ir node = .ok (.emitted fact consumed)) :
    ∃ scope container value, node.parseStatus = .parsed ∧
      HasScope mapping ir node scope container ∧ HasValue mapping ir node value ∧
      outputValid mapping.fieldId value scope = true ∧
      buildFact uuid5 context pack mapping value scope (node :: container.toList) {} none =
        .ok fact := by
  unfold interpretPositive at h
  split at h
  · cases except_pure_eq_ok.mp h
  rename_i hstatus
  obtain ⟨extraction, hextract, h⟩ := except_bind_eq_ok.mp h
  split at h
  · cases except_pure_eq_ok.mp h
  rename_i value hvalue
  obtain ⟨outcome, hscope, h⟩ := except_bind_eq_ok.mp h
  rw [liftM_eq_ok] at hscope
  split at h
  · cases except_pure_eq_ok.mp h
  rename_i scope hsome
  obtain ⟨_, hvalid, h⟩ := except_bind_eq_ok.mp h
  rw [raiseIf_eq_ok, Bool.not_eq_false'] at hvalid
  obtain ⟨built, hbuilt, h⟩ := except_bind_eq_ok.mp h
  cases except_pure_eq_ok.mp h
  exact ⟨scope, outcome.contextNode, value, by simpa using hstatus, ⟨outcome, hscope, hsome, rfl⟩,
    ⟨extraction, hextract, hvalue⟩, hvalid, hbuilt⟩

/-- Every fact on a statement is built from what its mapping reads there. -/
theorem interpretPair_built {fact : SecurityFactDraft} {consumed : Option ConfigNode}
    (h : interpretPair uuid5 context pack mapping ir node = .ok (.emitted fact consumed)) :
    ∃ scope container value quality versionId,
      Gives mapping ir node scope container value (versionId.getD mapping.mappingVersionId) ∧
      buildFact uuid5 context pack mapping value scope (node :: container.toList) quality
        versionId = .ok fact := by
  unfold interpretPair at h
  obtain ⟨matched, hmatched, h⟩ := except_bind_eq_ok.mp h
  cases matched with
  | false => cases except_pure_eq_ok.mp h
  | true =>
    simp only [Bool.not_true, Bool.false_eq_true, if_false] at h
    cases hneg : node.negated with
    | true =>
      simp only [hneg, if_true] at h
      obtain ⟨result, hbuild, h⟩ := except_bind_eq_ok.mp h
      cases result with
      | none => cases except_pure_eq_ok.mp h
      | some built =>
        cases except_pure_eq_ok.mp h
        obtain ⟨scope, container, value, quality, versionId, hstates, hversion, hbuilt⟩ :=
          buildNegatedFact_built hbuild
        exact ⟨scope, container, value, quality, versionId, ⟨hmatched, hstates.parsed,
          hstates.placed, by simp [hneg], fun _ => ⟨hversion, hstates.stated⟩⟩, hbuilt⟩
    | false =>
      simp only [hneg, Bool.false_eq_true, if_false] at h
      obtain ⟨scope, container, value, hparsed, hplaced, hvalue, hvalid, hbuilt⟩ :=
        interpretPositive_built h
      exact ⟨scope, container, value, {}, none, ⟨hmatched, hparsed, hplaced,
        fun _ => ⟨rfl, hvalue, hvalid⟩, by simp [hneg]⟩, hbuilt⟩

/-- What a mapping gives on a statement: a fact under its own version, or what it states on a
negated one. -/
theorem interpretPair_drafted {fact : SecurityFactDraft} {consumed : Option ConfigNode}
    (h : interpretPair uuid5 context pack mapping ir node = .ok (.emitted fact consumed)) :
    ∃ versionId container value scope,
      Drafted uuid5 context pack mapping versionId
        ((node :: container.toList).map (·.nodeId)) value scope fact ∧
      (node.negated = false →
        versionId = mapping.mappingVersionId ∧ HasValue mapping ir node value) ∧
      (node.negated = true → versionId = writtenVersion mapping ∧
        mappingMatches mapping node ir = .ok true ∧
        StatesNegated mapping ir node scope container value) := by
  obtain ⟨scope, container, value, quality, versionId, hgives, hbuilt⟩ := interpretPair_built h
  refine ⟨_, container, value, scope, draftFact_drafted hbuilt, fun hneg => ?_, fun hneg => ?_⟩
  · obtain ⟨hversion, hvalue, -⟩ := hgives.positive hneg
    exact ⟨hversion, hvalue⟩
  · obtain ⟨hversion, hstated⟩ := hgives.negated hneg
    exact ⟨hversion, hgives.matched, hgives.parsed, hgives.placed, hstated⟩

/-! ## The facts of command lines -/

/-- Two mappings of one field state the same on one negated statement under one version. -/
def StatedTwice (pack : KnowledgePack) (ir : StructuralIR) : Prop :=
  ∃ node ∈ statements ir, node.negated = true ∧ ∃ a ∈ pack.mappings, ∃ b ∈ pack.mappings,
    a ≠ b ∧ a.fieldId = b.fieldId ∧ writtenVersion a = writtenVersion b ∧
    mappingMatches a node ir = .ok true ∧ mappingMatches b node ir = .ok true ∧
    ∃ scope container value scope' container' value',
      StatesNegated a ir node scope container value ∧
      StatesNegated b ir node scope' container' value' ∧
      container.map (·.nodeId) = container'.map (·.nodeId) ∧
      scope.toDict.dumps = scope'.toDict.dumps ∧ value.toDict.dumps = value'.toDict.dumps

/-- The results of a loop have different keys when those of different inputs have. -/
theorem nodup_filterMap_mapM {α β γ κ : Type} {xs : List α} {ys : List β}
    {f : α → Except Error β} {g : β → Option γ} {key : γ → κ} (h : xs.mapM f = .ok ys)
    (hxs : xs.Nodup) : ((ys.filterMap g).map key).Nodup ↔
      ∀ x ∈ xs, ∀ x' ∈ xs, x ≠ x' → ∀ y y' z z', f x = .ok y → f x' = .ok y' →
        g y = some z → g y' = some z' → key z ≠ key z' := by
  have hpairs : ((ys.filterMap g).map key).Nodup ↔
      xs.Pairwise fun x x' => ∀ y y' z z', f x = .ok y → f x' = .ok y' →
        g y = some z → g y' = some z' → key z ≠ key z' := by
    rw [List.Nodup, List.pairwise_map, List.pairwise_filterMap]
    rw [mapM_eq_ok] at h
    clear hxs
    induction h with
    | nil => simp
    | @cons x y xs ys hxy hrest ih =>
      rw [List.pairwise_cons, List.pairwise_cons, ih]
      refine and_congr_left fun _ => ?_
      constructor
      · intro hall x' hx' y₁ y' z z' hy₁ hy' hz hz'
        obtain ⟨y₂, hy₂, hrun⟩ := mapM_exists_output (mapM_eq_ok.mpr hrest) hx'
        rw [hxy] at hy₁
        cases hy₁
        rw [hrun] at hy'
        cases hy'
        exact hall y' hy₂ z hz z' hz'
      · intro hall y' hy' z hz z' hz'
        obtain ⟨x', hx', hrun⟩ := mapM_exists_input (mapM_eq_ok.mpr hrest) hy'
        exact hall x' hx' y y' z z' hxy hrun hz hz'
  rw [hpairs]
  constructor
  · intro hpairwise x hx x' hx' hne
    have hsymm : Std.Symm fun x x' : α => ∀ y y' z z', f x = .ok y → f x' = .ok y' →
        g y = some z → g y' = some z' → key z ≠ key z' :=
      ⟨fun x x' hall y y' z z' hy hy' hz hz' =>
        (hall y' y z' z hy' hy hz' hz).symm⟩
    exact hpairwise.forall hx hx' hne
  · intro hall
    exact hxs.imp_of_mem fun hx hx' hne => hall _ hx _ hx' hne

theorem pairs_nodup (hnodes : (ir.nodes.map (·.nodeId)).Nodup)
    (hmappings : (pack.mappings.map (·.mappingId)).Nodup) : (pairs ir pack).Nodup := by
  have hstatements : (statements ir).Nodup := (List.Nodup.of_map _ hnodes).filter _
  exact hstatements.product (List.Nodup.of_map _ hmappings)

theorem attemptPair_fact {pair : ConfigNode × DeclarativeMapping} {attempt : Attempt}
    {fact : SecurityFactDraft} (h : attemptPair uuid5 context ir pack pair = .ok attempt)
    (hfact : attempt.fact? = some fact) :
    ∃ consumed, interpretPair uuid5 context pack pair.2 ir pair.1 =
      .ok (.emitted fact consumed) := by
  obtain ⟨outcome, houtcome, h⟩ := except_bind_eq_ok.mp h
  obtain rfl := except_pure_eq_ok.mp h
  unfold Attempt.fact? at hfact
  dsimp only at hfact
  split at hfact
  · cases hfact
    exact ⟨_, houtcome⟩
  · cases hfact

/-- A statement that a mapping states something on gives a fact. -/
theorem fact_of_states {attempt : Attempt}
    (h : attemptPair uuid5 context ir pack (node, mapping) = .ok attempt)
    (hmatch : mappingMatches mapping node ir = .ok true) (hneg : node.negated = true)
    (hyields : YieldsNegated mapping ir node) : ∃ fact, attempt.fact? = some fact := by
  obtain ⟨outcome, houtcome, h⟩ := except_bind_eq_ok.mp h
  obtain rfl := except_pure_eq_ok.mp h
  cases interpretPair_spec houtcome with
  | unmatched hnone => rw [hmatch] at hnone; cases hnone
  | diagnosed code hmisses _ => exact absurd (by simpa [Yields, hneg] using hyields) hmisses.2
  | negated fact => exact ⟨fact, rfl⟩
  | positive fact container _ hpositive => rw [hneg] at hpositive; cases hpositive

theorem cli_ids_nodup_iff {attempts : List Attempt}
    (hnodes : (ir.nodes.map (·.nodeId)).Nodup)
    (hmappings : (pack.mappings.map (·.mappingId)).Nodup)
    (hversions : (pack.mappings.map (·.mappingVersionId)).Nodup)
    (hrun : (pairs ir pack).mapM (attemptPair uuid5 context ir pack) = .ok attempts)
    (hnames : NamesApart uuid5 pack.knowledgePackVersionId (factsOf attempts)) :
    ((factsOf attempts).map (·.factId)).Nodup ↔ ¬StatedTwice pack ir := by
  rw [factsOf, nodup_filterMap_mapM hrun (pairs_nodup hnodes hmappings)]
  have hmem : ∀ {pair : ConfigNode × DeclarativeMapping} {attempt : Attempt}
      {fact : SecurityFactDraft}, pair ∈ pairs ir pack →
      attemptPair uuid5 context ir pack pair = .ok attempt → attempt.fact? = some fact →
      fact ∈ factsOf attempts := by
    intro pair attempt fact hpair hattempt hfact
    obtain ⟨found, hfound, hsame⟩ := mapM_exists_output hrun hpair
    rw [hattempt] at hsame
    cases hsame
    exact List.mem_filterMap.mpr ⟨attempt, hfound, hfact⟩
  constructor
  · rintro hapart ⟨node, hnode, hneg, a, ha, b, hb, hne, hfield, hversion, hmatch, hmatch', scope,
      container, value, scope', container', value', hstates, hstates', hcontainer, hscope, hvalue⟩
    have hpair := mem_pairs.mpr ⟨hnode, ha⟩
    have hpair' := mem_pairs.mpr ⟨hnode, hb⟩
    obtain ⟨attempt, -, hattempt⟩ := mapM_exists_output hrun hpair
    obtain ⟨attempt', -, hattempt'⟩ := mapM_exists_output hrun hpair'
    obtain ⟨fact, hfact⟩ := fact_of_states hattempt hmatch hneg hstates.yields
    obtain ⟨fact', hfact'⟩ := fact_of_states hattempt' hmatch' hneg hstates'.yields
    obtain ⟨consumed, houtcome⟩ := attemptPair_fact hattempt hfact
    obtain ⟨consumed', houtcome'⟩ := attemptPair_fact hattempt' hfact'
    obtain ⟨version, own, stated, place, hdraft, -, hown⟩ := interpretPair_drafted houtcome
    obtain ⟨version', own', stated', place', hdraft', -, hown'⟩ := interpretPair_drafted houtcome'
    obtain ⟨rfl, -, hsame⟩ := hown hneg
    obtain ⟨rfl, -, hsame'⟩ := hown' hneg
    obtain ⟨rfl, rfl, rfl⟩ := hstates.unique hsame
    obtain ⟨rfl, rfl, rfl⟩ := hstates'.unique hsame'
    refine hapart (node, a) hpair (node, b) hpair' (by simpa using hne) attempt attempt' fact fact'
      hattempt hattempt' hfact hfact' ?_
    refine (factId_eq_iff hnames (hmem hpair hattempt hfact) (hmem hpair' hattempt' hfact')
      hdraft hdraft').mpr ⟨?_, ?_, ?_, ?_, ?_⟩
    · rw [hdraft.version, hdraft'.version, hversion]
    · rw [hdraft.field, hdraft'.field, hfield]
    · have hids : container.toList.map (·.nodeId) = container'.toList.map (·.nodeId) := by
        rw [← Option.toList_map, ← Option.toList_map, hcontainer]
      rw [hdraft.nodes, hdraft'.nodes, List.map_cons, List.map_cons, hids]
    · rw [hdraft.scope, hdraft'.scope, hscope]
    · rw [hdraft.value, hdraft'.value, hvalue]
  · rintro hnone ⟨node, a⟩ hpair ⟨node', b⟩ hpair' hne attempt attempt' fact fact' hattempt
      hattempt' hfact hfact' hid
    obtain ⟨hnode, ha⟩ := mem_pairs.mp hpair
    obtain ⟨hnode', hb⟩ := mem_pairs.mp hpair'
    obtain ⟨consumed, houtcome⟩ := attemptPair_fact hattempt hfact
    obtain ⟨consumed', houtcome'⟩ := attemptPair_fact hattempt' hfact'
    obtain ⟨version, container, value, scope, hdraft, hpositive, hnegated⟩ :=
      interpretPair_drafted houtcome
    obtain ⟨version', container', value', scope', hdraft', hpositive', hnegated'⟩ :=
      interpretPair_drafted houtcome'
    have hsame := (factId_eq_iff hnames (hmem hpair hattempt hfact) (hmem hpair' hattempt' hfact')
      hdraft hdraft').mp hid
    have hnodeIds := hsame.nodes
    rw [hdraft.nodes, hdraft'.nodes, List.map_cons, List.map_cons, List.cons.injEq] at hnodeIds
    obtain ⟨hfirst, hcontainer⟩ := hnodeIds
    obtain rfl : node = node' := List.inj_on_of_nodup_map hnodes (mem_statements.mp hnode).1
      (mem_statements.mp hnode').1 hfirst
    have hmapping : a ≠ b := fun heq => hne (by rw [heq])
    have hversion : version = version' := by
      have hequal := hsame.version
      rwa [hdraft.version, hdraft'.version, Option.some.injEq] at hequal
    cases hneg : node.negated with
    | false =>
      refine hmapping (List.inj_on_of_nodup_map hversions ha hb ?_)
      rw [← (hpositive hneg).1, ← (hpositive' hneg).1, hversion]
    | true =>
      obtain ⟨hwritten, hmatch, hstates⟩ := hnegated hneg
      obtain ⟨hwritten', hmatch', hstates'⟩ := hnegated' hneg
      refine hnone ⟨node, hnode, hneg, a, ha, b, hb, hmapping, ?_, ?_, hmatch, hmatch', scope,
        container, value, scope', container', value', hstates, hstates', ?_, ?_, ?_⟩
      · rw [← hdraft.field, ← hdraft'.field, hsame.field]
      · rw [← hwritten, ← hwritten', hversion]
      · rw [← Option.toList_map, ← Option.toList_map] at hcontainer
        revert hcontainer
        cases container <;> cases container' <;> simp
      · rw [← hdraft.scope, ← hdraft'.scope, hsame.scope]
      · rw [← hdraft.value, ← hdraft'.value, hsame.value]

/-! ## The facts of trees -/

theorem collectMatches_sublist {ν : Type} {f : ν → Except PyError (Option Captures)}
    {nodes : List ν} {found : List (ν × Captures)} (h : collectMatches f nodes = .ok found) :
    (found.map (·.1)).Sublist nodes := by
  induction nodes generalizing found with
  | nil =>
    cases h
    exact List.Sublist.slnil
  | cons node nodes ih =>
    obtain ⟨captures, -, h⟩ := except_bind_eq_ok.mp h
    obtain ⟨rest, hrest, h⟩ := except_bind_eq_ok.mp h
    obtain rfl := except_pure_eq_ok.mp h
    cases captures with
    | none => exact (ih hrest).cons node
    | some c => exact (ih hrest).cons_cons node

section Structured

variable {ν : Type} {nodeId : ν → String} {nodes : List ν}
  {find : MappingDefinition → Except PyError (List (ν × Captures))}
  {body : DeclarativeMapping → MappingDefinition → ν → Captures → Except Error PairOutcome}
  {mappings : List DeclarativeMapping} {groups : List (List Attempt)}

/-- The attempts of one mapping are on different nodes. -/
theorem structured_group
    (hfind : ∀ definition found, find definition = .ok found → (found.map (·.1)).Sublist nodes)
    {group : List Attempt} (h : attemptStructured nodeId find body mapping = .ok group) :
    (∀ attempt ∈ group, attempt.mapping = mapping) ∧
      (group.map (·.nodeId)).Sublist (nodes.map nodeId) := by
  unfold attemptStructured at h
  split at h
  · obtain rfl := except_pure_eq_ok.mp h
    exact ⟨fun _ hattempt => (List.not_mem_nil hattempt).elim, List.nil_sublist _⟩
  rename_i definition hdefinition
  obtain ⟨found, hfound, h⟩ := except_bind_eq_ok.mp h
  rw [liftM_eq_ok] at hfound
  constructor
  · intro attempt hattempt
    obtain ⟨pair, -, hrun⟩ := mapM_exists_input h hattempt
    obtain ⟨outcome, -, hrun⟩ := except_bind_eq_ok.mp hrun
    obtain rfl := except_pure_eq_ok.mp hrun
    rfl
  · rw [mapM_map (g := (·.nodeId)) (k := fun pair => nodeId pair.1) h]
    · have hsub := (hfind definition found hfound).map nodeId
      rwa [List.map_map] at hsub
    · intro pair attempt hrun
      obtain ⟨outcome, -, hrun⟩ := except_bind_eq_ok.mp hrun
      obtain rfl := except_pure_eq_ok.mp hrun
      rfl

/-- No two attempts of a run have one mapping and one node. -/
theorem structured_keys_nodup
    (hfind : ∀ definition found, find definition = .ok found → (found.map (·.1)).Sublist nodes)
    (hnodes : (nodes.map nodeId).Nodup)
    (hversions : (mappings.map (·.mappingVersionId)).Nodup)
    (hrun : mappings.mapM (attemptStructured nodeId find body) = .ok groups) :
    (groups.flatten.map fun a => (a.mapping.mappingVersionId, a.nodeId)).Nodup := by
  rw [mapM_eq_ok] at hrun
  induction hrun with
  | nil => exact List.nodup_nil
  | @cons mapping group mappings groups hgroup hgroups ih =>
    rw [List.map_cons, List.nodup_cons] at hversions
    obtain ⟨hown, hsub⟩ := structured_group hfind hgroup
    rw [List.flatten_cons, List.map_append]
    refine List.Nodup.append ?_ (ih hversions.2) ?_
    · refine List.Nodup.of_map Prod.snd ?_
      rw [List.map_map]
      exact hnodes.sublist hsub
    · rintro key hfirst hrest
      obtain ⟨a, ha, rfl⟩ := List.mem_map.mp hfirst
      obtain ⟨b, hb, hkey⟩ := List.mem_map.mp hrest
      obtain ⟨other, hother, hmem⟩ := List.mem_flatten.mp hb
      obtain ⟨m, hm, hrun⟩ := mapM_exists_input (mapM_eq_ok.mpr hgroups) hother
      rw [(structured_group hfind hrun).1 b hmem, hown a ha] at hkey
      exact hversions.1 ((Prod.mk.inj hkey).1 ▸ List.mem_map_of_mem hm)

section Emitted

variable
  (hfind : ∀ definition found, find definition = .ok found → (found.map (·.1)).Sublist nodes)
  (hbody : ∀ mapping definition node captures fact consumed,
    body mapping definition node captures = .ok (.emitted fact consumed) →
      ∃ value scope, Drafted uuid5 context pack mapping mapping.mappingVersionId [nodeId node]
        value scope fact)
  (hrun : mappings.mapM (attemptStructured nodeId find body) = .ok groups)
include hfind hbody hrun

theorem structured_drafted {attempt : Attempt} (hattempt : attempt ∈ groups.flatten)
    {fact : SecurityFactDraft} (hfact : attempt.fact? = some fact) :
    attempt.nodeId ∈ nodes.map nodeId ∧
      ∃ value scope, Drafted uuid5 context pack attempt.mapping attempt.mapping.mappingVersionId
        [attempt.nodeId] value scope fact := by
  obtain ⟨group, hgroup, hmem⟩ := List.mem_flatten.mp hattempt
  obtain ⟨mapping, -, hone⟩ := mapM_exists_input hrun hgroup
  refine ⟨(structured_group hfind hone).2.subset (List.mem_map_of_mem hmem), ?_⟩
  unfold attemptStructured at hone
  split at hone
  · obtain rfl := except_pure_eq_ok.mp hone
    exact (List.not_mem_nil hmem).elim
  rename_i definition hdefinition
  obtain ⟨found, -, hone⟩ := except_bind_eq_ok.mp hone
  obtain ⟨⟨node, captures⟩, -, hrun'⟩ := mapM_exists_input hone hmem
  obtain ⟨outcome, houtcome, hrun'⟩ := except_bind_eq_ok.mp hrun'
  obtain rfl := except_pure_eq_ok.mp hrun'
  unfold Attempt.fact? at hfact
  dsimp only at hfact
  split at hfact
  · cases hfact
    exact hbody _ _ _ _ _ _ houtcome
  · cases hfact

/-- The facts of a tree have ids of their own. -/
theorem structured_ids_nodup (hnodes : (nodes.map nodeId).Nodup)
    (hversions : (mappings.map (·.mappingVersionId)).Nodup)
    (hnames : NamesApart uuid5 pack.knowledgePackVersionId (factsOf groups.flatten)) :
    ((factsOf groups.flatten).map (·.factId)).Nodup := by
  have hkeys := structured_keys_nodup hfind hnodes hversions hrun
  rw [List.Nodup, List.pairwise_map] at hkeys
  rw [factsOf, List.Nodup, List.pairwise_map, List.pairwise_filterMap]
  refine hkeys.imp_of_mem fun {a b} ha hb hne fact hfact fact' hfact' hid => hne ?_
  obtain ⟨-, value, scope, hdraft⟩ := structured_drafted hfind hbody hrun ha hfact
  obtain ⟨-, value', scope', hdraft'⟩ := structured_drafted hfind hbody hrun hb hfact'
  have hsame := (factId_eq_iff hnames (List.mem_filterMap.mpr ⟨a, ha, hfact⟩)
    (List.mem_filterMap.mpr ⟨b, hb, hfact'⟩) hdraft hdraft').mp hid
  have hversion := hsame.version
  have hids := hsame.nodes
  rw [hdraft.version, hdraft'.version, Option.some.injEq] at hversion
  rw [hdraft.nodes, hdraft'.nodes] at hids
  rw [hversion, (List.cons.inj hids).1]

end Emitted

end Structured

theorem interpretXmlMatch_drafted {definition : MappingDefinition} {ir : XmlStructuralIR}
    {node : XmlNode} {captures : Captures} {fact : SecurityFactDraft}
    {consumed : Option ConfigNode}
    (h : interpretXmlMatch uuid5 context pack mapping definition ir node captures =
      .ok (.emitted fact consumed)) :
    ∃ value scope, Drafted uuid5 context pack mapping mapping.mappingVersionId [node.nodeId] value
      scope fact := by
  unfold interpretXmlMatch at h
  split at h
  · cases except_pure_eq_ok.mp h
  obtain ⟨output, -, h⟩ := except_bind_eq_ok.mp h
  cases output with
  | none => cases except_pure_eq_ok.mp h
  | some output =>
    obtain ⟨built, hbuilt, h⟩ := except_bind_eq_ok.mp h
    cases except_pure_eq_ok.mp h
    exact ⟨_, _, draftFact_drafted hbuilt⟩

theorem interpretJsonMatch_drafted {definition : MappingDefinition} {node : JsonNode}
    {captures : Captures} {fact : SecurityFactDraft} {consumed : Option ConfigNode}
    (h : interpretJsonMatch uuid5 context pack mapping definition node captures =
      .ok (.emitted fact consumed)) :
    ∃ value scope, Drafted uuid5 context pack mapping mapping.mappingVersionId [node.nodeId] value
      scope fact := by
  unfold interpretJsonMatch at h
  obtain ⟨output, -, h⟩ := except_bind_eq_ok.mp h
  cases output with
  | none => cases except_pure_eq_ok.mp h
  | some output =>
    obtain ⟨built, hbuilt, h⟩ := except_bind_eq_ok.mp h
    cases except_pure_eq_ok.mp h
    exact ⟨_, _, draftFact_drafted hbuilt⟩

theorem matchesXml_sublist {definition : MappingDefinition} {ir : XmlStructuralIR}
    {found : List (XmlNode × Captures)} (h : matchesXml definition ir = .ok found) :
    (found.map (·.1)).Sublist ir.nodes := by
  unfold matchesXml at h
  split at h
  · exact collectMatches_sublist h
  · cases h
    exact List.nil_sublist _

theorem matchesJson_sublist {definition : MappingDefinition} {ir : JsonStructuralIR}
    {found : List (JsonNode × Captures)} (h : matchesJson definition ir = .ok found) :
    (found.map (·.1)).Sublist ir.nodes := by
  unfold matchesJson at h
  split at h
  · exact collectMatches_sublist h
  · cases h
    exact List.nil_sublist _

theorem xml_facts {ir : XmlStructuralIR} {groups : List (List Attempt)}
    (hrun : pack.mappings.mapM (attemptXml uuid5 context ir pack) = .ok groups) :
    (∀ attempt ∈ groups.flatten, ∀ fact, attempt.fact? = some fact →
      attempt.nodeId ∈ ir.nodes.map (·.nodeId) ∧
        ∃ value scope, Drafted uuid5 context pack attempt.mapping
          attempt.mapping.mappingVersionId [attempt.nodeId] value scope fact) ∧
    ((ir.nodes.map (·.nodeId)).Nodup → (pack.mappings.map (·.mappingVersionId)).Nodup →
      NamesApart uuid5 pack.knowledgePackVersionId (factsOf groups.flatten) →
      ((factsOf groups.flatten).map (·.factId)).Nodup) := by
  have hfind : ∀ definition found, matchesXml definition ir = .ok found →
      (found.map (·.1)).Sublist ir.nodes := fun _ _ => matchesXml_sublist
  have hbody : ∀ mapping definition node captures fact consumed,
      interpretXmlMatch uuid5 context pack mapping definition ir node captures =
        .ok (.emitted fact consumed) →
      ∃ value scope, Drafted uuid5 context pack mapping mapping.mappingVersionId [node.nodeId]
        value scope fact := fun _ _ _ _ _ _ => interpretXmlMatch_drafted
  refine ⟨fun attempt hattempt fact hfact => ?_, fun hnodes hversions hnames => ?_⟩
  · exact structured_drafted hfind hbody hrun hattempt hfact
  · exact structured_ids_nodup hfind hbody hrun hnodes hversions hnames

theorem json_facts {ir : JsonStructuralIR} {groups : List (List Attempt)}
    (hrun : pack.mappings.mapM (attemptJson uuid5 context ir pack) = .ok groups) :
    (∀ attempt ∈ groups.flatten, ∀ fact, attempt.fact? = some fact →
      attempt.nodeId ∈ ir.nodes.map (·.nodeId) ∧
        ∃ value scope, Drafted uuid5 context pack attempt.mapping
          attempt.mapping.mappingVersionId [attempt.nodeId] value scope fact) ∧
    ((ir.nodes.map (·.nodeId)).Nodup → (pack.mappings.map (·.mappingVersionId)).Nodup →
      NamesApart uuid5 pack.knowledgePackVersionId (factsOf groups.flatten) →
      ((factsOf groups.flatten).map (·.factId)).Nodup) := by
  have hfind : ∀ definition found, matchesJson definition ir = .ok found →
      (found.map (·.1)).Sublist ir.nodes := fun _ _ => matchesJson_sublist
  have hbody : ∀ mapping definition node captures fact consumed,
      interpretJsonMatch uuid5 context pack mapping definition node captures =
        .ok (.emitted fact consumed) →
      ∃ value scope, Drafted uuid5 context pack mapping mapping.mappingVersionId [node.nodeId]
        value scope fact := fun _ _ _ _ _ _ => interpretJsonMatch_drafted
  refine ⟨fun attempt hattempt fact hfact => ?_, fun hnodes hversions hnames => ?_⟩
  · exact structured_drafted hfind hbody hrun hattempt hfact
  · exact structured_ids_nodup hfind hbody hrun hnodes hversions hnames

end Draft

/-! ## The facts of an audit -/

section Audit

variable (uuid5 : UUID → String → UUID) (context : InterpretationContext) (pack : KnowledgePack)
  (profile : ProfileManifest)

/-- The interpreter of a parsed artifact. -/
def interpretIr (ir : ParsedIr) : Except Error InterpretationResult :=
  match ir with
  | .cli ir => interpretStructuralIr uuid5 context ir profile.profileVersionId (some pack)
      (some profile)
  | .xml ir => interpretXmlStructuralIr uuid5 context ir profile.profileVersionId (some pack)
      (some profile)
  | .json ir => interpretJsonStructuralIr uuid5 context ir profile.profileVersionId (some pack)
      (some profile)

/-- The drafts `interpret_audit` collects from the parsed artifacts. -/
def auditDrafts (irs : List ParsedIr) : Except Error (List SecurityFactDraft) := do
  let results ← irs.mapM (interpretIr uuid5 context pack profile)
  return results.flatMap (·.facts)

variable {uuid5 context pack profile}

/-- The ids of the nodes of a parsed artifact. -/
def nodeIds (ir : ParsedIr) : List String := ir.evidence.map (·.nodeId)

/-- A fact of an artifact is drafted from one of its nodes first. -/
def DraftedIn (uuid5 : UUID → String → UUID) (context : InterpretationContext)
    (pack : KnowledgePack) (ir : ParsedIr) (fact : SecurityFactDraft) : Prop :=
  ∃ mapping versionId first rest value scope, first ∈ nodeIds ir ∧
    Drafted uuid5 context pack mapping versionId (first :: rest) value scope fact

theorem evidence_ids_cli (ir : StructuralIR) : nodeIds (.cli ir) = ir.nodes.map (·.nodeId) := by
  rw [nodeIds, ParsedIr.evidence, List.map_map]
  rfl

theorem evidence_ids_xml (ir : XmlStructuralIR) : nodeIds (.xml ir) = ir.nodes.map (·.nodeId) := by
  rw [nodeIds, ParsedIr.evidence, List.map_map]
  rfl

theorem evidence_ids_json (ir : JsonStructuralIR) :
    nodeIds (.json ir) = ir.nodes.map (·.nodeId) := by
  rw [nodeIds, ParsedIr.evidence, List.map_map]
  rfl

theorem interpretIr_drafted {ir : ParsedIr} {result : InterpretationResult}
    (h : interpretIr uuid5 context pack profile ir = .ok result) :
    ∀ fact ∈ result.facts, DraftedIn uuid5 context pack ir fact := by
  intro fact hfact
  cases ir with
  | cli ir =>
    obtain ⟨-, attempts, hattempts, rfl⟩ := interpretStructuralIr_ok h
    obtain ⟨attempt, hmem, hsome⟩ := List.mem_filterMap.mp hfact
    obtain ⟨⟨node, mapping⟩, hpair, hattempt⟩ := mapM_exists_input hattempts hmem
    obtain ⟨consumed, houtcome⟩ := attemptPair_fact hattempt hsome
    obtain ⟨version, container, value, scope, hdraft, -, -⟩ := interpretPair_drafted houtcome
    refine ⟨mapping, version, node.nodeId, _, value, scope, ?_, hdraft⟩
    rw [evidence_ids_cli]
    exact List.mem_map_of_mem (mem_statements.mp (mem_pairs.mp hpair).1).1
  | xml ir =>
    obtain ⟨-, groups, hgroups, rfl⟩ := interpretXmlStructuralIr_ok h
    obtain ⟨attempt, hmem, hsome⟩ := List.mem_filterMap.mp hfact
    obtain ⟨hnode, value, scope, hdraft⟩ := (xml_facts hgroups).1 attempt hmem fact hsome
    refine ⟨attempt.mapping, _, attempt.nodeId, [], value, scope, ?_, hdraft⟩
    rwa [evidence_ids_xml]
  | json ir =>
    obtain ⟨-, ⟨-, rfl⟩ | ⟨-, groups, hgroups, rfl⟩⟩ := interpretJsonStructuralIr_ok h
    · cases hfact
    obtain ⟨attempt, hmem, hsome⟩ := List.mem_filterMap.mp hfact
    obtain ⟨hnode, value, scope, hdraft⟩ := (json_facts hgroups).1 attempt hmem fact hsome
    refine ⟨attempt.mapping, _, attempt.nodeId, [], value, scope, ?_, hdraft⟩
    rwa [evidence_ids_json]

theorem interpretIr_ids_iff {ir : ParsedIr} {result : InterpretationResult}
    (hids : (nodeIds ir).Nodup) (hversions : (pack.mappings.map (·.mappingVersionId)).Nodup)
    (h : interpretIr uuid5 context pack profile ir = .ok result)
    (hnames : NamesApart uuid5 pack.knowledgePackVersionId result.facts) :
    (result.facts.map (·.factId)).Nodup ↔
      ∀ statements, ir = .cli statements → ¬StatedTwice pack statements := by
  cases ir with
  | cli ir =>
    rw [evidence_ids_cli] at hids
    obtain ⟨hmappings, attempts, hattempts, rfl⟩ := interpretStructuralIr_ok h
    refine (cli_ids_nodup_iff hids hmappings hversions hattempts hnames).trans ?_
    simp
  | xml ir =>
    rw [evidence_ids_xml] at hids
    obtain ⟨-, groups, hgroups, rfl⟩ := interpretXmlStructuralIr_ok h
    exact iff_of_true ((xml_facts hgroups).2 hids hversions hnames) (fun _ hcli => nomatch hcli)
  | json ir =>
    rw [evidence_ids_json] at hids
    obtain ⟨-, ⟨-, rfl⟩ | ⟨-, groups, hgroups, rfl⟩⟩ := interpretJsonStructuralIr_ok h
    · exact iff_of_true List.nodup_nil (fun _ hcli => nomatch hcli)
    exact iff_of_true ((json_facts hgroups).2 hids hversions hnames) (fun _ hcli => nomatch hcli)

theorem NamesApart.mono {facts some : List SecurityFactDraft} {namespaceId : UUID}
    (h : NamesApart uuid5 namespaceId facts) (hsub : ∀ fact ∈ some, fact ∈ facts) :
    NamesApart uuid5 namespaceId some := fun a ha b hb => h a (hsub a ha) b (hsub b hb)

/-- The facts of one run, artifact by artifact. -/
theorem drafts_ids_iff {irs : List ParsedIr} {results : List InterpretationResult}
    (hids : (irs.flatMap nodeIds).Nodup)
    (hversions : (pack.mappings.map (·.mappingVersionId)).Nodup)
    (hrun : List.Forall₂ (fun ir result => interpretIr uuid5 context pack profile ir = .ok result)
      irs results)
    (hnames : NamesApart uuid5 pack.knowledgePackVersionId (results.flatMap (·.facts))) :
    ((results.flatMap (·.facts)).map (·.factId)).Nodup ↔
      ∀ ir, ParsedIr.cli ir ∈ irs → ¬StatedTwice pack ir := by
  induction hrun with
  | nil => simp
  | @cons ir result irs results hir hrest ih =>
    rw [List.flatMap_cons] at hids hnames
    obtain ⟨hown, hothers, hapart⟩ := List.nodup_append'.mp hids
    have hfirst := interpretIr_ids_iff hown hversions hir
      (hnames.mono fun fact hfact => List.mem_append_left _ hfact)
    have hlater := ih hothers (hnames.mono fun fact hfact => List.mem_append_right _ hfact)
    have hdisjoint : List.Disjoint (result.facts.map (·.factId))
        ((results.flatMap (·.facts)).map (·.factId)) := by
      intro id hid hid'
      obtain ⟨a, ha, rfl⟩ := List.mem_map.mp hid
      obtain ⟨b, hb, hsame⟩ := List.mem_map.mp hid'
      obtain ⟨other, hother, hbmem⟩ := List.mem_flatMap.mp hb
      obtain ⟨ir', hir', hrun'⟩ := mapM_exists_input (mapM_eq_ok.mpr hrest) hother
      obtain ⟨_, _, first, _, _, _, hnode, hdraft⟩ := interpretIr_drafted hir a ha
      obtain ⟨_, _, first', _, _, _, hnode', hdraft'⟩ := interpretIr_drafted hrun' b hbmem
      have hnodes := ((factId_eq_iff hnames (List.mem_append_right _ hb)
        (List.mem_append_left _ ha) hdraft' hdraft).mp hsame).nodes
      rw [hdraft.nodes, hdraft'.nodes, List.cons.injEq] at hnodes
      exact hapart hnode (hnodes.1 ▸ List.mem_flatMap.mpr ⟨ir', hir', hnode'⟩)
    rw [List.flatMap_cons, List.map_append, List.nodup_append', hfirst, hlater]
    constructor
    · rintro ⟨howns, hrests, -⟩ cli hcli
      rcases List.mem_cons.mp hcli with hsame | hmem
      · exact howns cli hsame.symm
      · exact hrests cli hmem
    · intro hall
      refine ⟨fun cli hsame => hall cli (hsame ▸ List.mem_cons_self),
        fun cli hmem => hall cli (List.mem_cons_of_mem _ hmem), hdisjoint⟩

/-- The facts of an audit have ids of their own exactly when no negated statement is stated
alike by two mappings of one field under one version. -/
theorem fact_ids_distinct_iff (uuid5 : UUID → String → UUID) (context : InterpretationContext)
    (pack : KnowledgePack) (profile : ProfileManifest) (irs : List ParsedIr)
    (facts : List SecurityFactDraft)
    (hpack : validateKnowledgePack pack profile.profileId profile.profileVersionId = .ok pack)
    (hids : (irs.flatMap nodeIds).Nodup)
    (hrun : auditDrafts uuid5 context pack profile irs = .ok facts)
    (hnames : NamesApart uuid5 pack.knowledgePackVersionId facts) :
    (facts.map (·.factId)).Nodup ↔ ∀ ir, ParsedIr.cli ir ∈ irs → ¬StatedTwice pack ir := by
  obtain ⟨results, hresults, h⟩ := except_bind_eq_ok.mp hrun
  obtain rfl := except_pure_eq_ok.mp h
  obtain ⟨-, -, -, -, -, hversions⟩ := validateKnowledgePack_ok hpack
  exact drafts_ids_iff hids hversions (mapM_eq_ok.mp hresults) hnames

theorem auditDrafts_drafted {irs : List ParsedIr} {facts : List SecurityFactDraft}
    (h : auditDrafts uuid5 context pack profile irs = .ok facts) :
    ∀ fact ∈ facts, ∃ ir ∈ irs, DraftedIn uuid5 context pack ir fact := by
  obtain ⟨results, hresults, h⟩ := except_bind_eq_ok.mp h
  obtain rfl := except_pure_eq_ok.mp h
  intro fact hfact
  obtain ⟨result, hresult, hmem⟩ := List.mem_flatMap.mp hfact
  obtain ⟨ir, hir, hrun⟩ := mapM_exists_input hresults hresult
  exact ⟨ir, hir, interpretIr_drafted hrun fact hmem⟩

/-- Two facts of one identity have one id, whatever ids are made of. -/
theorem twice_of_same {irs : List ParsedIr} {facts : List SecurityFactDraft}
    (h : auditDrafts uuid5 context pack profile irs = .ok facts) (hlength : facts.length = 2)
    (hsame : ∀ a ∈ facts, ∀ b ∈ facts, SameIdentity a b) :
    NamesApart uuid5 pack.knowledgePackVersionId facts ∧ ¬(facts.map (·.factId)).Nodup := by
  have hdrafted := auditDrafts_drafted h
  constructor
  · intro a ha b hb text text' htext htext' _
    obtain ⟨_, -, _, _, _, _, _, _, -, hdraft⟩ := hdrafted a ha
    obtain ⟨_, -, _, _, _, _, _, _, -, hdraft'⟩ := hdrafted b hb
    exact text_of_same hdraft hdraft' (hsame a ha b hb) htext htext'
  · obtain ⟨a, b, rfl⟩ := List.length_eq_two.mp hlength
    have ha : a ∈ [a, b] := List.mem_cons_self
    have hb : b ∈ [a, b] := List.mem_cons_of_mem _ List.mem_cons_self
    obtain ⟨_, -, _, _, _, _, _, _, -, hdraft⟩ := hdrafted a ha
    obtain ⟨_, -, _, _, _, _, _, _, -, hdraft'⟩ := hdrafted b hb
    obtain ⟨text, htext, hid⟩ := hdraft.identity
    obtain ⟨text', htext', hid'⟩ := hdraft'.identity
    have hids : a.factId = b.factId := by
      rw [hid, hid', text_of_same hdraft hdraft' (hsame a ha b hb) htext htext']
    simp [hids]

theorem namesApart_of_nodup {namespaceId : UUID} {facts : List SecurityFactDraft}
    (h : ((facts.filterMap fun fact => (identityOf fact).toOption).dedup.map
      (uuid5 namespaceId)).Nodup) : NamesApart uuid5 namespaceId facts := by
  have hmem : ∀ fact ∈ facts, ∀ text, identityOf fact = .ok text →
      text ∈ (facts.filterMap fun fact => (identityOf fact).toOption).dedup := by
    intro fact hfact text htext
    exact List.mem_dedup.mpr (List.mem_filterMap.mpr ⟨fact, hfact, by rw [htext]; rfl⟩)
  intro a ha b hb text text' htext htext' hsame
  exact List.inj_on_of_nodup_map h (hmem a ha text htext) (hmem b hb text' htext') hsame

end Audit

/-! ### A removal stated twice -/

theorem fact_ids_distinct_removal : ∃ facts,
    auditDrafts removalUuid5 exampleContext Sealed.Cisco.current ciscoIosXe17 [.cli removalIr] =
      .ok facts ∧
    ((facts.map (·.factId)).Nodup ↔ ∀ ir, ParsedIr.cli ir ∈ [ParsedIr.cli removalIr] →
      ¬StatedTwice Sealed.Cisco.current ir) := by
  obtain ⟨facts, hrun, hnames⟩ := exists_of_toOption (x := auditDrafts removalUuid5 exampleContext
    Sealed.Cisco.current ciscoIosXe17 [.cli removalIr])
    (f := fun facts => decide ((facts.filterMap fun fact => (identityOf fact).toOption).dedup.map
      (removalUuid5 Sealed.Cisco.current.knowledgePackVersionId)).Nodup) (b := true)
    (by decide +kernel)
  have hpack : Sealed.Cisco.current ∈ Sealed.registry := by simp [Sealed.registry]
  exact ⟨facts, hrun, fact_ids_distinct_iff removalUuid5 exampleContext Sealed.Cisco.current
    ciscoIosXe17 [.cli removalIr] facts (Sealed.registry_validated _ hpack) (by decide +kernel)
    hrun (namesApart_of_nodup (of_decide_eq_true hnames))⟩

/-- The pack with a second mapping for time servers, under identities of its own but with the
removal version of the first. -/
def twinPack : KnowledgePack :=
  { Sealed.Cisco.current with
    mappings := Sealed.Cisco.current.mappings ++
      (Sealed.Cisco.current.mappings.filter (·.fieldId == "time.ntp.server")).map fun mapping =>
        { mapping with mappingId := UUID.ofNat 6, mappingVersionId := UUID.ofNat 7 } }

/-- The second mapping, written out. -/
def twinMapping : DeclarativeMapping :=
  { mappingId := UUID.ofNat 6, mappingVersionId := UUID.ofNat 7, fieldId := "time.ntp.server",
    matcher := Sealed.Cisco.top "ntp" ["server"], extractor := "ntp_server",
    scopeResolver := "device", declaredValueTypes := [.ipAddress, .string],
    negationBehavior := .removeValue,
    removalMappingVersionId := some (UUID.ofNat 0xcc7f73d2e27e5a57896cb4d322fc2c14) }

theorem twinPack_eq : twinPack =
    { Sealed.Cisco.current with mappings := Sealed.Cisco.phase8Mappings ++ [twinMapping] } := by
  decide +kernel

/-- The validator accepts the pack, and the removal gives two facts with one id. -/
theorem removal_stated_twice :
    validateKnowledgePack twinPack ciscoIosXe17.profileId ciscoIosXe17.profileVersionId =
      .ok twinPack ∧ ([ParsedIr.cli removalIr].flatMap nodeIds).Nodup ∧
    ∃ facts, auditDrafts removalUuid5 exampleContext twinPack ciscoIosXe17 [.cli removalIr] =
        .ok facts ∧
      NamesApart removalUuid5 twinPack.knowledgePackVersionId facts ∧
      ¬(facts.map (·.factId)).Nodup := by
  refine ⟨by decide +kernel, by decide +kernel, ?_⟩
  -- two facts with the same version, field, node, scope and value
  have hdecided : ((auditDrafts removalUuid5 exampleContext twinPack ciscoIosXe17
      [.cli removalIr]).toOption.map fun facts => decide (facts.length = 2 ∧
        ∀ a ∈ facts, ∀ b ∈ facts, a.mappingVersionId = b.mappingVersionId ∧
          a.fieldId = b.fieldId ∧ a.sourceIrNodeIds = b.sourceIrNodeIds ∧
          a.scope.toDict.dumps = b.scope.toDict.dumps ∧
          a.value.toDict.dumps = b.value.toDict.dumps)) = some true := by
    rw [twinPack_eq]
    decide +kernel
  obtain ⟨facts, hrun, hfacts⟩ := exists_of_toOption hdecided
  obtain ⟨hlength, hsame⟩ := of_decide_eq_true hfacts
  refine ⟨facts, hrun, twice_of_same hrun hlength fun a ha b hb => ?_⟩
  obtain ⟨hversion, hfield, hnodes, hscope, hvalue⟩ := hsame a ha b hb
  exact ⟨hversion, hfield, hnodes, hscope, hvalue⟩

end ConfigAuditor.Interpretation.FactIds
