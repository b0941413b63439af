import ConfigAuditor.Interpretation.Outcomes

/-!
# The same value on three paths of evidence

Command lines, XML and JSON build the typed value of a definition in three places. Where the
captures are equal, the paths differ in two things only: a duration has its unit in XML and JSON,
and a failing extraction or a value of another type is a diagnostic in XML and JSON and an
exception on command lines.
-/
namespace ConfigAuditor.Interpretation.EvidencePaths

open Library SecurityModel Parsing KnowledgePacks Training.Dsl Training.Matcher Extractors Scopes
  Mapping Service Outcomes

/-- The definition of another that has its own structural match. -/
def DiffersInMatch (definition other : MappingDefinition) : Prop :=
  other.toMappingFields =
    { definition.toMappingFields with structuralMatch := other.structuralMatch }

/-- A mapping as `_training_mapping` builds it from a definition. -/
structure MappingFor (definition : MappingDefinition) (mapping : DeclarativeMapping) : Prop where
  trained : mapping.trainingDefinition = some definition
  field : mapping.fieldId = definition.targetFieldId
  resolver : mapping.scopeResolver = definition.scopeResolution.strategy.text
  /-- The check of `SCOPE_RESOLVERS`. -/
  supported : (scopeResolverType mapping.scopeResolver).isSome = true

/-- Three definitions that differ in their structural match, and evidence on which they capture
the same values: a positive statement that was parsed, an XML element and a JSON value. -/
structure EqualEvidence where
  cli : MappingDefinition
  xml : MappingDefinition
  json : MappingDefinition
  sameXml : DiffersInMatch cli xml
  sameJson : DiffersInMatch cli json
  cliMapping : DeclarativeMapping
  xmlMapping : DeclarativeMapping
  jsonMapping : DeclarativeMapping
  cliMapped : MappingFor cli cliMapping
  captures : Captures
  ir : StructuralIR
  node : ConfigNode
  projected : ValidationNode
  positive : node.negated = false
  parsed : node.parseStatus = .parsed
  projects : trainingValidationNode node ir cliMapping.scopeResolver = .ok projected
  cliMatch : matchNode cli projected = some captures
  xmlIr : XmlStructuralIR
  xmlNode : XmlNode
  xmlMatch : XmlMatches xml xmlNode captures
  jsonNode : JsonNode
  jsonMatch : JsonMatches json jsonNode captures

/-- The mapping gives no fact but a diagnostic. -/
def Fails (outcome : Except Error PairOutcome) : Prop := ∃ code, outcome = .ok (.diagnosed code)

/-- The fact that the mapping gives. -/
def Emits (outcome : Except Error PairOutcome) (fact : SecurityFactDraft) : Prop :=
  ∃ container, outcome = .ok (.emitted fact container)

/-- Facts with the same type, value and unit, and failures on both paths or on none. -/
structure SameTyped (a b : Except Error PairOutcome) : Prop where
  typed : ∀ fact fact', Emits a fact → Emits b fact' →
    fact.value.type = fact'.value.type ∧ fact.value.value = fact'.value.value ∧
      fact.value.unit = fact'.value.unit
  fails : Fails a ↔ Fails b

section Paths

variable (uuid5 : UUID → String → UUID) (context : InterpretationContext) (pack : KnowledgePack)
  (e : EqualEvidence)

def cliOutcome : Except Error PairOutcome :=
  interpretPair uuid5 context pack e.cliMapping e.ir e.node

def xmlOutcome : Except Error PairOutcome :=
  interpretXmlMatch uuid5 context pack e.xmlMapping e.xml e.xmlIr e.xmlNode e.captures

def jsonOutcome : Except Error PairOutcome :=
  interpretJsonMatch uuid5 context pack e.jsonMapping e.json e.jsonNode e.captures

/-- The three paths produce the same typed value. -/
structure PathsAgree : Prop where
  cliXml : SameTyped (cliOutcome uuid5 context pack e) (xmlOutcome uuid5 context pack e)
  cliJson : SameTyped (cliOutcome uuid5 context pack e) (jsonOutcome uuid5 context pack e)
  xmlJson : SameTyped (xmlOutcome uuid5 context pack e) (jsonOutcome uuid5 context pack e)

end Paths

/-- The extraction gives a value of the output type, which is no duration that can be written into
the identity of a fact; or it raises an exception that no path catches. -/
def UnitFree (definition : MappingDefinition) (captures : Captures) : Prop :=
  match extract definition captures with
  | .ok value => hasType definition.valueExtraction.outputType value = true ∧
      (definition.valueExtraction.outputType = .duration → value.dumps.isOk = false)
  | .error error => (Error.python error).isOutputError = false

theorem isOk_map {ε α β : Type} (x : Except ε α) (f : α → β) : (x.map f).isOk = x.isOk := by
  cases x <;> rfl

theorem encodeEntries_isOk (sortKeys : Bool) (entries : List (String × PyValue)) :
    (PyValue.encodeEntries sortKeys entries).isOk =
      entries.all fun entry => (PyValue.encode sortKeys entry.2).isOk := by
  induction entries with
  | nil => rfl
  | cons entry entries ih =>
    obtain ⟨key, value⟩ := entry
    rw [PyValue.encodeEntries, List.all_cons, ← ih]
    cases PyValue.encode sortKeys value with
    | error error => rfl
    | ok part => cases PyValue.encodeEntries sortKeys entries <;> rfl

/-- An object is written if its values are. -/
theorem encode_dict_isOk (sortKeys : Bool) (entries : List (String × PyValue)) :
    (PyValue.encode sortKeys (.dict entries)).isOk =
      entries.all fun entry => (PyValue.encode sortKeys entry.2).isOk := by
  rw [← encodeEntries_isOk, PyValue.encode]
  cases PyValue.encodeEntries sortKeys entries <;> rfl

theorem encode_str_isOk (sortKeys : Bool) (text : String) :
    (PyValue.encode sortKeys (.str text)).isOk = true := by
  rw [PyValue.encode]
  rfl

theorem encode_none_isOk (sortKeys : Bool) : (PyValue.encode sortKeys .none).isOk = true := by
  rw [PyValue.encode]
  rfl

theorem encode_strings_isOk (sortKeys : Bool) (texts : List String) :
    (PyValue.encode sortKeys (.list (texts.map .str))).isOk = true := by
  have hlist : (PyValue.encodeList sortKeys (texts.map .str)).isOk = true := by
    induction texts with
    | nil => rfl
    | cons text texts ih =>
      obtain ⟨parts, hparts⟩ := exists_of_isOk ih
      rw [List.map_cons, PyValue.encodeList, PyValue.encode, hparts]
      rfl
  obtain ⟨parts, hparts⟩ := exists_of_isOk hlist
  rw [PyValue.encode, hparts]
  rfl

theorem encode_optionText_isOk (sortKeys : Bool) (text : Option String) :
    (PyValue.encode sortKeys (optionText text)).isOk = true := by
  cases text with
  | none => exact encode_none_isOk sortKeys
  | some text => exact encode_str_isOk sortKeys text

section Drafts

variable {uuid5 : UUID → String → UUID} {context : InterpretationContext} {pack : KnowledgePack}
  {mapping : DeclarativeMapping} {versionId : UUID} {evidence : List EvidenceRef}
  {nodeIds : List String} {quality : FactQuality}

/-- The identity of a fact with a plain value is written if the value can be. -/
theorem factIdentity_isOk (context : InterpretationContext) (mapping : DeclarativeMapping)
    (versionId : UUID) (nodeIds : List String) (type : TypedValueType) (value : PyValue) (unit : Option String)
    (scopeType key : String) :
    (factIdentity context mapping versionId nodeIds { type, value, unit }
      { type := scopeType, key, attributes := [] }).dumps.isOk = value.dumps.isOk := by
  unfold PyValue.dumps factIdentity ScopeRef.toDict TypedValue.toDict
  simp only [isOk_map, encode_dict_isOk, List.all_cons, List.all_nil, encode_str_isOk,
    encode_none_isOk, encode_strings_isOk, encode_optionText_isOk, Bool.and_true, Bool.true_and]

theorem draftFact_ok {type : TypedValueType} {value : PyValue} {unit : Option String}
    (hvalue : value.dumps.isOk = true) (scopeType key : String) :
    ∃ fact, draftFact uuid5 context pack mapping versionId evidence nodeIds
        { type, value, unit } { type := scopeType, key, attributes := [] } quality = .ok fact ∧
      fact.value = { type, value, unit } := by
  rw [← factIdentity_isOk context mapping versionId nodeIds type value unit scopeType key] at hvalue
  obtain ⟨identity, hidentity⟩ := exists_of_isOk hvalue
  unfold draftFact
  rw [hidentity]
  exact ⟨_, rfl, rfl⟩

theorem draftFact_error {type : TypedValueType} {value : PyValue} {unit : Option String}
    (hvalue : value.dumps.isOk = false) (scopeType key : String) :
    ∃ error, draftFact uuid5 context pack mapping versionId evidence nodeIds
        { type, value, unit } { type := scopeType, key, attributes := [] } quality =
      .error error := by
  rw [← factIdentity_isOk context mapping versionId nodeIds type value unit scopeType key] at hvalue
  unfold draftFact
  cases hidentity : (factIdentity context mapping versionId nodeIds { type, value, unit }
      { type := scopeType, key, attributes := [] }).dumps with
  | ok identity =>
    rw [hidentity] at hvalue
    cases hvalue
  | error error => exact ⟨_, rfl⟩

end Drafts

section Shared

variable {definition other : MappingDefinition} {captures : Captures}

theorem DiffersInMatch.extract_eq (h : DiffersInMatch definition other) :
    extract other captures = extract definition captures := by
  unfold DiffersInMatch at h
  unfold extract
  rw [h]

theorem DiffersInMatch.outputType_eq (h : DiffersInMatch definition other) :
    other.valueExtraction.outputType = definition.valueExtraction.outputType := by
  unfold DiffersInMatch at h
  rw [h]

theorem DiffersInMatch.scopeResolution_eq (h : DiffersInMatch definition other) :
    other.scopeResolution = definition.scopeResolution := by
  unfold DiffersInMatch at h
  rw [h]

theorem DiffersInMatch.targetFieldId_eq (h : DiffersInMatch definition other) :
    other.targetFieldId = definition.targetFieldId := by
  unfold DiffersInMatch at h
  rw [h]

/-- The checks of a definition on its field. -/
theorem trusted (definition : MappingDefinition) :
    definition.toMappingFields.trustedRegistryAndBounds = true := by
  have hvalid := definition.isValid
  unfold MappingFields.valid at hvalid
  rw [Bool.and_eq_true] at hvalid
  exact hvalid.2

/-- A value of the output type passes the field check in the scope of the device. -/
theorem validate_iff (hdevice : definition.scopeResolution.strategy = .device) (value : PyValue)
    (unit : Option String) :
    (validateFieldValueScope definition.targetFieldId
      { type := definition.valueExtraction.outputType, value, unit } deviceScope).isOk =
      hasType definition.valueExtraction.outputType value := by
  have htrusted := trusted definition
  unfold MappingFields.trustedRegistryAndBounds at htrusted
  cases hfield : fieldRegistry definition.targetFieldId with
  | none => simp [hfield] at htrusted
  | some field =>
    simp only [hfield, Bool.and_eq_true, List.contains_iff_mem, hdevice] at htrusted
    obtain ⟨⟨⟨⟨⟨htype, hscope⟩, -⟩, -⟩, -⟩, -⟩ := htrusted
    cases hvalue : hasType definition.valueExtraction.outputType value with
    | true =>
      have hok : validateFieldValueScope definition.targetFieldId
          { type := definition.valueExtraction.outputType, value, unit } deviceScope = .ok field :=
        validateFieldValueScope_eq_ok.mpr ⟨hfield, htype, hscope, hvalue, rfl⟩
      rw [hok]
      rfl
    | false =>
      cases hok : validateFieldValueScope definition.targetFieldId
          { type := definition.valueExtraction.outputType, value, unit } deviceScope with
      | error error => rfl
      | ok found =>
        have hchecked := (validateFieldValueScope_eq_ok.mp hok).2.2.2.1
        rw [hvalue] at hchecked
        cases hchecked

end Shared

section Structured

variable {definition other : MappingDefinition} {captures : Captures} {value : PyValue}
  {error : PyError}

/-- The typed value of XML and JSON. -/
def withUnit (definition : MappingDefinition) (value : PyValue) : TypedValue :=
  { type := definition.valueExtraction.outputType, value,
    unit := if definition.valueExtraction.outputType = .duration then some "seconds" else none }

theorem isOutputError_of_isValueError {error : Error} (h : error.isValueError = true) :
    error.isOutputError = true := by
  unfold Error.isOutputError
  split
  · rfl
  · rfl
  · exact h

theorem structuredOutput_error (hsame : DiffersInMatch definition other)
    (hextract : extract definition captures = .error error) :
    structuredOutput other captures = .error (.python error) := by
  unfold structuredOutput
  rw [hsame.extract_eq, hextract]
  rfl

/-- An extraction that fails is caught or raised. -/
theorem caughtOutput_error (hsame : DiffersInMatch definition other)
    (hextract : extract definition captures = .error error) :
    caughtOutput other captures =
      if (Error.python error).isOutputError then .ok none else .error (.python error) := by
  unfold caughtOutput
  rw [structuredOutput_error hsame hextract]
  rfl

theorem structuredOutput_ok (hsame : DiffersInMatch definition other)
    (hdevice : definition.scopeResolution.strategy = .device)
    (hextract : extract definition captures = .ok value) :
    structuredOutput other captures =
      (validateFieldValueScope definition.targetFieldId (withUnit definition value)
        deviceScope).map fun _ => (withUnit definition value, deviceScope) := by
  unfold structuredOutput
  rw [hsame.extract_eq, hextract, hsame.outputType_eq, hsame.scopeResolution_eq,
    hsame.targetFieldId_eq, hdevice]
  change (do
    let _ ← validateFieldValueScope definition.targetFieldId (withUnit definition value) deviceScope
    return (withUnit definition value, deviceScope) : Except Error (TypedValue × ScopeRef)) = _
  cases validateFieldValueScope definition.targetFieldId (withUnit definition value) deviceScope <;>
    rfl

/-- A value of the output type is kept, and another one is caught. -/
theorem caughtOutput_ok (hsame : DiffersInMatch definition other)
    (hdevice : definition.scopeResolution.strategy = .device)
    (hextract : extract definition captures = .ok value) :
    caughtOutput other captures =
      .ok (if hasType definition.valueExtraction.outputType value then
        some (withUnit definition value, deviceScope) else none) := by
  have hvalid : (validateFieldValueScope definition.targetFieldId (withUnit definition value)
      deviceScope).isOk = hasType definition.valueExtraction.outputType value :=
    validate_iff hdevice value _
  unfold caughtOutput
  rw [structuredOutput_ok hsame hdevice hextract, ← hvalid]
  cases hcheck : validateFieldValueScope definition.targetFieldId (withUnit definition value)
      deviceScope with
  | ok field => rfl
  | error checkError =>
    have hcaught : checkError.isOutputError = true :=
      isOutputError_of_isValueError (validateFieldValueScope_error hcheck)
    change (if checkError.isOutputError then Except.ok none else Except.error checkError) = _
    rw [if_pos hcaught]
    rfl

end Structured

section Outcomes

variable {uuid5 : UUID → String → UUID} {context : InterpretationContext} {pack : KnowledgePack}
  {e : EqualEvidence} {value : PyValue} {error : PyError}

/-- A structured definition has the scope of the device or of the whole, and only the first is
resolved on command lines. -/
theorem EqualEvidence.device (e : EqualEvidence) :
    e.cli.scopeResolution.strategy = .device := by
  obtain ⟨source, hoperation, -, -⟩ := e.xmlMatch
  have htrusted := trusted e.xml
  unfold MappingFields.trustedRegistryAndBounds at htrusted
  simp only [Bool.and_eq_true, hoperation, e.sameXml.scopeResolution_eq] at htrusted
  obtain ⟨⟨⟨⟨-, hstrategy⟩, -⟩, -⟩, -⟩ := htrusted
  have hsupported := e.cliMapped.supported
  rw [e.cliMapped.resolver] at hsupported
  cases hcase : e.cli.scopeResolution.strategy <;> rw [hcase] at hstrategy hsupported <;>
    first | rfl | exact absurd hstrategy (by decide) | exact absurd hsupported (by decide)

/-- A JSON definition declares no qualifiers, so the XML one has none. -/
theorem EqualEvidence.unqualified (e : EqualEvidence) :
    hasUnsupportedQualifier e.xml e.xmlIr e.xmlNode = false := by
  obtain ⟨source, hoperation, -, -⟩ := e.jsonMatch
  have htrusted := trusted e.json
  unfold MappingFields.trustedRegistryAndBounds at htrusted
  simp only [Bool.and_eq_true, hoperation, e.sameJson.scopeResolution_eq] at htrusted
  obtain ⟨⟨⟨-, hpaths⟩, -⟩, -⟩ := htrusted
  have hnone : e.xml.scopeResolution.xmlUnsupportedQualifierPaths = [] := by
    rw [e.sameXml.scopeResolution_eq]
    simpa using hpaths
  unfold hasUnsupportedQualifier
  rw [hnone]
  cases e.xmlNode.parentId <;> rfl

theorem cli_eq : cliOutcome uuid5 context pack e =
    interpretPositive uuid5 context pack e.cliMapping e.ir e.node := by
  have hmatches : mappingMatches e.cliMapping e.node e.ir = .ok true := by
    unfold mappingMatches
    rw [e.cliMapped.trained]
    dsimp only
    rw [e.projects]
    change Except.ok (matchNode e.cli e.projected).isSome = _
    rw [e.cliMatch]
    rfl
  unfold cliOutcome interpretPair
  rw [hmatches, e.positive]
  rfl

theorem cli_extractMapping :
    extractMapping e.cliMapping e.node e.ir = (do
      let value ← extract e.cli e.captures
      return extracted { type := e.cli.valueExtraction.outputType, value }) := by
  unfold extractMapping
  rw [e.cliMapped.trained]
  dsimp only
  rw [e.projects]
  dsimp only [bind, Except.bind]
  rw [e.cliMatch]

variable (uuid5 context pack)

theorem cli_error (hextract : extract e.cli e.captures = .error error) :
    cliOutcome uuid5 context pack e = .error (.python error) := by
  rw [cli_eq]
  unfold interpretPositive
  rw [e.parsed, cli_extractMapping, hextract]
  rfl

/-- A command line gives a fact without a unit, or the run is stopped. -/
theorem cli_ok (hextract : extract e.cli e.captures = .ok value) :
    cliOutcome uuid5 context pack e =
      if hasType e.cli.valueExtraction.outputType value then
        (buildFact uuid5 context pack e.cliMapping
          { type := e.cli.valueExtraction.outputType, value } deviceScope [e.node] {} none).map
          fun fact => .emitted fact none
      else .error outputInvalid := by
  have hscope : resolveScope e.cliMapping.scopeResolver e.node e.ir =
      .ok { scope := some deviceScope } := by
    rw [e.cliMapped.resolver, e.device]
    rfl
  have hvalid : outputValid e.cliMapping.fieldId
      { type := e.cli.valueExtraction.outputType, value } deviceScope =
      hasType e.cli.valueExtraction.outputType value := by
    rw [e.cliMapped.field]
    exact validate_iff e.device value none
  rw [cli_eq]
  unfold interpretPositive
  rw [e.parsed, cli_extractMapping, hextract, hscope]
  change (do
    raiseIf (!outputValid e.cliMapping.fieldId
      { type := e.cli.valueExtraction.outputType, value } deviceScope) outputInvalid
    let fact ← buildFact uuid5 context pack e.cliMapping
      { type := e.cli.valueExtraction.outputType, value } deviceScope [e.node] {} none
    return .emitted fact none : Except Error PairOutcome) = _
  rw [hvalid]
  cases hasType e.cli.valueExtraction.outputType value with
  | false => rfl
  | true =>
    cases buildFact uuid5 context pack e.cliMapping
      { type := e.cli.valueExtraction.outputType, value } deviceScope [e.node] {} none <;> rfl

theorem xml_error (hextract : extract e.cli e.captures = .error error) :
    xmlOutcome uuid5 context pack e =
      if (Error.python error).isOutputError then .ok (.diagnosed (some "xml_mapping_output_invalid"))
      else .error (.python error) := by
  unfold xmlOutcome interpretXmlMatch
  rw [e.unqualified, caughtOutput_error e.sameXml hextract]
  cases (Error.python error).isOutputError <;> rfl

theorem xml_ok (hextract : extract e.cli e.captures = .ok value) :
    xmlOutcome uuid5 context pack e =
      if hasType e.cli.valueExtraction.outputType value then
        (buildXmlFact uuid5 context pack e.xmlMapping (withUnit e.cli value) deviceScope
          e.xmlNode).map fun fact => .emitted fact none
      else .ok (.diagnosed (some "xml_mapping_output_invalid")) := by
  unfold xmlOutcome interpretXmlMatch
  rw [e.unqualified, caughtOutput_ok e.sameXml e.device hextract]
  cases hasType e.cli.valueExtraction.outputType value with
  | false => rfl
  | true =>
    cases hfact : buildXmlFact uuid5 context pack e.xmlMapping (withUnit e.cli value) deviceScope
      e.xmlNode <;> simp [bind, Except.bind, hfact, Except.map, pure, Except.pure]

theorem json_error (hextract : extract e.cli e.captures = .error error) :
    jsonOutcome uuid5 context pack e =
      if (Error.python error).isOutputError then
        .ok (.diagnosed (some "json_mapping_output_invalid"))
      else .error (.python error) := by
  unfold jsonOutcome interpretJsonMatch
  rw [caughtOutput_error e.sameJson hextract]
  cases (Error.python error).isOutputError <;> rfl

theorem json_ok (hextract : extract e.cli e.captures = .ok value) :
    jsonOutcome uuid5 context pack e =
      if hasType e.cli.valueExtraction.outputType value then
        (buildJsonFact uuid5 context pack e.jsonMapping (withUnit e.cli value) deviceScope
          e.jsonNode).map fun fact => .emitted fact none
      else .ok (.diagnosed (some "json_mapping_output_invalid")) := by
  unfold jsonOutcome interpretJsonMatch
  rw [caughtOutput_ok e.sameJson e.device hextract]
  cases hasType e.cli.valueExtraction.outputType value with
  | false => rfl
  | true =>
    cases hfact : buildJsonFact uuid5 context pack e.jsonMapping (withUnit e.cli value) deviceScope
      e.jsonNode <;> simp [bind, Except.bind, hfact, Except.map, pure, Except.pure]

end Outcomes

section Comparing

variable {a b : Except Error PairOutcome} {error error' : Error} {code : Option String}
  {fact fact' : SecurityFactDraft} {container container' : Option ConfigNode}

theorem not_fails_error : ¬ Fails (.error error) := fun ⟨_, h⟩ => nomatch h

theorem sameTyped_errors : SameTyped (.error error) (.error error') where
  typed _ _ h := nomatch h.choose_spec
  fails := iff_of_false not_fails_error not_fails_error

/-- A diagnostic on one path and an exception on the other. -/
theorem not_sameTyped : ¬ SameTyped (.error error) (.ok (.diagnosed code)) :=
  fun h => not_fails_error (h.fails.mpr ⟨_, rfl⟩)

theorem sameTyped_emitted (htype : fact.value.type = fact'.value.type)
    (hvalue : fact.value.value = fact'.value.value) :
    SameTyped (.ok (.emitted fact container)) (.ok (.emitted fact' container')) ↔
      fact.value.unit = fact'.value.unit := by
  constructor
  · intro h
    exact (h.typed fact fact' ⟨_, rfl⟩ ⟨_, rfl⟩).2.2
  · intro hunit
    refine ⟨fun found found' hfound hfound' => ?_, iff_of_false ?_ ?_⟩
    · obtain ⟨_, hfound⟩ := hfound
      obtain ⟨_, hfound'⟩ := hfound'
      obtain ⟨rfl, -⟩ := PairOutcome.emitted.inj (Except.ok.inj hfound)
      obtain ⟨rfl, -⟩ := PairOutcome.emitted.inj (Except.ok.inj hfound')
      exact ⟨htype, hvalue, hunit⟩
    · exact fun ⟨_, h⟩ => nomatch h
    · exact fun ⟨_, h⟩ => nomatch h

end Comparing

section Agreement

variable (uuid5 : UUID → String → UUID) (context : InterpretationContext) (pack : KnowledgePack)
  (e : EqualEvidence)

theorem agree_error {error : PyError} (hextract : extract e.cli e.captures = .error error) :
    PathsAgree uuid5 context pack e ↔ (Error.python error).isOutputError = false := by
  have hcli := cli_error uuid5 context pack hextract
  have hxml := xml_error uuid5 context pack hextract
  have hjson := json_error uuid5 context pack hextract
  cases hcaught : (Error.python error).isOutputError with
  | true =>
    rw [hcaught, if_pos rfl] at hxml
    refine iff_of_false (fun h => ?_) (by decide)
    have hpair := h.cliXml
    rw [hcli, hxml] at hpair
    exact not_sameTyped hpair
  | false =>
    rw [hcaught, if_neg Bool.false_ne_true] at hxml hjson
    refine iff_of_true ⟨?_, ?_, ?_⟩ rfl
    · rw [hcli, hxml]
      exact sameTyped_errors
    · rw [hcli, hjson]
      exact sameTyped_errors
    · rw [hxml, hjson]
      exact sameTyped_errors

/-- A value of the output type that can be written gives a fact on every path. -/
theorem agree_written {value : PyValue} (hextract : extract e.cli e.captures = .ok value)
    (htype : hasType e.cli.valueExtraction.outputType value = true)
    (hwritten : value.dumps.isOk = true) :
    PathsAgree uuid5 context pack e ↔ e.cli.valueExtraction.outputType ≠ .duration := by
  have hcli := cli_ok uuid5 context pack hextract
  have hxml := xml_ok uuid5 context pack hextract
  have hjson := json_ok uuid5 context pack hextract
  rw [if_pos htype] at hcli hxml hjson
  obtain ⟨cliFact, hcliFact, hcliValue⟩ : ∃ fact, buildFact uuid5 context pack e.cliMapping
      { type := e.cli.valueExtraction.outputType, value } deviceScope [e.node] {} none = .ok fact ∧
        fact.value = { type := e.cli.valueExtraction.outputType, value } :=
    draftFact_ok hwritten _ _
  obtain ⟨xmlFact, hxmlFact, hxmlValue⟩ : ∃ fact, buildXmlFact uuid5 context pack e.xmlMapping
      (withUnit e.cli value) deviceScope e.xmlNode = .ok fact ∧
        fact.value = withUnit e.cli value := draftFact_ok hwritten _ _
  obtain ⟨jsonFact, hjsonFact, hjsonValue⟩ : ∃ fact, buildJsonFact uuid5 context pack e.jsonMapping
      (withUnit e.cli value) deviceScope e.jsonNode = .ok fact ∧
        fact.value = withUnit e.cli value := draftFact_ok hwritten _ _
  rw [hcliFact] at hcli
  rw [hxmlFact] at hxml
  rw [hjsonFact] at hjson
  have hcliXml : SameTyped (cliOutcome uuid5 context pack e) (xmlOutcome uuid5 context pack e) ↔
      cliFact.value.unit = xmlFact.value.unit := by
    rw [hcli, hxml]
    exact sameTyped_emitted (by rw [hcliValue, hxmlValue]; rfl) (by rw [hcliValue, hxmlValue]; rfl)
  have hcliJson : SameTyped (cliOutcome uuid5 context pack e) (jsonOutcome uuid5 context pack e) ↔
      cliFact.value.unit = jsonFact.value.unit := by
    rw [hcli, hjson]
    exact sameTyped_emitted (by rw [hcliValue, hjsonValue]; rfl)
      (by rw [hcliValue, hjsonValue]; rfl)
  have hxmlJson : SameTyped (xmlOutcome uuid5 context pack e) (jsonOutcome uuid5 context pack e) ↔
      xmlFact.value.unit = jsonFact.value.unit := by
    rw [hxml, hjson]
    exact sameTyped_emitted (by rw [hxmlValue, hjsonValue]) (by rw [hxmlValue, hjsonValue])
  have hunit : (none = (withUnit e.cli value).unit) ↔
      e.cli.valueExtraction.outputType ≠ .duration := by
    unfold withUnit
    by_cases hduration : e.cli.valueExtraction.outputType = .duration
    · simp [hduration]
    · simp [hduration]
  rw [hcliValue, hxmlValue, hunit] at hcliXml
  rw [hcliValue, hjsonValue, hunit] at hcliJson
  rw [hxmlValue, hjsonValue] at hxmlJson
  constructor
  · intro h
    exact hcliXml.mp h.cliXml
  · intro h
    exact ⟨hcliXml.mpr h, hcliJson.mpr h, hxmlJson.mpr rfl⟩

/-- A value of another type is reported on two paths only, and one that cannot be written stops
every path. -/
theorem agree_unwritten {value : PyValue} (hextract : extract e.cli e.captures = .ok value)
    (hstopped : hasType e.cli.valueExtraction.outputType value = false ∨
      value.dumps.isOk = false) :
    PathsAgree uuid5 context pack e ↔ hasType e.cli.valueExtraction.outputType value = true := by
  have hcli := cli_ok uuid5 context pack hextract
  have hxml := xml_ok uuid5 context pack hextract
  have hjson := json_ok uuid5 context pack hextract
  cases htype : hasType e.cli.valueExtraction.outputType value with
  | false =>
    rw [htype, if_neg Bool.false_ne_true] at hcli hxml
    refine iff_of_false (fun h => ?_) (by decide)
    have hpair := h.cliXml
    rw [hcli, hxml] at hpair
    exact not_sameTyped hpair
  | true =>
    have hunwritten : value.dumps.isOk = false := by
      obtain hother | hunwritten := hstopped
      · rw [htype] at hother
        cases hother
      · exact hunwritten
    rw [htype, if_pos rfl] at hcli hxml hjson
    obtain ⟨cliError, hcliError⟩ : ∃ error, buildFact uuid5 context pack e.cliMapping
        { type := e.cli.valueExtraction.outputType, value } deviceScope [e.node] {} none =
          .error error := draftFact_error hunwritten _ _
    obtain ⟨xmlError, hxmlError⟩ : ∃ error, buildXmlFact uuid5 context pack e.xmlMapping
        (withUnit e.cli value) deviceScope e.xmlNode = .error error :=
      draftFact_error hunwritten _ _
    obtain ⟨jsonError, hjsonError⟩ : ∃ error, buildJsonFact uuid5 context pack e.jsonMapping
        (withUnit e.cli value) deviceScope e.jsonNode = .error error :=
      draftFact_error hunwritten _ _
    rw [hcliError] at hcli
    rw [hxmlError] at hxml
    rw [hjsonError] at hjson
    refine iff_of_true ⟨?_, ?_, ?_⟩ rfl
    · rw [hcli, hxml]
      exact sameTyped_errors
    · rw [hcli, hjson]
      exact sameTyped_errors
    · rw [hxml, hjson]
      exact sameTyped_errors

end Agreement

/-- The three paths produce the same typed value exactly where the extraction gives a value of the
output type that is no written duration, or raises what no path catches. -/
theorem paths_agree_iff (uuid5 : UUID → String → UUID) (context : InterpretationContext)
    (pack : KnowledgePack) (e : EqualEvidence) :
    PathsAgree uuid5 context pack e ↔ UnitFree e.cli e.captures := by
  unfold UnitFree
  cases hextract : extract e.cli e.captures with
  | error error => exact agree_error uuid5 context pack e hextract
  | ok value =>
    dsimp only
    cases htype : hasType e.cli.valueExtraction.outputType value with
    | false =>
      rw [agree_unwritten uuid5 context pack e hextract (.inl htype), htype]
      simp
    | true =>
      cases hwritten : value.dumps.isOk with
      | false =>
        rw [agree_unwritten uuid5 context pack e hextract (.inr hwritten), htype]
        simp
      | true =>
        rw [agree_written uuid5 context pack e hextract htype hwritten]
        simp

/-- Captured minutes are an idle timeout in seconds. -/
def timeoutFields (structuralMatch : StructuralMatch) : MappingFields where
  profileApplicability := { profileVersionIds := ["acme@1.0.0"] }
  structuralMatch := structuralMatch
  targetFieldId := "management.session.idle_timeout"
  valueExtraction := { operation := .capture, capture := some "minutes", outputType := .duration }
  unitConversion := .minutesToSeconds
  scopeResolution := { strategy := .device }
  negationBehavior := .unsupported
  removalBehavior := .unsupported
  defaultBehavior := .unknown

def minutesArgument : ArgumentPattern where
  operation := .capture
  name := some "minutes"
  valueType := some .integer

def minutesElement : XmlPathMatch where
  path := [{ localName := "idle-timeout" }]
  source := .text
  capture := some "minutes"
  valueType := some .integer

def minutesKey : JsonPathMatch where
  path := [{ key := some "idle-timeout" }]
  source := .value
  capture := some "minutes"
  valueType := some .integer

/-- `idle-timeout 10`. -/
def timeoutCli : MappingDefinition where
  toMappingFields :=
    timeoutFields { command := "idle-timeout", arguments := [minutesArgument] }
  isValid := by decide +kernel

/-- `<idle-timeout>10</idle-timeout>`. -/
def timeoutXml : MappingDefinition where
  toMappingFields :=
    timeoutFields { operation := .xmlPath, command := "xml", xmlPath := some minutesElement }
  isValid := by decide +kernel

/-- The key `idle-timeout` with the value 10. -/
def timeoutJson : MappingDefinition where
  toMappingFields :=
    timeoutFields { operation := .jsonPath, command := "json", jsonPath := some minutesKey }
  isValid := by decide +kernel

def timeoutMapping (definition : MappingDefinition) : DeclarativeMapping :=
  { mappingId := UUID.ofNat 11, mappingVersionId := UUID.ofNat 12,
    fieldId := "management.session.idle_timeout", matcher := { command := "idle-timeout" },
    extractor := "training_dsl", scopeResolver := "device", declaredValueTypes := [.duration],
    trainingDefinition := some definition }

def timeoutSource : ArtifactProvenance :=
  { artifactId := UUID.ofNat 1, snapshotId := some (UUID.ofNat 4), sourceLabel := "router.cfg" }

def timeoutNode : ConfigNode :=
  { nodeId := "irn_1", artifactId := UUID.ofNat 1, sourceLabel := "router.cfg",
    rawText := "idle-timeout 10", command := some "idle-timeout", arguments := ["10"],
    parentId := none, children := [], depth := 0, order := 1, contextPath := [],
    sourceStart := 1, sourceEnd := 1, negated := false, inactive := false, comments := [],
    kind := .statement, parseStatus := .parsed }

def timeoutEvidence : EqualEvidence where
  cli := timeoutCli
  xml := timeoutXml
  json := timeoutJson
  sameXml := rfl
  sameJson := rfl
  cliMapping := timeoutMapping timeoutCli
  xmlMapping := timeoutMapping timeoutXml
  jsonMapping := timeoutMapping timeoutJson
  cliMapped := ⟨rfl, rfl, rfl, by decide⟩
  captures := [("minutes", .int 10)]
  ir :=
    { readerId := "indentation_cli.v1", source := timeoutSource, nodes := [timeoutNode],
      rootNodeIds := ["irn_1"], diagnostics := [], truncated := false }
  node := timeoutNode
  projected := projection timeoutNode "idle-timeout" none [] "device"
  positive := rfl
  parsed := rfl
  projects := by decide +kernel
  cliMatch := by decide +kernel
  xmlIr :=
    { readerId := "xml_tree.v1", source := timeoutSource, nodes := [], truncated := false }
  xmlNode :=
    { nodeId := "xmln_1", path := ["idle-timeout[1]"], tag := "idle-timeout", attributes := [],
      text := some "10", parentId := none, order := 1, source := timeoutSource }
  xmlMatch := ⟨minutesElement, rfl, rfl, by decide +kernel⟩
  jsonNode :=
    { nodeId := "jsonn_2", path := [.key "idle-timeout"], value := .int 10,
      parentId := some "jsonn_1", order := 2, source := timeoutSource }
  jsonMatch := ⟨minutesKey, rfl, rfl, by decide +kernel⟩

/-- A captured number is the version of SSH. -/
def versionFields (structuralMatch : StructuralMatch) : MappingFields where
  profileApplicability := { profileVersionIds := ["acme@1.0.0"] }
  structuralMatch := structuralMatch
  targetFieldId := "management.remote.ssh.version"
  valueExtraction := { operation := .capture, capture := some "version", outputType := .integer }
  unitConversion := .none
  scopeResolution := { strategy := .device }
  negationBehavior := .unsupported
  removalBehavior := .unsupported
  defaultBehavior := .unknown

def versionElement : XmlPathMatch where
  path := [{ localName := "ssh-version" }]
  source := .text
  capture := some "version"
  valueType := some .integer

def versionKey : JsonPathMatch where
  path := [{ key := some "ssh-version" }]
  source := .value
  capture := some "version"
  valueType := some .integer

/-- `ssh-version 2`. -/
def versionCli : MappingDefinition where
  toMappingFields := versionFields
    { command := "ssh-version",
      arguments := [{ operation := .capture, name := some "version", valueType := some .integer }] }
  isValid := by decide +kernel

def versionXml : MappingDefinition where
  toMappingFields := versionFields
    { operation := .xmlPath, command := "xml", xmlPath := some versionElement }
  isValid := by decide +kernel

def versionJson : MappingDefinition where
  toMappingFields := versionFields
    { operation := .jsonPath, command := "json", jsonPath := some versionKey }
  isValid := by decide +kernel

def versionMapping (definition : MappingDefinition) : DeclarativeMapping :=
  { timeoutMapping definition with
    fieldId := "management.remote.ssh.version", matcher := { command := "ssh-version" },
    declaredValueTypes := [.integer] }

def versionNode : ConfigNode :=
  { timeoutNode with
    rawText := "ssh-version 2", command := some "ssh-version", arguments := ["2"] }

def versionEvidence : EqualEvidence where
  cli := versionCli
  xml := versionXml
  json := versionJson
  sameXml := rfl
  sameJson := rfl
  cliMapping := versionMapping versionCli
  xmlMapping := versionMapping versionXml
  jsonMapping := versionMapping versionJson
  cliMapped := ⟨rfl, rfl, rfl, by decide⟩
  captures := [("version", .int 2)]
  ir := { timeoutEvidence.ir with nodes := [versionNode] }
  node := versionNode
  projected := projection versionNode "ssh-version" none [] "device"
  positive := rfl
  parsed := rfl
  projects := by decide +kernel
  cliMatch := by decide +kernel
  xmlIr := timeoutEvidence.xmlIr
  xmlNode :=
    { timeoutEvidence.xmlNode with
      path := ["ssh-version[1]"], tag := "ssh-version", text := some "2" }
  xmlMatch := ⟨versionElement, rfl, rfl, by decide +kernel⟩
  jsonNode := { timeoutEvidence.jsonNode with path := [.key "ssh-version"], value := .int 2 }
  jsonMatch := ⟨versionKey, rfl, rfl, by decide +kernel⟩

/-- A version has no unit, and the three paths agree on it. -/
theorem paths_agree_version (uuid5 : UUID → String → UUID) (context : InterpretationContext)
    (pack : KnowledgePack) : PathsAgree uuid5 context pack versionEvidence := by
  have hextract : extract versionEvidence.cli versionEvidence.captures = .ok (.int 2) := by
    decide +kernel
  exact (agree_written uuid5 context pack versionEvidence hextract rfl (by decide +kernel)).mpr
    (by decide)

theorem timeout_without_unit :
    ¬ ∀ (uuid5 : UUID → String → UUID) (context : InterpretationContext) (pack : KnowledgePack)
      (e : EqualEvidence), PathsAgree uuid5 context pack e := by
  intro h
  have hextract : extract timeoutEvidence.cli timeoutEvidence.captures = .ok (.int 600) := by
    decide +kernel
  have hpaths := h (fun _ _ => UUID.ofNat 0)
    { auditId := UUID.ofNat 2, deviceId := UUID.ofNat 3, snapshotId := UUID.ofNat 4 }
    Sealed.Generic.cli timeoutEvidence
  rw [agree_written _ _ _ timeoutEvidence hextract rfl (by decide +kernel)] at hpaths
  exact hpaths rfl

end ConfigAuditor.Interpretation.EvidencePaths
