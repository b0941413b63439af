import ConfigAuditor.SecurityModel

/-!
# The mapping definition language

The declarative definitions an administrator publishes (`app.training.dsl`): their
data, the model validators that admit them, and the matcher and extractor that
run them on one structural node.
-/
namespace ConfigAuditor.Training.Dsl

open Library SecurityModel

inductive PatternOperation where
  | literal
  | capture
  | optional
  | oneOf
  deriving DecidableEq, Repr

def PatternOperation.text : PatternOperation → String
  | literal => "literal"
  | capture => "capture"
  | optional => "optional"
  | oneOf => "one_of"

/-- The `value_type` of a capture; `ip_address` exists for structured paths only. -/
inductive CaptureType where
  | string
  | integer
  | number
  | boolean
  | ipAddress
  deriving DecidableEq, Repr

def CaptureType.text : CaptureType → String
  | string => "string"
  | integer => "integer"
  | number => "number"
  | boolean => "boolean"
  | ipAddress => "ip_address"

structure ArgumentPattern where
  operation : PatternOperation
  value : Option String := none
  name : Option String := none
  valueType : Option CaptureType := none
  options : List String := []
  deriving DecidableEq

structure XmlPathSegment where
  localName : String
  namespaceUri : Option String := none
  /-- `occurrence == "exact"`; the other literal is `"any"`. -/
  exact : Bool := true
  index : Int := 1
  deriving DecidableEq

inductive XmlSource where
  | presence
  | text
  | attributeValue
  deriving DecidableEq, Repr

def XmlSource.name : XmlSource → String
  | presence => "presence"
  | text => "text"
  | attributeValue => "attribute"

structure XmlPathMatch where
  path : List XmlPathSegment
  source : XmlSource := .presence
  attributeName : Option String := none
  capture : Option String := none
  valueType : Option CaptureType := none
  deriving DecidableEq

structure JsonPathSegment where
  key : Option String := none
  index : Option Int := none
  deriving DecidableEq

inductive JsonSource where
  | presence
  | value
  deriving DecidableEq, Repr

def JsonSource.name : JsonSource → String
  | presence => "presence"
  | value => "value"

structure JsonPathMatch where
  path : List JsonPathSegment
  source : JsonSource := .value
  capture : Option String := none
  valueType : Option CaptureType := none
  deriving DecidableEq

inductive MatchOperation where
  | commandEquality
  | commandPrefix
  | xmlPath
  | jsonPath
  deriving DecidableEq, Repr

def MatchOperation.text : MatchOperation → String
  | commandEquality => "command_equality"
  | commandPrefix => "command_prefix"
  | xmlPath => "xml_path"
  | jsonPath => "json_path"

inductive ScopeStrategy where
  | device
  | currentScope
  | parentScope
  | managementPlane
  | vtyRange
  | interface
  | interfaceRange
  | vrf
  | securityZone
  | global
  deriving DecidableEq, Repr

def ScopeStrategy.text : ScopeStrategy → String
  | device => "device"
  | currentScope => "current_scope"
  | parentScope => "parent_scope"
  | managementPlane => "management_plane"
  | vtyRange => "vty_range"
  | interface => "interface"
  | interfaceRange => "interface_range"
  | vrf => "vrf"
  | securityZone => "security_zone"
  | global => "global"

structure StructuralMatch where
  operation : MatchOperation := .commandEquality
  command : String
  arguments : List ArgumentPattern := []
  minimumArguments : Option Int := none
  maximumArguments : Option Int := none
  parentCommand : Option String := none
  ancestorCommands : List String := []
  scopeType : Option ScopeStrategy := none
  negated : Option Bool := none
  xmlPath : Option XmlPathMatch := none
  jsonPath : Option JsonPathMatch := none
  deriving DecidableEq

inductive ExtractionOperation where
  | capture
  | constant
  | booleanFromPresence
  | enumMapping
  | integer
  | number
  | list
  | durationFromParts
  deriving DecidableEq, Repr

def ExtractionOperation.text : ExtractionOperation → String
  | capture => "capture"
  | constant => "constant"
  | booleanFromPresence => "boolean_from_presence"
  | enumMapping => "enum_mapping"
  | integer => "integer"
  | number => "number"
  | list => "list"
  | durationFromParts => "duration_from_parts"

structure ValueExtraction where
  operation : ExtractionOperation
  capture : Option String := none
  value : PyValue := .none
  values : List String := []
  enumMap : List (String × String) := []
  parts : List String := []
  outputType : TypedValueType
  deriving DecidableEq

inductive UnitConversion where
  | none
  | minutesToSeconds
  | hoursToSeconds
  | millisecondsToSeconds
  deriving DecidableEq, Repr

def UnitConversion.text : UnitConversion → String
  | none => "none"
  | minutesToSeconds => "minutes_to_seconds"
  | hoursToSeconds => "hours_to_seconds"
  | millisecondsToSeconds => "milliseconds_to_seconds"

structure ScopeResolution where
  strategy : ScopeStrategy
  xmlUnsupportedQualifierPaths : List (List String) := []
  deriving DecidableEq

/-- The operations of `ExplicitBehavior`. -/
inductive ExplicitBehavior where
  | unsupported
  | emitValue
  | resetToDefault
  | removeValue
  | invertBoolean
  | unknown
  deriving DecidableEq, Repr

def ExplicitBehavior.text : ExplicitBehavior → String
  | unsupported => "unsupported"
  | emitValue => "emit_value"
  | resetToDefault => "reset_to_default"
  | removeValue => "remove_value"
  | invertBoolean => "invert_boolean"
  | unknown => "unknown"

structure ValidationNode where
  command : String
  arguments : List String := []
  parentCommand : Option String := none
  ancestorCommands : List String := []
  scopeType : Option String := none
  negated : Bool := false
  deriving DecidableEq

inductive ExampleFamily where
  | positive
  | alternateValues
  | negative
  | wrongScope
  | negation
  | conflict
  | regression
  deriving DecidableEq, Repr

def ExampleFamily.text : ExampleFamily → String
  | positive => "positive"
  | alternateValues => "alternate_values"
  | negative => "negative"
  | wrongScope => "wrong_scope"
  | negation => "negation"
  | conflict => "conflict"
  | regression => "regression"

structure MappingExample where
  family : ExampleFamily
  node : ValidationNode
  expectedMatch : Bool
  expectedValue : PyValue := .none
  deriving DecidableEq

structure ProfileApplicability where
  profileIds : List String := []
  profileVersionIds : List String
  deriving DecidableEq

/-- The fields of `MappingDefinition` before its validators ran. -/
structure MappingFields where
  profileApplicability : ProfileApplicability
  structuralMatch : StructuralMatch
  targetFieldId : String
  valueExtraction : ValueExtraction
  unitConversion : UnitConversion := .none
  scopeResolution : ScopeResolution
  negationBehavior : ExplicitBehavior
  removalBehavior : ExplicitBehavior
  defaultBehavior : ExplicitBehavior
  examples : List MappingExample := []
  deriving DecidableEq

def maxMappingBytes : Nat := 64 * 1024

def maxDslDepth : Nat := 12

def isSafeChar (c : Char) : Bool :=
  Text.isAsciiAlnum c || c == '_' || c == '.' || c == ':' || c == '/' || c == '@' || c == '-'

/-- `_safe`: a full match of `SAFE_TOKEN`. -/
def safe (value : String) : Bool :=
  1 ≤ value.length && value.length ≤ 255 && value.toList.all isSafeChar

def safeOption (value : Option String) : Bool := value.any safe

/-- A full match of `IDENTIFIER`. -/
def isIdentifier (name : String) : Bool :=
  match name.toList with
  | [] => false
  | c :: cs => Text.isAsciiLetter c && cs.length ≤ 63 &&
      cs.all fun d => Text.isAsciiAlnum d || d == '_'

/-- A truthy optional string, as in `if self.capture`. -/
def present (value : Option String) : Bool := value.any fun s => !s.isEmpty

def within (least most : Int) (value : Option Int) : Bool :=
  value.all fun i => least ≤ i && i ≤ most

def atMost (limit : Nat) (value : Option String) : Bool := value.all fun s => s.length ≤ limit

def ArgumentPattern.boundedShape (p : ArgumentPattern) : Bool :=
  p.options.length ≤ 32 && p.valueType != some .ipAddress &&
    match p.operation with
    | .literal => safeOption p.value
    | .capture => present p.name && p.name.all isIdentifier && p.valueType.isSome
    | .optional => safeOption p.value
    | .oneOf => !p.options.isEmpty && p.options.all safe

def isXmlNameStart (c : Char) : Bool := Text.isAsciiLetter c || c == '_'

def isXmlNameChar (c : Char) : Bool :=
  Text.isAsciiAlnum c || c == '_' || c == '.' || c == '-'

def XmlPathSegment.safeName (s : XmlPathSegment) : Bool :=
  (match s.localName.toList with
    | [] => false
    | c :: cs => isXmlNameStart c && cs.length ≤ 127 && cs.all isXmlNameChar) &&
  (s.namespaceUri.all fun uri => uri.length ≤ 512 &&
    (Text.startsWith uri "http://" || Text.startsWith uri "https://" ||
      Text.startsWith uri "urn:")) &&
  1 ≤ s.index && s.index ≤ 1024

def XmlPathMatch.validSource (m : XmlPathMatch) : Bool :=
  1 ≤ m.path.length && m.path.length ≤ 16 && m.path.all (·.safeName) &&
    atMost 128 m.attributeName &&
    (m.source != .attributeValue || present m.attributeName) &&
    (!present m.capture || m.capture.all isIdentifier) &&
    (m.source == .presence || present m.capture) &&
    (!present m.attributeName || m.attributeName.all isIdentifier)

def JsonPathSegment.boundedShape (s : JsonPathSegment) : Bool :=
  (s.key.isNone != s.index.isNone) && within 0 100000 s.index &&
    s.key.all fun key => 1 ≤ key.length && key.length ≤ 128 &&
      key.toList.all fun c => 32 ≤ c.toNat

def JsonPathMatch.validSource (m : JsonPathMatch) : Bool :=
  1 ≤ m.path.length && m.path.length ≤ 16 && m.path.all (·.boundedShape) &&
    (m.source != .value || (present m.capture && m.valueType.isSome)) &&
    (!present m.capture || m.capture.all isIdentifier)

def StructuralMatch.safeMatcher (m : StructuralMatch) : Bool :=
  1 ≤ m.command.length && m.command.length ≤ 100 &&
    m.arguments.length ≤ 32 && m.arguments.all (·.boundedShape) &&
    within 0 64 m.minimumArguments && within 0 64 m.maximumArguments &&
    atMost 100 m.parentCommand && m.ancestorCommands.length ≤ 8 &&
    m.xmlPath.all (·.validSource) && m.jsonPath.all (·.validSource) &&
    match m.operation with
    | .xmlPath => m.xmlPath.isSome && m.jsonPath.isNone
    | .jsonPath => m.jsonPath.isSome && m.xmlPath.isNone
    | _ => m.xmlPath.isNone && m.jsonPath.isNone && safe m.command &&
        m.ancestorCommands.all safe && (!present m.parentCommand || m.parentCommand.all safe) &&
        (match m.minimumArguments, m.maximumArguments with
          | some least, some most => least ≤ most
          | _, _ => true)

def ValueExtraction.validOperation (e : ValueExtraction) : Bool :=
  e.values.length ≤ 32 && e.parts.length ≤ 8 &&
    (!present e.capture || e.capture.all isIdentifier) && e.parts.all isIdentifier &&
    match e.operation with
    | .capture | .integer | .number => present e.capture
    | .enumMapping => present e.capture && !e.enumMap.isEmpty
    | .durationFromParts => !e.parts.isEmpty
    | _ => true

def ScopeResolution.boundedXmlQualifiers (s : ScopeResolution) : Bool :=
  s.xmlUnsupportedQualifierPaths.length ≤ 8 &&
    s.xmlUnsupportedQualifierPaths.all fun path =>
      !path.isEmpty && path.length ≤ 8 && path.all safe

/-- The field bounds declared on `ValidationNode`. -/
def ValidationNode.bounded (n : ValidationNode) : Bool :=
  1 ≤ n.command.length && n.command.length ≤ 100 && n.arguments.length ≤ 64 &&
    atMost 100 n.parentCommand && n.ancestorCommands.length ≤ 8 && atMost 64 n.scopeType

def ProfileApplicability.safeProfiles (p : ProfileApplicability) : Bool :=
  p.profileIds.length ≤ 32 && 1 ≤ p.profileVersionIds.length &&
    p.profileVersionIds.length ≤ 32 && p.profileIds.all safe && p.profileVersionIds.all safe

def strings (items : List String) : PyValue := .list (items.map .str)

def optionInt : Option Int → PyValue
  | none => .none
  | some i => .int i

def ArgumentPattern.payload (p : ArgumentPattern) : PyValue :=
  .dict [("operation", .str p.operation.text), ("value", optionText p.value),
    ("name", optionText p.name), ("value_type", optionText (p.valueType.map (·.text))),
    ("options", strings p.options)]

def XmlPathSegment.payload (s : XmlPathSegment) : PyValue :=
  .dict [("local_name", .str s.localName), ("namespace_uri", optionText s.namespaceUri),
    ("occurrence", .str (if s.exact then "exact" else "any")), ("index", .int s.index)]

def XmlPathMatch.payload (m : XmlPathMatch) : PyValue :=
  .dict [("path", .list (m.path.map (·.payload))), ("source", .str m.source.name),
    ("attribute", optionText m.attributeName), ("capture", optionText m.capture),
    ("value_type", optionText (m.valueType.map (·.text))),
    ("start_mode", .str "document_root")]

def JsonPathMatch.payload (m : JsonPathMatch) : PyValue :=
  .dict [("path", .list (m.path.map fun s =>
      .dict [("key", optionText s.key), ("index", optionInt s.index)])),
    ("source", .str m.source.name), ("capture", optionText m.capture),
    ("value_type", optionText (m.valueType.map (·.text)))]

def StructuralMatch.payload (m : StructuralMatch) : PyValue :=
  .dict [("operation", .str m.operation.text), ("command", .str m.command),
    ("arguments", .list (m.arguments.map (·.payload))),
    ("minimum_arguments", optionInt m.minimumArguments),
    ("maximum_arguments", optionInt m.maximumArguments),
    ("parent_command", optionText m.parentCommand),
    ("ancestor_commands", strings m.ancestorCommands),
    ("scope_type", optionText (m.scopeType.map (·.text))),
    ("negated", match m.negated with
      | some b => .bool b
      | none => .none),
    ("xml_path", match m.xmlPath with
      | some x => x.payload
      | none => .none),
    ("json_path", match m.jsonPath with
      | some j => j.payload
      | none => .none)]

def ValueExtraction.payload (e : ValueExtraction) : PyValue :=
  .dict [("operation", .str e.operation.text), ("capture", optionText e.capture),
    ("value", e.value), ("values", strings e.values),
    ("enum_map", .dict (e.enumMap.map fun p => (p.1, .str p.2))), ("parts", strings e.parts),
    ("output_type", .str e.outputType.text)]

def ValidationNode.payload (n : ValidationNode) : PyValue :=
  .dict [("command", .str n.command), ("arguments", strings n.arguments),
    ("parent_command", optionText n.parentCommand),
    ("ancestor_commands", strings n.ancestorCommands),
    ("scope_type", optionText n.scopeType), ("negated", .bool n.negated)]

def MappingExample.payload (e : MappingExample) : PyValue :=
  .dict [("family", .str e.family.text), ("node", e.node.payload),
    ("expected_match", .bool e.expectedMatch), ("expected_value", e.expectedValue)]

def operationPayload (text : String) : PyValue := .dict [("operation", .str text)]

/-- `model_dump(mode="json")`. -/
def MappingFields.payload (d : MappingFields) : PyValue :=
  .dict [("profile_applicability", .dict [
      ("profile_ids", strings d.profileApplicability.profileIds),
      ("profile_version_ids", strings d.profileApplicability.profileVersionIds)]),
    ("structural_match", d.structuralMatch.payload),
    ("target_field_id", .str d.targetFieldId),
    ("value_extraction", d.valueExtraction.payload),
    ("unit_conversion", operationPayload d.unitConversion.text),
    ("scope_resolution", .dict [("strategy", .str d.scopeResolution.strategy.text),
      ("xml_unsupported_qualifier_paths",
        .list (d.scopeResolution.xmlUnsupportedQualifierPaths.map strings))]),
    ("negation_behavior", operationPayload d.negationBehavior.text),
    ("removal_behavior", operationPayload d.removalBehavior.text),
    ("default_behavior", operationPayload d.defaultBehavior.text),
    ("examples", .list (d.examples.map (·.payload)))]

mutual
def depth : PyValue → Nat
  | .dict entries => 1 + depthEntries entries
  | .list items => 1 + depthList items
  | _ => 0

def depthList : List PyValue → Nat
  | [] => 0
  | v :: vs => max (depth v) (depthList vs)

def depthEntries : List (String × PyValue) → Nat
  | [] => 0
  | (_, v) :: rest => max (depth v) (depthEntries rest)
end

def withinSize (payload : PyValue) : Bool :=
  match payload.encode false with
  | .ok text => text.length ≤ maxMappingBytes
  | .error _ => false

/-- `trusted_registry_and_bounds`. -/
def MappingFields.trustedRegistryAndBounds (d : MappingFields) : Bool :=
  (match fieldRegistry d.targetFieldId with
    | none => false
    | some field => field.expectedTypes.contains d.valueExtraction.outputType &&
        field.allowedScopeTypes.contains d.scopeResolution.strategy.text) &&
  ((d.structuralMatch.operation != .xmlPath && d.structuralMatch.operation != .jsonPath) ||
    d.scopeResolution.strategy == .device || d.scopeResolution.strategy == .global) &&
  (d.structuralMatch.operation == .xmlPath ||
    d.scopeResolution.xmlUnsupportedQualifierPaths.isEmpty) &&
  withinSize d.payload && depth d.payload ≤ maxDslDepth

/-- `MappingDefinition.model_validate` accepts these fields. -/
def MappingFields.valid (d : MappingFields) : Bool :=
  d.profileApplicability.safeProfiles && d.structuralMatch.safeMatcher &&
    1 ≤ d.targetFieldId.length && d.targetFieldId.length ≤ 255 &&
    d.valueExtraction.validOperation && d.scopeResolution.boundedXmlQualifiers &&
    d.examples.length ≤ 100 && d.examples.all (·.node.bounded) &&
    d.trustedRegistryAndBounds

/-- A definition that passed `MappingDefinition.model_validate`. -/
structure MappingDefinition extends MappingFields where
  isValid : toMappingFields.valid = true
  deriving DecidableEq

/-- `MappingDefinition.model_validate`. -/
def modelValidate (d : MappingFields) : Except Error MappingDefinition :=
  if h : d.valid = true then .ok ⟨d, h⟩ else .error .modelValidation

@[simp] theorem modelValidate_toMappingFields (d : MappingDefinition) :
    modelValidate d.toMappingFields = .ok d := by
  simp [modelValidate, d.isValid]

theorem modelValidate_eq_ok {d : MappingFields} {v : MappingDefinition} :
    modelValidate d = .ok v ↔ v.toMappingFields = d := by
  constructor
  · intro h
    unfold modelValidate at h
    split at h
    · cases h; rfl
    · cases h
  · rintro rfl
    exact modelValidate_toMappingFields v

/-- The target field of a definition is registered, and expects its output type and scope. -/
theorem MappingDefinition.field_spec (d : MappingDefinition) :
    ∃ field, fieldRegistry d.targetFieldId = some field ∧
      d.valueExtraction.outputType ∈ field.expectedTypes ∧
      d.scopeResolution.strategy.text ∈ field.allowedScopeTypes := by
  have h := d.isValid
  simp only [MappingFields.valid, MappingFields.trustedRegistryAndBounds, Bool.and_eq_true] at h
  obtain ⟨-, ⟨⟨⟨h, -⟩, -⟩, -⟩, -⟩ := h
  cases hf : fieldRegistry d.targetFieldId with
  | none => simp [hf] at h
  | some field =>
    simp only [hf, Bool.and_eq_true, List.contains_iff_mem] at h
    exact ⟨field, rfl, h⟩

end ConfigAuditor.Training.Dsl
