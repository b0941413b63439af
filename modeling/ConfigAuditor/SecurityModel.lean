import ConfigAuditor.Errors
import ConfigAuditor.Library.Uuid

/-!
# Canonical security facts

The typed values, scopes and evidence references of `app.security_model`, the
registry of canonical fields, and the check that a value and a scope fit a field.
-/
namespace ConfigAuditor.SecurityModel

open Library

inductive TypedValueType where
  | boolean
  | integer
  | number
  | string
  | enum
  | ipAddress
  | ipNetwork
  | duration
  | list
  | object
  | null
  deriving DecidableEq, Repr

namespace TypedValueType

/-- The `str` value of the enumeration member. -/
def text : TypedValueType → String
  | boolean => "boolean"
  | integer => "integer"
  | number => "number"
  | string => "string"
  | enum => "enum"
  | ipAddress => "ip_address"
  | ipNetwork => "ip_network"
  | duration => "duration"
  | list => "list"
  | object => "object"
  | null => "null"

def all : List TypedValueType :=
  [boolean, integer, number, string, enum, ipAddress, ipNetwork, duration, list, object, null]

/-- `TypedValueType(text)`. -/
def ofText? (s : String) : Option TypedValueType := all.find? (·.text == s)

@[simp] theorem ofText?_text (t : TypedValueType) : ofText? t.text = some t := by
  cases t <;> decide

end TypedValueType

structure TypedValue where
  type : TypedValueType
  value : PyValue
  unit : Option String := none
  originalValue : PyValue := .none
  originalUnit : Option String := none
  deriving DecidableEq

/-- `None` or a string, as a JSON value. -/
def optionText : Option String → PyValue
  | none => .none
  | some s => .str s

def TypedValue.toDict (v : TypedValue) : PyValue :=
  .dict [("type", .str v.type.text), ("value", v.value), ("unit", optionText v.unit),
    ("original_value", v.originalValue), ("original_unit", optionText v.originalUnit)]

structure ScopeRef where
  type : String
  key : String
  attributes : List (String × PyValue)
  deriving DecidableEq

def ScopeRef.toDict (s : ScopeRef) : PyValue :=
  .dict [("type", .str s.type), ("key", .str s.key), ("attributes", .dict s.attributes)]

inductive ArtifactEvidenceType where
  | configuration
  | versionOutput
  | inventoryOutput
  | operationalOutput
  | structuredExport
  | unknownEvidence
  deriving DecidableEq, Repr

structure EvidenceRef where
  artifactId : UUID
  startLine : Option Nat
  endLine : Option Nat
  sourcePath : String
  irNodeId : String
  evidenceType : ArtifactEvidenceType
  structuredOrder : Option Nat := none
  deriving DecidableEq

inductive FactState where
  | explicit
  | inherited
  | documentedDefault
  | derived
  | unknown
  | conflicting
  deriving DecidableEq, Repr

inductive FactValidationStatus where
  | validated
  | administratorValidated
  | unresolved
  | conflicting
  deriving DecidableEq, Repr

inductive InterpretationConfidence where
  | high
  | medium
  | low
  | unresolved
  deriving DecidableEq, Repr

structure SecurityFactDraft where
  factId : UUID
  auditId : UUID
  deviceId : UUID
  snapshotId : UUID
  fieldId : String
  value : TypedValue
  scope : ScopeRef
  state : FactState
  evidenceRefs : List EvidenceRef
  sourceIrNodeIds : List String
  mappingId : Option UUID
  mappingVersionId : Option UUID
  knowledgePackVersionId : UUID
  validationStatus : FactValidationStatus
  dependencies : List UUID
  interpretationConfidence : InterpretationConfidence
  deriving DecidableEq

structure CanonicalField where
  fieldId : String
  expectedTypes : List TypedValueType
  allowedScopeTypes : List String
  repeatable : Bool
  deriving DecidableEq

open TypedValueType in
def fields : List CanonicalField :=
  [⟨"management.remote.telnet.enabled", [boolean], ["vty_range", "interface", "device"], false⟩,
    ⟨"management.remote.ssh.enabled", [boolean], ["vty_range", "interface", "device"], false⟩,
    ⟨"management.remote.ssh.version", [integer], ["device"], false⟩,
    ⟨"management.remote.https.enabled", [boolean], ["interface"], false⟩,
    ⟨"management.remote.http.enabled", [boolean], ["interface", "device"], false⟩,
    ⟨"management.remote.tls.minimum_version", [enum], ["device"], false⟩,
    ⟨"management.remote.source.restriction.configured", [boolean],
      ["vty_range", "administrator", "management_service"], false⟩,
    ⟨"management.remote.ssh.strong_crypto.configured", [boolean], ["device"], false⟩,
    ⟨"management.remote.source.permitted_network", [ipNetwork], ["administrator"], true⟩,
    ⟨"management.session.idle_timeout", [duration], ["vty_range", "device"], false⟩,
    ⟨"logging.remote.destination", [ipAddress, string], ["device"], true⟩,
    ⟨"logging.enabled", [boolean], ["device"], false⟩,
    ⟨"logging.administrative_access.enabled", [boolean], ["device"], false⟩,
    ⟨"time.ntp.server", [ipAddress, string], ["device"], true⟩,
    ⟨"time.ntp.configured", [boolean], ["device"], false⟩,
    ⟨"time.ntp.authentication.enabled", [boolean], ["device"], false⟩,
    ⟨"time.ntp.authentication.key_id", [integer], ["device"], true⟩,
    ⟨"time.ntp.authentication.trusted_key_id", [integer], ["device"], true⟩]

/-- `FIELD_REGISTRY.get(field_id)`. -/
def fieldRegistry (fieldId : String) : Option CanonicalField := fields.find? (·.fieldId == fieldId)

def getField (fieldId : String) : Except Error CanonicalField :=
  match fieldRegistry fieldId with
  | some field => .ok field
  | none => .error (.fieldRegistryValidation "Unknown canonical field")

/-- The Python type a value of each canonical type must have. -/
def hasType (type : TypedValueType) (candidate : PyValue) : Bool :=
  match type with
  | .boolean => candidate.isBool
  | .integer => candidate.isInt
  | .number => candidate.isNumber
  | .string | .enum | .ipAddress | .ipNetwork => candidate.isStr
  | .duration => candidate.isNumber
  | .list => match candidate with
    | .list _ => true
    | _ => false
  | .object => match candidate with
    | .dict _ => true
    | _ => false
  | .null => match candidate with
    | .none => true
    | _ => false

def validateTypedValue (value : TypedValue) : Except Error Unit :=
  raiseIf (!hasType value.type value.value)
    (.fieldRegistryValidation "TypedValue value is incompatible with its type")

def validateFieldValueScope (fieldId : String) (value : TypedValue) (scope : ScopeRef) :
    Except Error CanonicalField := do
  let field ← getField fieldId
  raiseIf (!field.expectedTypes.contains value.type)
    (.fieldRegistryValidation "TypedValue type is incompatible with field")
  raiseIf (!field.allowedScopeTypes.contains scope.type)
    (.fieldRegistryValidation "Scope type is incompatible with field")
  validateTypedValue value
  raiseIf scope.key.isEmpty (.fieldRegistryValidation "ScopeRef is malformed")
  return field

theorem getField_eq_ok {fieldId : String} {field : CanonicalField} :
    getField fieldId = .ok field ↔ fieldRegistry fieldId = some field := by
  unfold getField
  cases fieldRegistry fieldId <;> simp

theorem fieldRegistry_fieldId {fieldId : String} {field : CanonicalField}
    (h : fieldRegistry fieldId = some field) : field.fieldId = fieldId ∧ field ∈ fields := by
  refine ⟨?_, List.mem_of_find?_eq_some h⟩
  simpa using List.find?_some h

/-- No canonical field takes a null value. -/
theorem fields_no_null : ∀ field ∈ fields, .null ∉ field.expectedTypes := by decide

/-- The field check accepts exactly the values and scopes the registry declares. -/
theorem validateFieldValueScope_eq_ok {fieldId : String} {value : TypedValue} {scope : ScopeRef}
    {field : CanonicalField} :
    validateFieldValueScope fieldId value scope = .ok field ↔
      fieldRegistry fieldId = some field ∧ value.type ∈ field.expectedTypes ∧
        scope.type ∈ field.allowedScopeTypes ∧ hasType value.type value.value = true ∧
        scope.key.isEmpty = false := by
  simp only [validateFieldValueScope, validateTypedValue, except_bind_eq_ok, raiseIf_eq_ok,
    except_pure_eq_ok, getField_eq_ok, Bool.not_eq_false', List.contains_iff_mem]
  constructor
  · rintro ⟨field', hf, _, ht, _, hs, _, hv, _, hk, rfl⟩
    exact ⟨hf, ht, hs, hv, hk⟩
  · rintro ⟨hf, ht, hs, hv, hk⟩
    exact ⟨field, hf, (), ht, (), hs, (), hv, (), hk, rfl⟩

/-- Every failure of the field check is a `ValueError`. -/
theorem validateFieldValueScope_error {fieldId : String} {value : TypedValue} {scope : ScopeRef}
    {e : Error} (h : validateFieldValueScope fieldId value scope = .error e) :
    e.isValueError = true := by
  unfold validateFieldValueScope validateTypedValue getField raiseIf at h
  cases hf : fieldRegistry fieldId with
  | none =>
    simp only [hf] at h
    cases h
    rfl
  | some field =>
    simp only [hf, bind, Except.bind, pure, Except.pure] at h
    split_ifs at h <;> cases h <;> rfl

end ConfigAuditor.SecurityModel
