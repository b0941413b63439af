import ConfigAuditor.KnowledgePacks.Sealed

/-!
# Operation and cardinality policies

The operation of a stored fact is looked up again from its pack and mapping
version. The table is built from the sealed mapping declarations in the order of
the source, and a later entry replaces an earlier one under the same key.
-/
namespace ConfigAuditor.EffectiveState.Policy

open Library SecurityModel KnowledgePacks

inductive FieldCardinality where
  | scalar
  | repeatable
  deriving DecidableEq, Repr

inductive FactOperation where
  | assign
  | reset
  | remove
  deriving DecidableEq, Repr

structure FieldResolutionPolicy where
  fieldId : String
  cardinality : FieldCardinality
  legalScopeTypes : List String
  deriving DecidableEq

structure MappingOperationPolicy where
  knowledgePackVersionId : UUID
  mappingVersionId : UUID
  fieldId : String
  operation : FactOperation
  deriving DecidableEq

def fieldPolicy (field : CanonicalField) : FieldResolutionPolicy :=
  { fieldId := field.fieldId,
    cardinality := if field.repeatable then .repeatable else .scalar,
    legalScopeTypes := field.allowedScopeTypes }

def getFieldPolicy (fieldId : String) : Except Error FieldResolutionPolicy :=
  match fieldRegistry fieldId with
  | some field => .ok (fieldPolicy field)
  | none => .error (.effectiveStateValidation "EffectiveState field policy is unavailable")

def legacyKnowledgePackVersionId : UUID := UUID.ofNat 0x17e3e91317df53bfb8c15cae4bfa133e

/-- `LEGACY_MAPPING_VERSION_IDS`. -/
def legacyMappingVersionIds : List (String × UUID) :=
  [("management.remote.telnet.enabled", UUID.ofNat 0x4e5634f2c0f2529e912fe42139aed61e),
    ("management.remote.ssh.enabled", UUID.ofNat 0x82f62960c06e5ee1a1ceccd574ead730),
    ("management.session.idle_timeout", UUID.ofNat 0xa153b5c4786d59409fc72906ea7d42c7),
    ("management.remote.ssh.version", UUID.ofNat 0x4b13928b98eb5dc2a739d978d5c8bd95),
    ("logging.remote.destination", UUID.ofNat 0xf112df12f8605fadb0137b89701d2fcf),
    ("time.ntp.server", UUID.ofNat 0x31eadc31751e5451bdd72532a26c9710)]

def legacyMappingPolicies : List MappingOperationPolicy :=
  legacyMappingVersionIds.map fun (fieldId, versionId) =>
    ⟨legacyKnowledgePackVersionId, versionId, fieldId, .assign⟩

def fortiosPolicies (pack : Nat) (entries : List (Nat × String × FactOperation)) :
    List MappingOperationPolicy :=
  entries.map fun (group, fieldId, operation) =>
    ⟨Sealed.Fortios.identity pack, Sealed.Fortios.identity group, fieldId, operation⟩

def fortiosLegacyMappingPolicies : List MappingOperationPolicy :=
  fortiosPolicies 0x2222
    [(0x4101, "management.remote.telnet.enabled", .assign),
      (0x4201, "management.remote.telnet.enabled", .reset),
      (0x4102, "management.remote.ssh.enabled", .assign),
      (0x4202, "management.remote.ssh.enabled", .reset),
      (0x4103, "management.session.idle_timeout", .assign),
      (0x4203, "management.session.idle_timeout", .reset),
      (0x4104, "logging.remote.destination", .assign),
      (0x4105, "time.ntp.server", .assign)]

def fortiosCurrentMappingPolicies : List MappingOperationPolicy :=
  fortiosPolicies 0x3333
    [(0x6101, "management.remote.telnet.enabled", .assign),
      (0x6201, "management.remote.telnet.enabled", .reset),
      (0x6102, "management.remote.ssh.enabled", .assign),
      (0x6202, "management.remote.ssh.enabled", .reset),
      (0x6103, "management.session.idle_timeout", .assign),
      (0x6203, "management.session.idle_timeout", .reset),
      (0x6104, "logging.remote.destination", .assign),
      (0x6105, "time.ntp.server", .assign)]

def activeMappingPolicies : List MappingOperationPolicy :=
  Sealed.Cisco.current.mappings.map fun m =>
    ⟨Sealed.Cisco.current.knowledgePackVersionId, m.mappingVersionId, m.fieldId, .assign⟩

def activeOperationPolicies : List MappingOperationPolicy :=
  (Sealed.Cisco.current.mappings.filterMap fun m => m.resetMappingVersionId.map fun v =>
    ⟨Sealed.Cisco.current.knowledgePackVersionId, v, m.fieldId, .reset⟩) ++
  (Sealed.Cisco.current.mappings.filterMap fun m => m.removalMappingVersionId.map fun v =>
    ⟨Sealed.Cisco.current.knowledgePackVersionId, v, m.fieldId, .remove⟩)

/-- The policies one mapping declares: assignment, then its reset and removal versions. -/
def declaredByMapping (packVersionId : UUID) (m : DeclarativeMapping) :
    List MappingOperationPolicy :=
  ⟨packVersionId, m.mappingVersionId, m.fieldId, .assign⟩ ::
    ((m.resetMappingVersionId.map fun v =>
        (⟨packVersionId, v, m.fieldId, .reset⟩ : MappingOperationPolicy)).toList ++
      (m.removalMappingVersionId.map fun v =>
        (⟨packVersionId, v, m.fieldId, .remove⟩ : MappingOperationPolicy)).toList)

/-- `_declared_mapping_policies`. -/
def declaredMappingPolicies (packs : List KnowledgePack) : List MappingOperationPolicy :=
  packs.flatMap fun pack =>
    pack.mappings.flatMap (declaredByMapping pack.knowledgePackVersionId)

def sealedPackMappingPolicies : List MappingOperationPolicy :=
  declaredMappingPolicies
    [Sealed.Cisco.packV1_1, Sealed.Cisco.packV1_2, Sealed.Cisco.current,
      Sealed.Fortios.packV1_1, Sealed.Fortios.packV1_2, Sealed.Fortios.current,
      Sealed.Juniper.packV1, Sealed.Juniper.packV1_1, Sealed.Juniper.current,
      Sealed.Arista.packV1, Sealed.Arista.current]

/-- The entries of `MAPPING_OPERATION_POLICIES` in source order, duplicates included. -/
def policyEntries : List MappingOperationPolicy :=
  legacyMappingPolicies ++ fortiosLegacyMappingPolicies ++ fortiosCurrentMappingPolicies ++
    activeMappingPolicies ++ activeOperationPolicies ++ sealedPackMappingPolicies

def MappingOperationPolicy.sameKey (p q : MappingOperationPolicy) : Bool :=
  p.knowledgePackVersionId == q.knowledgePackVersionId && p.mappingVersionId == q.mappingVersionId

/-- The dictionary's values: of entries with one key the last remains. -/
def lastEntries : List MappingOperationPolicy → List MappingOperationPolicy
  | [] => []
  | p :: rest => if rest.any p.sameKey then lastEntries rest else p :: lastEntries rest

/-- `MAPPING_OPERATION_POLICIES.values()`. -/
def mappingOperationPolicies : List MappingOperationPolicy := lastEntries policyEntries

def incompatible : Error :=
  .effectiveStateValidation "SecurityFact mapping provenance is incompatible"

def getMappingOperationPolicy (knowledgePackVersionId : UUID) (mappingVersionId : Option UUID)
    (fieldId : String) : Except Error MappingOperationPolicy :=
  match mappingVersionId with
  | none => .error (.effectiveStateValidation "SecurityFact mapping provenance is missing")
  | some versionId =>
    match mappingOperationPolicies.find? fun p =>
        p.knowledgePackVersionId == knowledgePackVersionId && p.mappingVersionId == versionId with
    | some policy => if policy.fieldId = fieldId then .ok policy else .error incompatible
    | none => .error incompatible

/-- Find a unique sealed mapping policy when a published pack overlays it. -/
def getSealedMappingOperationPolicy (mappingVersionId : Option UUID) (fieldId : String) :
    Except Error MappingOperationPolicy :=
  let candidates := mappingOperationPolicies.filter fun p =>
    some p.mappingVersionId == mappingVersionId && p.fieldId == fieldId
  match (candidates.map (·.operation)).dedup with
  | [_] => match candidates.getLast? with
    | some policy => .ok policy
    | none => .error incompatible
  | _ => .error incompatible

end ConfigAuditor.EffectiveState.Policy
