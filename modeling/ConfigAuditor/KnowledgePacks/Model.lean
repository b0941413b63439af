import ConfigAuditor.Training.Dsl

/-!
# Knowledge packs

Declarative mappings from structural nodes to canonical fields, the packs that
group them for one profile, and `validate_knowledge_pack`, which admits a pack.
-/
namespace ConfigAuditor.KnowledgePacks

open Library SecurityModel Training.Dsl

/-- Bounded semantic operation declared by a versioned mapping. -/
inductive NegationBehavior where
  | unsupported
  | resetToDefault
  | removeValue
  | invertBoolean
  deriving DecidableEq, Repr

structure NodeMatcher where
  command : String
  argumentsPrefix : List String := []
  parentCommand : Option String := none
  parentArgumentsPrefix : List String := []
  ancestorCommand : Option String := none
  ancestorArgumentsPrefix : List String := []
  deriving DecidableEq

structure DeclarativeMapping where
  mappingId : UUID
  mappingVersionId : UUID
  fieldId : String
  matcher : NodeMatcher
  extractor : String
  scopeResolver : String
  declaredValueTypes : List TypedValueType
  negationBehavior : NegationBehavior := .unsupported
  resetMappingVersionId : Option UUID := none
  removalMappingVersionId : Option UUID := none
  trainingDefinition : Option MappingDefinition := none
  deriving DecidableEq

structure KnowledgePack where
  knowledgePackId : UUID
  knowledgePackVersionId : UUID
  name : String
  version : String
  schemaVersion : String
  profileId : String
  profileVersionId : String
  mappings : List DeclarativeMapping
  deriving DecidableEq

/-- The names of `EXTRACTORS`. -/
def extractorNames : List String :=
  ["transport_telnet", "transport_ssh", "duration_minutes_seconds", "ssh_version",
    "logging_destination", "ntp_server", "ntp_configured", "fortios_server",
    "fortios_port_enabled", "fortios_allowaccess_ssh", "fortios_allowaccess_telnet",
    "fortios_allowaccess_https", "fortios_allowaccess_http", "fortios_timeout",
    "presence_enabled", "presence_disabled", "duration_minutes", "arista_service_acl",
    "cisco_access_class", "ntp_key_id", "fortios_trusthost_network",
    "fortios_trusthost_restriction", "fortios_tls_minimum"]

/-- `SCOPE_RESOLVER_TYPES.get(name)`. -/
def scopeResolverType (name : String) : Option String :=
  ([("device", "device"), ("vty_range", "vty_range"), ("interface", "interface"),
    ("administrator", "administrator"),
    ("arista_management_service", "management_service")].find? (·.1 == name)).map (·.2)

def isCommandChar (c : Char) : Bool := Text.isAsciiDigit c || Text.isAsciiLower c

/-- A full match of `COMMAND_PATTERN`. -/
def isCommand (s : String) : Bool :=
  match s.toList with
  | [] => false
  | c :: cs => isCommandChar c && cs.length ≤ 99 && cs.all fun d => isCommandChar d || d == '-'

/-- A full match of `MAPPING_TOKEN_PATTERN`. -/
def isMappingToken (s : String) : Bool :=
  1 ≤ s.length && s.length ≤ 255 && s.toList.all fun c => !Text.isSpace c

def validateMatcher (m : NodeMatcher) : Except Error Unit := do
  raiseIf (!isCommand m.command) (.knowledgePackValidation "Mapping command matcher is malformed")
  raiseIf (!m.parentCommand.all isCommand)
    (.knowledgePackValidation "Mapping parent matcher is malformed")
  raiseIf (m.parentCommand.isNone && !m.parentArgumentsPrefix.isEmpty)
    (.knowledgePackValidation "Mapping parent matcher is malformed")
  raiseIf (!m.ancestorCommand.all isCommand)
    (.knowledgePackValidation "Mapping ancestor matcher is malformed")
  raiseIf (m.ancestorCommand.isNone && !m.ancestorArgumentsPrefix.isEmpty)
    (.knowledgePackValidation "Mapping ancestor matcher is malformed")
  raiseIf (!(m.argumentsPrefix ++ m.parentArgumentsPrefix ++ m.ancestorArgumentsPrefix).all
      isMappingToken)
    (.knowledgePackValidation "Mapping token matcher is malformed")

/-- The checks on one mapping, given the identities of the mappings before it. -/
def validateMapping (mappingIds mappingVersionIds : List UUID) (mapping : DeclarativeMapping) :
    Except Error Unit := do
  raiseIf (mapping.mappingId.int == 0 || mapping.mappingVersionId.int == 0)
    (.knowledgePackValidation "Mapping requires stable identity")
  raiseIf (mappingIds.contains mapping.mappingId) (.knowledgePackValidation "Duplicate mapping ID")
  raiseIf (mappingVersionIds.contains mapping.mappingVersionId)
    (.knowledgePackValidation "Duplicate mapping-version ID")
  match fieldRegistry mapping.fieldId with
  | none => .error (.knowledgePackValidation "Mapping references unknown canonical field")
  | some field =>
    raiseIf (!extractorNames.contains mapping.extractor && mapping.extractor != "training_dsl")
      (.knowledgePackValidation "Mapping references unknown extractor")
    match scopeResolverType mapping.scopeResolver with
    | none => .error (.knowledgePackValidation "Mapping references unknown scope resolver")
    | some scopeType =>
      raiseIf (mapping.declaredValueTypes.isEmpty ||
          !mapping.declaredValueTypes.all field.expectedTypes.contains)
        (.knowledgePackValidation "Mapping value type is incompatible with field")
      raiseIf (!field.allowedScopeTypes.contains scopeType)
        (.knowledgePackValidation "Mapping scope is incompatible with field")
      validateMatcher mapping.matcher

def validateMappings : List UUID → List UUID → List DeclarativeMapping → Except Error Unit
  | _, _, [] => .ok ()
  | ids, versionIds, mapping :: rest => do
    validateMapping ids versionIds mapping
    validateMappings (mapping.mappingId :: ids) (mapping.mappingVersionId :: versionIds) rest

def validateKnowledgePack (pack : KnowledgePack)
    (expectedProfileId expectedProfileVersionId : String) : Except Error KnowledgePack := do
  raiseIf (pack.schemaVersion != "1.0.0")
    (.knowledgePackValidation "Unsupported knowledge-pack schema version")
  raiseIf (pack.profileId != expectedProfileId || pack.profileVersionId != expectedProfileVersionId)
    (.knowledgePackValidation "Knowledge pack is incompatible with profile")
  raiseIf (pack.knowledgePackId.int == 0 || pack.knowledgePackVersionId.int == 0 ||
      pack.name.isEmpty || pack.version.isEmpty)
    (.knowledgePackValidation "Knowledge pack requires stable identity")
  validateMappings [] [] pack.mappings
  return pack

/-- The conditions on one mapping that do not depend on its neighbours. -/
structure MappingOk (mapping : DeclarativeMapping) : Prop where
  extractor : mapping.extractor ∈ extractorNames ∨ mapping.extractor = "training_dsl"
  scope : ∃ field scopeType, fieldRegistry mapping.fieldId = some field ∧
    scopeResolverType mapping.scopeResolver = some scopeType ∧
    scopeType ∈ field.allowedScopeTypes
  types : ∀ t ∈ mapping.declaredValueTypes, ∃ field,
    fieldRegistry mapping.fieldId = some field ∧ t ∈ field.expectedTypes

theorem validateMapping_ok {ids versionIds : List UUID} {mapping : DeclarativeMapping} {u : Unit}
    (h : validateMapping ids versionIds mapping = .ok u) :
    MappingOk mapping ∧ mapping.mappingId ∉ ids ∧ mapping.mappingVersionId ∉ versionIds := by
  unfold validateMapping at h
  simp only [except_bind_eq_ok, raiseIf_eq_ok] at h
  obtain ⟨_, -, _, hid, _, hversion, h⟩ := h
  cases hf : fieldRegistry mapping.fieldId with
  | none => simp [hf] at h
  | some field =>
    simp only [hf, except_bind_eq_ok, raiseIf_eq_ok] at h
    obtain ⟨_, hext, h⟩ := h
    cases hs : scopeResolverType mapping.scopeResolver with
    | none => simp [hs] at h
    | some scopeType =>
      simp only [hs, except_bind_eq_ok, raiseIf_eq_ok] at h
      obtain ⟨_, htypes, _, hscope, -⟩ := h
      refine ⟨⟨?_, ⟨field, scopeType, hf, hs, by simpa using hscope⟩, ?_⟩, ?_, ?_⟩
      · simp only [Bool.and_eq_false_iff, Bool.not_eq_false', List.contains_iff_mem,
          bne_eq_false_iff_eq] at hext
        exact hext
      · intro t ht
        simp only [Bool.or_eq_false_iff, Bool.not_eq_false', List.all_eq_true,
          List.contains_iff_mem] at htypes
        exact ⟨field, hf, htypes.2 t ht⟩
      · simpa using hid
      · simpa using hversion

theorem validateMappings_ok {ids versionIds : List UUID} {mappings : List DeclarativeMapping}
    {u : Unit} (h : validateMappings ids versionIds mappings = .ok u) :
    (∀ m ∈ mappings, MappingOk m) ∧
      (mappings.map (·.mappingId)).Nodup ∧ (∀ m ∈ mappings, m.mappingId ∉ ids) ∧
      (mappings.map (·.mappingVersionId)).Nodup ∧
      (∀ m ∈ mappings, m.mappingVersionId ∉ versionIds) := by
  induction mappings generalizing ids versionIds with
  | nil => simp
  | cons m rest ih =>
    simp only [validateMappings, except_bind_eq_ok] at h
    obtain ⟨_, hm, hrest⟩ := h
    obtain ⟨hok, hid, hversion⟩ := validateMapping_ok hm
    obtain ⟨hall, hids, hidsNot, hversions, hversionsNot⟩ := ih hrest
    refine ⟨?_, ?_, ?_, ?_, ?_⟩
    · exact List.forall_mem_cons.mpr ⟨hok, hall⟩
    · refine List.nodup_cons.mpr ⟨?_, hids⟩
      simp only [List.mem_map, not_exists, not_and]
      intro x hx he
      exact hidsNot x hx (by simp [he])
    · exact List.forall_mem_cons.mpr
        ⟨hid, fun x hx hmem => hidsNot x hx (List.mem_cons_of_mem _ hmem)⟩
    · refine List.nodup_cons.mpr ⟨?_, hversions⟩
      simp only [List.mem_map, not_exists, not_and]
      intro x hx he
      exact hversionsNot x hx (by simp [he])
    · exact List.forall_mem_cons.mpr
        ⟨hversion, fun x hx hmem => hversionsNot x hx (List.mem_cons_of_mem _ hmem)⟩

theorem validateKnowledgePack_ok {pack result : KnowledgePack} {profileId versionId : String}
    (h : validateKnowledgePack pack profileId versionId = .ok result) :
    result = pack ∧ pack.profileId = profileId ∧ pack.profileVersionId = versionId ∧
      (∀ m ∈ pack.mappings, MappingOk m) ∧ (pack.mappings.map (·.mappingId)).Nodup ∧
      (pack.mappings.map (·.mappingVersionId)).Nodup := by
  unfold validateKnowledgePack at h
  simp only [except_bind_eq_ok, raiseIf_eq_ok, except_pure_eq_ok, Bool.or_eq_false_iff,
    bne_eq_false_iff_eq] at h
  obtain ⟨_, -, _, ⟨hprofile, hversion⟩, _, -, _, hmappings, rfl⟩ := h
  obtain ⟨hall, hids, -, hversions, -⟩ := validateMappings_ok hmappings
  exact ⟨rfl, hprofile, hversion, hall, hids, hversions⟩

/-- The mapping passes the validator without neighbours. -/
def Admissible (mapping : DeclarativeMapping) : Prop := validateMapping [] [] mapping = .ok ()

theorem validateMapping_iff {ids versionIds : List UUID} {mapping : DeclarativeMapping} :
    validateMapping ids versionIds mapping = .ok () ↔
      Admissible mapping ∧ mapping.mappingId ∉ ids ∧ mapping.mappingVersionId ∉ versionIds := by
  simp only [Admissible, validateMapping, except_bind_eq_ok, raiseIf_eq_ok]
  constructor
  · rintro ⟨_, hidentity, _, hid, _, hversion, hrest⟩
    exact ⟨⟨(), hidentity, (), rfl, (), rfl, hrest⟩, by simpa using hid, by simpa using hversion⟩
  · rintro ⟨⟨_, hidentity, _, -, _, -, hrest⟩, hid, hversion⟩
    exact ⟨(), hidentity, (), by simpa using hid, (), by simpa using hversion, hrest⟩

theorem validateMappings_iff {ids versionIds : List UUID} {mappings : List DeclarativeMapping} :
    validateMappings ids versionIds mappings = .ok () ↔
      (∀ m ∈ mappings, Admissible m ∧ m.mappingId ∉ ids ∧ m.mappingVersionId ∉ versionIds) ∧
        (mappings.map (·.mappingId)).Nodup ∧ (mappings.map (·.mappingVersionId)).Nodup := by
  induction mappings generalizing ids versionIds with
  | nil => simp [validateMappings]
  | cons m rest ih =>
    simp only [validateMappings, except_bind_eq_ok]
    constructor
    · rintro ⟨_, hm, hrest⟩
      obtain ⟨hall, hids, hversions⟩ := ih.mp hrest
      refine ⟨List.forall_mem_cons.mpr ⟨validateMapping_iff.mp hm, fun x hx => ?_⟩, ?_, ?_⟩
      · obtain ⟨hok, hid, hversion⟩ := hall x hx
        exact ⟨hok, fun hmem => hid (List.mem_cons_of_mem _ hmem),
          fun hmem => hversion (List.mem_cons_of_mem _ hmem)⟩
      · refine List.nodup_cons.mpr ⟨fun hmem => ?_, hids⟩
        obtain ⟨x, hx, hsame⟩ := List.mem_map.mp hmem
        exact (hall x hx).2.1 (hsame ▸ List.mem_cons_self)
      · refine List.nodup_cons.mpr ⟨fun hmem => ?_, hversions⟩
        obtain ⟨x, hx, hsame⟩ := List.mem_map.mp hmem
        exact (hall x hx).2.2 (hsame ▸ List.mem_cons_self)
    · rintro ⟨hall, hids, hversions⟩
      obtain ⟨hm, hrest⟩ := List.forall_mem_cons.mp hall
      obtain ⟨hid, hids⟩ := List.nodup_cons.mp hids
      obtain ⟨hversion, hversions⟩ := List.nodup_cons.mp hversions
      refine ⟨(), validateMapping_iff.mpr hm, ih.mpr ⟨fun x hx => ?_, hids, hversions⟩⟩
      obtain ⟨hok, hold, holdVersion⟩ := hrest x hx
      refine ⟨hok, fun hmem => ?_, fun hmem => ?_⟩
      · rcases List.mem_cons.mp hmem with hsame | hmem
        · exact hid (List.mem_map.mpr ⟨x, hx, hsame⟩)
        · exact hold hmem
      · rcases List.mem_cons.mp hmem with hsame | hmem
        · exact hversion (List.mem_map.mpr ⟨x, hx, hsame⟩)
        · exact holdVersion hmem

end ConfigAuditor.KnowledgePacks
