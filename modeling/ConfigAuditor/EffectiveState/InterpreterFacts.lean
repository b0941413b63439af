import ConfigAuditor.EffectiveState.Completion
import ConfigAuditor.EffectiveState.OperationRecovery
import ConfigAuditor.Parsing.FortiosCli

/-!
# What the resolver makes of a fact of the interpreter

The scopes and values that the interpreter writes are those that the resolver accepts. The
operation of a fact is looked up again from the version that the mapping wrote, in a table in
which the versions of several packs replace one another.
-/
namespace ConfigAuditor.EffectiveState.InterpreterFacts

open Library SecurityModel Parsing KnowledgePacks ProfileResolution Policy Model Resolver Service
  Completion OperationRecovery Training Training.Lifecycle Training.PackHistory
  Interpretation.Scopes Interpretation.Mapping Interpretation.Service Interpretation.Outcomes
  Interpretation.FactIds Interpretation.Published

/-- The trees of the two readers of command lines. -/
inductive ReadFrom (sha256 : String → String) : StructuralIR → Prop
  | indentation (request : StructuralParseRequest) :
    ReadFrom sha256 (IndentationCli.parse sha256 request)
  | fortios (request : StructuralParseRequest) : ReadFrom sha256 (FortiosCli.parse sha256 request)

section Trees

variable {sha256 : String → String} {ir : StructuralIR} {node : ConfigNode}

/-- Every node stands on a line of the text. -/
theorem ReadFrom.line (h : ReadFrom sha256 ir) (hnode : node ∈ ir.nodes) :
    1 ≤ node.sourceStart := by
  cases h with
  | indentation request =>
    obtain ⟨b, truncated, hinv, hparse⟩ := IndentationCli.parse_eq sha256 request
    rw [hparse] at hnode
    obtain ⟨d, hd, rfl⟩ := List.mem_map.mp hnode
    exact (hinv.lines d hd).1
  | fortios request =>
    obtain ⟨b, truncated, hinv, hparse⟩ := FortiosCli.parse_eq sha256 request
    rw [hparse] at hnode
    obtain ⟨d, hd, rfl⟩ := List.mem_map.mp hnode
    exact (hinv.lines d hd).1

/-- The FortiOS reader negates what it reads as `unset`. -/
theorem ReadFrom.unset (h : ReadFrom sha256 ir) (hreader : ir.readerId = FortiosCli.readerId)
    (hnode : node ∈ ir.nodes) : FortiosCli.UnsetNegated node := by
  cases h with
  | indentation request =>
    rw [(IndentationCli.parse_provenance request).2.1] at hreader
    exact absurd hreader (by decide)
  | fortios request => exact FortiosCli.unset_negated request node hnode

theorem parentOf_mem {parent : ConfigNode} (h : parentOf node ir = some parent) :
    parent ∈ ir.nodes := by
  obtain ⟨id, -, hfind⟩ := Option.bind_eq_some_iff.mp h
  exact (StructuralIR.node?_some hfind).1

end Trees

section Scopes

variable {ir : StructuralIR} {node : ConfigNode} {outcome : ScopeOutcome}

theorem intOfText_nonneg {text : String} (hdigits : Interpretation.Extractors.isInteger text = true)
    {value : Int} (h : PyValue.intOfText text = .ok value) : 0 ≤ value := by
  simp only [Interpretation.Extractors.isInteger, Bool.and_eq_true, List.all_eq_true] at hdigits
  have hall : ∀ c ∈ text.toList, PyFloat.isDigit c = true := fun c hc =>
    Numerals.isDigit_of_isAsciiDigit (hdigits.2 c hc)
  have hne : text.toList ≠ [] := by
    intro hnil
    rw [String.toList_eq_nil_iff] at hnil
    simp [hnil] at hdigits
  obtain ⟨n, hn⟩ := Numerals.digitsValue_isSome hall
  have hread := Numerals.intOfText_digits hall hne hn
  rw [String.ofList_toList, h] at hread
  split at hread
  · rw [Except.ok.inj hread]
    exact Int.natCast_nonneg n
  · cases hread

/-- What a scope resolver answers: a valid scope of the resolver's type, established by a node
of the tree. -/
structure ScopeSpec (name : String) (ir : StructuralIR) (outcome : ScopeOutcome) : Prop where
  valid : ∀ scope, outcome.scope = some scope →
    validateScope scope = .ok () ∧ scopeResolverType name = some scope.type
  context : ∀ container, outcome.contextNode = some container → container ∈ ir.nodes

theorem unresolvedScope_spec {name : String} {container : Option ConfigNode} {code : String}
    (h : ∀ c, container = some c → c ∈ ir.nodes) :
    ScopeSpec name ir (unresolvedScope container code) :=
  ⟨fun _ hscope => (by cases hscope), h⟩

theorem resolveVtyRange_spec (h : resolveVtyRange node ir = .ok outcome) :
    ScopeSpec "vty_range" ir outcome := by
  unfold resolveVtyRange at h
  split at h
  · obtain rfl := except_pure_eq_ok.mp h
    exact unresolvedScope_spec fun _ hc => by cases hc
  rename_i parent hparent
  have hcontext : ∀ c, some parent = some c → c ∈ ir.nodes := by
    rintro c ⟨⟩
    exact parentOf_mem hparent
  split at h
  · obtain rfl := except_pure_eq_ok.mp h
    exact unresolvedScope_spec hcontext
  rename_i hline
  simp only [Bool.not_eq_true', Bool.not_eq_false, isVtyLine, Bool.and_eq_true,
    List.all_eq_true] at hline
  obtain ⟨⟨⟨-, hlength⟩, -⟩, hintegers⟩ := hline
  obtain ⟨start, hstart, h⟩ := except_bind_eq_ok.mp h
  obtain ⟨finish, h⟩ : ∃ finish : Int,
      (if (decide (finish < start) || decide (999 < finish)) = true then
        pure (unresolvedScope (some parent) "unsupported_vty_scope")
      else pure { scope := some (vtyRangeScope start finish), contextNode := some parent }) =
        (Except.ok outcome : Except PyError ScopeOutcome) := by
    dsimp only at h
    split at h
    · obtain ⟨finish, -, h⟩ := except_bind_eq_ok.mp h
      exact ⟨finish, h⟩
    · exact ⟨start, h⟩
  split at h
  · obtain rfl := except_pure_eq_ok.mp h
    exact unresolvedScope_spec hcontext
  rename_i hbounds
  obtain rfl := except_pure_eq_ok.mp h
  simp only [Bool.or_eq_true, decide_eq_true_eq, not_or, not_lt] at hbounds
  refine ⟨fun scope hscope => ?_, hcontext⟩
  obtain rfl := Option.some.inj hscope
  have hfirst : Interpretation.Extractors.isInteger (parent.arguments.getD 1 "") = true := by
    refine hintegers _ ?_
    rcases hargs : parent.arguments with _ | ⟨a, _ | ⟨b, rest⟩⟩
    · simp [hargs] at hlength
    · simp [hargs] at hlength
    · simp
  exact ⟨validateScope_vtyScope (intOfText_nonneg hfirst hstart) hbounds.1 hbounds.2, rfl⟩

theorem validateScope_named {label name : String}
    (hlabel : label = "interface" ∨ label = "administrator") (hname : name.isEmpty = false) :
    validateScope (namedScope label name) = .ok () := by
  rw [validateScope_eq_ok]
  rcases hlabel with rfl | rfl <;>
    simp [scopeValid, namedScope, namedValid, PyValue.lookup, hasKeys, hname, pure, Except.pure]

theorem resolveFortiosEntry_spec {table label code name : String}
    (hlabel : label = "interface" ∨ label = "administrator")
    (hname : scopeResolverType name = some label) :
    ScopeSpec name ir (resolveFortiosEntry table label code node ir) := by
  have hcontext : ∀ c, parentOf node ir = some c → c ∈ ir.nodes := fun _ => parentOf_mem
  unfold resolveFortiosEntry
  dsimp only
  split
  · split
    · exact unresolvedScope_spec hcontext
    · split
      · exact unresolvedScope_spec hcontext
      · rename_i hempty
        refine ⟨fun scope hscope => ?_, hcontext⟩
        obtain rfl := Option.some.inj hscope
        exact ⟨validateScope_named hlabel (by simpa using hempty), hname⟩
  · exact unresolvedScope_spec hcontext

theorem resolveScope_spec {name : String} (h : resolveScope name node ir = .ok outcome) :
    ScopeSpec name ir outcome := by
  unfold resolveScope at h
  split at h
  · obtain rfl := except_pure_eq_ok.mp h
    refine ⟨fun scope hscope => ?_, fun _ hc => by cases hc⟩
    obtain rfl := Option.some.inj hscope
    exact ⟨by decide, rfl⟩
  · exact resolveVtyRange_spec h
  · obtain rfl := except_pure_eq_ok.mp h
    exact resolveFortiosEntry_spec (Or.inl rfl) rfl
  · obtain rfl := except_pure_eq_ok.mp h
    exact resolveFortiosEntry_spec (Or.inr rfl) rfl
  · obtain rfl := except_pure_eq_ok.mp h
    have hcontext : ∀ c, parentOf node ir = some c → c ∈ ir.nodes := fun _ => parentOf_mem
    unfold resolveAristaManagementService
    dsimp only
    split
    · refine ⟨fun scope hscope => ?_, hcontext⟩
      obtain rfl := Option.some.inj hscope
      exact ⟨by decide, rfl⟩
    · exact unresolvedScope_spec hcontext
  · cases h

end Scopes

section Facts

variable {uuid5 : UUID → String → UUID} {context : InterpretationContext} {pack : KnowledgePack}
  {mapping : DeclarativeMapping} {ir : StructuralIR} {node : ConfigNode} {scope : ScopeRef}
  {container : Option ConfigNode} {value : TypedValue} {versionId : UUID}

/-- The parts of a built fact that `Drafted` leaves out. -/
theorem buildFact_rest {quality : FactQuality} {version : Option UUID} {nodes : List ConfigNode}
    {fact : SecurityFactDraft}
    (h : buildFact uuid5 context pack mapping value scope nodes quality version = .ok fact) :
    fact.deviceId = context.deviceId ∧ fact.snapshotId = context.snapshotId ∧
      fact.evidenceRefs = nodes.map nodeEvidence ∧ fact.dependencies = [] := by
  obtain ⟨text, -, h⟩ := except_bind_eq_ok.mp h
  obtain rfl := except_pure_eq_ok.mp h
  exact ⟨rfl, rfl, rfl, rfl⟩

/-- A value that is part of an identity can be written. -/
theorem valueKey_of_identity {fact : SecurityFactDraft} {text : String}
    (h : identityOf fact = .ok text) : ∃ key, valueKey fact.value = .ok key := by
  obtain ⟨_, valueText, -, hvalue, -⟩ := identityObject_dumps.mp h
  refine ⟨String.ofList valueText, ?_⟩
  simp only [valueKey, PyValue.dumps, hvalue]
  rfl

/-- A boolean that an inverting mapping reads is a value of its field. -/
def InvertsBoolean (mapping : DeclarativeMapping) (ir : StructuralIR) (node : ConfigNode) : Prop :=
  mapping.negationBehavior = .invertBoolean → ∀ read, HasValue mapping ir node read →
    read.type = .boolean →
      ∃ field, fieldRegistry mapping.fieldId = some field ∧ .boolean ∈ field.expectedTypes

/-- A fact has no value exactly when its statement resets one. -/
theorem gives_null_iff (h : Gives mapping ir node scope container value versionId) :
    value.type = .null ↔ node.negated = true ∧ mapping.negationBehavior = .resetToDefault := by
  have hvalid : outputValid mapping.fieldId value scope = true → value.type ≠ .null := by
    intro hvalid hnull
    obtain ⟨field, hfield⟩ := exists_of_isOk hvalid
    obtain ⟨hregistered, htype, -⟩ := validateFieldValueScope_eq_ok.mp hfield
    exact fields_no_null field (fieldRegistry_fieldId hregistered).2 (hnull ▸ htype)
  cases hneg : node.negated with
  | false => simp [hvalid (h.positive hneg).2.2]
  | true =>
    obtain ⟨-, hstated⟩ := h.negated hneg
    unfold NegatedValue at hstated
    cases hbehavior : mapping.negationBehavior with
    | unsupported => simp [hbehavior] at hstated
    | resetToDefault =>
      simp only [hbehavior] at hstated
      simp [hstated.2.2]
    | removeValue =>
      simp only [hbehavior] at hstated
      simp [hvalid hstated.2]
    | invertBoolean =>
      simp only [hbehavior] at hstated
      obtain ⟨read, -, -, rfl⟩ := hstated
      simp

/-- What a fact holds is a value of its field in its scope, unless it resets. -/
theorem gives_value_valid (h : Gives mapping ir node scope container value versionId)
    (hmapping : MappingOk mapping) (hinverts : InvertsBoolean mapping ir node)
    (hscope : validateScope scope = .ok ())
    (htype : scopeResolverType mapping.scopeResolver = some scope.type)
    (hnull : value.type ≠ .null) :
    ∃ field, validateFieldValueScope mapping.fieldId value scope = .ok field := by
  cases hneg : node.negated with
  | false => exact exists_of_isOk (h.positive hneg).2.2
  | true =>
    obtain ⟨-, hstated⟩ := h.negated hneg
    unfold NegatedValue at hstated
    cases hbehavior : mapping.negationBehavior with
    | unsupported => simp [hbehavior] at hstated
    | resetToDefault => exact absurd ((gives_null_iff h).mpr ⟨hneg, hbehavior⟩) hnull
    | removeValue =>
      simp only [hbehavior] at hstated
      exact exists_of_isOk hstated.2
    | invertBoolean =>
      simp only [hbehavior] at hstated
      obtain ⟨read, hread, hboolean, rfl⟩ := hstated
      obtain ⟨field, hfield, hboolean⟩ := hinverts hbehavior read hread hboolean
      obtain ⟨other, scopeType, hother, hresolver, hallowed⟩ := hmapping.scope
      obtain rfl := Option.some.inj (hfield.symm.trans hother)
      obtain rfl := Option.some.inj (htype.symm.trans hresolver)
      exact ⟨field, validateFieldValueScope_eq_ok.mpr ⟨hfield, hboolean, hallowed, rfl,
        key_of_valid hscope⟩⟩

/-- A fact on a statement of a text passes every check of the resolver once its operation
resets exactly where it has no value. -/
theorem emitted_acceptable (huuid5 : ∀ namespaceId name, (uuid5 namespaceId name).int ≠ 0)
    {sha256 : String → String} (hread : ReadFrom sha256 ir) (hnode : node ∈ ir.nodes)
    (hartifact : ∀ other ∈ ir.nodes, other.artifactId = ir.source.artifactId)
    (hmapping : MappingOk mapping) (hinverts : InvertsBoolean mapping ir node)
    {fact : SecurityFactDraft} {consumed : Option ConfigNode}
    (h : interpretPair uuid5 context pack mapping ir node = .ok (.emitted fact consumed))
    {operation : FactOperation} (hreset : fact.value.type = .null ↔ operation = .reset) :
    Acceptable (toOrm fact) operation := by
  obtain ⟨scope, container, value, quality, version, hgives, hbuilt⟩ := interpretPair_built h
  have hdraft := draftFact_drafted hbuilt
  obtain ⟨-, -, hevidence, hdependencies⟩ := buildFact_rest hbuilt
  obtain ⟨text, htext, hid⟩ := hdraft.identity
  obtain ⟨outcome, houtcome, hscope, hcontainer⟩ := hgives.placed
  have hspec := resolveScope_spec houtcome
  obtain ⟨hvalid, htype⟩ := hspec.valid scope hscope
  obtain ⟨field, -, hfield, -, -⟩ := hmapping.scope
  -- the statement and its container, which the evidence names
  have hsources : ∀ ref ∈ (toOrm fact).evidenceRefs, ∃ source ∈ ir.nodes,
      ref = nodeEvidence source := by
    intro ref href
    rw [toOrm, hevidence] at href
    obtain ⟨source, hsource, rfl⟩ := List.mem_map.mp href
    refine ⟨source, ?_, rfl⟩
    rcases List.mem_cons.mp hsource with rfl | hsource
    · exact hnode
    · exact hspec.context source (hcontainer.trans (Option.mem_toList.mp hsource))
  exact {
    identity := by
      rw [toOrm, hid]
      exact huuid5 _ _
    scope := by
      rw [toOrm, hdraft.scope]
      exact hvalid
    known := by
      rw [toOrm, hdraft.field, hfield]
      rfl
    value := by
      intro hnull
      rw [toOrm, hdraft.value] at hnull
      rw [toOrm, hdraft.field, hdraft.value, hdraft.scope]
      exact gives_value_valid hgives hmapping hinverts hvalid htype hnull
    reset := hreset
    written := valueKey_of_identity htext
    evidence := by
      rw [toOrm, hevidence]
      simp
    lines := by
      intro ref href
      obtain ⟨source, hsource, rfl⟩ := hsources ref href
      exact ⟨_, rfl, hread.line hsource⟩
    artifact := by
      intro ref href other hother
      obtain ⟨source, hsource, rfl⟩ := hsources ref href
      obtain ⟨source', hsource', rfl⟩ := hsources other hother
      exact (hartifact source hsource).trans (hartifact source' hsource').symm
    dependencies := by
      rw [toOrm, hdependencies]
      rfl }

end Facts

section Policies

/-- The mapping version under which FortiOS resets the idle timeout. -/
def timeoutReset : UUID := Sealed.Fortios.identity 0x6203

/-- The operation that a lookup finds for a version of a mapping. -/
def operationIn (lookup : Option UUID → String → Except Error MappingOperationPolicy)
    (mapping : DeclarativeMapping) (versionId : UUID) : Option FactOperation :=
  (lookup (some versionId) mapping.fieldId).toOption.map (·.operation)

/-- The lookup finds a reset for what resets and for nothing else. Two kinds of mapping are left
out: what `unset` would assign, which no reader gives, and the reset of the idle timeout. -/
def policyFits (lookup : Option UUID → String → Except Error MappingOperationPolicy)
    (mapping : DeclarativeMapping) : Bool :=
  (operationIn lookup mapping mapping.mappingVersionId).any (fun operation =>
    operation != .reset ||
      (mapping.matcher.command == "unset" && mapping.trainingDefinition.isNone)) &&
  (mapping.negationBehavior == .unsupported ||
    (operationIn lookup mapping (writtenVersion mapping)).any fun operation =>
      (operation == .reset) == (mapping.negationBehavior == .resetToDefault &&
        mapping.mappingVersionId != timeoutReset))

theorem registered_policies : ∀ pack ∈ Sealed.registry, ∀ mapping ∈ pack.mappings,
    policyFits (getMappingOperationPolicy pack.knowledgePackVersionId) mapping = true := by
  decide +kernel

theorem overlaid_policies : ∀ pack ∈ Sealed.active, ∀ mapping ∈ pack.mappings,
    policyFits getSealedMappingOperationPolicy mapping = true := by
  decide +kernel

/-- The mapping of `unset admintimeout`. -/
def timeoutMapping : DeclarativeMapping :=
  Sealed.Fortios.mapping 0x5203 0x6203 "management.session.idle_timeout"
    (Sealed.Fortios.config "unset" ["admintimeout"] ["system", "global"]) "fortios_timeout"
    [.duration] "device" .resetToDefault

/-- What the registry declares besides the policies. -/
theorem registered_mappings : ∀ pack ∈ Sealed.registry, ∀ mapping ∈ pack.mappings,
    (mapping.mappingVersionId = timeoutReset → mapping = timeoutMapping) ∧
    (mapping.matcher.command = "unset" → pack.profileVersionId = fortios7.profileVersionId) ∧
    (mapping.negationBehavior = .invertBoolean → ∃ field ∈ fields,
      fieldRegistry mapping.fieldId = some field ∧ .boolean ∈ field.expectedTypes) := by
  decide +kernel

theorem active_registered : Sealed.active ⊆ Sealed.registry := by
  decide +kernel

theorem entries_packs_not_drawn : ∀ p ∈ policyEntries, p.knowledgePackVersionId.version ≠ 4 := by
  decide +kernel

variable {mapping : DeclarativeMapping} {ir : StructuralIR} {node : ConfigNode} {scope : ScopeRef}
  {container : Option ConfigNode} {value : TypedValue} {versionId : UUID}

theorem command_of_matches (h : mappingMatches mapping node ir = .ok true)
    (hsealed : mapping.trainingDefinition = none) :
    node.command = some mapping.matcher.command := by
  unfold mappingMatches sealedMatches at h
  simp only [hsealed] at h
  by_contra hother
  rw [if_pos (by simp [hother])] at h
  cases h

/-- The operation of a fact resets exactly where the fact has no value, but for the reset of the
idle timeout. -/
theorem operation_of_fits
    {lookup : Option UUID → String → Except Error MappingOperationPolicy}
    (hfits : policyFits lookup mapping = true)
    (htimeout : mapping.mappingVersionId = timeoutReset → mapping = timeoutMapping)
    (hunset : mapping.matcher.command = "unset" → FortiosCli.UnsetNegated node)
    (h : Gives mapping ir node scope container value versionId) :
    ∃ operation, operationIn lookup mapping versionId = some operation ∧
      ((value.type = .null ↔ operation = .reset) ↔
        ¬ (mapping.mappingVersionId = timeoutReset ∧ node.negated = true)) := by
  obtain ⟨hassigned, hwritten⟩ := Bool.and_eq_true_iff.mp hfits
  have hnull := gives_null_iff h
  cases hneg : node.negated with
  | false =>
    obtain ⟨rfl, -, -⟩ := h.positive hneg
    obtain ⟨operation, hoperation, hfit⟩ := (Option.any_eq_true _ _).mp hassigned
    refine ⟨operation, hoperation, ?_⟩
    have hvalue : value.type ≠ .null := fun hv => by simpa [hneg] using hnull.mp hv
    have hassigns : operation ≠ .reset := by
      rintro rfl
      simp only [bne_self_eq_false, Bool.false_or, Bool.and_eq_true, beq_iff_eq,
        Option.isNone_iff_eq_none] at hfit
      have hcommand := command_of_matches h.matched hfit.2
      have hnegated := hunset hfit.1 (hcommand.trans (congrArg some hfit.1)) h.parsed
      simp [hneg] at hnegated
    simp [hvalue, hassigns]
  | true =>
    obtain ⟨rfl, hstated⟩ := h.negated hneg
    have hsupported : mapping.negationBehavior ≠ .unsupported := by
      intro hbehavior
      simp [NegatedValue, hbehavior] at hstated
    simp only [Bool.or_eq_true, beq_iff_eq, hsupported, false_or] at hwritten
    obtain ⟨operation, hoperation, hfit⟩ := (Option.any_eq_true _ _).mp hwritten
    refine ⟨operation, hoperation, ?_⟩
    have hresets : operation = .reset ↔ mapping.negationBehavior = .resetToDefault ∧
        mapping.mappingVersionId ≠ timeoutReset := by
      rw [beq_iff_eq, Bool.eq_iff_iff] at hfit
      simpa using hfit
    have hbehavior : mapping.mappingVersionId = timeoutReset →
        mapping.negationBehavior = .resetToDefault := by
      intro hversion
      rw [htimeout hversion]
      rfl
    rw [hnull, hresets]
    simp only [hneg, true_and, and_true]
    by_cases hversion : mapping.mappingVersionId = timeoutReset
    · simp [hversion, hbehavior hversion]
    · simp [hversion]

end Policies

section Packs

variable {uuid5 : UUID → String → UUID} {sha256 : String → String}
  {manifestJson : List String → String} {db : Database} {organizationId : UUID}
  {profile : ProfileManifest} {pack : KnowledgePack}

/-- The pack of an audit: a registered one, or one that the organization published over the
sealed pack of the profile. -/
inductive Serves (uuid5 : UUID → String → UUID) (db : Database) (organizationId : UUID)
    (profile : ProfileManifest) : KnowledgePack → Prop
  | registered {pack : KnowledgePack} (h : pack ∈ Sealed.registry) :
    Serves uuid5 db organizationId profile pack
  | published {version : KnowledgePackVersionRecord} {pack : KnowledgePack}
    (hversion : version ∈ db.packVersions) (horganization : version.organizationId = organizationId)
    (hload : loadVersion uuid5 db version.organizationId version profile.profileVersionId
      (some profile) = .ok pack) : Serves uuid5 db organizationId profile pack

/-- The baseline of a registered profile is its active pack. -/
theorem baseline_active (hprofile : profile ∈ manifests) {baseline : KnowledgePack}
    (h : baselineKnowledgePack uuid5 profile profile.profileVersionId = .ok baseline) :
    baseline ∈ Sealed.active ∧ baseline.profileVersionId = profile.profileVersionId := by
  have hregistered : (profileRegistry profile.profileVersionId).isSome = true :=
    List.find?_isSome.mpr ⟨profile, hprofile, by simp⟩
  rw [baselineKnowledgePack, if_pos hregistered] at h
  unfold loadValidatedKnowledgePack at h
  split at h
  · rename_i sealed _ hactive
    split at h
    · cases h
    · rw [reportInvalid_eq_ok] at h
      rw [(validateKnowledgePack_ok h).1]
      exact ⟨List.mem_of_find?_eq_some hactive, by simpa using List.find?_some hactive⟩
  · cases h

/-- Where a mapping of a pack comes from, and what the service finds of it. -/
inductive Origin (db : Database) (audit : PinnedAudit) (packVersionId : UUID)
    (profileVersionId : String) (mapping : DeclarativeMapping) : Prop
  /-- A sealed mapping, whose operation one of the static lookups gives. -/
  | sealed (source : KnowledgePack) (hsource : source ∈ Sealed.registry)
    (hprofile : source.profileVersionId = profileVersionId) (hmapping : mapping ∈ source.mappings)
    (lookup : Option UUID → String → Except Error MappingOperationPolicy)
    (hfits : policyFits lookup mapping = true)
    (hfound : ∀ (fact : SecurityFact) (versionId : UUID) (operation : FactOperation),
      fact.knowledgePackVersionId = packVersionId → fact.fieldId = mapping.fieldId →
      fact.mappingVersionId = some versionId →
      operationIn lookup mapping versionId = some operation →
      ∃ policy, operationPolicy db audit fact = .ok policy ∧ policy.operation = operation)
  /-- A mapping of an administrator, whose definition gives the operation. -/
  | trained (row : MappingVersion) (hmapping : mapping = adapterOf row)
    (hdrawn : row.mappingVersionId.version = 4)
    (hfound : ∀ fact : SecurityFact, fact.knowledgePackVersionId = packVersionId →
      fact.fieldId = row.definition.targetFieldId →
      fact.mappingVersionId = some row.mappingVersionId →
      ∃ policy, operationPolicy db audit fact = .ok policy ∧
        policy.operation = definedOperation row.definition fact)

theorem operationPolicy_sealed {db : Database} {audit : PinnedAudit} {fact : SecurityFact}
    (hdrawn : fact.knowledgePackVersionId.version = 4) {policy : MappingOperationPolicy}
    (h : getSealedMappingOperationPolicy fact.mappingVersionId fact.fieldId = .ok policy) :
    ∃ found, operationPolicy db audit fact = .ok found ∧ found.operation = policy.operation := by
  have hstatic : ∀ found, getMappingOperationPolicy fact.knowledgePackVersionId
      fact.mappingVersionId fact.fieldId ≠ .ok found := by
    intro found hfound
    unfold getMappingOperationPolicy at hfound
    split at hfound
    · cases hfound
    split at hfound
    · rename_i hfind
      have hentry := mem_lastEntries (List.mem_of_find?_eq_some hfind)
      have hsame := List.find?_some hfind
      simp only [Bool.and_eq_true, beq_iff_eq] at hsame
      exact entries_packs_not_drawn _ hentry (hsame.1 ▸ hdrawn)
    · cases hfound
  unfold operationPolicy
  cases hlookup : getMappingOperationPolicy fact.knowledgePackVersionId fact.mappingVersionId
      fact.fieldId with
  | ok found => exact absurd hlookup (hstatic found)
  | error e =>
    simp only [h]
    exact ⟨_, rfl, rfl⟩

theorem operationIn_eq_some {mapping : DeclarativeMapping} {versionId : UUID}
    {lookup : Option UUID → String → Except Error MappingOperationPolicy}
    {operation : FactOperation} (h : operationIn lookup mapping versionId = some operation) :
    ∃ policy, lookup (some versionId) mapping.fieldId = .ok policy ∧
      policy.operation = operation := by
  obtain ⟨policy, hpolicy, hsame⟩ := Option.map_eq_some_iff.mp h
  exact ⟨policy, toOption_eq_some.mp hpolicy, hsame⟩

/-- The mappings of an audit's pack, whatever is published before its facts are resolved. -/
theorem serves_origin (hprofile : profile ∈ manifests) (hinv : Inv db) (later : List Event)
    (hdrawn : ∀ event ∈ later, ∀ id ∈ drawnIds event, id.version = 4)
    (hserves : Serves uuid5 db organizationId profile pack)
    (hvalid : pack.profileVersionId = profile.profileVersionId) {audit : PinnedAudit}
    (horganization : audit.organizationId = organizationId)
    (hpinned : audit.knowledgePackVersionId = some pack.knowledgePackVersionId.str)
    {mapping : DeclarativeMapping} (hmapping : mapping ∈ pack.mappings) :
    Origin (run uuid5 sha256 manifestJson db later) audit pack.knowledgePackVersionId
      profile.profileVersionId mapping := by
  cases hserves with
  | registered hpack =>
    refine .sealed pack hpack hvalid hmapping _ (registered_policies pack hpack mapping hmapping) ?_
    intro fact versionId operation hfactPack hfield hversion hoperation
    obtain ⟨policy, hpolicy, hsame⟩ := operationIn_eq_some hoperation
    refine ⟨policy, ?_, hsame⟩
    unfold operationPolicy
    rw [hfactPack, hfield, hversion, hpolicy]
  | @published version _ hversion hversionOrganization hload =>
    obtain ⟨hpackVersion, baseline, hbaseline, hmappings⟩ := loadVersion_mappings hload
    rcases hmappings mapping hmapping with hold | ⟨row, hrow, rfl⟩
    · obtain ⟨hactive, hbaselineProfile⟩ := baseline_active hprofile hbaseline
      refine .sealed baseline (active_registered hactive) hbaselineProfile hold _
        (overlaid_policies baseline hactive mapping hold) ?_
      intro fact versionId operation hfactPack hfield hfactVersion hoperation
      obtain ⟨policy, hpolicy, hsame⟩ := operationIn_eq_some hoperation
      rw [← hfactVersion, ← hfield] at hpolicy
      have hpackDrawn : fact.knowledgePackVersionId.version = 4 := by
        rw [hfactPack, hpackVersion]
        exact hinv.versionsDrawn version hversion
      obtain ⟨found, hfound, hoperation⟩ := operationPolicy_sealed hpackDrawn hpolicy
      exact ⟨found, hfound, hoperation.trans hsame⟩
    · obtain ⟨hrowMem, hlisted⟩ := List.mem_filter.mp hrow
      simp only [Bool.and_eq_true, List.contains_iff_mem] at hlisted
      refine .trained row rfl (hinv.drawn row hrowMem).1 ?_
      intro fact hfactPack hfield hfactVersion
      refine ⟨_, operationPolicy_listed hinv later hdrawn hversion hrowMem hlisted.1
        (hfactPack.trans hpackVersion) hfactVersion hfield
        (horganization.trans hversionOrganization.symm) ?_, rfl⟩
      rw [hpinned, hpackVersion]

end Packs

end ConfigAuditor.EffectiveState.InterpreterFacts
