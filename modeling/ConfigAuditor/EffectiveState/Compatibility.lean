import ConfigAuditor.EffectiveState.InterpreterFacts

/-!
# The resolver accepts what the interpreter writes

Every fact the interpreter makes from a configuration text passes the checks of the
resolver, but for one mapping: FortiOS resets the idle timeout under a version whose
policy says that it assigns.
-/
namespace ConfigAuditor.EffectiveState.Compatibility

open Library SecurityModel Parsing KnowledgePacks ProfileResolution Policy Model Resolver Service
  Completion OperationRecovery InterpreterFacts Training Training.Lifecycle Training.PackHistory
  Interpretation.Scopes Interpretation.Mapping Interpretation.Service Interpretation.Outcomes
  Interpretation.FactIds Interpretation.Published
open Interpretation.FailClosed (exampleContext exampleSource)

section Audits

variable {uuid5 : UUID → String → UUID} {sha256 : String → String}
  {context : InterpretationContext} {profile : ProfileManifest} {pack : KnowledgePack}
  {mapping : DeclarativeMapping} {ir : StructuralIR} {node : ConfigNode} {db : Database}
  {audit : PinnedAudit} {packVersionId : UUID} {profileVersionId : String}

theorem fortios_reader : ∀ profile ∈ manifests,
    profile.profileVersionId = fortios7.profileVersionId →
      profile.structuralReaderName = some FortiosCli.readerId := by
  decide +kernel

/-- What a sealed mapping reads as `unset` is negated in the trees of its profile. -/
theorem sealed_unset (hprofile : profile ∈ manifests) (hread : ReadFrom sha256 ir)
    (hreader : some ir.readerId = profile.structuralReaderName) (hnode : node ∈ ir.nodes)
    {source : KnowledgePack} (hsource : source ∈ Sealed.registry)
    (hsame : source.profileVersionId = profile.profileVersionId)
    (hmapping : mapping ∈ source.mappings) (hcommand : mapping.matcher.command = "unset") :
    FortiosCli.UnsetNegated node := by
  have hfortios := (registered_mappings source hsource mapping hmapping).2.1 hcommand
  have hname := fortios_reader profile hprofile (hsame.symm.trans hfortios)
  exact hread.unset (Option.some.inj (hreader.trans hname)) hnode

theorem origin_inverts (horigin : Origin db audit packVersionId profileVersionId mapping)
    (hmapping : MappingOk mapping) : InvertsBoolean mapping ir node := by
  intro hbehavior read hread hboolean
  cases horigin with
  | sealed source hsource hsame hmem =>
    obtain ⟨field, -, hfield⟩ := (registered_mappings source hsource mapping hmem).2.2 hbehavior
    exact ⟨field, hfield⟩
  | trained row hrow hdrawn =>
    subst hrow
    have htype := hmapping.types row.definition.valueExtraction.outputType
      (List.mem_singleton_self _)
    rwa [← hasValue_type hread, hboolean] at htype

/-- The operation of a fact resets exactly where the fact has no value, but for the reset of the
idle timeout. -/
theorem emitted_operation (hprofile : profile ∈ manifests)
    (horigin : Origin db audit pack.knowledgePackVersionId profile.profileVersionId mapping)
    (hread : ReadFrom sha256 ir) (hreader : some ir.readerId = profile.structuralReaderName)
    (hnode : node ∈ ir.nodes) {fact : SecurityFactDraft} {consumed : Option ConfigNode}
    (h : interpretPair uuid5 context pack mapping ir node = .ok (.emitted fact consumed)) :
    ∃ policy, operationPolicy db audit (toOrm fact) = .ok policy ∧
      ((fact.value.type = .null ↔ policy.operation = .reset) ↔
        ¬ (mapping.mappingVersionId = timeoutReset ∧ node.negated = true)) := by
  cases horigin with
  | sealed source hsource hsame hmapping lookup hfits hfound =>
    obtain ⟨scope, container, value, quality, version, hgives, hbuilt⟩ := interpretPair_built h
    have hdraft := draftFact_drafted hbuilt
    have hunset : mapping.matcher.command = "unset" → FortiosCli.UnsetNegated node :=
      sealed_unset hprofile hread hreader hnode hsource hsame hmapping
    obtain ⟨operation, hoperation, hfit⟩ := operation_of_fits hfits
      (registered_mappings source hsource mapping hmapping).1 hunset hgives
    obtain ⟨policy, hpolicy, rfl⟩ := hfound (toOrm fact) _ operation hdraft.packVersion hdraft.field
      hdraft.version hoperation
    exact ⟨policy, hpolicy, hdraft.value ▸ hfit⟩
  | trained row hrow hdrawn hfound =>
    subst hrow
    obtain ⟨hfield, hversion, hpackVersion, hnull⟩ := emitted_spec h
    obtain ⟨policy, hpolicy, hoperation⟩ := hfound (toOrm fact) hpackVersion hfield hversion
    have hother : (adapterOf row).mappingVersionId ≠ timeoutReset := by
      intro hsame
      have hdrawn' : timeoutReset.version = 4 := hsame ▸ hdrawn
      exact absurd hdrawn' (by decide)
    refine ⟨policy, hpolicy, iff_of_true ?_ fun hreset => hother hreset.1⟩
    rw [hoperation]
    constructor
    · intro hvalue
      have hbehavior := (hnull.mp hvalue).2
      simp [definedOperation, toOrm, hvalue, hbehavior]
    · intro hreset
      by_contra hvalue
      simp [definedOperation, toOrm, hvalue] at hreset

/-- What a finished run says of its tree and its pack. -/
theorem finished_run {result : InterpretationResult}
    (h : interpretStructuralIr uuid5 context ir profile.profileVersionId (some pack)
      (some profile) = .ok result) :
    some ir.readerId = profile.structuralReaderName ∧
      (∀ node ∈ ir.nodes, node.artifactId = ir.source.artifactId) ∧
      (pack.profileVersionId = profile.profileVersionId ∧ ∀ m ∈ pack.mappings, MappingOk m) ∧
      ∃ attempts, (pairs ir pack).mapM (attemptPair uuid5 context ir pack) = .ok attempts ∧
        result = cliResult ir attempts := by
  simp only [interpretStructuralIr, requirePack, requireProvenance, except_bind_eq_ok,
    except_pure_eq_ok, reportInvalid_eq_ok, raiseIf_eq_ok, Bool.not_eq_false', Bool.and_eq_true,
    List.all_eq_true, beq_iff_eq] at h
  obtain ⟨found, hfound, _, ⟨-, hartifact⟩, _, rfl, _, hvalid, attempts, hattempts, rfl⟩ := h
  have hreader : found = profile ∧ some ir.readerId = profile.structuralReaderName := by
    simp only [requireProfile, Option.or] at hfound
    split at hfound
    · rename_i hname
      exact ⟨(except_pure_eq_ok.mp hfound).symm, hname⟩
    · cases hfound
  obtain ⟨rfl, hname⟩ := hreader
  obtain ⟨-, -, hversion, hmappings, -, -⟩ := validateKnowledgePack_ok hvalid
  exact ⟨hname, hartifact, ⟨hversion, hmappings⟩, attempts, hattempts, rfl⟩

/-- The facts of a finished run are those of its pairs. -/
theorem mem_facts {attempts : List Attempt}
    (h : (pairs ir pack).mapM (attemptPair uuid5 context ir pack) = .ok attempts)
    {fact : SecurityFactDraft} :
    fact ∈ (cliResult ir attempts).facts ↔ ∃ node ∈ statements ir, ∃ mapping ∈ pack.mappings,
      ∃ consumed, interpretPair uuid5 context pack mapping ir node =
        .ok (.emitted fact consumed) := by
  constructor
  · intro hfact
    obtain ⟨attempt, hmem, hsome⟩ := List.mem_filterMap.mp hfact
    obtain ⟨⟨node, mapping⟩, hpair, hattempt⟩ := mapM_exists_input h hmem
    obtain ⟨consumed, houtcome⟩ := attemptPair_fact hattempt hsome
    obtain ⟨hnode, hmapping⟩ := mem_pairs.mp hpair
    exact ⟨node, hnode, mapping, hmapping, consumed, houtcome⟩
  · rintro ⟨node, hnode, mapping, hmapping, consumed, houtcome⟩
    obtain ⟨attempt, hmem, hattempt⟩ := mapM_exists_output h (mem_pairs.mpr ⟨hnode, hmapping⟩)
    obtain ⟨outcome, hsame, hattempt⟩ := except_bind_eq_ok.mp hattempt
    obtain rfl := Except.ok.inj (houtcome.symm.trans hsame)
    obtain rfl := except_pure_eq_ok.mp hattempt
    exact List.mem_filterMap.mpr ⟨_, hmem, rfl⟩

/-- A statement `unset admintimeout` of a block `config system global`, read whole. -/
def UnsetsTimeout (ir : StructuralIR) (node : ConfigNode) : Prop :=
  node.parseStatus = .parsed ∧ node.command = some "unset" ∧
    node.arguments.map Text.lower = ["admintimeout"] ∧
    ∃ parent, parentOf node ir = some parent ∧ parent.command = some "config" ∧
      hasPrefix parent.arguments ["system", "global"] = true

theorem timeout_matches :
    mappingMatches timeoutMapping node ir = .ok true ↔
      node.command = some "unset" ∧ hasPrefix node.arguments ["admintimeout"] = true ∧
        ∃ parent, parentOf node ir = some parent ∧ parent.command = some "config" ∧
          hasPrefix parent.arguments ["system", "global"] = true := by
  have hmatcher : mappingMatches timeoutMapping node ir = sealedMatches timeoutMapping.matcher node
    ir := rfl
  rw [hmatcher, sealedMatches]
  simp only [timeoutMapping, Sealed.Fortios.mapping, Sealed.Fortios.config]
  by_cases hcommand : node.command = some "unset"
  · by_cases harguments : hasPrefix node.arguments ["admintimeout"] = true
    · cases hparent : parentOf node ir with
      | none => simp [hcommand, harguments]
      | some parent =>
        by_cases hconfig : parent.command = some "config"
        · by_cases hblock : hasPrefix parent.arguments ["system", "global"] = true
          · simp [hcommand, harguments, hconfig, hblock]
          · simp [hcommand, harguments, hconfig, hblock]
        · simp [hcommand, harguments, hconfig]
    · simp [harguments]
  · simp [hcommand]

theorem hasPrefix_of_lower {arguments : List String} {argument : String}
    (h : arguments.map Text.lower = [argument]) (hlower : Text.lower argument = argument) :
    hasPrefix arguments [argument] = true := by
  obtain ⟨x, rfl, hx⟩ := List.map_eq_singleton_iff.mp h
  simp [hasPrefix, hx, hlower]

/-- The reset of the idle timeout gives a fact exactly on such statements. -/
theorem timeout_emitted (hnegated : FortiosCli.UnsetNegated node) {outcome : PairOutcome}
    (h : interpretPair uuid5 context pack timeoutMapping ir node = .ok outcome) :
    UnsetsTimeout ir node ↔
      node.negated = true ∧ ∃ fact consumed, outcome = .emitted fact consumed := by
  have hlower : Text.lower "admintimeout" = "admintimeout" := by decide
  constructor
  · rintro ⟨hparsed, hcommand, harguments, hparent⟩
    have hneg := hnegated hcommand hparsed
    have hmatched : mappingMatches timeoutMapping node ir = .ok true :=
      timeout_matches.mpr ⟨hcommand, hasPrefix_of_lower harguments hlower, hparent⟩
    have hyields : YieldsNegated timeoutMapping ir node := by
      refine ⟨hparsed, deviceScope, none, ⟨_, rfl, rfl, rfl⟩, ?_, ?_⟩
      · rw [harguments]
        exact congrArg (fun argument => [argument]) hlower.symm
      · obtain ⟨field, hfield, hallowed⟩ : ∃ field ∈ fields,
            fieldRegistry timeoutMapping.fieldId = some field ∧
              deviceScope.type ∈ field.allowedScopeTypes := by decide +kernel
        exact ⟨field, hallowed⟩
    refine ⟨hneg, ?_⟩
    cases interpretPair_spec h with
    | unmatched hm => rw [hmatched] at hm; cases hm
    | diagnosed code hm _ => exact absurd (by simpa [Yields, hneg] using hyields) hm.2
    | negated fact => exact ⟨fact, none, rfl⟩
    | positive fact container _ hpositive => rw [hneg] at hpositive; cases hpositive
  · rintro ⟨hneg, fact, consumed, rfl⟩
    obtain ⟨scope, container, value, quality, version, hgives, -⟩ := interpretPair_built h
    obtain ⟨hcommand, -, hparent⟩ := timeout_matches.mp hgives.matched
    obtain ⟨-, hstated⟩ := hgives.negated hneg
    have harguments : node.arguments.map Text.lower = [Text.lower "admintimeout"] := hstated.1
    rw [hlower] at harguments
    exact ⟨hgives.parsed, hcommand, harguments, hparent⟩

/-- What the resolver asks of a stored fact of an audit: the checks of the service, an
operation, and its classification. -/
structure Accepted (db : Database) (audit : PinnedAudit) (pinnedPack : String)
    (fact : SecurityFact) : Prop where
  validated : validateResolverFact db audit pinnedPack fact = .ok ()
  classified : ∃ policy item, operationPolicy db audit fact = .ok policy ∧
    classify fact (some policy.operation) = .ok item ∧
    (fact.value.type = .null ↔ policy.operation = .reset)

theorem Accepted.of_passes {pinnedPack : String} {fact : SecurityFact}
    (h : Passes db audit pinnedPack fact) : Accepted db audit pinnedPack fact := by
  obtain ⟨policy, hpolicy, hok⟩ := h.policy
  obtain ⟨item, hitem, -⟩ := classify_acceptable hok
  exact ⟨validateResolverFact_passes h, policy, item, hpolicy, hitem, hok.reset⟩

/-- A fact without a value is not accepted for another operation. -/
theorem null_reset {pinnedPack : String} {fact : SecurityFact}
    (h : validateResolverFact db audit pinnedPack fact = .ok ()) (hnull : fact.value.type = .null)
    {policy : MappingOperationPolicy} (hpolicy : operationPolicy db audit fact = .ok policy) :
    policy.operation = .reset := by
  simp only [validateResolverFact, except_bind_eq_ok] at h
  obtain ⟨_, -, _, -, _, -, found, hfound, _, hchecked, -⟩ := h
  obtain rfl := Except.ok.inj (hpolicy.symm.trans hfound)
  rw [checkFactValue, if_pos hnull, raiseIf_eq_ok] at hchecked
  simpa using hchecked

/-- The pack resets the idle timeout under the version that its policy says assigns. -/
def ResetsTimeout (pack : KnowledgePack) : Prop :=
  timeoutReset ∈ pack.mappings.map (·.mappingVersionId)

theorem origin_timeout (horigin : Origin db audit packVersionId profileVersionId mapping)
    (hversion : mapping.mappingVersionId = timeoutReset) : mapping = timeoutMapping := by
  cases horigin with
  | sealed source hsource hsame hmapping =>
    exact (registered_mappings source hsource mapping hmapping).1 hversion
  | trained row hrow hdrawn =>
    subst hrow
    have hdrawn' : timeoutReset.version = 4 := hversion ▸ hdrawn
    exact absurd hdrawn' (by decide)

section Run

variable {result : InterpretationResult}
  (huuid5 : ∀ namespaceId name, (uuid5 namespaceId name).int ≠ 0) (hprofile : profile ∈ manifests)
  (horigin : ∀ mapping ∈ pack.mappings,
    Origin db audit pack.knowledgePackVersionId profile.profileVersionId mapping)
  (hread : ReadFrom sha256 ir)
  (hrun : interpretStructuralIr uuid5 context ir profile.profileVersionId (some pack)
    (some profile) = .ok result)

include huuid5 hprofile horigin hread hrun in
/-- The facts of a text pass where it does not unset the timeout. -/
theorem facts_pass (hplace : audit.auditId = context.auditId ∧ audit.deviceId = context.deviceId ∧
      audit.snapshotId = context.snapshotId)
    (hunset : ResetsTimeout pack → ∀ node ∈ statements ir, ¬ UnsetsTimeout ir node) :
    ∀ fact ∈ result.facts,
      Passes db audit pack.knowledgePackVersionId.str (toOrm fact) := by
  intro fact hfact
  obtain ⟨hreader, hartifact, ⟨-, hmappings⟩, attempts, hattempts, rfl⟩ := finished_run hrun
  obtain ⟨node, hstatement, mapping, hmapping, consumed, hemitted⟩ :=
    (mem_facts hattempts).mp hfact
  have hnode := (mem_statements.mp hstatement).1
  obtain ⟨policy, hpolicy, hfit⟩ := emitted_operation hprofile (horigin mapping hmapping) hread
    hreader hnode hemitted
  have hother : ¬ (mapping.mappingVersionId = timeoutReset ∧ node.negated = true) := by
    rintro ⟨hversion, hneg⟩
    have htimeout : ResetsTimeout pack := List.mem_map.mpr ⟨mapping, hmapping, hversion⟩
    obtain rfl := origin_timeout (horigin mapping hmapping) hversion
    exact hunset htimeout node hstatement
      ((timeout_emitted (fun _ _ => hneg) hemitted).mpr ⟨hneg, fact, consumed, rfl⟩)
  obtain ⟨scope, container, value, quality, version, -, hbuilt⟩ := interpretPair_built hemitted
  obtain ⟨hdevice, hsnapshot, -, -⟩ := buildFact_rest hbuilt
  have hdraft := draftFact_drafted hbuilt
  have hacceptable : Acceptable (toOrm fact) policy.operation :=
    emitted_acceptable huuid5 hread hnode hartifact (hmappings mapping hmapping)
      (origin_inverts (horigin mapping hmapping) (hmappings mapping hmapping)) hemitted
      (hfit.mpr hother)
  exact {
    auditId := hdraft.audit.trans hplace.1.symm
    deviceId := hdevice.trans hplace.2.1.symm
    snapshotId := hsnapshot.trans hplace.2.2.symm
    packId := congrArg UUID.str hdraft.packVersion
    policy := ⟨policy, hpolicy, hacceptable⟩ }

include hprofile horigin hread hrun in
/-- A text that unsets the timeout has a fact that does not pass. -/
theorem unset_rejected (htimeout : ResetsTimeout pack) {node : ConfigNode}
    (hstatement : node ∈ statements ir) (h : UnsetsTimeout ir node) :
    ∃ fact ∈ result.facts, validateResolverFact db audit pack.knowledgePackVersionId.str
      (toOrm fact) ≠ .ok () := by
  obtain ⟨hreader, -, -, attempts, hattempts, rfl⟩ := finished_run hrun
  obtain ⟨mapping, hmapping, hversion⟩ := List.mem_map.mp htimeout
  obtain rfl := origin_timeout (horigin mapping hmapping) hversion
  have hnode := (mem_statements.mp hstatement).1
  have hnegated : FortiosCli.UnsetNegated node := by
    cases horigin _ hmapping with
    | sealed source hsource hsame hsealed =>
      exact sealed_unset hprofile hread hreader hnode hsource hsame hsealed rfl
    | trained row hrow hdrawn =>
      have hdrawn' : timeoutReset.version = 4 := by rwa [← hversion, hrow]
      exact absurd hdrawn' (by decide)
  obtain ⟨attempt, -, hattempt⟩ := mapM_exists_output hattempts
    (mem_pairs.mpr ⟨hstatement, hmapping⟩)
  obtain ⟨outcome, houtcome, -⟩ := except_bind_eq_ok.mp hattempt
  obtain ⟨hneg, fact, consumed, rfl⟩ := (timeout_emitted hnegated houtcome).mp h
  refine ⟨fact, (mem_facts hattempts).mpr ⟨node, hstatement, _, hmapping, consumed, houtcome⟩, ?_⟩
  intro hvalidated
  obtain ⟨policy, hpolicy, hfit⟩ := emitted_operation hprofile (horigin _ hmapping) hread hreader
    hnode houtcome
  have hnull : fact.value.type = .null := by
    obtain ⟨scope, container, value, quality, version, hgives, hbuilt⟩ :=
      interpretPair_built houtcome
    rw [(draftFact_drafted hbuilt).value]
    exact (gives_null_iff hgives).mpr ⟨hneg, rfl⟩
  exact hfit.mp (iff_of_true hnull (null_reset hvalidated hnull hpolicy)) ⟨hversion, hneg⟩

end Run

/-- A resolved audit has checked each of its facts. -/
theorem resolved_validated {store : Store} {organizationId auditId : UUID} {pinnedPack : String}
    (haudit : auditOf store auditId organizationId = some audit)
    (hboundary : checkBoundary store organizationId audit = .ok pinnedPack)
    {table : List SecurityFact} {states rows : List EffectiveStateRow}
    (h : resolveAuditEffectiveStates uuid5 store auditId organizationId table states = .ok rows) :
    ∀ fact ∈ table, fact.auditId = auditId →
      validateResolverFact store.training audit pinnedPack fact = .ok () := by
  intro fact hfact hown
  obtain ⟨drafts, hdrafts, -⟩ := except_bind_eq_ok.mp h
  obtain ⟨checked, hchecked, -⟩ := except_bind_eq_ok.mp hdrafts
  simp only [validateResolverFacts, haudit] at hchecked
  obtain ⟨pinned, hpinned, hchecked⟩ := except_bind_eq_ok.mp hchecked
  obtain rfl := Except.ok.inj (hboundary.symm.trans hpinned)
  obtain ⟨_, hall, -⟩ := except_bind_eq_ok.mp hchecked
  exact forM_eq_ok.mp hall fact ((mem_sortedBy _).mpr (List.mem_filter.mpr ⟨hfact, by simp [hown]⟩))

theorem checkBoundary_pinned {store : Store} {organizationId : UUID} {pinnedPack : String}
    (h : checkBoundary store organizationId audit = .ok pinnedPack) :
    audit.knowledgePackVersionId = some pinnedPack := by
  simp only [checkBoundary, except_bind_eq_ok] at h
  obtain ⟨_, -, _, -, _, -, h⟩ := h
  split at h
  · cases h
  split at h
  · simp only [except_bind_eq_ok] at h
    obtain ⟨_, -, _, -, _, -, h⟩ := h
    split at h
    · cases h
    · rename_i hpinned
      rw [hpinned, except_pure_eq_ok.mp h]
  · simp only [except_bind_eq_ok] at h
    obtain ⟨_, -, h⟩ := h
    split at h
    · cases h
    · rename_i hpinned
      rw [hpinned, except_pure_eq_ok.mp h]

theorem auditOf_organization {store : Store} {organizationId auditId : UUID}
    (h : auditOf store auditId organizationId = some audit) :
    audit.organizationId = organizationId := by
  have hfound := List.find?_some h
  simp only [Bool.and_eq_true, beq_iff_eq] at hfound
  exact hfound.2

/-- No text of an audit unsets the timeout, where its pack resets it. -/
def KeepsTimeout (pack : KnowledgePack) (irs : List StructuralIR) : Prop :=
  ResetsTimeout pack → ∀ ir ∈ irs, ∀ node ∈ statements ir, ¬ UnsetsTimeout ir node

end Audits

/-- The facts of the texts of an audit. -/
def interpretedFacts (results : List InterpretationResult) : List SecurityFactDraft :=
  results.flatMap (·.facts)

/-- The facts that the interpreter makes from the texts of an audit are accepted one by one, and
the audit is resolved, exactly when no text unsets the idle timeout. -/
theorem facts_resolved_iff (uuid5 : UUID → String → UUID)
    (huuid5 : ∀ namespaceId name, (uuid5 namespaceId name).int ≠ 0) (sha256 : String → String)
    (manifestJson : List String → String) (blocks : List ReviewBlock) (events later : List Event)
    (hdrawn : ∀ event ∈ events ++ later, ∀ id ∈ drawnIds event, id.version = 4)
    {profile : ProfileManifest} (hprofile : profile ∈ manifests) {organizationId : UUID}
    {pack : KnowledgePack}
    (hserves : Serves uuid5 (run uuid5 sha256 manifestJson (.untrained blocks) events)
      organizationId profile pack)
    {context : InterpretationContext}
    (hcontext : context.auditId.int ≠ 0 ∧ context.deviceId.int ≠ 0)
    {irs : List StructuralIR} (hread : ∀ ir ∈ irs, ReadFrom sha256 ir)
    {results : List InterpretationResult}
    (hrun : irs.mapM (fun ir => interpretStructuralIr uuid5 context ir profile.profileVersionId
      (some pack) (some profile)) = .ok results)
    {store : Store} (hstore : store.training =
      run uuid5 sha256 manifestJson (.untrained blocks) (events ++ later))
    {audit : PinnedAudit} (haudit : auditOf store context.auditId organizationId = some audit)
    (hplace : audit.deviceId = context.deviceId ∧ audit.snapshotId = context.snapshotId)
    (hboundary : checkBoundary store organizationId audit =
      .ok pack.knowledgePackVersionId.str) :
    ((∀ draft ∈ interpretedFacts results,
        Accepted store.training audit pack.knowledgePackVersionId.str (toOrm draft)) ↔
      KeepsTimeout pack irs) ∧
    ∀ table states, (table.map (·.factId)).Nodup →
      (∀ fact, fact ∈ table ∧ fact.auditId = context.auditId ↔
        fact ∈ (interpretedFacts results).map toOrm) →
      ((∃ rows, resolveAuditEffectiveStates uuid5 store context.auditId organizationId table
          states = .ok rows) ↔ KeepsTimeout pack irs) := by
  have hinv : Inv (run uuid5 sha256 manifestJson (.untrained blocks) events) :=
    inv_run (inv_untrained blocks) events fun event hevent =>
      hdrawn event (List.mem_append_left _ hevent)
  have hlater : run uuid5 sha256 manifestJson (.untrained blocks) (events ++ later) =
      run uuid5 sha256 manifestJson (run uuid5 sha256 manifestJson (.untrained blocks) events)
        later := Runs.run_append _ _ _ _
  have hid : audit.auditId = context.auditId := auditOf_id haudit
  have horigin : irs ≠ [] → ∀ mapping ∈ pack.mappings, Origin store.training audit
      pack.knowledgePackVersionId profile.profileVersionId mapping := by
    intro hne mapping hmapping
    obtain ⟨ir, hir⟩ := List.exists_mem_of_ne_nil _ hne
    obtain ⟨result, -, hfinished⟩ := mapM_exists_output hrun hir
    obtain ⟨-, -, ⟨hversion, -⟩, -⟩ := finished_run hfinished
    rw [hstore, hlater]
    exact serves_origin hprofile hinv later (fun event hevent =>
      hdrawn event (List.mem_append_right _ hevent)) hserves hversion
      (auditOf_organization haudit) (checkBoundary_pinned hboundary) hmapping
  -- every fact passes where the timeout is kept
  have hpass : KeepsTimeout pack irs → ∀ draft ∈ interpretedFacts results,
      Passes store.training audit pack.knowledgePackVersionId.str (toOrm draft) := by
    intro hkeeps draft hdraft
    obtain ⟨result, hresult, hdraft⟩ := List.mem_flatMap.mp hdraft
    obtain ⟨ir, hir, hfinished⟩ := mapM_exists_input hrun hresult
    exact facts_pass huuid5 hprofile (horigin (List.ne_nil_of_mem hir)) (hread ir hir) hfinished
      ⟨hid, hplace.1, hplace.2⟩ (fun htimeout => hkeeps htimeout ir hir) draft hdraft
  -- and one does not where it is unset
  have hkeeps : (∀ draft ∈ interpretedFacts results, validateResolverFact store.training audit
      pack.knowledgePackVersionId.str (toOrm draft) = .ok ()) → KeepsTimeout pack irs := by
    intro hall htimeout ir hir node hnode hunsets
    obtain ⟨result, hresult, hfinished⟩ := mapM_exists_output hrun hir
    obtain ⟨fact, hfact, hrejected⟩ := unset_rejected hprofile
      (horigin (List.ne_nil_of_mem hir)) (hread ir hir) hfinished htimeout hnode hunsets
    exact hrejected (hall fact (List.mem_flatMap.mpr ⟨result, hresult, hfact⟩))
  refine ⟨⟨fun h => hkeeps fun draft hdraft => (h draft hdraft).validated,
    fun h draft hdraft => .of_passes (hpass h draft hdraft)⟩, ?_⟩
  intro table states hids htable
  constructor
  · rintro ⟨rows, hrows⟩
    refine hkeeps fun draft hdraft => ?_
    obtain ⟨hmem, hown⟩ := (htable (toOrm draft)).mpr (List.mem_map_of_mem hdraft)
    exact resolved_validated haudit hboundary hrows (toOrm draft) hmem hown
  · intro h
    refine resolveAudit_completes haudit hboundary ⟨hid ▸ hcontext.1, hplace.1 ▸ hcontext.2⟩ hids
      (fun fact hfact => ?_) states
    obtain ⟨draft, hdraft, rfl⟩ := List.mem_map.mp ((htable fact).mp (mem_ownFacts.mp hfact))
    exact hpass h draft hdraft

/-- The text that the id of a fact on the idle timeout is made from. -/
def timeoutIdentity (version nodeId value : String) : String :=
  "\x7b\"audit_id\":\"00000000-0000-0000-0000-000000000002\",\"entity\":null," ++
    "\"field_id\":\"management.session.idle_timeout\",\"mapping_version_id\":\"a1b2c3d4-" ++
    version ++ "-5aaa-8aaa-000000000013\",\"scope\":\x7b\"attributes\":\x7b\x7d," ++
    "\"key\":\"device\",\"type\":\"device\"\x7d,\"source_ir_node_ids\":[\"" ++ nodeId ++
    "\"],\"value\":" ++ value ++ "\x7d"

def noValue : String :=
  "\x7b\"original_unit\":null,\"original_value\":null,\"type\":\"null\",\"unit\":null," ++
    "\"value\":null\x7d"

def tenMinutes : String :=
  "\x7b\"original_unit\":\"minutes\",\"original_value\":\"10\",\"type\":\"duration\"," ++
    "\"unit\":\"seconds\",\"value\":600\x7d"

/-- The ids of the facts and of the state; no other text has the null id either. -/
def timeoutUuid5 (namespaceId : UUID) (name : String) : UUID :=
  let known := UUID.ofTable
    [(timeoutIdentity "4203" "irn_ee376cc1fda736f31ccedf396b628b8f" noValue,
        0x1cc65d3d60fd5aa9b820b7c1379c9411),
      (timeoutIdentity "6203" "irn_ee376cc1fda736f31ccedf396b628b8f" noValue,
        0x9086b2d34f2a5172908c0d311c3baaf6),
      (timeoutIdentity "6103" "irn_01a6b471dcb89593801bd3d887d6d1c2" tenMinutes,
        0xded4029701125afe9135e10209b9cd11),
      ("00000000-0000-0000-0000-000000000002:management.session.idle_timeout:device::device",
        0x414b6fd3cd915e70aaf9d61b2899b007)] namespaceId name
  if known.int = 0 then UUID.ofNat 1 else known

theorem timeoutUuid5_ne_zero (namespaceId : UUID) (name : String) :
    (timeoutUuid5 namespaceId name).int ≠ 0 := by
  simp only [timeoutUuid5]
  split
  · decide
  · assumption

/-- The text that the id of a node on one line is the hash of. -/
def lineIdentity (line : Nat) (parent rawText : String) : String :=
  IRBuilder.nodeIdentity exampleSource.artifactId FortiosCli.readerId line line line (some parent)
    rawText

def timeoutSha256 : String → String := tabulated
  [(lineIdentity 1 "root" "config system global",
      "a4a1a3e606f4d6618407ae16850090330f4a5d0a1894f323c326b885db1e5fec"),
    (lineIdentity 2 "irn_a4a1a3e606f4d6618407ae1685009033" "    unset admintimeout",
      "ee376cc1fda736f31ccedf396b628b8f9c7dd5b4b1575965b926cbf6bf353408"),
    (lineIdentity 2 "irn_a4a1a3e606f4d6618407ae1685009033" "    set admintimeout 10",
      "01a6b471dcb89593801bd3d887d6d1c27cc19394f10a73e66a8a14b63e824e2e"),
    (lineIdentity 3 "root" "end",
      "bf61c1e834753bc6148b21d84ccc21d885c479e1aa38c084fcc048dd9900411e")]

def setIr : StructuralIR := FortiosCli.parse timeoutSha256
  { content := "config system global\n    set admintimeout 10\nend\n", source := exampleSource }

def unsetIr : StructuralIR := FortiosCli.parse timeoutSha256
  { content := "config system global\n    unset admintimeout\nend\n", source := exampleSource }

/-- An audit of a FortiOS device, pinned to a pack. -/
def fortiosAudit (pack : KnowledgePack) : PinnedAudit :=
  { auditId := exampleContext.auditId, organizationId := UUID.ofNat 5
    deviceId := exampleContext.deviceId, snapshotId := exampleContext.snapshotId
    resolutionStatus := some "resolved", profileVersionId := some fortios7.profileVersionId
    deviceProfileVersionId := some fortios7.profileVersionId
    knowledgePackVersionId := some pack.knowledgePackVersionId.str }

def fortiosStore (pack : KnowledgePack) : Store :=
  { audits := [fortiosAudit pack]
    snapshots := [⟨exampleContext.snapshotId, UUID.ofNat 5, exampleContext.deviceId⟩]
    devices := [⟨exampleContext.deviceId, UUID.ofNat 5⟩]
    training := .untrained [], profileFor := fun _ _ => .ok none }

theorem fortios_pinned (pack : KnowledgePack) :
    auditOf (fortiosStore pack) exampleContext.auditId (UUID.ofNat 5) = some (fortiosAudit pack) ∧
      checkBoundary (fortiosStore pack) (UUID.ofNat 5) (fortiosAudit pack) =
        .ok pack.knowledgePackVersionId.str := by
  have hregistered : (profileRegistry fortios7.profileVersionId).isNone = false := by decide
  refine ⟨rfl, ?_⟩
  simp [checkBoundary, fortiosStore, fortiosAudit, hregistered, Table.find?, raiseIf, bind,
    Except.bind, pure, Except.pure]

def interpretFortios (pack : KnowledgePack) (ir : StructuralIR) :
    Except Error InterpretationResult :=
  interpretStructuralIr timeoutUuid5 exampleContext ir fortios7.profileVersionId (some pack)
    (some fortios7)

/-- The facts of a text are stored, and the audit is resolved. -/
def resolveFortios (pack : KnowledgePack) (results : List InterpretationResult) :
    Except Error (List EffectiveStateRow) :=
  resolveAuditEffectiveStates timeoutUuid5 (fortiosStore pack) exampleContext.auditId
    (UUID.ofNat 5) ((interpretedFacts results).map toOrm) []

def acceptedFortios (pack : KnowledgePack) (results : List InterpretationResult) : Prop :=
  ∀ draft ∈ interpretedFacts results, Accepted (.untrained []) (fortiosAudit pack)
    pack.knowledgePackVersionId.str (toOrm draft)

/-- One fact of the audit is made of a text. -/
def OneFact (results : List InterpretationResult) : Prop :=
  ∃ draft, interpretedFacts results = [draft] ∧ draft.auditId = exampleContext.auditId

theorem exists_oneFact {pack : KnowledgePack} {ir : StructuralIR}
    (h : ([ir].mapM (interpretFortios pack)).toOption.map (fun results =>
      (interpretedFacts results).map (·.auditId)) = some [exampleContext.auditId]) :
    ∃ results, [ir].mapM (interpretFortios pack) = .ok results ∧ OneFact results := by
  obtain ⟨results, hrun, hids⟩ := exists_of_toOption h
  obtain ⟨draft, hdraft, hid⟩ := List.map_eq_singleton_iff.mp hids
  exact ⟨results, hrun, draft, hdraft, hid⟩

theorem unset_kept : KeepsTimeout Sealed.Fortios.packV1 [unsetIr] := by
  have hother : timeoutReset ∉ Sealed.Fortios.packV1.mappings.map (·.mappingVersionId) := by
    decide +kernel
  exact fun htimeout => absurd htimeout hother

theorem set_kept : KeepsTimeout Sealed.Fortios.current [setIr] := by
  have hset : ∀ node ∈ statements setIr, node.command ≠ some "unset" := by decide +kernel
  intro _ ir hir node hnode hunsets
  obtain rfl := List.mem_singleton.mp hir
  exact hset node hnode hunsets.2.1

/-- The first pack resets the timeout, the current one assigns it: both facts are accepted, and
both audits are resolved. -/
theorem facts_resolved_timeout :
    (∃ results, [unsetIr].mapM (interpretFortios Sealed.Fortios.packV1) = .ok results ∧
      OneFact results ∧ acceptedFortios Sealed.Fortios.packV1 results ∧
      ∃ rows, resolveFortios Sealed.Fortios.packV1 results = .ok rows) ∧
    ∃ results, [setIr].mapM (interpretFortios Sealed.Fortios.current) = .ok results ∧
      OneFact results ∧ acceptedFortios Sealed.Fortios.current results ∧
      ∃ rows, resolveFortios Sealed.Fortios.current results = .ok rows := by
  have hprofile : fortios7 ∈ manifests := by decide
  have happlied : ∀ pack ∈ Sealed.registry, ∀ ir, ReadFrom timeoutSha256 ir → ∀ results,
      [ir].mapM (interpretFortios pack) = .ok results → OneFact results →
      KeepsTimeout pack [ir] →
        acceptedFortios pack results ∧ ∃ rows, resolveFortios pack results = .ok rows := by
    rintro pack hpack ir hread results hrun ⟨draft, hdraft, hid⟩ hkeeps
    have hserves : Serves timeoutUuid5 (.untrained []) (UUID.ofNat 5) fortios7 pack :=
      .registered hpack
    have hreads : ∀ other ∈ [ir], ReadFrom timeoutSha256 other := fun other hother =>
      List.mem_singleton.mp hother ▸ hread
    obtain ⟨hfacts, hstates⟩ := facts_resolved_iff timeoutUuid5 timeoutUuid5_ne_zero timeoutSha256
      (fun _ => "") [] [] [] (by simp) hprofile hserves (by decide) hreads hrun rfl
      (fortios_pinned pack).1 ⟨rfl, rfl⟩ (fortios_pinned pack).2
    refine ⟨hfacts.mpr hkeeps, (hstates _ [] (by simp [hdraft]) fun fact => ?_).mpr hkeeps⟩
    refine ⟨fun h => h.1, fun h => ⟨h, ?_⟩⟩
    obtain ⟨other, hother, rfl⟩ := List.mem_map.mp h
    rw [hdraft] at hother
    rw [List.mem_singleton.mp hother]
    exact hid
  constructor
  · obtain ⟨results, hrun, hone⟩ : ∃ results, [unsetIr].mapM
        (interpretFortios Sealed.Fortios.packV1) = .ok results ∧ OneFact results :=
      exists_oneFact (by decide +kernel)
    exact ⟨results, hrun, hone, happlied _ (by simp [Sealed.registry]) _ (.fortios _) results hrun
      hone unset_kept⟩
  · obtain ⟨results, hrun, hone⟩ : ∃ results, [setIr].mapM
        (interpretFortios Sealed.Fortios.current) = .ok results ∧ OneFact results :=
      exists_oneFact (by decide +kernel)
    exact ⟨results, hrun, hone, happlied _ (by simp [Sealed.registry]) _ (.fortios _) results hrun
      hone set_kept⟩

/-- `unset admintimeout` stops the resolution of its audit. -/
theorem timeout_unset_stops : ReadFrom timeoutSha256 unsetIr ∧
    Serves timeoutUuid5 (.untrained []) (UUID.ofNat 5) fortios7 Sealed.Fortios.current ∧
    ∃ results, [unsetIr].mapM (interpretFortios Sealed.Fortios.current) = .ok results ∧
      (∃ draft ∈ interpretedFacts results, validateResolverFact (.untrained [])
        (fortiosAudit Sealed.Fortios.current)
        Sealed.Fortios.current.knowledgePackVersionId.str (toOrm draft) =
          .error (invalid "SecurityFact null value is unsupported")) ∧
      resolveFortios Sealed.Fortios.current results =
        .error (invalid "SecurityFact null value is unsupported") := by
  obtain ⟨results, hrun, hdecided⟩ := exists_of_toOption
    (x := [unsetIr].mapM (interpretFortios Sealed.Fortios.current))
    (f := fun results : List InterpretationResult => decide ((∃ draft ∈ interpretedFacts results,
      validateResolverFact (.untrained []) (fortiosAudit Sealed.Fortios.current)
        Sealed.Fortios.current.knowledgePackVersionId.str (toOrm draft) =
          .error (invalid "SecurityFact null value is unsupported")) ∧
      resolveFortios Sealed.Fortios.current results =
        .error (invalid "SecurityFact null value is unsupported")))
    (b := true) (by decide +kernel)
  exact ⟨.fortios _, .registered (by simp [Sealed.registry]), results, hrun,
    of_decide_eq_true hdecided⟩

end ConfigAuditor.EffectiveState.Compatibility
