import ConfigAuditor.EffectiveState.Service
import ConfigAuditor.Training.ExampleAgreement
import ConfigAuditor.Training.Loadable
import ConfigAuditor.Training.Safety

/-!
# Which operation a stored fact gets

A fact does not store whether its statement set, reset or removed a value. The resolver
finds the operation of a published mapping again from the value and the definition, and
takes every removal for an assignment.
-/
namespace ConfigAuditor.EffectiveState.OperationRecovery

open Library SecurityModel Parsing KnowledgePacks ProfileResolution Policy Model Service
  Training Training.Dsl Training.Service Training.Lifecycle Training.PackHistory
  Training.Publication Training.Loadable Interpretation.Mapping Interpretation.Service
  Interpretation.Outcomes Interpretation.FactIds Interpretation.Published Interpretation.FailClosed
open Training.Safety (settled_run)
open Training.ExampleAgreement (serverDefinition serverMapping serverPack serverUuid5)

/-- The row `_to_orm` makes of a draft, as far as the resolver reads it. -/
def toOrm (draft : SecurityFactDraft) : SecurityFact :=
  { factId := draft.factId, auditId := draft.auditId, deviceId := draft.deviceId,
    snapshotId := draft.snapshotId, fieldId := draft.fieldId, value := draft.value,
    scope := draft.scope, evidenceRefs := draft.evidenceRefs, mappingId := draft.mappingId,
    mappingVersionId := draft.mappingVersionId,
    knowledgePackVersionId := draft.knowledgePackVersionId,
    dependencies := draft.dependencies.map some }

/-- What the interpreter means by a fact: a negated statement resets or removes a value
where the mapping says so. -/
def intendedOperation (behavior : ExplicitBehavior) (negated : Bool) : FactOperation :=
  match negated, behavior with
  | true, .resetToDefault => .reset
  | true, .removeValue => .remove
  | _, _ => .assign

theorem mem_lastEntries {p : MappingOperationPolicy} {entries : List MappingOperationPolicy}
    (h : p ∈ lastEntries entries) : p ∈ entries := by
  induction entries with
  | nil => cases h
  | cons q rest ih =>
    rw [lastEntries] at h
    split at h
    · exact List.mem_cons_of_mem _ (ih h)
    · rcases List.mem_cons.mp h with rfl | hrest
      · exact List.mem_cons_self
      · exact List.mem_cons_of_mem _ (ih hrest)

theorem entries_not_drawn : ∀ p ∈ policyEntries, p.mappingVersionId.version ≠ 4 := by
  decide +kernel

/-- A mapping version of the training workflow has no static policy. -/
theorem operationPolicy_drawn (db : Database) (audit : PinnedAudit) {fact : SecurityFact}
    {versionId : UUID} (hversion : fact.mappingVersionId = some versionId)
    (hdrawn : versionId.version = 4) :
    operationPolicy db audit fact = publishedOperationPolicy db audit fact := by
  have hfree : ∀ p ∈ mappingOperationPolicies, p.mappingVersionId ≠ versionId := by
    rintro p hp rfl
    exact entries_not_drawn p (mem_lastEntries hp) hdrawn
  have hstatic : getMappingOperationPolicy fact.knowledgePackVersionId fact.mappingVersionId
      fact.fieldId = .error incompatible := by
    have hnone : mappingOperationPolicies.find? (fun p =>
        p.knowledgePackVersionId == fact.knowledgePackVersionId &&
          p.mappingVersionId == versionId) = none :=
      List.find?_eq_none.mpr fun p hp => by simp [hfree p hp]
    simp only [getMappingOperationPolicy, hversion, hnone]
  have hsealed : getSealedMappingOperationPolicy fact.mappingVersionId fact.fieldId =
      .error incompatible := by
    have hnone : mappingOperationPolicies.filter (fun p =>
        some p.mappingVersionId == fact.mappingVersionId && p.fieldId == fact.fieldId) = [] :=
      List.filter_eq_nil_iff.mpr fun p hp => by simp [hversion, hfree p hp]
    simp only [getSealedMappingOperationPolicy, hnone]
    rfl
  unfold operationPolicy
  rw [hstatic, hsealed]

section Emitted

variable {uuid5 : UUID → String → UUID} {context : InterpretationContext} {pack : KnowledgePack}
  {row : MappingVersion} {ir : StructuralIR} {node : ConfigNode} {fact : SecurityFactDraft}
  {container : Option ConfigNode}

/-- A mapping of the language reads a value of its output type. -/
theorem hasValue_type {value : TypedValue} (h : HasValue (adapterOf row) ir node value) :
    value.type = row.definition.valueExtraction.outputType := by
  obtain ⟨extraction, hextract, hvalue⟩ := h
  unfold extractMapping at hextract
  simp only [adapterOf] at hextract
  obtain ⟨projected, -, hextract⟩ := except_bind_eq_ok.mp hextract
  split at hextract
  · obtain rfl := except_pure_eq_ok.mp hextract
    cases hvalue
  · obtain ⟨read, -, hextract⟩ := except_bind_eq_ok.mp hextract
    obtain rfl := except_pure_eq_ok.mp hextract
    cases hvalue
    rfl

/-- Only a reset has no value. -/
theorem emitted_spec
    (h : interpretPair uuid5 context pack (adapterOf row) ir node = .ok (.emitted fact container)) :
    fact.fieldId = row.definition.targetFieldId ∧
      fact.mappingVersionId = some row.mappingVersionId ∧
      fact.knowledgePackVersionId = pack.knowledgePackVersionId ∧
      (fact.value.type = .null ↔
        node.negated = true ∧ row.definition.negationBehavior = .resetToDefault) := by
  obtain ⟨versionId, own, value, scope, hdraft, hpositive, hnegated⟩ := interpretPair_drafted h
  have hwritten : writtenVersion (adapterOf row) = row.mappingVersionId := by
    unfold writtenVersion
    split <;> rfl
  cases hneg : node.negated with
  | false =>
    obtain ⟨rfl, hvalue⟩ := hpositive hneg
    refine ⟨hdraft.field, hdraft.version, hdraft.packVersion, ?_⟩
    rw [hdraft.value, hasValue_type hvalue]
    simp [outputType_ne_null]
  | true =>
    obtain ⟨rfl, -, hstates⟩ := hnegated hneg
    refine ⟨hdraft.field, by rw [hdraft.version, hwritten], hdraft.packVersion, ?_⟩
    have hstated := hstates.stated
    rw [hdraft.value]
    cases hbehavior : row.definition.negationBehavior with
    | unsupported | emitValue | unknown =>
      simp [NegatedValue, adapterOf, negationBehaviorOf, hbehavior] at hstated
    | resetToDefault =>
      simp only [NegatedValue, adapterOf, negationBehaviorOf, hbehavior] at hstated
      obtain ⟨-, -, rfl⟩ := hstated
      simp
    | removeValue =>
      simp only [NegatedValue, adapterOf, negationBehaviorOf, hbehavior] at hstated
      rw [hasValue_type hstated.1]
      simp [outputType_ne_null]
    | invertBoolean =>
      simp only [NegatedValue, adapterOf, negationBehaviorOf, hbehavior] at hstated
      obtain ⟨read, -, -, rfl⟩ := hstated
      simp

end Emitted

theorem find?_unique {ρ : Type} {p : ρ → Bool} {rows : List ρ} {r : ρ} (hr : r ∈ rows)
    (hp : p r = true) (hone : ∀ other ∈ rows, p other = true → other = r) :
    rows.find? p = some r := by
  obtain ⟨found, hfound⟩ := Option.isSome_iff_exists.mp (List.find?_isSome.mpr ⟨r, hr, hp⟩)
  rw [hfound, hone found (List.mem_of_find?_eq_some hfound) (List.find?_some hfound)]

section Loaded

variable {uuid5 : UUID → String → UUID} {sha256 : String → String}
  {manifestJson : List String → String} {db : Database} {version : KnowledgePackVersionRecord}
  {profileVersionId : String} {profile : ProfileManifest} {pack : KnowledgePack}
  {row : MappingVersion} {mapping : DeclarativeMapping}

/-- The mappings of a loaded pack are those of its baseline and of its version. -/
theorem loadVersion_mappings (h : loadVersion uuid5 db version.organizationId version
      profileVersionId (some profile) = .ok pack) :
    pack.knowledgePackVersionId = version.knowledgePackVersionId ∧
      ∃ baseline, baselineKnowledgePack uuid5 profile profileVersionId = .ok baseline ∧
        ∀ m ∈ pack.mappings, m ∈ baseline.mappings ∨
          ∃ row ∈ versionRows db version.organizationId version, m = adapterOf row := by
  unfold loadVersion at h
  split at h
  · rename_i record found hrecord hfound
    obtain rfl := Option.some.inj hfound
    split at h
    · cases h
    dsimp only at h
    split at h
    · cases h
    obtain ⟨built, hbuilt, h⟩ := except_bind_eq_ok.mp h
    obtain ⟨baseline, hbaseline, hbuilt⟩ := except_bind_eq_ok.mp hbuilt
    obtain ⟨mappings, hmappings, hbuilt⟩ := except_bind_eq_ok.mp hbuilt
    have hpack : built = pack := by
      unfold reportInvalid at h
      split at h
      · rename_i result hvalid
        rw [← (validateKnowledgePack_ok hvalid).1]
        exact except_pure_eq_ok.mp h
      · cases h
    obtain rfl := except_pure_eq_ok.mp hbuilt
    subst hpack
    refine ⟨rfl, baseline, hbaseline, fun m hm => ?_⟩
    rcases List.mem_append.mp hm with hold | hnew
    · exact Or.inl hold
    · obtain ⟨row, hrow, htraining⟩ := mapM_exists_input hmappings hnew
      obtain ⟨_, -, htraining⟩ := except_bind_eq_ok.mp htraining
      exact Or.inr ⟨row, (mem_sortedBy _).mp hrow, (except_pure_eq_ok.mp htraining).symm⟩
  · cases h

/-- The mapping of a loaded pack under the id of a row is the one made from the row. -/
theorem mapping_of_row (hinv : Inv db) (h : loadVersion uuid5 db version.organizationId version
      profileVersionId (some profile) = .ok pack)
    (hrow : row ∈ db.mappings) (hmem : mapping ∈ pack.mappings)
    (hid : mapping.mappingVersionId = row.mappingVersionId) : mapping = adapterOf row := by
  obtain ⟨-, baseline, hbaseline, hmappings⟩ := loadVersion_mappings h
  obtain ⟨_, hbaseline', -, hsealed⟩ := baseline_spec uuid5 profile profileVersionId
  obtain rfl := Except.ok.inj (hbaseline.symm.trans hbaseline')
  rcases hmappings mapping hmem with hold | ⟨other, hother, rfl⟩
  · exact absurd (hinv.drawn row hrow).1 (hid ▸ (hsealed mapping hold).2)
  · rw [eq_of_versionId hinv.keyed.versions (List.mem_filter.mp hother).1 hrow hid]

theorem packVersions_step (event : Event) (h : version ∈ db.packVersions) :
    version ∈ (step uuid5 sha256 manifestJson db event).packVersions := by
  unfold step
  split
  · rename_i db' htransact
    by_cases hpublish : ∃ env user versionId packId packVersionId,
        event = .publish env user versionId packId packVersionId
    · obtain ⟨env, user, versionId, packId, packVersionId, rfl⟩ := hpublish
      obtain ⟨mapping, pack, hpub⟩ := publishMapping_spec htransact
      rw [hpub.packVersions]
      exact List.mem_append_left _ h
    · rw [(transact_packs htransact fun env user versionId packId packVersionId heq =>
        hpublish ⟨env, user, versionId, packId, packVersionId, heq⟩).2]
      exact h
  · exact h

/-- Published versions stay. -/
theorem packVersions_run (later : List Event) (h : version ∈ db.packVersions) :
    version ∈ (run uuid5 sha256 manifestJson db later).packVersions := by
  induction later generalizing db with
  | nil => exact h
  | cons event later ih => exact ih (packVersions_step event h)

/-- After any later transactions a listed row is still issued, with the definition it had. -/
theorem listed_run (hinv : Inv db) (later : List Event)
    (hdrawn : ∀ event ∈ later, ∀ id ∈ drawnIds event, id.version = 4)
    (hversion : version ∈ db.packVersions) (hrow : row ∈ db.mappings)
    (hlisted : row.mappingVersionId ∈ version.mappingVersionIds) :
    ∃ row' ∈ (run uuid5 sha256 manifestJson db later).mappings,
      row'.mappingVersionId = row.mappingVersionId ∧
        row'.organizationId = version.organizationId ∧ isIssued row'.status = true ∧
        row'.definition = row.definition := by
  have hinv' : Inv (run uuid5 sha256 manifestJson db later) := inv_run hinv later hdrawn
  obtain ⟨record, hok⟩ := hinv.versions version hversion
  obtain ⟨record', hok'⟩ := hinv'.versions version (packVersions_run later hversion)
  obtain ⟨row', hrow', hid, horganization, hissued, -⟩ := hok'.issued _ hlisted
  have hsettled : isSettled row.status = true := by
    obtain ⟨other, hother, hsame, -, hissued, -⟩ := hok.issued _ hlisted
    rw [eq_of_versionId hinv.keyed.versions hother hrow hsame] at hissued
    cases hstatus : row.status <;> simp [hstatus, isIssued, isSettled] at hissued ⊢
  have hkeeps : ∃ kept ∈ (run uuid5 sha256 manifestJson db later).mappings,
      kept.mappingVersionId = row.mappingVersionId ∧ kept.definition = row.definition ∧
        isSettled kept.status = true := settled_run hinv.keyed later hrow hsettled
  obtain ⟨kept, hkept, hkeptId, hdefinition, -⟩ := hkeeps
  rw [eq_of_versionId hinv'.keyed.versions hkept hrow' (hkeptId.trans hid.symm)] at hdefinition
  exact ⟨row', hrow', hid, horganization, hissued, hdefinition⟩

/-- The operation a fact of a published mapping gets, after any later transactions. -/
theorem operationPolicy_listed (hinv : Inv db) (later : List Event)
    (hdrawn : ∀ event ∈ later, ∀ id ∈ drawnIds event, id.version = 4)
    (hversion : version ∈ db.packVersions) (hrow : row ∈ db.mappings)
    (hlisted : row.mappingVersionId ∈ version.mappingVersionIds) {fact : SecurityFact}
    (hpack : fact.knowledgePackVersionId = version.knowledgePackVersionId)
    (hmapping : fact.mappingVersionId = some row.mappingVersionId)
    (hfield : fact.fieldId = row.definition.targetFieldId) {audit : PinnedAudit}
    (horganization : audit.organizationId = version.organizationId)
    (hpinned : audit.knowledgePackVersionId = some version.knowledgePackVersionId.str) :
    operationPolicy (run uuid5 sha256 manifestJson db later) audit fact =
      .ok ⟨version.knowledgePackVersionId, row.mappingVersionId, row.definition.targetFieldId,
        definedOperation row.definition fact⟩ := by
  have hinv' : Inv (run uuid5 sha256 manifestJson db later) := inv_run hinv later hdrawn
  obtain ⟨row', hrow', hid, howner, hissued, hdefinition⟩ : ∃ row' ∈ (run uuid5 sha256
      manifestJson db later).mappings, _ := listed_run hinv later hdrawn hversion hrow hlisted
  have hfound : (run uuid5 sha256 manifestJson db later).packVersions.find? (fun pack =>
      pack.knowledgePackVersionId == fact.knowledgePackVersionId &&
        pack.organizationId == audit.organizationId) = some version := by
    refine find?_unique (packVersions_run later hversion) ?_ fun other hother h => ?_
    · simp [hpack, horganization]
    · simp only [Bool.and_eq_true, beq_iff_eq] at h
      exact Table.eq_of_key hinv'.versionIds hother (packVersions_run later hversion)
        (h.1.trans hpack)
  have hmapped : (run uuid5 sha256 manifestJson db later).mappings.find? (fun mapping =>
      some mapping.mappingVersionId == fact.mappingVersionId &&
        mapping.organizationId == audit.organizationId) = some row' := by
    refine find?_unique hrow' ?_ fun other hother h => ?_
    · simp [hmapping, hid, howner, horganization]
    · simp only [Bool.and_eq_true, beq_iff_eq, hmapping, Option.some.injEq] at h
      exact eq_of_versionId hinv'.keyed.versions hother hrow' (h.1.trans hid.symm)
  have hexplains : explains version row' fact = true := by
    unfold isIssued at hissued
    simp [explains, hid, hlisted, hissued, hdefinition, hfield]
  rw [operationPolicy_drawn _ _ hmapping (hinv.drawn row hrow).1]
  simp only [publishedOperationPolicy, except_bind_eq_ok, raiseIf_eq_ok]
  refine ⟨(), by simp [hmapping, hpack, hpinned], ?_⟩
  simp only [hfound, hmapped, hexplains, if_true, hdefinition, hid]
  rewrite [hpack, hfield]
  rfl

end Loaded

/-- A mapping that does not reset assigns. -/
theorem definedOperation_assign {definition : MappingDefinition} {fact : SecurityFact}
    (h : definition.negationBehavior ≠ .resetToDefault) :
    definedOperation definition fact = .assign := by
  simp [definedOperation, h]

/-- The definition gives back the intended operation, except for a removal. -/
theorem definedOperation_iff {definition : MappingDefinition} {fact : SecurityFact}
    {negated : Bool} (hnull : fact.value.type = .null ↔
      negated = true ∧ definition.negationBehavior = .resetToDefault) :
    definedOperation definition fact = intendedOperation definition.negationBehavior negated ↔
      ¬ (negated = true ∧ definition.negationBehavior = .removeValue) := by
  cases negated with
  | false =>
    have hvalue : fact.value.type ≠ .null := fun h => by simpa using hnull.mp h
    simp [definedOperation, intendedOperation, hvalue]
  | true =>
    cases hbehavior : definition.negationBehavior <;>
      simp [definedOperation, intendedOperation, hbehavior, hnull]

/-- The resolver finds the operation that the interpreter meant by a fact of a published
mapping, whatever was published since, unless the fact removes a value. -/
theorem operations_recovered_iff (uuid5 : UUID → String → UUID) (sha256 : String → String)
    (manifestJson : List String → String) (blocks : List ReviewBlock) (events later : List Event)
    (hdrawn : ∀ event ∈ events ++ later, ∀ id ∈ drawnIds event, id.version = 4)
    {version : KnowledgePackVersionRecord} {row : MappingVersion}
    (hversion : version ∈
      (run uuid5 sha256 manifestJson (.untrained blocks) events).packVersions)
    (hrow : row ∈ (run uuid5 sha256 manifestJson (.untrained blocks) events).mappings)
    (hlisted : row.mappingVersionId ∈ version.mappingVersionIds)
    {profileVersionId : String} {profile : ProfileManifest} {pack : KnowledgePack}
    (hload : loadVersion uuid5 (run uuid5 sha256 manifestJson (.untrained blocks) events)
      version.organizationId version profileVersionId (some profile) = .ok pack)
    {context : InterpretationContext} {ir : StructuralIR} {node : ConfigNode}
    {mapping : DeclarativeMapping} (hpair : (node, mapping) ∈ pairs ir pack)
    (hmapping : mapping.mappingVersionId = row.mappingVersionId) {fact : SecurityFactDraft}
    {container : Option ConfigNode}
    (hemitted : interpretPair uuid5 context pack mapping ir node = .ok (.emitted fact container))
    {audit : PinnedAudit} (horganization : audit.organizationId = version.organizationId)
    (hpinned : audit.knowledgePackVersionId = some pack.knowledgePackVersionId.str) :
    (∃ policy, operationPolicy
        (run uuid5 sha256 manifestJson (.untrained blocks) (events ++ later)) audit (toOrm fact) =
          .ok policy ∧
      policy.operation = intendedOperation row.definition.negationBehavior node.negated) ↔
    ¬ (node.negated = true ∧ row.definition.negationBehavior = .removeValue) := by
  have hinv : Inv (run uuid5 sha256 manifestJson (.untrained blocks) events) :=
    inv_run (inv_untrained blocks) events fun event hevent =>
      hdrawn event (List.mem_append_left _ hevent)
  obtain ⟨hpackVersion, -⟩ := loadVersion_mappings hload
  obtain rfl := mapping_of_row hinv hload hrow (mem_pairs.mp hpair).2 hmapping
  obtain ⟨hfield, hversionId, hfactPack, hnull⟩ := emitted_spec hemitted
  have hpolicy : operationPolicy (run uuid5 sha256 manifestJson (.untrained blocks)
      (events ++ later)) audit (toOrm fact) =
        .ok ⟨version.knowledgePackVersionId, row.mappingVersionId, row.definition.targetFieldId,
          definedOperation row.definition (toOrm fact)⟩ := by
    have hrun : run uuid5 sha256 manifestJson (.untrained blocks) (events ++ later) =
        run uuid5 sha256 manifestJson (run uuid5 sha256 manifestJson (.untrained blocks) events)
          later := Runs.run_append _ _ _ _
    rw [hrun]
    exact operationPolicy_listed hinv later (fun event hevent =>
      hdrawn event (List.mem_append_right _ hevent)) hversion hrow hlisted
      (hfactPack.trans hpackVersion) hversionId hfield horganization (hpackVersion ▸ hpinned)
  have hdefined : definedOperation row.definition (toOrm fact) =
      intendedOperation row.definition.negationBehavior node.negated ↔
        ¬ (node.negated = true ∧ row.definition.negationBehavior = .removeValue) :=
    definedOperation_iff hnull
  rw [← hdefined]
  simp only [hpolicy, Except.ok.injEq, exists_eq_left']

/-- What a mapping makes of a node depends on the id of its pack version only. -/
theorem interpretPair_pack {uuid5 : UUID → String → UUID} {context : InterpretationContext}
    {pack pack' : KnowledgePack} (h : pack.knowledgePackVersionId = pack'.knowledgePackVersionId)
    (mapping : DeclarativeMapping) (ir : StructuralIR) (node : ConfigNode) :
    interpretPair uuid5 context pack mapping ir node =
      interpretPair uuid5 context pack' mapping ir node := by
  simp only [interpretPair, buildNegatedFact, interpretPositive, buildFact, draftFact, h]

def serverSha256 : String → String := tabulated (acmeDigests serverDefinition
  "6b1efa669eff732f7252081c074408ba6c189c1ff1ee9ce4a27a76198facea71"
  "1bdf379e7b97d75aa5d20ceee05066c22abf5a1c8d8031c7786a77c522629518"
  "782d85858b0c4f32a5270254509286be4d4347567e9f6b454a4ab82c5dd01d85"
  "d9581fdc16e62cafb8e0e20de5c3b92f975235b7f8338abc2b045c50b1f53bd6")

def serverAudit : PinnedAudit :=
  { auditId := exampleContext.auditId, organizationId := acmeAdmin.organizationId
    deviceId := exampleContext.deviceId, snapshotId := exampleContext.snapshotId
    resolutionStatus := some "resolved", profileVersionId := some "acme@1.0.0"
    deviceProfileVersionId := some "acme@1.0.0"
    knowledgePackVersionId := some (drawnId 7).str }

def additionIr : StructuralIR := IndentationCli.parse
  (tabulated [("00000000-0000-0000-0000-000000000001\x1findentation_cli.v1\x1f1\x1f1\x1f1\x1f" ++
      "root\x1fntp server 192.0.2.1",
    "16fe0ae409ee332a76441a47494582f8a4515b554f800c2e6861b4690a4f1a9f")])
  { content := "ntp server 192.0.2.1\n", source := exampleSource }

/-- The training store after the publication. -/
def serverStore : Database :=
  run serverUuid5 serverSha256 acmeManifests (.untrained []) (acmePublication serverDefinition)

theorem server_publishable : Publishable (.untrained []) (acmeEnvironment 0) acmeAdmin
    (acmeInput serverDefinition) (drawnId 5) :=
  untrained_publishable rfl (by decide +kernel) (by decide +kernel) (by decide +kernel)
    (by decide +kernel)

/-- The definition is published, and its pack loads. -/
theorem server_published : ∃ version ∈ serverStore.packVersions, ∃ row ∈ serverStore.mappings,
    row.definition = serverDefinition ∧ row.mappingVersionId = drawnId 3 ∧
      row.mappingVersionId ∈ version.mappingVersionIds ∧
      version.organizationId = acmeAdmin.organizationId ∧
      version.knowledgePackVersionId = drawnId 7 ∧
      ∃ pack, loadVersion serverUuid5 serverStore version.organizationId version "acme@1.0.0"
        (some acmeProfile) = .ok pack ∧ serverMapping serverDefinition ∈ pack.mappings := by
  obtain ⟨results, hrun, -⟩ := run_publication serverUuid5 serverSha256 acmeManifests
    server_publishable acme_pack untrained_free
  have hinv : Inv serverStore := inv_run (inv_untrained []) _ (by decide +kernel)
  have hstore : serverStore = published (.untrained [])
      { Database.untrained [] with packs := [acmePack] } (acmeEnvironment 0) acmeAdmin
      (acmeInput serverDefinition) (drawnId 5) (drawnId 7) acmePack.knowledgePackId results := hrun
  let row := publishedRow (acmeEnvironment 0) acmeAdmin (acmeInput serverDefinition) results
    (drawnId 7)
  let version := newPackVersion (.untrained []) acmeAdmin
    (approvedRow (acmeEnvironment 0) acmeAdmin (acmeInput serverDefinition) results) (drawnId 7)
    acmePack.knowledgePackId 0
  have hrow : row ∈ serverStore.mappings := by
    rw [hstore]
    exact List.mem_singleton_self _
  have hversion : version ∈ serverStore.packVersions := by
    rw [hstore]
    exact List.mem_singleton_self _
  have hlisted : row.mappingVersionId ∈ version.mappingVersionIds :=
    mem_newPackVersion.mpr (Or.inr rfl)
  obtain ⟨record, hok⟩ := hinv.versions version hversion
  have hrows : ∀ other ∈ versionRows serverStore version.organizationId version, other = row := by
    intro other hother
    have hmem := ((mem_versionRows hok hinv.keyed).mp hother).1
    rw [hstore] at hmem
    exact List.mem_singleton.mp hmem
  have hmem : row ∈ versionRows serverStore version.organizationId version :=
    (mem_versionRows hok hinv.keyed).mpr ⟨hrow, hlisted⟩
  obtain ⟨baseline, pack, -, hmappings, hload, -⟩ := loadVersion_spec serverUuid5 hinv hversion
    ⟨row, hmem, List.mem_singleton_self _⟩ acmeProfile
  refine ⟨version, hversion, row, hrow, rfl, rfl, hlisted, rfl, rfl, pack,
    hload fun other hother => ?_, ?_⟩
  · rw [hrows other hother]
    show commandsFit serverDefinition = true
    decide +kernel
  · rw [hmappings]
    exact List.mem_append_right _ (List.mem_map.mpr ⟨row, (mem_sortedBy _).mpr hmem, rfl⟩)

/-- A statement on which the mapping gives a fact, whatever else its pack holds. -/
theorem server_emits {ir : StructuralIR} {negated : Bool}
    (hdecided : ∃ node ∈ statements ir, node.negated = negated ∧
      ((attemptPair serverUuid5 exampleContext ir (serverPack serverDefinition)
        (node, serverMapping serverDefinition)).toOption.bind (·.fact?)).isSome = true)
    {pack : KnowledgePack} (hpack : pack.knowledgePackVersionId = drawnId 7) :
    ∃ node ∈ statements ir, node.negated = negated ∧ ∃ fact container,
      interpretPair serverUuid5 exampleContext pack (serverMapping serverDefinition) ir node =
        .ok (.emitted fact container) := by
  obtain ⟨node, hnode, hnegated, hsome⟩ := hdecided
  obtain ⟨fact, hfact⟩ := Option.isSome_iff_exists.mp hsome
  obtain ⟨attempt, hattempt, hfact⟩ := Option.bind_eq_some_iff.mp hfact
  obtain ⟨container, houtcome⟩ := attemptPair_fact (toOption_eq_some.mp hattempt) hfact
  refine ⟨node, hnode, hnegated, fact, container, ?_⟩
  have hsame : interpretPair serverUuid5 exampleContext pack _ ir node =
      interpretPair serverUuid5 exampleContext (serverPack serverDefinition) _ ir node :=
    interpretPair_pack hpack (serverMapping serverDefinition) ir node
  rw [hsame]
  exact houtcome

theorem server_removed : ∃ node ∈ statements removalIr, node.negated = true ∧
    ((attemptPair serverUuid5 exampleContext removalIr (serverPack serverDefinition)
      (node, serverMapping serverDefinition)).toOption.bind (·.fact?)).isSome = true := by
  decide +kernel

theorem server_added : ∃ node ∈ statements additionIr, node.negated = false ∧
    ((attemptPair serverUuid5 exampleContext additionIr (serverPack serverDefinition)
      (node, serverMapping serverDefinition)).toOption.bind (·.fact?)).isSome = true := by
  decide +kernel

/-- A server is added, and one more mapping is drafted before the facts are resolved. -/
theorem operations_recovered_addition :
    ∃ pack, ∃ node ∈ statements additionIr, node.negated = false ∧
      serverMapping serverDefinition ∈ pack.mappings ∧ ∃ fact container,
        interpretPair serverUuid5 exampleContext pack (serverMapping serverDefinition) additionIr
            node = .ok (.emitted fact container) ∧
        ∃ policy, operationPolicy (run serverUuid5 serverSha256 acmeManifests (.untrained [])
            (acmePublication serverDefinition ++
              [.create acmeAdmin (presenceInput ntpDefinition (drawnId 8) (drawnId 9))]))
            serverAudit (toOrm fact) = .ok policy ∧
          policy.operation = .assign := by
  obtain ⟨version, hversion, row, hrow, hdefinition, hid, hlisted, horganization, hpackId, pack,
    hload, hmapping⟩ := server_published
  have hpackVersion : pack.knowledgePackVersionId = drawnId 7 :=
    (loadVersion_mappings hload).1.trans hpackId
  obtain ⟨node, hnode, hnegated, fact, container, hemitted⟩ :=
    server_emits server_added hpackVersion
  refine ⟨pack, node, hnode, hnegated, hmapping, fact, container, hemitted, ?_⟩
  have hpinned : serverAudit.knowledgePackVersionId = some pack.knowledgePackVersionId.str := by
    rw [hpackVersion]
    rfl
  have howner : serverAudit.organizationId = version.organizationId := horganization.symm
  have hpolicy := (operations_recovered_iff serverUuid5 serverSha256 acmeManifests []
    (acmePublication serverDefinition)
    [.create acmeAdmin (presenceInput ntpDefinition (drawnId 8) (drawnId 9))] (by decide +kernel)
    hversion hrow hlisted hload (mem_pairs.mpr ⟨hnode, hmapping⟩) hid.symm hemitted howner
    hpinned).mpr (by simp [hnegated])
  rw [hnegated] at hpolicy
  exact hpolicy

/-- `no ntp server 192.0.2.1` is stored as a removal and resolved as an assignment. -/
theorem removal_becomes_assignment :
    ∃ version ∈ serverStore.packVersions, ∃ row ∈ serverStore.mappings,
      row.definition = serverDefinition ∧ row.mappingVersionId ∈ version.mappingVersionIds ∧
      ∃ pack, loadVersion serverUuid5 serverStore version.organizationId version "acme@1.0.0"
        (some acmeProfile) = .ok pack ∧
      ∃ node, (node, serverMapping serverDefinition) ∈ pairs removalIr pack ∧
        (serverMapping serverDefinition).mappingVersionId = row.mappingVersionId ∧ ∃ fact container,
          interpretPair serverUuid5 exampleContext pack (serverMapping serverDefinition) removalIr
              node = .ok (.emitted fact container) ∧
          serverAudit.organizationId = version.organizationId ∧
          serverAudit.knowledgePackVersionId = some pack.knowledgePackVersionId.str ∧
          intendedOperation row.definition.negationBehavior node.negated = .remove ∧
          ∃ policy, operationPolicy serverStore serverAudit (toOrm fact) = .ok policy ∧
            policy.operation = .assign := by
  obtain ⟨version, hversion, row, hrow, hdefinition, hid, hlisted, horganization, hpackId, pack,
    hload, hmapping⟩ := server_published
  have hinv : Inv serverStore := inv_run (inv_untrained []) _ (by decide +kernel)
  have hpackVersion : pack.knowledgePackVersionId = drawnId 7 :=
    (loadVersion_mappings hload).1.trans hpackId
  obtain ⟨node, hnode, hnegated, fact, container, hemitted⟩ :=
    server_emits server_removed hpackVersion
  have hrowMapping : serverMapping serverDefinition = adapterOf row :=
    mapping_of_row hinv hload hrow hmapping hid.symm
  obtain ⟨hfield, hversionId, hfactPack, -⟩ := emitted_spec (hrowMapping ▸ hemitted)
  have hpinned : serverAudit.knowledgePackVersionId = some version.knowledgePackVersionId.str := by
    rw [hpackId]
    rfl
  have hpolicy : operationPolicy (run serverUuid5 serverSha256 acmeManifests serverStore [])
      serverAudit (toOrm fact) =
        .ok ⟨version.knowledgePackVersionId, row.mappingVersionId, row.definition.targetFieldId,
          definedOperation row.definition (toOrm fact)⟩ :=
    operationPolicy_listed hinv [] (by simp) hversion hrow hlisted
      (hfactPack.trans (hpackVersion.trans hpackId.symm)) hversionId hfield horganization.symm
      hpinned
  rw [run, Runs.run_nil] at hpolicy
  refine ⟨version, hversion, row, hrow, hdefinition, hlisted, pack, hload, node,
    mem_pairs.mpr ⟨hnode, hmapping⟩, hid.symm, fact, container, hemitted, horganization.symm,
    ?_, ?_, _, hpolicy, ?_⟩
  · rw [hpackVersion]
    rfl
  · rw [hdefinition, hnegated]
    rfl
  · rw [hdefinition]
    exact definedOperation_assign (by decide)

end ConfigAuditor.EffectiveState.OperationRecovery
