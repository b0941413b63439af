import ConfigAuditor.Training.PackHistory
import ConfigAuditor.Training.Publication

/-!
# Which published packs load

The mapping language admits command tokens that the pack validator refuses. A published
version loads for each of its profiles unless one of its mappings has such a token.
-/
namespace ConfigAuditor.Training.Loadable

open Library SecurityModel KnowledgePacks ProfileResolution Dsl Service Lifecycle PackHistory
  Publication Interpretation.Service Interpretation.Published

/-- The commands of a definition match the pattern of the pack validator. -/
def commandsFit (definition : MappingDefinition) : Bool :=
  isCommand definition.structuralMatch.command &&
    definition.structuralMatch.parentCommand.all isCommand

theorem safe_profiles (definition : MappingDefinition) :
    definition.profileApplicability.profileVersionIds ≠ [] ∧
      ∀ profile ∈ definition.profileApplicability.profileVersionIds, ',' ∉ profile.toList := by
  have h := definition.isValid
  simp only [MappingFields.valid, ProfileApplicability.safeProfiles, Bool.and_eq_true,
    decide_eq_true_eq, List.all_eq_true] at h
  obtain ⟨⟨⟨⟨⟨⟨⟨⟨⟨⟨⟨⟨-, hlength⟩, -⟩, -⟩, hsafe⟩, -⟩, -⟩, -⟩, -⟩, -⟩, -⟩, -⟩, -⟩ := h
  refine ⟨List.ne_nil_of_length_pos (by omega), fun profile hprofile hcomma => ?_⟩
  have hall := hsafe profile hprofile
  simp only [safe, Bool.and_eq_true, List.all_eq_true] at hall
  exact absurd (hall.2 ',' hcomma) (by decide)

/-- Packs of one key are for the same profiles. -/
theorem profiles_of_packKey {a b : MappingVersion}
    (h : packKey (profilesOf a) = packKey (profilesOf b)) (profile : String) :
    profile ∈ profilesOf a ↔ profile ∈ profilesOf b := by
  have hsafe : ∀ row : MappingVersion, sortedBy id (profilesOf row) ≠ [] ∧
      ∀ part ∈ sortedBy id (profilesOf row), ',' ∉ part.toList := by
    intro row
    obtain ⟨hne, hfree⟩ := safe_profiles row.definition
    refine ⟨fun hnil => hne ((sortedBy_eq_nil id _).mp hnil), fun part hpart => ?_⟩
    exact hfree part ((mem_sortedBy id).mp hpart)
  have hjoined : Text.join "," (sortedBy id (profilesOf a)) =
      Text.join "," (sortedBy id (profilesOf b)) := by
    unfold packKey at h
    exact String.toList_inj.mp (List.append_cancel_left (by
      simpa only [String.toList_append] using congrArg String.toList h))
  have hsame : sortedBy id (profilesOf a) = sortedBy id (profilesOf b) :=
    Text.join_injective (hsafe a).1 (hsafe b).1 (hsafe a).2 (hsafe b).2 hjoined
  rw [← mem_sortedBy id, hsame, mem_sortedBy]

def strategies : List ScopeStrategy :=
  [.device, .currentScope, .parentScope, .managementPlane, .vtyRange, .interface,
    .interfaceRange, .vrf, .securityZone, .global]

theorem strategies_resolve : ∀ field ∈ fields, ∀ strategy ∈ strategies,
    strategy.text ∈ field.allowedScopeTypes →
      scopeResolverType strategy.text = some strategy.text := by
  decide +kernel

/-- The scope strategy of an accepted definition is the name of a scope resolver. -/
theorem strategy_resolves (definition : MappingDefinition) :
    scopeResolverType definition.scopeResolution.strategy.text =
      some definition.scopeResolution.strategy.text := by
  obtain ⟨field, hfield, -, hscope⟩ := definition.field_spec
  refine strategies_resolve field (fieldRegistry_fieldId hfield).2 _ ?_ hscope
  cases definition.scopeResolution.strategy <;> decide

theorem int_ne_zero {id : UUID} (h : id.version = 4) : (id.int == 0) = false := by
  refine beq_eq_false_iff_ne.mpr fun hzero => ?_
  simp [UUID.version, hzero] at h

/-- The only check a mapping of the language can fail is the one on its commands. -/
theorem admissible_iff {row : MappingVersion} (hid : row.mappingVersionId.version = 4)
    (hmapping : row.mappingId.version = 4) :
    Admissible (adapterOf row) ↔ commandsFit row.definition = true := by
  obtain ⟨field, hfield, htype, hscope⟩ := row.definition.field_spec
  have hresolver := strategy_resolves row.definition
  have hmatcher : validateMatcher (adapterOf row).matcher = .ok () ↔
      commandsFit row.definition = true := by
    simp only [validateMatcher, except_bind_eq_ok, raiseIf_eq_ok, adapterOf, commandsFit,
      Bool.and_eq_true, Bool.not_eq_false']
    constructor
    · rintro ⟨_, hcommand, _, hparent, -⟩
      exact ⟨hcommand, hparent⟩
    · rintro ⟨hcommand, hparent⟩
      exact ⟨(), hcommand, (), hparent, (), by simp, (), rfl, (), rfl, by simp⟩
  rw [← hmatcher]
  unfold Admissible validateMapping
  simp only [except_bind_eq_ok, raiseIf_eq_ok]
  constructor
  · rintro ⟨_, -, _, -, _, -, h⟩
    have hfield' : fieldRegistry (adapterOf row).fieldId = some field := hfield
    have hresolver' : scopeResolverType (adapterOf row).scopeResolver =
      some row.definition.scopeResolution.strategy.text := hresolver
    simp only [hfield', hresolver', except_bind_eq_ok, raiseIf_eq_ok] at h
    obtain ⟨_, -, _, -, _, -, h⟩ := h
    exact h
  · intro h
    have hfield' : fieldRegistry (adapterOf row).fieldId = some field := hfield
    have hresolver' : scopeResolverType (adapterOf row).scopeResolver =
      some row.definition.scopeResolution.strategy.text := hresolver
    simp only [hfield', hresolver', except_bind_eq_ok, raiseIf_eq_ok]
    refine ⟨(), ?_, (), rfl, (), rfl, (), rfl, (), ?_, (), ?_, h⟩
    · exact Bool.or_eq_false_iff.mpr ⟨int_ne_zero hmapping, int_ne_zero hid⟩
    · simpa [adapterOf] using htype
    · simpa using hscope

/-- The sealed ids are not drawn. -/
theorem sealed_ids : ∀ pack ∈ Sealed.active, ∀ m ∈ pack.mappings,
    m.mappingId.version ≠ 4 ∧ m.mappingVersionId.version ≠ 4 := by
  decide +kernel

theorem sealed_load : ∀ profile ∈ manifests,
    (loadValidatedKnowledgePack profile.profileVersionId).isOk = true := by
  decide +kernel

/-- Every profile has a baseline with admissible mappings, whose ids are not drawn. -/
theorem baseline_spec (uuid5 : UUID → String → UUID) (profile : ProfileManifest)
    (profileVersionId : String) :
    ∃ baseline, baselineKnowledgePack uuid5 profile profileVersionId = .ok baseline ∧
      validateMappings [] [] baseline.mappings = .ok () ∧ ∀ m ∈ baseline.mappings,
        m.mappingId.version ≠ 4 ∧ m.mappingVersionId.version ≠ 4 := by
  unfold baselineKnowledgePack
  split
  · rename_i hregistered
    obtain ⟨manifest, hmanifest⟩ := Option.isSome_iff_exists.mp hregistered
    have hname := List.find?_some hmanifest
    obtain ⟨pack, hpack⟩ := exists_of_isOk (sealed_load manifest (List.mem_of_find?_eq_some hmanifest))
    rw [beq_iff_eq.mp hname] at hpack
    refine ⟨pack, hpack, ?_⟩
    unfold loadValidatedKnowledgePack at hpack
    split at hpack
    · rename_i found sealed hfound hactive
      split at hpack
      · cases hpack
      · unfold reportInvalid at hpack
        split at hpack
        · rename_i result hvalid
          obtain rfl := Except.ok.inj hpack
          unfold validateKnowledgePack at hvalid
          simp only [except_bind_eq_ok, except_pure_eq_ok] at hvalid
          obtain ⟨_, -, _, -, _, -, _, hmappings, rfl⟩ := hvalid
          exact ⟨hmappings, sealed_ids sealed (List.mem_of_find?_eq_some hactive)⟩
        · cases hpack
    · cases hpack
  · exact ⟨_, rfl, rfl, by simp [runtimeBaselineKnowledgePack]⟩

section Versions

variable {db : Database} {version : KnowledgePackVersionRecord} {record : KnowledgePackRecord}

theorem mem_versionRows (hok : VersionOk db version record) (hkeyed : Keyed db)
    {row : MappingVersion} :
    row ∈ versionRows db version.organizationId version ↔
      row ∈ db.mappings ∧ row.mappingVersionId ∈ version.mappingVersionIds := by
  simp only [versionRows, List.mem_filter, Bool.and_eq_true, List.contains_iff_mem, beq_iff_eq]
  constructor
  · rintro ⟨hrow, hid, -⟩
    exact ⟨hrow, hid⟩
  · rintro ⟨hrow, hid⟩
    obtain ⟨other, hother, hsame, horganization, -⟩ := hok.issued _ hid
    obtain rfl := eq_of_versionId hkeyed.versions hother hrow hsame
    exact ⟨hrow, hid, horganization⟩

theorem versionRows_spec (hok : VersionOk db version record) (hkeyed : Keyed db)
    {row : MappingVersion} (hrow : row ∈ versionRows db version.organizationId version) :
    row.organizationId = version.organizationId ∧ isIssued row.status = true ∧
      packKey (profilesOf row) = record.packKey := by
  obtain ⟨hmem, hid⟩ := (mem_versionRows hok hkeyed).mp hrow
  obtain ⟨other, hother, hsame, hrest⟩ := hok.issued _ hid
  rwa [eq_of_versionId hkeyed.versions hother hmem hsame] at hrest

/-- A version record finds a row for each of its ids. -/
theorem versionRows_perm (hok : VersionOk db version record) (hkeyed : Keyed db) :
    ((versionRows db version.organizationId version).map (·.mappingVersionId)).Perm
      version.mappingVersionIds := by
  have hnodup : ((versionRows db version.organizationId version).map
      (·.mappingVersionId)).Nodup :=
    (List.filter_sublist.map _).nodup hkeyed.versions
  refine (List.perm_ext_iff_of_nodup hnodup hok.nodup).mpr fun id => ?_
  rw [List.mem_map]
  constructor
  · rintro ⟨row, hrow, rfl⟩
    exact ((mem_versionRows hok hkeyed).mp hrow).2
  · intro hid
    obtain ⟨row, hrow, rfl, -⟩ := hok.issued id hid
    exact ⟨row, (mem_versionRows hok hkeyed).mpr ⟨hrow, hid⟩, rfl⟩

variable {uuid5 : UUID → String → UUID} {profileVersionId : String}

/-- The mappings of a published version, behind those of the baseline. -/
def publishedMappings (db : Database) (version : KnowledgePackVersionRecord) :
    List DeclarativeMapping :=
  (sortedBy (·.mappingVersionId.str) (versionRows db version.organizationId version)).map adapterOf

/-- The pack that loading a version builds. -/
theorem publishedPack_eq (hok : VersionOk db version record) (hkeyed : Keyed db)
    (hprofile : ∃ row ∈ versionRows db version.organizationId version,
      profileVersionId ∈ profilesOf row) (profile : ProfileManifest) :
    ∃ baseline pack, baselineKnowledgePack uuid5 profile profileVersionId = .ok baseline ∧
      publishedPack uuid5 record version profile profileVersionId
        (versionRows db version.organizationId version) = .ok pack ∧
      pack.mappings = baseline.mappings ++ publishedMappings db version ∧
      pack.knowledgePackId = record.knowledgePackId ∧
      pack.knowledgePackVersionId = version.knowledgePackVersionId ∧ pack.name = record.name ∧
      pack.version = toString version.version ∧ pack.schemaVersion = version.schemaVersion ∧
      pack.profileId = profile.profileId ∧ pack.profileVersionId = profileVersionId := by
  obtain ⟨baseline, hbaseline, -⟩ := baseline_spec uuid5 profile profileVersionId
  have hmappings : (sortedBy (·.mappingVersionId.str)
      (versionRows db version.organizationId version)).mapM (trainingMapping · profileVersionId) =
        .ok (publishedMappings db version) := by
    refine mapM_eq_ok_map fun row hrow => ?_
    rw [mem_sortedBy] at hrow
    obtain ⟨other, hother, happlies⟩ := hprofile
    have hsame : packKey (profilesOf row) = packKey (profilesOf other) :=
      (versionRows_spec hok hkeyed hrow).2.2.trans (versionRows_spec hok hkeyed hother).2.2.symm
    have hcontains : profileVersionId ∈ profilesOf row :=
      (profiles_of_packKey hsame profileVersionId).mpr happlies
    simp only [trainingMapping, except_bind_eq_ok, raiseIf_eq_ok, except_pure_eq_ok]
    refine ⟨(), ?_, trivial⟩
    rw [isScopeResolver, strategy_resolves]
    simpa [profilesOf] using hcontains
  let pack : KnowledgePack :=
    { knowledgePackId := record.knowledgePackId,
      knowledgePackVersionId := version.knowledgePackVersionId, name := record.name,
      version := toString version.version, schemaVersion := version.schemaVersion,
      profileId := profile.profileId, profileVersionId,
      mappings := baseline.mappings ++ publishedMappings db version }
  refine ⟨baseline, pack, hbaseline, ?_, rfl, rfl, rfl, rfl, rfl, rfl, rfl, rfl⟩
  simp only [publishedPack, except_bind_eq_ok, except_pure_eq_ok]
  exact ⟨baseline, hbaseline, _, hmappings, rfl⟩

/-- The validator accepts the mappings of a version when their commands fit. -/
theorem validateMappings_published (hinv : Inv db) (hok : VersionOk db version record)
    {baseline : List DeclarativeMapping} (hbaseline : validateMappings [] [] baseline = .ok ())
    (hsealed : ∀ m ∈ baseline, m.mappingId.version ≠ 4 ∧ m.mappingVersionId.version ≠ 4) :
    validateMappings [] [] (baseline ++ publishedMappings db version) = .ok () ↔
      ∀ row ∈ versionRows db version.organizationId version,
        commandsFit row.definition = true := by
  have hrows : ∀ row ∈ versionRows db version.organizationId version,
      row.mappingVersionId.version = 4 ∧ row.mappingId.version = 4 := fun row hrow =>
    hinv.drawn row ((mem_versionRows hok hinv.keyed).mp hrow).1
  obtain ⟨hadmissible, hids, hversions⟩ := validateMappings_iff.mp hbaseline
  have hmem : ∀ m ∈ publishedMappings db version,
      ∃ row ∈ versionRows db version.organizationId version, adapterOf row = m := by
    intro m hm
    obtain ⟨row, hrow, rfl⟩ := List.mem_map.mp hm
    exact ⟨row, (mem_sortedBy _).mp hrow, rfl⟩
  have hnodup : ((sortedBy (·.mappingVersionId.str)
      (versionRows db version.organizationId version))).Nodup :=
    (sortedBy_perm _ _).nodup_iff.mpr
      (List.filter_sublist.nodup (List.Nodup.of_map _ hinv.keyed.versions))
  rw [validateMappings_iff]
  constructor
  · rintro ⟨hall, -⟩ row hrow
    refine (admissible_iff (hrows row hrow).1 (hrows row hrow).2).mp (hall _ ?_).1
    exact List.mem_append_right _ (List.mem_map_of_mem ((mem_sortedBy _).mpr hrow))
  · intro hfit
    refine ⟨fun m hm => ⟨?_, by simp, by simp⟩, ?_, ?_⟩
    · rcases List.mem_append.mp hm with hold | hnew
      · exact (hadmissible m hold).1
      · obtain ⟨row, hrow, rfl⟩ := hmem m hnew
        exact (admissible_iff (hrows row hrow).1 (hrows row hrow).2).mpr (hfit row hrow)
    · rw [List.map_append, List.nodup_append]
      refine ⟨hids, ?_, ?_⟩
      · rw [publishedMappings, List.map_map]
        refine hnodup.map_on fun a ha b hb hsame => ?_
        rw [mem_sortedBy, mem_versionRows hok hinv.keyed] at ha hb
        exact hok.apart a ha.1 b hb.1 ha.2 hb.2 hsame
      · rintro id hold _ hnew rfl
        obtain ⟨m, hm, rfl⟩ := List.mem_map.mp hold
        obtain ⟨m', hm', hsame⟩ := List.mem_map.mp hnew
        obtain ⟨row, hrow, rfl⟩ := hmem m' hm'
        exact (hsealed m hm).1 (hsame ▸ (hrows row hrow).2)
    · rw [List.map_append, List.nodup_append]
      refine ⟨hversions, ?_, ?_⟩
      · rw [publishedMappings, List.map_map]
        refine hnodup.map_on fun a ha b hb hsame => ?_
        rw [mem_sortedBy, mem_versionRows hok hinv.keyed] at ha hb
        exact eq_of_versionId hinv.keyed.versions ha.1 hb.1 hsame
      · rintro id hold _ hnew rfl
        obtain ⟨m, hm, rfl⟩ := List.mem_map.mp hold
        obtain ⟨m', hm', hsame⟩ := List.mem_map.mp hnew
        obtain ⟨row, hrow, rfl⟩ := hmem m' hm'
        exact (hsealed m hm).2 (hsame ▸ (hrows row hrow).1)

/-- A version loads for a profile of its mappings when the commands of all of them fit. -/
theorem loadVersion_spec (uuid5 : UUID → String → UUID) (hinv : Inv db)
    (hversion : version ∈ db.packVersions)
    (hprofile : ∃ row ∈ versionRows db version.organizationId version,
      profileVersionId ∈ profilesOf row) (profile : ProfileManifest) :
    ∃ baseline pack, baselineKnowledgePack uuid5 profile profileVersionId = .ok baseline ∧
      pack.mappings = baseline.mappings ++ publishedMappings db version ∧
      ((∀ row ∈ versionRows db version.organizationId version,
          commandsFit row.definition = true) →
        loadVersion uuid5 db version.organizationId version profileVersionId (some profile) =
          .ok pack) ∧
      ((loadVersion uuid5 db version.organizationId version profileVersionId
          (some profile)).isOk = true →
        ∀ row ∈ versionRows db version.organizationId version,
          commandsFit row.definition = true) := by
  obtain ⟨record, hok⟩ := hinv.versions version hversion
  obtain ⟨baseline, pack, hbaseline, hpack, hmappings, hpackId, hversionId, hname, hnumber,
    hschema, hprofileId, hprofileVersion⟩ := publishedPack_eq hok hinv.keyed hprofile profile
  obtain ⟨_, hbaseline', hvalid, hsealed⟩ := baseline_spec uuid5 profile profileVersionId
  obtain rfl := Except.ok.inj (hbaseline.symm.trans hbaseline')
  have hrecord : Table.find? KnowledgePackRecord.knowledgePackId db.packs
      version.knowledgePackId = some record := by
    rw [← hok.pack]
    exact Table.find?_of_mem hinv.packIds hok.mem
  have hload : loadVersion uuid5 db version.organizationId version profileVersionId
      (some profile) =
        reportInvalid (validateKnowledgePack pack profile.profileId profileVersionId) := by
    have hlength := (versionRows_perm hok hinv.keyed).length_eq
    rw [List.length_map] at hlength
    have hnonempty : version.mappingVersionIds.isEmpty = false :=
      List.isEmpty_eq_false_iff.mpr hok.nonempty
    simp only [loadVersion, hrecord, hnonempty, hlength, hpack, bne_self_eq_false]
    rfl
  have hiff : validateKnowledgePack pack profile.profileId profileVersionId = .ok pack ↔
      ∀ row ∈ versionRows db version.organizationId version,
        commandsFit row.definition = true := by
    rw [← validateMappings_published hinv hok hvalid hsealed, ← hmappings]
    simp only [validateKnowledgePack, except_bind_eq_ok, raiseIf_eq_ok, except_pure_eq_ok]
    constructor
    · rintro ⟨_, -, _, -, _, -, _, h, -⟩
      exact h
    · intro h
      refine ⟨(), ?_, (), ?_, (), ?_, (), h, trivial⟩
      · simp [hschema, hok.schema]
      · simp [hprofileId, hprofileVersion]
      · have hnumberText : pack.version.isEmpty = false := by
          rw [hnumber]
          exact Bool.eq_false_iff.mpr fun hempty => Nat.repr_ne_empty (String.isEmpty_iff.mp hempty)
        rw [hpackId, hversionId, hname, hok.name, hnumberText,
          int_ne_zero (hinv.packsDrawn record hok.mem).1,
          int_ne_zero (hinv.versionsDrawn version hversion)]
        decide
  refine ⟨baseline, pack, hbaseline, hmappings, fun hfit => ?_, fun hloads => ?_⟩
  · rw [hload, hiff.mpr hfit]
    rfl
  · obtain ⟨result, hresult⟩ := exists_of_isOk hloads
    rw [hload] at hresult
    unfold reportInvalid at hresult
    split at hresult
    · rename_i accepted haccepted
      obtain ⟨rfl, -⟩ := validateKnowledgePack_ok haccepted
      exact hiff.mp haccepted
    · cases hresult

end Versions

section Publications

variable {sha256 : String → String} {db db' : Database} {env : Environment} {user : User}
  {mappingVersionId packId packVersionId : UUID} {mapping : MappingVersion}
  {pack : KnowledgePackRecord}

/-- The rows of the version a publication adds are the published one and the retained ones,
with the definitions they had. -/
theorem rows_of_publication (hinv : Inv db) (hinv' : Inv db')
    (h : Publishes db env user mappingVersionId packId packVersionId db' mapping pack)
    (hversions : VersionsStep sha256 db
      (.publish env user mappingVersionId packId packVersionId) db'.mappings)
    {version : KnowledgePackVersionRecord}
    (hversion : version = newPackVersion db user mapping packVersionId pack.knowledgePackId env.now)
    (holds : MappingDefinition → Prop) :
    (∀ row ∈ versionRows db' version.organizationId version, holds row.definition) ↔
      ∀ row ∈ db.mappings, row.mappingVersionId = mappingVersionId ∨
        row.mappingVersionId ∈ retained db (previousPackVersion db pack.knowledgePackId)
          mapping.mappingId → holds row.definition := by
  obtain ⟨record, hok⟩ := hinv'.versions version (by rw [hversion, h.packVersions]; simp)
  have hlisted : ∀ id, id ∈ version.mappingVersionIds ↔ id = mappingVersionId ∨
      id ∈ retained db (previousPackVersion db pack.knowledgePackId) mapping.mappingId := by
    intro id
    rw [hversion, mem_newPackVersion, h.id, or_comm]
  have hsettled : ∀ row ∈ db.mappings, row.mappingVersionId ∈ version.mappingVersionIds →
      isSettled row.status = true := by
    intro row hrow hid
    rcases (hlisted _).mp hid with hid | hid
    · rw [eq_of_versionId hinv.keyed.versions hrow h.mem (hid.trans h.id.symm), h.approved]
      rfl
    · obtain ⟨previous, hprevious, other, hother, hold, -, hsame⟩ := mem_retained.mp hid
      obtain rfl := eq_of_versionId hinv.keyed.versions hother hrow hsame
      obtain ⟨issued, hissuedMem, hissuedId, -, hissued, -⟩ :=
        (previous_record hinv h hprevious).issued _ hold
      obtain rfl := eq_of_versionId hinv.keyed.versions hissuedMem hrow hissuedId
      cases hstatus : issued.status <;> simp [hstatus, isIssued, isSettled] at hissued ⊢
  constructor
  · intro hall row hrow hid
    have hid' := (hlisted row.mappingVersionId).mpr hid
    obtain ⟨row', hrow', hstep⟩ := hversions.kept row hrow
    rw [← (hstep.settled (hsettled row hrow hid')).1]
    exact hall row' ((mem_versionRows hok hinv'.keyed).mpr ⟨hrow', hstep.ids_eq.1 ▸ hid'⟩)
  · intro hall row' hrow'
    obtain ⟨hmem', hid'⟩ := (mem_versionRows hok hinv'.keyed).mp hrow'
    obtain ⟨row, hrow, hsame⟩ : ∃ row ∈ db.mappings,
        row.mappingVersionId = row'.mappingVersionId := by
      rcases (hlisted _).mp hid' with hid | hid
      · exact ⟨mapping, h.mem, h.id.trans hid.symm⟩
      · obtain ⟨_, _, row, hrow, _, _, hsame⟩ := mem_retained.mp hid
        exact ⟨row, hrow, hsame⟩
    have hstep := VersionsStep.of_id hversions hmem' hrow hsame.symm hinv.keyed.versions
    rw [(hstep.settled (hsettled row hrow (hsame ▸ hid'))).1]
    exact hall row hrow ((hlisted _).mp (hsame ▸ hid'))

end Publications

/-- After any run, the version that a publication adds loads for each profile of the
published mapping exactly when the commands of that mapping and of the retained ones fit
the pattern of the pack validator. -/
theorem published_version_loads_iff (uuid5 : UUID → String → UUID) (sha256 : String → String)
    (manifestJson : List String → String) (blocks : List ReviewBlock) (events : List Event)
    (env : Environment) (user : User) (mappingVersionId packId packVersionId : UUID)
    (hdrawn : ∀ event ∈ events ++ [.publish env user mappingVersionId packId packVersionId],
      ∀ id ∈ drawnIds event, id.version = 4) {db' : Database}
    (hpublish : publishMapping sha256 manifestJson env
      (run uuid5 sha256 manifestJson (.untrained blocks) events) user mappingVersionId packId
        packVersionId = .ok db') :
    let db := run uuid5 sha256 manifestJson (.untrained blocks) events
    ∃ mapping ∈ db.mappings, mapping.mappingVersionId = mappingVersionId ∧
      ∃ version ∈ db'.packVersions, version.knowledgePackVersionId = packVersionId ∧
        ((∀ profileVersionId ∈ profilesOf mapping, ∀ profile, (loadVersion uuid5 db'
            user.organizationId version profileVersionId (some profile)).isOk = true) ↔
          ∀ row ∈ db.mappings, row.mappingVersionId = mappingVersionId ∨
            row.mappingVersionId ∈ retained db
              (previousPackVersion db version.knowledgePackId) mapping.mappingId →
            commandsFit row.definition = true) := by
  intro db
  have hinv : Inv db := inv_run (inv_untrained blocks) events fun event hevent =>
    hdrawn event (List.mem_append_left _ hevent)
  have hdrawnIds : ∀ id ∈ drawnIds (.publish env user mappingVersionId packId packVersionId),
      id.version = 4 := hdrawn _ (List.mem_append_right _ (List.mem_singleton_self _))
  have htransact : transact uuid5 sha256 manifestJson db
      (.publish env user mappingVersionId packId packVersionId) = .ok db' := hpublish
  have hinv' : Inv db' := inv_transact hinv hdrawnIds htransact
  obtain ⟨hversions, -⟩ := transact_steps hinv.keyed htransact
  obtain ⟨mapping, pack, h⟩ := publishMapping_spec hpublish
  let version := newPackVersion db user mapping packVersionId pack.knowledgePackId env.now
  have hmem : version ∈ db'.packVersions := by
    rw [h.packVersions]
    exact List.mem_append_right _ (List.mem_singleton_self _)
  obtain ⟨record, hok⟩ := hinv'.versions version hmem
  have hpublished : asPublished env.now packVersionId mapping ∈
      versionRows db' version.organizationId version :=
    (mem_versionRows hok hinv'.keyed).mpr
      ⟨mem_published hinv.keyed.versions h, mem_newPackVersion.mpr (Or.inr rfl)⟩
  have hrows := rows_of_publication hinv hinv' h hversions rfl fun d => commandsFit d = true
  refine ⟨mapping, h.mem, h.id, version, hmem, rfl, ?_⟩
  refine Iff.trans ?_ hrows
  constructor
  · intro hloads
    obtain ⟨profileVersionId, hprofile⟩ :=
      List.exists_mem_of_ne_nil _ (safe_profiles mapping.definition).1
    obtain ⟨-, -, -, -, -, hfit⟩ := loadVersion_spec uuid5 hinv' hmem
      ⟨_, hpublished, hprofile⟩ acmeProfile
    exact hfit (hloads profileVersionId hprofile acmeProfile)
  · intro hfit profileVersionId hprofile profile
    obtain ⟨-, pack, -, -, hload, -⟩ := loadVersion_spec uuid5 hinv' hmem
      ⟨_, hpublished, hprofile⟩ profile
    have hloaded : loadVersion uuid5 db' user.organizationId version profileVersionId
        (some profile) = .ok pack := hload hfit
    rw [hloaded]
    rfl

/-- The publication of a lower-case command. -/
theorem published_version_loads_ntp :
    ∃ db', ∃ version ∈ db'.packVersions, version.knowledgePackVersionId = drawnId 7 ∧
      (loadVersion (UUID.ofTable []) db' acmeAdmin.organizationId version "acme@1.0.0"
        (some acmeProfile)).isOk = true := by
  obtain ⟨results, hpublish⟩ := run_drafting (UUID.ofTable []) ntpSha256 acmeManifests
    ntp_publishable acme_pack untrained_free
  obtain ⟨-, -, hdefinitions⟩ := run_publication (UUID.ofTable []) ntpSha256 acmeManifests
    ntp_publishable acme_pack untrained_free
  obtain ⟨mapping, hmem, hid, version, hversion, hversionId, hiff⟩ := published_version_loads_iff
    (UUID.ofTable []) ntpSha256 acmeManifests [] _ (acmeEnvironment 0) acmeAdmin _ _ _
    (by decide +kernel) hpublish
  have hntp : ∀ row ∈ (run (UUID.ofTable []) ntpSha256 acmeManifests (.untrained [])
      (drafting (acmeEnvironment 0) acmeAdmin (acmeInput ntpDefinition) (drawnId 5))).mappings,
      row.definition = ntpDefinition := by
    intro row hrow
    rcases hdefinitions _ _ rfl row hrow with hold | hnew
    · cases hold
    · exact hnew
  have hloads := hiff.mpr fun row hrow _ => by
    rw [hntp row hrow]
    decide +kernel
  refine ⟨_, version, hversion, hversionId, hloads "acme@1.0.0" ?_ acmeProfile⟩
  rw [profilesOf, hntp mapping hmem]
  decide

/-- A command in capitals is published. -/
def upperDefinition : MappingDefinition :=
  ⟨presenceFields "NTP" ["acme@1.0.0"], by decide +kernel⟩

def upperSha256 : String → String := Parsing.tabulated (acmeDigests upperDefinition
  "57d1cafa2518b2af9f296d27de3f533136eaa8e193e9cf43e7edecfac021994b"
  "1bdf379e7b97d75aa5d20ceee05066c22abf5a1c8d8031c7786a77c522629518"
  "51928ea0043885dbf208e946fb670b28b79272f35d6b22ff011010d884ba77c1"
  "5b0d1de441feee8ccbb8ea52d923ca6abd12f7d113c35290df8653484b8f8d6a")

theorem upper_publishable : Publishable (.untrained []) (acmeEnvironment 0) acmeAdmin
    (acmeInput upperDefinition) (drawnId 5) :=
  untrained_publishable rfl (by decide +kernel) (by decide +kernel) (by decide +kernel)
    (by decide +kernel)

/-- The version with the command in capitals is published, and does not load. -/
theorem uppercase_command_unloadable :
    let db := run (UUID.ofTable []) upperSha256 acmeManifests (.untrained [])
      (acmePublication upperDefinition)
    (∃ row ∈ db.mappings, row.status = .published ∧ row.definition = upperDefinition) ∧
      ∃ version ∈ db.packVersions, version.knowledgePackVersionId = drawnId 7 ∧
        (loadVersion (UUID.ofTable []) db acmeAdmin.organizationId version "acme@1.0.0"
          (some acmeProfile)).isOk = false := by
  intro db
  obtain ⟨results, hrun, -⟩ := run_publication (UUID.ofTable []) upperSha256 acmeManifests
    upper_publishable acme_pack untrained_free
  have hinv : Inv db := inv_run (inv_untrained []) _ (by decide +kernel)
  have hdb : db = published (.untrained []) { Database.untrained [] with packs := [acmePack] }
      (acmeEnvironment 0) acmeAdmin (acmeInput upperDefinition) (drawnId 5) (drawnId 7)
      acmePack.knowledgePackId results := hrun
  let row := publishedRow (acmeEnvironment 0) acmeAdmin (acmeInput upperDefinition) results
    (drawnId 7)
  let version := newPackVersion (.untrained []) acmeAdmin
    (approvedRow (acmeEnvironment 0) acmeAdmin (acmeInput upperDefinition) results) (drawnId 7)
    acmePack.knowledgePackId 0
  have hrow : row ∈ db.mappings := by
    rw [hdb]
    exact List.mem_singleton_self _
  have hversion : version ∈ db.packVersions := by
    rw [hdb]
    exact List.mem_singleton_self _
  have hlisted : row ∈ versionRows db version.organizationId version := by
    obtain ⟨record, hok⟩ := hinv.versions version hversion
    exact (mem_versionRows hok hinv.keyed).mpr ⟨hrow, mem_newPackVersion.mpr (Or.inr rfl)⟩
  refine ⟨⟨row, hrow, rfl, rfl⟩, version, hversion, rfl, Bool.eq_false_iff.mpr fun hloads => ?_⟩
  have hprofile : "acme@1.0.0" ∈ profilesOf row := List.mem_singleton_self _
  obtain ⟨-, -, -, -, -, hfit⟩ := loadVersion_spec (UUID.ofTable []) hinv hversion
    ⟨row, hlisted, hprofile⟩ acmeProfile
  have hupper : commandsFit upperDefinition = true := hfit hloads row hlisted
  exact absurd hupper (by decide +kernel)

end ConfigAuditor.Training.Loadable
