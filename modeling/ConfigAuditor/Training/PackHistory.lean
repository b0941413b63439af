import ConfigAuditor.Interpretation.Published
import ConfigAuditor.Training.Lifecycle

/-!
# The published pack versions

In every reachable state a pack version lists issued versions of different mappings, all
for the profiles of its pack. Ids are drawn by `uuid4`.
-/
namespace ConfigAuditor.Training.PackHistory

open Library Dsl Service Lifecycle Interpretation.Published

/-- The profiles a version applies to. -/
def profilesOf (row : MappingVersion) : List String :=
  row.definition.profileApplicability.profileVersionIds

/-- A version record lists issued versions of different mappings. -/
structure VersionOk (db : Database) (version : KnowledgePackVersionRecord)
    (record : KnowledgePackRecord) : Prop where
  mem : record ∈ db.packs
  pack : record.knowledgePackId = version.knowledgePackId
  organization : record.organizationId = version.organizationId
  name : record.name = "Administrator validated mappings"
  schema : version.schemaVersion = "1.0.0"
  nonempty : version.mappingVersionIds ≠ []
  nodup : version.mappingVersionIds.Nodup
  issued : ∀ mappingVersionId ∈ version.mappingVersionIds, ∃ row ∈ db.mappings,
    row.mappingVersionId = mappingVersionId ∧ row.organizationId = version.organizationId ∧
      isIssued row.status = true ∧ packKey (profilesOf row) = record.packKey
  apart : ∀ a ∈ db.mappings, ∀ b ∈ db.mappings,
    a.mappingVersionId ∈ version.mappingVersionIds →
    b.mappingVersionId ∈ version.mappingVersionIds → a.mappingId = b.mappingId → a = b

/-- What every run of the workflow keeps. -/
structure Inv (db : Database) : Prop where
  keyed : Keyed db
  drawn : ∀ row ∈ db.mappings, row.mappingVersionId.version = 4 ∧ row.mappingId.version = 4
  dated : ∀ row ∈ db.mappings, (isSettled row.status = true → row.approvedBy.isSome = true) ∧
    (isIssued row.status = true → row.publishedAt.isSome = true)
  packIds : (db.packs.map (·.knowledgePackId)).Nodup
  packKeys : ∀ a ∈ db.packs, ∀ b ∈ db.packs, a.organizationId = b.organizationId →
    a.packKey = b.packKey → a = b
  packsDrawn : ∀ pack ∈ db.packs, pack.knowledgePackId.version = 4 ∧
    pack.name = "Administrator validated mappings"
  versionIds : (db.packVersions.map (·.knowledgePackVersionId)).Nodup
  versionsDrawn : ∀ version ∈ db.packVersions, version.knowledgePackVersionId.version = 4
  versions : ∀ version ∈ db.packVersions, ∃ record, VersionOk db version record

section Steps

variable {uuid5 : UUID → String → UUID} {sha256 : String → String}
  {manifestJson : List String → String} {db db' : Database} {event : Event} {env : Environment}
  {user : User} {mappingVersionId packId packVersionId : UUID} {mapping : MappingVersion}
  {pack : KnowledgePackRecord}

/-- Only a publication changes the packs. -/
theorem transact_packs (h : transact uuid5 sha256 manifestJson db event = .ok db')
    (hother : ∀ env user versionId packId packVersionId,
      event ≠ .publish env user versionId packId packVersionId) :
    db'.packs = db.packs ∧ db'.packVersions = db.packVersions := by
  cases event with
  | create user input =>
    have h : createMapping db user input = .ok db' := h
    simp only [createMapping, except_bind_eq_ok] at h
    obtain ⟨new, -, drafted, hdrafted, h⟩ := h
    obtain ⟨rfl, -⟩ := newMapping_spec hdrafted
    split at h
    · obtain rfl := except_pure_eq_ok.mp h
      exact ⟨rfl, rfl⟩
    · split at h
      · cases h
      · obtain rfl := except_pure_eq_ok.mp h
        exact ⟨rfl, rfl⟩
  | adopt env user blockId token versionId mappingId =>
    have h : adoptSuggestion env db user blockId token versionId mappingId = .ok db' := h
    unfold adoptSuggestion at h
    obtain ⟨_, -, h⟩ := except_bind_eq_ok.mp h
    split at h
    · cases h
    split at h
    · obtain ⟨suggestion, -, h⟩ := except_bind_eq_ok.mp h
      obtain ⟨_, -, h⟩ := except_bind_eq_ok.mp h
      obtain ⟨drafted, hdrafted, h⟩ := except_bind_eq_ok.mp h
      obtain ⟨rfl, -⟩ := newMapping_spec hdrafted
      obtain rfl := except_pure_eq_ok.mp h
      exact ⟨rfl, rfl⟩
    · cases h
    · cases h
  | update user versionId title description definition =>
    have h : updateMapping db user versionId title description definition = .ok db' := h
    simp only [updateMapping, except_bind_eq_ok, except_pure_eq_ok] at h
    obtain ⟨_, -, _, -, rfl⟩ := h
    exact ⟨rfl, rfl⟩
  | requestValidation env user versionId runId evidence negative =>
    have h : requestValidation env db user versionId runId evidence negative = .ok db' := h
    simp only [requestValidation, except_bind_eq_ok] at h
    obtain ⟨_, -, _, -, _, -, _, -, _, -, h⟩ := h
    split at h
    · cases h
    · obtain rfl := except_pure_eq_ok.mp h
      exact ⟨rfl, rfl⟩
  | executeValidation env runId versionId organizationId =>
    have h : executeValidation uuid5 sha256 manifestJson env db runId versionId organizationId =
        .ok db' := h
    unfold executeValidation at h
    split at h
    · simp only [except_bind_eq_ok, except_pure_eq_ok] at h
      obtain ⟨_, -, _, -, rfl⟩ := h
      exact ⟨rfl, rfl⟩
    · cases h
  | approve env user versionId =>
    have h : approveMapping sha256 manifestJson env db user versionId = .ok db' := h
    simp only [approveMapping, except_bind_eq_ok, except_pure_eq_ok] at h
    obtain ⟨_, -, _, -, _, -, _, -, _, -, rfl⟩ := h
    exact ⟨rfl, rfl⟩
  | reject user versionId =>
    have h : rejectMapping db user versionId = .ok db' := h
    simp only [rejectMapping, except_bind_eq_ok, except_pure_eq_ok] at h
    obtain ⟨_, -, _, -, _, -, rfl⟩ := h
    exact ⟨rfl, rfl⟩
  | publish => exact absurd rfl (hother _ _ _ _ _)

/-- The new row of a version that was there before. -/
theorem VersionsStep.of_id (h : VersionsStep sha256 db event db'.mappings) {row : MappingVersion}
    (hrow : row ∈ db'.mappings) {old : MappingVersion} (hold : old ∈ db.mappings)
    (hid : row.mappingVersionId = old.mappingVersionId)
    (hkeys : (db.mappings.map (·.mappingVersionId)).Nodup) :
    VersionStep sha256 db event old row := by
  rcases h.origin row hrow with ⟨before, hbefore, hstep⟩ | hnew
  · rwa [eq_of_versionId hkeys hold hbefore (hid.symm.trans hstep.ids_eq.1)]
  · exact absurd hid.symm (hnew.fresh old hold)

/-- A version record stays as it should be while its rows go on. -/
theorem VersionOk.kept {version : KnowledgePackVersionRecord} {record : KnowledgePackRecord}
    (h : VersionOk db version record) (hkeyed : Keyed db)
    (hversions : VersionsStep sha256 db event db'.mappings)
    (hpacks : ∀ other ∈ db.packs, other ∈ db'.packs) : VersionOk db' version record := by
  have hrows : ∀ row ∈ db'.mappings, row.mappingVersionId ∈ version.mappingVersionIds →
      ∃ old ∈ db.mappings, old.mappingVersionId = row.mappingVersionId ∧
        old.mappingId = row.mappingId := by
    intro row hrow hid
    obtain ⟨old, hold, hsame, -⟩ := h.issued _ hid
    have hstep := VersionsStep.of_id hversions hrow hold hsame.symm hkeyed.versions
    exact ⟨old, hold, hsame, hstep.ids_eq.2.1.symm⟩
  refine ⟨hpacks _ h.mem, h.pack, h.organization, h.name, h.schema, h.nonempty, h.nodup, ?_, ?_⟩
  · intro id hid
    obtain ⟨row, hrow, hsame, horganization, hissued, hkey⟩ := h.issued id hid
    obtain ⟨row', hrow', hstep⟩ := hversions.kept row hrow
    obtain ⟨hids, -, horganization', -⟩ := hstep.ids_eq
    obtain ⟨hdefinition, hissued'⟩ := hstep.issued hissued
    refine ⟨row', hrow', hids.trans hsame, horganization'.trans horganization, hissued', ?_⟩
    rw [profilesOf, hdefinition]
    exact hkey
  · intro a ha b hb hida hidb hmapping
    obtain ⟨old, hold, hid, hsame⟩ := hrows a ha hida
    obtain ⟨old', hold', hid', hsame'⟩ := hrows b hb hidb
    have heq := h.apart old hold old' hold' (hid ▸ hida) (hid' ▸ hidb)
      (hsame.trans (hmapping.trans hsame'.symm))
    exact Table.eq_of_key (hversions.keys hkeyed.versions) ha hb (hid.symm.trans (heq ▸ hid'))

theorem previousPackVersion_eq_some {version : KnowledgePackVersionRecord}
    (h : previousPackVersion db packId = some version) :
    version ∈ db.packVersions ∧ version.knowledgePackId = packId := by
  have hmem := List.mem_of_getLast? h
  rw [mem_sortedBy, List.mem_filter] at hmem
  exact ⟨hmem.1, by simpa using hmem.2⟩

theorem mem_retained {previous : Option KnowledgePackVersionRecord} {mappingId id : UUID} :
    id ∈ retained db previous mappingId ↔ ∃ version, previous = some version ∧
      ∃ row ∈ db.mappings, row.mappingVersionId ∈ version.mappingVersionIds ∧
        row.mappingId ≠ mappingId ∧ row.mappingVersionId = id := by
  cases previous with
  | none => simp [retained]
  | some version => simp [retained, and_assoc]

theorem mem_newPackVersion {now : Int} {id : UUID} :
    id ∈ (newPackVersion db user mapping packVersionId packId now).mappingVersionIds ↔
      id ∈ retained db (previousPackVersion db packId) mapping.mappingId ∨
        id = mapping.mappingVersionId := by
  simp [newPackVersion]

/-- The published version in the new state. -/
theorem mem_published (hkeys : (db.mappings.map (·.mappingVersionId)).Nodup)
    (h : Publishes db env user mappingVersionId packId packVersionId db' mapping pack) :
    asPublished env.now packVersionId mapping ∈ db'.mappings := by
  obtain ⟨mappings, hsupersedes, hmappings⟩ := h.mappings
  have hmem : mapping ∈ mappings := by
    cases hsupersedes with
    | none => exact h.mem
    | some previous hprevious _ _ hpublished =>
      refine Table.mem_modify.mpr ⟨mapping, h.mem, ?_⟩
      by_cases hsame : mapping.mappingVersionId = previous.mappingVersionId
      · have := eq_of_versionId hkeys h.mem hprevious hsame
        simp [← this, h.approved] at hpublished
      · rw [if_neg hsame]
  rw [hmappings]
  exact Table.mem_modify.mpr ⟨mapping, hmem, by rw [if_pos h.id]⟩

/-- The previous version of the pack of a publication is a version of that pack. -/
theorem previous_record (hinv : Inv db)
    (h : Publishes db env user mappingVersionId packId packVersionId db' mapping pack)
    {version : KnowledgePackVersionRecord}
    (hprevious : previousPackVersion db pack.knowledgePackId = some version) :
    VersionOk db version pack := by
  obtain ⟨hmem, hpackId⟩ := previousPackVersion_eq_some hprevious
  obtain ⟨record, hok⟩ := hinv.versions version hmem
  have hid : record.knowledgePackId = pack.knowledgePackId := hok.pack.trans hpackId
  have hold : pack ∈ db.packs := by
    rcases h.packs.new with hpacks | ⟨-, hnew, -, hfree, -⟩
    · exact hpacks ▸ h.packs.mem
    · exact absurd (hid.trans hnew) (hfree record hok.mem)
  rwa [← Table.eq_of_key hinv.packIds hok.mem hold hid]

/-- The new version lists the published version, and what it retains. -/
theorem newPackVersion_ok (hinv : Inv db)
    (h : Publishes db env user mappingVersionId packId packVersionId db' mapping pack)
    (hversions : VersionsStep sha256 db
      (.publish env user mappingVersionId packId packVersionId) db'.mappings) :
    VersionOk db' (newPackVersion db user mapping packVersionId pack.knowledgePackId env.now)
      pack := by
  have hname : pack.name = "Administrator validated mappings" := by
    rcases h.packs.new with hpacks | ⟨-, -, hname, -⟩
    · exact (hinv.packsDrawn pack (hpacks ▸ h.packs.mem)).2
    · exact hname
  -- a retained version was listed before, and is of another mapping
  have hretained : ∀ row ∈ db.mappings,
      row.mappingVersionId ∈ retained db (previousPackVersion db pack.knowledgePackId)
        mapping.mappingId → ∃ version,
          previousPackVersion db pack.knowledgePackId = some version ∧
          row.mappingVersionId ∈ version.mappingVersionIds ∧ row.mappingId ≠ mapping.mappingId := by
    intro row hrow hid
    obtain ⟨version, hprevious, other, hother, hlisted, hmapping, hsame⟩ := mem_retained.mp hid
    obtain rfl := eq_of_versionId hinv.keyed.versions hother hrow hsame
    exact ⟨version, hprevious, hlisted, hmapping⟩
  have hrows : ∀ row ∈ db'.mappings, row.mappingVersionId ∈ (newPackVersion db user mapping
      packVersionId pack.knowledgePackId env.now).mappingVersionIds → ∃ old ∈ db.mappings,
        old.mappingVersionId = row.mappingVersionId ∧ old.mappingId = row.mappingId := by
    intro row hrow hid
    obtain ⟨old, hold, hsame⟩ : ∃ old ∈ db.mappings,
        old.mappingVersionId = row.mappingVersionId := by
      rcases mem_newPackVersion.mp hid with hid | hid
      · obtain ⟨_, _, old, hold, _, _, hsame⟩ := mem_retained.mp hid
        exact ⟨old, hold, hsame⟩
      · exact ⟨mapping, h.mem, hid.symm⟩
    have hstep := VersionsStep.of_id hversions hrow hold hsame.symm hinv.keyed.versions
    exact ⟨old, hold, hsame, hstep.ids_eq.2.1.symm⟩
  refine ⟨h.packs.mem, rfl, h.packs.organization, hname, rfl, ?_, ?_, ?_, ?_⟩
  · exact List.ne_nil_of_mem (mem_newPackVersion.mpr (Or.inr rfl))
  · refine (sortedBy_perm _ _).nodup_iff.mpr (List.nodup_append.mpr ⟨?_, List.nodup_singleton _, ?_⟩)
    · cases previousPackVersion db pack.knowledgePackId with
      | none => exact List.nodup_nil
      | some version => exact (List.filter_sublist.map _).nodup hinv.keyed.versions
    · rintro id hid _ hother rfl
      obtain rfl := List.mem_singleton.mp hother
      obtain ⟨_, -, -, hmapping⟩ := hretained mapping h.mem hid
      exact hmapping rfl
  · intro id hid
    rcases mem_newPackVersion.mp hid with hid | rfl
    · obtain ⟨_, _, row, hrow, _, _, rfl⟩ := mem_retained.mp hid
      obtain ⟨version, hprevious, hlisted, -⟩ := hretained row hrow hid
      have hok := previous_record hinv h hprevious
      obtain ⟨row', hrow', hstep⟩ := hversions.kept row hrow
      obtain ⟨other, hother, hsame, horganization, hissued, hkey⟩ := hok.issued _ hlisted
      obtain rfl := eq_of_versionId hinv.keyed.versions hother hrow hsame
      obtain ⟨hdefinition, hissued'⟩ := hstep.issued hissued
      obtain ⟨hids, -, horganization', -⟩ := hstep.ids_eq
      refine ⟨row', hrow', hids, ?_, hissued', ?_⟩
      · exact horganization'.trans (horganization.trans
          (hok.organization.symm.trans h.packs.organization))
      · rw [profilesOf, hdefinition]
        exact hkey
    · exact ⟨_, mem_published hinv.keyed.versions h, rfl, h.organization, rfl, h.packs.packKey.symm⟩
  · intro a ha b hb hida hidb hmapping
    obtain ⟨old, hold, hid, hsame⟩ := hrows a ha hida
    obtain ⟨old', hold', hid', hsame'⟩ := hrows b hb hidb
    have heq : old = old' := by
      rcases mem_newPackVersion.mp (hid ▸ hida) with hleft | hleft <;>
        rcases mem_newPackVersion.mp (hid' ▸ hidb) with hright | hright
      · obtain ⟨version, hprevious, hlisted, -⟩ := hretained old hold hleft
        obtain ⟨version', hprevious', hlisted', -⟩ := hretained old' hold' hright
        obtain rfl := Option.some.inj (hprevious.symm.trans hprevious')
        exact (previous_record hinv h hprevious).apart old hold old' hold' hlisted hlisted'
          (hsame.trans (hmapping.trans hsame'.symm))
      · obtain rfl := eq_of_versionId hinv.keyed.versions hold' h.mem hright
        obtain ⟨_, -, -, hother⟩ := hretained old hold hleft
        exact absurd (hsame.trans (hmapping.trans hsame'.symm)) hother
      · obtain rfl := eq_of_versionId hinv.keyed.versions hold h.mem hleft
        obtain ⟨_, -, -, hother⟩ := hretained old' hold' hright
        exact absurd (hsame'.trans (hmapping.symm.trans hsame.symm)) hother
      · exact eq_of_versionId hinv.keyed.versions hold hold' (hleft.trans hright.symm)
    exact Table.eq_of_key (hversions.keys hinv.keyed.versions) ha hb (hid.symm.trans (heq ▸ hid'))

/-- The rows of a state after a transaction that draws its ids with `uuid4`. -/
theorem rows_kept (hinv : Inv db) (hdrawn : ∀ id ∈ drawnIds event, id.version = 4)
    (hversions : VersionsStep sha256 db event db'.mappings) :
    ∀ row ∈ db'.mappings, (row.mappingVersionId.version = 4 ∧ row.mappingId.version = 4) ∧
      (isSettled row.status = true → row.approvedBy.isSome = true) ∧
      (isIssued row.status = true → row.publishedAt.isSome = true) := by
  intro row hrow
  rcases hversions.origin row hrow with ⟨old, hold, hstep⟩ | hnew
  · obtain ⟨hid, hmapping, -⟩ := hstep.ids_eq
    refine ⟨hid ▸ hmapping ▸ hinv.drawn old hold, ?_⟩
    obtain ⟨happroved, hpublished⟩ := hinv.dated old hold
    cases hstep with
    | same | validated => exact ⟨happroved, hpublished⟩
    | update | request | reject => constructor <;> intro h <;> cases h
    | approve => exact ⟨fun _ => rfl, (by intro h; cases h)⟩
    | publish hstatus => exact ⟨fun _ => happroved (by rw [hstatus]; rfl), fun _ => rfl⟩
    | supersede hstatus =>
      exact ⟨fun _ => happroved (by rw [hstatus]; rfl), fun _ => hpublished (by rw [hstatus]; rfl)⟩
  · refine ⟨⟨hdrawn _ hnew.drawn, ?_⟩, ?_⟩
    · rcases hnew.mapping with ⟨-, hmapping⟩ | ⟨other, hother, hmapping, -⟩
      · exact hdrawn _ hmapping
      · exact hmapping ▸ (hinv.drawn other hother).2
    · rw [hnew.draft]
      constructor <;> intro h <;> cases h

theorem inv_transact (hinv : Inv db) (hdrawn : ∀ id ∈ drawnIds event, id.version = 4)
    (h : transact uuid5 sha256 manifestJson db event = .ok db') : Inv db' := by
  obtain ⟨hversions, hruns⟩ := transact_steps hinv.keyed h
  have hrows := rows_kept hinv hdrawn hversions
  have hkeyed : Keyed db' := ⟨hversions.keys hinv.keyed.versions, hruns.keys hinv.keyed.runs⟩
  by_cases hpublish : ∃ env user versionId packId packVersionId,
      event = .publish env user versionId packId packVersionId
  · obtain ⟨env, user, versionId, packId, packVersionId, rfl⟩ := hpublish
    obtain ⟨mapping, pack, hpub⟩ := publishMapping_spec h
    have hkept : ∀ other ∈ db.packs, other ∈ db'.packs := by
      intro other hother
      rcases hpub.packs.new with hpacks | ⟨hpacks, -⟩ <;> rw [hpacks]
      · exact hother
      · exact List.mem_append_left _ hother
    refine ⟨hkeyed, fun row hrow => (hrows row hrow).1, fun row hrow => (hrows row hrow).2,
      ?_, ?_, ?_, ?_, ?_, ?_⟩
    · rcases hpub.packs.new with hpacks | ⟨hpacks, hid, -, hfree, -⟩ <;> rw [hpacks]
      · exact hinv.packIds
      · exact Table.append_nodup hinv.packIds fun other hother => hid ▸ hfree other hother
    · rcases hpub.packs.new with hpacks | ⟨hpacks, -, -, -, hfree⟩ <;> rw [hpacks]
      · exact hinv.packKeys
      · intro a ha b hb horganization hkey
        rcases List.mem_append.mp ha with holdA | hnewA <;>
          rcases List.mem_append.mp hb with holdB | hnewB
        · exact hinv.packKeys a holdA b holdB horganization hkey
        · obtain rfl := List.mem_singleton.mp hnewB
          exact absurd (hkey.trans hpub.packs.packKey)
            (hfree a holdA (horganization.trans hpub.packs.organization))
        · obtain rfl := List.mem_singleton.mp hnewA
          exact absurd (hkey.symm.trans hpub.packs.packKey)
            (hfree b holdB (horganization.symm.trans hpub.packs.organization))
        · exact (List.mem_singleton.mp hnewA).trans (List.mem_singleton.mp hnewB).symm
    · rcases hpub.packs.new with hpacks | ⟨hpacks, hid, hname, -⟩ <;> rw [hpacks]
      · exact hinv.packsDrawn
      · intro other hother
        rcases List.mem_append.mp hother with hold | hnew
        · exact hinv.packsDrawn other hold
        · obtain rfl := List.mem_singleton.mp hnew
          exact ⟨hid ▸ hdrawn packId (by simp [drawnIds]), hname⟩
    · rw [hpub.packVersions]
      exact Table.append_nodup hinv.versionIds hpub.fresh
    · rw [hpub.packVersions]
      intro version hversion
      rcases List.mem_append.mp hversion with hold | hnew
      · exact hinv.versionsDrawn version hold
      · obtain rfl := List.mem_singleton.mp hnew
        exact hdrawn packVersionId (by simp [drawnIds])
    · rw [hpub.packVersions]
      intro version hversion
      rcases List.mem_append.mp hversion with hold | hnew
      · obtain ⟨record, hok⟩ := hinv.versions version hold
        exact ⟨record, hok.kept hinv.keyed hversions hkept⟩
      · obtain rfl := List.mem_singleton.mp hnew
        exact ⟨pack, newPackVersion_ok hinv hpub hversions⟩
  · obtain ⟨hpacks, hpackVersions⟩ := transact_packs h fun env user versionId packId packVersionId
      heq => hpublish ⟨env, user, versionId, packId, packVersionId, heq⟩
    refine ⟨hkeyed, fun row hrow => (hrows row hrow).1, fun row hrow => (hrows row hrow).2,
      hpacks ▸ hinv.packIds, hpacks ▸ hinv.packKeys, hpacks ▸ hinv.packsDrawn,
      hpackVersions ▸ hinv.versionIds, hpackVersions ▸ hinv.versionsDrawn, ?_⟩
    rw [hpackVersions]
    intro version hversion
    obtain ⟨record, hok⟩ := hinv.versions version hversion
    exact ⟨record, hok.kept hinv.keyed hversions fun other hother => hpacks ▸ hother⟩

theorem inv_step (hinv : Inv db) (hdrawn : ∀ id ∈ drawnIds event, id.version = 4) :
    Inv (step uuid5 sha256 manifestJson db event) := by
  unfold step
  split
  · rename_i db' h
    exact inv_transact hinv hdrawn h
  · exact hinv

/-- Every run keeps the invariant. -/
theorem inv_run (hinv : Inv db) (events : List Event)
    (hdrawn : ∀ event ∈ events, ∀ id ∈ drawnIds event, id.version = 4) :
    Inv (run uuid5 sha256 manifestJson db events) := by
  induction events generalizing db with
  | nil => exact hinv
  | cons event events ih =>
    obtain ⟨hevent, hrest⟩ := List.forall_mem_cons.mp hdrawn
    exact ih (inv_step hinv hevent) hrest

theorem inv_untrained (blocks : List ReviewBlock) : Inv (.untrained blocks) := by
  refine ⟨⟨.nil, .nil⟩, ?_, ?_, .nil, ?_, ?_, .nil, ?_, ?_⟩ <;> simp [Database.untrained]

end Steps

end ConfigAuditor.Training.PackHistory
