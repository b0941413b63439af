import ConfigAuditor.Training.Loadable
import ConfigAuditor.Training.Safety

/-!
# The pack of a fresh audit

A fresh audit of a profile loads the one pack whose newest version holds published
mappings for the profile only. What the newest versions hold is an invariant of the
workflow; from it follows when the loaded pack is complete.
-/
namespace ConfigAuditor.Training.ActivePack

open Library KnowledgePacks ProfileResolution Dsl Service Lifecycle PackHistory Publication
  Loadable Interpretation.Published
open Safety (mem_of_other origin_of_published)

/-- The newest version of its pack. -/
structure Newest (db : Database) (version : KnowledgePackVersionRecord) : Prop where
  mem : version ∈ db.packVersions
  newest : ∀ other ∈ db.packVersions, other.knowledgePackId = version.knowledgePackId →
    other.version ≤ version.version

/-- What the newest versions of the packs hold. -/
structure Current (db : Database) : Prop where
  numbers : ∀ v ∈ db.packVersions, ∀ w ∈ db.packVersions, v.knowledgePackId = w.knowledgePackId →
    v.version = w.version → v = w
  dates : ∀ v ∈ db.packVersions, ∀ w ∈ db.packVersions, v.knowledgePackId = w.knowledgePackId →
    v.version ≤ w.version → v.publishedAt ≤ w.publishedAt
  listed : ∀ a ∈ db.mappings, isIssued a.status = true → ∃ version record, Newest db version ∧
    VersionOk db version record ∧ record.organizationId = a.organizationId ∧
      record.packKey = packKey (profilesOf a) ∧ ∃ c ∈ db.mappings,
        c.mappingVersionId ∈ version.mappingVersionIds ∧ c.mappingId = a.mappingId
  retained : ∀ version, Newest db version → ∀ row ∈ db.mappings,
    row.mappingVersionId ∈ version.mappingVersionIds → row.status = .superseded →
      ∃ current ∈ db.mappings, current.mappingId = row.mappingId ∧ current.status = .published ∧
        packKey (profilesOf current) ≠ packKey (profilesOf row)

/-- The time at which an event publishes. -/
def clock : Event → Option Int
  | .publish env _ _ _ _ => some env.now
  | _ => none

section Steps

variable {uuid5 : UUID → String → UUID} {sha256 : String → String}
  {manifestJson : List String → String} {db db' : Database} {event : Event} {env : Environment}
  {user : User} {mappingVersionId packId packVersionId : UUID} {mapping : MappingVersion}
  {pack : KnowledgePackRecord}

/-- No transaction but a publication issues a version. -/
theorem VersionStep.issued_before {version version' : MappingVersion}
    (h : VersionStep sha256 db event version version')
    (hother : ∀ env user versionId packId packVersionId,
      event ≠ .publish env user versionId packId packVersionId)
    (hissued : isIssued version'.status = true) :
    version'.status = version.status ∧ version'.definition = version.definition := by
  cases h with
  | same | validated => exact ⟨rfl, rfl⟩
  | update | request | approve | reject => cases hissued
  | publish | supersede => exact absurd rfl (hother _ _ _ _ _)

theorem newest_of_packVersions (hpackVersions : db'.packVersions = db.packVersions)
    {version : KnowledgePackVersionRecord} : Newest db' version ↔ Newest db version := by
  constructor <;> rintro ⟨hmem, hnewest⟩
  · exact ⟨hpackVersions ▸ hmem, hpackVersions ▸ hnewest⟩
  · exact ⟨hpackVersions ▸ hmem, hpackVersions ▸ hnewest⟩

theorem current_other (hinv : Inv db) (h : Current db)
    (htransact : transact uuid5 sha256 manifestJson db event = .ok db')
    (hother : ∀ env user versionId packId packVersionId,
      event ≠ .publish env user versionId packId packVersionId) : Current db' := by
  obtain ⟨hversions, -⟩ := transact_steps hinv.keyed htransact
  obtain ⟨hpacks, hpackVersions⟩ := transact_packs htransact hother
  have hissuedBefore : ∀ row ∈ db'.mappings, isIssued row.status = true → ∃ old ∈ db.mappings,
      VersionStep sha256 db event old row ∧ row.status = old.status ∧
        row.definition = old.definition := by
    intro row hrow hissued
    rcases hversions.origin row hrow with ⟨old, hold, hstep⟩ | hnew
    · exact ⟨old, hold, hstep, VersionStep.issued_before hstep hother hissued⟩
    · rw [hnew.draft] at hissued
      cases hissued
  refine ⟨hpackVersions ▸ h.numbers, hpackVersions ▸ h.dates, ?_, ?_⟩
  · intro a ha hissued
    obtain ⟨old, hold, hstep, hstatus, hdefinition⟩ := hissuedBefore a ha hissued
    obtain ⟨version, record, hnewest, hok, horganization, hkey, c, hc, hlisted, hmapping⟩ :=
      h.listed old hold (hstatus ▸ hissued)
    obtain ⟨c', hc', hstep'⟩ := hversions.kept c hc
    refine ⟨version, record, (newest_of_packVersions hpackVersions).mpr hnewest,
      hok.kept hinv.keyed hversions fun other hmem => hpacks ▸ hmem,
      horganization.trans hstep.ids_eq.2.2.1.symm, ?_, c', hc', ?_, ?_⟩
    · rw [hkey, profilesOf, profilesOf, hdefinition]
    · exact hstep'.ids_eq.1 ▸ hlisted
    · exact hstep'.ids_eq.2.1.trans (hmapping.trans hstep.ids_eq.2.1.symm)
  · intro version hnewest row hrow hid hsuperseded
    obtain ⟨old, hold, hstep, hstatus, hdefinition⟩ :=
      hissuedBefore row hrow (by rw [hsuperseded]; rfl)
    obtain ⟨current, hcurrent, hmapping, hpublished, hkey⟩ := h.retained version
      ((newest_of_packVersions hpackVersions).mp hnewest) old hold (hstep.ids_eq.1 ▸ hid)
      (hstatus.symm.trans hsuperseded)
    obtain ⟨current', hcurrent', hstep'⟩ := hversions.kept current hcurrent
    obtain ⟨hdefinition', hissued'⟩ := hstep'.issued (by rw [hpublished]; rfl)
    obtain ⟨hstatus', -⟩ := VersionStep.issued_before hstep' hother hissued'
    refine ⟨current', hcurrent', ?_, hstatus'.trans hpublished, ?_⟩
    · exact hstep'.ids_eq.2.1.trans (hmapping.trans hstep.ids_eq.2.1.symm)
    · rw [profilesOf, profilesOf, hdefinition, hdefinition']
      exact hkey

/-! ### Publications -/

theorem newest_previous {version : KnowledgePackVersionRecord}
    (h : previousPackVersion db packId = some version) : Newest db version := by
  obtain ⟨hmem, hpack⟩ := previousPackVersion_eq_some h
  refine ⟨hmem, fun other hother hsame => ?_⟩
  have hfiltered : other ∈ db.packVersions.filter (·.knowledgePackId == packId) := by
    simpa using ⟨hother, hsame.trans hpack⟩
  exact le_of_getLast?_sortedBy h other hfiltered

theorem previous_none (h : previousPackVersion db packId = none) :
    ∀ version ∈ db.packVersions, version.knowledgePackId ≠ packId := by
  intro version hversion hpack
  have hempty := List.getLast?_eq_none_iff.mp h
  rw [sortedBy_eq_nil] at hempty
  have := List.filter_eq_nil_iff.mp hempty version hversion
  simp [hpack] at this

/-- A version of the pack of a publication has a smaller number than the new one. -/
theorem version_lt_new (now : Int) {version : KnowledgePackVersionRecord}
    (hversion : version ∈ db.packVersions) (hpack : version.knowledgePackId = packId) :
    version.version < (newPackVersion db user mapping packVersionId packId now).version := by
  cases hprevious : previousPackVersion db packId with
  | none => exact absurd hpack (previous_none hprevious version hversion)
  | some previous =>
    have hle := (newest_previous hprevious).newest version hversion
      (hpack.trans (previousPackVersion_eq_some hprevious).2.symm)
    simp only [newPackVersion, hprevious, Option.map_some, Option.getD_some]
    omega

/-- The newest version of a pack is the previous one of its next publication. -/
theorem previous_of_newest (h : Current db) {version : KnowledgePackVersionRecord}
    (hnewest : Newest db version) (hpack : version.knowledgePackId = packId) :
    previousPackVersion db packId = some version := by
  cases hprevious : previousPackVersion db packId with
  | none => exact absurd hpack (previous_none hprevious version hnewest.mem)
  | some previous =>
    have hnew := newest_previous hprevious
    have hsame := hpack.trans (previousPackVersion_eq_some hprevious).2.symm
    have hnumber := Nat.le_antisymm (hnew.newest version hnewest.mem hsame)
      (hnewest.newest previous hnew.mem hsame.symm)
    rw [h.numbers version hnewest.mem previous hnew.mem hsame hnumber]

section Publish

variable (h : Publishes db env user mappingVersionId packId packVersionId db' mapping pack)
include h

/-- The newest versions after a publication. -/
theorem newest_publish {version : KnowledgePackVersionRecord} :
    Newest db' version ↔
      version = newPackVersion db user mapping packVersionId pack.knowledgePackId env.now ∨
        Newest db version ∧ version.knowledgePackId ≠ pack.knowledgePackId := by
  constructor
  · rintro ⟨hmem, hnewest⟩
    rw [h.packVersions] at hmem hnewest
    rcases List.mem_append.mp hmem with hold | hnew
    · refine Or.inr ⟨⟨hold, fun other hother => hnewest other (List.mem_append_left _ hother)⟩,
        fun hpack => ?_⟩
      have hle := hnewest _ (List.mem_append_right _ (List.mem_singleton_self _)) hpack.symm
      have hlt : version.version < (newPackVersion db user mapping packVersionId
          pack.knowledgePackId env.now).version := version_lt_new env.now hold hpack
      omega
    · exact Or.inl (List.mem_singleton.mp hnew)
  · rintro (rfl | ⟨⟨hmem, hnewest⟩, hpack⟩)
    · refine ⟨by rw [h.packVersions]; simp, fun other hother hpack => ?_⟩
      rw [h.packVersions] at hother
      rcases List.mem_append.mp hother with hold | hnew
      · exact (version_lt_new env.now hold hpack).le
      · rw [List.mem_singleton.mp hnew]
    · refine ⟨by rw [h.packVersions]; exact List.mem_append_left _ hmem, fun other hother hsame => ?_⟩
      rw [h.packVersions] at hother
      rcases List.mem_append.mp hother with hold | hnew
      · exact hnewest other hold hsame
      · rw [List.mem_singleton.mp hnew] at hsame
        exact absurd hsame.symm hpack

/-- A version number is given once within a pack, also by a publication. -/
theorem numbers_publish (hcurrent : Current db) :
    ∀ v ∈ db'.packVersions, ∀ w ∈ db'.packVersions, v.knowledgePackId = w.knowledgePackId →
      v.version = w.version → v = w := by
  intro v hv w hw hpack hnumber
  rw [h.packVersions] at hv hw
  rcases List.mem_append.mp hv with holdV | hnewV <;>
    rcases List.mem_append.mp hw with holdW | hnewW
  · exact hcurrent.numbers v holdV w holdW hpack hnumber
  · rw [List.mem_singleton.mp hnewW] at hpack hnumber
    have hlt : v.version < (newPackVersion db user mapping packVersionId pack.knowledgePackId
        env.now).version := version_lt_new env.now holdV hpack
    omega
  · rw [List.mem_singleton.mp hnewV] at hpack hnumber
    have hlt : w.version < (newPackVersion db user mapping packVersionId pack.knowledgePackId
        env.now).version := version_lt_new env.now holdW hpack.symm
    omega
  · exact (List.mem_singleton.mp hnewV).trans (List.mem_singleton.mp hnewW).symm

/-- Where the clock has not gone back, the new version is published last. -/
theorem dates_publish (hcurrent : Current db)
    (hclock : ∀ version ∈ db.packVersions, version.publishedAt ≤ env.now) :
    ∀ v ∈ db'.packVersions, ∀ w ∈ db'.packVersions, v.knowledgePackId = w.knowledgePackId →
      v.version ≤ w.version → v.publishedAt ≤ w.publishedAt := by
  intro v hv w hw hpack hnumber
  rw [h.packVersions] at hv hw
  rcases List.mem_append.mp hw with holdW | hnewW
  · rcases List.mem_append.mp hv with holdV | hnewV
    · exact hcurrent.dates v holdV w holdW hpack hnumber
    · rw [List.mem_singleton.mp hnewV] at hpack hnumber
      have hlt : w.version < (newPackVersion db user mapping packVersionId pack.knowledgePackId
        env.now).version := version_lt_new env.now holdW hpack.symm
      omega
  · rw [List.mem_singleton.mp hnewW]
    rcases List.mem_append.mp hv with holdV | hnewV
    · exact hclock v holdV
    · rw [List.mem_singleton.mp hnewV]

/-- The new version is one of a pack that is stored. -/
theorem newest_new (hinv : Inv db)
    (hversions : VersionsStep sha256 db
      (.publish env user mappingVersionId packId packVersionId) db'.mappings) :
    ∃ new, Newest db' new ∧ VersionOk db' new pack ∧
      new.mappingVersionIds =
        (newPackVersion db user mapping packVersionId pack.knowledgePackId env.now).mappingVersionIds :=
  ⟨_, (newest_publish h).mpr (Or.inl rfl), newPackVersion_ok hinv h hversions, rfl⟩

theorem packs_kept : ∀ other ∈ db.packs, other ∈ db'.packs := by
  intro other hother
  rcases h.packs.new with hpacks | ⟨hpacks, -⟩ <;> rw [hpacks]
  · exact hother
  · exact List.mem_append_left _ hother

/-- A mapping that was issued before the publication is still in the newest version of its pack. -/
theorem listed_before (hinv : Inv db) (hcurrent : Current db)
    (hversions : VersionsStep sha256 db
      (.publish env user mappingVersionId packId packVersionId) db'.mappings)
    {old : MappingVersion} (hold : old ∈ db.mappings) (hissued : isIssued old.status = true) :
    ∃ version record, Newest db' version ∧ VersionOk db' version record ∧
      record.organizationId = old.organizationId ∧ record.packKey = packKey (profilesOf old) ∧
        ∃ c ∈ db'.mappings, c.mappingVersionId ∈ version.mappingVersionIds ∧
          c.mappingId = old.mappingId := by
  obtain ⟨version, record, hnewest, hok, horganization, hkey, c, hc, hlisted, hmapping⟩ :=
    hcurrent.listed old hold hissued
  by_cases hpack : version.knowledgePackId = pack.knowledgePackId
  · have hprevious := previous_of_newest hcurrent hnewest hpack
    obtain rfl : record = pack := Table.eq_of_key hinv.packIds hok.mem
      (previous_record hinv h hprevious).mem (hok.pack.trans hpack)
    obtain ⟨new, hnew, hnewOk, hids⟩ := newest_new h hinv hversions
    refine ⟨new, record, hnew, hnewOk, horganization, hkey, ?_⟩
    by_cases hsame : old.mappingId = mapping.mappingId
    · exact ⟨_, mem_published hinv.keyed.versions h,
        hids ▸ mem_newPackVersion.mpr (Or.inr rfl), hsame.symm⟩
    · have hother : c.mappingId ≠ mapping.mappingId := hmapping ▸ hsame
      exact ⟨c, mem_of_other hinv.keyed.versions h hc hother,
        hids ▸ mem_newPackVersion.mpr (Or.inl (mem_retained.mpr
          ⟨version, hprevious, c, hc, hlisted, hother, rfl⟩)), hmapping⟩
  · obtain ⟨c', hc', hstep⟩ := hversions.kept c hc
    refine ⟨version, record, (newest_publish h).mpr (Or.inr ⟨hnewest, hpack⟩),
      hok.kept hinv.keyed hversions (packs_kept h), horganization, hkey, c', hc', ?_, ?_⟩
    · exact hstep.ids_eq.1 ▸ hlisted
    · exact hstep.ids_eq.2.1.trans hmapping

/-- Every issued mapping is in the newest version of its pack, also after a publication. -/
theorem listed_publish (hinv : Inv db) (hcurrent : Current db)
    (horganization : ∀ a ∈ db.mappings, ∀ b ∈ db.mappings, a.mappingId = b.mappingId →
      a.organizationId = b.organizationId)
    (hone : ∀ a ∈ db.mappings, ∀ b ∈ db.mappings, a.mappingId = b.mappingId →
      a.status = .published → b.status = .published → a = b)
    (hversions : VersionsStep sha256 db
      (.publish env user mappingVersionId packId packVersionId) db'.mappings)
    {a : MappingVersion} (ha : a ∈ db'.mappings) (hissued : isIssued a.status = true) :
    ∃ version record, Newest db' version ∧ VersionOk db' version record ∧
      record.organizationId = a.organizationId ∧ record.packKey = packKey (profilesOf a) ∧
        ∃ c ∈ db'.mappings, c.mappingVersionId ∈ version.mappingVersionIds ∧
          c.mappingId = a.mappingId := by
  rcases origin_of_published hinv.keyed.versions horganization hone h ha with
    rfl | ⟨old, hold, rfl, hpublished, -⟩ | ⟨hold, -⟩
  · obtain ⟨new, hnew, hnewOk, hids⟩ := newest_new h hinv hversions
    exact ⟨new, pack, hnew, hnewOk, h.packs.organization.trans h.organization.symm,
      h.packs.packKey, _, mem_published hinv.keyed.versions h,
      hids ▸ mem_newPackVersion.mpr (Or.inr rfl), rfl⟩
  · have hbefore := listed_before h hinv hcurrent hversions hold (by rw [hpublished]; rfl)
    exact hbefore
  · exact listed_before h hinv hcurrent hversions hold hissued

/-- A version of another pack that lists the published mapping does so for other profiles. -/
theorem profiles_moved (hinv : Inv db) (hinv' : Inv db')
    (horganization : ∀ a ∈ db.mappings, ∀ b ∈ db.mappings, a.mappingId = b.mappingId →
      a.organizationId = b.organizationId)
    {version : KnowledgePackVersionRecord} (hversion : version ∈ db.packVersions)
    (hpack : version.knowledgePackId ≠ pack.knowledgePackId)
    {old : MappingVersion} (hold : old ∈ db.mappings)
    (hlisted : old.mappingVersionId ∈ version.mappingVersionIds)
    (hmapping : old.mappingId = mapping.mappingId) :
    packKey (profilesOf (asPublished env.now packVersionId mapping)) ≠ packKey (profilesOf old) := by
  intro hkey
  obtain ⟨record, hok⟩ := hinv.versions version hversion
  obtain ⟨other, hother, hsame, hotherOrganization, -, hotherKey⟩ := hok.issued _ hlisted
  obtain rfl := eq_of_versionId hinv.keyed.versions hother hold hsame
  have hrecord : record.organizationId = pack.organizationId := by
    rw [hok.organization, ← hotherOrganization, horganization other hold mapping h.mem hmapping,
      h.organization, h.packs.organization]
  have hrecordKey : record.packKey = pack.packKey := by
    rw [← hotherKey, ← hkey, h.packs.packKey]
    rfl
  have hsamePack := hinv'.packKeys record (packs_kept h _ hok.mem) pack h.packs.mem hrecord hrecordKey
  exact hpack (hok.pack.symm.trans (congrArg _ hsamePack))

/-- A row that the newest version lists and that was published or superseded before is not the
published one. -/
theorem not_listed_approved (hinv : Inv db) {row : MappingVersion} (hrow : row ∈ db.mappings)
    (happroved : row.status ≠ .approved)
    (hid : row.mappingVersionId ∈
      (newPackVersion db user mapping packVersionId pack.knowledgePackId env.now).mappingVersionIds) :
    ∃ previous, previousPackVersion db pack.knowledgePackId = some previous ∧
      row.mappingVersionId ∈ previous.mappingVersionIds ∧ row.mappingId ≠ mapping.mappingId := by
  rcases mem_newPackVersion.mp hid with hretained | hown
  · obtain ⟨previous, hprevious, other, hother, hlisted, hne, hsame⟩ := mem_retained.mp hretained
    obtain rfl := eq_of_versionId hinv.keyed.versions hother hrow hsame
    exact ⟨previous, hprevious, hlisted, hne⟩
  · rw [eq_of_versionId hinv.keyed.versions hrow h.mem hown] at happroved
    exact absurd h.approved happroved

/-- A superseded row that a newest version lists was replaced for other profiles, also after a
publication. -/
theorem retained_publish (hinv : Inv db) (hinv' : Inv db') (hcurrent : Current db)
    (horganization : ∀ a ∈ db.mappings, ∀ b ∈ db.mappings, a.mappingId = b.mappingId →
      a.organizationId = b.organizationId)
    (hone : ∀ a ∈ db.mappings, ∀ b ∈ db.mappings, a.mappingId = b.mappingId →
      a.status = .published → b.status = .published → a = b)
    {version : KnowledgePackVersionRecord} (hnewest : Newest db' version)
    {row : MappingVersion} (hrow : row ∈ db'.mappings)
    (hid : row.mappingVersionId ∈ version.mappingVersionIds) (hsuperseded : row.status = .superseded) :
    ∃ current ∈ db'.mappings, current.mappingId = row.mappingId ∧ current.status = .published ∧
      packKey (profilesOf current) ≠ packKey (profilesOf row) := by
  have hpublished := mem_published hinv.keyed.versions h
  rcases origin_of_published hinv.keyed.versions horganization hone h hrow with
    rfl | ⟨old, hold, rfl, holdPublished, hmapping⟩ | ⟨hold, -⟩
  · cases hsuperseded
  · -- the row that this publication supersedes
    rcases (newest_publish h).mp hnewest with rfl | ⟨hversion, hpack⟩
    · obtain ⟨-, -, -, hne⟩ := not_listed_approved h hinv hold (by rw [holdPublished]; decide) hid
      exact absurd hmapping hne
    · have hmoved := profiles_moved h hinv hinv' horganization hversion.mem hpack hold hid hmapping
      exact ⟨_, hpublished, hmapping.symm, rfl, hmoved⟩
  · -- a row that was superseded before
    rcases (newest_publish h).mp hnewest with rfl | ⟨hversion, hpack⟩
    · obtain ⟨previous, hprevious, hlisted, hne⟩ :=
        not_listed_approved h hinv hold (by rw [hsuperseded]; decide) hid
      obtain ⟨current, hmem, hsameMapping, hrest⟩ := hcurrent.retained previous
        (newest_previous hprevious) row hold hlisted hsuperseded
      exact ⟨current, mem_of_other hinv.keyed.versions h hmem (hsameMapping ▸ hne),
        hsameMapping, hrest⟩
    · obtain ⟨current, hmem, hsameMapping, hrest⟩ := hcurrent.retained version hversion row hold
        hid hsuperseded
      by_cases hmapping : row.mappingId = mapping.mappingId
      · exact ⟨_, hpublished, hmapping.symm, rfl,
          profiles_moved h hinv hinv' horganization hversion.mem hpack hold hid hmapping⟩
      · exact ⟨current, mem_of_other hinv.keyed.versions h hmem (hsameMapping ▸ hmapping),
          hsameMapping, hrest⟩

/-- A publication keeps what the newest versions hold. -/
theorem current_publish (hinv : Inv db) (hinv' : Inv db') (hcurrent : Current db)
    (horganization : ∀ a ∈ db.mappings, ∀ b ∈ db.mappings, a.mappingId = b.mappingId →
      a.organizationId = b.organizationId)
    (hone : ∀ a ∈ db.mappings, ∀ b ∈ db.mappings, a.mappingId = b.mappingId →
      a.status = .published → b.status = .published → a = b)
    (hclock : ∀ version ∈ db.packVersions, version.publishedAt ≤ env.now)
    (hversions : VersionsStep sha256 db
      (.publish env user mappingVersionId packId packVersionId) db'.mappings) : Current db' where
  numbers := numbers_publish h hcurrent
  dates := dates_publish h hcurrent hclock
  listed := fun _ ha hissued => listed_publish h hinv hcurrent horganization hone hversions ha hissued
  retained := fun _ hnewest _ hrow hid hsuperseded =>
    retained_publish h hinv hinv' hcurrent horganization hone hnewest hrow hid hsuperseded

end Publish

/-! ### Runs -/

/-- The clock does not go back between publications. -/
def ClockRuns (events : List Event) : Prop := (events.filterMap clock).Pairwise (· ≤ ·)

/-- What every run keeps, on a clock that does not go back. -/
theorem current_run (blocks : List ReviewBlock) (events : List Event)
    (hdrawn : ∀ event ∈ events, ∀ id ∈ drawnIds event, id.version = 4)
    (hclock : ClockRuns events) :
    Current (run uuid5 sha256 manifestJson (.untrained blocks) events) ∧
      ∀ version ∈ (run uuid5 sha256 manifestJson (.untrained blocks) events).packVersions,
        version.publishedAt ∈ events.filterMap clock := by
  induction events using List.reverseRecOn with
  | nil =>
    have hempty : run uuid5 sha256 manifestJson (.untrained blocks) [] = .untrained blocks := rfl
    rw [hempty]
    refine ⟨⟨?_, ?_, ?_, ?_⟩, ?_⟩ <;> simp [Database.untrained]
  | append_singleton events event ih =>
    have hdrawnBefore := fun other (hother : other ∈ events) =>
      hdrawn other (List.mem_append_left _ hother)
    rw [ClockRuns, List.filterMap_append, List.pairwise_append] at hclock
    obtain ⟨hcurrent, htimes⟩ := ih hdrawnBefore hclock.1
    have hinv : Inv (run uuid5 sha256 manifestJson (.untrained blocks) events) :=
      inv_run (inv_untrained blocks) events hdrawnBefore
    have hdrawnEvent : ∀ id ∈ drawnIds event, id.version = 4 :=
      hdrawn event (List.mem_append_right _ (List.mem_singleton_self event))
    have hkept : ∀ version ∈ (run uuid5 sha256 manifestJson (.untrained blocks)
        events).packVersions, version.publishedAt ∈ (events ++ [event]).filterMap clock := by
      intro version hversion
      rw [List.filterMap_append]
      exact List.mem_append_left _ (htimes version hversion)
    rw [Safety.run_concat, step]
    split
    · rename_i db' htransact
      by_cases hpublish : ∃ env user versionId packId packVersionId,
          event = .publish env user versionId packId packVersionId
      · obtain ⟨env, user, versionId, packId, packVersionId, rfl⟩ := hpublish
        obtain ⟨mapping, pack, hpub⟩ := publishMapping_spec htransact
        have hsafe : Safety.Inv uuid5 sha256 manifestJson (.untrained blocks) events
            (run uuid5 sha256 manifestJson (.untrained blocks) events) :=
          Safety.inv_run blocks events
        obtain ⟨hversions, -⟩ := transact_steps hinv.keyed htransact
        have hnow : env.now ∈ [Event.publish env user versionId packId packVersionId].filterMap
            clock := List.mem_singleton_self _
        refine ⟨current_publish hpub hinv (inv_transact hinv hdrawnEvent htransact) hcurrent
          hsafe.organization hsafe.published (fun version hversion => ?_) hversions, ?_⟩
        · exact hclock.2.2 _ (htimes version hversion) _ hnow
        · intro version hversion
          rw [hpub.packVersions] at hversion
          rcases List.mem_append.mp hversion with hold | hnew
          · exact hkept version hold
          · rw [List.mem_singleton.mp hnew, List.filterMap_append]
            exact List.mem_append_right _ hnow
      · have hother : ∀ env user versionId packId packVersionId,
            event ≠ .publish env user versionId packId packVersionId :=
          fun env user versionId packId packVersionId heq =>
            hpublish ⟨env, user, versionId, packId, packVersionId, heq⟩
        refine ⟨current_other hinv hcurrent htransact hother, ?_⟩
        rw [(transact_packs htransact hother).2]
        exact hkept
    · exact ⟨hcurrent, hkept⟩

end Steps

/-! ## Loading -/

section Load

variable {db : Database} {organizationId : UUID} {profileVersionId : String}
  {version : KnowledgePackVersionRecord}

/-- The versions of one pack belong to one organization. -/
theorem organization_of_pack (hinv : Inv db) {other : KnowledgePackVersionRecord}
    (hversion : version ∈ db.packVersions) (hother : other ∈ db.packVersions)
    (hpack : other.knowledgePackId = version.knowledgePackId) :
    other.organizationId = version.organizationId := by
  obtain ⟨record, hok⟩ := hinv.versions version hversion
  obtain ⟨record', hok'⟩ := hinv.versions other hother
  have hsame : record' = record := Table.eq_of_key hinv.packIds hok'.mem hok.mem
    (hok'.pack.trans (hpack.trans hok.pack.symm))
  rw [← hok'.organization, hsame, hok.organization]

theorem versionKey_le {v w : KnowledgePackVersionRecord} :
    versionKey v ≤ versionKey w ↔ v.publishedAt < w.publishedAt ∨ v.publishedAt = w.publishedAt ∧
      (v.version < w.version ∨ v.version = w.version ∧
        v.knowledgePackVersionId.int ≤ w.knowledgePackVersionId.int) := by
  simp only [versionKey, Prod.Lex.toLex_le_toLex]

/-- The latest versions are the newest ones: time and number agree. -/
theorem mem_latestByPack (hinv : Inv db) (hcurrent : Current db) :
    version ∈ latestByPack db organizationId ↔
      version.organizationId = organizationId ∧ Newest db version := by
  have hmem : ∀ v, v ∈ packVersionsOf db organizationId ↔
      v ∈ db.packVersions ∧ v.organizationId = organizationId := by
    intro v
    simp [packVersionsOf]
  simp only [latestByPack, List.mem_filter, hmem, List.all_eq_true, Bool.or_eq_true, bne_iff_ne,
    ne_eq, decide_eq_true_eq]
  constructor
  · rintro ⟨⟨hversion, horganization⟩, hlatest⟩
    refine ⟨horganization, hversion, fun other hother hpack => ?_⟩
    have hotherOrg := (organization_of_pack hinv hversion hother hpack).trans horganization
    rcases hlatest other ⟨hother, hotherOrg⟩ with hne | hle
    · exact absurd hpack hne
    · by_contra hlt
      have hdate := hcurrent.dates version hversion other hother hpack.symm (by omega)
      rw [versionKey_le] at hle
      omega
  · rintro ⟨horganization, hversion, hnewest⟩
    refine ⟨⟨hversion, horganization⟩, fun other ⟨hother, _⟩ => ?_⟩
    by_cases hpack : other.knowledgePackId = version.knowledgePackId
    · refine Or.inr (versionKey_le.mpr ?_)
      have hnumber := hnewest other hother hpack
      have hdate := hcurrent.dates other hother version hversion hpack hnumber
      rcases Nat.lt_or_eq_of_le hnumber with hlt | heq
      · omega
      · rw [hcurrent.numbers other hother version hversion hpack heq]
        omega
    · exact Or.inl hpack

/-- A candidate holds published mappings for the profile only. -/
theorem isCandidate_iff (hinv : Inv db) {record : KnowledgePackRecord}
    (hok : VersionOk db version record) :
    isCandidate db version.organizationId profileVersionId version = true ↔
      ∀ row ∈ versionRows db version.organizationId version,
        row.status = .published ∧ profileVersionId ∈ profilesOf row := by
  have hlength := (versionRows_perm hok hinv.keyed).length_eq
  rw [List.length_map] at hlength
  have hnonempty : version.mappingVersionIds.isEmpty = false :=
    List.isEmpty_eq_false_iff.mpr hok.nonempty
  simp only [isCandidate, hnonempty, hlength, Bool.not_false, beq_self_eq_true, Bool.true_and,
    List.all_eq_true, isActive, Bool.and_eq_true, beq_iff_eq, List.contains_iff_mem]
  constructor
  · intro h row hrow
    exact ⟨(h row hrow).1.1.1, (h row hrow).2⟩
  · intro h row hrow
    obtain ⟨hpublished, happlies⟩ := h row hrow
    obtain ⟨hmem, -⟩ := (mem_versionRows hok hinv.keyed).mp hrow
    obtain ⟨hsettled, hissued⟩ := hinv.dated row hmem
    exact ⟨⟨⟨hpublished, hsettled (by rw [hpublished]; rfl)⟩, hissued (by rw [hpublished]; rfl)⟩,
      happlies⟩

/-- Every version lists a row. -/
theorem exists_versionRow (hinv : Inv db) {record : KnowledgePackRecord}
    (hok : VersionOk db version record) :
    ∃ row, row ∈ versionRows db version.organizationId version := by
  obtain ⟨id, hid⟩ := List.exists_mem_of_ne_nil _ hok.nonempty
  obtain ⟨row, hrow, rfl, -⟩ := hok.issued id hid
  exact ⟨row, (mem_versionRows hok hinv.keyed).mpr ⟨hrow, hid⟩⟩

/-- An adapter of a drawn row is found among the published mappings of a loaded pack. -/
theorem mem_loaded (hinv : Inv db) {baseline : List DeclarativeMapping}
    (hsealed : ∀ m ∈ baseline, m.mappingId.version ≠ 4 ∧ m.mappingVersionId.version ≠ 4)
    {record : KnowledgePackRecord} (hok : VersionOk db version record) {row : MappingVersion}
    (hrow : row ∈ db.mappings) :
    adapterOf row ∈ baseline ++ publishedMappings db version ↔
      row ∈ versionRows db version.organizationId version := by
  rw [List.mem_append, publishedMappings, List.mem_map]
  constructor
  · rintro (hold | ⟨other, hother, hsame⟩)
    · exact absurd (hinv.drawn row hrow).1 (hsealed _ hold).2
    · rw [mem_sortedBy] at hother
      have hmem := ((mem_versionRows hok hinv.keyed).mp hother).1
      have hid : other.mappingVersionId = row.mappingVersionId :=
        congrArg DeclarativeMapping.mappingVersionId hsame
      rwa [← eq_of_versionId hinv.keyed.versions hmem hrow hid]
  · intro hmem
    exact Or.inr ⟨row, (mem_sortedBy _).mpr hmem, rfl⟩

/-- The mappings published for one set of profiles are still published for it, and their
commands fit. -/
structure PublishedTogether (db : Database) (organizationId : UUID) (profileVersionId : String)
    (key : String) : Prop where
  same : ∀ row ∈ db.mappings, row.organizationId = organizationId → row.status = .published →
    profileVersionId ∈ profilesOf row → packKey (profilesOf row) = key
  kept : ∀ row ∈ db.mappings, row.organizationId = organizationId → isIssued row.status = true →
    packKey (profilesOf row) = key → ∀ current ∈ db.mappings, current.status = .published →
      current.mappingId = row.mappingId → packKey (profilesOf current) = key
  fit : ∀ row ∈ db.mappings, row.organizationId = organizationId → row.status = .published →
    profileVersionId ∈ profilesOf row → commandsFit row.definition = true

/-- The loaded pack has the published mappings of the profile, and no superseded one. -/
def Complete (db : Database) (organizationId : UUID) (profileVersionId : String)
    (pack : KnowledgePack) : Prop :=
  (∀ row ∈ db.mappings, row.organizationId = organizationId → row.status = .published →
    profileVersionId ∈ profilesOf row → adapterOf row ∈ pack.mappings) ∧
  ∀ row ∈ db.mappings, row.status = .superseded → adapterOf row ∉ pack.mappings

/-- The newest version of a pack lists a version of each mapping issued for its profiles. -/
theorem listed_in (hinv : Inv db) (hcurrent : Current db) {record : KnowledgePackRecord}
    (hok : VersionOk db version record) (hnewest : Newest db version) {row : MappingVersion}
    (hrow : row ∈ db.mappings) (hissued : isIssued row.status = true)
    (horganization : row.organizationId = version.organizationId)
    (hkey : packKey (profilesOf row) = record.packKey) :
    ∃ c ∈ versionRows db version.organizationId version, c.mappingId = row.mappingId := by
  obtain ⟨version', record', hnewest', hok', horganization', hkey', c, hc, hlisted, hmapping⟩ :=
    hcurrent.listed row hrow hissued
  have hrecord : record' = record := by
    refine hinv.packKeys record' hok'.mem record hok.mem ?_ (hkey'.trans hkey)
    rw [horganization', horganization, hok.organization]
  have hpack : version'.knowledgePackId = version.knowledgePackId := by
    rw [← hok'.pack, hrecord, hok.pack]
  have hsame : version' = version := by
    refine hcurrent.numbers version' hnewest'.mem version hnewest.mem hpack ?_
    exact Nat.le_antisymm (hnewest.newest version' hnewest'.mem hpack)
      (hnewest'.newest version hnewest.mem hpack.symm)
  exact ⟨c, (mem_versionRows hok hinv.keyed).mpr ⟨hc, hsame ▸ hlisted⟩, hmapping⟩

/-- The one candidate, where the mappings are published together. -/
theorem candidates_eq (hinv : Inv db) (hcurrent : Current db) {key : String}
    (htogether : PublishedTogether db organizationId profileVersionId key)
    (hsome : ∃ row ∈ db.mappings, row.organizationId = organizationId ∧ row.status = .published ∧
      profileVersionId ∈ profilesOf row) :
    ∃ version record, VersionOk db version record ∧ Newest db version ∧
      version.organizationId = organizationId ∧ record.packKey = key ∧
      (latestByPack db organizationId).filter
        (isCandidate db organizationId profileVersionId) = [version] ∧
      ∀ row ∈ versionRows db version.organizationId version,
        row.status = .published ∧ profileVersionId ∈ profilesOf row := by
  obtain ⟨first, hfirst, hfirstOrg, hfirstPublished, hfirstApplies⟩ := hsome
  obtain ⟨version, record, hnewest, hok, hrecordOrg, hkey, -⟩ :=
    hcurrent.listed first hfirst (by rw [hfirstPublished]; rfl)
  have hversionOrg : version.organizationId = organizationId :=
    hok.organization.symm.trans (hrecordOrg.trans hfirstOrg)
  have hrecordKey : record.packKey = key :=
    hkey.trans (htogether.same first hfirst hfirstOrg hfirstPublished hfirstApplies)
  have hrows : ∀ row ∈ versionRows db version.organizationId version,
      row.status = .published ∧ profileVersionId ∈ profilesOf row := by
    intro row hrow
    obtain ⟨hmem, hid⟩ := (mem_versionRows hok hinv.keyed).mp hrow
    obtain ⟨hrowOrg, hissued, hrowKey⟩ := versionRows_spec hok hinv.keyed hrow
    refine ⟨?_, (profiles_of_packKey (hrowKey.trans hkey) profileVersionId).mpr hfirstApplies⟩
    by_contra hnot
    have hsuperseded : row.status = .superseded := by
      cases hstatus : row.status <;> simp [hstatus, isIssued] at hissued hnot ⊢
    obtain ⟨current, hcurrentMem, hmapping, hpublished, hmoved⟩ :=
      hcurrent.retained version hnewest row hmem hid hsuperseded
    refine hmoved ((htogether.kept row hmem (hrowOrg.trans hversionOrg) hissued
      (hrowKey.trans hrecordKey) current hcurrentMem hpublished hmapping).trans ?_)
    exact (hrowKey.trans hrecordKey).symm
  refine ⟨version, record, hok, hnewest, hversionOrg, hrecordKey, ?_, hrows⟩
  have hmem : version ∈ (latestByPack db organizationId).filter
      (isCandidate db organizationId profileVersionId) := by
    rw [List.mem_filter, mem_latestByPack hinv hcurrent, ← hversionOrg]
    exact ⟨⟨rfl, hnewest⟩, (isCandidate_iff hinv hok).mpr hrows⟩
  have hunique : ∀ other ∈ (latestByPack db organizationId).filter
      (isCandidate db organizationId profileVersionId), other = version := by
    intro other hother
    rw [List.mem_filter, mem_latestByPack hinv hcurrent] at hother
    obtain ⟨⟨hotherOrg, hotherNewest⟩, hcandidate⟩ := hother
    obtain ⟨otherRecord, hotherOk⟩ := hinv.versions other hotherNewest.mem
    rw [← hotherOrg, isCandidate_iff hinv hotherOk] at hcandidate
    obtain ⟨row, hrow⟩ := exists_versionRow hinv hotherOk
    obtain ⟨hpublished, happlies⟩ := hcandidate row hrow
    obtain ⟨hrowMem, -⟩ := (mem_versionRows hotherOk hinv.keyed).mp hrow
    obtain ⟨hrowOrg, -, hrowKey⟩ := versionRows_spec hotherOk hinv.keyed hrow
    have hsameRecord : otherRecord = record := by
      refine hinv.packKeys otherRecord hotherOk.mem record hok.mem ?_ ?_
      · rw [hotherOk.organization, hok.organization, hotherOrg, hversionOrg]
      · rw [← hrowKey, hrecordKey]
        exact htogether.same row hrowMem (hrowOrg.trans hotherOrg) hpublished happlies
    have hsamePack : other.knowledgePackId = version.knowledgePackId := by
      rw [← hotherOk.pack, hsameRecord, hok.pack]
    refine hcurrent.numbers other hotherNewest.mem version hnewest.mem hsamePack ?_
    exact Nat.le_antisymm (hnewest.newest other hotherNewest.mem hsamePack)
      (hotherNewest.newest version hnewest.mem hsamePack.symm)
  have hnodup : ((latestByPack db organizationId).filter
      (isCandidate db organizationId profileVersionId)).Nodup := by
    refine List.Nodup.filter _ (List.Nodup.filter _ (List.nodup_reverse.mpr ?_))
    exact (sortedBy_perm _ _).nodup_iff.mpr (List.Nodup.filter _ (List.Nodup.of_map _ hinv.versionIds))
  exact List.perm_singleton.mp ((List.perm_ext_iff_of_nodup hnodup (List.nodup_singleton _)).mpr
    fun other => ⟨fun h => List.mem_singleton.mpr (hunique other h),
      fun h => List.mem_singleton.mp h ▸ hmem⟩)

variable (uuid5 : UUID → String → UUID)

/-- The loaded pack of mappings that are published together. -/
theorem load_together (hinv : Inv db) (hcurrent : Current db)
    (hone : ∀ a ∈ db.mappings, ∀ b ∈ db.mappings, a.mappingId = b.mappingId →
      a.status = .published → b.status = .published → a = b) {key : String}
    (htogether : PublishedTogether db organizationId profileVersionId key)
    (hsome : ∃ row ∈ db.mappings, row.organizationId = organizationId ∧ row.status = .published ∧
      profileVersionId ∈ profilesOf row) (profile : ProfileManifest) :
    ∃ pack, loadActivePublishedKnowledgePack uuid5 db organizationId profileVersionId
        (some profile) = .ok (some pack) ∧
      Complete db organizationId profileVersionId pack := by
  obtain ⟨version, record, hok, hnewest, hversionOrg, hkey, hcandidates, hrows⟩ :=
    candidates_eq hinv hcurrent htogether hsome
  have hfit : ∀ row ∈ versionRows db version.organizationId version,
      commandsFit row.definition = true := fun row hrow =>
    htogether.fit row ((mem_versionRows hok hinv.keyed).mp hrow).1
      ((versionRows_spec hok hinv.keyed hrow).1.trans hversionOrg) (hrows row hrow).1
      (hrows row hrow).2
  obtain ⟨any, hany⟩ := exists_versionRow hinv hok
  obtain ⟨baseline, pack, hbaseline, hmappings, hload, -⟩ := loadVersion_spec uuid5 hinv
    hnewest.mem ⟨any, hany, (hrows any hany).2⟩ profile
  obtain ⟨_, hbaseline', -, hsealed⟩ := baseline_spec uuid5 profile profileVersionId
  obtain rfl := Except.ok.inj (hbaseline.symm.trans hbaseline')
  refine ⟨pack, ?_, fun row hrow horganization hpublished happlies => ?_,
    fun row hrow hsuperseded hmem => ?_⟩
  · have hloaded := hload hfit
    rw [hversionOrg] at hloaded
    simp only [loadActivePublishedKnowledgePack, hcandidates, hloaded]
    rfl
  · rw [hmappings, mem_loaded hinv hsealed hok hrow]
    have hrowKey := htogether.same row hrow horganization hpublished happlies
    obtain ⟨c, hc, hmapping⟩ := listed_in hinv hcurrent hok hnewest hrow
      (by rw [hpublished]; rfl) (horganization.trans hversionOrg.symm) (hrowKey.trans hkey.symm)
    have hcMem := ((mem_versionRows hok hinv.keyed).mp hc).1
    rwa [← hone c hcMem row hrow hmapping (hrows c hc).1 hpublished]
  · rw [hmappings, mem_loaded hinv hsealed hok hrow] at hmem
    rw [(hrows row hmem).1] at hsuperseded
    cases hsuperseded

/-- A complete pack has mappings that are published together. -/
theorem together_of_complete (hinv : Inv db) (hcurrent : Current db)
    (hone : ∀ a ∈ db.mappings, ∀ b ∈ db.mappings, a.mappingId = b.mappingId →
      a.status = .published → b.status = .published → a = b) {profile : ProfileManifest}
    {pack : KnowledgePack}
    (hload : loadActivePublishedKnowledgePack uuid5 db organizationId profileVersionId
      (some profile) = .ok (some pack))
    (hcomplete : Complete db organizationId profileVersionId pack) :
    ∃ key, PublishedTogether db organizationId profileVersionId key := by
  simp only [loadActivePublishedKnowledgePack] at hload
  split at hload
  · rename_i version hcandidates
    obtain ⟨loaded, hloaded, hsame⟩ := except_bind_eq_ok.mp hload
    obtain rfl := Option.some.inj (except_pure_eq_ok.mp hsame)
    have hmem : version ∈ (latestByPack db organizationId).filter
        (isCandidate db organizationId profileVersionId) := by rw [hcandidates]; simp
    rw [List.mem_filter, mem_latestByPack hinv hcurrent] at hmem
    obtain ⟨⟨rfl, hnewest⟩, hcandidate⟩ := hmem
    obtain ⟨record, hok⟩ := hinv.versions version hnewest.mem
    have hrows := (isCandidate_iff hinv hok).mp hcandidate
    obtain ⟨any, hany⟩ := exists_versionRow hinv hok
    obtain ⟨baseline, pack', hbaseline, hmappings, hfitLoad, hfit⟩ := loadVersion_spec uuid5 hinv
      hnewest.mem ⟨any, hany, (hrows any hany).2⟩ profile
    have hallFit := hfit (by rw [hloaded]; rfl)
    obtain rfl : loaded = pack' := Except.ok.inj (hloaded.symm.trans (hfitLoad hallFit))
    obtain ⟨_, hbaseline', -, hsealed⟩ := baseline_spec uuid5 profile profileVersionId
    obtain rfl := Except.ok.inj (hbaseline.symm.trans hbaseline')
    have hlisted : ∀ row ∈ db.mappings, row.organizationId = version.organizationId →
        row.status = .published → profileVersionId ∈ profilesOf row →
          row ∈ versionRows db version.organizationId version := by
      intro row hrow horganization hpublished happlies
      have hadapter := hcomplete.1 row hrow horganization hpublished happlies
      rwa [hmappings, mem_loaded hinv hsealed hok hrow] at hadapter
    refine ⟨record.packKey, ?_, ?_, ?_⟩
    · intro row hrow horganization hpublished happlies
      exact (versionRows_spec hok hinv.keyed
        (hlisted row hrow horganization hpublished happlies)).2.2
    · intro row hrow horganization hissued hkey current hcurrentMem hpublished hmapping
      obtain ⟨c, hc, hcMapping⟩ := listed_in hinv hcurrent hok hnewest hrow hissued horganization hkey
      have hcMem := ((mem_versionRows hok hinv.keyed).mp hc).1
      rw [← hone c hcMem current hcurrentMem (hcMapping.trans hmapping.symm) (hrows c hc).1
        hpublished]
      exact (versionRows_spec hok hinv.keyed hc).2.2
    · intro row hrow horganization hpublished happlies
      exact hallFit row (hlisted row hrow horganization hpublished happlies)
  · cases hload

end Load

/-- In every run, with ids of `uuid4` and a clock that does not go back, the pack of fresh
audits of a profile with published mappings has all of these and no superseded mapping
exactly when the mappings are published together. -/
theorem active_pack_complete_iff (uuid5 : UUID → String → UUID) (sha256 : String → String)
    (manifestJson : List String → String) (blocks : List ReviewBlock) (events : List Event)
    (hdrawn : ∀ event ∈ events, ∀ id ∈ drawnIds event, id.version = 4)
    (hclock : ClockRuns events) (organizationId : UUID) (profileVersionId : String)
    (profile : ProfileManifest)
    (hsome : ∃ row ∈ (run uuid5 sha256 manifestJson (.untrained blocks) events).mappings,
      row.organizationId = organizationId ∧ row.status = .published ∧
        profileVersionId ∈ profilesOf row) :
    let db := run uuid5 sha256 manifestJson (.untrained blocks) events
    (∃ pack, loadActivePublishedKnowledgePack uuid5 db organizationId profileVersionId
        (some profile) = .ok (some pack) ∧ Complete db organizationId profileVersionId pack) ↔
      ∃ key, PublishedTogether db organizationId profileVersionId key := by
  intro db
  have hinv : Inv db := inv_run (inv_untrained blocks) events hdrawn
  obtain ⟨hcurrent, -⟩ : Current db ∧ _ := current_run blocks events hdrawn hclock
  have hsafe : Safety.Inv uuid5 sha256 manifestJson (.untrained blocks) events db :=
    Safety.inv_run blocks events
  constructor
  · rintro ⟨pack, hload, hcomplete⟩
    exact together_of_complete uuid5 hinv hcurrent hsafe.published hload hcomplete
  · rintro ⟨key, htogether⟩
    exact load_together uuid5 hinv hcurrent hsafe.published htogether hsome profile

/-- One published mapping of a profile is loaded. -/
theorem active_pack_complete_ntp :
    ∃ pack, loadActivePublishedKnowledgePack (UUID.ofTable [])
        (run (UUID.ofTable []) ntpSha256 acmeManifests (.untrained [])
          (acmePublication ntpDefinition)) acmeAdmin.organizationId "acme@1.0.0"
        (some acmeProfile) = .ok (some pack) ∧
      Complete (run (UUID.ofTable []) ntpSha256 acmeManifests (.untrained [])
        (acmePublication ntpDefinition)) acmeAdmin.organizationId "acme@1.0.0" pack := by
  obtain ⟨results, hrun, -⟩ := run_publication (UUID.ofTable []) ntpSha256 acmeManifests
    ntp_publishable acme_pack untrained_free
  have hrow : publishedRow (acmeEnvironment 0) acmeAdmin (acmeInput ntpDefinition) results
      (drawnId 7) ∈ (run (UUID.ofTable []) ntpSha256 acmeManifests (.untrained [])
        (acmePublication ntpDefinition)).mappings := by
    rw [acmePublication, hrun]
    exact List.mem_singleton_self _
  have hone : ∀ row ∈ (run (UUID.ofTable []) ntpSha256 acmeManifests (.untrained [])
      (acmePublication ntpDefinition)).mappings, row = publishedRow (acmeEnvironment 0) acmeAdmin
        (acmeInput ntpDefinition) results (drawnId 7) := by
    rw [acmePublication, hrun]
    intro row hrow
    exact List.mem_singleton.mp hrow
  refine (active_pack_complete_iff (UUID.ofTable []) ntpSha256 acmeManifests []
    (acmePublication ntpDefinition) (by decide +kernel) (List.pairwise_singleton _ _)
    acmeAdmin.organizationId "acme@1.0.0" acmeProfile
    ⟨_, hrow, rfl, rfl, List.mem_singleton_self _⟩).mpr ⟨packKey ["acme@1.0.0"], ?_, ?_, ?_⟩
  · intro row hrow _ _ _
    rw [hone row hrow]
    rfl
  · intro _ _ _ _ _ current hcurrent _ _
    rw [hone current hcurrent]
    rfl
  · intro row hrow _ _ _
    rw [hone row hrow]
    show commandsFit ntpDefinition = true
    decide +kernel

/-! ## Two sets of profiles -/

/-- A second mapping, for one more profile. -/
def clockDefinition : MappingDefinition :=
  ⟨presenceFields "clock" ["acme@1.0.0", "acme@2.0.0"], by decide +kernel⟩

def overlapSha256 : String → String := Parsing.tabulated (ntpDigests ++ acmeDigests clockDefinition
  "b31e75da3ed37292af9fbd5e9262882d97ce903ea8f140f7afa4f73322a10f82"
  "3bc7dd1e1ce32834cc5232d4f026518c86bb1bd4e5722a70a8a4a056584cb2d8"
  "3780909d80f43a406df189add74076bd0bda6d0216fd57642c1f82db456e5d9d"
  "fbbcef16719c05473efb782ff802a37b0a05dbf2467d5a1fbc506a1a6616782a")

def clockInput : CreateInput := presenceInput clockDefinition (drawnId 8) (drawnId 9)

def clockPack : KnowledgePackRecord :=
  { knowledgePackId := drawnId 11, organizationId := acmeAdmin.organizationId,
    packKey := packKey ["acme@1.0.0", "acme@2.0.0"], name := "Administrator validated mappings" }

section Overlap

variable (results : ValidationResults)

/-- The state after the first publication. -/
def ntpPublished : Database :=
  published (.untrained []) { Database.untrained [] with packs := [acmePack] } (acmeEnvironment 0)
    acmeAdmin (acmeInput ntpDefinition) (drawnId 5) (drawnId 7) acmePack.knowledgePackId results

theorem clock_publishable : Publishable (ntpPublished results) (acmeEnvironment 0) acmeAdmin
    clockInput (drawnId 10) where
  admin := by decide
  first := rfl
  unassigned := rfl
  key := by
    show ((Text.strip "NTP").isEmpty || decide (255 < "NTP".length)) = false
    decide +kernel
  versionFree := by
    intro row hrow
    rw [List.mem_singleton.mp hrow]
    show drawnId 3 ≠ drawnId 8
    decide
  mappingFree := by
    intro row hrow
    rw [List.mem_singleton.mp hrow]
    show drawnId 4 ≠ drawnId 9
    decide
  runFree := by
    intro run hrun
    rw [List.mem_singleton.mp hrun]
    show drawnId 5 ≠ drawnId 10 ∧ drawnId 3 ≠ drawnId 8
    decide
  flat := rfl
  examples := by decide +kernel
  encodes := by decide +kernel
  contents := by decide +kernel
  apart := by
    refine List.any_eq_false.mpr fun row hrow => ?_
    rw [List.mem_singleton.mp (List.mem_of_mem_filter hrow)]
    show ¬ (drawnId 4 != drawnId 9 && ntpDefinition.targetFieldId == clockDefinition.targetFieldId &&
      ntpDefinition.structuralMatch == clockDefinition.structuralMatch) = true
    decide +kernel
  profiles := by decide +kernel

theorem clock_pack : packFor (ntpPublished results) acmeAdmin.organizationId (drawnId 11)
    (packKey clockInput.definition.profileApplicability.profileVersionIds) =
      .ok ({ ntpPublished results with packs := [acmePack, clockPack] }, clockPack) := by
  have hnone : [acmePack].find? (fun pack => pack.organizationId == acmeAdmin.organizationId &&
      pack.packKey == packKey ["acme@1.0.0", "acme@2.0.0"]) = none := by
    decide +kernel
  have hinsert : Table.insert? KnowledgePackRecord.knowledgePackId [acmePack] clockPack =
      some [acmePack, clockPack] := Table.insert?_fresh (by decide +kernel)
  have hpacks : (ntpPublished results).packs = [acmePack] := rfl
  have hkey : packKey clockInput.definition.profileApplicability.profileVersionIds =
      packKey ["acme@1.0.0", "acme@2.0.0"] := rfl
  unfold clockPack at hinsert
  simp only [packFor, hpacks, hkey, hnone, hinsert]
  rfl

theorem clock_free : ∀ version ∈ (ntpPublished results).packVersions,
    version.knowledgePackVersionId ≠ drawnId 12 := by
  intro version hversion
  rw [List.mem_singleton.mp hversion]
  show drawnId 7 ≠ drawnId 12
  decide

end Overlap

/-- A mapping for one profile is published, and then one for two. -/
def overlapEvents : List Event :=
  acmePublication ntpDefinition ++
    publication (acmeEnvironment 0) acmeAdmin clockInput (drawnId 10) (drawnId 11) (drawnId 12)

/-- Both mappings are published for the first profile, and the pack that is loaded has not
both of them. -/
theorem overlapping_profiles_incomplete :
    (∃ row ∈ (run (UUID.ofTable []) overlapSha256 acmeManifests (.untrained [])
        overlapEvents).mappings, row.organizationId = acmeAdmin.organizationId ∧
      row.status = .published ∧ "acme@1.0.0" ∈ profilesOf row) ∧
    ¬ ∃ pack, loadActivePublishedKnowledgePack (UUID.ofTable [])
        (run (UUID.ofTable []) overlapSha256 acmeManifests (.untrained []) overlapEvents)
        acmeAdmin.organizationId "acme@1.0.0" (some acmeProfile) = .ok (some pack) ∧
      Complete (run (UUID.ofTable []) overlapSha256 acmeManifests (.untrained []) overlapEvents)
        acmeAdmin.organizationId "acme@1.0.0" pack := by
  obtain ⟨results, hfirst, -⟩ := run_publication (UUID.ofTable []) overlapSha256 acmeManifests
    ntp_publishable acme_pack untrained_free
  obtain ⟨results', hsecond, -⟩ := run_publication (UUID.ofTable []) overlapSha256 acmeManifests
    (clock_publishable results) (clock_pack results) (clock_free results)
  have hrun : run (UUID.ofTable []) overlapSha256 acmeManifests (.untrained []) overlapEvents =
      published (ntpPublished results)
        { ntpPublished results with packs := [acmePack, clockPack] } (acmeEnvironment 0) acmeAdmin
        clockInput (drawnId 10) (drawnId 12) clockPack.knowledgePackId results' := by
    have happend : ∀ first second : List Event,
        run (UUID.ofTable []) overlapSha256 acmeManifests (.untrained []) (first ++ second) =
          run (UUID.ofTable []) overlapSha256 acmeManifests (run (UUID.ofTable []) overlapSha256
            acmeManifests (.untrained []) first) second :=
      fun first second => Runs.run_append _ _ first second
    rw [overlapEvents, happend, acmePublication, hfirst]
    exact hsecond
  have hntp : publishedRow (acmeEnvironment 0) acmeAdmin (acmeInput ntpDefinition) results
      (drawnId 7) ∈ (run (UUID.ofTable []) overlapSha256 acmeManifests (.untrained [])
        overlapEvents).mappings := by
    rw [hrun]
    exact List.mem_cons_self
  have hclockRow : publishedRow (acmeEnvironment 0) acmeAdmin clockInput results'
      (drawnId 12) ∈ (run (UUID.ofTable []) overlapSha256 acmeManifests (.untrained [])
        overlapEvents).mappings := by
    rw [hrun]
    exact List.mem_cons_of_mem _ List.mem_cons_self
  refine ⟨⟨_, hntp, rfl, rfl, List.mem_singleton_self _⟩, ?_⟩
  rintro ⟨pack, hload, hcomplete⟩
  have hdrawn : ∀ event ∈ overlapEvents, ∀ id ∈ drawnIds event, id.version = 4 := by
    decide +kernel
  have hclock : ClockRuns overlapEvents := by
    show ([(0 : Int), 0]).Pairwise (· ≤ ·)
    decide
  have hsafe : Safety.Inv (UUID.ofTable []) overlapSha256 acmeManifests (.untrained [])
      overlapEvents _ := Safety.inv_run [] overlapEvents
  obtain ⟨key, htogether⟩ := together_of_complete (UUID.ofTable [])
    (inv_run (inv_untrained []) overlapEvents hdrawn) (current_run [] overlapEvents hdrawn hclock).1
    hsafe.published hload hcomplete
  have hntpKey : packKey ["acme@1.0.0"] = key :=
    htogether.same _ hntp rfl rfl (List.mem_singleton_self _)
  have hclockKey : packKey ["acme@1.0.0", "acme@2.0.0"] = key :=
    htogether.same _ hclockRow rfl rfl List.mem_cons_self
  exact absurd (hntpKey.trans hclockKey.symm) (by decide +kernel)

end ConfigAuditor.Training.ActivePack
