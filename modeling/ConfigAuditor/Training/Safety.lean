import ConfigAuditor.Training.Publication

/-!
# Published mappings were approved and validated

In every run of the workflow a published or superseded version was approved by a mapping
administrator, with the definition a passed validation run of the version was executed
on; that definition is never changed, and a mapping has one published version at most.
-/
namespace ConfigAuditor.Training.Safety

open Library Dsl Service Lifecycle Publication

section History

variable (uuid5 : UUID → String → UUID) (sha256 : String → String)
  (manifestJson : List String → String) (start : Database)

/-- The version was in testing when an administrator approved it, and has the definition
it had then. -/
def ApprovedByAdmin (events : List Event) (version : MappingVersion) : Prop :=
  ∃ before env user after, events = before ++ .approve env user version.mappingVersionId :: after ∧
    isAdmin user = true ∧ ∃ row ∈ (run uuid5 sha256 manifestJson start before).mappings,
      row.mappingVersionId = version.mappingVersionId ∧ row.status = .testing ∧
        row.definition = version.definition

/-- A run was executed on a definition with the digest it recorded. -/
def ExecutedOn (events : List Event) (finished : MappingValidationRun)
    (results : ValidationResults) : Prop :=
  finished.results = some results ∧ ∃ before env organizationId after,
    events = before ++ .executeValidation env finished.validationRunId finished.mappingVersionId
      organizationId :: after ∧
    ∃ row ∈ (run uuid5 sha256 manifestJson start before).mappings,
      row.mappingVersionId = finished.mappingVersionId ∧
        digest sha256 row.definition = .ok results.definitionDigest

/-- A passed run of the version recorded the digest of its definition, and was executed
on that definition. -/
def ValidatedAs (events : List Event) (version : MappingVersion) : Prop :=
  ∃ finished ∈ (run uuid5 sha256 manifestJson start events).runs,
    finished.mappingVersionId = version.mappingVersionId ∧ finished.status = .passed ∧
    ∃ results, finished.results = some results ∧
      digest sha256 version.definition = .ok results.definitionDigest ∧
      ∃ before env organizationId after, events = before ++
          .executeValidation env finished.validationRunId version.mappingVersionId
            organizationId :: after ∧
        ∃ row ∈ (run uuid5 sha256 manifestJson start before).mappings,
          row.mappingVersionId = version.mappingVersionId ∧ row.definition = version.definition

/-- The digests of the definitions that occur in a run are different. -/
def DigestsApart (events : List Event) : Prop :=
  ∀ before after before' after', events = before ++ after → events = before' ++ after' →
    ∀ row ∈ (run uuid5 sha256 manifestJson start before).mappings,
    ∀ row' ∈ (run uuid5 sha256 manifestJson start before').mappings, ∀ text,
      digest sha256 row.definition = .ok text → digest sha256 row'.definition = .ok text →
        row.definition = row'.definition

/-- What every run keeps. -/
structure Inv (events : List Event) (db : Database) : Prop where
  keyed : Keyed db
  first : ∀ a ∈ db.mappings, ∃ b ∈ db.mappings, b.mappingId = a.mappingId ∧ b.version = 1
  organization : ∀ a ∈ db.mappings, ∀ b ∈ db.mappings, a.mappingId = b.mappingId →
    a.organizationId = b.organizationId
  published : ∀ a ∈ db.mappings, ∀ b ∈ db.mappings, a.mappingId = b.mappingId →
    a.status = .published → b.status = .published → a = b
  settled : ∀ version ∈ db.mappings, isSettled version.status = true →
    ApprovedByAdmin uuid5 sha256 manifestJson start events version ∧ PassedRun sha256 db version
  executed : ∀ finished ∈ db.runs, finished.status = .passed →
    ∃ results, ExecutedOn uuid5 sha256 manifestJson start events finished results

end History

section Preserved

variable {uuid5 : UUID → String → UUID} {sha256 : String → String}
  {manifestJson : List String → String} {start db db' : Database} {events : List Event}
  {event : Event}

theorem run_concat : run uuid5 sha256 manifestJson start (events ++ [event]) =
    step uuid5 sha256 manifestJson (run uuid5 sha256 manifestJson start events) event :=
  Runs.run_append _ _ _ _

theorem ApprovedByAdmin.concat {version : MappingVersion}
    (h : ApprovedByAdmin uuid5 sha256 manifestJson start events version) (event : Event) :
    ApprovedByAdmin uuid5 sha256 manifestJson start (events ++ [event]) version := by
  obtain ⟨before, env, user, after, rfl, hrest⟩ := h
  exact ⟨before, env, user, after ++ [event], by simp, hrest⟩

theorem ExecutedOn.concat {finished : MappingValidationRun} {results : ValidationResults}
    (h : ExecutedOn uuid5 sha256 manifestJson start events finished results) (event : Event) :
    ExecutedOn uuid5 sha256 manifestJson start (events ++ [event]) finished results := by
  obtain ⟨hresults, before, env, organizationId, after, rfl, hrest⟩ := h
  exact ⟨hresults, before, env, organizationId, after ++ [event], by simp, hrest⟩

/-- A finished run stays as it is. -/
theorem passedRun_kept {version version' : MappingVersion}
    (hruns : RunsStep sha256 db event db'.runs) (h : PassedRun sha256 db version)
    (hid : version'.mappingVersionId = version.mappingVersionId)
    (hdefinition : version'.definition = version.definition) : PassedRun sha256 db' version' := by
  obtain ⟨finished, hmem, hversion, hpassed, hresults⟩ := h
  obtain ⟨finished', hmem', hstep⟩ := hruns.kept finished hmem
  cases hstep with
  | same =>
    exact ⟨finished, hmem', hversion.trans hid.symm, hpassed, hdefinition ▸ hresults⟩
  | execute hpending => simp [hpending] at hpassed

/-- A mapping has a first version. -/
theorem first_kept
    (h : ∀ a ∈ db.mappings, ∃ b ∈ db.mappings, b.mappingId = a.mappingId ∧ b.version = 1)
    (hversions : VersionsStep sha256 db event db'.mappings) :
    ∀ a ∈ db'.mappings, ∃ b ∈ db'.mappings, b.mappingId = a.mappingId ∧ b.version = 1 := by
  have hold : ∀ old ∈ db.mappings, ∃ b ∈ db'.mappings,
      b.mappingId = old.mappingId ∧ b.version = 1 := by
    intro old hold
    obtain ⟨first, hfirst, hmapping, hversion⟩ := h old hold
    obtain ⟨b, hb, hstep⟩ := hversions.kept first hfirst
    obtain ⟨-, hsame, -, hnumber⟩ := hstep.ids_eq
    exact ⟨b, hb, hsame.trans hmapping, hnumber.trans hversion⟩
  intro a ha
  rcases hversions.origin a ha with ⟨old, hmem, hstep⟩ | hnew
  · rw [hstep.ids_eq.2.1]
    exact hold old hmem
  · rcases hnew.mapping with ⟨hversion, -⟩ | ⟨other, hother, hsame, -⟩
    · exact ⟨a, ha, rfl, hversion⟩
    · rw [← hsame]
      exact hold other hother

/-- The rows of a mapping belong to one organization: the first version of a mapping that
has versions already would not be unique. -/
theorem organization_kept (h : Inv uuid5 sha256 manifestJson start events db)
    (hversions : VersionsStep sha256 db event db'.mappings) :
    ∀ a ∈ db'.mappings, ∀ b ∈ db'.mappings, a.mappingId = b.mappingId →
      a.organizationId = b.organizationId := by
  have hnew : ∀ a, NewVersion db event a → ∀ old ∈ db.mappings,
      a.mappingId = old.mappingId → a.organizationId = old.organizationId := by
    intro a hnew old hold hmapping
    rcases hnew.mapping with ⟨hversion, -⟩ | ⟨other, hother, hsame, horganization⟩
    · obtain ⟨first, hfirst, hid, hfirstVersion⟩ := h.first old hold
      exact absurd (hfirstVersion.trans hversion.symm)
        (hnew.unique first hfirst (hid.trans hmapping.symm))
    · exact horganization.symm.trans (h.organization other hother old hold (hsame.trans hmapping))
  intro a ha b hb hmapping
  rcases hversions.origin a ha with ⟨old, hold, hstep⟩ | hnewA <;>
    rcases hversions.origin b hb with ⟨old', hold', hstep'⟩ | hnewB
  · obtain ⟨-, hid, horganization, -⟩ := hstep.ids_eq
    obtain ⟨-, hid', horganization', -⟩ := hstep'.ids_eq
    rw [horganization, horganization']
    exact h.organization old hold old' hold' (hid.symm.trans (hmapping.trans hid'))
  · obtain ⟨-, hid, horganization, -⟩ := hstep.ids_eq
    rw [horganization]
    exact (hnew b hnewB old hold (hmapping.symm.trans hid)).symm
  · obtain ⟨-, hid', horganization', -⟩ := hstep'.ids_eq
    rw [horganization']
    exact hnew a hnewA old' hold' (hmapping.trans hid')
  · rw [hversions.one a ha b hb hnewA hnewB]

/-- No other transaction than a publication adds a published version. -/
theorem published_kept (h : Inv uuid5 sha256 manifestJson start events db)
    (hversions : VersionsStep sha256 db event db'.mappings)
    (hother : ∀ env user versionId packId packVersionId,
      event ≠ .publish env user versionId packId packVersionId) :
    ∀ a ∈ db'.mappings, ∀ b ∈ db'.mappings, a.mappingId = b.mappingId →
      a.status = .published → b.status = .published → a = b := by
  have hold : ∀ a ∈ db'.mappings, a.status = .published →
      ∃ old ∈ db.mappings, old.status = .published ∧ VersionStep sha256 db event old a := by
    intro a ha hpublished
    rcases hversions.origin a ha with ⟨old, hold, hstep⟩ | hnew
    · rcases hstep.published hpublished with rfl | hwas | ⟨env, user, packId, packVersionId, rfl⟩
      · exact ⟨a, hold, hpublished, hstep⟩
      · exact ⟨old, hold, hwas, hstep⟩
      · exact absurd rfl (hother _ _ _ _ _)
    · simp [hnew.draft] at hpublished
  intro a ha b hb hmapping hpublishedA hpublishedB
  obtain ⟨old, hmem, hwas, hstep⟩ := hold a ha hpublishedA
  obtain ⟨old', hmem', hwas', hstep'⟩ := hold b hb hpublishedB
  have hsame : old.mappingId = old'.mappingId :=
    hstep.ids_eq.2.1.symm.trans (hmapping.trans hstep'.ids_eq.2.1)
  obtain rfl := h.published old hmem old' hmem' hsame hwas hwas'
  exact Table.eq_of_key (hversions.keys h.keyed.versions) ha hb
    (hstep.ids_eq.1.trans hstep'.ids_eq.1.symm)

section Publications

variable {env : Environment} {user : User} {mappingVersionId packId packVersionId : UUID}
  {mapping : MappingVersion} {pack : KnowledgePackRecord}

/-- The rows of other mappings stay as they are. -/
theorem mem_of_other (hkeys : (db.mappings.map (·.mappingVersionId)).Nodup)
    (h : Publishes db env user mappingVersionId packId packVersionId db' mapping pack)
    {row : MappingVersion} (hrow : row ∈ db.mappings) (hother : row.mappingId ≠ mapping.mappingId) :
    row ∈ db'.mappings := by
  obtain ⟨mappings, hsupersedes, hmappings⟩ := h.mappings
  have hid : row.mappingVersionId ≠ mappingVersionId := by
    intro hsame
    rw [eq_of_versionId hkeys hrow h.mem (hsame.trans h.id.symm)] at hother
    exact hother rfl
  have hmem : row ∈ mappings := by
    cases hsupersedes with
    | none => exact hrow
    | some previous hprevious _ hmapping =>
      refine Table.mem_modify.mpr ⟨row, hrow, ?_⟩
      rw [if_neg]
      intro hsame
      rw [eq_of_versionId hkeys hrow hprevious hsame] at hother
      exact hother hmapping
  rw [hmappings]
  exact Table.mem_modify.mpr ⟨row, hmem, by rw [if_neg hid]⟩

/-- A row after a publication is the published one, a superseded one of the same mapping,
or an old row that is not published for the mapping. -/
theorem origin_of_published (hkeys : (db.mappings.map (·.mappingVersionId)).Nodup)
    (horganization : ∀ a ∈ db.mappings, ∀ b ∈ db.mappings, a.mappingId = b.mappingId →
      a.organizationId = b.organizationId)
    (hone : ∀ a ∈ db.mappings, ∀ b ∈ db.mappings, a.mappingId = b.mappingId →
      a.status = .published → b.status = .published → a = b)
    (h : Publishes db env user mappingVersionId packId packVersionId db' mapping pack)
    {row : MappingVersion} (hrow : row ∈ db'.mappings) :
    row = asPublished env.now packVersionId mapping ∨
      (∃ old ∈ db.mappings, row = asSuperseded old ∧ old.status = .published ∧
        old.mappingId = mapping.mappingId) ∨
      row ∈ db.mappings ∧ (row.status = .published → row.mappingId ≠ mapping.mappingId) := by
  obtain ⟨mappings, hsupersedes, hmappings⟩ := h.mappings
  rw [hmappings] at hrow
  obtain ⟨middle, hmiddle, rfl⟩ := Table.mem_modify.mp hrow
  cases hsupersedes with
  | none hno =>
    by_cases hid : middle.mappingVersionId = mappingVersionId
    · rw [if_pos hid, eq_of_versionId hkeys hmiddle h.mem (hid.trans h.id.symm)]
      exact Or.inl rfl
    · rw [if_neg hid]
      refine Or.inr (Or.inr ⟨hmiddle, fun hpublished hsame => hno middle hmiddle ?_ hsame hpublished⟩)
      exact (horganization middle hmiddle mapping h.mem hsame).trans h.organization
  | some previous hprevious _ hmapping hpublished =>
    have hother : previous.mappingVersionId ≠ mappingVersionId := by
      intro hsame
      have := eq_of_versionId hkeys hprevious h.mem (hsame.trans h.id.symm)
      simp [this, h.approved] at hpublished
    obtain ⟨old, hold, rfl⟩ := Table.mem_modify.mp hmiddle
    by_cases hid : old.mappingVersionId = previous.mappingVersionId
    · obtain rfl := eq_of_versionId hkeys hold hprevious hid
      have hkept : (asSuperseded old).mappingVersionId ≠ mappingVersionId := hother
      rw [if_pos rfl, if_neg hkept]
      exact Or.inr (Or.inl ⟨old, hold, rfl, hpublished, hmapping⟩)
    · rw [if_neg hid]
      by_cases hthis : old.mappingVersionId = mappingVersionId
      · rw [if_pos hthis, eq_of_versionId hkeys hold h.mem (hthis.trans h.id.symm)]
        exact Or.inl rfl
      · rw [if_neg hthis]
        refine Or.inr (Or.inr ⟨hold, fun holdPublished hsame => hid ?_⟩)
        rw [hone old hold previous hprevious (hsame.trans hmapping.symm) holdPublished hpublished]

/-- A publication supersedes the published version of the mapping. -/
theorem published_publish (h : Inv uuid5 sha256 manifestJson start events db)
    (hpub : Publishes db env user mappingVersionId packId packVersionId db' mapping pack) :
    ∀ a ∈ db'.mappings, ∀ b ∈ db'.mappings, a.mappingId = b.mappingId →
      a.status = .published → b.status = .published → a = b := by
  have horigin : ∀ row ∈ db'.mappings, row.status = .published →
      row = asPublished env.now packVersionId mapping ∨
        row ∈ db.mappings ∧ row.mappingId ≠ mapping.mappingId := by
    intro row hrow hpublished
    rcases origin_of_published h.keyed.versions h.organization h.published hpub hrow with
      hnew | ⟨old, -, rfl, -⟩ | ⟨hold, hother⟩
    · exact Or.inl hnew
    · cases hpublished
    · exact Or.inr ⟨hold, hother hpublished⟩
  intro a ha b hb hsame hpublishedA hpublishedB
  rcases horigin a ha hpublishedA with rfl | ⟨holdA, hotherA⟩ <;>
    rcases horigin b hb hpublishedB with rfl | ⟨holdB, hotherB⟩
  · rfl
  · exact absurd hsame.symm hotherB
  · exact absurd hsame hotherA
  · exact h.published a holdA b holdB hsame hpublishedA hpublishedB

end Publications

/-- The history of a settled version. -/
theorem settled_kept (h : Inv uuid5 sha256 manifestJson start events
      (run uuid5 sha256 manifestJson start events))
    (hversions : VersionsStep sha256 (run uuid5 sha256 manifestJson start events) event
      db'.mappings)
    (hruns : RunsStep sha256 (run uuid5 sha256 manifestJson start events) event db'.runs) :
    ∀ version ∈ db'.mappings, isSettled version.status = true →
      ApprovedByAdmin uuid5 sha256 manifestJson start (events ++ [event]) version ∧
        PassedRun sha256 db' version := by
  intro version hversion hsettled
  rcases hversions.origin version hversion with ⟨old, hold, hstep⟩ | hnew
  · obtain ⟨hid, -⟩ := hstep.ids_eq
    rcases hstep.settled_iff hsettled with hwas | ⟨env, user, rfl, htesting, hadmin, hsame, hpassed⟩
    · obtain ⟨hdefinition, -⟩ := hstep.settled hwas
      obtain ⟨happroved, hpassed⟩ := h.settled old hold hwas
      refine ⟨?_, passedRun_kept hruns hpassed hid hdefinition⟩
      have hlater := happroved.concat event
      rwa [ApprovedByAdmin, ← hid, ← hdefinition] at hlater
    · refine ⟨⟨events, env, user, [], ?_, hadmin, old, hold, hid.symm, htesting, hsame.symm⟩,
        passedRun_kept hruns hpassed hid hsame⟩
      rw [hid]
  · simp [hnew.draft, isSettled] at hsettled

/-- The history of a passed run. -/
theorem executed_kept (h : Inv uuid5 sha256 manifestJson start events
      (run uuid5 sha256 manifestJson start events))
    (hruns : RunsStep sha256 (run uuid5 sha256 manifestJson start events) event db'.runs) :
    ∀ finished ∈ db'.runs, finished.status = .passed → ∃ results,
      ExecutedOn uuid5 sha256 manifestJson start (events ++ [event]) finished results := by
  intro finished hmem hpassed
  rcases hruns.origin finished hmem with ⟨pending, hpending, hstep⟩ | hpending
  · cases hstep with
    | same =>
      obtain ⟨results, hexecuted⟩ := h.executed finished hpending hpassed
      exact ⟨results, hexecuted.concat event⟩
    | execute _ hmapping hid hdigest =>
      exact ⟨_, rfl, events, _, _, [], rfl, _, hmapping, hid, hdigest⟩
  · simp [hpending] at hpassed

/-- One transaction keeps the invariant. -/
theorem inv_concat (h : Inv uuid5 sha256 manifestJson start events
      (run uuid5 sha256 manifestJson start events)) (event : Event) :
    Inv uuid5 sha256 manifestJson start (events ++ [event])
      (run uuid5 sha256 manifestJson start (events ++ [event])) := by
  obtain ⟨hversions, hruns⟩ := step_steps uuid5 sha256 manifestJson h.keyed event
  rw [run_concat]
  refine ⟨⟨hversions.keys h.keyed.versions, hruns.keys h.keyed.runs⟩,
    first_kept h.first hversions, organization_kept h hversions, ?_,
    settled_kept h hversions hruns, executed_kept h hruns⟩
  by_cases hpublish : ∃ env user versionId packId packVersionId,
      event = .publish env user versionId packId packVersionId
  · obtain ⟨env, user, versionId, packId, packVersionId, rfl⟩ := hpublish
    cases hresult : transact uuid5 sha256 manifestJson (run uuid5 sha256 manifestJson start events)
        (.publish env user versionId packId packVersionId) with
    | ok db' =>
      have hstep : step uuid5 sha256 manifestJson (run uuid5 sha256 manifestJson start events)
          (.publish env user versionId packId packVersionId) = db' := by
        simp only [step, hresult]
      obtain ⟨mapping, pack, hpub⟩ := publishMapping_spec hresult
      rw [hstep]
      exact published_publish h hpub
    | error e =>
      have hstep : step uuid5 sha256 manifestJson (run uuid5 sha256 manifestJson start events)
          (.publish env user versionId packId packVersionId) =
            run uuid5 sha256 manifestJson start events := by
        simp only [step, hresult]
      rw [hstep]
      exact h.published
  · refine published_kept h hversions fun env user versionId packId packVersionId heq => ?_
    exact hpublish ⟨env, user, versionId, packId, packVersionId, heq⟩

/-- Every run from a database without mappings. -/
theorem inv_run (blocks : List ReviewBlock) (events : List Event) :
    Inv uuid5 sha256 manifestJson (.untrained blocks) events
      (run uuid5 sha256 manifestJson (.untrained blocks) events) := by
  induction events using List.reverseRecOn with
  | nil =>
    have hempty : run uuid5 sha256 manifestJson (.untrained blocks) [] = .untrained blocks := rfl
    rw [hempty]
    refine ⟨⟨.nil, .nil⟩, ?_, ?_, ?_, ?_, ?_⟩ <;> simp [Database.untrained]
  | append_singleton events event ih => exact inv_concat ih event

/-- What later transactions do to a settled version. -/
theorem settled_run (hkeyed : Keyed db) (after : List Event) {version : MappingVersion}
    (hmem : version ∈ db.mappings) (hsettled : isSettled version.status = true) :
    ∃ version' ∈ (run uuid5 sha256 manifestJson db after).mappings,
      version'.mappingVersionId = version.mappingVersionId ∧
        version'.definition = version.definition ∧ isSettled version'.status = true := by
  induction after generalizing db version with
  | nil => exact ⟨version, hmem, rfl, rfl, hsettled⟩
  | cons event after ih =>
    obtain ⟨hversions, hruns⟩ := step_steps uuid5 sha256 manifestJson hkeyed event
    obtain ⟨next, hnext, hstep⟩ := hversions.kept version hmem
    obtain ⟨hdefinition, hnextSettled⟩ := hstep.settled hsettled
    obtain ⟨version', hmem', hid, hsame, hsettled'⟩ := ih
      ⟨hversions.keys hkeyed.versions, hruns.keys hkeyed.runs⟩ hnext hnextSettled
    exact ⟨version', hmem', hid.trans hstep.ids_eq.1, hsame.trans hdefinition, hsettled'⟩

/-- The passed run of a settled version was executed on its definition. -/
theorem validatedAs_of_passed (h : Inv uuid5 sha256 manifestJson start events
      (run uuid5 sha256 manifestJson start events))
    (hapart : DigestsApart uuid5 sha256 manifestJson start events) {version : MappingVersion}
    (hmem : version ∈ (run uuid5 sha256 manifestJson start events).mappings)
    (hpassed : PassedRun sha256 (run uuid5 sha256 manifestJson start events) version) :
    ValidatedAs uuid5 sha256 manifestJson start events version := by
  obtain ⟨finished, hfinished, hid, hstatus, results, hresults, hdigest⟩ := hpassed
  obtain ⟨recorded, hrecorded, before, env, organizationId, after, hsplit, row, hrow, hrowId,
    hrowDigest⟩ := h.executed finished hfinished hstatus
  obtain rfl : recorded = results := Option.some.inj (hrecorded.symm.trans hresults)
  refine ⟨finished, hfinished, hid, hstatus, recorded, hresults, hdigest, before, env,
    organizationId, after, ?_, row, hrow, hrowId.trans hid, ?_⟩
  · rw [hsplit, hid]
  · exact hapart before _ events [] hsplit (List.append_nil events).symm row hrow version hmem _
      hrowDigest hdigest

end Preserved

/-- Every published or superseded version was approved by an administrator and has the
definition that a passed run of it was executed on and recorded; approved definitions are
never changed; a mapping has one published version at most. -/
theorem mapping_lifecycle_safe (uuid5 : UUID → String → UUID) (sha256 : String → String)
    (manifestJson : List String → String) (blocks : List ReviewBlock) (events : List Event)
    (hapart : DigestsApart uuid5 sha256 manifestJson (.untrained blocks) events) :
    let db := run uuid5 sha256 manifestJson (.untrained blocks) events
    (∀ version ∈ db.mappings, version.status = .published ∨ version.status = .superseded →
      ApprovedByAdmin uuid5 sha256 manifestJson (.untrained blocks) events version ∧
        ValidatedAs uuid5 sha256 manifestJson (.untrained blocks) events version) ∧
    (∀ before after, events = before ++ after →
      ∀ version ∈ (run uuid5 sha256 manifestJson (.untrained blocks) before).mappings,
        isSettled version.status = true → ∃ version' ∈ db.mappings,
          version'.mappingVersionId = version.mappingVersionId ∧
            version'.definition = version.definition ∧ isSettled version'.status = true) ∧
    ∀ a ∈ db.mappings, ∀ b ∈ db.mappings, a.mappingId = b.mappingId →
      a.status = .published → b.status = .published → a = b := by
  intro db
  have hinv : Inv uuid5 sha256 manifestJson (.untrained blocks) events db := inv_run blocks events
  refine ⟨fun version hversion hstatus => ?_, fun before after hsplit version hversion hsettled => ?_,
    hinv.published⟩
  · have hsettled : isSettled version.status = true := by
      rcases hstatus with hstatus | hstatus <;> rw [hstatus] <;> rfl
    obtain ⟨happroved, hpassed⟩ := hinv.settled version hversion hsettled
    exact ⟨happroved, validatedAs_of_passed hinv hapart hversion hpassed⟩
  · have hbefore : Inv uuid5 sha256 manifestJson (.untrained blocks) before
        (run uuid5 sha256 manifestJson (.untrained blocks) before) := inv_run blocks before
    have hrun : db = run uuid5 sha256 manifestJson
        (run uuid5 sha256 manifestJson (.untrained blocks) before) after := by
      simp only [db, hsplit]
      exact Runs.run_append _ _ _ _
    rw [hrun]
    exact settled_run hbefore.keyed after hversion hsettled

/-- A mapping that goes through the whole workflow. -/
theorem mapping_lifecycle_safe_ntp :
    ∃ version ∈ (run (UUID.ofTable []) ntpSha256 acmeManifests (.untrained []) (acmePublication ntpDefinition)).mappings,
      version.status = .published ∧ version.definition = ntpDefinition ∧
      ApprovedByAdmin (UUID.ofTable []) ntpSha256 acmeManifests (.untrained []) (acmePublication ntpDefinition) version ∧
      ValidatedAs (UUID.ofTable []) ntpSha256 acmeManifests (.untrained []) (acmePublication ntpDefinition) version := by
  obtain ⟨results, hrun, hdefinitions⟩ := run_publication (UUID.ofTable []) ntpSha256 acmeManifests
    ntp_publishable acme_pack untrained_free
  have hone : ∀ before after, (acmePublication ntpDefinition) = before ++ after → ∀ row ∈
      (run (UUID.ofTable []) ntpSha256 acmeManifests (.untrained []) before).mappings,
        row.definition = ntpDefinition := by
    intro before after hsplit row hrow
    rcases hdefinitions before after hsplit row hrow with hold | hnew
    · cases hold
    · exact hnew
  have hapart : DigestsApart (UUID.ofTable []) ntpSha256 acmeManifests (.untrained []) (acmePublication ntpDefinition) :=
    fun before after before' after' hsplit hsplit' row hrow row' hrow' _ _ _ =>
      (hone before after hsplit row hrow).trans (hone before' after' hsplit' row' hrow').symm
  have hmem : publishedRow (acmeEnvironment 0) acmeAdmin
      (acmeInput ntpDefinition) results (drawnId 7) ∈
        (run (UUID.ofTable []) ntpSha256 acmeManifests (.untrained []) (acmePublication ntpDefinition)).mappings := by
    rw [acmePublication, hrun]
    exact List.mem_singleton_self _
  obtain ⟨happroved, hvalidated⟩ := (mapping_lifecycle_safe (UUID.ofTable []) ntpSha256
    acmeManifests [] (acmePublication ntpDefinition) hapart).1 _ hmem (Or.inl rfl)
  exact ⟨_, hmem, rfl, rfl, happroved, hvalidated⟩

end ConfigAuditor.Training.Safety
