import ConfigAuditor.Library.Runs
import ConfigAuditor.Training.Service

/-!
# The lifecycle of a mapping version

Any sequence of transactions of the workflow, by any users and in any environments. What
one transaction can do to a version and to a validation run is said once; the history of
a published version follows from it.
-/
namespace ConfigAuditor.Training.Lifecycle

open Library Dsl Service

/-- A transaction, with its arguments, the ids it draws and the environment it sees. -/
inductive Event where
  | create (user : User) (input : CreateInput)
  | adopt (env : Environment) (user : User) (blockId : UUID) (token : String)
    (mappingVersionId mappingId : UUID)
  | update (user : User) (mappingVersionId : UUID) (title description : String)
    (definition : MappingDefinition)
  | requestValidation (env : Environment) (user : User) (mappingVersionId validationRunId : UUID)
    (evidenceArtifactId negativeEvidenceArtifactId : Option UUID)
  | executeValidation (env : Environment)
    (validationRunId mappingVersionId organizationId : UUID)
  | approve (env : Environment) (user : User) (mappingVersionId : UUID)
  | reject (user : User) (mappingVersionId : UUID)
  | publish (env : Environment) (user : User)
    (mappingVersionId knowledgePackId knowledgePackVersionId : UUID)

section Machine

variable (uuid5 : UUID → String → UUID) (sha256 : String → String)
  (manifestJson : List String → String)

def transact (db : Database) : Event → Except TrainingError Database
  | .create user input => createMapping db user input
  | .adopt env user blockId token versionId mappingId =>
    adoptSuggestion env db user blockId token versionId mappingId
  | .update user versionId title description definition =>
    updateMapping db user versionId title description definition
  | .requestValidation env user versionId runId evidence negative =>
    requestValidation env db user versionId runId evidence negative
  | .executeValidation env runId versionId organizationId =>
    executeValidation uuid5 sha256 manifestJson env db runId versionId organizationId
  | .approve env user versionId => approveMapping sha256 manifestJson env db user versionId
  | .reject user versionId => rejectMapping db user versionId
  | .publish env user versionId packId packVersionId =>
    publishMapping sha256 manifestJson env db user versionId packId packVersionId

/-- A transaction that raises leaves the database as it is. -/
def step (db : Database) (event : Event) : Database :=
  match transact uuid5 sha256 manifestJson db event with
  | .ok db' => db'
  | .error _ => db

/-- The database after a sequence of transactions. -/
def run : Database → List Event → Database := Runs.run (step uuid5 sha256 manifestJson)

end Machine

/-- The ids of rows that an event draws. -/
def drawnIds : Event → List UUID
  | .create _ input => [input.mappingVersionId, input.mappingId]
  | .adopt _ _ _ _ mappingVersionId mappingId => [mappingVersionId, mappingId]
  | .publish _ _ _ packId packVersionId => [packId, packVersionId]
  | _ => []

/-- A finished run that passed on the definition of the version. -/
def PassedRun (sha256 : String → String) (db : Database) (version : MappingVersion) : Prop :=
  ∃ run ∈ db.runs, run.mappingVersionId = version.mappingVersionId ∧ run.status = .passed ∧
    ∃ results, run.results = some results ∧
      digest sha256 version.definition = .ok results.definitionDigest

/-- The version was approved, and perhaps published or superseded since. -/
def isSettled (status : MappingStatus) : Bool :=
  status == .approved || status == .published || status == .superseded

/-- The version was published, and perhaps superseded since. -/
def isIssued (status : MappingStatus) : Bool := status == .published || status == .superseded

section Steps

variable (sha256 : String → String) (db : Database)

inductive VersionStep : Event → MappingVersion → MappingVersion → Prop
  | same (event : Event) (version : MappingVersion) : VersionStep event version version
  | update {version : MappingVersion} (h : isMutable version.status = true) {user : User}
    {title description : String} {definition : MappingDefinition} :
    VersionStep (.update user version.mappingVersionId title description definition) version
      { version with definition, title, description, status := .draft, validationResults := none }
  | request {version : MappingVersion} (h : version.status = .draft ∨ version.status = .testing)
    {env : Environment} {user : User} {runId : UUID} {evidence negative : Option UUID} :
    VersionStep (.requestValidation env user version.mappingVersionId runId evidence negative)
      version { version with status := .testing }
  | validated {version : MappingVersion} {env : Environment} {runId organizationId : UUID}
    {results : ValidationResults} :
    VersionStep (.executeValidation env runId version.mappingVersionId organizationId) version
      { version with validationResults := some results }
  | approve {version : MappingVersion} (h : version.status = .testing) {env : Environment}
    {user : User} (hadmin : isAdmin user = true) (hpassed : PassedRun sha256 db version) :
    VersionStep (.approve env user version.mappingVersionId) version
      { version with
        status := .approved, approvedBy := some user.userId, approvedAt := some env.now }
  | reject {version : MappingVersion} (h : isMutable version.status = true) {user : User} :
    VersionStep (.reject user version.mappingVersionId) version
      { version with status := .rejected }
  | publish {version : MappingVersion} (h : version.status = .approved) {env : Environment}
    {user : User} {packId packVersionId : UUID} :
    VersionStep (.publish env user version.mappingVersionId packId packVersionId) version
      { version with
        status := .published, publishedAt := some env.now,
        knowledgePackVersionId := some packVersionId }
  | supersede {version : MappingVersion} (h : version.status = .published) {env : Environment}
    {user : User} {versionId packId packVersionId : UUID} :
    VersionStep (.publish env user versionId packId packVersionId) version
      { version with status := .superseded }

/-- A row that a transaction adds: a draft, the first of its mapping or a later version of
a mapping of the organization. -/
structure NewVersion (event : Event) (version : MappingVersion) : Prop where
  drawn : version.mappingVersionId ∈ drawnIds event
  fresh : ∀ other ∈ db.mappings, other.mappingVersionId ≠ version.mappingVersionId
  unique : ∀ other ∈ db.mappings, other.mappingId = version.mappingId →
    other.version ≠ version.version
  draft : version.status = .draft
  mapping : (version.version = 1 ∧ version.mappingId ∈ drawnIds event) ∨
    ∃ other ∈ db.mappings, other.mappingId = version.mappingId ∧
      other.organizationId = version.organizationId

/-- Every version goes one step, and the other versions are new. -/
structure VersionsStep (event : Event) (mappings' : List MappingVersion) : Prop where
  kept : ∀ version ∈ db.mappings, ∃ version' ∈ mappings', VersionStep sha256 db event version version'
  origin : ∀ version' ∈ mappings', (∃ version ∈ db.mappings,
    VersionStep sha256 db event version version') ∨ NewVersion db event version'
  one : ∀ a ∈ mappings', ∀ b ∈ mappings', NewVersion db event a → NewVersion db event b → a = b
  keys : (db.mappings.map (·.mappingVersionId)).Nodup → (mappings'.map (·.mappingVersionId)).Nodup

end Steps

section VersionLemmas

variable {sha256 : String → String} {db : Database} {event : Event}
  {version version' : MappingVersion}

theorem VersionStep.ids_eq (h : VersionStep sha256 db event version version') :
    version'.mappingVersionId = version.mappingVersionId ∧ version'.mappingId = version.mappingId ∧
      version'.organizationId = version.organizationId ∧ version'.version = version.version := by
  cases h <;> exact ⟨rfl, rfl, rfl, rfl⟩

/-- The definition of a settled version stays, and the version stays settled. -/
theorem VersionStep.settled (h : VersionStep sha256 db event version version')
    (hsettled : isSettled version.status = true) :
    version'.definition = version.definition ∧ isSettled version'.status = true := by
  cases h with
  | same | validated => exact ⟨rfl, hsettled⟩
  | update hmutable =>
    cases hstatus : version.status <;> simp [hstatus, isSettled, isMutable] at hsettled hmutable
  | request hstatus =>
    rcases hstatus with hstatus | hstatus <;> simp [hstatus, isSettled] at hsettled
  | approve | publish | supersede => exact ⟨rfl, rfl⟩
  | reject hmutable =>
    cases hstatus : version.status <;> simp [hstatus, isSettled, isMutable] at hsettled hmutable

/-- An issued version keeps its definition and stays issued. -/
theorem VersionStep.issued (h : VersionStep sha256 db event version version')
    (hissued : isIssued version.status = true) :
    version'.definition = version.definition ∧ isIssued version'.status = true := by
  have hsettled : isSettled version.status = true := by
    cases hstatus : version.status <;> simp [hstatus, isIssued, isSettled] at hissued ⊢
  refine ⟨(h.settled hsettled).1, ?_⟩
  cases h with
  | same | validated => exact hissued
  | update hmutable | reject hmutable =>
    cases hstatus : version.status <;> simp [hstatus, isIssued, isMutable] at hissued hmutable
  | request hstatus =>
    rcases hstatus with hstatus | hstatus <;> simp [hstatus, isIssued] at hissued
  | approve hstatus => simp [hstatus, isIssued] at hissued
  | publish | supersede => rfl

/-- A version becomes settled by an approval only. -/
theorem VersionStep.settled_iff (h : VersionStep sha256 db event version version')
    (hsettled : isSettled version'.status = true) :
    isSettled version.status = true ∨ ∃ env user, event = .approve env user version.mappingVersionId ∧
      version.status = .testing ∧ isAdmin user = true ∧
        version'.definition = version.definition ∧ PassedRun sha256 db version := by
  cases h with
  | same | validated => exact Or.inl hsettled
  | update | request | reject => cases hsettled
  | approve htesting hadmin hpassed => exact Or.inr ⟨_, _, rfl, htesting, hadmin, rfl, hpassed⟩
  | publish hstatus | supersede hstatus => simp [hstatus, isSettled]

/-- A version becomes published by its own publication only. -/
theorem VersionStep.published (h : VersionStep sha256 db event version version')
    (hpublished : version'.status = .published) :
    version' = version ∨ version.status = .published ∨ ∃ env user packId packVersionId,
      event = .publish env user version.mappingVersionId packId packVersionId := by
  cases h with
  | same => exact Or.inl rfl
  | validated => exact Or.inr (Or.inl hpublished)
  | update | request | approve | reject | supersede => cases hpublished
  | publish => exact Or.inr (Or.inr ⟨_, _, _, _, rfl⟩)

end VersionLemmas

section RunSteps

variable (sha256 : String → String) (db : Database)

/-- A run is executed once, on the definition the version has then. -/
inductive RunStep : Event → MappingValidationRun → MappingValidationRun → Prop
  | same (event : Event) (run : MappingValidationRun) : RunStep event run run
  | execute {run : MappingValidationRun} (h : run.status = .pending) {mapping : MappingVersion}
    (hmapping : mapping ∈ db.mappings) (hid : mapping.mappingVersionId = run.mappingVersionId)
    {results : ValidationResults}
    (hdigest : digest sha256 mapping.definition = .ok results.definitionDigest)
    {env : Environment} {organizationId : UUID} :
    RunStep (.executeValidation env run.validationRunId run.mappingVersionId organizationId) run
      { run with
        status := if results.passed then .passed else .failed
        results := some results, completedAt := some env.now }

structure RunsStep (event : Event) (runs' : List MappingValidationRun) : Prop where
  kept : ∀ run ∈ db.runs, ∃ run' ∈ runs', RunStep sha256 db event run run'
  origin : ∀ run' ∈ runs', (∃ run ∈ db.runs, RunStep sha256 db event run run') ∨
    run'.status = .pending
  keys : (db.runs.map (·.validationRunId)).Nodup → (runs'.map (·.validationRunId)).Nodup

end RunSteps

theorem RunStep.ids_eq {sha256 : String → String} {db : Database} {event : Event}
    {run run' : MappingValidationRun} (h : RunStep sha256 db event run run') :
    run'.validationRunId = run.validationRunId ∧ run'.mappingVersionId = run.mappingVersionId := by
  cases h <;> exact ⟨rfl, rfl⟩

section Specs

variable {uuid5 : UUID → String → UUID} {sha256 : String → String}
  {manifestJson : List String → String} {env : Environment} {db db' : Database} {user : User}
  {event : Event}

theorem versionsStep_same (event : Event) (db : Database) :
    VersionsStep sha256 db event db.mappings :=
  ⟨fun version hversion => ⟨version, hversion, .same event version⟩,
    fun version hversion => Or.inl ⟨version, hversion, .same event version⟩,
    fun a ha _ _ hnew _ => absurd rfl (hnew.fresh a ha), id⟩

theorem runsStep_same (event : Event) (db : Database) : RunsStep sha256 db event db.runs :=
  ⟨fun run hrun => ⟨run, hrun, .same event run⟩, fun run hrun => Or.inl ⟨run, hrun, .same event run⟩,
    id⟩

/-- An update of each version by itself. -/
theorem versionsStep_map {f : MappingVersion → MappingVersion}
    (h : ∀ version ∈ db.mappings, VersionStep sha256 db event version (f version)) :
    VersionsStep sha256 db event (db.mappings.map f) := by
  refine ⟨?_, ?_, ?_, ?_⟩
  · exact fun version hversion => ⟨f version, List.mem_map_of_mem hversion, h version hversion⟩
  · intro version' hversion'
    obtain ⟨version, hversion, rfl⟩ := List.mem_map.mp hversion'
    exact Or.inl ⟨version, hversion, h version hversion⟩
  · intro a ha b _ hnew _
    obtain ⟨version, hversion, rfl⟩ := List.mem_map.mp ha
    exact absurd (h version hversion).ids_eq.1.symm (hnew.fresh version hversion)
  · intro hkeys
    rwa [Table.map_keys fun version hversion => (h version hversion).ids_eq.1]

theorem versionsStep_modify {mappingVersionId : UUID} {f : MappingVersion → MappingVersion}
    (h : ∀ version ∈ db.mappings, version.mappingVersionId = mappingVersionId →
      VersionStep sha256 db event version (f version)) :
    VersionsStep sha256 db event
      (Table.modify MappingVersion.mappingVersionId db.mappings mappingVersionId f) := by
  refine versionsStep_map fun version hversion => ?_
  split
  · rename_i hid
    exact h version hversion hid
  · exact .same event version

theorem versionsStep_append {version : MappingVersion} (h : NewVersion db event version) :
    VersionsStep sha256 db event (db.mappings ++ [version]) := by
  have hnew : ∀ a ∈ db.mappings ++ [version], NewVersion db event a → a = version := by
    intro a ha hfresh
    rcases List.mem_append.mp ha with hold | hnew
    · exact absurd rfl (hfresh.fresh a hold)
    · exact List.mem_singleton.mp hnew
  refine ⟨?_, ?_, fun a ha b hb hna hnb => (hnew a ha hna).trans (hnew b hb hnb).symm, ?_⟩
  · exact fun old hold => ⟨old, List.mem_append_left _ hold, .same event old⟩
  · intro version' hversion'
    rcases List.mem_append.mp hversion' with hold | hnew
    · exact Or.inl ⟨version', hold, .same event version'⟩
    · exact Or.inr (List.mem_singleton.mp hnew ▸ h)
  · exact fun hkeys => Table.append_nodup hkeys h.fresh

theorem runsStep_map {f : MappingValidationRun → MappingValidationRun}
    (h : ∀ run ∈ db.runs, RunStep sha256 db event run (f run)) :
    RunsStep sha256 db event (db.runs.map f) := by
  refine ⟨?_, ?_, ?_⟩
  · exact fun run hrun => ⟨f run, List.mem_map_of_mem hrun, h run hrun⟩
  · intro run' hrun'
    obtain ⟨run, hrun, rfl⟩ := List.mem_map.mp hrun'
    exact Or.inl ⟨run, hrun, h run hrun⟩
  · intro hkeys
    rwa [Table.map_keys fun run hrun => (h run hrun).ids_eq.1]

theorem runsStep_append {run : MappingValidationRun} (h : run.status = .pending)
    (hfresh : ∀ other ∈ db.runs, other.validationRunId ≠ run.validationRunId) :
    RunsStep sha256 db event (db.runs ++ [run]) := by
  refine ⟨?_, ?_, ?_⟩
  · exact fun old hold => ⟨old, List.mem_append_left _ hold, .same event old⟩
  · intro run' hrun'
    rcases List.mem_append.mp hrun' with hold | hnew
    · exact Or.inl ⟨run', hold, .same event run'⟩
    · exact Or.inr (List.mem_singleton.mp hnew ▸ h)
  · exact fun hkeys => Table.append_nodup hkeys hfresh

theorem requireAdmin_eq_ok {u : Unit} : requireAdmin user = .ok u ↔ isAdmin user = true := by
  simp [requireAdmin]

theorem mappingOf_eq_ok {mappingVersionId : UUID} {mapping : MappingVersion} :
    mappingOf db user mappingVersionId = .ok mapping ↔
      db.mappingById mappingVersionId user.organizationId = some mapping := by
  unfold mappingOf
  split
  · rename_i found hfound
    simp [hfound, eq_comm]
  · rename_i hnone
    simp [hnone]

/-- The version with an id is the only one. -/
theorem eq_of_versionId (hkeys : (db.mappings.map (·.mappingVersionId)).Nodup)
    {a b : MappingVersion} (ha : a ∈ db.mappings) (hb : b ∈ db.mappings)
    (h : a.mappingVersionId = b.mappingVersionId) : a = b :=
  Table.eq_of_key hkeys ha hb h

theorem newMapping_spec {input : NewMapping} (h : newMapping db user input = .ok db') :
    db' = { db with mappings := db.mappings ++ [input.row user] } ∧
      (∀ other ∈ db.mappings, other.mappingVersionId ≠ input.mappingVersionId) ∧
      ∀ other ∈ db.mappings, other.mappingId = input.mappingId →
        other.version ≠ input.version := by
  unfold newMapping at h
  obtain ⟨_, -, h⟩ := except_bind_eq_ok.mp h
  obtain ⟨_, hunique, h⟩ := except_bind_eq_ok.mp h
  split at h
  · rename_i mappings hinsert
    obtain rfl := except_pure_eq_ok.mp h
    obtain ⟨rfl, hfree⟩ := Table.insert?_eq_some hinsert
    refine ⟨rfl, hfree, fun other hother hmapping hversion => ?_⟩
    have hnone := List.any_eq_false.mp (refuseIf_eq_ok.mp hunique) other hother
    exact hnone (by simpa using ⟨hmapping, hversion⟩)
  · cases h

/-- A new row of a new mapping, or of one with versions of the organization. -/
theorem newMapping_step {input : NewMapping} (h : newMapping db user input = .ok db')
    (hdrawn : input.mappingVersionId ∈ drawnIds event)
    (hmapping : (input.version = 1 ∧ input.mappingId ∈ drawnIds event) ∨
      ∃ other ∈ db.mappings, other.mappingId = input.mappingId ∧
        other.organizationId = user.organizationId) :
    VersionsStep sha256 db event db'.mappings ∧ db'.runs = db.runs := by
  obtain ⟨rfl, hfree, hunique⟩ := newMapping_spec h
  exact ⟨versionsStep_append ⟨hdrawn, hfree, hunique, rfl, hmapping⟩, rfl⟩

theorem createMapping_step {input : CreateInput} (h : createMapping db user input = .ok db') :
    VersionsStep sha256 db (.create user input) db'.mappings ∧
      RunsStep sha256 db (.create user input) db'.runs := by
  unfold createMapping at h
  obtain ⟨new, hnew, h⟩ := except_bind_eq_ok.mp h
  obtain ⟨drafted, hdrafted, h⟩ := except_bind_eq_ok.mp h
  have hmapping : new.mappingVersionId = input.mappingVersionId ∧
      ((new.version = 1 ∧ new.mappingId = input.mappingId) ∨
        ∃ other ∈ db.mappings, other.mappingId = new.mappingId ∧
          other.organizationId = user.organizationId) := by
    unfold newMappingOf at hnew
    split at hnew
    · obtain rfl := Except.ok.inj hnew
      exact ⟨rfl, Or.inl ⟨rfl, rfl⟩⟩
    · split at hnew
      · cases hnew
      · rename_i previous hprevious
        obtain rfl := Except.ok.inj hnew
        obtain ⟨hmem, -, horganization⟩ := Database.mappingById_eq_some hprevious
        exact ⟨rfl, Or.inr ⟨previous, hmem, rfl, horganization⟩⟩
  have hdraft : VersionsStep sha256 db (.create user input) drafted.mappings ∧
      drafted.runs = db.runs := by
    refine newMapping_step hdrafted ?_ (hmapping.2.imp (fun hnew => ⟨hnew.1, ?_⟩) id)
    · simp [drawnIds, hmapping.1]
    · simp [drawnIds, hnew.2]
  have hresult : db'.mappings = drafted.mappings ∧ db'.runs = drafted.runs := by
    split at h
    · obtain rfl := except_pure_eq_ok.mp h
      exact ⟨rfl, rfl⟩
    · split at h
      · cases h
      · obtain rfl := except_pure_eq_ok.mp h
        exact ⟨rfl, rfl⟩
  rw [hresult.1, hresult.2, hdraft.2]
  exact ⟨hdraft.1, runsStep_same _ _⟩

theorem adoptSuggestion_step {blockId mappingVersionId mappingId : UUID} {token : String}
    (h : adoptSuggestion env db user blockId token mappingVersionId mappingId = .ok db') :
    VersionsStep sha256 db (.adopt env user blockId token mappingVersionId mappingId)
        db'.mappings ∧
      RunsStep sha256 db (.adopt env user blockId token mappingVersionId mappingId) db'.runs := by
  unfold adoptSuggestion at h
  obtain ⟨_, -, h⟩ := except_bind_eq_ok.mp h
  split at h
  · cases h
  split at h
  · obtain ⟨suggestion, -, h⟩ := except_bind_eq_ok.mp h
    obtain ⟨_, -, h⟩ := except_bind_eq_ok.mp h
    obtain ⟨drafted, hdrafted, h⟩ := except_bind_eq_ok.mp h
    obtain rfl := except_pure_eq_ok.mp h
    have hdraft : VersionsStep sha256 db
        (.adopt env user blockId token mappingVersionId mappingId) drafted.mappings ∧
          drafted.runs = db.runs :=
      newMapping_step hdrafted (by simp [drawnIds]) (Or.inl ⟨rfl, by simp [drawnIds]⟩)
    refine ⟨hdraft.1, ?_⟩
    show RunsStep sha256 db _ drafted.runs
    rw [hdraft.2]
    exact runsStep_same _ _
  · cases h
  · cases h

variable {mappingVersionId : UUID}

theorem updateMapping_step (hkeys : (db.mappings.map (·.mappingVersionId)).Nodup)
    {title description : String} {definition : MappingDefinition}
    (h : updateMapping db user mappingVersionId title description definition = .ok db') :
    VersionsStep sha256 db (.update user mappingVersionId title description definition)
        db'.mappings ∧ db'.runs = db.runs := by
  simp only [updateMapping, except_bind_eq_ok, except_pure_eq_ok, mappingOf_eq_ok,
    refuseIf_eq_ok, Bool.not_eq_false'] at h
  obtain ⟨mapping, hmapping, _, hmutable, rfl⟩ := h
  obtain ⟨hmem, hid, -⟩ := Database.mappingById_eq_some hmapping
  refine ⟨versionsStep_modify fun version hversion hversionId => ?_, rfl⟩
  obtain rfl := eq_of_versionId hkeys hversion hmem (hversionId.trans hid.symm)
  rw [← hid]
  exact .update hmutable

theorem requestValidation_step (hkeys : (db.mappings.map (·.mappingVersionId)).Nodup)
    {runId : UUID} {evidence negative : Option UUID}
    (h : requestValidation env db user mappingVersionId runId evidence negative = .ok db') :
    VersionsStep sha256 db (.requestValidation env user mappingVersionId runId evidence negative)
        db'.mappings ∧
      RunsStep sha256 db (.requestValidation env user mappingVersionId runId evidence negative)
        db'.runs := by
  simp only [requestValidation, except_bind_eq_ok, mappingOf_eq_ok, refuseIf_eq_ok] at h
  obtain ⟨mapping, hmapping, _, hstatus, _, -, _, -, _, -, h⟩ := h
  split at h
  · cases h
  rename_i runs hinsert
  obtain rfl := except_pure_eq_ok.mp h
  obtain ⟨rfl, hfresh⟩ := Table.insert?_eq_some hinsert
  obtain ⟨hmem, hid, -⟩ := Database.mappingById_eq_some hmapping
  refine ⟨versionsStep_modify fun version hversion hversionId => ?_, runsStep_append rfl hfresh⟩
  obtain rfl := eq_of_versionId hkeys hversion hmem (hversionId.trans hid.symm)
  rw [← hid]
  refine .request ?_
  simp only [Bool.and_eq_false_iff, bne_eq_false_iff_eq] at hstatus
  exact hstatus

/-- The results of a validation carry the digest of the definition it ran on. -/
theorem validateDefinition_digest {mapping : MappingVersion} {evidence negative : Option UUID}
    {results : ValidationResults}
    (h : validateDefinition uuid5 sha256 manifestJson env db mapping evidence negative =
      .ok results) : digest sha256 mapping.definition = .ok results.definitionDigest := by
  simp only [validateDefinition, except_bind_eq_ok, except_pure_eq_ok,
    liftM_training_eq_ok] at h
  obtain ⟨_, -, _, -, _, -, definitionDigest, hdigest, _, -, rfl⟩ := h
  exact hdigest

theorem executeValidation_step (hruns : (db.runs.map (·.validationRunId)).Nodup)
    {runId organizationId : UUID}
    (h : executeValidation uuid5 sha256 manifestJson env db runId mappingVersionId
      organizationId = .ok db') :
    VersionsStep sha256 db (.executeValidation env runId mappingVersionId organizationId)
        db'.mappings ∧
      RunsStep sha256 db (.executeValidation env runId mappingVersionId organizationId)
        db'.runs := by
  unfold executeValidation at h
  split at h
  · rename_i run mapping hrun hmapping
    simp only [except_bind_eq_ok, except_pure_eq_ok, refuseIf_eq_ok, bne_eq_false_iff_eq] at h
    obtain ⟨_, hpending, results, hresults, rfl⟩ := h
    obtain ⟨hmem, hid, -⟩ := Database.mappingById_eq_some hmapping
    obtain ⟨hfind, hmatch⟩ := Option.filter_eq_some_iff.mp hrun
    obtain ⟨hrunMem, hrunId⟩ := Table.find?_eq_some hfind
    simp only [Bool.and_eq_true, beq_iff_eq] at hmatch
    refine ⟨versionsStep_modify fun version _ hversionId => ?_, runsStep_map fun other hother => ?_⟩
    · rw [← hversionId]
      exact .validated
    · split
      · rename_i hotherId
        obtain rfl := Table.eq_of_key hruns hother hrunMem (hotherId.trans hrunId.symm)
        rw [← hrunId, ← hmatch.1]
        exact .execute hpending hmem (hid.trans hmatch.1.symm) (validateDefinition_digest hresults)
      · exact .same _ _
  · cases h

/-- What the check on the latest validation shows. -/
theorem passedRun_of_current {mapping : MappingVersion}
    (h : latestValidationCurrent sha256 manifestJson env db mapping = .ok true) :
    PassedRun sha256 db mapping := by
  unfold latestValidationCurrent at h
  split at h
  · cases h
  rename_i run hlatest
  obtain ⟨hmem, hid⟩ := Database.latestValidation_eq_some hlatest
  split at h
  · rename_i results hstatus hresults
    simp only [validationIsCurrent, except_bind_eq_ok] at h
    obtain ⟨definitionDigest, hdigest, contentDigest, -, h⟩ := h
    split at h
    · cases h
    · simp only [except_pure_eq_ok, Bool.and_eq_true, beq_iff_eq] at h
      exact ⟨run, hmem, hid, hstatus, results, hresults, by rw [hdigest, h.1.1.1]⟩
  · cases h

theorem approveMapping_step (hkeys : (db.mappings.map (·.mappingVersionId)).Nodup)
    (h : approveMapping sha256 manifestJson env db user mappingVersionId = .ok db') :
    VersionsStep sha256 db (.approve env user mappingVersionId) db'.mappings ∧
      db'.runs = db.runs := by
  simp only [approveMapping, except_bind_eq_ok, except_pure_eq_ok, requireAdmin_eq_ok,
    mappingOf_eq_ok, refuseIf_eq_ok, bne_eq_false_iff_eq, Bool.not_eq_false',
    liftM_training_eq_ok] at h
  obtain ⟨_, hadmin, mapping, hmapping, _, hstatus, _, hcurrent, _, rfl, rfl⟩ := h
  obtain ⟨hmem, hid, -⟩ := Database.mappingById_eq_some hmapping
  refine ⟨versionsStep_modify fun version hversion hversionId => ?_, rfl⟩
  obtain rfl := eq_of_versionId hkeys hversion hmem (hversionId.trans hid.symm)
  rw [← hid]
  exact .approve hstatus hadmin (passedRun_of_current hcurrent)

theorem rejectMapping_step (hkeys : (db.mappings.map (·.mappingVersionId)).Nodup)
    (h : rejectMapping db user mappingVersionId = .ok db') :
    VersionsStep sha256 db (.reject user mappingVersionId) db'.mappings ∧
      db'.runs = db.runs := by
  simp only [rejectMapping, except_bind_eq_ok, except_pure_eq_ok, mappingOf_eq_ok,
    refuseIf_eq_ok, Bool.not_eq_false'] at h
  obtain ⟨_, -, mapping, hmapping, _, hmutable, rfl⟩ := h
  obtain ⟨hmem, hid, -⟩ := Database.mappingById_eq_some hmapping
  refine ⟨versionsStep_modify fun version hversion hversionId => ?_, rfl⟩
  obtain rfl := eq_of_versionId hkeys hversion hmem (hversionId.trans hid.symm)
  rw [← hid]
  exact .reject hmutable

def asSuperseded (row : MappingVersion) : MappingVersion := { row with status := .superseded }

def asPublished (now : Int) (packVersionId : UUID) (row : MappingVersion) : MappingVersion :=
  { row with
    status := .published, publishedAt := some now, knowledgePackVersionId := some packVersionId }

/-- Superseding changes at most the published version of the mapping. -/
inductive Supersedes (organizationId mappingId : UUID) (mappings : List MappingVersion) :
    List MappingVersion → Prop
  | none (h : ∀ row ∈ mappings, row.organizationId = organizationId → row.mappingId = mappingId →
      row.status ≠ .published) : Supersedes organizationId mappingId mappings mappings
  | some (previous : MappingVersion) (hmem : previous ∈ mappings)
    (horganization : previous.organizationId = organizationId)
    (hmapping : previous.mappingId = mappingId) (hpublished : previous.status = .published) :
    Supersedes organizationId mappingId mappings
      (Table.modify MappingVersion.mappingVersionId mappings previous.mappingVersionId asSuperseded)

theorem supersedePrevious_spec (db : Database) (organizationId mappingId : UUID) :
    Supersedes organizationId mappingId db.mappings
        (supersedePrevious db organizationId mappingId).mappings ∧
      (supersedePrevious db organizationId mappingId).runs = db.runs := by
  unfold supersedePrevious
  split
  · rename_i hnone
    refine ⟨.none fun row hrow horganization hmapping hpublished => ?_, rfl⟩
    have hfree := List.find?_eq_none.mp hnone row hrow
    simp [horganization, hmapping, hpublished] at hfree
  · rename_i previous hfind
    have hmatch := List.find?_some hfind
    simp only [Bool.and_eq_true, beq_iff_eq] at hmatch
    exact ⟨.some previous (List.mem_of_find?_eq_some hfind) hmatch.1.1 hmatch.1.2 hmatch.2, rfl⟩

/-- The pack of a publication is in the table, and is the only new one. -/
structure PackFor (db : Database) (organizationId packId : UUID) (key : String)
    (packs : List KnowledgePackRecord) (pack : KnowledgePackRecord) : Prop where
  mem : pack ∈ packs
  organization : pack.organizationId = organizationId
  packKey : pack.packKey = key
  new : (packs = db.packs) ∨ (packs = db.packs ++ [pack] ∧ pack.knowledgePackId = packId ∧
    pack.name = "Administrator validated mappings" ∧
    (∀ other ∈ db.packs, other.knowledgePackId ≠ packId) ∧
    ∀ other ∈ db.packs, other.organizationId = organizationId → other.packKey ≠ key)

theorem packFor_spec {organizationId packId : UUID} {key : String} {pack : KnowledgePackRecord}
    (h : packFor db organizationId packId key = .ok (db', pack)) :
    db' = { db with packs := db'.packs } ∧
      PackFor db organizationId packId key db'.packs pack := by
  unfold packFor at h
  split at h
  · rename_i found hfound
    obtain ⟨rfl, rfl⟩ := Prod.mk.inj (Except.ok.inj h)
    have hmatch := List.find?_some hfound
    simp only [Bool.and_eq_true, beq_iff_eq] at hmatch
    exact ⟨rfl, List.mem_of_find?_eq_some hfound, hmatch.1, hmatch.2, Or.inl rfl⟩
  · rename_i hnone
    dsimp only at h
    split at h
    · rename_i packs hinsert
      obtain ⟨rfl, rfl⟩ := Prod.mk.inj (Except.ok.inj h)
      obtain ⟨rfl, hfree⟩ := Table.insert?_eq_some hinsert
      refine ⟨rfl, List.mem_append_right _ (List.mem_singleton_self _), rfl, rfl,
        Or.inr ⟨rfl, rfl, rfl, hfree, fun other hother horganization hkey => ?_⟩⟩
      have := List.find?_eq_none.mp hnone other hother
      simp [horganization, hkey] at this
    · cases h

/-- What a publication does: the version is published in a new version of the pack of its
profiles, and the version of the mapping that was published before is superseded. -/
structure Publishes (db : Database) (env : Environment) (user : User)
    (mappingVersionId packId packVersionId : UUID) (db' : Database) (mapping : MappingVersion)
    (pack : KnowledgePackRecord) : Prop where
  mem : mapping ∈ db.mappings
  id : mapping.mappingVersionId = mappingVersionId
  organization : mapping.organizationId = user.organizationId
  approved : mapping.status = .approved
  runs : db'.runs = db.runs
  mappings : ∃ mappings, Supersedes user.organizationId mapping.mappingId db.mappings mappings ∧
    db'.mappings = Table.modify MappingVersion.mappingVersionId mappings mappingVersionId
      (asPublished env.now packVersionId)
  packs : PackFor db user.organizationId packId
    (packKey mapping.definition.profileApplicability.profileVersionIds) db'.packs pack
  packVersions : db'.packVersions = db.packVersions ++
    [newPackVersion db user mapping packVersionId pack.knowledgePackId env.now]
  fresh : ∀ other ∈ db.packVersions, other.knowledgePackVersionId ≠ packVersionId

theorem supersedePrevious_tables (db : Database) (organizationId mappingId : UUID) :
    (supersedePrevious db organizationId mappingId).packs = db.packs ∧
      (supersedePrevious db organizationId mappingId).packVersions = db.packVersions := by
  unfold supersedePrevious
  split <;> exact ⟨rfl, rfl⟩

theorem publishMapping_spec {packId packVersionId : UUID}
    (h : publishMapping sha256 manifestJson env db user mappingVersionId packId packVersionId =
      .ok db') :
    ∃ mapping pack, Publishes db env user mappingVersionId packId packVersionId db' mapping
      pack := by
  unfold publishMapping at h
  simp only [except_bind_eq_ok, mappingOf_eq_ok, refuseIf_eq_ok, liftM_training_eq_ok] at h
  obtain ⟨_, -, mapping, hmapping, _, happroved, _, -, _, -, _, -, _, -, ⟨packed, pack⟩, hpack,
    h⟩ := h
  obtain ⟨hpacked, hpackFor⟩ := packFor_spec hpack
  split at h
  · cases h
  rename_i packVersions hinsert
  obtain rfl := except_pure_eq_ok.mp h
  obtain ⟨hversions, hfresh⟩ := Table.insert?_eq_some hinsert
  obtain ⟨hmem, hid, horganization⟩ := Database.mappingById_eq_some hmapping
  obtain ⟨hsupersedes, hruns⟩ := supersedePrevious_spec { packed with packVersions }
    user.organizationId mapping.mappingId
  obtain ⟨hpacks, hpackVersions⟩ := supersedePrevious_tables { packed with packVersions }
    user.organizationId mapping.mappingId
  simp only [Bool.or_eq_false_iff, bne_eq_false_iff_eq] at happroved
  have hmappings : packed.mappings = db.mappings := by rw [hpacked]
  have hold : packed.packVersions = db.packVersions := by rw [hpacked]
  have hnew : newPackVersion packed user mapping packVersionId pack.knowledgePackId env.now =
      newPackVersion db user mapping packVersionId pack.knowledgePackId env.now := by
    rw [hpacked]
    rfl
  refine ⟨mapping, pack, hmem, hid, horganization, happroved.1,
    hruns.trans (by rw [hpacked]), ⟨_, hmappings ▸ hsupersedes, rfl⟩, ?_, ?_, ?_⟩
  · exact hpacks.symm ▸ hpackFor
  · refine hpackVersions.trans ?_
    rw [hversions, hold, hnew]
  · exact hold ▸ hfresh

theorem publishMapping_step (hkeys : (db.mappings.map (·.mappingVersionId)).Nodup)
    {packId packVersionId : UUID} {mapping : MappingVersion} {pack : KnowledgePackRecord}
    (h : Publishes db env user mappingVersionId packId packVersionId db' mapping pack) :
    VersionsStep sha256 db (.publish env user mappingVersionId packId packVersionId)
        db'.mappings := by
  obtain ⟨mappings, hsupersedes, hmappings⟩ := h.mappings
  rw [hmappings]
  cases hsupersedes with
  | none _ =>
    refine versionsStep_modify fun version hversion hversionId => ?_
    obtain rfl := eq_of_versionId hkeys hversion h.mem (hversionId.trans h.id.symm)
    rw [← h.id]
    exact .publish h.approved
  | some previous hprevious _ _ hpublished =>
    have hother : previous.mappingVersionId ≠ mappingVersionId := by
      intro hsame
      have := eq_of_versionId hkeys hprevious h.mem (hsame.trans h.id.symm)
      simp [this, h.approved] at hpublished
    simp only [Table.modify, List.map_map]
    refine versionsStep_map fun version hversion => ?_
    simp only [Function.comp_apply]
    by_cases hversionId : version.mappingVersionId = previous.mappingVersionId
    · obtain rfl := eq_of_versionId hkeys hversion hprevious hversionId
      have hkept : (asSuperseded version).mappingVersionId ≠ mappingVersionId := hother
      rw [if_pos rfl, if_neg hkept]
      exact .supersede hpublished
    · rw [if_neg hversionId]
      split
      · rename_i hthis
        obtain rfl := eq_of_versionId hkeys hversion h.mem (hthis.trans h.id.symm)
        rw [← h.id]
        exact .publish h.approved
      · exact .same _ _

end Specs

section Transactions

variable (uuid5 : UUID → String → UUID) (sha256 : String → String)
  (manifestJson : List String → String)

/-- Both tables have a primary key. -/
structure Keyed (db : Database) : Prop where
  versions : (db.mappings.map (·.mappingVersionId)).Nodup
  runs : (db.runs.map (·.validationRunId)).Nodup

variable {db : Database} {event : Event}

variable {uuid5 sha256 manifestJson} in
theorem transact_steps {db' : Database} (hkeyed : Keyed db)
    (h : transact uuid5 sha256 manifestJson db event = .ok db') :
    VersionsStep sha256 db event db'.mappings ∧ RunsStep sha256 db event db'.runs := by
  have hsame : ∀ {runs : List MappingValidationRun}, runs = db.runs →
      RunsStep sha256 db event runs := by
    rintro _ rfl
    exact runsStep_same event db
  cases event with
  | create => exact createMapping_step h
  | adopt => exact adoptSuggestion_step h
  | update =>
    obtain ⟨hversions, hruns⟩ := updateMapping_step hkeyed.versions h
    exact ⟨hversions, hsame hruns⟩
  | requestValidation => exact requestValidation_step hkeyed.versions h
  | executeValidation => exact executeValidation_step hkeyed.runs h
  | approve =>
    obtain ⟨hversions, hruns⟩ := approveMapping_step hkeyed.versions h
    exact ⟨hversions, hsame hruns⟩
  | reject =>
    obtain ⟨hversions, hruns⟩ := rejectMapping_step hkeyed.versions h
    exact ⟨hversions, hsame hruns⟩
  | publish =>
    obtain ⟨mapping, pack, hpublishes⟩ := publishMapping_spec h
    exact ⟨publishMapping_step hkeyed.versions hpublishes, hsame hpublishes.runs⟩

/-- Every transaction, also one that is rolled back. -/
theorem step_steps (hkeyed : Keyed db) (event : Event) :
    VersionsStep sha256 db event (step uuid5 sha256 manifestJson db event).mappings ∧
      RunsStep sha256 db event (step uuid5 sha256 manifestJson db event).runs := by
  unfold step
  split
  · rename_i h
    exact transact_steps hkeyed h
  · exact ⟨versionsStep_same event db, runsStep_same event db⟩

end Transactions

end ConfigAuditor.Training.Lifecycle
