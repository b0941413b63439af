import ConfigAuditor.Training.Lifecycle

/-!
# From a draft to a publication

A definition all of whose examples pass goes through the workflow: drafted, validated,
approved and published by one administrator, on any database.
-/
namespace ConfigAuditor.Training.Publication

open Library SecurityModel ProfileResolution Dsl Service Lifecycle

/-- The transactions up to the approval. -/
def drafting (env : Environment) (user : User) (input : CreateInput) (runId : UUID) :
    List Event :=
  [.create user input, .requestValidation env user input.mappingVersionId runId none none,
    .executeValidation env runId input.mappingVersionId user.organizationId,
    .approve env user input.mappingVersionId]

/-- The five transactions of a publication. -/
def publication (env : Environment) (user : User) (input : CreateInput)
    (runId packId packVersionId : UUID) : List Event :=
  drafting env user input runId ++ [.publish env user input.mappingVersionId packId packVersionId]

/-- The first version of a new mapping. -/
def firstVersion (input : CreateInput) : NewMapping :=
  { mappingVersionId := input.mappingVersionId, mappingId := input.mappingId,
    mappingKey := input.mappingKey, title := some input.title, description := input.description,
    definition := input.definition, origin := .administrator }

/-- A new mapping that the workflow does not stop. -/
structure Publishable (db : Database) (env : Environment) (user : User) (input : CreateInput)
    (runId : UUID) : Prop where
  admin : isAdmin user = true
  first : input.previousMappingVersionId = none
  unassigned : input.unresolvedBlockId = none
  key : ((Text.strip input.mappingKey).isEmpty || 255 < input.mappingKey.length) = false
  versionFree : ∀ row ∈ db.mappings, row.mappingVersionId ≠ input.mappingVersionId
  mappingFree : ∀ row ∈ db.mappings, row.mappingId ≠ input.mappingId
  runFree : ∀ run ∈ db.runs, run.validationRunId ≠ runId ∧
    run.mappingVersionId ≠ input.mappingVersionId
  flat : isStructured input.definition = false
  examples : ∀ family ∈ validationFamilies,
    familyPassed input.definition family = .ok (family, true)
  encodes : input.definition.payload.dumps.isOk = true
  contents : (PyValue.list (input.definition.examples.map (·.payload))).dumps.isOk = true
  apart : collides db ((firstVersion input).row user) = false
  profiles : profilesAvailable env user.organizationId
    input.definition.profileApplicability.profileVersionIds = .ok true

section Rows

variable (env : Environment) (user : User) (input : CreateInput) (runId : UUID)

/-- The request of the validation. -/
def pendingRun : MappingValidationRun :=
  { validationRunId := runId, organizationId := user.organizationId,
    mappingVersionId := input.mappingVersionId, createdAt := env.now }

def passedRun (results : ValidationResults) : MappingValidationRun :=
  { pendingRun env user input runId with
    status := .passed, results := some results, completedAt := some env.now }

def draftRow : MappingVersion := (firstVersion input).row user

def testingRow : MappingVersion := { draftRow user input with status := .testing }

def validatedRow (results : ValidationResults) : MappingVersion :=
  { testingRow user input with validationResults := some results }

def approvedRow (results : ValidationResults) : MappingVersion :=
  { validatedRow user input results with
    status := .approved, approvedBy := some user.userId, approvedAt := some env.now }

def publishedRow (results : ValidationResults) (packVersionId : UUID) : MappingVersion :=
  { approvedRow env user input results with
    status := .published, publishedAt := some env.now,
    knowledgePackVersionId := some packVersionId }

end Rows

section Steps

variable {uuid5 : UUID → String → UUID} {sha256 : String → String}
  {manifestJson : List String → String} {db : Database} {env : Environment} {user : User}
  {input : CreateInput} {runId : UUID} {row : MappingVersion}

theorem modifyMapping_fresh
    (hfree : ∀ other ∈ db.mappings, other.mappingVersionId ≠ row.mappingVersionId)
    (runs : List MappingValidationRun) (f : MappingVersion → MappingVersion) :
    ({ db with mappings := db.mappings ++ [row], runs } : Database).modifyMapping
        row.mappingVersionId f =
      { db with mappings := db.mappings ++ [f row], runs } := by
  simp only [Database.modifyMapping, Table.modify_fresh hfree]

theorem mappingById_fresh
    (hfree : ∀ other ∈ db.mappings, other.mappingVersionId ≠ row.mappingVersionId)
    (runs : List MappingValidationRun) :
    ({ db with mappings := db.mappings ++ [row], runs } : Database).mappingById
        row.mappingVersionId row.organizationId = some row := by
  simp [Database.mappingById, Table.find?_fresh hfree]

/-- The only run of a version is its latest one. -/
theorem latestValidation_fresh {run : MappingValidationRun} (mappings : List MappingVersion)
    (hfree : ∀ other ∈ db.runs, other.mappingVersionId ≠ run.mappingVersionId) :
    ({ db with mappings, runs := db.runs ++ [run] } : Database).latestValidation
        run.mappingVersionId = some run := by
  have hnone : db.runs.filter (·.mappingVersionId == run.mappingVersionId) = [] :=
    List.filter_eq_nil_iff.mpr fun other hother => by simpa using hfree other hother
  simp [Database.latestValidation, List.filter_append, hnone, sortedBy]

theorem create_fresh (h : Publishable db env user input runId) :
    createMapping db user input =
      .ok { db with mappings := db.mappings ++ [draftRow user input] } := by
  have hunique : (db.mappings.any fun other => other.mappingId == input.mappingId &&
      other.version == 1) = false := by
    refine List.any_eq_false.mpr fun other hother => ?_
    have := h.mappingFree other hother
    simp [this]
  have hinsert : Table.insert? MappingVersion.mappingVersionId db.mappings (draftRow user input) =
      some (db.mappings ++ [draftRow user input]) := Table.insert?_fresh h.versionFree
  have hnew : newMapping db user (firstVersion input) =
      .ok { db with mappings := db.mappings ++ [draftRow user input] } := by
    simp only [newMapping, except_bind_eq_ok, refuseIf_eq_ok]
    refine ⟨(), h.key, (), hunique, ?_⟩
    rw [show (firstVersion input).row user = draftRow user input from rfl, hinsert]
    rfl
  simp only [createMapping, newMappingOf, h.first, h.unassigned, except_bind_eq_ok]
  exact ⟨_, rfl, _, hnew, rfl⟩

theorem request_fresh (h : Publishable db env user input runId) :
    requestValidation env { db with mappings := db.mappings ++ [draftRow user input] } user
        input.mappingVersionId runId none none =
      .ok {
        db with
        mappings := db.mappings ++ [testingRow user input]
        runs := db.runs ++ [pendingRun env user input runId] } := by
  have hinsert : Table.insert? MappingValidationRun.validationRunId db.runs
      (pendingRun env user input runId) = some (db.runs ++ [pendingRun env user input runId]) :=
    Table.insert?_fresh fun run hrun => (h.runFree run hrun).1
  have hrow : ({ db with mappings := db.mappings ++ [draftRow user input] } : Database).mappingById
      input.mappingVersionId user.organizationId = some (draftRow user input) :=
    mappingById_fresh h.versionFree db.runs
  simp only [requestValidation, except_bind_eq_ok, mappingOf_eq_ok, refuseIf_eq_ok]
  refine ⟨_, hrow, (), rfl, (), ?_, (), rfl, (), rfl, ?_⟩
  · exact Bool.and_eq_false_iff.mpr (Or.inl h.flat)
  · unfold pendingRun at hinsert ⊢
    rw [hinsert]
    exact congrArg Except.ok (modifyMapping_fresh h.versionFree _ _)

/-- The version under test is not published, so it collides with nothing new. -/
theorem collides_fresh (h : Publishable db env user input runId)
    (runs : List MappingValidationRun) :
    collides { db with mappings := db.mappings ++ [testingRow user input], runs }
      (testingRow user input) = false := by
  have hapart := h.apart
  simp only [collides, Database.publishedMappings, List.filter_append] at hapart ⊢
  rw [List.any_append]
  refine Bool.or_eq_false_iff.mpr ⟨hapart, ?_⟩
  rw [List.filter_cons_of_neg (by simp [testingRow])]
  rfl

variable (uuid5 sha256 manifestJson) in
/-- The results of the validation of a definition with passing examples. -/
theorem validate_fresh (h : Publishable db env user input runId) :
    ∃ results : ValidationResults, results.passed = true ∧
      (∀ runs, validateDefinition uuid5 sha256 manifestJson env
        { db with mappings := db.mappings ++ [testingRow user input], runs }
        (testingRow user input) none none = .ok results) ∧
      ∀ row : MappingVersion, row.definition = input.definition →
        validationIsCurrent sha256 manifestJson env row results = .ok true := by
  obtain ⟨text, htext⟩ := exists_of_isOk h.encodes
  obtain ⟨contents, hcontents⟩ := exists_of_isOk h.contents
  have hdigest : digest sha256 input.definition = .ok (sha256 text) := by
    simp only [digest, except_bind_eq_ok, liftM_eq_ok, except_pure_eq_ok]
    exact ⟨text, htext, rfl⟩
  have hcontentDigest : contentDigest sha256 input.definition = .ok (sha256 contents) := by
    simp only [contentDigest, except_bind_eq_ok, liftM_eq_ok, except_pure_eq_ok]
    exact ⟨contents, hcontents, rfl⟩
  have hfamilies : validationFamilies.mapM (fun family =>
      (liftM (familyPassed input.definition family) : Except TrainingError _)) =
        .ok (validationFamilies.map fun family => (family, true)) :=
    mapM_eq_ok_map fun family hfamily => liftM_training_eq_ok.mpr (h.examples family hfamily)
  let profile := profileDigest sha256 manifestJson input.definition
  refine ⟨{ passed := true
            families := validationFamilies.map fun family => (family, true)
            semantic := none, negativeSemantic := none, definitionDigest := sha256 text
            profileDigest := profile, contentDigest := sha256 contents
            validationDigest := validationDigest sha256 (sha256 text) profile (sha256 contents) "" },
    rfl, fun runs => ?_, fun row hrow => ?_⟩
  · simp only [validateDefinition, except_bind_eq_ok, except_pure_eq_ok, liftM_training_eq_ok]
    refine ⟨_, hfamilies, none, rfl, none, rfl, _, hdigest, _, hcontentDigest, ?_⟩
    have hflat : isStructured (testingRow user input).definition = false := h.flat
    simp only [collides_fresh h runs, hflat]
    rfl
  · rw [validationIsCurrent, hrow, hdigest]
    simp only [except_bind_eq_ok]
    refine ⟨_, rfl, _, hcontentDigest, ?_⟩
    simp [profile, Text.join]

theorem execute_fresh (h : Publishable db env user input runId) {results : ValidationResults}
    (hpassed : results.passed = true)
    (hresults : ∀ runs, validateDefinition uuid5 sha256 manifestJson env
      { db with mappings := db.mappings ++ [testingRow user input], runs }
      (testingRow user input) none none = .ok results) :
    executeValidation uuid5 sha256 manifestJson env {
        db with
        mappings := db.mappings ++ [testingRow user input]
        runs := db.runs ++ [pendingRun env user input runId] } runId input.mappingVersionId
        user.organizationId =
      .ok {
        db with
        mappings := db.mappings ++ [validatedRow user input results]
        runs := db.runs ++ [passedRun env user input runId results] } := by
  have hfree : ∀ other ∈ db.runs,
      other.validationRunId ≠ (pendingRun env user input runId).validationRunId :=
    fun run hrun => (h.runFree run hrun).1
  have hrun : (Table.find? MappingValidationRun.validationRunId
      (db.runs ++ [pendingRun env user input runId]) runId).filter (fun run =>
        run.mappingVersionId == input.mappingVersionId &&
          run.organizationId == user.organizationId) = some (pendingRun env user input runId) := by
    have hfind : Table.find? MappingValidationRun.validationRunId
        (db.runs ++ [pendingRun env user input runId]) runId =
          some (pendingRun env user input runId) := Table.find?_fresh hfree
    rw [hfind]
    simp [pendingRun]
  have hrow : ({ db with
      mappings := db.mappings ++ [testingRow user input],
      runs := db.runs ++ [pendingRun env user input runId] } : Database).mappingById
        input.mappingVersionId user.organizationId = some (testingRow user input) :=
    mappingById_fresh h.versionFree _
  simp only [executeValidation, hrun, hrow, except_bind_eq_ok, refuseIf_eq_ok]
  refine ⟨(), rfl, results, hresults _, ?_⟩
  have hruns : Table.modify MappingValidationRun.validationRunId
      (db.runs ++ [pendingRun env user input runId]) runId (fun run =>
        { run with
          status := if results.passed then .passed else .failed
          results := some results, completedAt := some env.now }) =
      db.runs ++ [passedRun env user input runId results] := by
    refine (Table.modify_fresh hfree).trans ?_
    rw [hpassed]
    rfl
  rw [hruns]
  exact congrArg Except.ok (modifyMapping_fresh h.versionFree _ _)

theorem current_fresh (h : Publishable db env user input runId) {results : ValidationResults}
    (mappings : List MappingVersion)
    (hcurrent : ∀ row : MappingVersion, row.definition = input.definition →
      validationIsCurrent sha256 manifestJson env row results = .ok true)
    {row : MappingVersion} (hid : row.mappingVersionId = input.mappingVersionId)
    (hdefinition : row.definition = input.definition) :
    latestValidationCurrent sha256 manifestJson env {
      db with mappings, runs := db.runs ++ [passedRun env user input runId results] } row =
        .ok true := by
  have hlatest : ({ db with
      mappings, runs := db.runs ++ [passedRun env user input runId results] } :
        Database).latestValidation row.mappingVersionId =
          some (passedRun env user input runId results) := by
    rw [hid]
    exact latestValidation_fresh mappings fun run hrun => (h.runFree run hrun).2
  simp only [latestValidationCurrent, hlatest]
  exact hcurrent row hdefinition

theorem approve_fresh (h : Publishable db env user input runId) {results : ValidationResults}
    (hcurrent : ∀ row : MappingVersion, row.definition = input.definition →
      validationIsCurrent sha256 manifestJson env row results = .ok true) :
    approveMapping sha256 manifestJson env {
        db with
        mappings := db.mappings ++ [validatedRow user input results]
        runs := db.runs ++ [passedRun env user input runId results] } user
        input.mappingVersionId =
      .ok {
        db with
        mappings := db.mappings ++ [approvedRow env user input results]
        runs := db.runs ++ [passedRun env user input runId results] } := by
  simp only [approveMapping, except_bind_eq_ok, requireAdmin_eq_ok, mappingOf_eq_ok,
    refuseIf_eq_ok, liftM_training_eq_ok]
  refine ⟨(), h.admin, _, mappingById_fresh h.versionFree _, (), rfl, true,
    current_fresh h _ hcurrent rfl rfl, (), rfl, ?_⟩
  exact congrArg Except.ok (modifyMapping_fresh h.versionFree _ _)

/-- The state a publication leaves. -/
def published (db packed : Database) (env : Environment) (user : User) (input : CreateInput)
    (runId packVersionId knowledgePackId : UUID) (results : ValidationResults) : Database :=
  markMapped {
    db with
    mappings := db.mappings ++ [publishedRow env user input results packVersionId]
    runs := db.runs ++ [passedRun env user input runId results]
    packs := packed.packs
    packVersions := db.packVersions ++ [newPackVersion db user
      (approvedRow env user input results) packVersionId knowledgePackId env.now] }
    user.organizationId input.mappingVersionId

theorem packFor_tables {packed : Database} {organizationId packId : UUID} {key : String}
    {pack : KnowledgePackRecord} (h : packFor db organizationId packId key = .ok (packed, pack))
    (mappings : List MappingVersion) (runs : List MappingValidationRun) :
    packFor { db with mappings, runs } organizationId packId key =
      .ok ({ db with mappings, runs, packs := packed.packs }, pack) := by
  unfold packFor at h ⊢
  split at h
  · rename_i found hfound
    obtain ⟨rfl, rfl⟩ := Prod.mk.inj (Except.ok.inj h)
    simp only [hfound]
  · rename_i hnone
    simp only [hnone] at h ⊢
    split at h
    · obtain ⟨rfl, rfl⟩ := Prod.mk.inj (Except.ok.inj h)
      rfl
    · cases h

/-- The new version itself is not retained. -/
theorem newPackVersion_tables {row : MappingVersion} (packs : List KnowledgePackRecord)
    (runs : List MappingValidationRun) (packVersionId packId : UUID) (now : Int) :
    newPackVersion { db with mappings := db.mappings ++ [row], runs, packs } user row packVersionId
        packId now =
      newPackVersion db user row packVersionId packId now := by
  have hretained : ∀ previous,
      retained { db with mappings := db.mappings ++ [row], runs, packs } previous row.mappingId =
        retained db previous row.mappingId := by
    intro previous
    cases previous with
    | none => rfl
    | some version =>
      simp only [retained, List.filter_append]
      rw [List.filter_cons_of_neg (by simp), List.filter_nil, List.append_nil]
  unfold newPackVersion
  dsimp only
  rw [hretained]
  rfl

theorem publish_fresh (h : Publishable db env user input runId) {results : ValidationResults}
    (hcurrent : ∀ row : MappingVersion, row.definition = input.definition →
      validationIsCurrent sha256 manifestJson env row results = .ok true)
    {packed : Database} {pack : KnowledgePackRecord} {packId packVersionId : UUID}
    (hpack : packFor db user.organizationId packId
      (packKey input.definition.profileApplicability.profileVersionIds) = .ok (packed, pack))
    (hfree : ∀ version ∈ db.packVersions, version.knowledgePackVersionId ≠ packVersionId) :
    publishMapping sha256 manifestJson env {
        db with
        mappings := db.mappings ++ [approvedRow env user input results]
        runs := db.runs ++ [passedRun env user input runId results] } user
        input.mappingVersionId packId packVersionId =
      .ok (published db packed env user input runId packVersionId pack.knowledgePackId
        results) := by
  have hinsert : Table.insert? KnowledgePackVersionRecord.knowledgePackVersionId db.packVersions
      (newPackVersion db user (approvedRow env user input results) packVersionId
        pack.knowledgePackId env.now) = some (db.packVersions ++ [newPackVersion db user
          (approvedRow env user input results) packVersionId pack.knowledgePackId env.now]) :=
    Table.insert?_fresh hfree
  have hnone : (db.mappings ++ [approvedRow env user input results]).find? (fun row =>
      row.organizationId == user.organizationId && row.mappingId == input.mappingId &&
        row.status == .published) = none := by
    refine List.find?_eq_none.mpr fun row hrow => ?_
    rcases List.mem_append.mp hrow with hold | hnew
    · have := h.mappingFree row hold
      simp [this]
    · obtain rfl := List.mem_singleton.mp hnew
      simp [approvedRow]
  simp only [publishMapping, except_bind_eq_ok, requireAdmin_eq_ok, mappingOf_eq_ok,
    refuseIf_eq_ok, liftM_training_eq_ok]
  refine ⟨(), h.admin, _, mappingById_fresh h.versionFree _, (), rfl, true,
    current_fresh h _ hcurrent rfl rfl, (), rfl, true, h.profiles, (), rfl, _,
    packFor_tables hpack _ _, ?_⟩
  dsimp only
  rw [newPackVersion_tables, hinsert]
  simp only [supersedePrevious]
  rw [show (approvedRow env user input results).mappingId = input.mappingId from rfl, hnone]
  have hmappings : Table.modify MappingVersion.mappingVersionId
      (db.mappings ++ [approvedRow env user input results]) input.mappingVersionId
      (fun row => { row with
        status := .published, publishedAt := some env.now,
        knowledgePackVersionId := some packVersionId }) =
      db.mappings ++ [publishedRow env user input results packVersionId] :=
    Table.modify_fresh h.versionFree
  simp only [Database.modifyMapping, hmappings]
  rfl

theorem run_step {db' : Database} {event : Event}
    (h : transact uuid5 sha256 manifestJson db event = .ok db') (events : List Event) :
    run uuid5 sha256 manifestJson db (event :: events) =
      run uuid5 sha256 manifestJson db' events := by
  simp only [run, Runs.run_cons, step, h]

variable (uuid5 sha256 manifestJson) in
/-- A publishable definition is approved, and its publication goes through. -/
theorem run_drafting (h : Publishable db env user input runId) {packed : Database}
    {pack : KnowledgePackRecord} {packId packVersionId : UUID}
    (hpack : packFor db user.organizationId packId
      (packKey input.definition.profileApplicability.profileVersionIds) = .ok (packed, pack))
    (hfree : ∀ version ∈ db.packVersions, version.knowledgePackVersionId ≠ packVersionId) :
    ∃ results, publishMapping sha256 manifestJson env
      (run uuid5 sha256 manifestJson db (drafting env user input runId)) user
        input.mappingVersionId packId packVersionId =
      .ok (published db packed env user input runId packVersionId pack.knowledgePackId
        results) := by
  obtain ⟨results, hpassed, hresults, hcurrent⟩ := validate_fresh uuid5 sha256 manifestJson h
  have hcreate : transact uuid5 sha256 manifestJson db (.create user input) = .ok _ :=
    create_fresh h
  have hrequest : transact uuid5 sha256 manifestJson _ (.requestValidation env user
    input.mappingVersionId runId none none) = .ok _ := request_fresh h
  have hexecute : transact uuid5 sha256 manifestJson _ (.executeValidation env runId
    input.mappingVersionId user.organizationId) = .ok _ := execute_fresh h hpassed hresults
  have happrove : transact uuid5 sha256 manifestJson _ (.approve env user
    input.mappingVersionId) = .ok _ := approve_fresh h hcurrent
  refine ⟨results, ?_⟩
  unfold drafting
  rw [run_step hcreate, run_step hrequest, run_step hexecute, run_step happrove]
  exact publish_fresh h hcurrent hpack hfree

variable (uuid5 sha256 manifestJson) in
/-- A publishable definition is published. -/
theorem run_publication (h : Publishable db env user input runId) {packed : Database}
    {pack : KnowledgePackRecord} {packId packVersionId : UUID}
    (hpack : packFor db user.organizationId packId
      (packKey input.definition.profileApplicability.profileVersionIds) = .ok (packed, pack))
    (hfree : ∀ version ∈ db.packVersions, version.knowledgePackVersionId ≠ packVersionId) :
    ∃ results, run uuid5 sha256 manifestJson db
        (publication env user input runId packId packVersionId) =
          published db packed env user input runId packVersionId pack.knowledgePackId results ∧
      ∀ before after, publication env user input runId packId packVersionId = before ++ after →
        ∀ row ∈ (run uuid5 sha256 manifestJson db before).mappings,
          row ∈ db.mappings ∨ row.definition = input.definition := by
  obtain ⟨results, hpassed, hresults, hcurrent⟩ := validate_fresh uuid5 sha256 manifestJson h
  have hcreate : transact uuid5 sha256 manifestJson db (.create user input) = .ok _ :=
    create_fresh h
  have hrequest : transact uuid5 sha256 manifestJson _ (.requestValidation env user
    input.mappingVersionId runId none none) = .ok _ := request_fresh h
  have hexecute : transact uuid5 sha256 manifestJson _ (.executeValidation env runId
    input.mappingVersionId user.organizationId) = .ok _ := execute_fresh h hpassed hresults
  have happrove : transact uuid5 sha256 manifestJson _ (.approve env user
    input.mappingVersionId) = .ok _ := approve_fresh h hcurrent
  have hpublish : transact uuid5 sha256 manifestJson _ (.publish env user
    input.mappingVersionId packId packVersionId) = .ok _ := publish_fresh h hcurrent hpack hfree
  refine ⟨results, ?_, fun before after hsplit row hrow => ?_⟩
  · simp only [publication, drafting, List.cons_append, List.nil_append]
    rw [run_step hcreate, run_step hrequest, run_step hexecute, run_step happrove,
      run_step hpublish]
    rfl
  · have hnew : ∀ {last : MappingVersion}, row ∈ db.mappings ++ [last] →
        last.definition = input.definition → row ∈ db.mappings ∨
          row.definition = input.definition := by
      intro last hmem hlast
      rcases List.mem_append.mp hmem with hold | hnew
      · exact Or.inl hold
      · exact Or.inr (List.mem_singleton.mp hnew ▸ hlast)
    have hfront : before = (publication env user input runId packId packVersionId).take
        before.length := by rw [hsplit, List.take_left]
    rw [hfront] at hrow
    simp only [publication, drafting, List.cons_append, List.nil_append] at hrow
    -- the state after each number of transactions
    rcases hlength : before.length with _ | _ | _ | _ | _ | n <;> rw [hlength] at hrow
    · exact Or.inl hrow
    · rw [List.take_succ_cons, run_step hcreate] at hrow
      exact hnew hrow rfl
    · rw [List.take_succ_cons, run_step hcreate, List.take_succ_cons, run_step hrequest] at hrow
      exact hnew hrow rfl
    · rw [List.take_succ_cons, run_step hcreate, List.take_succ_cons, run_step hrequest,
        List.take_succ_cons, run_step hexecute] at hrow
      exact hnew hrow rfl
    · rw [List.take_succ_cons, run_step hcreate, List.take_succ_cons, run_step hrequest,
        List.take_succ_cons, run_step hexecute, List.take_succ_cons, run_step happrove] at hrow
      exact hnew hrow rfl
    · rw [List.take_succ_cons, run_step hcreate, List.take_succ_cons, run_step hrequest,
        List.take_succ_cons, run_step hexecute, List.take_succ_cons, run_step happrove,
        List.take_succ_cons, run_step hpublish, List.take_nil] at hrow
      exact hnew hrow rfl

end Steps

/-- An example of a statement without arguments. -/
def plainExample (family : ExampleFamily) (command : String) (expectedMatch : Bool) :
    MappingExample :=
  { family, node := { command }, expectedMatch }

/-- The presence of a command says that a time server is configured. -/
def presenceFields (command : String) (profileVersionIds : List String) : MappingFields :=
  { profileApplicability := { profileVersionIds }, structuralMatch := { command },
    targetFieldId := "time.ntp.configured",
    valueExtraction := { operation := .booleanFromPresence, outputType := .boolean },
    scopeResolution := { strategy := .device },
    negationBehavior := .unsupported, removalBehavior := .unsupported,
    defaultBehavior := .unsupported,
    examples := [plainExample .positive command true, plainExample .alternateValues command true,
      plainExample .negative "a" false, plainExample .wrongScope "a" false,
      plainExample .negation "a" false, plainExample .conflict "a" false,
      plainExample .regression "a" false] }

/-- A profile manifest the organization published. -/
def runtimeProfile (profileId version : String) : ProfileManifest :=
  { profileId, profileVersionId := profileId ++ "@" ++ version,
    structuralReaderName := some "indentation_cli.v1",
    knowledgePackName := some ("runtime." ++ profileId ++ "@" ++ version) }

def acmeProfile : ProfileManifest := runtimeProfile "acme" "1.0.0"

/-- An environment with two runtime profiles and no evidence. -/
def acmeEnvironment (now : Int) : Environment :=
  { now
    profileFor := fun _ profileVersionId => .ok
      ((([acmeProfile, runtimeProfile "acme" "2.0.0"]).find? (·.profileVersionId == profileVersionId)).or
        (profileRegistry profileVersionId))
    artifact? := fun _ => none
    parseArtifact := fun _ _ => .error .modelValidation
    resolveSecurityFacts := fun _ => .ok ()
    verifyPreview := fun _ _ _ _ => .error .modelValidation }

/-- What `_profile_digest` hashes for runtime profiles. -/
def acmeManifests (profileVersionIds : List String) : String :=
  "[" ++ Text.join "," (profileVersionIds.map fun profileVersionId =>
    "\x7b\"manifest\":null,\"profile_version_id\":\"" ++ profileVersionId ++ "\"\x7d") ++ "]"

def acmeAdmin : User :=
  { userId := UUID.ofNat 1, organizationId := UUID.ofNat 2, role := .mappingAdmin }

/-- An id as `uuid4` draws it. -/
def drawnId (n : Nat) : UUID := UUID.ofNat (0x40008000000000000000 + n)

def ntpDefinition : MappingDefinition :=
  ⟨presenceFields "ntp" ["acme@1.0.0"], by decide +kernel⟩

def presenceInput (definition : MappingDefinition) (mappingVersionId mappingId : UUID) : CreateInput :=
  { mappingVersionId, mappingId, mappingKey := "NTP", title := "NTP", description := "NTP",
    definition }

/-- The SHA-256 digests of a validation: of the definition, of its profiles, of its
examples and of the three together. -/
def acmeDigests (definition : MappingDefinition)
    (definitionDigest profileDigest contentDigest validationDigest : String) :
    List (String × String) :=
  [(definition.payload.dumps.toOption.getD "", definitionDigest),
    (acmeManifests definition.profileApplicability.profileVersionIds, profileDigest),
    ((PyValue.list (definition.examples.map (·.payload))).dumps.toOption.getD "", contentDigest),
    (definitionDigest ++ ":" ++ profileDigest ++ ":" ++ contentDigest ++ ":", validationDigest)]

def ntpDigests : List (String × String) := acmeDigests ntpDefinition
  "e3ffdc72c4da51ff57a5a0e3a649e052b1c56c3fc8b48e5881788f700bec282d"
  "1bdf379e7b97d75aa5d20ceee05066c22abf5a1c8d8031c7786a77c522629518"
  "f3e68e53c6f498e0808613326a39dad303fe9b6ba68b410233eecb44346c059e"
  "f89684043761c2a44041b9cff61f680462db9ba4a1d097cd3dc75df99e33c40f"

def ntpSha256 : String → String := Parsing.tabulated ntpDigests

/-- The input of the examples, with the ids that are drawn. -/
def acmeInput (definition : MappingDefinition) : CreateInput :=
  presenceInput definition (drawnId 3) (drawnId 4)

/-- A database without mappings stops no definition whose examples pass. -/
theorem untrained_publishable {blocks : List ReviewBlock} {definition : MappingDefinition}
    {now : Int}
    (hflat : isStructured definition = false)
    (hexamples : ∀ family ∈ validationFamilies,
      familyPassed definition family = .ok (family, true))
    (hencodes : definition.payload.dumps.isOk = true)
    (hcontents : (PyValue.list (definition.examples.map (·.payload))).dumps.isOk = true)
    (hprofiles : profilesAvailable (acmeEnvironment now) acmeAdmin.organizationId
      definition.profileApplicability.profileVersionIds = .ok true) :
    Publishable (.untrained blocks) (acmeEnvironment now) acmeAdmin
      (acmeInput definition) (drawnId 5) where
  admin := by decide
  first := rfl
  unassigned := rfl
  key := by
    show ((Text.strip "NTP").isEmpty || decide (255 < "NTP".length)) = false
    decide +kernel
  versionFree := by simp [Database.untrained]
  mappingFree := by simp [Database.untrained]
  runFree := by simp [Database.untrained]
  flat := hflat
  examples := hexamples
  encodes := hencodes
  contents := hcontents
  apart := rfl
  profiles := hprofiles

theorem ntp_publishable {blocks : List ReviewBlock} : Publishable (.untrained blocks)
    (acmeEnvironment 0) acmeAdmin (acmeInput ntpDefinition) (drawnId 5) :=
  untrained_publishable rfl (by decide +kernel) (by decide +kernel) (by decide +kernel)
    (by decide +kernel)

def acmePublication (definition : MappingDefinition) : List Event :=
  publication (acmeEnvironment 0) acmeAdmin (acmeInput definition) (drawnId 5) (drawnId 6) (drawnId 7)

def acmePack : KnowledgePackRecord :=
  { knowledgePackId := drawnId 6, organizationId := acmeAdmin.organizationId,
    packKey := packKey ["acme@1.0.0"], name := "Administrator validated mappings" }

/-- The first publication of an organization makes a pack. -/
theorem acme_pack {blocks : List ReviewBlock} :
    packFor (.untrained blocks) acmeAdmin.organizationId (drawnId 6) (packKey ["acme@1.0.0"]) =
      .ok ({ Database.untrained blocks with packs := [acmePack] }, acmePack) := rfl

theorem untrained_free {blocks : List ReviewBlock} :
    ∀ version ∈ (Database.untrained blocks).packVersions, version.knowledgePackVersionId ≠ drawnId 7 := by
  simp [Database.untrained]

end ConfigAuditor.Training.Publication
