import ConfigAuditor.Audits.Creation
import ConfigAuditor.Library.Tenants
import ConfigAuditor.Snapshots.EvidenceInvariant

/-!
# Organizations share the tables

Devices, evidence, snapshots, audits and jobs of all organizations are rows of the same tables,
and every query filters by the organization of the user. No organization can tell this from
tables of its own.
-/
namespace ConfigAuditor.Audits.Tenants

open Library Snapshots Snapshots.Service Snapshots.EvidenceInvariant Service Creation
open Training (User)

/-- One request of a user. The new identifiers are drawn for it. -/
inductive Request where
  | createDevice (user : User) (deviceId : UUID) (now : Int)
  | getDevice (user : User) (deviceId : UUID)
  | upload (artifact : Artifact)
  | operation (operation : Operation)
  | getSnapshot (user : User) (snapshotId : UUID)
  | createAudit (user : User) (request : AuditCreate) (auditId : UUID)
  | getAudit (user : User) (auditId : UUID)

/-- What a request returns. -/
inductive Reply where
  | device (device : Device)
  | artifact (artifact : Artifact)
  | audit (audit : Audit)
  | workflow (response : Response)

/-- Who asks for an operation. -/
def userOf : Operation → User
  | .createSnapshot user _ _ _ _ => user
  | .updateSnapshot user _ _ => user
  | .addArtifact user _ _ => user
  | .removeArtifact user _ _ => user
  | .finalizeSnapshot user _ => user
  | .startAudit user _ _ _ => user

/-- The organization that a request is made for. -/
def Request.organizationId : Request → UUID
  | .createDevice user _ _ => user.organizationId
  | .getDevice user _ => user.organizationId
  | .upload artifact => artifact.organizationId
  | .operation asked => (userOf asked).organizationId
  | .getSnapshot user _ => user.organizationId
  | .createAudit user _ _ => user.organizationId
  | .getAudit user _ => user.organizationId

/-- `create_device`, with the columns that the workflows read. -/
def createDevice (s : Store) (user : User) (deviceId : UUID) (now : Int) :
    Store × Except WorkflowError Device :=
  transact s
    (do
      let devices ← found
        (Table.insert? Device.deviceId s.devices
          { deviceId, organizationId := user.organizationId, lastSeenAt := some now }) .integrity
      return { s with devices })
    fun committed => found (Table.find? Device.deviceId committed.devices deviceId) .invalidRequest

/-- `get_device`. -/
def getDevice (s : Store) (user : User) (deviceId : UUID) : Except WorkflowError Device :=
  found (owned Device.deviceId Device.organizationId s.devices deviceId user.organizationId)
    (.deviceNotFound "device_not_found" "Device not found")

/-- `get_audit`. -/
def getAudit (s : Store) (user : User) (auditId : UUID) : Except WorkflowError Audit :=
  found (owned Audit.auditId Audit.organizationId s.audits auditId user.organizationId)
    (.auditNotFound "audit_not_found" "Audit not found")

/-- The row of an upload, which belongs to no snapshot. -/
def uploaded (artifact : Artifact) : Artifact := { artifact with snapshotId := none }

/-- An upload that is committed. -/
def upload (s : Store) (artifact : Artifact) : Store × Except WorkflowError Artifact :=
  transact s
    (do
      let artifacts ← found
        (Table.insert? Artifact.artifactId s.artifacts (uploaded artifact)) .integrity
      return { s with artifacts })
    fun committed =>
      found (Table.find? Artifact.artifactId committed.artifacts artifact.artifactId)
        .invalidRequest

section Machine

variable (sha256 : String → String) (packs : List Assessment.Model.AssessmentPackVersion)

/-- The check of the requested pack in `create_audit`. -/
def requestedPack (user : User) : Option UUID → Except WorkflowError Unit
  | none => .ok ()
  | some packId =>
    match validateRequestedPack packs user.organizationId packId with
    | .ok _ => .ok ()
    | .error (.assessmentPack code message) => .error (.auditValidation code message)
    | .error error => .error (.uncaught error)

/-- `create_audit`, when nothing else is committed between its statements. -/
def createAudit (s : Store) (user : User) (request : AuditCreate) (auditId : UUID) :
    Store × Except WorkflowError Audit :=
  transact s
    (do
      let snapshot ← found
        (owned Snapshot.snapshotId Snapshot.organizationId s.snapshots request.snapshotId
          user.organizationId)
        (.auditNotFound "snapshot_not_found" "Snapshot not found")
      require (snapshot.status == .ready)
        (.auditConflict "snapshot_not_ready" "Snapshot must be ready")
      let _ ← found
        (owned Device.deviceId Device.organizationId s.devices snapshot.deviceId
          user.organizationId)
        (.auditValidation "snapshot_identity_invalid" "Snapshot identity is inconsistent")
      let _ ← validateSnapshotEvidence sha256 s snapshot
      requestedPack packs user request.assessmentPackVersionId
      require
        (!s.audits.any fun audit =>
          audit.snapshotId == snapshot.snapshotId && audit.revisionNumber == 1) initialExists
      let audits ← found
        (insertAudit? s.audits (initialAudit user request snapshot auditId)) initialExists
      return { s with audits })
    fun committed => found (Table.find? Audit.auditId committed.audits auditId) .invalidRequest

def step (s : Store) : Request → Store × Except WorkflowError Reply
  | .createDevice user deviceId now =>
    let done := createDevice s user deviceId now
    (done.1, done.2.map .device)
  | .getDevice user deviceId => (s, (getDevice s user deviceId).map .device)
  | .upload artifact =>
    let done := upload s artifact
    (done.1, done.2.map .artifact)
  | .operation operation =>
    let done := perform sha256 s operation
    (done.1, done.2.map .workflow)
  | .getSnapshot user snapshotId =>
    (s, (getSnapshot user snapshotId s).map fun r => .workflow (.snapshot r.1 r.2))
  | .createAudit user request auditId =>
    let done := createAudit sha256 packs s user request auditId
    (done.1, done.2.map .audit)
  | .getAudit user auditId => (s, (getAudit s user auditId).map .audit)

end Machine

/-- The statements of `create_audit`, when nothing else is committed between them. -/
def undisturbed (sha256 : String → String) (db : Database) (user : User) (request : AuditCreate)
    (auditId : UUID) : Nat → CreateProgress → Except WorkflowError Store
  | 0, _ => .error .invalidRequest
  | statements + 1, progress =>
    match createStatement sha256 db user request auditId progress with
    | .error error => .error error
    | .ok (.next progress) => undisturbed sha256 db user request auditId statements progress
    | .ok (.finish audits jobs _) => .ok { db.store with audits, jobs }

section Statements

variable (sha256 : String → String) (db : Database) (user : User) (request : AuditCreate)
  (auditId : UUID)

/-- What is left when the requested pack is available. -/
theorem undisturbed_packChecked (snapshot : Snapshot) :
    undisturbed sha256 db user request auditId 2 (.packChecked snapshot) = (do
      require (!db.store.audits.any fun audit =>
        audit.snapshotId == snapshot.snapshotId && audit.revisionNumber == 1) initialExists
      let audits ← found (insertAudit? db.store.audits
        (initialAudit user request snapshot auditId)) initialExists
      return { db.store with audits }) := by
  rw [undisturbed, createStatement]
  cases db.store.audits.any fun audit =>
      audit.snapshotId == snapshot.snapshotId && audit.revisionNumber == 1 with
  | true => rfl
  | false =>
    show undisturbed sha256 db user request auditId 1 (.initialChecked snapshot) = _
    rw [undisturbed, createStatement]
    cases insertAudit? db.store.audits (initialAudit user request snapshot auditId) <;> rfl

theorem createAudit_eq :
    createAudit sha256 db.assessmentPacks db.store user request auditId =
      transact db.store (undisturbed sha256 db user request auditId 6 .begun) fun committed =>
        found (Table.find? Audit.auditId committed.audits auditId) .invalidRequest := by
  unfold createAudit
  congr 1
  rw [undisturbed, createStatement]
  cases owned Snapshot.snapshotId Snapshot.organizationId db.store.snapshots request.snapshotId
      user.organizationId with
  | none => rfl
  | some snapshot =>
    cases hready : (snapshot.status == .ready) with
    | false => simp [found, require, hready, bind, Except.bind]
    | true =>
      simp only [found, require, hready, bind, Except.bind, if_true, pure, Except.pure]
      rw [undisturbed, createStatement]
      cases owned Device.deviceId Device.organizationId db.store.devices snapshot.deviceId
          user.organizationId with
      | none => rfl
      | some device =>
        simp only [found, bind, Except.bind, pure, Except.pure]
        rw [undisturbed, createStatement]
        cases validateSnapshotEvidence sha256 db.store snapshot with
        | error error => rfl
        | ok artifacts =>
          simp only [bind, Except.bind, pure, Except.pure]
          rw [undisturbed, createStatement]
          have hlast := undisturbed_packChecked sha256 db user request auditId snapshot
          cases hpack : request.assessmentPackVersionId with
          | none => exact hlast.symm
          | some packId =>
            simp only [requestedPack]
            cases validateRequestedPack db.assessmentPacks user.organizationId packId with
            | error error => cases error <;> rfl
            | ok pack => exact hlast.symm

end Statements

/-- The identifiers that are drawn are new. -/
def fresh (s : Store) : Request → Bool
  | .createDevice _ deviceId _ => s.devices.all (·.deviceId != deviceId)
  | .upload artifact => s.artifacts.all (·.artifactId != artifact.artifactId)
  | .operation (.createSnapshot _ _ _ snapshotId _) => s.snapshots.all (·.snapshotId != snapshotId)
  | .operation (.startAudit _ _ jobId _) => s.jobs.all (·.jobId != jobId)
  | .createAudit _ _ auditId => s.audits.all (·.auditId != auditId)
  | _ => true

/-- The rows of an organization. A job belongs where its audit belongs. -/
def part (organizationId : UUID) (s : Store) : Store where
  devices := s.devices.filter (·.organizationId == organizationId)
  snapshots := s.snapshots.filter (·.organizationId == organizationId)
  artifacts := s.artifacts.filter (·.organizationId == organizationId)
  audits := s.audits.filter (·.organizationId == organizationId)
  jobs := s.jobs.filter fun job =>
    (s.audits.filter (·.organizationId == organizationId)).any
      fun audit => job.auditId == some audit.auditId

/-- The keys of the tables, and what belongs where. -/
structure Tenancy (sha256 : String → String) (s : Store) : Prop where
  sound : Sound sha256 s
  deviceIds : (s.devices.map Device.deviceId).Nodup
  auditIds : (s.audits.map Audit.auditId).Nodup
  placed : ∀ audit ∈ s.audits, ∃ snapshot ∈ s.snapshots,
    snapshot.snapshotId = audit.snapshotId ∧ snapshot.organizationId = audit.organizationId
  submitted : ∀ job ∈ s.jobs, ∃ audit ∈ s.audits, job.auditId = some audit.auditId

section Part

variable {sha256 : String → String} {o : UUID} {s : Store} {user : User}

/-- A query of the organization finds the same row. -/
theorem owned_part {ρ : Type} {key organizationId : ρ → UUID} {rows : List ρ}
    (hrows : (rows.map key).Nodup) (id : UUID) :
    owned key organizationId (rows.filter (organizationId · == o)) id o =
      owned key organizationId rows id o := by
  rw [owned, owned, Table.find?_filter hrows]
  cases Table.find? key rows id with
  | none => rfl
  | some row =>
    by_cases hrow : organizationId row = o <;> simp

/-- The members of a snapshot belong where it belongs. -/
theorem members_part (h : Sound sha256 s) {snapshot : Snapshot} (hsnapshot : snapshot ∈ s.snapshots)
    (howner : snapshot.organizationId = o) :
    (part o s).members snapshot.snapshotId = s.members snapshot.snapshotId := by
  have horganization := (h.faithful snapshot hsnapshot).organization
  rw [Store.members, part, List.filter_filter]
  refine List.filter_congr fun artifact hartifact => ?_
  by_cases hmember : artifact.snapshotId = some snapshot.snapshotId
  · have hown := horganization artifact (Store.mem_members.mpr ⟨hartifact, hmember⟩)
    simp [hmember, hown, howner]
  · simp [hmember]

theorem getSnapshot_part (h : Sound sha256 s) (huser : user.organizationId = o)
    (snapshotId : UUID) : getSnapshot user snapshotId (part o s) = getSnapshot user snapshotId s := by
  unfold getSnapshot
  rw [huser, part, owned_part h.snapshot_ids, ← part]
  cases hfound : owned Snapshot.snapshotId Snapshot.organizationId s.snapshots snapshotId o with
  | none => rfl
  | some snapshot =>
    obtain ⟨hmem, rfl, howner⟩ := owned_eq_some hfound
    rw [members_part h hmem howner]

/-- A step of a transaction that reads the same. -/
theorem bind_part {α : Type} {x y : Except WorkflowError α} {f g : α → Except WorkflowError Store}
    {p : Store → Store} (hx : x = y) (h : ∀ a, y = .ok a → f a = (g a).map p) :
    (x >>= f) = (y >>= g).map p := by
  rw [hx]
  cases hy : y with
  | error error => rfl
  | ok a => exact h a hy

/-- A transaction on the part does what it does on the whole. -/
theorem transact_part {α : Type} {body body' : Except WorkflowError Store}
    {reread : Store → Except WorkflowError α} (hbody : body' = body.map (part o))
    (hreread : ∀ committed, body = .ok committed → reread (part o committed) = reread committed) :
    transact (part o s) body' reread =
      (part o (transact s body reread).1, (transact s body reread).2) := by
  rw [hbody]
  cases h : body with
  | error error => rfl
  | ok committed =>
    simp only [Except.map, transact]
    rw [hreread committed h]

/-- A rewritten row stays in the part it is in. -/
theorem own_modify {ρ : Type} (o : UUID) (key organizationId : ρ → UUID) (rows : List ρ)
    (id : UUID) (f : ρ → ρ) (hf : ∀ row, organizationId (f row) = organizationId row) :
    (Table.modify key rows id f).filter (organizationId · == o) =
      Table.modify key (rows.filter (organizationId · == o)) id f :=
  Table.modify_filter fun row => by rw [hf]

/-- The rows of the part when one row of the snapshots is rewritten. -/
theorem part_modify_snapshot {id : UUID} {f : Snapshot → Snapshot}
    (hf : ∀ snapshot, (f snapshot).organizationId = snapshot.organizationId) :
    part o { s with snapshots := Table.modify Snapshot.snapshotId s.snapshots id f } =
      { part o s with
        snapshots := Table.modify Snapshot.snapshotId (part o s).snapshots id f } := by
  have hfilter := own_modify o Snapshot.snapshotId Snapshot.organizationId s.snapshots id f hf
  simp only [part, hfilter]

theorem createSnapshot_part (h : Tenancy sha256 s) (huser : user.organizationId = o)
    {deviceId : UUID} {request : SnapshotCreate} {snapshotId : UUID} {now : Int}
    (hfresh : ∀ snapshot ∈ s.snapshots, snapshot.snapshotId ≠ snapshotId) :
    createSnapshot sha256 (part o s) user deviceId request snapshotId now =
      (part o (createSnapshot sha256 s user deviceId request snapshotId now).1,
        (createSnapshot sha256 s user deviceId request snapshotId now).2) := by
  have hadvances := (advances_createSnapshot h.sound user deviceId request snapshotId now).1
  unfold createSnapshot at hadvances ⊢
  refine transact_part (bind_part ?_ fun device hdevice => ?_) fun committed hcommitted => ?_
  · rw [huser, part, owned_part h.deviceIds]
  · have hfreshPart : ∀ snapshot ∈ (part o s).snapshots, snapshot.snapshotId ≠ snapshotId :=
      fun snapshot hsnapshot => hfresh snapshot (List.mem_filter.mp hsnapshot).1
    rw [Table.insert?_fresh hfreshPart, Table.insert?_fresh hfresh]
    have hmodify := own_modify o Device.deviceId Device.organizationId s.devices deviceId
      (fun device => { device with lastSeenAt := some now }) fun _ => rfl
    simp [found, part, newSnapshot, huser, hmodify, pure, Except.pure, bind, Except.bind, Except.map]
  · rw [hcommitted] at hadvances
    exact getSnapshot_part hadvances huser snapshotId

theorem lockSnapshot_part (h : Tenancy sha256 s) (huser : user.organizationId = o)
    (snapshotId : UUID) : lockSnapshot (part o s) user snapshotId = lockSnapshot s user snapshotId := by
  rw [lockSnapshot, lockSnapshot, huser, part, owned_part h.sound.snapshot_ids]

theorem ownedArtifact_part (h : Tenancy sha256 s) (huser : user.organizationId = o)
    (artifactId : UUID) :
    ownedArtifact (part o s) user artifactId = ownedArtifact s user artifactId := by
  rw [ownedArtifact, ownedArtifact, huser, part, owned_part h.sound.artifact_ids]

theorem updateSnapshot_part (h : Tenancy sha256 s) (huser : user.organizationId = o)
    {snapshotId : UUID} {request : SnapshotUpdate} :
    updateSnapshot (part o s) user snapshotId request =
      (part o (updateSnapshot s user snapshotId request).1,
        (updateSnapshot s user snapshotId request).2) := by
  have hadvances := (advances_updateSnapshot h.sound user snapshotId request).1
  unfold updateSnapshot at hadvances ⊢
  refine transact_part (bind_part (lockSnapshot_part h huser snapshotId) fun snapshot hlock =>
    bind_part rfl fun _ _ => ?_) fun committed hcommitted => ?_
  · simp only [pure, Except.pure, Except.map]
    rw [part_modify_snapshot]
    exact fun snapshot => rfl
  · rw [hcommitted] at hadvances
    exact getSnapshot_part hadvances huser snapshotId

theorem reassign_part {snapshotId artifactId : UUID} {pointer : Option UUID} {snapshot : Snapshot}
    (h : Sound sha256 (reassign sha256 s snapshotId artifactId pointer))
    (hsnapshot : snapshot ∈ s.snapshots) (hid : snapshot.snapshotId = snapshotId)
    (howner : snapshot.organizationId = o) :
    reassign sha256 (part o s) snapshotId artifactId pointer =
      part o (reassign sha256 s snapshotId artifactId pointer) := by
  set s' := reassign sha256 s snapshotId artifactId pointer with hs'
  have hartifacts : (part o s').artifacts =
      (reassign sha256 (part o s) snapshotId artifactId pointer).artifacts := by
    refine Table.modify_filter fun artifact => ?_
    rfl
  -- the refreshed row is in the table after the move
  have hmembers : (part o s').members snapshotId = s'.members snapshotId := by
    have hmoved : refreshMembership sha256 snapshot (s'.members snapshotId) ∈ s'.snapshots :=
      Table.mem_modify.mpr ⟨snapshot, hsnapshot, by rw [if_pos hid]; rfl⟩
    have hpart := members_part h hmoved howner
    rwa [refreshMembership, hid] at hpart
  have hrefreshed : s'.members snapshotId =
      (reassign sha256 (part o s) snapshotId artifactId pointer).members snapshotId := by
    rw [← hmembers, Store.members, Store.members, hartifacts]
  have hfilter := own_modify o Snapshot.snapshotId Snapshot.organizationId s.snapshots snapshotId
    (fun snapshot => refreshMembership sha256 snapshot (s'.members snapshotId)) fun _ => rfl
  have hsnapshots : (part o s').snapshots =
      (reassign sha256 (part o s) snapshotId artifactId pointer).snapshots := by
    refine hfilter.trans ?_
    rw [hrefreshed]
    rfl
  have hdevices : (part o s').devices =
      (reassign sha256 (part o s) snapshotId artifactId pointer).devices := rfl
  have haudits : (part o s').audits =
      (reassign sha256 (part o s) snapshotId artifactId pointer).audits := rfl
  have hjobs : (part o s').jobs =
      (reassign sha256 (part o s) snapshotId artifactId pointer).jobs := rfl
  rw [Store.mk.injEq]
  exact ⟨hdevices.symm, hsnapshots.symm, hartifacts.symm, haudits.symm, hjobs.symm⟩

theorem addArtifact_part (h : Tenancy sha256 s) (huser : user.organizationId = o)
    {snapshotId artifactId : UUID} :
    addArtifact sha256 (part o s) user snapshotId artifactId =
      (part o (addArtifact sha256 s user snapshotId artifactId).1,
        (addArtifact sha256 s user snapshotId artifactId).2) := by
  have hadvances := (advances_addArtifact h.sound user snapshotId artifactId).1
  unfold addArtifact at hadvances ⊢
  refine transact_part (bind_part (lockSnapshot_part h huser snapshotId) fun snapshot hlock =>
    bind_part rfl fun _ hdraft => bind_part (by rw [ownedArtifact_part h huser])
      fun artifact hartifact => bind_part rfl fun _ heligible => bind_part rfl fun _ hfree => ?_)
    fun committed hcommitted => ?_
  · obtain ⟨hmem, hid, howner⟩ := owned_eq_some (found_eq_ok.mp hlock)
    simp only [hlock, hdraft, hartifact, heligible, hfree, bind, Except.bind, pure, Except.pure,
      transact] at hadvances
    simp only [pure, Except.pure, Except.map]
    rw [reassign_part hadvances hmem hid (howner.trans huser)]
  · rw [hcommitted] at hadvances
    exact getSnapshot_part hadvances huser snapshotId

theorem removeArtifact_part (h : Tenancy sha256 s) (huser : user.organizationId = o)
    {snapshotId artifactId : UUID} :
    removeArtifact sha256 (part o s) user snapshotId artifactId =
      (part o (removeArtifact sha256 s user snapshotId artifactId).1,
        (removeArtifact sha256 s user snapshotId artifactId).2) := by
  have hadvances := (advances_removeArtifact h.sound user snapshotId artifactId).1
  unfold removeArtifact at hadvances ⊢
  refine transact_part (bind_part (lockSnapshot_part h huser snapshotId) fun snapshot hlock =>
    bind_part rfl fun _ hdraft => bind_part (by rw [ownedArtifact_part h huser])
      fun artifact hartifact => ?_) fun committed hcommitted => ?_
  · obtain ⟨hmem, hid, howner⟩ := owned_eq_some (found_eq_ok.mp hlock)
    simp only [hlock, hdraft, hartifact, bind, Except.bind, pure, Except.pure, transact] at hadvances
    simp only [pure, Except.pure, Except.map]
    rw [reassign_part hadvances hmem hid (howner.trans huser)]
  · rw [hcommitted] at hadvances
    exact getSnapshot_part hadvances huser snapshotId

theorem ownMembers_part (huser : user.organizationId = o) (snapshotId : UUID) :
    ownMembers (part o s) user snapshotId = ownMembers s user snapshotId := by
  have hsame : ((part o s).members snapshotId).filter (fun artifact =>
      artifact.organizationId == user.organizationId) =
      (s.members snapshotId).filter fun artifact =>
        artifact.organizationId == user.organizationId := by
    rw [Store.members, Store.members, part, List.filter_filter, List.filter_filter,
      List.filter_filter]
    refine List.filter_congr fun artifact _ => ?_
    by_cases hown : artifact.organizationId = o <;> simp [hown, huser]
  rw [ownMembers, hsame, ownMembers]

theorem finalizeSnapshot_part (h : Tenancy sha256 s) (huser : user.organizationId = o)
    {snapshotId : UUID} :
    finalizeSnapshot sha256 (part o s) user snapshotId =
      (part o (finalizeSnapshot sha256 s user snapshotId).1,
        (finalizeSnapshot sha256 s user snapshotId).2) := by
  have hadvances := (advances_finalizeSnapshot h.sound user snapshotId).1
  unfold finalizeSnapshot at hadvances ⊢
  rw [ownMembers_part huser]
  refine transact_part (bind_part (lockSnapshot_part h huser snapshotId) fun snapshot hlock =>
    bind_part rfl fun _ _ => bind_part rfl fun _ _ => bind_part rfl fun _ _ => ?_)
    fun committed hcommitted => ?_
  · simp only [pure, Except.pure, Except.map]
    rw [part_modify_snapshot]
    exact fun snapshot => rfl
  · rw [hcommitted] at hadvances
    exact getSnapshot_part hadvances huser snapshotId

theorem validateSnapshotEvidence_part (h : Tenancy sha256 s) {snapshot : Snapshot}
    (hsnapshot : snapshot ∈ s.snapshots) (howner : snapshot.organizationId = o) :
    validateSnapshotEvidence sha256 (part o s) snapshot =
      validateSnapshotEvidence sha256 s snapshot := by
  unfold validateSnapshotEvidence
  rw [members_part h.sound hsnapshot howner]

/-- What `start_audit` enqueues, and the row it becomes. -/
def auditInput (audit : Audit) (jobId : UUID) (now : Int) : Jobs.EnqueueInput where
  jobId := jobId
  jobType := .audit
  createdAt := now
  auditId := some audit.auditId
  deviceId := some audit.deviceId

def auditJob (audit : Audit) (jobId : UUID) (now : Int) : Jobs.Job where
  jobId := jobId
  jobType := .audit
  stage := none
  auditId := some audit.auditId
  deviceId := some audit.deviceId
  payload := []
  createdAt := now

theorem enqueueJob_fresh {jobs : Jobs.JobTable} {audit : Audit} {jobId : UUID} {now : Int}
    (hfresh : ∀ job ∈ jobs, job.jobId ≠ jobId) :
    Jobs.enqueueJob jobs (auditInput audit jobId now) =
      .ok (jobs ++ [auditJob audit jobId now]) := by
  have hinsert : Table.insert? Jobs.Job.jobId jobs (auditJob audit jobId now) =
      some (jobs ++ [auditJob audit jobId now]) := Table.insert?_fresh hfresh
  unfold auditJob at hinsert
  simp [Jobs.enqueueJob, auditInput, hinsert, auditJob]

theorem enqueueJob_ok {jobs jobs' : Jobs.JobTable} {audit : Audit} {jobId : UUID} {now : Int}
    {error : Jobs.JobError → WorkflowError}
    (h : (Jobs.enqueueJob jobs (auditInput audit jobId now)).mapError error = .ok jobs') :
    jobs' = jobs ++ [auditJob audit jobId now] := by
  by_cases hfree : ∀ job ∈ jobs, job.jobId ≠ jobId
  · rw [enqueueJob_fresh hfree] at h
    exact (Except.ok.inj h).symm
  · have htaken : Table.insert? Jobs.Job.jobId jobs (auditJob audit jobId now) = none := by
      obtain ⟨job, hjob, hid⟩ : ∃ job ∈ jobs, job.jobId = jobId := by simpa using hfree
      rw [Table.insert?, if_pos]
      exact List.any_eq_true.mpr ⟨job, hjob, decide_eq_true hid⟩
    unfold auditJob at htaken
    simp [Jobs.enqueueJob, auditInput, htaken, Except.mapError] at h

/-- Whose job it is does not change with the status of the audits. -/
theorem jobs_part {audits audits' : List Audit} (hids : audits'.map Audit.auditId =
    audits.map Audit.auditId) (job : Jobs.Job) :
    (audits'.any fun audit => job.auditId == some audit.auditId) =
      audits.any fun audit => job.auditId == some audit.auditId := by
  have hany : ∀ rows : List Audit, (rows.any fun audit => job.auditId == some audit.auditId) =
      (rows.map Audit.auditId).any fun id => job.auditId == some id := by
    intro rows
    rw [List.any_map]
    rfl
  rw [hany, hany, hids]

/-- The tables after an audit is started. -/
def started (s : Store) (audit : Audit) (jobId : UUID) (now : Int) : Store :=
  { s with
    jobs := s.jobs ++ [auditJob audit jobId now]
    audits := Table.modify Audit.auditId s.audits audit.auditId submitted
    snapshots := Table.modify Snapshot.snapshotId s.snapshots audit.snapshotId
      fun snapshot => { snapshot with status := .locked } }

theorem started_part {audit : Audit} (hmem : audit ∈ s.audits) (howner : audit.organizationId = o)
    (jobId : UUID) (now : Int) :
    part o (started s audit jobId now) = started (part o s) audit jobId now := by
  have haudits := own_modify o Audit.auditId Audit.organizationId s.audits audit.auditId submitted
    fun _ => rfl
  have hsnapshots := own_modify o Snapshot.snapshotId Snapshot.organizationId s.snapshots
    audit.snapshotId (fun snapshot => { snapshot with status := .locked }) fun _ => rfl
  have hkeys : (Table.modify Audit.auditId (s.audits.filter (·.organizationId == o))
      audit.auditId submitted).map Audit.auditId =
      (s.audits.filter (·.organizationId == o)).map Audit.auditId := Table.modify_keys fun _ => rfl
  have hown : audit ∈ s.audits.filter (·.organizationId == o) :=
    List.mem_filter.mpr ⟨hmem, by simpa using howner⟩
  have hmine : ((s.audits.filter (·.organizationId == o)).any fun other =>
      (auditJob audit jobId now).auditId == some other.auditId) = true :=
    List.any_eq_true.mpr ⟨audit, hown, by simp [auditJob]⟩
  simp only [part, started, haudits, hsnapshots, jobs_part hkeys, List.filter_append,
    List.filter_cons, hmine, if_true, List.filter_nil]

/-- What `start_audit` reads again. -/
theorem started_reread {audit : Audit} (jobId : UUID) (now : Int)
    (hids : (s.audits.map Audit.auditId).Nodup) (hmem : audit ∈ s.audits)
    (hfresh : ∀ job ∈ s.jobs, job.jobId ≠ jobId) :
    Table.find? Audit.auditId (started s audit jobId now).audits audit.auditId =
        some (submitted audit) ∧
      Table.find? Jobs.Job.jobId (started s audit jobId now).jobs jobId =
        some (auditJob audit jobId now) := by
  have hfound : Table.find? Audit.auditId (started s audit jobId now).audits audit.auditId =
      (Table.find? Audit.auditId s.audits audit.auditId).map submitted :=
    Table.find?_modify fun _ => rfl
  refine ⟨?_, Table.find?_fresh (r := auditJob audit jobId now) hfresh⟩
  rw [hfound, Table.find?_of_mem hids hmem]
  rfl

theorem startAudit_part (h : Tenancy sha256 s) (huser : user.organizationId = o)
    {auditId jobId : UUID} {now : Int} (hfresh : ∀ job ∈ s.jobs, job.jobId ≠ jobId) :
    startAudit sha256 (part o s) user auditId jobId now =
      (part o (startAudit sha256 s user auditId jobId now).1,
        (startAudit sha256 s user auditId jobId now).2) := by
  have hfreshPart : ∀ job ∈ (part o s).jobs, job.jobId ≠ jobId :=
    fun job hjob => hfresh job (List.mem_filter.mp hjob).1
  have hwhole (audit : Audit) : Jobs.enqueueJob s.jobs (auditInput audit jobId now) = _ :=
    enqueueJob_fresh hfresh
  have hpart (audit : Audit) : Jobs.enqueueJob (part o s).jobs (auditInput audit jobId now) = _ :=
    enqueueJob_fresh hfreshPart
  unfold auditInput at hwhole hpart
  unfold startAudit
  refine transact_part (bind_part (by rw [huser, part, owned_part h.auditIds]) fun audit haudit =>
    bind_part rfl fun _ _ => bind_part ?_ fun snapshot hsnapshot => bind_part rfl fun _ _ =>
      bind_part ?_ fun _ _ => ?_) fun committed hcommitted => ?_
  · obtain ⟨-, -, howner⟩ := owned_eq_some (found_eq_ok.mp haudit)
    rw [part, Table.find?_filter h.sound.snapshot_ids]
    cases Table.find? Snapshot.snapshotId s.snapshots audit.snapshotId with
    | none => rfl
    | some snapshot => by_cases hown : snapshot.organizationId = o <;> simp [howner, huser]
  · obtain ⟨-, -, howner⟩ := owned_eq_some (found_eq_ok.mp haudit)
    obtain ⟨hfind, hown⟩ := Option.filter_eq_some_iff.mp (found_eq_ok.mp hsnapshot)
    obtain ⟨hmem, -⟩ := Table.find?_eq_some hfind
    simp only [Bool.and_eq_true, beq_iff_eq] at hown
    exact validateSnapshotEvidence_part h hmem (hown.1.trans (howner.trans huser))
  · obtain ⟨hmem, rfl, howner⟩ := owned_eq_some (found_eq_ok.mp haudit)
    rw [hwhole, hpart]
    exact congrArg Except.ok (started_part hmem (howner.trans huser) jobId now).symm
  · simp only [except_bind_eq_ok, found_eq_ok, require_eq_ok, pure, Except.pure, Except.ok.injEq]
      at hcommitted
    obtain ⟨audit, haudit, _, -, snapshot, -, _, -, _, -, jobs, hjobs, hdone⟩ := hcommitted
    obtain ⟨hmem, rfl, howner⟩ := owned_eq_some haudit
    rw [hwhole] at hjobs
    obtain rfl := Except.ok.inj hjobs
    obtain rfl : started s audit jobId now = committed := hdone
    have hown : audit ∈ (part o s).audits :=
      List.mem_filter.mpr ⟨hmem, by simpa using howner.trans huser⟩
    have hids : ((part o s).audits.map Audit.auditId).Nodup :=
      h.auditIds.sublist (List.filter_sublist.map _)
    obtain ⟨haudit', hjob⟩ := started_reread jobId now h.auditIds hmem hfresh
    obtain ⟨hauditPart, hjobPart⟩ := started_reread jobId now hids hown hfreshPart
    rw [started_part hmem (howner.trans huser), haudit', hjob, hauditPart, hjobPart]

/-- The audits of a snapshot of the organization are its own. -/
theorem revision_part (h : Tenancy sha256 s) {snapshot : Snapshot}
    (hsnapshot : snapshot ∈ s.snapshots) (howner : snapshot.organizationId = o) (p : Audit → Bool) :
    ((part o s).audits.any fun audit => audit.snapshotId == snapshot.snapshotId && p audit) =
      s.audits.any fun audit => audit.snapshotId == snapshot.snapshotId && p audit := by
  rw [Bool.eq_iff_iff, List.any_eq_true, List.any_eq_true]
  constructor
  · rintro ⟨audit, haudit, hp⟩
    exact ⟨audit, (List.mem_filter.mp haudit).1, hp⟩
  · rintro ⟨audit, haudit, hp⟩
    obtain ⟨other, hother, hid, horganization⟩ := h.placed audit haudit
    have hsame : audit.snapshotId = snapshot.snapshotId := by
      simpa using (Bool.and_eq_true_iff.mp hp).1
    have heq := Table.eq_of_key h.sound.snapshot_ids hother hsnapshot (hid.trans hsame)
    refine ⟨audit, List.mem_filter.mpr ⟨haudit, ?_⟩, hp⟩
    rw [← horganization, heq, howner, beq_self_eq_true]

/-- An audit is added that no other conflicts with. -/
theorem insertAudit?_fresh {audits : List Audit} {audit : Audit}
    (hrevision : (audits.any fun other =>
      other.snapshotId == audit.snapshotId && other.revisionNumber == audit.revisionNumber) = false)
    (hfresh : ∀ other ∈ audits, other.auditId ≠ audit.auditId) :
    insertAudit? audits audit = some (audits ++ [audit]) := by
  rw [insertAudit?, hrevision]
  exact Table.insert?_fresh hfresh

theorem createAudit_part {packs : List Assessment.Model.AssessmentPackVersion}
    (h : Tenancy sha256 s) (huser : user.organizationId = o) {request : AuditCreate}
    {auditId : UUID} (hfresh : ∀ audit ∈ s.audits, audit.auditId ≠ auditId) :
    createAudit sha256 packs (part o s) user request auditId =
      (part o (createAudit sha256 packs s user request auditId).1,
        (createAudit sha256 packs s user request auditId).2) := by
  have hfreshPart : ∀ audit ∈ (part o s).audits, audit.auditId ≠ auditId :=
    fun audit haudit => hfresh audit (List.mem_filter.mp haudit).1
  unfold createAudit
  refine transact_part (bind_part (by rw [huser, part, owned_part h.sound.snapshot_ids])
    fun snapshot hsnapshot => bind_part rfl fun _ _ =>
      bind_part (by rw [huser, part, owned_part h.deviceIds]) fun _ _ => bind_part ?_ fun _ _ =>
        bind_part rfl fun _ _ => bind_part ?_ fun _ hrevision => ?_) fun committed hcommitted => ?_
  · obtain ⟨hmem, -, howner⟩ := owned_eq_some (found_eq_ok.mp hsnapshot)
    exact validateSnapshotEvidence_part h hmem (howner.trans huser)
  · obtain ⟨hmem, -, howner⟩ := owned_eq_some (found_eq_ok.mp hsnapshot)
    rw [revision_part h hmem (howner.trans huser)]
  · obtain ⟨hmem, -, howner⟩ := owned_eq_some (found_eq_ok.mp hsnapshot)
    have hnone := require_eq_ok.mp hrevision
    rw [Bool.not_eq_true'] at hnone
    have hnonePart := hnone
    rw [← revision_part h hmem (howner.trans huser)] at hnonePart
    have hjobs : ∀ job ∈ s.jobs, (job.auditId == some auditId) = false := by
      intro job hjob
      obtain ⟨audit, haudit, hid⟩ := h.submitted job hjob
      rw [hid]
      simpa using hfresh audit haudit
    rw [insertAudit?_fresh hnonePart hfreshPart, insertAudit?_fresh hnone hfresh]
    simp only [found, bind, Except.bind, pure, Except.pure, Except.map, part, List.filter_append,
      initialAudit, huser, List.filter_cons, beq_self_eq_true, if_true, List.filter_nil,
      List.any_append, List.any_cons, List.any_nil, Bool.or_false]
    congr 2
    refine List.filter_congr fun job hjob => ?_
    rw [hjobs job hjob, Bool.or_false]
  · simp only [except_bind_eq_ok, found_eq_ok, require_eq_ok, pure, Except.pure,
      Except.ok.injEq] at hcommitted
    obtain ⟨snapshot, -, _, -, _, -, _, -, _, -, _, -, audits, hinsert, rfl⟩ := hcommitted
    obtain ⟨rfl, -, -⟩ := insertAudit?_eq_some hinsert
    have hwhole : Table.find? Audit.auditId
        (s.audits ++ [initialAudit user request snapshot auditId]) auditId = _ :=
      Table.find?_fresh (r := initialAudit user request snapshot auditId) hfresh
    have hpart : Table.find? Audit.auditId
        ((part o s).audits ++ [initialAudit user request snapshot auditId]) auditId = _ :=
      Table.find?_fresh (r := initialAudit user request snapshot auditId) hfreshPart
    simp only [part, List.filter_append, List.filter_cons, initialAudit, huser, beq_self_eq_true,
      if_true, List.filter_nil] at hwhole hpart ⊢
    rw [hwhole, hpart]

theorem createDevice_part (huser : user.organizationId = o) {deviceId : UUID} {now : Int}
    (hfresh : ∀ device ∈ s.devices, device.deviceId ≠ deviceId) :
    createDevice (part o s) user deviceId now =
      (part o (createDevice s user deviceId now).1, (createDevice s user deviceId now).2) := by
  have hfreshPart : ∀ device ∈ (part o s).devices, device.deviceId ≠ deviceId :=
    fun device hdevice => hfresh device (List.mem_filter.mp hdevice).1
  unfold createDevice
  rw [Table.insert?_fresh hfreshPart, Table.insert?_fresh hfresh]
  refine transact_part ?_ fun committed hcommitted => ?_
  · simp [found, part, huser, pure, Except.pure, bind, Except.bind, Except.map]
  · obtain rfl := Except.ok.inj hcommitted
    set device : Device := ⟨deviceId, user.organizationId, some now⟩
    have hmine : (device.organizationId == o) = true := by simpa [device] using huser
    have hwhole : Table.find? Device.deviceId (s.devices ++ [device]) deviceId = some device :=
      Table.find?_fresh (r := device) hfresh
    have hpart : Table.find? Device.deviceId ((part o s).devices ++ [device]) deviceId =
        some device := Table.find?_fresh (r := device) hfreshPart
    simp only [part, List.filter_append, List.filter_cons, hmine, if_true, List.filter_nil]
      at hpart ⊢
    rw [hwhole, hpart]

theorem upload_part {artifact : Artifact} (howner : artifact.organizationId = o)
    (hfresh : ∀ other ∈ s.artifacts, other.artifactId ≠ artifact.artifactId) :
    upload (part o s) artifact = (part o (upload s artifact).1, (upload s artifact).2) := by
  have hfreshPart : ∀ other ∈ (part o s).artifacts, other.artifactId ≠ artifact.artifactId :=
    fun other hother => hfresh other (List.mem_filter.mp hother).1
  unfold upload
  rw [Table.insert?_fresh (r := uploaded artifact) hfreshPart,
    Table.insert?_fresh (r := uploaded artifact) hfresh]
  refine transact_part ?_ fun committed hcommitted => ?_
  · simp [found, part, uploaded, howner, pure, Except.pure, bind, Except.bind, Except.map]
  · obtain rfl := Except.ok.inj hcommitted
    have hwhole := Table.find?_fresh (r := uploaded artifact) hfresh
    have hpart := Table.find?_fresh (r := uploaded artifact) hfreshPart
    simp only [part, uploaded, List.filter_append, List.filter_cons, howner, beq_self_eq_true, if_true,
      List.filter_nil] at hwhole hpart ⊢
    rw [hwhole, hpart]

/-- A request of the organization does to its part, and answers, what it does with the whole. -/
theorem step_part {packs : List Assessment.Model.AssessmentPackVersion} (h : Tenancy sha256 s)
    {request : Request} (hown : request.organizationId = o) (hfresh : fresh s request = true) :
    step sha256 packs (part o s) request =
      (part o (step sha256 packs s request).1, (step sha256 packs s request).2) := by
  cases request with
  | createDevice user deviceId now =>
    simp only [fresh, List.all_eq_true, bne_iff_ne] at hfresh
    simp only [step, createDevice_part hown hfresh]
  | getDevice user deviceId =>
    have huser : user.organizationId = o := hown
    simp only [step, getDevice]
    rw [huser, part, owned_part h.deviceIds, ← part]
  | upload artifact =>
    simp only [fresh, List.all_eq_true, bne_iff_ne] at hfresh
    simp only [step, upload_part hown hfresh]
  | operation operation =>
    cases operation with
    | createSnapshot user deviceId request snapshotId now =>
      have huser : user.organizationId = o := hown
      simp only [fresh, List.all_eq_true, bne_iff_ne] at hfresh
      simp only [step, perform, createSnapshot_part h huser hfresh]
    | updateSnapshot user snapshotId request =>
      have huser : user.organizationId = o := hown
      simp only [step, perform, updateSnapshot_part h huser]
    | addArtifact user snapshotId artifactId =>
      have huser : user.organizationId = o := hown
      simp only [step, perform, addArtifact_part h huser]
    | removeArtifact user snapshotId artifactId =>
      have huser : user.organizationId = o := hown
      simp only [step, perform, removeArtifact_part h huser]
    | finalizeSnapshot user snapshotId =>
      have huser : user.organizationId = o := hown
      simp only [step, perform, finalizeSnapshot_part h huser]
    | startAudit user auditId jobId now =>
      have huser : user.organizationId = o := hown
      simp only [fresh, List.all_eq_true, bne_iff_ne] at hfresh
      simp only [step, perform, startAudit_part h huser hfresh]
  | getSnapshot user snapshotId => simp only [step, getSnapshot_part h.sound hown]
  | createAudit user request auditId =>
    simp only [fresh, List.all_eq_true, bne_iff_ne] at hfresh
    simp only [step, createAudit_part h hown hfresh]
  | getAudit user auditId =>
    have huser : user.organizationId = o := hown
    simp only [step, getAudit]
    rw [huser, part, owned_part h.auditIds, ← part]

end Part

end ConfigAuditor.Audits.Tenants
