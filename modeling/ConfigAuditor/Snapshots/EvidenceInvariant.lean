import ConfigAuditor.Audits.Service
import ConfigAuditor.Library.Runs

/-!
# A sealed snapshot is immutable evidence

The operations on snapshots, and the start of an audit, keep the count and the hash of every
snapshot equal to those of its members. From the moment a snapshot is ready, neither its
members nor its count and hash change, and the evidence check accepts it.
-/
namespace ConfigAuditor.Snapshots.EvidenceInvariant

open Library Audits Service Audits.Service Runs
open Training (User)

inductive Operation where
  | createSnapshot (user : User) (deviceId : UUID) (request : SnapshotCreate) (snapshotId : UUID)
      (now : Int)
  | updateSnapshot (user : User) (snapshotId : UUID) (request : SnapshotUpdate)
  | addArtifact (user : User) (snapshotId artifactId : UUID)
  | removeArtifact (user : User) (snapshotId artifactId : UUID)
  | finalizeSnapshot (user : User) (snapshotId : UUID)
  | startAudit (user : User) (auditId jobId : UUID) (now : Int)

/-- What an operation returns. -/
inductive Response where
  | snapshot (snapshot : Snapshot) (artifacts : List Artifact)
  | submission (audit : Audit) (job : Jobs.Job)

/-- An operation, or something the snapshot workflow does not do itself: an upload, which
belongs to no snapshot, and any change of the devices, the audits and the jobs. -/
inductive Event where
  | operation (operation : Operation)
  | upload (artifact : Artifact)
  | elsewhere (devices : List Device) (audits : List Audit) (jobs : Jobs.JobTable)

section Machine

variable (sha256 : String → String)

def perform (s : Store) : Operation → Store × Except WorkflowError Response
  | .createSnapshot user deviceId request snapshotId now =>
    let done := createSnapshot sha256 s user deviceId request snapshotId now
    (done.1, done.2.map fun r => .snapshot r.1 r.2)
  | .updateSnapshot user snapshotId request =>
    let done := updateSnapshot s user snapshotId request
    (done.1, done.2.map fun r => .snapshot r.1 r.2)
  | .addArtifact user snapshotId artifactId =>
    let done := addArtifact sha256 s user snapshotId artifactId
    (done.1, done.2.map fun r => .snapshot r.1 r.2)
  | .removeArtifact user snapshotId artifactId =>
    let done := removeArtifact sha256 s user snapshotId artifactId
    (done.1, done.2.map fun r => .snapshot r.1 r.2)
  | .finalizeSnapshot user snapshotId =>
    let done := finalizeSnapshot sha256 s user snapshotId
    (done.1, done.2.map fun r => .snapshot r.1 r.2)
  | .startAudit user auditId jobId now =>
    let done := startAudit sha256 s user auditId jobId now
    (done.1, done.2.map fun r => .submission r.1 r.2)

def step (s : Store) : Event → Store
  | .operation operation => (perform sha256 s operation).1
  | .upload artifact =>
    match Table.insert? Artifact.artifactId s.artifacts { artifact with snapshotId := none } with
    | some artifacts => { s with artifacts }
    | none => s
  | .elsewhere devices audits jobs => { s with devices, audits, jobs }

end Machine

/-- The membership is final. -/
def Sealed (snapshot : Snapshot) : Prop := snapshot.status = .ready ∨ snapshot.status = .locked

/-- The count and the hash are those of the rows. -/
structure Describes (sha256 : String → String) (snapshot : Snapshot) (rows : List Artifact) :
    Prop where
  count : snapshot.artifactCount = rows.length
  hash : snapshot.snapshotHash = calculateSnapshotHash sha256 (rows.map Artifact.digest)

/-- What holds between a snapshot and its members. -/
structure Faithful (sha256 : String → String) (snapshot : Snapshot) (rows : List Artifact) :
    Prop where
  described : Describes sha256 snapshot rows
  organization : ∀ artifact ∈ rows, artifact.organizationId = snapshot.organizationId
  evidence : Sealed snapshot →
    rows ≠ [] ∧ ∀ artifact ∈ rows, artifact.status ∈ eligibleArtifactStatuses

structure Sound (sha256 : String → String) (s : Store) : Prop where
  snapshot_ids : (s.snapshots.map Snapshot.snapshotId).Nodup
  artifact_ids : (s.artifacts.map Artifact.artifactId).Nodup
  assigned : ∀ artifact ∈ s.artifacts, ∀ id, artifact.snapshotId = some id →
    ∃ snapshot ∈ s.snapshots, snapshot.snapshotId = id
  faithful : ∀ snapshot ∈ s.snapshots,
    Faithful sha256 snapshot (s.members snapshot.snapshotId)

/-- A snapshot in a later state, still sealed over the same evidence. -/
structure SameEvidence (s s' : Store) (snapshot now : Snapshot) : Prop where
  id : now.snapshotId = snapshot.snapshotId
  sealed : Sealed now
  count : now.artifactCount = snapshot.artifactCount
  hash : now.snapshotHash = snapshot.snapshotHash
  members : s'.members snapshot.snapshotId = s.members snapshot.snapshotId

def KeepsEvidence (s s' : Store) : Prop :=
  ∀ snapshot ∈ s.snapshots, Sealed snapshot →
    ∃ now ∈ s'.snapshots, SameEvidence s s' snapshot now

theorem KeepsEvidence.refl (s : Store) : KeepsEvidence s s :=
  fun snapshot hsnapshot hsealed => ⟨snapshot, hsnapshot, rfl, hsealed, rfl, rfl, rfl⟩

theorem KeepsEvidence.trans {a b c : Store} (hab : KeepsEvidence a b) (hbc : KeepsEvidence b c) :
    KeepsEvidence a c := by
  intro snapshot hsnapshot hsealed
  obtain ⟨middle, hmiddle, hfirst⟩ := hab snapshot hsnapshot hsealed
  obtain ⟨last, hlast, hsecond⟩ := hbc middle hmiddle hfirst.sealed
  have hmembers := hsecond.members
  rw [hfirst.id] at hmembers
  exact ⟨last, hlast, hsecond.id.trans hfirst.id, hsecond.sealed,
    hsecond.count.trans hfirst.count, hsecond.hash.trans hfirst.hash,
    hmembers.trans hfirst.members⟩

variable {sha256 : String → String} {s s' : Store}

/-- What one event does to a sound store. -/
def Advances (sha256 : String → String) (s s' : Store) : Prop :=
  Sound sha256 s' ∧ KeepsEvidence s s'

theorem advances_refl (hs : Sound sha256 s) : Advances sha256 s s := ⟨hs, .refl s⟩

/-- One snapshot row is rewritten and the members of the others stay. -/
theorem advances_modify (hs : Sound sha256 s) {id : UUID} {f : Snapshot → Snapshot}
    (hsnapshots : s'.snapshots = Table.modify Snapshot.snapshotId s.snapshots id f)
    (hkey : ∀ snapshot, (f snapshot).snapshotId = snapshot.snapshotId)
    (hids : (s'.artifacts.map Artifact.artifactId).Nodup)
    (hassigned : ∀ artifact ∈ s'.artifacts, ∀ p, artifact.snapshotId = some p →
      ∃ snapshot ∈ s.snapshots, snapshot.snapshotId = p)
    (hothers : ∀ other, other ≠ id → s'.members other = s.members other)
    (hfaithful : ∀ snapshot ∈ s.snapshots, snapshot.snapshotId = id →
      Faithful sha256 (f snapshot) (s'.members id))
    (hsealed : ∀ snapshot ∈ s.snapshots, snapshot.snapshotId = id → Sealed snapshot →
      SameEvidence s s' snapshot (f snapshot)) : Advances sha256 s s' := by
  refine ⟨⟨?_, hids, ?_, ?_⟩, ?_⟩
  · rw [hsnapshots, Table.modify_keys hkey]
    exact hs.snapshot_ids
  · intro artifact hartifact p hp
    obtain ⟨snapshot, hsnapshot, hid⟩ := hassigned artifact hartifact p hp
    refine ⟨if snapshot.snapshotId = id then f snapshot else snapshot, ?_, ?_⟩
    · rw [hsnapshots]
      exact Table.mem_modify.mpr ⟨snapshot, hsnapshot, rfl⟩
    · split
      · exact (hkey snapshot).trans hid
      · exact hid
  · intro snapshot hsnapshot
    rw [hsnapshots] at hsnapshot
    obtain ⟨old, hold, rfl⟩ := Table.mem_modify.mp hsnapshot
    by_cases hid : old.snapshotId = id
    · rw [if_pos hid, hkey, hid]
      exact hfaithful old hold hid
    · rw [if_neg hid, hothers _ hid]
      exact hs.faithful old hold
  · intro snapshot hsnapshot hsnapshotSealed
    refine ⟨if snapshot.snapshotId = id then f snapshot else snapshot, ?_, ?_⟩
    · rw [hsnapshots]
      exact Table.mem_modify.mpr ⟨snapshot, hsnapshot, rfl⟩
    · by_cases hid : snapshot.snapshotId = id
      · rw [if_pos hid]
        exact hsealed snapshot hsnapshot hid hsnapshotSealed
      · rw [if_neg hid]
        exact ⟨rfl, hsnapshotSealed, rfl, rfl, hothers _ hid⟩

/-- One snapshot row is rewritten and no artifact moves. -/
theorem advances_rewrite (hs : Sound sha256 s) {id : UUID} {f : Snapshot → Snapshot}
    (hsnapshots : s'.snapshots = Table.modify Snapshot.snapshotId s.snapshots id f)
    (hkey : ∀ snapshot, (f snapshot).snapshotId = snapshot.snapshotId)
    (hartifacts : s'.artifacts = s.artifacts)
    (hfaithful : ∀ snapshot ∈ s.snapshots, snapshot.snapshotId = id →
      Faithful sha256 (f snapshot) (s.members id))
    (hsealed : ∀ snapshot ∈ s.snapshots, snapshot.snapshotId = id → Sealed snapshot →
      Sealed (f snapshot) ∧ (f snapshot).artifactCount = snapshot.artifactCount ∧
        (f snapshot).snapshotHash = snapshot.snapshotHash) : Advances sha256 s s' := by
  have hmembers : ∀ other, s'.members other = s.members other := by
    intro other
    rw [Store.members, Store.members, hartifacts]
  refine advances_modify hs hsnapshots hkey ?_ ?_ (fun other _ => hmembers other) ?_ ?_
  · rw [hartifacts]
    exact hs.artifact_ids
  · rw [hartifacts]
    exact hs.assigned
  · rw [hmembers]
    exact hfaithful
  · intro snapshot hsnapshot hid hsnapshotSealed
    obtain ⟨hnow, hcount, hhash⟩ := hsealed snapshot hsnapshot hid hsnapshotSealed
    exact ⟨hkey snapshot, hnow, hcount, hhash, hmembers _⟩

/-- A locked draft is the only row with its id. -/
theorem lockSnapshot_draft {user : User} {snapshotId : UUID} {snapshot : Snapshot}
    (hs : Sound sha256 s) (hlock : lockSnapshot s user snapshotId = .ok snapshot)
    (hdraft : requireDraft snapshot = .ok ()) :
    snapshot.organizationId = user.organizationId ∧ snapshot.snapshotId = snapshotId ∧
      ∀ other ∈ s.snapshots, other.snapshotId = snapshotId →
        other = snapshot ∧ ¬Sealed other := by
  obtain ⟨hmem, hid, horganization⟩ := owned_eq_some (found_eq_ok.mp hlock)
  have hstatus : snapshot.status = .draft := by simpa [requireDraft] using hdraft
  refine ⟨horganization, hid, fun other hother hotherId => ?_⟩
  have hsame := Table.eq_of_key hs.snapshot_ids hother hmem (hotherId.trans hid.symm)
  refine ⟨hsame, ?_⟩
  rw [hsame, Sealed, hstatus]
  simp

/-- The members of a snapshot that the moved artifact neither leaves nor joins. -/
theorem members_reassign_other {snapshotId artifactId other : UUID} {pointer : Option UUID}
    (hpointer : pointer ≠ some other)
    (hold : ∀ artifact ∈ s.artifacts, artifact.artifactId = artifactId →
      artifact.snapshotId ≠ some other) :
    (reassign sha256 s snapshotId artifactId pointer).members other = s.members other := by
  unfold Store.members reassign Table.modify
  rw [List.filter_map]
  have hkeep : s.artifacts.filter
      ((fun artifact => decide (artifact.snapshotId = some other)) ∘ fun artifact =>
        if artifact.artifactId = artifactId then { artifact with snapshotId := pointer }
        else artifact) =
      s.artifacts.filter fun artifact => decide (artifact.snapshotId = some other) := by
    refine List.filter_congr fun artifact hartifact => ?_
    by_cases hid : artifact.artifactId = artifactId
    · simp [hid, hpointer, hold artifact hartifact hid]
    · simp [hid]
  rw [hkeep]
  conv_rhs => rw [← List.map_id (List.filter _ s.artifacts)]
  refine List.map_congr_left fun artifact hartifact => ?_
  obtain ⟨hmem, hassigned⟩ := List.mem_filter.mp hartifact
  rw [if_neg, id]
  intro hid
  exact hold artifact hmem hid (by simpa using hassigned)

/-- A back pointer changes between unassigned and a draft of the artifact's organization. -/
theorem advances_reassign (hs : Sound sha256 s) {user : User} {snapshotId : UUID}
    {snapshot : Snapshot} (hlock : lockSnapshot s user snapshotId = .ok snapshot)
    (hdraft : requireDraft snapshot = .ok ()) {artifact : Artifact} {artifactId : UUID}
    (hartifact : ownedArtifact s user artifactId = some artifact)
    (hfrom : ∀ other, other ≠ snapshotId → artifact.snapshotId ≠ some other)
    {pointer : Option UUID} (hto : ∀ other, other ≠ snapshotId → pointer ≠ some other) :
    Advances sha256 s (reassign sha256 s snapshotId artifactId pointer) := by
  obtain ⟨horganization, hsnapshotId, honly⟩ := lockSnapshot_draft hs hlock hdraft
  obtain ⟨hlocked, -, -⟩ := owned_eq_some (found_eq_ok.mp hlock)
  obtain ⟨hmem, hid, howner⟩ := owned_eq_some hartifact
  have hmoved : ∀ other ∈ s.artifacts, other.artifactId = artifactId → other = artifact :=
    fun other hother hotherId =>
      Table.eq_of_key hs.artifact_ids hother hmem (hotherId.trans hid.symm)
  refine advances_modify hs rfl (fun _ => rfl) ?_ ?_ ?_ ?_ ?_
  · have hkeys := @Table.modify_keys _ _ _ Artifact.artifactId s.artifacts artifactId
      (fun artifact : Artifact => { artifact with snapshotId := pointer }) fun _ => rfl
    have hnodup := hs.artifact_ids
    rw [← hkeys] at hnodup
    exact hnodup
  · intro other hother p hp
    obtain ⟨old, hold, rfl⟩ := Table.mem_modify.mp hother
    by_cases holdId : old.artifactId = artifactId
    · rw [if_pos holdId] at hp
      have hto' : p = snapshotId := by_contra fun hne => hto p hne hp
      exact ⟨snapshot, hlocked, hsnapshotId.trans hto'.symm⟩
    · rw [if_neg holdId] at hp
      exact hs.assigned old hold p hp
  · intro other hother
    refine members_reassign_other (hto other hother) fun moved hmovedMem hmovedId => ?_
    rw [hmoved moved hmovedMem hmovedId]
    exact hfrom other hother
  · intro other hother hotherId
    obtain ⟨rfl, hopen⟩ := honly other hother hotherId
    refine ⟨⟨rfl, rfl⟩, ?_, fun hsealed => absurd hsealed hopen⟩
    intro row hrow
    obtain ⟨hrowMem, hrowAssigned⟩ := Store.mem_members.mp hrow
    obtain ⟨old, hold, rfl⟩ := Table.mem_modify.mp hrowMem
    by_cases holdId : old.artifactId = artifactId
    · rw [if_pos holdId, hmoved old hold holdId]
      exact howner.trans horganization.symm
    · rw [if_neg holdId] at hrowAssigned ⊢
      refine (hs.faithful other hother).organization old (Store.mem_members.mpr ⟨hold, ?_⟩)
      rw [hrowAssigned, hotherId]
  · intro other hother hotherId hsealed
    exact absurd hsealed (honly other hother hotherId).2

/-- Whatever a transaction returns, its store is the old one or the committed one. -/
theorem advances_transact {α : Type} (hs : Sound sha256 s) {body : Except WorkflowError Store}
    {reread : Store → Except WorkflowError α}
    (hbody : ∀ committed, body = .ok committed → Advances sha256 s committed) :
    Advances sha256 s (transact s body reread).1 := by
  rcases transact_cases s body reread with ⟨-, hsame⟩ | ⟨committed, hcommitted, hdone⟩
  · rw [hsame]
    exact advances_refl hs
  · rw [hdone]
    exact hbody committed hcommitted

theorem advances_createSnapshot (hs : Sound sha256 s) (user : User) (deviceId : UUID)
    (request : SnapshotCreate) (snapshotId : UUID) (now : Int) :
    Advances sha256 s (createSnapshot sha256 s user deviceId request snapshotId now).1 := by
  apply advances_transact hs
  intro committed h
  simp only [except_bind_eq_ok, found_eq_ok, pure, Except.pure, Except.ok.injEq] at h
  obtain ⟨device, -, snapshots, hinsert, rfl⟩ := h
  obtain ⟨rfl, hfresh⟩ := Table.insert?_eq_some hinsert
  have hempty : s.members snapshotId = [] := by
    refine List.filter_eq_nil_iff.mpr fun artifact hartifact hassigned => ?_
    obtain ⟨snapshot, hsnapshot, hid⟩ := hs.assigned artifact hartifact snapshotId
      (by simpa using hassigned)
    exact hfresh snapshot hsnapshot hid
  refine ⟨⟨Table.insert?_nodup hs.snapshot_ids hinsert, hs.artifact_ids, ?_, ?_⟩, ?_⟩
  · intro artifact hartifact p hp
    obtain ⟨snapshot, hsnapshot, hid⟩ := hs.assigned artifact hartifact p hp
    exact ⟨snapshot, List.mem_append_left _ hsnapshot, hid⟩
  · intro snapshot hsnapshot
    rcases List.mem_append.mp hsnapshot with hold | hnew
    · exact hs.faithful snapshot hold
    · rw [List.mem_singleton.mp hnew]
      show Faithful sha256 _ (s.members snapshotId)
      rw [hempty]
      refine ⟨⟨rfl, (calculateSnapshotHash_nil sha256).symm⟩, by simp, fun hsealed => ?_⟩
      simp [Sealed, newSnapshot] at hsealed
  · intro snapshot hsnapshot hsealed
    exact ⟨snapshot, List.mem_append_left _ hsnapshot, rfl, hsealed, rfl, rfl, rfl⟩

theorem advances_updateSnapshot (hs : Sound sha256 s) (user : User) (snapshotId : UUID)
    (request : SnapshotUpdate) :
    Advances sha256 s (updateSnapshot s user snapshotId request).1 := by
  apply advances_transact hs
  intro committed h
  simp only [except_bind_eq_ok, pure, Except.pure, Except.ok.injEq] at h
  obtain ⟨snapshot, hlock, _, hdraft, rfl⟩ := h
  refine advances_rewrite hs rfl (fun _ => rfl) rfl ?_ ?_
  · intro other hother hid
    have hfaithful := hs.faithful other hother
    rw [hid] at hfaithful
    exact ⟨⟨hfaithful.described.count, hfaithful.described.hash⟩, hfaithful.organization,
      hfaithful.evidence⟩
  · intro other _ _ hsealed
    exact ⟨hsealed, rfl, rfl⟩

theorem advances_addArtifact (hs : Sound sha256 s) (user : User) (snapshotId artifactId : UUID) :
    Advances sha256 s (addArtifact sha256 s user snapshotId artifactId).1 := by
  apply advances_transact hs
  intro committed h
  simp only [except_bind_eq_ok, found_eq_ok, require_eq_ok, pure, Except.pure,
    Except.ok.injEq] at h
  obtain ⟨snapshot, hlock, _, hdraft, artifact, hartifact, _, -, _, hfree, rfl⟩ := h
  refine advances_reassign hs hlock hdraft hartifact ?_ ?_
  · intro other hother hassigned
    rw [hassigned] at hfree
    exact hother (by simpa using hfree)
  · intro other hother hsome
    exact hother (Option.some.inj hsome).symm

theorem advances_removeArtifact (hs : Sound sha256 s) (user : User)
    (snapshotId artifactId : UUID) :
    Advances sha256 s (removeArtifact sha256 s user snapshotId artifactId).1 := by
  apply advances_transact hs
  intro committed h
  simp only [except_bind_eq_ok, found_eq_ok, pure, Except.pure, Except.ok.injEq] at h
  obtain ⟨snapshot, hlock, _, hdraft, artifact, hartifact, rfl⟩ := h
  obtain ⟨hartifact, hassigned⟩ := Option.filter_eq_some_iff.mp hartifact
  refine advances_reassign hs hlock hdraft hartifact ?_ (fun _ _ => by simp)
  intro other hother hsome
  have hhere : artifact.snapshotId = some snapshotId := by simpa using hassigned
  exact hother (Option.some.inj (hsome.symm.trans hhere))

/-- The members of a snapshot are all in the organization that may finalize it. -/
theorem ownMembers_perm {user : User} {snapshotId : UUID}
    (h : ∀ artifact ∈ s.members snapshotId, artifact.organizationId = user.organizationId) :
    (ownMembers s user snapshotId).Perm (s.members snapshotId) := by
  have hall : (s.members snapshotId).filter (fun artifact =>
      artifact.organizationId == user.organizationId) = s.members snapshotId :=
    List.filter_eq_self.mpr fun artifact hartifact => by simpa using h artifact hartifact
  have hsorted := sortedBy_perm (fun artifact : Artifact => artifact.artifactId.int)
    (s.members snapshotId)
  rw [ownMembers, hall]
  exact hsorted

theorem advances_finalizeSnapshot (hs : Sound sha256 s) (user : User) (snapshotId : UUID) :
    Advances sha256 s (finalizeSnapshot sha256 s user snapshotId).1 := by
  apply advances_transact hs
  intro committed h
  simp only [except_bind_eq_ok, require_eq_ok, pure, Except.pure, Except.ok.injEq] at h
  obtain ⟨snapshot, hlock, _, hdraft, _, hsome, _, heligible, rfl⟩ := h
  obtain ⟨horganization, hid, honly⟩ := lockSnapshot_draft hs hlock hdraft
  refine advances_rewrite hs rfl (fun _ => rfl) rfl ?_ ?_
  · intro other hother hotherId
    obtain ⟨rfl, -⟩ := honly other hother hotherId
    have hfaithful := hs.faithful other hother
    rw [hid] at hfaithful
    have hperm := @ownMembers_perm _ user snapshotId
      fun artifact hartifact => (hfaithful.organization artifact hartifact).trans horganization
    refine ⟨⟨hperm.length_eq, ?_⟩, hfaithful.organization, fun _ => ⟨?_, ?_⟩⟩
    · exact calculateSnapshotHash_perm sha256 (hperm.map Artifact.digest)
    · intro hempty
      rw [hempty] at hperm
      simp [hperm.eq_nil] at hsome
    · intro artifact hartifact
      have hall := List.all_eq_true.mp heligible artifact (hperm.mem_iff.mpr hartifact)
      simpa using hall
  · intro other hother hotherId hsealed
    exact absurd hsealed (honly other hother hotherId).2

theorem advances_startAudit (hs : Sound sha256 s) (user : User) (auditId jobId : UUID)
    (now : Int) : Advances sha256 s (startAudit sha256 s user auditId jobId now).1 := by
  apply advances_transact hs
  intro committed h
  simp only [except_bind_eq_ok, found_eq_ok, require_eq_ok, pure, Except.pure,
    Except.ok.injEq] at h
  obtain ⟨audit, -, _, -, snapshot, hsnapshot, _, hready, _, -, jobs, -, rfl⟩ := h
  obtain ⟨hfound, -⟩ := Option.filter_eq_some_iff.mp hsnapshot
  obtain ⟨hmem, hid⟩ := Table.find?_eq_some hfound
  have hsealed : Sealed snapshot := .inl (by simpa using hready)
  refine advances_rewrite hs rfl (fun _ => rfl) rfl ?_ ?_
  · intro other hother hotherId
    have hsame := Table.eq_of_key hs.snapshot_ids hother hmem (hotherId.trans hid.symm)
    have hfaithful := hs.faithful other hother
    rw [hotherId] at hfaithful
    exact ⟨⟨hfaithful.described.count, hfaithful.described.hash⟩, hfaithful.organization,
      fun _ => hfaithful.evidence (hsame ▸ hsealed)⟩
  · intro other _ _ _
    exact ⟨.inr rfl, rfl, rfl⟩

theorem advances_perform (hs : Sound sha256 s) (operation : Operation) :
    Advances sha256 s (perform sha256 s operation).1 := by
  cases operation with
  | createSnapshot user deviceId request snapshotId now =>
    exact advances_createSnapshot hs user deviceId request snapshotId now
  | updateSnapshot user snapshotId request =>
    exact advances_updateSnapshot hs user snapshotId request
  | addArtifact user snapshotId artifactId =>
    exact advances_addArtifact hs user snapshotId artifactId
  | removeArtifact user snapshotId artifactId =>
    exact advances_removeArtifact hs user snapshotId artifactId
  | finalizeSnapshot user snapshotId => exact advances_finalizeSnapshot hs user snapshotId
  | startAudit user auditId jobId now => exact advances_startAudit hs user auditId jobId now

theorem advances_upload (hs : Sound sha256 s) (artifact : Artifact) :
    Advances sha256 s (step sha256 s (.upload artifact)) := by
  simp only [step]
  split
  next artifacts hinsert =>
    obtain ⟨rfl, -⟩ := Table.insert?_eq_some hinsert
    have hmembers : ∀ id, Store.members { s with
        artifacts := s.artifacts ++ [{ artifact with snapshotId := none }] } id = s.members id := by
      intro id
      simp [Store.members, List.filter_append]
    refine ⟨⟨hs.snapshot_ids, Table.insert?_nodup hs.artifact_ids hinsert, ?_, ?_⟩, ?_⟩
    · intro row hrow p hp
      rcases List.mem_append.mp hrow with hold | hnew
      · exact hs.assigned row hold p hp
      · rw [List.mem_singleton.mp hnew] at hp
        cases hp
    · intro snapshot hsnapshot
      rw [hmembers]
      exact hs.faithful snapshot hsnapshot
    · intro snapshot hsnapshot hsealed
      exact ⟨snapshot, hsnapshot, rfl, hsealed, rfl, rfl, hmembers _⟩
  next => exact advances_refl hs

/-- One event, whatever it is. -/
theorem advances_step (hs : Sound sha256 s) (event : Event) :
    Advances sha256 s (step sha256 s event) := by
  cases event with
  | operation operation => exact advances_perform hs operation
  | upload artifact => exact advances_upload hs artifact
  | elsewhere devices audits jobs =>
    exact ⟨⟨hs.snapshot_ids, hs.artifact_ids, hs.assigned, hs.faithful⟩,
      fun snapshot hsnapshot hsealed => ⟨snapshot, hsnapshot, rfl, hsealed, rfl, rfl, rfl⟩⟩

theorem sound_empty : Sound sha256 {} := by
  refine ⟨List.nodup_nil, List.nodup_nil, ?_, ?_⟩
  · intro artifact hartifact
    cases hartifact
  · intro snapshot hsnapshot
    cases hsnapshot

theorem sound_run (hs : Sound sha256 s) (events : List Event) :
    Sound sha256 (run (step sha256) s events) := by
  have hstep : ∀ s event, Sound sha256 s → Sound sha256 (step sha256 s event) :=
    fun _ event h => (advances_step h event).1
  exact run_invariant hstep hs events

theorem keepsEvidence_run (hs : Sound sha256 s) (events : List Event) :
    KeepsEvidence s (run (step sha256) s events) := by
  have hstep : ∀ s event, Sound sha256 s →
      Sound sha256 (step sha256 s event) ∧ KeepsEvidence s (step sha256 s event) :=
    fun _ event h => advances_step h event
  exact run_relates KeepsEvidence.refl (fun _ _ _ => KeepsEvidence.trans) hstep hs events

/-- The evidence check of later stages accepts a sealed snapshot. -/
theorem validate_sealed (hs : Sound sha256 s) {snapshot : Snapshot}
    (hsnapshot : snapshot ∈ s.snapshots) (hsealed : Sealed snapshot) :
    validateSnapshotEvidence sha256 s snapshot =
      .ok (sortedBy (·.artifactId.int) (s.members snapshot.snapshotId)) := by
  obtain ⟨⟨hcount, hhash⟩, horganization, hevidence⟩ := hs.faithful snapshot hsnapshot
  obtain ⟨hsome, heligible⟩ := hevidence hsealed
  have hperm := sortedBy_perm (fun artifact : Artifact => artifact.artifactId.int)
    (s.members snapshot.snapshotId)
  have hnonempty : (sortedBy (fun artifact : Artifact => artifact.artifactId.int)
      (s.members snapshot.snapshotId)).isEmpty = false := by
    rw [List.isEmpty_eq_false_iff]
    intro hempty
    rw [hempty] at hperm
    exact hsome hperm.symm.eq_nil
  have hall : (sortedBy (fun artifact : Artifact => artifact.artifactId.int)
      (s.members snapshot.snapshotId)).all (fun artifact =>
        artifact.organizationId == snapshot.organizationId &&
          eligibleArtifactStatuses.contains artifact.status) = true := by
    refine List.all_eq_true.mpr fun artifact hartifact => ?_
    have hmem := hperm.mem_iff.mp hartifact
    simp [horganization artifact hmem, heligible artifact hmem]
  have hsame : snapshot.snapshotHash = calculateSnapshotHash sha256
      ((sortedBy (fun artifact : Artifact => artifact.artifactId.int)
        (s.members snapshot.snapshotId)).map Artifact.digest) :=
    hhash.trans (calculateSnapshotHash_perm sha256 (hperm.symm.map Artifact.digest))
  simp only [validateSnapshotEvidence, hnonempty, hall, hcount, hperm.length_eq, ← hsame]
  simp [require, bind, Except.bind, pure, Except.pure]

/-- A row that was there before a commit is there when it is read again. -/
theorem getSnapshot_modify {user : User} {snapshotId : UUID} {snapshot : Snapshot}
    {f : Snapshot → Snapshot} (hlock : lockSnapshot s user snapshotId = .ok snapshot)
    (hsnapshots : s'.snapshots = Table.modify Snapshot.snapshotId s.snapshots snapshotId f)
    (hkey : ∀ snapshot, (f snapshot).snapshotId = snapshot.snapshotId)
    (horganization : ∀ snapshot, (f snapshot).organizationId = snapshot.organizationId) :
    ∃ result, getSnapshot user snapshotId s' = .ok result := by
  obtain ⟨hfind, howner⟩ := Option.filter_eq_some_iff.mp (found_eq_ok.mp hlock)
  have hnow : owned Snapshot.snapshotId Snapshot.organizationId s'.snapshots snapshotId
      user.organizationId = some (f snapshot) := by
    rw [owned, hsnapshots, Table.find?_modify hkey, hfind, Option.map_some,
      Option.filter_eq_some_iff]
    exact ⟨rfl, by rw [horganization]; exact howner⟩
  exact ⟨(f snapshot, sortedBy (·.artifactId.int) (s'.members snapshotId)), by
    simp [getSnapshot, hnow, found, bind, Except.bind, pure, Except.pure]⟩

/-- A transaction that fails has changed nothing, when what it reads after its commit is
there. -/
theorem transact_failed {α : Type} {body : Except WorkflowError Store}
    {reread : Store → Except WorkflowError α} {error : WorkflowError}
    (hreread : ∀ committed, body = .ok committed → ∃ result, reread committed = .ok result)
    (h : (transact s body reread).2 = .error error) : (transact s body reread).1 = s := by
  rcases transact_cases s body reread with ⟨-, hsame⟩ | ⟨committed, hcommitted, hdone⟩
  · exact hsame
  · obtain ⟨result, hresult⟩ := hreread committed hcommitted
    rw [hdone, hresult] at h
    cases h

theorem map_eq_error {α β : Type} {x : Except WorkflowError α} {f : α → β}
    {error : WorkflowError} (h : x.map f = .error error) : x = .error error := by
  cases x with
  | error e => exact congrArg Except.error (Except.error.inj h)
  | ok a => cases h

/-- A queued job is found again. -/
theorem enqueued_found {rows jobs : Jobs.JobTable} {input : Jobs.EnqueueInput}
    {error : Jobs.JobError → WorkflowError}
    (h : (Jobs.enqueueJob rows input).mapError error = .ok jobs) :
    ∃ job, Table.find? Jobs.Job.jobId jobs input.jobId = some job := by
  have hqueued : Jobs.enqueueJob rows input = .ok jobs := except_mapError_eq_ok.mp h
  simp only [Jobs.enqueueJob] at hqueued
  split at hqueued
  · cases hqueued
  · split at hqueued
    next queued hinsert =>
      obtain ⟨rfl, hfresh⟩ := Table.insert?_eq_some hinsert
      cases hqueued
      exact ⟨_, Table.find?_fresh hfresh⟩
    next => cases hqueued

theorem perform_failed {operation : Operation} {error : WorkflowError}
    (h : (perform sha256 s operation).2 = .error error) : (perform sha256 s operation).1 = s := by
  cases operation with
  | createSnapshot user deviceId request snapshotId now =>
    refine transact_failed (fun committed hbody => ?_) (map_eq_error h)
    simp only [except_bind_eq_ok, found_eq_ok, pure, Except.pure, Except.ok.injEq] at hbody
    obtain ⟨device, -, snapshots, hinsert, rfl⟩ := hbody
    obtain ⟨rfl, hfresh⟩ := Table.insert?_eq_some hinsert
    have hfound := Table.find?_fresh hfresh
    have hnow : owned Snapshot.snapshotId Snapshot.organizationId
        (s.snapshots ++ [newSnapshot sha256 user device request snapshotId now]) snapshotId
        user.organizationId = some (newSnapshot sha256 user device request snapshotId now) := by
      rw [owned, Option.filter_eq_some_iff]
      exact ⟨hfound, by simp [newSnapshot]⟩
    exact ⟨(newSnapshot sha256 user device request snapshotId now,
      sortedBy (·.artifactId.int) (s.members snapshotId)), by
      simp [getSnapshot, hnow, found, bind, Except.bind, pure, Except.pure, Store.members]⟩
  | updateSnapshot user snapshotId request =>
    refine transact_failed (fun committed hbody => ?_) (map_eq_error h)
    simp only [except_bind_eq_ok, pure, Except.pure, Except.ok.injEq] at hbody
    obtain ⟨snapshot, hlock, _, -, rfl⟩ := hbody
    exact getSnapshot_modify hlock rfl (fun _ => rfl) fun _ => rfl
  | addArtifact user snapshotId artifactId =>
    refine transact_failed (fun committed hbody => ?_) (map_eq_error h)
    simp only [except_bind_eq_ok, pure, Except.pure, Except.ok.injEq] at hbody
    obtain ⟨snapshot, hlock, _, -, _, -, _, -, _, -, rfl⟩ := hbody
    exact getSnapshot_modify hlock rfl (fun _ => rfl) fun _ => rfl
  | removeArtifact user snapshotId artifactId =>
    refine transact_failed (fun committed hbody => ?_) (map_eq_error h)
    simp only [except_bind_eq_ok, pure, Except.pure, Except.ok.injEq] at hbody
    obtain ⟨snapshot, hlock, _, -, _, -, rfl⟩ := hbody
    exact getSnapshot_modify hlock rfl (fun _ => rfl) fun _ => rfl
  | finalizeSnapshot user snapshotId =>
    refine transact_failed (fun committed hbody => ?_) (map_eq_error h)
    simp only [except_bind_eq_ok, pure, Except.pure, Except.ok.injEq] at hbody
    obtain ⟨snapshot, hlock, _, -, _, -, _, -, rfl⟩ := hbody
    exact getSnapshot_modify hlock rfl (fun _ => rfl) fun _ => rfl
  | startAudit user auditId jobId now =>
    refine transact_failed (fun committed hbody => ?_) (map_eq_error h)
    simp only [except_bind_eq_ok, pure, Except.pure, Except.ok.injEq] at hbody
    obtain ⟨audit, haudit, _, -, snapshot, -, _, -, _, -, jobs, hjobs, rfl⟩ := hbody
    obtain ⟨hfound, -⟩ := Option.filter_eq_some_iff.mp (found_eq_ok.mp haudit)
    have hnow : Table.find? Audit.auditId (Table.modify Audit.auditId s.audits auditId submitted)
        auditId = some (submitted audit) := by
      have hkey : ∀ old : Audit, (submitted old).auditId = old.auditId := fun _ => rfl
      rw [Table.find?_modify hkey, hfound, Option.map_some]
    obtain ⟨job, hjob⟩ := enqueued_found hjobs
    exact ⟨(submitted audit, job), by
      simp [hnow, hjob, found, bind, Except.bind, pure, Except.pure]⟩

/-- Over every sequence of operations and uploads from an empty database: an artifact is in at
most one snapshot, the count and the hash are those of the members, a sealed snapshot keeps
its members, count and hash in all that follows and passes the evidence check, and a failed
operation changes nothing. -/
theorem snapshot_store_invariant (sha256 : String → String) (before after : List Event) :
    let mid := run (step sha256) {} before
    let last := run (step sha256) mid after
    (∀ first ∈ mid.snapshots, ∀ second ∈ mid.snapshots,
      ∀ a ∈ mid.members first.snapshotId, ∀ b ∈ mid.members second.snapshotId,
        a.artifactId = b.artifactId → first = second) ∧
    (∀ snapshot ∈ mid.snapshots,
      Describes sha256 snapshot (mid.members snapshot.snapshotId)) ∧
    (∀ snapshot ∈ mid.snapshots, Sealed snapshot →
      validateSnapshotEvidence sha256 mid snapshot =
          .ok (sortedBy (·.artifactId.int) (mid.members snapshot.snapshotId)) ∧
        ∃ now ∈ last.snapshots, SameEvidence mid last snapshot now ∧
          ∀ other ∈ last.snapshots, other.snapshotId = snapshot.snapshotId → other = now) ∧
    ∀ operation error, (perform sha256 mid operation).2 = .error error →
      (perform sha256 mid operation).1 = mid := by
  have hmid : Sound sha256 (run (step sha256) {} before) := sound_run sound_empty before
  have hlast := sound_run hmid after
  refine ⟨?_, ?_, ?_, fun _ _ => perform_failed⟩
  · intro first hfirst second hsecond a ha b hb hid
    obtain ⟨haMem, haAssigned⟩ := Store.mem_members.mp ha
    obtain ⟨hbMem, hbAssigned⟩ := Store.mem_members.mp hb
    rw [Table.eq_of_key hmid.artifact_ids haMem hbMem hid] at haAssigned
    exact Table.eq_of_key hmid.snapshot_ids hfirst hsecond
      (Option.some.inj (haAssigned.symm.trans hbAssigned))
  · intro snapshot hsnapshot
    exact (hmid.faithful snapshot hsnapshot).described
  · intro snapshot hsnapshot hsealed
    obtain ⟨now, hnow, hsame⟩ := keepsEvidence_run hmid after snapshot hsnapshot hsealed
    refine ⟨validate_sealed hmid hsnapshot hsealed, now, hnow, hsame, ?_⟩
    intro other hother hid
    exact Table.eq_of_key hlast.snapshot_ids hother hnow (hid.trans hsame.id.symm)

/-- A device, a snapshot of it and an upload that makes it ready. -/
def readyUpload : List Event :=
  let user : User := ⟨.ofNat 1, .ofNat 2, .analyst⟩
  [.elsewhere [⟨.ofNat 3, .ofNat 2, none⟩] [] [],
    .operation (.createSnapshot user (.ofNat 3) {} (.ofNat 4) 0),
    .upload ⟨.ofNat 5, .ofNat 2, none, "ab", .ready⟩,
    .operation (.addArtifact user (.ofNat 4) (.ofNat 5)),
    .operation (.finalizeSnapshot user (.ofNat 4))]

example : ((run (step id) {} readyUpload).snapshots.map fun snapshot =>
    (snapshot.status, snapshot.artifactCount, snapshot.snapshotHash)) = [(.ready, 1, "ab")] := by
  decide +kernel

end ConfigAuditor.Snapshots.EvidenceInvariant
