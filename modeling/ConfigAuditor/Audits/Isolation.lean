import ConfigAuditor.Audits.Tenants

/-!
# No organization notices another

What a request of another organization writes is not in one's part of the tables, and what the
tables promise about keys and owners stays. So an organization lives as in tables of its own.
-/
namespace ConfigAuditor.Audits.Isolation

open Library Snapshots Snapshots.Service Service Creation
open EvidenceInvariant (Operation Sound perform advances_perform advances_upload sound_empty)
open Tenants (Request Tenancy part fresh started auditJob enqueueJob_ok userOf step step_part
  createDevice upload uploaded createAudit)
open Training (User)

/-- The writes of a request of an organization: rows of its own. -/
inductive Writes (sha256 : String → String) (o : UUID) (s : Store) : Store → Prop
  | nothing : Writes sha256 o s s
  | device {device : Device} (howner : device.organizationId = o)
    (hfresh : ∀ other ∈ s.devices, other.deviceId ≠ device.deviceId) :
    Writes sha256 o s { s with devices := s.devices ++ [device] }
  | artifact {artifact : Artifact} (howner : artifact.organizationId = o) :
    Writes sha256 o s { s with artifacts := s.artifacts ++ [artifact] }
  | opened {device : Device} (hdevice : device ∈ s.devices) (hseen : device.organizationId = o)
    (now : Int) {snapshot : Snapshot} (howner : snapshot.organizationId = o) :
    Writes sha256 o s { s with
      snapshots := s.snapshots ++ [snapshot]
      devices := Table.modify Device.deviceId s.devices device.deviceId
        fun device => { device with lastSeenAt := some now } }
  | rewritten {snapshot : Snapshot} (hsnapshot : snapshot ∈ s.snapshots)
    (howner : snapshot.organizationId = o) {f : Snapshot → Snapshot}
    (hid : ∀ row, (f row).snapshotId = row.snapshotId)
    (horganization : ∀ row, (f row).organizationId = row.organizationId) :
    Writes sha256 o s { s with
      snapshots := Table.modify Snapshot.snapshotId s.snapshots snapshot.snapshotId f }
  | moved {snapshot : Snapshot} (hsnapshot : snapshot ∈ s.snapshots)
    (howner : snapshot.organizationId = o) {artifact : Artifact} (hartifact : artifact ∈ s.artifacts)
    (hmine : artifact.organizationId = o) (pointer : Option UUID) :
    Writes sha256 o s (reassign sha256 s snapshot.snapshotId artifact.artifactId pointer)
  | created {audit : Audit} (howner : audit.organizationId = o) {snapshot : Snapshot}
    (hsnapshot : snapshot ∈ s.snapshots) (hplaced : snapshot.snapshotId = audit.snapshotId)
    (hmine : snapshot.organizationId = o)
    (hfresh : ∀ other ∈ s.audits, other.auditId ≠ audit.auditId) :
    Writes sha256 o s { s with audits := s.audits ++ [audit] }
  | started {audit : Audit} (haudit : audit ∈ s.audits) (howner : audit.organizationId = o)
    {snapshot : Snapshot} (hsnapshot : snapshot ∈ s.snapshots)
    (hplaced : snapshot.snapshotId = audit.snapshotId) (hmine : snapshot.organizationId = o)
    (jobId : UUID) (now : Int) : Writes sha256 o s (started s audit jobId now)

section Writes

variable {sha256 : String → String} {s : Store}

theorem writes_transact {α : Type} {o : UUID} {body : Except WorkflowError Store}
    {reread : Store → Except WorkflowError α}
    (hbody : ∀ committed, body = .ok committed → Writes sha256 o s committed) :
    Writes sha256 o s (transact s body reread).1 := by
  rcases transact_cases s body reread with ⟨-, hsame⟩ | ⟨committed, hcommitted, hdone⟩
  · rw [hsame]
    exact .nothing
  · rw [hdone]
    exact hbody committed hcommitted

theorem writes_perform (operation : Operation) :
    Writes sha256 (userOf operation).organizationId s (perform sha256 s operation).1 := by
  cases operation with
  | createSnapshot user deviceId request snapshotId now =>
    show Writes sha256 user.organizationId s
      (createSnapshot sha256 s user deviceId request snapshotId now).1
    apply writes_transact
    intro committed h
    simp only [except_bind_eq_ok, found_eq_ok, pure, Except.pure, Except.ok.injEq] at h
    obtain ⟨device, hdevice, snapshots, hinsert, rfl⟩ := h
    obtain ⟨rfl, -⟩ := Table.insert?_eq_some hinsert
    obtain ⟨hmem, rfl, howner⟩ := owned_eq_some hdevice
    exact .opened hmem howner now rfl
  | updateSnapshot user snapshotId request =>
    show Writes sha256 user.organizationId s (updateSnapshot s user snapshotId request).1
    apply writes_transact
    intro committed h
    simp only [except_bind_eq_ok, pure, Except.pure, Except.ok.injEq] at h
    obtain ⟨snapshot, hlock, _, -, rfl⟩ := h
    obtain ⟨hmem, rfl, howner⟩ := owned_eq_some (found_eq_ok.mp hlock)
    exact .rewritten hmem howner (fun _ => rfl) fun _ => rfl
  | addArtifact user snapshotId artifactId =>
    show Writes sha256 user.organizationId s
      (addArtifact sha256 s user snapshotId artifactId).1
    apply writes_transact
    intro committed h
    simp only [except_bind_eq_ok, found_eq_ok, require_eq_ok, pure, Except.pure,
      Except.ok.injEq] at h
    obtain ⟨snapshot, hlock, _, -, artifact, hartifact, _, -, _, -, rfl⟩ := h
    obtain ⟨hmem, rfl, howner⟩ := owned_eq_some (found_eq_ok.mp hlock)
    obtain ⟨hartifactMem, rfl, hmine⟩ := owned_eq_some hartifact
    exact .moved hmem howner hartifactMem hmine _
  | removeArtifact user snapshotId artifactId =>
    show Writes sha256 user.organizationId s
      (removeArtifact sha256 s user snapshotId artifactId).1
    apply writes_transact
    intro committed h
    simp only [except_bind_eq_ok, found_eq_ok, pure, Except.pure, Except.ok.injEq] at h
    obtain ⟨snapshot, hlock, _, -, artifact, hartifact, rfl⟩ := h
    obtain ⟨hmem, rfl, howner⟩ := owned_eq_some (found_eq_ok.mp hlock)
    obtain ⟨hmineArtifact, -⟩ := Option.filter_eq_some_iff.mp hartifact
    obtain ⟨hartifactMem, rfl, hmine⟩ := owned_eq_some hmineArtifact
    exact .moved hmem howner hartifactMem hmine none
  | finalizeSnapshot user snapshotId =>
    show Writes sha256 user.organizationId s (finalizeSnapshot sha256 s user snapshotId).1
    apply writes_transact
    intro committed h
    simp only [except_bind_eq_ok, require_eq_ok, pure, Except.pure, Except.ok.injEq] at h
    obtain ⟨snapshot, hlock, _, -, _, -, _, -, rfl⟩ := h
    obtain ⟨hmem, rfl, howner⟩ := owned_eq_some (found_eq_ok.mp hlock)
    exact .rewritten hmem howner (fun _ => rfl) fun _ => rfl
  | startAudit user auditId jobId now =>
    show Writes sha256 user.organizationId s
      (startAudit sha256 s user auditId jobId now).1
    apply writes_transact
    intro committed h
    simp only [except_bind_eq_ok, found_eq_ok, require_eq_ok, pure, Except.pure,
      Except.ok.injEq] at h
    obtain ⟨audit, haudit, _, -, snapshot, hsnapshot, _, -, _, -, jobs, hjobs, hdone⟩ := h
    obtain ⟨hmem, rfl, howner⟩ := owned_eq_some haudit
    obtain ⟨hfind, hmatches⟩ := Option.filter_eq_some_iff.mp hsnapshot
    obtain ⟨hsnapshotMem, hplaced⟩ := Table.find?_eq_some hfind
    simp only [Bool.and_eq_true, beq_iff_eq] at hmatches
    have hqueued : jobs = s.jobs ++ [auditJob audit jobId now] := enqueueJob_ok hjobs
    obtain rfl : started s audit jobId now = committed := by rw [← hdone, hqueued, started]
    exact .started hmem howner hsnapshotMem hplaced (hmatches.1.trans howner) jobId now

theorem writes_step {packs : List Assessment.Model.AssessmentPackVersion} (request : Request) :
    Writes sha256 request.organizationId s (step sha256 packs s request).1 := by
  cases request with
  | createDevice user deviceId now =>
    show Writes sha256 user.organizationId s (createDevice s user deviceId now).1
    apply writes_transact
    intro committed h
    simp only [except_bind_eq_ok, found_eq_ok, pure, Except.pure, Except.ok.injEq] at h
    obtain ⟨devices, hinsert, rfl⟩ := h
    obtain ⟨rfl, hfresh⟩ := Table.insert?_eq_some hinsert
    exact .device rfl hfresh
  | getDevice user deviceId => exact .nothing
  | upload artifact =>
    show Writes sha256 artifact.organizationId s (upload s artifact).1
    apply writes_transact
    intro committed h
    simp only [except_bind_eq_ok, found_eq_ok, pure, Except.pure, Except.ok.injEq] at h
    obtain ⟨artifacts, hinsert, rfl⟩ := h
    obtain ⟨rfl, -⟩ := Table.insert?_eq_some hinsert
    exact .artifact rfl
  | operation operation => exact writes_perform operation
  | getSnapshot user snapshotId => exact .nothing
  | createAudit user request auditId =>
    show Writes sha256 user.organizationId s
      (createAudit sha256 packs s user request auditId).1
    apply writes_transact
    intro committed h
    simp only [except_bind_eq_ok, found_eq_ok, require_eq_ok, pure, Except.pure,
      Except.ok.injEq] at h
    obtain ⟨snapshot, hsnapshot, _, -, _, -, _, -, _, -, _, -, audits, hinsert, rfl⟩ := h
    obtain ⟨rfl, hfresh, -⟩ := insertAudit?_eq_some hinsert
    obtain ⟨hmem, -, howner⟩ := owned_eq_some hsnapshot
    exact .created rfl hmem rfl howner hfresh
  | getAudit user auditId => exact .nothing

/-- What somebody else writes is not in the part of the organization. -/
theorem part_of_writes_other {o p : UUID} {s' : Store} (h : Tenancy sha256 s)
    (hwrites : Writes sha256 p s s') (hne : p ≠ o) : part o s' = part o s := by
  have hnot : ∀ {id : UUID}, id = p → (id == o) = false := by
    rintro id rfl
    simpa using hne
  have hothers : ∀ {snapshot : Snapshot}, snapshot ∈ s.snapshots → snapshot.organizationId = p →
      ∀ row ∈ s.snapshots, row.snapshotId = snapshot.snapshotId →
        (row.organizationId == o) = false := by
    intro snapshot hsnapshot howner row hrow hid
    exact hnot ((Table.eq_of_key h.sound.snapshot_ids hrow hsnapshot hid) ▸ howner)
  cases hwrites with
  | nothing => rfl
  | device howner => simp [part, hnot howner]
  | artifact howner => simp [part, hnot howner]
  | @opened device hdevice hseen now snapshot howner =>
    have hdevices : ∀ row ∈ s.devices, row.deviceId = device.deviceId →
        (row.organizationId == o) = false := by
      intro row hrow hid
      exact hnot ((Table.eq_of_key h.deviceIds hrow hdevice hid) ▸ hseen)
    have hfilter := Table.modify_filter_other (f := fun device => { device with lastSeenAt := some now })
      hdevices fun _ => rfl
    simp [part, hnot howner, hfilter]
  | rewritten hsnapshot howner hid horganization =>
    have hfilter := Table.modify_filter_other (hothers hsnapshot howner) fun row => by
      rw [horganization row]
    simp only [part, hfilter]
  | @moved snapshot hsnapshot howner artifact hartifact hmine pointer =>
    have hartifacts : ∀ row ∈ s.artifacts, row.artifactId = artifact.artifactId →
        (row.organizationId == o) = false := by
      intro row hrow hid
      exact hnot ((Table.eq_of_key h.sound.artifact_ids hrow hartifact hid) ▸ hmine)
    have hmoved := Table.modify_filter_other
      (f := fun artifact => { artifact with snapshotId := pointer }) hartifacts fun _ => rfl
    have hrefreshed := Table.modify_filter_other
      (f := fun row => refreshMembership sha256 row
        ((reassign sha256 s snapshot.snapshotId artifact.artifactId pointer).members
          snapshot.snapshotId)) (hothers hsnapshot howner) fun _ => rfl
    have hparts : part o (reassign sha256 s snapshot.snapshotId artifact.artifactId pointer) =
        { part o s with
          snapshots := s.snapshots.filter (·.organizationId == o)
          artifacts := s.artifacts.filter (·.organizationId == o) } := by
      rw [← hmoved, ← hrefreshed]
      rfl
    exact hparts
  | created howner => simp [part, hnot howner]
  | @started audit haudit howner snapshot hsnapshot hplaced hmine jobId now =>
    have haudits : ∀ row ∈ s.audits, row.auditId = audit.auditId →
        (row.organizationId == o) = false := by
      intro row hrow hid
      exact hnot ((Table.eq_of_key h.auditIds hrow haudit hid) ▸ howner)
    have hfilter := Table.modify_filter_other (f := submitted) haudits fun _ => rfl
    have hlocked := Table.modify_filter_other
      (f := fun snapshot => { snapshot with status := .locked }) (hothers hsnapshot hmine)
      fun _ => rfl
    have hnobody : ((s.audits.filter (·.organizationId == o)).any fun other =>
        (auditJob audit jobId now).auditId == some other.auditId) = false := by
      refine List.any_eq_false.mpr fun row hrow hjob => ?_
      obtain ⟨hmem, hown⟩ := List.mem_filter.mp hrow
      have hid : audit.auditId = row.auditId := Option.some.inj (beq_iff_eq.mp hjob)
      rw [haudits row hmem hid.symm] at hown
      cases hown
    rw [hplaced] at hlocked
    simp only [part, started, hfilter, hlocked, List.filter_append, List.filter_cons, hnobody]
    simp

/-- Every snapshot stays where it belongs. -/
theorem placed_modify {k : UUID} {f : Snapshot → Snapshot}
    (hid : ∀ row, (f row).snapshotId = row.snapshotId)
    (horganization : ∀ row, (f row).organizationId = row.organizationId) {audit : Audit}
    (h : ∃ snapshot ∈ s.snapshots, snapshot.snapshotId = audit.snapshotId ∧
      snapshot.organizationId = audit.organizationId) :
    ∃ snapshot ∈ Table.modify Snapshot.snapshotId s.snapshots k f,
      snapshot.snapshotId = audit.snapshotId ∧ snapshot.organizationId = audit.organizationId := by
  obtain ⟨snapshot, hsnapshot, hplaced, howner⟩ := h
  refine ⟨_, Table.mem_modify.mpr ⟨snapshot, hsnapshot, rfl⟩, ?_, ?_⟩
  · split
    · rw [hid, hplaced]
    · exact hplaced
  · split
    · rw [horganization, howner]
    · exact howner

theorem tenancy_of_writes {o : UUID} {s' : Store} (h : Tenancy sha256 s) (hsound : Sound sha256 s')
    (hwrites : Writes sha256 o s s') : Tenancy sha256 s' := by
  cases hwrites with
  | nothing => exact h
  | device howner hfresh =>
    exact ⟨hsound, Table.append_nodup h.deviceIds hfresh, h.auditIds, h.placed, h.submitted⟩
  | artifact howner => exact ⟨hsound, h.deviceIds, h.auditIds, h.placed, h.submitted⟩
  | @opened device hdevice hseen now snapshot howner =>
    refine ⟨hsound, ?_, h.auditIds, fun audit haudit => ?_, h.submitted⟩
    · show ((Table.modify Device.deviceId s.devices device.deviceId
        fun device => { device with lastSeenAt := some now }).map Device.deviceId).Nodup
      rw [Table.modify_keys]
      · exact h.deviceIds
      · exact fun _ => rfl
    · obtain ⟨old, hold, hplaced⟩ := h.placed audit haudit
      exact ⟨old, List.mem_append_left _ hold, hplaced⟩
  | rewritten hsnapshot howner hid horganization =>
    exact ⟨hsound, h.deviceIds, h.auditIds,
      fun audit haudit => placed_modify hid horganization (h.placed audit haudit), h.submitted⟩
  | moved hsnapshot howner hartifact hmine pointer =>
    refine ⟨hsound, h.deviceIds, h.auditIds, fun audit haudit => ?_, h.submitted⟩
    exact placed_modify (f := fun row => refreshMembership sha256 row _) (fun _ => rfl)
      (fun _ => rfl) (h.placed audit haudit)
  | @created audit howner snapshot hsnapshot hplaced hmine hfresh =>
    refine ⟨hsound, h.deviceIds, Table.append_nodup h.auditIds hfresh, fun other hother => ?_,
      fun job hjob => ?_⟩
    · rcases List.mem_append.mp hother with hold | hnew
      · exact h.placed other hold
      · obtain rfl := List.mem_singleton.mp hnew
        exact ⟨snapshot, hsnapshot, hplaced, hmine.trans howner.symm⟩
    · obtain ⟨old, hold, hid⟩ := h.submitted job hjob
      exact ⟨old, List.mem_append_left _ hold, hid⟩
  | @started audit haudit howner snapshot hsnapshot hplaced hmine jobId now =>
    refine ⟨hsound, h.deviceIds, ?_, fun other hother => ?_, fun job hjob => ?_⟩
    · show ((Table.modify Audit.auditId s.audits audit.auditId submitted).map Audit.auditId).Nodup
      rw [Table.modify_keys]
      · exact h.auditIds
      · exact fun _ => rfl
    · obtain ⟨old, hold, rfl⟩ := Table.mem_modify.mp hother
      have hkept := placed_modify (f := fun snapshot => { snapshot with status := .locked })
        (k := audit.snapshotId) (fun _ => rfl) (fun _ => rfl) (h.placed old hold)
      split
      · exact hkept
      · exact hkept
    · have hmodified : ∀ old ∈ s.audits, ∃ row ∈ Table.modify Audit.auditId s.audits
          audit.auditId submitted, row.auditId = old.auditId := by
        intro old hold
        refine ⟨_, Table.mem_modify.mpr ⟨old, hold, rfl⟩, ?_⟩
        split <;> rfl
      rcases List.mem_append.mp hjob with hold | hnew
      · obtain ⟨old, holdMem, hid⟩ := h.submitted job hold
        obtain ⟨row, hrow, hrowId⟩ := hmodified old holdMem
        exact ⟨row, hrow, by rw [hid, hrowId]⟩
      · obtain rfl := List.mem_singleton.mp hnew
        obtain ⟨row, hrow, hrowId⟩ := hmodified audit haudit
        exact ⟨row, hrow, by rw [hrowId]; rfl⟩

theorem sound_step {packs : List Assessment.Model.AssessmentPackVersion} (h : Sound sha256 s)
    (request : Request) : Sound sha256 (step sha256 packs s request).1 := by
  have hsame : ∀ devices audits jobs, Sound sha256 { s with
      devices := devices, audits := audits, jobs := jobs } :=
    fun _ _ _ => ⟨h.snapshot_ids, h.artifact_ids, h.assigned, h.faithful⟩
  cases request with
  | createDevice user deviceId now =>
    show Sound sha256 (createDevice s user deviceId now).1
    unfold createDevice
    cases Table.insert? Device.deviceId s.devices _ with
    | none => exact h
    | some devices => exact hsame devices s.audits s.jobs
  | getDevice user deviceId => exact h
  | upload artifact =>
    have hupload := (advances_upload h artifact).1
    show Sound sha256 (upload s artifact).1
    unfold upload uploaded
    simp only [EvidenceInvariant.step] at hupload
    cases hinsert : Table.insert? Artifact.artifactId s.artifacts
        { artifact with snapshotId := none } with
    | none => exact h
    | some artifacts =>
      rw [hinsert] at hupload
      exact hupload
  | operation operation => exact (advances_perform h operation).1
  | getSnapshot user snapshotId => exact h
  | createAudit user request auditId =>
    show Sound sha256 (createAudit sha256 packs s user request auditId).1
    rcases transact_cases s _ _ with ⟨-, hrefused⟩ | ⟨committed, hcommitted, hdone⟩
    · rw [createAudit, hrefused]
      exact h
    · rw [createAudit, hdone]
      simp only [except_bind_eq_ok, found_eq_ok, require_eq_ok, pure, Except.pure,
        Except.ok.injEq] at hcommitted
      obtain ⟨_, -, _, -, _, -, _, -, _, -, _, -, audits, -, rfl⟩ := hcommitted
      exact hsame s.devices audits s.jobs
  | getAudit user auditId => exact h

end Writes

/-- The workflows keep every organization apart from the others. -/
theorem apart (sha256 : String → String) (packs : List Assessment.Model.AssessmentPackVersion)
    (o : UUID) :
    Library.Tenants.Apart (step sha256 packs) (·.organizationId == o) (part o) (Tenancy sha256)
      (fun s request => fresh s request = true) where
  keeps _ request h _ := tenancy_of_writes h (sound_step h.sound request) (writes_step request)
  answers _ _ h hfresh hown := step_part h (beq_iff_eq.mp hown) hfresh
  ignores _ request h _ hother := part_of_writes_other h (writes_step request) (by simpa using hother)

theorem tenancy_empty (sha256 : String → String) : Tenancy sha256 {} :=
  ⟨sound_empty, List.nodup_nil, List.nodup_nil, by simp, by simp⟩

/-- However the requests of the organizations are interleaved, as long as the identifiers drawn
are new: the rows of an organization are those it would have in tables of its own, and every
answer it gets is the one it would get there. -/
theorem tenant_isolation (sha256 : String → String)
    (packs : List Assessment.Model.AssessmentPackVersion) (organizationId : UUID)
    (requests : List Request)
    (hfresh : Runs.Along (Library.Tenants.next (step sha256 packs))
      (fun s request => fresh s request = true) {} requests) :
    let alone := requests.filter (·.organizationId == organizationId)
    part organizationId (Runs.run (Library.Tenants.next (step sha256 packs)) {} requests) =
        Runs.run (Library.Tenants.next (step sha256 packs)) {} alone ∧
      Library.Tenants.replies (step sha256 packs) (·.organizationId == organizationId) {} requests =
        Library.Tenants.replies (step sha256 packs) (fun _ => true) {} alone :=
  (apart sha256 packs organizationId).run (tenancy_empty sha256) hfresh

/-- Two organizations: the first takes a device to a started audit, while the second looks for
what is not its own. -/
def twoTenants : List Request :=
  let first : User := ⟨.ofNat 1, .ofNat 11, .analyst⟩
  let second : User := ⟨.ofNat 2, .ofNat 12, .analyst⟩
  [.createDevice first (.ofNat 21) 1, .createDevice second (.ofNat 22) 2,
    .upload ⟨.ofNat 31, .ofNat 11, none, "ab", .ready⟩,
    .operation (.createSnapshot first (.ofNat 21) {} (.ofNat 41) 3),
    .operation (.createSnapshot second (.ofNat 21) {} (.ofNat 42) 4),
    .operation (.addArtifact first (.ofNat 41) (.ofNat 31)),
    .operation (.removeArtifact second (.ofNat 41) (.ofNat 31)),
    .operation (.finalizeSnapshot first (.ofNat 41)), .getSnapshot second (.ofNat 41),
    .createAudit first { snapshotId := .ofNat 41 } (.ofNat 51),
    .operation (.startAudit first (.ofNat 51) (.ofNat 61) 5), .getAudit second (.ofNat 51),
    .getAudit first (.ofNat 51)]

theorem tenant_isolation_two :
    part (.ofNat 11) (Runs.run (Library.Tenants.next (step id [])) {} twoTenants) =
        Runs.run (Library.Tenants.next (step id [])) {}
          (twoTenants.filter (·.organizationId == .ofNat 11)) ∧
      Library.Tenants.replies (step id []) (·.organizationId == .ofNat 11) {} twoTenants =
        Library.Tenants.replies (step id []) (fun _ => true) {}
          (twoTenants.filter (·.organizationId == .ofNat 11)) :=
  tenant_isolation id [] (.ofNat 11) twoTenants (by decide +kernel)

end ConfigAuditor.Audits.Isolation
