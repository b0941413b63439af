import ConfigAuditor.Audits.Workers

/-!
# What the workers do to one audit

The tables seen from one audit: its row, its findings, the job that processes it and the
handler of that job. An audit has at most one such job and a job at most one handler, so an
event makes at most one move in each view.
-/
namespace ConfigAuditor.Audits.Views

open Library Snapshots Service Creation Coordinator Workers
open Jobs (Job JobTable claimed)
open Jobs.LeaseProtocol (RowStep)
open Training (User)

/-- A job that processes the audit. -/
def IsJobOf (auditId : UUID) (job : Job) : Prop :=
  isAuditJob job = true ∧ job.auditId = some auditId

instance (auditId : UUID) (job : Job) : Decidable (IsJobOf auditId job) :=
  inferInstanceAs (Decidable (_ ∧ _))

/-- The handler fits the job it was called for. -/
def Handles (audits : List Audit) (job : Job) : Handler → Prop
  | .entered => isAuditJob job = true
  | .running auditId organizationId _ => IsJobOf auditId job ∧
    ∃ audit ∈ audits, audit.auditId = auditId ∧ audit.organizationId = organizationId
  | .other => isAuditJob job = false
  | .done _ => True

/-- The keys of the tables, and who refers to whom. -/
structure Linked (w : World) : Prop where
  audits : (w.audits.map Audit.auditId).Nodup
  jobs : Jobs.LeaseProtocol.Inv w.jobs
  runs : (w.runs.map Run.jobId).Nodup
  single : ∀ first ∈ w.jobs, ∀ second ∈ w.jobs, ∀ auditId,
    IsJobOf auditId first → IsJobOf auditId second → first = second
  named : ∀ job ∈ w.jobs, isAuditJob job = true → ∃ audit ∈ w.audits,
    job.auditId = some audit.auditId ∧ job.deviceId = some audit.deviceId ∧ audit.status ≠ .draft
  handled : ∀ run ∈ w.runs, ∃ job ∈ w.jobs, job.jobId = run.jobId ∧ job.status ≠ .queued ∧
    Handles w.audits job run.handler

theorem linked_initial (db : Database) : Linked (World.initial db) := by
  have hjobs : Jobs.LeaseProtocol.Inv [] := Jobs.LeaseProtocol.inv_run []
  exact ⟨List.nodup_nil, hjobs, List.nodup_nil, by simp [World.jobs, World.initial],
    by simp [World.jobs, World.initial], by simp [World.initial]⟩

structure View where
  audit : Option Audit
  findings : List Finding
  job : Option Job
  handler : Option Handler

/-- The job of an audit. -/
def jobOf (jobs : JobTable) (auditId : UUID) : Option Job :=
  jobs.find? fun job => isAuditJob job && job.auditId == some auditId

/-- The handler of a job. -/
def handlerOf (runs : List Run) (jobId : UUID) : Option Handler :=
  (Table.find? Run.jobId runs jobId).map Run.handler

def view (w : World) (auditId : UUID) : View where
  audit := Table.find? Audit.auditId w.audits auditId
  findings := findingsOf w.findings auditId
  job := jobOf w.jobs auditId
  handler := (jobOf w.jobs auditId).bind fun job => handlerOf w.runs job.jobId

theorem jobOf_eq_none {jobs : JobTable} {auditId : UUID} :
    jobOf jobs auditId = none ↔ ∀ job ∈ jobs, ¬ IsJobOf auditId job := by
  simp [jobOf, IsJobOf]

theorem mem_of_jobOf {jobs : JobTable} {auditId : UUID} {job : Job}
    (h : jobOf jobs auditId = some job) : job ∈ jobs ∧ IsJobOf auditId job := by
  refine ⟨List.mem_of_find?_eq_some h, ?_⟩
  simpa [IsJobOf] using List.find?_some h

theorem Linked.jobOf {w : World} (h : Linked w) {auditId : UUID} {job : Job} (hjob : job ∈ w.jobs)
    (hof : IsJobOf auditId job) : jobOf w.jobs auditId = some job := by
  cases hfound : Views.jobOf w.jobs auditId with
  | none => exact absurd hof (jobOf_eq_none.mp hfound job hjob)
  | some found =>
    obtain ⟨hmem, hfor⟩ := mem_of_jobOf hfound
    rw [h.single found hmem job hjob auditId hfor hof]

/-- What no update of a job changes: whom it is for, and that it has been claimed. -/
structure Same (job job' : Job) : Prop where
  jobId : job'.jobId = job.jobId
  jobType : job'.jobType = job.jobType
  auditId : job'.auditId = job.auditId
  deviceId : job'.deviceId = job.deviceId
  claimed : job.status ≠ .queued → job'.status ≠ .queued

theorem Same.isAuditJob {job job' : Job} (h : Same job job') :
    isAuditJob job' = isAuditJob job := by
  rw [Coordinator.isAuditJob, Coordinator.isAuditJob, h.jobType]

theorem Same.isJobOf {job job' : Job} (h : Same job job') {auditId : UUID} :
    IsJobOf auditId job' ↔ IsJobOf auditId job := by
  rw [IsJobOf, IsJobOf, h.isAuditJob, h.auditId]

theorem Same.handles {job job' : Job} (h : Same job job') {audits : List Audit}
    {handler : Handler} (hhandles : Handles audits job handler) : Handles audits job' handler := by
  cases handler with
  | entered => exact h.isAuditJob.trans hhandles
  | running auditId organizationId position => exact ⟨h.isJobOf.mpr hhandles.1, hhandles.2⟩
  | other => exact h.isAuditJob.trans hhandles
  | done returned => trivial

theorem same_of_rowStep {event : Jobs.LeaseProtocol.Event} {job job' : Job}
    (h : RowStep event job job') : Same job job' := by
  cases h with
  | same => exact ⟨rfl, rfl, rfl, rfl, id⟩
  | claim => exact ⟨rfl, rfl, rfl, rfl, fun _ => by simp [claimed]⟩
  | heartbeat => exact ⟨rfl, rfl, rfl, rfl, id⟩
  | complete => exact ⟨rfl, rfl, rfl, rfl, fun _ => by simp [Jobs.clearLease]⟩
  | fail => exact ⟨rfl, rfl, rfl, rfl, fun _ => by simp [Jobs.clearLease]⟩
  | recover => exact ⟨rfl, rfl, rfl, rfl, fun _ => by simp [Jobs.recovered, Jobs.clearLease]⟩

/-- Every row is updated, and there are no others. -/
structure Updated (R : Job → Job → Prop) (jobs jobs' : JobTable) : Prop where
  kept : ∀ job ∈ jobs, ∃ job' ∈ jobs', R job job'
  origin : ∀ job' ∈ jobs', ∃ job ∈ jobs, R job job'

theorem updated_map {R : Job → Job → Prop} {jobs : JobTable} {f : Job → Job}
    (h : ∀ job ∈ jobs, R job (f job)) : Updated R jobs (jobs.map f) := by
  constructor
  · exact fun job hjob => ⟨f job, List.mem_map_of_mem hjob, h job hjob⟩
  · intro job' hjob'
    obtain ⟨job, hjob, rfl⟩ := List.mem_map.mp hjob'
    exact ⟨job, hjob, h job hjob⟩

/-- A transaction on the jobs that enqueues none keeps the keys. -/
theorem step_ids (jobs : JobTable) {event : Jobs.LeaseProtocol.Event}
    (h : ∀ input, event ≠ .enqueue input) :
    (Jobs.LeaseProtocol.step jobs event).map Job.jobId = jobs.map Job.jobId := by
  unfold Jobs.LeaseProtocol.step
  split
  case h_2 => rfl
  case h_1 jobs' htransact =>
    cases event with
    | enqueue input => exact absurd rfl (h input)
    | claim allowed leaseOwner seconds now locked =>
      simp only [Jobs.LeaseProtocol.transact, Jobs.claimNextJob] at htransact
      split at htransact
      · rw [Except.ok.inj htransact]
      split at htransact
      · rw [Except.ok.inj htransact]
      · simp only [except_bind_eq_ok, except_pure_eq_ok] at htransact
        obtain ⟨owner, -, lease, -, rfl⟩ := htransact
        exact Table.modify_keys fun _ => rfl
    | heartbeat jobId leaseOwner seconds now =>
      simp only [Jobs.LeaseProtocol.transact, Jobs.heartbeatJob, except_bind_eq_ok,
        except_pure_eq_ok] at htransact
      obtain ⟨_, -, _, -, _, -, rfl⟩ := htransact
      exact Table.modify_keys fun _ => rfl
    | complete jobId leaseOwner now later =>
      simp only [Jobs.LeaseProtocol.transact, Jobs.completeJob, except_bind_eq_ok,
        except_pure_eq_ok] at htransact
      obtain ⟨_, -, _, -, rfl⟩ := htransact
      exact Table.modify_keys fun _ => rfl
    | fail jobId leaseOwner code message now later =>
      simp only [Jobs.LeaseProtocol.transact, Jobs.failJob] at htransact
      split at htransact
      · cases htransact
      split at htransact
      · cases htransact
      simp only [except_bind_eq_ok, except_pure_eq_ok] at htransact
      obtain ⟨_, -, _, -, rfl⟩ := htransact
      exact Table.modify_keys fun _ => rfl
    | recover limit now locked =>
      simp only [Jobs.LeaseProtocol.transact, Jobs.recoverStaleJobs] at htransact
      split at htransact
      · cases htransact
      rw [← Except.ok.inj htransact]
      refine Table.map_keys fun job _ => ?_
      split <;> rfl

theorem updated_step {jobs : JobTable} (hids : (jobs.map Job.jobId).Nodup)
    {event : Jobs.LeaseProtocol.Event} (h : ∀ input, event ≠ .enqueue input) :
    Updated (RowStep event) jobs (Jobs.LeaseProtocol.step jobs event) := by
  have hrows := Jobs.LeaseProtocol.step_rows hids event
  refine ⟨hrows.kept, fun job' hjob' => (hrows.origin job' hjob').resolve_right fun hfresh => ?_⟩
  have hid : job'.jobId ∈ jobs.map Job.jobId := by
    rw [← step_ids jobs h]
    exact List.mem_map_of_mem hjob'
  obtain ⟨other, hother, heq⟩ := List.mem_map.mp hid
  exact hfresh.1 other hother heq

section Update

variable {w : World} {jobs' : JobTable} {R : Job → Job → Prop}

theorem linked_updated (h : Linked w) (hrows : Updated R w.jobs jobs')
    (hsame : ∀ job job', R job job' → Same job job') (hinv : Jobs.LeaseProtocol.Inv jobs') :
    Linked (w.commit w.audits jobs') := by
  refine ⟨h.audits, hinv, h.runs, ?_, ?_, ?_⟩
  · intro first' hfirst' second' hsecond' auditId hof hof'
    obtain ⟨first, hfirst, hr⟩ := hrows.origin first' hfirst'
    obtain ⟨second, hsecond, hr'⟩ := hrows.origin second' hsecond'
    have heq := h.single first hfirst second hsecond auditId ((hsame _ _ hr).isJobOf.mp hof)
      ((hsame _ _ hr').isJobOf.mp hof')
    apply Table.eq_of_key hinv.nodup hfirst' hsecond'
    rw [(hsame _ _ hr).jobId, (hsame _ _ hr').jobId, heq]
  · intro job' hjob' haudit
    obtain ⟨job, hjob, hr⟩ := hrows.origin job' hjob'
    have hjobSame := hsame _ _ hr
    rw [hjobSame.isAuditJob] at haudit
    rw [hjobSame.auditId, hjobSame.deviceId]
    exact h.named job hjob haudit
  · intro run hrun
    obtain ⟨job, hjob, hid, hstatus, hhandles⟩ := h.handled run hrun
    obtain ⟨job', hjob', hr⟩ := hrows.kept job hjob
    have hjobSame := hsame _ _ hr
    exact ⟨job', hjob', hjobSame.jobId.trans hid, hjobSame.claimed hstatus,
      hjobSame.handles hhandles⟩

/-- Only the job of the audit changes in its view. -/
theorem view_updated (hrows : Updated R w.jobs jobs')
    (hsame : ∀ job job', R job job' → Same job job') (h' : Linked (w.commit w.audits jobs'))
    (auditId : UUID) :
    ((view w auditId).job = none ∧ view (w.commit w.audits jobs') auditId = view w auditId) ∨
      ∃ job job', (view w auditId).job = some job ∧ job ∈ w.jobs ∧ R job job' ∧
        view (w.commit w.audits jobs') auditId = { view w auditId with job := some job' } := by
  cases hjob : jobOf w.jobs auditId with
  | none =>
    refine .inl ⟨hjob, ?_⟩
    have hnone : jobOf jobs' auditId = none := by
      rw [jobOf_eq_none]
      intro job' hjob' hof
      obtain ⟨job, hmem, hr⟩ := hrows.origin job' hjob'
      exact jobOf_eq_none.mp hjob job hmem ((hsame _ _ hr).isJobOf.mp hof)
    simp only [view, World.commit, World.jobs, World.audits] at hnone hjob ⊢
    rw [hnone, hjob]
  | some job =>
    obtain ⟨hmem, hof⟩ := mem_of_jobOf hjob
    obtain ⟨job', hjob', hr⟩ := hrows.kept job hmem
    refine .inr ⟨job, job', hjob, hmem, hr, ?_⟩
    have hsome := h'.jobOf hjob' ((hsame _ _ hr).isJobOf.mpr hof)
    simp only [view, World.commit, World.jobs, World.audits] at hsome hjob ⊢
    rw [hsome, hjob, Option.bind_some, Option.bind_some, (hsame _ _ hr).jobId]

end Update

end ConfigAuditor.Audits.Views
