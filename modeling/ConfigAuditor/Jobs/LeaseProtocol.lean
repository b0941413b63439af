import ConfigAuditor.Errors
import ConfigAuditor.Jobs.Model
import ConfigAuditor.Library.Runs

/-!
# The lease protocol

Any number of workers, each transaction atomic, in any order and with any reading of the
clock. What one transaction can do to a row is said once, and every property of all runs
follows from it.
-/
namespace ConfigAuditor.Jobs.LeaseProtocol

open Library

/-- A transaction, with its arguments and its readings of the clock. -/
inductive Event where
  | enqueue (input : EnqueueInput)
  | claim (allowed : Option (List JobType)) (leaseOwner : String) (leaseSeconds : PyFloat)
    (now : Int) (locked : List UUID)
  | heartbeat (jobId : UUID) (leaseOwner : String) (leaseSeconds : PyFloat) (now : Int)
  | complete (jobId : UUID) (leaseOwner : String) (now later : Int)
  | fail (jobId : UUID) (leaseOwner errorCode errorMessage : String) (now later : Int)
  | recover (limit now : Int) (locked : List UUID)

def transact (jobs : JobTable) : Event → Except JobError JobTable
  | .enqueue input => enqueueJob jobs input
  | .claim allowed owner seconds now locked => claimNextJob jobs allowed owner seconds now locked
  | .heartbeat jobId owner seconds now => heartbeatJob jobs jobId owner seconds now
  | .complete jobId owner now later => completeJob jobs jobId owner now later
  | .fail jobId owner code message now later => failJob jobs jobId owner code message now later
  | .recover limit now locked => recoverStaleJobs jobs limit now locked

/-- A transaction that raises leaves the table as it is. -/
def step (jobs : JobTable) (event : Event) : JobTable :=
  match transact jobs event with
  | .ok jobs' => jobs'
  | .error _ => jobs

/-- The row is processed by this worker, and its lease has not run out. -/
structure HoldsLease (job : Job) (leaseOwner : String) (now : Int) : Prop where
  processing : job.status = .processing
  owner : job.leaseOwner = some (Text.strip leaseOwner)
  active : ∃ expires, job.leaseExpiresAt = some expires ∧ now < expires

inductive RowStep : Event → Job → Job → Prop
  | same (event : Event) (job : Job) : RowStep event job job
  | claim {job : Job} (h : job.status = .queued) {allowed : Option (List JobType)}
    {leaseOwner owner : String} {seconds : PyFloat} {now : Int} {locked : List UUID}
    {lease : Nat} :
    RowStep (.claim allowed leaseOwner seconds now locked) job (claimed job owner now lease)
  | heartbeat {job : Job} {owner : String} {now : Int} (h : HoldsLease job owner now)
    {seconds : PyFloat} {lease : Nat} :
    RowStep (.heartbeat job.jobId owner seconds now) job
      { job with heartbeatAt := some now, leaseExpiresAt := some (now + lease) }
  | complete {job : Job} {owner : String} {now : Int} (h : HoldsLease job owner now)
    {later : Int} :
    RowStep (.complete job.jobId owner now later) job
      (clearLease
        { job with
          status := .completed, progress := 100, completedAt := some later, errorCode := none,
          errorMessage := none })
  | fail {job : Job} {owner : String} {now : Int} (h : HoldsLease job owner now)
    {code message code' message' : String} {later : Int} :
    RowStep (.fail job.jobId owner code message now later) job
      (clearLease
        { job with
          status := .failed, completedAt := some later, errorCode := some code',
          errorMessage := some message' })
  | recover {job : Job} {now : Int} (h : isStale now job = true) {limit : Int}
    {locked : List UUID} :
    RowStep (.recover limit now locked) job (recovered job now)

theorem RowStep.jobId_eq {event : Event} {job job' : Job} (h : RowStep event job job') :
    job'.jobId = job.jobId := by
  cases h <;> rfl

/-- A row that no claim has touched. -/
def Fresh (jobs : JobTable) (job : Job) : Prop :=
  (∀ other ∈ jobs, other.jobId ≠ job.jobId) ∧ job.status = .queued ∧ job.attemptCount = 0 ∧
    job.leaseOwner = none ∧ job.heartbeatAt = none ∧ job.leaseExpiresAt = none

/-- Every row goes one step, and the other rows are new. -/
structure TableStep (event : Event) (jobs jobs' : JobTable) : Prop where
  kept : ∀ job ∈ jobs, ∃ job' ∈ jobs', RowStep event job job'
  origin : ∀ job' ∈ jobs', (∃ job ∈ jobs, RowStep event job job') ∨ Fresh jobs job'

section Steps

variable {jobs jobs' : JobTable} {event : Event}

theorem tableStep_same (event : Event) (jobs : JobTable) : TableStep event jobs jobs :=
  ⟨fun job hjob => ⟨job, hjob, .same event job⟩,
    fun job hjob => Or.inl ⟨job, hjob, .same event job⟩⟩

/-- An update of each row by itself. -/
theorem tableStep_map {f : Job → Job} (h : ∀ job ∈ jobs, RowStep event job (f job)) :
    TableStep event jobs (jobs.map f) := by
  constructor
  · exact fun job hjob => ⟨f job, List.mem_map_of_mem hjob, h job hjob⟩
  · intro job' hjob'
    obtain ⟨job, hjob, rfl⟩ := List.mem_map.mp hjob'
    exact Or.inl ⟨job, hjob, h job hjob⟩

theorem tableStep_modify {jobId : UUID} {f : Job → Job}
    (h : ∀ job ∈ jobs, job.jobId = jobId → RowStep event job (f job)) :
    TableStep event jobs (Table.modify Job.jobId jobs jobId f) := by
  refine tableStep_map fun job hjob => ?_
  split
  · rename_i hid
    exact h job hjob hid
  · exact .same event job

theorem validatedLeaseOwner_ok {leaseOwner owner : String}
    (h : validatedLeaseOwner leaseOwner = .ok owner) : owner = Text.strip leaseOwner := by
  unfold validatedLeaseOwner at h
  dsimp only at h
  split at h
  · cases h
  · exact (Except.ok.inj h).symm

/-- The checks before a heartbeat or a terminal update. -/
theorem holdsLease_of_checks {jobId : UUID} {leaseOwner : String} {now : Int} {job : Job} {u : Unit}
    (hjob : ownedProcessingJob jobs jobId leaseOwner = .ok job)
    (hactive : requireActiveLease job now = .ok u) :
    job ∈ jobs ∧ job.jobId = jobId ∧ HoldsLease job leaseOwner now := by
  unfold ownedProcessingJob at hjob
  split at hjob
  · cases hjob
  rename_i found hfind
  obtain ⟨hmem, hid⟩ := Table.find?_eq_some hfind
  split at hjob
  · cases hjob
  rename_i hstatus
  simp only [ne_eq, not_not] at hstatus
  obtain ⟨owner, howner, hjob⟩ := except_bind_eq_ok.mp hjob
  obtain rfl := validatedLeaseOwner_ok howner
  split at hjob
  · rename_i hlease
    obtain rfl := except_pure_eq_ok.mp hjob
    refine ⟨hmem, hid, hstatus, hlease, ?_⟩
    unfold requireActiveLease at hactive
    split at hactive
    · rename_i hany
      simpa [Option.any_eq_true] using hany
    · cases hactive
  · cases hjob

theorem transact_ok (hids : (jobs.map Job.jobId).Nodup) (h : transact jobs event = .ok jobs') :
    TableStep event jobs jobs' := by
  have honly : ∀ {job job' : Job}, job ∈ jobs → job' ∈ jobs → job'.jobId = job.jobId →
      job' = job := fun hjob hjob' hid => Table.eq_of_key hids hjob' hjob hid
  cases event with
  | enqueue input =>
    simp only [transact, enqueueJob] at h
    split at h
    · cases h
    split at h
    · rename_i jobs'' hinsert
      obtain rfl := Except.ok.inj h
      obtain ⟨rfl, hfree⟩ := Table.insert?_eq_some hinsert
      constructor
      · exact fun job hjob => ⟨job, List.mem_append_left _ hjob, .same _ job⟩
      · intro job' hjob'
        rcases List.mem_append.mp hjob' with hjob' | hjob'
        · exact Or.inl ⟨job', hjob', .same _ job'⟩
        · obtain rfl := List.mem_singleton.mp hjob'
          exact Or.inr ⟨hfree, rfl, rfl, rfl, rfl, rfl⟩
    · cases h
  | claim allowed leaseOwner seconds now locked =>
    simp only [transact, claimNextJob] at h
    split at h
    · obtain rfl := Except.ok.inj h
      exact tableStep_same _ _
    split at h
    · obtain rfl := Except.ok.inj h
      exact tableStep_same _ _
    · rename_i next hnext
      obtain ⟨owner, -, h⟩ := except_bind_eq_ok.mp h
      obtain ⟨lease, -, h⟩ := except_bind_eq_ok.mp h
      obtain rfl := except_pure_eq_ok.mp h
      have hmem : next ∈ jobs ∧ next.status = .queued := by
        have := List.mem_of_mem_head? hnext
        simp only [mem_sortedBy, List.mem_filter, isQueued, Bool.and_eq_true, beq_iff_eq] at this
        exact ⟨this.1, this.2.1.1⟩
      refine tableStep_modify fun job hjob hid => ?_
      obtain rfl := honly hmem.1 hjob hid
      exact .claim hmem.2
  | heartbeat jobId leaseOwner seconds now =>
    simp only [transact, heartbeatJob, except_bind_eq_ok, except_pure_eq_ok] at h
    obtain ⟨found, hfound, _, hactive, lease, -, rfl⟩ := h
    obtain ⟨hmem, rfl, hlease⟩ := holdsLease_of_checks hfound hactive
    refine tableStep_modify fun job hjob hid => ?_
    obtain rfl := honly hmem hjob hid
    exact .heartbeat hlease
  | complete jobId leaseOwner now later =>
    simp only [transact, completeJob, except_bind_eq_ok, except_pure_eq_ok] at h
    obtain ⟨found, hfound, _, hactive, rfl⟩ := h
    obtain ⟨hmem, rfl, hlease⟩ := holdsLease_of_checks hfound hactive
    refine tableStep_modify fun job hjob hid => ?_
    obtain rfl := honly hmem hjob hid
    exact .complete hlease
  | fail jobId leaseOwner code message now later =>
    simp only [transact, failJob] at h
    split at h
    · cases h
    split at h
    · cases h
    simp only [except_bind_eq_ok, except_pure_eq_ok] at h
    obtain ⟨found, hfound, _, hactive, rfl⟩ := h
    obtain ⟨hmem, rfl, hlease⟩ := holdsLease_of_checks hfound hactive
    refine tableStep_modify fun job hjob hid => ?_
    obtain rfl := honly hmem hjob hid
    exact .fail hlease
  | recover limit now locked =>
    simp only [transact, recoverStaleJobs] at h
    split at h
    · cases h
    obtain rfl := Except.ok.inj h
    refine tableStep_map fun job hjob => ?_
    split
    · rename_i hstale
      obtain ⟨other, hother, hid⟩ := List.any_eq_true.mp hstale
      have hother := List.mem_of_mem_take hother
      simp only [mem_sortedBy, List.mem_filter, Bool.and_eq_true] at hother
      obtain rfl := honly hjob hother.1 (by simpa using hid)
      exact .recover hother.2.1
    · exact .same _ job

theorem step_rows (hids : (jobs.map Job.jobId).Nodup) (event : Event) :
    TableStep event jobs (step jobs event) := by
  unfold step
  split
  · rename_i jobs' h
    exact transact_ok hids h
  · exact tableStep_same _ _

end Steps

/-- A row as the protocol leaves it: claimed at most once, with a lease while it is
processed and at no other time. -/
structure Job.Valid (job : Job) : Prop where
  attempts : job.attemptCount = if job.status = .queued then 0 else 1
  leased : job.status = .processing →
    job.leaseOwner.isSome = true ∧ job.heartbeatAt.isSome = true ∧ job.leaseExpiresAt.isSome = true
  unleased : job.status ≠ .processing →
    job.leaseOwner = none ∧ job.heartbeatAt = none ∧ job.leaseExpiresAt = none

structure Inv (jobs : JobTable) : Prop where
  nodup : (jobs.map Job.jobId).Nodup
  valid : ∀ job ∈ jobs, Job.Valid job

theorem RowStep.valid {event : Event} {job job' : Job} (h : RowStep event job job')
    (hvalid : Job.Valid job) : Job.Valid job' := by
  cases h with
  | same => exact hvalid
  | claim hqueued =>
    refine ⟨?_, fun _ => ⟨rfl, rfl, rfl⟩, fun hne => absurd rfl hne⟩
    have hattempts := hvalid.attempts
    simp only [hqueued, if_true] at hattempts
    simp [claimed, hattempts]
  | heartbeat hlease =>
    refine ⟨hvalid.attempts, fun _ => ?_, fun hne => absurd hlease.processing hne⟩
    exact ⟨(hvalid.leased hlease.processing).1, rfl, rfl⟩
  | complete hlease =>
    refine ⟨?_, (fun hprocessing => by cases hprocessing), fun _ => ⟨rfl, rfl, rfl⟩⟩
    simpa [clearLease, hlease.processing] using hvalid.attempts
  | fail hlease =>
    refine ⟨?_, (fun hprocessing => by cases hprocessing), fun _ => ⟨rfl, rfl, rfl⟩⟩
    simpa [clearLease, hlease.processing] using hvalid.attempts
  | recover hstale =>
    refine ⟨?_, (fun hprocessing => by cases hprocessing), fun _ => ⟨rfl, rfl, rfl⟩⟩
    simp only [isStale, Bool.and_eq_true, beq_iff_eq] at hstale
    simpa [recovered, clearLease, hstale.1] using hvalid.attempts

theorem Fresh.valid {jobs : JobTable} {job : Job} (h : Fresh jobs job) : Job.Valid job := by
  obtain ⟨-, hstatus, hattempts, howner, hheartbeat, hexpires⟩ := h
  refine ⟨by rw [hattempts, hstatus]; rfl, fun hprocessing => ?_, fun _ =>
    ⟨howner, hheartbeat, hexpires⟩⟩
  rw [hstatus] at hprocessing
  cases hprocessing

theorem transact_nodup {jobs jobs' : JobTable} {event : Event}
    (hids : (jobs.map Job.jobId).Nodup) (h : transact jobs event = .ok jobs') :
    (jobs'.map Job.jobId).Nodup := by
  cases event with
  | enqueue input =>
    simp only [transact, enqueueJob] at h
    split at h
    · cases h
    split at h
    · rename_i jobs'' hinsert
      obtain rfl := Except.ok.inj h
      exact Table.insert?_nodup hids hinsert
    · cases h
  | claim allowed leaseOwner seconds now locked =>
    simp only [transact, claimNextJob] at h
    split at h
    · obtain rfl := Except.ok.inj h
      exact hids
    split at h
    · obtain rfl := Except.ok.inj h
      exact hids
    · simp only [except_bind_eq_ok, except_pure_eq_ok] at h
      obtain ⟨owner, -, lease, -, rfl⟩ := h
      rw [Table.modify_keys fun _ => by rfl]
      exact hids
  | heartbeat jobId leaseOwner seconds now =>
    simp only [transact, heartbeatJob, except_bind_eq_ok, except_pure_eq_ok] at h
    obtain ⟨_, -, _, -, _, -, rfl⟩ := h
    rw [Table.modify_keys fun _ => by rfl]
    exact hids
  | complete jobId leaseOwner now later =>
    simp only [transact, completeJob, except_bind_eq_ok, except_pure_eq_ok] at h
    obtain ⟨_, -, _, -, rfl⟩ := h
    rw [Table.modify_keys fun _ => by rfl]
    exact hids
  | fail jobId leaseOwner code message now later =>
    simp only [transact, failJob] at h
    split at h
    · cases h
    split at h
    · cases h
    simp only [except_bind_eq_ok, except_pure_eq_ok] at h
    obtain ⟨_, -, _, -, rfl⟩ := h
    rw [Table.modify_keys fun _ => by rfl]
    exact hids
  | recover limit now locked =>
    simp only [transact, recoverStaleJobs] at h
    split at h
    · cases h
    obtain rfl := Except.ok.inj h
    rw [List.map_map]
    have hkeys : ∀ job ∈ jobs, (Job.jobId ∘ fun job =>
        if (staleProcessingForUpdate jobs now limit.toNat locked).any (·.jobId = job.jobId) then
          recovered job now else job) job = Job.jobId job := by
      intro job _
      simp only [Function.comp_apply]
      split <;> rfl
    rwa [List.map_congr_left hkeys]

theorem inv_step {jobs : JobTable} (h : Inv jobs) (event : Event) : Inv (step jobs event) := by
  have hrows := step_rows h.nodup event
  constructor
  · unfold step
    split
    · rename_i jobs' htransact
      exact transact_nodup h.nodup htransact
    · exact h.nodup
  · intro job' hjob'
    rcases hrows.origin job' hjob' with ⟨job, hjob, hrow⟩ | hfresh
    · exact hrow.valid (h.valid job hjob)
    · exact hfresh.valid

theorem inv_run (events : List Event) : Inv (Runs.run step [] events) := by
  have hstep : ∀ jobs event, Inv jobs → Inv (step jobs event) := fun _ event h => inv_step h event
  exact Runs.run_invariant hstep ⟨by simp, by simp⟩ events

/-- The moves of a job between its statuses. -/
inductive StatusMove : JobStatus → JobStatus → Prop
  | stay (status : JobStatus) : StatusMove status status
  | claim : StatusMove .queued .processing
  | complete : StatusMove .processing .completed
  | fail : StatusMove .processing .failed

def JobStatus.terminal : JobStatus → Prop
  | .completed | .failed => True
  | .queued | .processing => False

/-- What may change a row: a claim of a queued job, its owner's heartbeat or terminal update
under a lease that has not run out, or a recovery after the lease has run out. -/
def ChangedBy : Event → Job → Prop
  | .enqueue _, _ => False
  | .claim .., job => job.status = .queued
  | .heartbeat jobId owner _ now, job => jobId = job.jobId ∧ HoldsLease job owner now
  | .complete jobId owner now _, job => jobId = job.jobId ∧ HoldsLease job owner now
  | .fail jobId owner _ _ now _, job => jobId = job.jobId ∧ HoldsLease job owner now
  | .recover _ now _, job =>
    job.status = .processing ∧ ∃ expires, job.leaseExpiresAt = some expires ∧ expires < now

theorem RowStep.status_move {event : Event} {job job' : Job} (h : RowStep event job job') :
    StatusMove job.status job'.status := by
  cases h with
  | same => exact .stay _
  | claim hqueued => rw [hqueued]; exact .claim
  | heartbeat => exact .stay _
  | complete hlease => rw [hlease.processing]; exact .complete
  | fail hlease => rw [hlease.processing]; exact .fail
  | recover hstale =>
    simp only [isStale, Bool.and_eq_true, beq_iff_eq] at hstale
    rw [hstale.1]
    exact .fail

/-- A stale row of the protocol has a lease that has run out. -/
theorem Job.Valid.expired {job : Job} (hvalid : Job.Valid job) {now : Int}
    (hstale : isStale now job = true) :
    job.status = .processing ∧ ∃ expires, job.leaseExpiresAt = some expires ∧ expires < now := by
  simp only [isStale, Bool.and_eq_true, beq_iff_eq] at hstale
  obtain ⟨hprocessing, hexpired⟩ := hstale
  obtain ⟨expires, hexpires⟩ := Option.isSome_iff_exists.mp (hvalid.leased hprocessing).2.2
  exact ⟨hprocessing, expires, hexpires, by simpa [hexpires] using hexpired⟩

theorem RowStep.changedBy {event : Event} {job job' : Job} (h : RowStep event job job')
    (hvalid : Job.Valid job) : job' = job ∨ ChangedBy event job := by
  cases h with
  | same => exact Or.inl rfl
  | claim hqueued => exact Or.inr hqueued
  | heartbeat hlease => exact Or.inr ⟨rfl, hlease⟩
  | complete hlease => exact Or.inr ⟨rfl, hlease⟩
  | fail hlease => exact Or.inr ⟨rfl, hlease⟩
  | recover hstale => exact Or.inr (hvalid.expired hstale)

theorem ChangedBy.not_terminal {event : Event} {job : Job} (h : ChangedBy event job) :
    ¬ JobStatus.terminal job.status := by
  intro hterminal
  cases event with
  | enqueue => exact h
  | claim => rw [show job.status = .queued from h] at hterminal; exact hterminal
  | heartbeat => rw [h.2.processing] at hterminal; exact hterminal
  | complete => rw [h.2.processing] at hterminal; exact hterminal
  | fail => rw [h.2.processing] at hterminal; exact hterminal
  | recover => rw [h.1] at hterminal; exact hterminal

/-- A heartbeat or terminal update of the row goes through at this instant. -/
def Renewable (jobs : JobTable) (job : Job) (now : Int) : Prop :=
  ∃ owner, (∃ seconds, (heartbeatJob jobs job.jobId owner seconds now).isOk = true) ∨
    (∃ later, (completeJob jobs job.jobId owner now later).isOk = true) ∨
    ∃ code message later, (failJob jobs job.jobId owner code message now later).isOk = true

theorem renewable_holdsLease {jobs : JobTable} (hids : (jobs.map Job.jobId).Nodup) {job : Job}
    (hjob : job ∈ jobs) {now : Int} (h : Renewable jobs job now) :
    ∃ owner, HoldsLease job owner now := by
  have hfound : ∀ {owner found u}, ownedProcessingJob jobs job.jobId owner = .ok found →
      requireActiveLease found now = .ok u → HoldsLease job owner now := by
    intro owner found u hchecks hactive
    obtain ⟨hmem, hid, hlease⟩ := holdsLease_of_checks hchecks hactive
    rwa [Table.eq_of_key hids hmem hjob hid] at hlease
  obtain ⟨owner, ⟨seconds, hok⟩ | ⟨later, hok⟩ | ⟨code, message, later, hok⟩⟩ := h
  · obtain ⟨jobs', hok⟩ := exists_of_isOk hok
    simp only [heartbeatJob, except_bind_eq_ok] at hok
    obtain ⟨found, hchecks, u, hactive, -⟩ := hok
    exact ⟨owner, hfound hchecks hactive⟩
  · obtain ⟨jobs', hok⟩ := exists_of_isOk hok
    simp only [completeJob, except_bind_eq_ok] at hok
    obtain ⟨found, hchecks, u, hactive, -⟩ := hok
    exact ⟨owner, hfound hchecks hactive⟩
  · obtain ⟨jobs', hok⟩ := exists_of_isOk hok
    simp only [failJob] at hok
    split at hok
    · cases hok
    split at hok
    · cases hok
    simp only [except_bind_eq_ok] at hok
    obtain ⟨found, hchecks, u, hactive, -⟩ := hok
    exact ⟨owner, hfound hchecks hactive⟩

/-- Safety of the lease protocol, in every state that any interleaving of transactions
reaches, and over every further transaction. -/
theorem lease_protocol_safe (events : List Event) :
    let jobs := Runs.run step [] events
    (∀ job ∈ jobs, job.attemptCount ≤ 1 ∧ (job.status ≠ .queued → job.attemptCount = 1) ∧
      (job.status = .processing → job.leaseOwner.isSome = true ∧ job.heartbeatAt.isSome = true ∧
        job.leaseExpiresAt.isSome = true) ∧
      (job.status ≠ .processing → job.leaseOwner = none ∧ job.heartbeatAt = none ∧
        job.leaseExpiresAt = none)) ∧
    (∀ job ∈ jobs, ∀ now, ¬ (Renewable jobs job now ∧ isStale now job = true)) ∧
    ∀ event, ∀ job ∈ jobs, ∃ job' ∈ step jobs event, job'.jobId = job.jobId ∧
      StatusMove job.status job'.status ∧ (JobStatus.terminal job.status → job' = job) ∧
      (job' = job ∨ ChangedBy event job) := by
  intro jobs
  have hinv : Inv jobs := inv_run events
  refine ⟨fun job hjob => ?_, fun job hjob now => ?_, fun event job hjob => ?_⟩
  · have hvalid := hinv.valid job hjob
    have hattempts := hvalid.attempts
    refine ⟨?_, fun hne => ?_, hvalid.leased, hvalid.unleased⟩
    · rw [hattempts]
      split <;> decide
    · rw [hattempts, if_neg hne]
  · rintro ⟨hrenewable, hstale⟩
    obtain ⟨owner, hlease⟩ := renewable_holdsLease hinv.nodup hjob hrenewable
    obtain ⟨expires, hexpires, hactive⟩ := hlease.active
    obtain ⟨-, expires', hexpires', hexpired⟩ := (hinv.valid job hjob).expired hstale
    rw [hexpires] at hexpires'
    obtain rfl := Option.some.inj hexpires'
    omega
  · obtain ⟨job', hjob', hrow⟩ := (step_rows hinv.nodup event).kept job hjob
    have hchanged := hrow.changedBy (hinv.valid job hjob)
    refine ⟨job', hjob', hrow.jobId_eq, hrow.status_move, fun hterminal => ?_, hchanged⟩
    exact hchanged.resolve_right fun h => h.not_terminal hterminal

end ConfigAuditor.Jobs.LeaseProtocol
