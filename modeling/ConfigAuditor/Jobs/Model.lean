import Mathlib.Data.Prod.Lex
import Mathlib.Order.WithBot
import ConfigAuditor.Library.Sorting
import ConfigAuditor.Library.Table
import ConfigAuditor.Library.Uuid
import ConfigAuditor.Library.Value

/-!
# The job queue

`app.jobs.service` and `app.jobs.repository`: the transactions on the table of jobs. A
transaction that raises is rolled back. Instants count microseconds, and `locked` are the
rows other transactions hold, which `SKIP LOCKED` passes over.
-/
namespace ConfigAuditor.Jobs

open Library

inductive JobStatus where
  | queued
  | processing
  | completed
  | failed
  deriving DecidableEq, Repr

inductive JobType where
  | audit
  | reEvaluation
  | mappingValidation
  | pdfGeneration
  | bulkReportGeneration
  | systemNoop
  deriving DecidableEq, Repr

/-- The exceptions of `app.jobs.errors`, and a refused insertion. -/
inductive JobError where
  | invalid (message : String)
  | notFound
  | invalidTransition (status : JobStatus)
  | leaseLost (message : String)
  | duplicateKey
  deriving DecidableEq, Repr

structure Job where
  jobId : UUID
  jobType : JobType
  status : JobStatus := .queued
  stage : Option String := none
  progress : Nat := 0
  auditId : Option UUID := none
  deviceId : Option UUID := none
  payload : List (String × PyValue) := []
  attemptCount : Nat := 0
  errorCode : Option String := none
  errorMessage : Option String := none
  createdAt : Int
  startedAt : Option Int := none
  completedAt : Option Int := none
  leaseOwner : Option String := none
  heartbeatAt : Option Int := none
  leaseExpiresAt : Option Int := none
  deriving DecidableEq

/-- The rows of `jobs`. -/
abbrev JobTable := List Job

/-- `_validated_lease_owner`. -/
def validatedLeaseOwner (leaseOwner : String) : Except JobError String :=
  let owner := Text.strip leaseOwner
  if owner.isEmpty || 128 < owner.length then
    .error (.invalid "Job lease owner must contain 1 to 128 characters")
  else .ok owner

/-- The microseconds of `timedelta(seconds=...)`: the fraction of a second is multiplied as a
float and rounded afterwards. -/
def timedeltaMicroseconds (seconds : Rat) : Nat :=
  let fraction := PyFloat.round ((seconds - seconds.floor) * 1000000) false
  seconds.floor.toNat * 1000000 + PyFloat.roundHalfEven (fraction.toRat?.getD 0)

/-- `_validated_lease_seconds`, as the microseconds of the `timedelta`. -/
def validatedLeaseMicroseconds (leaseSeconds : PyFloat) : Except JobError Nat :=
  match leaseSeconds.toRat? with
  | none => .error (.invalid "Job lease duration must be between 0 and 3600 seconds")
  | some seconds =>
    if 0 < seconds ∧ seconds ≤ 3600 then .ok (timedeltaMicroseconds seconds)
    else .error (.invalid "Job lease duration must be between 0 and 3600 seconds")

/-- `_clear_lease`. -/
def clearLease (job : Job) : Job :=
  { job with leaseOwner := none, heartbeatAt := none, leaseExpiresAt := none }

/-- The arguments of `enqueue_job`, with the id and the instant of the new row. -/
structure EnqueueInput where
  jobId : UUID
  jobType : JobType
  createdAt : Int
  payload : List (String × PyValue) := []
  auditId : Option UUID := none
  deviceId : Option UUID := none
  stage : Option String := none
  deriving DecidableEq

/-- `enqueue_job`. -/
def enqueueJob (jobs : JobTable) (input : EnqueueInput) : Except JobError JobTable :=
  let stage := input.stage.map Text.strip
  if stage.any fun s => s.isEmpty || 100 < s.length then
    .error (.invalid "Job stage must contain 1 to 100 characters")
  else
    match Table.insert? Job.jobId jobs
      { jobId := input.jobId, jobType := input.jobType, stage, auditId := input.auditId,
        deviceId := input.deviceId, payload := input.payload, createdAt := input.createdAt } with
    | some jobs => .ok jobs
    | none => .error .duplicateKey

/-- `ORDER BY created_at, job_id`. -/
def queueKey (job : Job) : Int ×ₗ Nat := toLex (job.createdAt, job.jobId.int)

def isQueued (allowed : Option (List JobType)) (job : Job) : Bool :=
  job.status == .queued && allowed.all fun types => types.contains job.jobType

/-- `next_queued_for_update`: the oldest queued row that is not locked. -/
def nextQueuedForUpdate (jobs : JobTable) (allowed : Option (List JobType)) (locked : List UUID) :
    Option Job :=
  (sortedBy queueKey
    (jobs.filter fun job => isQueued allowed job && !locked.contains job.jobId)).head?

/-- A claimed row. -/
def claimed (job : Job) (owner : String) (now : Int) (lease : Nat) : Job :=
  { job with
    status := .processing, attemptCount := job.attemptCount + 1, startedAt := some now,
    completedAt := none, leaseOwner := some owner, heartbeatAt := some now,
    leaseExpiresAt := some (now + lease) }

/-- `claim_next_job`. -/
def claimNextJob (jobs : JobTable) (allowed : Option (List JobType)) (leaseOwner : String)
    (leaseSeconds : PyFloat) (now : Int) (locked : List UUID) : Except JobError JobTable :=
  if allowed = some [] then .ok jobs
  else
    match nextQueuedForUpdate jobs allowed locked with
    | none => .ok jobs
    | some job => do
      let owner ← validatedLeaseOwner leaseOwner
      let lease ← validatedLeaseMicroseconds leaseSeconds
      return Table.modify Job.jobId jobs job.jobId (claimed · owner now lease)

/-- `_owned_processing_job_for_update`. -/
def ownedProcessingJob (jobs : JobTable) (jobId : UUID) (leaseOwner : String) :
    Except JobError Job :=
  match Table.find? Job.jobId jobs jobId with
  | none => .error .notFound
  | some job =>
    if job.status ≠ .processing then .error (.invalidTransition job.status)
    else do
      let owner ← validatedLeaseOwner leaseOwner
      if job.leaseOwner = some owner then return job
      else .error (.leaseLost "Job lease is not owned by this worker")

/-- `_require_active_lease`. -/
def requireActiveLease (job : Job) (now : Int) : Except JobError Unit :=
  if job.leaseExpiresAt.any (now < ·) then .ok () else .error (.leaseLost "Job lease has expired")

/-- `heartbeat_job`. -/
def heartbeatJob (jobs : JobTable) (jobId : UUID) (leaseOwner : String) (leaseSeconds : PyFloat)
    (now : Int) : Except JobError JobTable := do
  let job ← ownedProcessingJob jobs jobId leaseOwner
  requireActiveLease job now
  let lease ← validatedLeaseMicroseconds leaseSeconds
  return Table.modify Job.jobId jobs jobId fun job =>
    { job with heartbeatAt := some now, leaseExpiresAt := some (now + lease) }

/-- `complete_job`; the clock is read again for `completed_at`. -/
def completeJob (jobs : JobTable) (jobId : UUID) (leaseOwner : String) (now later : Int) :
    Except JobError JobTable := do
  let job ← ownedProcessingJob jobs jobId leaseOwner
  requireActiveLease job now
  return Table.modify Job.jobId jobs jobId fun job => clearLease
    { job with
      status := .completed, progress := 100, completedAt := some later, errorCode := none,
      errorMessage := none }

/-- `ERROR_CODE_PATTERN`. -/
def isErrorCode (code : String) : Bool :=
  code.toList.all (fun c => Text.isAsciiAlnum c || c == '_' || c == '.' || c == '-') &&
    !code.isEmpty && code.length ≤ 64

/-- `fail_job`. -/
def failJob (jobs : JobTable) (jobId : UUID) (leaseOwner errorCode errorMessage : String)
    (now later : Int) : Except JobError JobTable :=
  let code := Text.strip errorCode
  let message := Text.strip errorMessage
  if !isErrorCode code then .error (.invalid "Invalid job error code")
  else if message.isEmpty || 1000 < message.length || message.toList.contains '\n' ||
      message.toList.contains '\r' then
    .error (.invalid "Job error message must be a single line of 1 to 1000 characters")
  else do
    let job ← ownedProcessingJob jobs jobId leaseOwner
    requireActiveLease job now
    return Table.modify Job.jobId jobs jobId fun job => clearLease
      { job with
        status := .failed, completedAt := some later, errorCode := some code,
        errorMessage := some message }

/-- The condition of `stale_processing_for_update`: expired, or claimed without a lease. -/
def isStale (now : Int) (job : Job) : Bool :=
  job.status == .processing && job.leaseExpiresAt.all (· < now)

/-- `ORDER BY lease_expires_at NULLS FIRST, job_id`. -/
def staleKey (job : Job) : WithBot Int ×ₗ Nat := toLex (job.leaseExpiresAt, job.jobId.int)

/-- `stale_processing_for_update`. -/
def staleProcessingForUpdate (jobs : JobTable) (now : Int) (limit : Nat) (locked : List UUID) :
    List Job :=
  (sortedBy staleKey
    (jobs.filter fun job => isStale now job && !locked.contains job.jobId)).take limit

/-- A recovered row. -/
def recovered (job : Job) (now : Int) : Job :=
  clearLease
    { job with
      status := .failed, completedAt := some now, errorCode := some "worker_lease_expired",
      errorMessage := some "Job worker lease expired before completion" }

/-- `recover_stale_jobs`. -/
def recoverStaleJobs (jobs : JobTable) (limit : Int) (now : Int) (locked : List UUID) :
    Except JobError JobTable :=
  if limit < 1 ∨ 1000 < limit then
    .error (.invalid "Recovery batch size must be between 1 and 1000")
  else
    let stale := staleProcessingForUpdate jobs now limit.toNat locked
    .ok (jobs.map fun job => if stale.any (·.jobId = job.jobId) then recovered job now else job)

end ConfigAuditor.Jobs
