import ConfigAuditor.Audits.Coordinator
import ConfigAuditor.Jobs.LeaseProtocol
import ConfigAuditor.Reevaluation.Service

/-!
# Audits, jobs and workers

Any number of workers run handlers against the tables of audits and jobs: one event is one
transaction of some party, or the loss of a worker. `WorkerRuntime` claims a job, calls its
handler while a thread renews the lease, and completes or fails the job when the handler ends.
-/
namespace ConfigAuditor.Audits.Workers

open Library Snapshots Service Creation Coordinator
open Training (User)

/-- A handler that a worker runs for a job. -/
structure Run where
  jobId : UUID
  leaseOwner : String
  handler : Handler

structure World where
  db : Database
  findings : List Finding := []
  runs : List Run := []

def World.audits (w : World) : List Audit := w.db.store.audits

def World.jobs (w : World) : Jobs.JobTable := w.db.store.jobs

/-- The tables with other audits and jobs. -/
def World.commit (w : World) (audits : List Audit) (jobs : Jobs.JobTable) : World :=
  { w with db := { w.db with store := { w.db.store with audits, jobs } } }

inductive Event where
  /-- The last statement of `create_audit`. -/
  | create (user : User) (request : AuditCreate) (snapshot : Snapshot) (auditId : UUID)
  /-- `start_audit`. -/
  | submit (user : User) (auditId jobId : UUID) (now : Int)
  /-- The last statement of a re-evaluation; its source stays locked from the check on. -/
  | reevaluate (request : Reevaluation.Service.Request) (latest : Nat) (auditId jobId : UUID)
    (now : Int)
  /-- Every table but the audits, their findings and the jobs may change. -/
  | elsewhere (db : Database)
  /-- A job of another type is enqueued. -/
  | enqueue (input : Jobs.EnqueueInput)
  | claim (allowed : Option (List Jobs.JobType)) (leaseOwner : String) (leaseSeconds : PyFloat)
    (now : Int) (locked : List UUID)
  /-- The heartbeat of a run. -/
  | heartbeat (jobId : UUID) (leaseSeconds : PyFloat) (now : Int)
  | recover (limit now : Int) (locked : List UUID)
  /-- A handler goes on. -/
  | advance (jobId : UUID) (outcome : Outcome)
  /-- A worker completes or fails the job of a handler that has ended. -/
  | settle (jobId : UUID) (now later : Int)
  /-- A worker is lost. -/
  | crash (jobId : UUID)

/-- The findings of an audit. -/
def findingsOf (findings : List Finding) (auditId : UUID) : List Finding :=
  findings.filter (·.auditId == auditId)

/-- The rows of an audit are replaced by those of a record. -/
def World.put (w : World) (record : Record) : World :=
  { w.commit (Table.modify Audit.auditId w.audits record.audit.auditId fun _ => record.audit) w.jobs
    with findings :=
      w.findings.filter (·.auditId != record.audit.auditId) ++ record.findings }

/-- The handler of a run is at another point. -/
def World.move (w : World) (jobId : UUID) (handler : Handler) : World :=
  { w with runs := Table.modify Run.jobId w.runs jobId fun run => { run with handler } }

/-- A run is over. -/
def World.drop (w : World) (jobId : UUID) : World :=
  { w with runs := w.runs.filter (·.jobId ≠ jobId) }

/-- A handler goes on. -/
def World.advance (w : World) (run : Run) (outcome : Outcome) : World :=
  match run.handler with
  | .entered =>
    match outcome with
    | .proceeds _ => w.move run.jobId (enter w.jobs w.audits run.jobId)
    | _ => w.move run.jobId (.done false)
  | .other =>
    match outcome with
    | .proceeds _ => w.move run.jobId (.done true)
    | _ => w.move run.jobId (.done false)
  | .running auditId organizationId position =>
    match owned Audit.auditId Audit.organizationId w.audits auditId organizationId with
    | none => w.move run.jobId (.running auditId organizationId position.caught)
    | some audit =>
      let (record, position) :=
        Coordinator.advance { audit, findings := findingsOf w.findings auditId } position outcome
      (w.put record).move run.jobId (.running auditId organizationId position)
  | .done _ => w

/-- The job that `claim_next_job` locks. -/
def nextJob (jobs : Jobs.JobTable) (allowed : Option (List Jobs.JobType)) (locked : List UUID) :
    Option Jobs.Job :=
  if allowed = some [] then none else Jobs.nextQueuedForUpdate jobs allowed locked

/-- `HANDLER_FAILURE_CODE` and `HANDLER_FAILURE_MESSAGE`. -/
def handlerFailureCode : String := "handler_failed"

def handlerFailureMessage : String := "Job handler execution failed"

/-- The terminal update of a worker whose handler has ended. -/
def settlement (run : Run) (returned : Bool) (now later : Int) : Jobs.LeaseProtocol.Event :=
  if returned then .complete run.jobId run.leaseOwner now later
  else .fail run.jobId run.leaseOwner handlerFailureCode handlerFailureMessage now later

def step (sha256 : String → String) (w : World) : Event → World
  | .create user request snapshot auditId =>
    match createStatement sha256 w.db user request auditId (.initialChecked snapshot) with
    | .ok (.finish audits jobs _) => w.commit audits jobs
    | _ => w
  | .submit user auditId jobId now =>
    { w with db := { w.db with store := (startAudit sha256 w.db.store user auditId jobId now).1 } }
  | .reevaluate request latest auditId jobId now =>
    match owned Audit.auditId Audit.organizationId w.audits request.auditId
        request.user.organizationId with
    | none => w
    | some source =>
      if Reevaluation.Service.completedStatuses.contains source.status then
        match Reevaluation.Service.startStatement sha256 w.db request auditId jobId now
            (.existingRead source latest) with
        | .ok (.finish audits jobs _) => w.commit audits jobs
        | _ => w
      else w
  | .elsewhere db => { w with
      db := { db with store := { db.store with audits := w.audits, jobs := w.jobs } } }
  | .enqueue input =>
    if input.jobType = .audit ∨ input.jobType = .reEvaluation then w
    else w.commit w.audits (Jobs.LeaseProtocol.step w.jobs (.enqueue input))
  | .claim allowed leaseOwner leaseSeconds now locked =>
    match nextJob w.jobs allowed locked,
        Jobs.claimNextJob w.jobs allowed leaseOwner leaseSeconds now locked with
    | some job, .ok jobs => { w.commit w.audits jobs with
        runs := w.runs ++ [{ jobId := job.jobId, leaseOwner, handler := .of job }] }
    | _, _ => w
  | .heartbeat jobId leaseSeconds now =>
    match Table.find? Run.jobId w.runs jobId with
    | some run => w.commit w.audits
        (Jobs.LeaseProtocol.step w.jobs (.heartbeat jobId run.leaseOwner leaseSeconds now))
    | none => w
  | .recover limit now locked =>
    w.commit w.audits (Jobs.LeaseProtocol.step w.jobs (.recover limit now locked))
  | .advance jobId outcome =>
    match Table.find? Run.jobId w.runs jobId with
    | some run => w.advance run outcome
    | none => w
  | .settle jobId now later =>
    match Table.find? Run.jobId w.runs jobId with
    | some run =>
      match run.handler.result with
      | some returned =>
        (w.commit w.audits
          (Jobs.LeaseProtocol.step w.jobs (settlement run returned now later))).drop jobId
      | none => w
    | none => w
  | .crash jobId => w.drop jobId

/-- Before the first audit and the first job. -/
def World.initial (db : Database) : World :=
  { db := { db with store := { db.store with audits := [], jobs := [] } } }

end ConfigAuditor.Audits.Workers
