import ConfigAuditor.Library.Runs
import ConfigAuditor.Reevaluation.Service

/-!
# Interleaved transactions on the audits

Any number of `create_audit` and `start` transactions run against one database, a statement
at a time and in any order. A statement that wants a row another transaction has locked
waits. A transaction ends with its commit or its rollback, and its locks go with it. Between
any two statements an audit may be processed, and everything but the audits may change.
-/
namespace ConfigAuditor.Reevaluation.Interleaving

open Library Snapshots Audits Audits.Creation Audits.Processing Service
open Training (User)

/-- An open transaction. -/
inductive Transaction where
  | create (user : User) (request : AuditCreate) (progress : CreateProgress)
  | start (request : Request) (progress : StartProgress)

structure Session where
  id : Nat
  transaction : Transaction
  held : List Row := []

structure World where
  db : Database
  sessions : List Session := []

/-- A transaction as it begins. -/
inductive Call where
  | create (user : User) (request : AuditCreate)
  | start (request : Request)

def Call.transaction : Call → Transaction
  | .create user request => .create user request .begun
  | .start request => .start request .begun

inductive Event where
  /-- A request opens a session. -/
  | opened (id : Nat) (call : Call)
  /-- The session's next statement; the identifiers and the clock are drawn. -/
  | advance (id : Nat) (auditId jobId : UUID) (now : Int)
  /-- The session is rolled back: a lost connection, a deadlock. -/
  | abort (id : Nat)
  /-- An audit is processed. -/
  | work (auditId : UUID) (work : Work)
  /-- Every table but the audits may change. -/
  | elsewhere (db : Database)

/-- The row the next statement locks. -/
def Transaction.wanted (db : Database) : Transaction → Option Row
  | .create _ _ _ => none
  | .start request progress => wantedRow db request progress

/-- What a statement leads to. -/
inductive Outcome where
  | failed (error : WorkflowError)
  | next (transaction : Transaction)
  | finished (audits : List Audit) (jobs : Jobs.JobTable)

def Transaction.statement (sha256 : String → String) (db : Database) (auditId jobId : UUID)
    (now : Int) : Transaction → Outcome
  | .create user request progress =>
    match createStatement sha256 db user request auditId progress with
    | .error error => .failed error
    | .ok (.next progress) => .next (.create user request progress)
    | .ok (.finish audits jobs _) => .finished audits jobs
  | .start request progress =>
    match startStatement sha256 db request auditId jobId now progress with
    | .error error => .failed error
    | .ok (.next progress) => .next (.start request progress)
    | .ok (.finish audits jobs _) => .finished audits jobs

def World.close (w : World) (id : Nat) : World :=
  { w with sessions := w.sessions.filter (·.id ≠ id) }

/-- A row another session holds. -/
def World.blocked (w : World) (id : Nat) (row : Row) : Bool :=
  w.sessions.any fun other => other.id != id && other.held.contains row

/-- The tables with other audits. -/
def withAudits (db : Database) (audits : List Audit) : Database :=
  { db with store := { db.store with audits } }

/-- The tables after a commit. -/
def committed (db : Database) (audits : List Audit) (jobs : Jobs.JobTable) : Database :=
  { db with store := { db.store with audits, jobs } }

/-- The session after a statement that goes on. -/
def advanced (transaction : Transaction) (row : Option Row) (session : Session) : Session :=
  { session with transaction, held := row.toList ++ session.held }

/-- A session runs its next statement, unless it waits for a row. -/
def advance (sha256 : String → String) (w : World) (session : Session) (auditId jobId : UUID)
    (now : Int) : World :=
  let row := session.transaction.wanted w.db
  if row.any (w.blocked session.id) then w
  else
    match session.transaction.statement sha256 w.db auditId jobId now with
    | .failed _ => w.close session.id
    | .next transaction => { w with
        sessions := Table.modify Session.id w.sessions session.id (advanced transaction row) }
    | .finished audits jobs =>
      { w.close session.id with db := committed w.db audits jobs }

def step (sha256 : String → String) (w : World) : Event → World
  | .opened id call =>
    match Table.insert? Session.id w.sessions { id, transaction := call.transaction } with
    | some sessions => { w with sessions }
    | none => w
  | .advance id auditId jobId now =>
    match Table.find? Session.id w.sessions id with
    | some session => advance sha256 w session auditId jobId now
    | none => w
  | .abort id => w.close id
  | .work auditId work => { w with
      db := withAudits w.db (Table.modify Audit.auditId w.db.store.audits auditId (worked work)) }
  | .elsewhere db => { w with db := withAudits db w.db.store.audits }

/-- No audit has been made and no transaction is open. -/
def World.initial (db : Database) : World := { db := withAudits db [] }

end ConfigAuditor.Reevaluation.Interleaving
