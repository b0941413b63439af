import ConfigAuditor.Audits.Views

/-!
# One event, one move

Every event of the workers keeps the tables linked, and in the view of each audit it makes one
of a few moves or none.
-/
namespace ConfigAuditor.Audits.Moves

open Library Snapshots Service Creation Coordinator Workers Views
open Jobs (Job JobTable claimed)
open Jobs.LeaseProtocol (RowStep)
open Training (User)

/-- Where a handler is that has read its job and its audit. -/
def entry (audit : Audit) : Outcome → Handler
  | .proceeds _ =>
    if isTerminal audit.status then .done true
    else .running audit.auditId audit.organizationId .called
  | _ => .done false

/-- What an event does in the view of one audit. -/
inductive Move : Event → View → View → Prop
  | still (event : Event) (v : View) : Move event v v
  | created {event : Event} {audit : Audit} (hdraft : audit.status = .draft)
    {findings : List Finding} :
    Move event ⟨none, findings, none, none⟩ ⟨some audit, findings, none, none⟩
  | submitted {event : Event} {audit : Audit} (hdraft : audit.status = .draft)
    {findings : List Finding} {job : Job} (hqueued : job.status = .queued) :
    Move event ⟨some audit, findings, none, none⟩ ⟨some (submitted audit), findings, some job, none⟩
  | reevaluated {event : Event} {audit : Audit} (haudit : audit.status = .queued)
    {findings : List Finding} {job : Job} (hqueued : job.status = .queued) :
    Move event ⟨none, findings, none, none⟩ ⟨some audit, findings, some job, none⟩
  | claimed {event : Event} {job : Job} (hqueued : job.status = .queued) {owner : String}
    {now : Int} {lease : Nat} {audit : Option Audit} {findings : List Finding} :
    Move event ⟨audit, findings, some job, none⟩
      ⟨audit, findings, some (claimed job owner now lease), some .entered⟩
  | renewed {jobId : UUID} {owner : String} {seconds : PyFloat} {now : Int} {job job' : Job}
    (hrow : RowStep (.heartbeat jobId owner seconds now) job job') {audit : Option Audit}
    {findings : List Finding} {handler : Option Handler} :
    Move (.heartbeat jobId seconds now) ⟨audit, findings, some job, handler⟩
      ⟨audit, findings, some job', handler⟩
  | recovered {limit now : Int} {locked : List UUID} {job job' : Job}
    (hrow : RowStep (.recover limit now locked) job job') {audit : Option Audit}
    {findings : List Finding} {handler : Option Handler} :
    Move (.recover limit now locked) ⟨audit, findings, some job, handler⟩
      ⟨audit, findings, some job', handler⟩
  | settled {run : Run} {returned : Bool} (hresult : run.handler.result = some returned)
    {now later : Int} {job job' : Job} (hjob : job.jobId = run.jobId)
    (hrow : RowStep (settlement run returned now later) job job') {audit : Option Audit}
    {findings : List Finding} :
    Move (.settle run.jobId now later) ⟨audit, findings, some job, some run.handler⟩
      ⟨audit, findings, some job', none⟩
  | entered (outcome : Outcome) {audit : Audit} {findings : List Finding} {job : Job} :
    Move (.advance job.jobId outcome) ⟨some audit, findings, some job, some .entered⟩
      ⟨some audit, findings, some job, some (entry audit outcome)⟩
  | advanced (outcome : Outcome) {record record' : Record} {position position' : Position}
    (h : Coordinator.advance record position outcome = (record', position')) {job : Job} :
    Move (.advance job.jobId outcome)
      ⟨some record.audit, record.findings, some job,
        some (.running record.audit.auditId record.audit.organizationId position)⟩
      ⟨some record'.audit, record'.findings, some job,
        some (.running record.audit.auditId record.audit.organizationId position')⟩
  | crashed {job : Job} {audit : Option Audit} {findings : List Finding}
    {handler : Option Handler} :
    Move (.crash job.jobId) ⟨audit, findings, some job, handler⟩
      ⟨audit, findings, some job, none⟩

/-- The tables stay linked, and each view makes a move. -/
structure Stepped (event : Event) (w w' : World) : Prop where
  linked : Linked w'
  moves : ∀ auditId, Move event (view w auditId) (view w' auditId)

section Events

variable {w : World} {event : Event}

theorem stepped_still (h : Linked w) (event : Event) : Stepped event w w :=
  ⟨h, fun auditId => .still event (view w auditId)⟩

/-! ## New rows -/

/-- The audits go on, and the new jobs are for audits that had none. -/
theorem linked_grown (h : Linked w) {audits' : List Audit} {new : List Job}
    (haudits : (audits'.map Audit.auditId).Nodup) (hinv : Jobs.LeaseProtocol.Inv (w.jobs ++ new))
    (hkept : ∀ audit ∈ w.audits, ∃ audit' ∈ audits', Continues audit audit')
    (hnew : ∀ job ∈ new, ∀ other ∈ new, job = other)
    (hfree : ∀ job ∈ new, ∀ auditId, IsJobOf auditId job → ∀ other ∈ w.jobs,
      ¬ IsJobOf auditId other)
    (hnamed : ∀ job ∈ new, isAuditJob job = true → ∃ audit ∈ audits',
      job.auditId = some audit.auditId ∧ job.deviceId = some audit.deviceId ∧
        audit.status ≠ .draft) :
    Linked (w.commit audits' (w.jobs ++ new)) := by
  refine ⟨haudits, hinv, h.runs, ?_, ?_, ?_⟩
  · intro first hfirst second hsecond auditId hof hof'
    rcases List.mem_append.mp hfirst with hfirst | hfirst
    · rcases List.mem_append.mp hsecond with hsecond | hsecond
      · exact h.single first hfirst second hsecond auditId hof hof'
      · exact absurd hof (hfree second hsecond auditId hof' first hfirst)
    · rcases List.mem_append.mp hsecond with hsecond | hsecond
      · exact absurd hof' (hfree first hfirst auditId hof second hsecond)
      · exact hnew first hfirst second hsecond
  · intro job hjob haudit
    rcases List.mem_append.mp hjob with hjob | hjob
    · obtain ⟨audit, hmem, hid, hdevice, hstatus⟩ := h.named job hjob haudit
      obtain ⟨audit', hmem', hcontinues⟩ := hkept audit hmem
      refine ⟨audit', hmem', ?_, ?_, hcontinues.started hstatus⟩
      · rw [hcontinues.auditId, hid]
      · rw [hcontinues.deviceId, hdevice]
    · exact hnamed job hjob haudit
  · intro run hrun
    obtain ⟨job, hjob, hid, hstatus, hhandles⟩ := h.handled run hrun
    refine ⟨job, List.mem_append_left new hjob, hid, hstatus, ?_⟩
    cases hhandler : run.handler with
    | running auditId organizationId position =>
      rw [hhandler] at hhandles
      obtain ⟨hof, audit, hmem, rfl, rfl⟩ := hhandles
      obtain ⟨audit', hmem', hcontinues⟩ := hkept audit hmem
      exact ⟨hof, audit', hmem', hcontinues.auditId, hcontinues.organizationId⟩
    | entered => rwa [hhandler] at hhandles
    | other => rwa [hhandler] at hhandles
    | done returned => trivial

/-- No handler has been called for a job that is not in the table. -/
theorem handlerOf_fresh (h : Linked w) {jobId : UUID} (hfresh : ∀ job ∈ w.jobs, job.jobId ≠ jobId) :
    handlerOf w.runs jobId = none := by
  rw [handlerOf, Option.map_eq_none_iff]
  cases hfound : Table.find? Run.jobId w.runs jobId with
  | none => rfl
  | some run =>
    obtain ⟨hmem, rfl⟩ := Table.find?_eq_some hfound
    obtain ⟨job, hjob, hid, -⟩ := h.handled run hmem
    exact absurd hid (hfresh job hjob)

/-- No handler has been called for a queued job. -/
theorem handlerOf_queued (h : Linked w) {job : Job} (hjob : job ∈ w.jobs)
    (hqueued : job.status = .queued) : handlerOf w.runs job.jobId = none := by
  rw [handlerOf, Option.map_eq_none_iff]
  cases hfound : Table.find? Run.jobId w.runs job.jobId with
  | none => rfl
  | some run =>
    obtain ⟨hmem, hid⟩ := Table.find?_eq_some hfound
    obtain ⟨other, hother, hotherId, hstatus, -⟩ := h.handled run hmem
    have heq := Table.eq_of_key h.jobs.nodup hother hjob (hotherId.trans hid)
    exact absurd (heq ▸ hqueued) hstatus

theorem jobOf_append {jobs : JobTable} {job : Job} {auditId : UUID} :
    jobOf (jobs ++ [job]) auditId =
      (jobOf jobs auditId).or (jobOf [job] auditId) := by
  rw [jobOf, List.find?_append, jobOf, jobOf]

theorem jobOf_other {job : Job} {auditId : UUID} (h : ¬ IsJobOf auditId job) :
    jobOf [job] auditId = none := by
  rw [jobOf_eq_none]
  intro other hother
  rwa [List.mem_singleton.mp hother]

theorem jobOf_own {job : Job} {auditId : UUID} (h : IsJobOf auditId job) :
    jobOf [job] auditId = some job := by
  simp [jobOf, h.1, h.2]

/-- A new audit, and a new job for it or none, in the other views. -/
theorem view_grown {audits' : List Audit} {job : Job} {auditId : UUID}
    (haudit : Table.find? Audit.auditId audits' auditId = Table.find? Audit.auditId w.audits auditId)
    (hother : ¬ IsJobOf auditId job) :
    view (w.commit audits' (w.jobs ++ [job])) auditId = view w auditId := by
  have hjob : jobOf (w.jobs ++ [job]) auditId = jobOf w.jobs auditId := by
    rw [jobOf_append, jobOf_other hother, Option.or_none]
  simp only [view, World.commit, World.jobs, World.audits] at haudit hjob ⊢
  rw [haudit, hjob]

/-- The view of the audit that a new job is for. -/
theorem view_queued (h : Linked w) {audits' : List Audit} {job : Job} {auditId : UUID}
    (hfree : jobOf w.jobs auditId = none) (hof : IsJobOf auditId job)
    (hfresh : ∀ other ∈ w.jobs, other.jobId ≠ job.jobId) :
    view (w.commit audits' (w.jobs ++ [job])) auditId =
      ⟨Table.find? Audit.auditId audits' auditId, findingsOf w.findings auditId, some job, none⟩ := by
  have hjob : jobOf (w.jobs ++ [job]) auditId = some job := by
    rw [jobOf_append, hfree, Option.none_or, jobOf_own hof]
  have hhandler := handlerOf_fresh h hfresh
  simp only [view, World.commit, World.jobs, World.audits] at hjob hhandler ⊢
  rw [hjob, Option.bind_some, hhandler]

/-- An audit without a job has no handler. -/
theorem view_unemployed {auditId : UUID} (hfree : jobOf w.jobs auditId = none) :
    view w auditId =
      ⟨Table.find? Audit.auditId w.audits auditId, findingsOf w.findings auditId, none, none⟩ := by
  simp [view, hfree]

/-- An audit with a job has the handler of that job. -/
theorem view_employed {auditId : UUID} {job : Job} (hjob : jobOf w.jobs auditId = some job) :
    view w auditId =
      ⟨Table.find? Audit.auditId w.audits auditId, findingsOf w.findings auditId, some job,
        handlerOf w.runs job.jobId⟩ := by
  simp [view, hjob]

/-- An audit that is not in the table, or that is a draft, has no job. -/
theorem unemployed (h : Linked w) {auditId : UUID}
    (hdraft : ∀ audit ∈ w.audits, audit.auditId = auditId → audit.status = .draft) :
    jobOf w.jobs auditId = none := by
  rw [jobOf_eq_none]
  intro job hjob hof
  obtain ⟨audit, hmem, hid, -, hstatus⟩ := h.named job hjob hof.1
  rw [hof.2] at hid
  exact hstatus (hdraft audit hmem (Option.some.inj hid).symm)

/-! ## Creation and submission -/

variable {sha256 : String → String} {user : User} {auditId jobId : UUID} {now : Int}

theorem create_cases {request : AuditCreate} {snapshot : Snapshot} {audits : List Audit}
    {jobs : JobTable} {result : Audit} {db : Database}
    (h : createStatement sha256 db user request auditId (.initialChecked snapshot) =
      .ok (.finish audits jobs result)) :
    jobs = db.store.jobs ∧ audits = db.store.audits ++ [result] ∧ result.status = .draft ∧
      ∀ other ∈ db.store.audits, other.auditId ≠ result.auditId := by
  simp only [createStatement, except_bind_eq_ok, found_eq_ok, pure, Except.pure, Except.ok.injEq,
    Advance.finish.injEq] at h
  obtain ⟨added, hinsert, rfl, rfl, rfl⟩ := h
  obtain ⟨rfl, hfresh, -⟩ := insertAudit?_eq_some hinsert
  exact ⟨rfl, rfl, rfl, hfresh⟩

/-- The row that `enqueue_job` adds. -/
theorem enqueue_cases {jobs jobs' : JobTable} {input : Jobs.EnqueueInput}
    (h : Jobs.enqueueJob jobs input = .ok jobs') :
    ∃ job, jobs' = jobs ++ [job] ∧ (∀ other ∈ jobs, other.jobId ≠ job.jobId) ∧
      job.jobType = input.jobType ∧ job.status = .queued ∧ job.auditId = input.auditId ∧
      job.deviceId = input.deviceId := by
  simp only [Jobs.enqueueJob] at h
  split at h
  · cases h
  split at h
  · rename_i added hinsert
    obtain ⟨rfl, hfresh⟩ := Table.insert?_eq_some hinsert
    exact ⟨_, (Except.ok.inj h).symm, hfresh, rfl, rfl, rfl, rfl⟩
  · cases h

theorem inv_enqueued {jobs jobs' : JobTable} {input : Jobs.EnqueueInput}
    (hinv : Jobs.LeaseProtocol.Inv jobs) (h : Jobs.enqueueJob jobs input = .ok jobs') :
    Jobs.LeaseProtocol.Inv jobs' := by
  have hstep := Jobs.LeaseProtocol.inv_step hinv (.enqueue input)
  rwa [Jobs.LeaseProtocol.step, Jobs.LeaseProtocol.transact, h] at hstep

/-- `start_audit` raises and changes nothing, or it submits a draft and enqueues its job. -/
theorem submit_cases (sha256 : String → String) (s : Store) (user : User) (auditId jobId : UUID)
    (now : Int) :
    (startAudit sha256 s user auditId jobId now).1 = s ∨
      ∃ audit ∈ s.audits, audit.auditId = auditId ∧ audit.status = .draft ∧ ∃ jobs,
        Jobs.enqueueJob s.jobs
          { jobId, jobType := .audit, createdAt := now, auditId := some auditId,
            deviceId := some audit.deviceId } = .ok jobs ∧
        (startAudit sha256 s user auditId jobId now).1.audits =
          Table.modify Audit.auditId s.audits auditId submitted ∧
        (startAudit sha256 s user auditId jobId now).1.jobs = jobs := by
  unfold startAudit
  rcases transact_cases s _ _ with ⟨-, hsame⟩ | ⟨committed, hbody, hcommit⟩
  · exact .inl hsame
  · refine .inr ?_
    rw [hcommit]
    simp only [except_bind_eq_ok, found_eq_ok, require_eq_ok, pure, Except.pure,
      Except.ok.injEq] at hbody
    obtain ⟨audit, haudit, _, hdraft, snapshot, -, _, -, _, -, jobs, hjobs, rfl⟩ := hbody
    obtain ⟨hmem, hid, -⟩ := owned_eq_some haudit
    exact ⟨audit, hmem, hid, by simpa using hdraft, jobs, except_mapError_eq_ok.mp hjobs, rfl, rfl⟩

theorem find?_modified {audits : List Audit} {f : Audit → Audit}
    (hf : ∀ audit, (f audit).auditId = audit.auditId) {other : UUID} :
    Table.find? Audit.auditId (Table.modify Audit.auditId audits auditId f) other =
      if other = auditId then (Table.find? Audit.auditId audits other).map f
      else Table.find? Audit.auditId audits other := by
  split
  next heq =>
    subst heq
    exact Table.find?_modify hf
  next hne => exact Table.find?_modify_other hf hne

/-- Views depend on the audits, the jobs, the findings and the runs. -/
theorem view_congr {w w' : World} (haudits : w'.audits = w.audits) (hjobs : w'.jobs = w.jobs)
    (hfindings : w'.findings = w.findings) (hruns : w'.runs = w.runs) (auditId : UUID) :
    view w' auditId = view w auditId := by
  rw [view, view, haudits, hjobs, hfindings, hruns]

theorem linked_congr {w w' : World} (h : Linked w) (haudits : w'.audits = w.audits)
    (hjobs : w'.jobs = w.jobs) (hruns : w'.runs = w.runs) : Linked w' := by
  refine ⟨?_, ?_, ?_, ?_, ?_, ?_⟩
  · rw [haudits]
    exact h.audits
  · rw [hjobs]
    exact h.jobs
  · rw [hruns]
    exact h.runs
  · rw [hjobs]
    exact h.single
  · rw [hjobs, haudits]
    exact h.named
  · rw [hruns, hjobs, haudits]
    exact h.handled

theorem stepped_congr {w w' w'' : World} (h : Stepped event w w') (haudits : w''.audits = w'.audits)
    (hjobs : w''.jobs = w'.jobs) (hfindings : w''.findings = w'.findings)
    (hruns : w''.runs = w'.runs) : Stepped event w w'' := by
  refine ⟨linked_congr h.linked haudits hjobs hruns, fun auditId => ?_⟩
  rw [view_congr haudits hjobs hfindings hruns]
  exact h.moves auditId

theorem stepped_create (h : Linked w) {audit : Audit} (hdraft : audit.status = .draft)
    (hfresh : ∀ other ∈ w.audits, other.auditId ≠ audit.auditId) :
    Stepped event w (w.commit (w.audits ++ [audit]) w.jobs) := by
  have hlinked : Linked (w.commit (w.audits ++ [audit]) (w.jobs ++ [])) := by
    refine linked_grown h (Table.append_nodup h.audits hfresh) ?_ ?_ (by simp) (by simp) (by simp)
    · rw [List.append_nil]
      exact h.jobs
    · exact fun old hold => ⟨old, List.mem_append_left _ hold, .refl old⟩
  rw [List.append_nil] at hlinked
  refine ⟨hlinked, fun auditId => ?_⟩
  by_cases hid : audit.auditId = auditId
  · subst hid
    have hfree : jobOf w.jobs audit.auditId = none :=
      unemployed h fun other hother hid => absurd hid (hfresh other hother)
    have hnone : Table.find? Audit.auditId w.audits audit.auditId = none := by
      simpa [Table.find?] using hfresh
    have hview : view (w.commit (w.audits ++ [audit]) w.jobs) audit.auditId =
        ⟨some audit, findingsOf w.findings audit.auditId, none, none⟩ := by
      rw [← Table.find?_fresh hfresh]
      exact view_unemployed hfree
    rw [view_unemployed hfree, hnone, hview]
    exact .created hdraft
  · have hsame : view (w.commit (w.audits ++ [audit]) w.jobs) auditId = view w auditId := by
      simp only [view, World.commit, World.audits, World.jobs]
      rw [Table.find?_append, if_neg hid, Option.or_none]
    rw [hsame]
    exact .still _ _

theorem stepped_submit (h : Linked w) {audit : Audit} (hmem : audit ∈ w.audits)
    (hdraft : audit.status = .draft) {jobs : JobTable}
    (henqueue : Jobs.enqueueJob w.jobs
      { jobId, jobType := .audit, createdAt := now, auditId := some audit.auditId,
        deviceId := some audit.deviceId } = .ok jobs) :
    Stepped event w
      (w.commit (Table.modify Audit.auditId w.audits audit.auditId submitted) jobs) := by
  obtain ⟨job, rfl, hfresh, htype, hqueued, haudit, hdevice⟩ := enqueue_cases henqueue
  have hids : ∀ old : Audit, (submitted old).auditId = old.auditId := fun _ => rfl
  have hof : IsJobOf audit.auditId job := ⟨by simp [isAuditJob, htype], haudit⟩
  have honly : ∀ other ∈ w.audits, other.auditId = audit.auditId → other = audit :=
    fun other hother hid => Table.eq_of_key h.audits hother hmem hid
  have hfree : jobOf w.jobs audit.auditId = none := by
    refine unemployed h fun other hother hid => ?_
    rw [honly other hother hid]
    exact hdraft
  have hfound : Table.find? Audit.auditId w.audits audit.auditId = some audit :=
    Table.find?_of_mem h.audits hmem
  constructor
  · refine linked_grown h ?_ (inv_enqueued h.jobs henqueue) ?_ (by simp) ?_ ?_
    · rw [Table.modify_keys hids]
      exact h.audits
    · intro old hold
      refine ⟨_, Table.mem_modify.mpr ⟨old, hold, rfl⟩, ?_⟩
      split
      · exact ⟨rfl, rfl, rfl, fun _ => by simp [submitted]⟩
      · exact .refl old
    · intro new hnew auditId hofNew
      rw [List.mem_singleton.mp hnew, IsJobOf, haudit] at hofNew
      obtain rfl := Option.some.inj hofNew.2
      exact jobOf_eq_none.mp hfree
    · intro new hnew _
      rw [List.mem_singleton.mp hnew]
      refine ⟨submitted audit, Table.mem_modify.mpr ⟨audit, hmem, ?_⟩, haudit, hdevice, ?_⟩
      · rw [if_pos rfl]
      · simp [submitted]
  · intro auditId
    by_cases hid : auditId = audit.auditId
    · subst hid
      rw [view_queued h hfree hof hfresh, find?_modified hids, if_pos rfl, hfound,
        view_unemployed hfree, hfound]
      exact .submitted hdraft hqueued
    · rw [view_grown (by rw [find?_modified hids, if_neg hid])]
      · exact .still _ _
      · intro hother
        rw [IsJobOf, haudit] at hother
        exact hid (Option.some.inj hother.2).symm

theorem stepped_reevaluate (h : Linked w) {audit : Audit} (hstatus : audit.status = .queued)
    (hnew : ∀ other ∈ w.audits, other.auditId ≠ audit.auditId) {input : Jobs.EnqueueInput}
    (htype : input.jobType = .reEvaluation) (hauditId : input.auditId = some audit.auditId)
    (hdeviceId : input.deviceId = some audit.deviceId) {jobs : JobTable}
    (henqueue : Jobs.enqueueJob w.jobs input = .ok jobs) :
    Stepped event w (w.commit (w.audits ++ [audit]) jobs) := by
  obtain ⟨job, rfl, hfresh, hjobType, hqueued, haudit, hdevice⟩ := enqueue_cases henqueue
  rw [htype] at hjobType
  rw [hauditId] at haudit
  rw [hdeviceId] at hdevice
  have hof : IsJobOf audit.auditId job := ⟨by simp [isAuditJob, hjobType], haudit⟩
  have hfree : jobOf w.jobs audit.auditId = none :=
    unemployed h fun other hother hid => absurd hid (hnew other hother)
  have hnone : Table.find? Audit.auditId w.audits audit.auditId = none := by
    simpa [Table.find?] using hnew
  constructor
  · refine linked_grown h (Table.append_nodup h.audits hnew) (inv_enqueued h.jobs henqueue) ?_
      (by simp) ?_ ?_
    · exact fun old hold => ⟨old, List.mem_append_left _ hold, .refl old⟩
    · intro new hnewJob auditId hofNew
      rw [List.mem_singleton.mp hnewJob, IsJobOf, haudit] at hofNew
      obtain rfl := Option.some.inj hofNew.2
      exact jobOf_eq_none.mp hfree
    · intro new hnewJob _
      rw [List.mem_singleton.mp hnewJob]
      exact ⟨audit, List.mem_append_right _ (List.mem_singleton_self audit), haudit, hdevice,
        by simp [hstatus]⟩
  · intro auditId
    by_cases hid : audit.auditId = auditId
    · subst hid
      rw [view_queued h hfree hof hfresh, Table.find?_fresh hnew, view_unemployed hfree, hnone]
      exact .reevaluated hstatus hqueued
    · rw [view_grown (by rw [Table.find?_append, if_neg hid, Option.or_none])]
      · exact .still _ _
      · intro hother
        rw [IsJobOf, haudit] at hother
        exact hid (Option.some.inj hother.2)

/-- A job that processes no audit shows in no view. -/
theorem stepped_enqueue (h : Linked w) {input : Jobs.EnqueueInput}
    (htype : ¬ (input.jobType = .audit ∨ input.jobType = .reEvaluation)) :
    Stepped event w (w.commit w.audits (Jobs.LeaseProtocol.step w.jobs (.enqueue input))) := by
  unfold Jobs.LeaseProtocol.step
  split
  case h_2 => exact stepped_congr (stepped_still h event) rfl rfl rfl rfl
  case h_1 jobs henqueue =>
    have henqueue : Jobs.enqueueJob w.jobs input = .ok jobs := henqueue
    have hinv := inv_enqueued h.jobs henqueue
    obtain ⟨job, rfl, -, hjobType, -⟩ := enqueue_cases henqueue
    have hother : isAuditJob job = false := by
      simpa [isAuditJob, hjobType] using htype
    constructor
    · refine linked_grown h h.audits hinv (fun old hold => ⟨old, hold, .refl old⟩) (by simp) ?_ ?_
      · intro new hnew auditId hof
        rw [List.mem_singleton.mp hnew, IsJobOf, hother] at hof
        exact absurd hof.1 (by simp)
      · intro new hnew haudit
        rw [List.mem_singleton.mp hnew, hother] at haudit
        cases haudit
    · intro auditId
      rw [view_grown rfl]
      · exact .still _ _
      · intro hof
        rw [IsJobOf, hother] at hof
        exact absurd hof.1 (by simp)

/-! ## Leases -/

/-- What `claim_next_job` does to the row it locks. -/
theorem claim_cases {jobs jobs' : JobTable} {allowed : Option (List Jobs.JobType)}
    {locked : List UUID} {leaseOwner : String} {leaseSeconds : PyFloat} {job : Job}
    (hnext : nextJob jobs allowed locked = some job)
    (h : Jobs.claimNextJob jobs allowed leaseOwner leaseSeconds now locked = .ok jobs') :
    job ∈ jobs ∧ job.status = .queued ∧ ∃ owner lease,
      jobs' = Table.modify Job.jobId jobs job.jobId (claimed · owner now lease) := by
  unfold nextJob at hnext
  split at hnext
  · cases hnext
  rename_i hsome
  have hmem := List.mem_of_mem_head? hnext
  simp only [mem_sortedBy, List.mem_filter, Jobs.isQueued, Bool.and_eq_true, beq_iff_eq] at hmem
  simp only [Jobs.claimNextJob, if_neg hsome, hnext, except_bind_eq_ok, except_pure_eq_ok] at h
  obtain ⟨owner, -, lease, -, rfl⟩ := h
  exact ⟨hmem.1, hmem.2.1.1, owner, lease, rfl⟩

theorem stepped_claim (h : Linked w) {allowed : Option (List Jobs.JobType)} {locked : List UUID}
    {leaseOwner : String} {leaseSeconds : PyFloat} {job : Job} {jobs' : JobTable}
    (hnext : nextJob w.jobs allowed locked = some job)
    (hclaim : Jobs.claimNextJob w.jobs allowed leaseOwner leaseSeconds now locked = .ok jobs') :
    Stepped event w { w.commit w.audits jobs' with
      runs := w.runs ++ [{ jobId := job.jobId, leaseOwner, handler := .of job }] } := by
  have hinv : Jobs.LeaseProtocol.Inv jobs' := by
    have hstep := Jobs.LeaseProtocol.inv_step h.jobs
      (.claim allowed leaseOwner leaseSeconds now locked)
    rwa [Jobs.LeaseProtocol.step, Jobs.LeaseProtocol.transact, hclaim] at hstep
  obtain ⟨hmem, hqueued, owner, lease, rfl⟩ := claim_cases hnext hclaim
  -- each row is claimed when it is this one, and kept otherwise
  set R : Job → Job → Prop := fun old new =>
    new = if old.jobId = job.jobId then claimed old owner now lease else old with hR
  have hrows : Updated R w.jobs
      (Table.modify Job.jobId w.jobs job.jobId (claimed · owner now lease)) :=
    updated_map fun old _ => rfl
  have hsame : ∀ old new, R old new → Same old new := by
    intro old new hr
    rw [hr]
    split
    · exact ⟨rfl, rfl, rfl, rfl, fun _ => by simp [claimed]⟩
    · exact ⟨rfl, rfl, rfl, rfl, id⟩
  have hlinked := linked_updated h hrows hsame hinv
  have hidle := handlerOf_queued h hmem hqueued
  have hfree : ∀ run ∈ w.runs, run.jobId ≠ job.jobId := by
    simpa [handlerOf, Table.find?] using hidle
  constructor
  · refine ⟨hlinked.audits, hlinked.jobs, Table.append_nodup h.runs hfree, hlinked.single,
      hlinked.named, fun run hrun => ?_⟩
    rcases List.mem_append.mp hrun with hold | hnew
    · exact hlinked.handled run hold
    · rw [List.mem_singleton.mp hnew]
      refine ⟨claimed job owner now lease, Table.mem_modify.mpr ⟨job, hmem, by rw [if_pos rfl]⟩,
        rfl, by simp [claimed], ?_⟩
      cases haudit : isAuditJob job with
      | true =>
        rw [Handler.of, haudit]
        exact haudit
      | false =>
        rw [Handler.of, haudit]
        exact haudit
  · intro auditId
    have hrun : ∀ old, handlerOf (w.runs ++ [{ jobId := job.jobId, leaseOwner, handler := .of job }])
        old = (handlerOf w.runs old).or (if job.jobId = old then some (.of job) else none) := by
      intro old
      simp only [handlerOf, Table.find?_append]
      cases Table.find? Run.jobId w.runs old with
      | some run => rfl
      | none =>
        by_cases hid : job.jobId = old
        · rw [if_pos hid, if_pos hid]
          rfl
        · rw [if_neg hid, if_neg hid]
          rfl
    cases hjob : jobOf w.jobs auditId with
    | none =>
      have hnone : jobOf (Table.modify Job.jobId w.jobs job.jobId (claimed · owner now lease))
          auditId = none := by
        rw [jobOf_eq_none]
        intro new hnew hof
        obtain ⟨old, hold, hr⟩ := hrows.origin new hnew
        exact jobOf_eq_none.mp hjob old hold ((hsame _ _ hr).isJobOf.mp hof)
      rw [view_unemployed hjob]
      exact Eq.mpr (congrArg _ (view_unemployed hnone)) (.still _ _)
    | some old =>
      obtain ⟨hold, hof⟩ := mem_of_jobOf hjob
      obtain ⟨new, hnew, hr⟩ := hrows.kept old hold
      have hsome := hlinked.jobOf hnew ((hsame _ _ hr).isJobOf.mpr hof)
      rw [view_employed hjob]
      refine Eq.mpr (congrArg _ (view_employed hsome)) ?_
      rw [(hsame _ _ hr).jobId]
      show Move event _ ⟨Table.find? Audit.auditId w.audits auditId,
        findingsOf w.findings auditId, some new, handlerOf (w.runs ++ _) old.jobId⟩
      rw [hrun]
      by_cases hid : old.jobId = job.jobId
      · obtain rfl := Table.eq_of_key h.jobs.nodup hold hmem hid
        rw [hR, if_pos rfl] at hr
        rw [hidle, Option.none_or, if_pos rfl, hr, Handler.of, if_pos hof.1]
        exact .claimed hqueued
      · rw [hR, if_neg hid] at hr
        rw [if_neg (Ne.symm hid), Option.or_none, hr]
        exact .still _ _

/-- A transaction on the jobs that enqueues none, in each view. -/
theorem stepped_jobs (h : Linked w) {jobEvent : Jobs.LeaseProtocol.Event}
    (hkind : ∀ input, jobEvent ≠ .enqueue input)
    (hmove : ∀ {job job' : Job} {audit findings handler}, RowStep jobEvent job job' →
      Move event ⟨audit, findings, some job, handler⟩ ⟨audit, findings, some job', handler⟩) :
    Stepped event w (w.commit w.audits (Jobs.LeaseProtocol.step w.jobs jobEvent)) := by
  have hrows := updated_step h.jobs.nodup hkind
  have hsame : ∀ job job', RowStep jobEvent job job' → Same job job' :=
    fun job job' hrow => same_of_rowStep hrow
  have hlinked := linked_updated h hrows hsame (Jobs.LeaseProtocol.inv_step h.jobs jobEvent)
  refine ⟨hlinked, fun auditId => ?_⟩
  rcases view_updated hrows hsame hlinked auditId with
    ⟨-, hview⟩ | ⟨job, job', hjob, -, hrow, hview⟩
  · rw [hview]
    exact .still _ _
  · rw [hview]
    have hv := view_employed hjob
    rw [hv]
    exact hmove hrow

/-! ## Handlers -/

theorem handlerOf_move {runs : List Run} {jobId other : UUID} {handler : Handler} :
    handlerOf (Table.modify Run.jobId runs jobId fun run => { run with handler }) other =
      if other = jobId then (handlerOf runs other).map fun _ => handler
      else handlerOf runs other := by
  have hids : ∀ run : Run, Run.jobId { run with handler } = run.jobId := fun _ => rfl
  unfold handlerOf
  split
  next heq =>
    subst heq
    rw [Table.find?_modify hids, Option.map_map, Option.map_map]
    rfl
  next hne =>
    rw [Table.find?_modify_other hids hne]

theorem handlerOf_drop {runs : List Run} {jobId other : UUID} :
    handlerOf (runs.filter (·.jobId ≠ jobId)) other =
      if other = jobId then none else handlerOf runs other := by
  unfold handlerOf
  rw [Table.find?_erase]
  split <;> rfl

theorem handlerOf_mem (h : Linked w) {run : Run} (hrun : run ∈ w.runs) :
    handlerOf w.runs run.jobId = some run.handler := by
  rw [handlerOf, Table.find?_of_mem h.runs hrun, Option.map_some]

theorem linked_drop (h : Linked w) (jobId : UUID) : Linked (w.drop jobId) := by
  refine ⟨h.audits, h.jobs, ?_, h.single, h.named, fun run hrun => ?_⟩
  · exact h.runs.sublist (List.filter_sublist.map _)
  · exact h.handled run (List.mem_of_mem_filter hrun)

/-- The view without a run: only the handler of its job is gone. -/
theorem view_drop (jobId auditId : UUID) :
    view (w.drop jobId) auditId =
      { view w auditId with handler := (jobOf w.jobs auditId).bind fun job =>
          if job.jobId = jobId then none else handlerOf w.runs job.jobId } := by
  have hhandler : ∀ other, handlerOf (w.drop jobId).runs other =
      if other = jobId then none else handlerOf w.runs other := fun _ => handlerOf_drop
  simp only [view, hhandler]
  rfl

theorem stepped_crash (h : Linked w) (jobId : UUID) : Stepped (.crash jobId) w (w.drop jobId) := by
  refine ⟨linked_drop h jobId, fun auditId => ?_⟩
  rw [view_drop]
  cases hjob : jobOf w.jobs auditId with
  | none =>
    rw [view_unemployed hjob]
    exact .still _ _
  | some job =>
    rw [view_employed hjob, Option.bind_some]
    by_cases hid : job.jobId = jobId
    · rw [if_pos hid, ← hid]
      exact .crashed
    · rw [if_neg hid]
      exact .still _ _

/-- A terminal update goes to the job of the run. -/
theorem settlement_row {run : Run} {returned : Bool} {now later : Int} {job job' : Job}
    (h : RowStep (settlement run returned now later) job job')
    (hvalid : Jobs.LeaseProtocol.Job.Valid job) : job' = job ∨ job.jobId = run.jobId := by
  refine (h.changedBy hvalid).imp_right fun hchanged => ?_
  cases returned with
  | true => exact hchanged.1.symm
  | false => exact hchanged.1.symm

/-- The worker of a handler that has ended updates the job and goes on to another one. -/
theorem stepped_settle (h : Linked w) {run : Run} (hrun : run ∈ w.runs) {returned : Bool}
    (hresult : run.handler.result = some returned) (now later : Int) :
    Stepped (.settle run.jobId now later) w
      ((w.commit w.audits (Jobs.LeaseProtocol.step w.jobs
        (settlement run returned now later))).drop run.jobId) := by
  have hkind : ∀ input, settlement run returned now later ≠ .enqueue input := by
    intro input
    unfold settlement
    split <;> simp
  have hrows := updated_step h.jobs.nodup hkind
  have hsame : ∀ job job', RowStep (settlement run returned now later) job job' → Same job job' :=
    fun job job' hrow => same_of_rowStep hrow
  have hlinked := linked_updated h hrows hsame (Jobs.LeaseProtocol.inv_step h.jobs _)
  refine ⟨linked_drop hlinked run.jobId, fun auditId => ?_⟩
  rw [view_drop]
  rcases view_updated hrows hsame hlinked auditId with
    ⟨hnone, hview⟩ | ⟨job, job', hjob, hmem, hrow, hview⟩
  · have hfree : jobOf (w.commit w.audits (Jobs.LeaseProtocol.step w.jobs
        (settlement run returned now later))).jobs auditId = none :=
      (congrArg View.job hview).trans hnone
    rw [hview, hfree, view_unemployed hnone]
    exact .still _ _
  · have hnow : jobOf (w.commit w.audits (Jobs.LeaseProtocol.step w.jobs
        (settlement run returned now later))).jobs auditId = some job' := congrArg View.job hview
    rw [hview, hnow, view_employed hjob, Option.bind_some, (hsame _ _ hrow).jobId]
    by_cases hid : job.jobId = run.jobId
    · rw [if_pos hid, hid, handlerOf_mem h hrun]
      exact .settled hresult hid hrow
    · obtain rfl := (settlement_row hrow (h.jobs.valid job hmem)).resolve_right hid
      rw [if_neg hid]
      exact .still _ _

theorem linked_move (h : Linked w) {run : Run} {handler : Handler}
    (hhandles : ∀ job ∈ w.jobs, job.jobId = run.jobId → job.status ≠ .queued →
      Handles w.audits job handler) : Linked (w.move run.jobId handler) := by
  refine ⟨h.audits, h.jobs, ?_, h.single, h.named, ?_⟩
  · have hids : ∀ old : Run, Run.jobId { old with handler } = old.jobId := fun _ => rfl
    simp only [World.move]
    rw [Table.modify_keys hids]
    exact h.runs
  · intro run' hrun'
    obtain ⟨old, hold, rfl⟩ := Table.mem_modify.mp hrun'
    obtain ⟨job, hjob, hid, hstatus, hold⟩ := h.handled old hold
    split
    next heq => exact ⟨job, hjob, hid, hstatus, hhandles job hjob (hid.trans heq) hstatus⟩
    next => exact ⟨job, hjob, hid, hstatus, hold⟩

/-- The view with a handler at another point. -/
theorem view_move (jobId auditId : UUID) (handler : Handler) :
    view (w.move jobId handler) auditId =
      ⟨Table.find? Audit.auditId w.audits auditId, findingsOf w.findings auditId,
        jobOf w.jobs auditId, (jobOf w.jobs auditId).bind fun job =>
          if job.jobId = jobId then (handlerOf w.runs job.jobId).map fun _ => handler
          else handlerOf w.runs job.jobId⟩ := by
  have hhandler : ∀ other, handlerOf (w.move jobId handler).runs other =
      if other = jobId then (handlerOf w.runs other).map (fun _ => handler)
      else handlerOf w.runs other := fun _ => handlerOf_move
  simp only [view, hhandler]
  rfl

/-- The handler of a run goes on and the tables stay. -/
theorem stepped_move (h : Linked w) {run : Run} (hrun : run ∈ w.runs) {handler : Handler}
    (hhandles : ∀ job ∈ w.jobs, job.jobId = run.jobId → job.status ≠ .queued →
      Handles w.audits job handler)
    (hmove : ∀ auditId job, jobOf w.jobs auditId = some job → job.jobId = run.jobId →
      Move event ⟨Table.find? Audit.auditId w.audits auditId, findingsOf w.findings auditId,
          some job, some run.handler⟩
        ⟨Table.find? Audit.auditId w.audits auditId, findingsOf w.findings auditId, some job,
          some handler⟩) :
    Stepped event w (w.move run.jobId handler) := by
  refine ⟨linked_move h hhandles, fun auditId => ?_⟩
  rw [view_move]
  cases hjob : jobOf w.jobs auditId with
  | none =>
    rw [view_unemployed hjob]
    exact .still _ _
  | some job =>
    rw [view_employed hjob, Option.bind_some]
    by_cases hid : job.jobId = run.jobId
    · rw [if_pos hid, hid, handlerOf_mem h hrun]
      exact hmove auditId job hjob hid
    · rw [if_neg hid]
      exact .still _ _

/-- The audit of a job that processes one. -/
theorem audit_of_job (h : Linked w) {job : Job} (hjob : job ∈ w.jobs)
    (haudit : isAuditJob job = true) :
    ∃ audit ∈ w.audits, IsJobOf audit.auditId job ∧ job.deviceId = some audit.deviceId ∧
      audit.status ≠ .draft := by
  obtain ⟨audit, hmem, hid, hdevice, hstatus⟩ := h.named job hjob haudit
  exact ⟨audit, hmem, ⟨haudit, hid⟩, hdevice, hstatus⟩

/-- A handler that has been called finds its job and its audit. -/
theorem enter_eq (h : Linked w) {job : Job} (hjob : job ∈ w.jobs) {audit : Audit}
    (haudit : audit ∈ w.audits) (hof : IsJobOf audit.auditId job)
    (hdevice : job.deviceId = some audit.deviceId) (computed : Computed) :
    enter w.jobs w.audits job.jobId = entry audit (.proceeds computed) := by
  rw [enter, Table.find?_of_mem h.jobs.nodup hjob]
  simp only [hof.1, hof.2, Table.find?_of_mem h.audits haudit, hdevice, ne_eq, not_true,
    if_false, entry]

theorem stepped_entered (h : Linked w) {run : Run} (hrun : run ∈ w.runs)
    (hentered : run.handler = .entered) (outcome : Outcome) :
    Stepped (.advance run.jobId outcome) w (w.advance run outcome) := by
  obtain ⟨job, hjob, hid, hstatus, hhandles⟩ := h.handled run hrun
  rw [hentered] at hhandles
  obtain ⟨audit, haudit, hof, hdevice, -⟩ := audit_of_job h hjob hhandles
  have hnext : w.advance run outcome = w.move run.jobId (entry audit outcome) := by
    unfold World.advance
    rw [hentered]
    cases outcome with
    | proceeds computed =>
      rw [← enter_eq h hjob haudit hof hdevice computed, hid]
    | declared => rfl
    | undeclared => rfl
  rw [hnext]
  apply stepped_move h hrun
  · intro other hother hotherId _
    obtain rfl := Table.eq_of_key h.jobs.nodup hother hjob (hotherId.trans hid.symm)
    cases outcome with
    | proceeds computed =>
      rw [entry]
      split
      · trivial
      · exact ⟨hof, audit, haudit, rfl, rfl⟩
    | declared => trivial
    | undeclared => trivial
  · intro auditId other hother hotherId
    obtain ⟨hmem, hofOther⟩ := mem_of_jobOf hother
    obtain rfl := Table.eq_of_key h.jobs.nodup hmem hjob (hotherId.trans hid.symm)
    rw [IsJobOf, hof.2] at hofOther
    obtain rfl := Option.some.inj hofOther.2
    rw [Table.find?_of_mem h.audits haudit, hentered, ← hid]
    exact .entered outcome

/-- No audit shows the handler of another job. -/
theorem stepped_other (h : Linked w) {run : Run} (hrun : run ∈ w.runs)
    (hother : run.handler = .other) (returned : Bool) :
    Stepped event w (w.move run.jobId (.done returned)) := by
  obtain ⟨job, hjob, hid, -, hhandles⟩ := h.handled run hrun
  rw [hother] at hhandles
  apply stepped_move h hrun
  · intro _ _ _ _
    trivial
  · intro auditId found hfound hfoundId
    obtain ⟨hmem, hof⟩ := mem_of_jobOf hfound
    obtain rfl := Table.eq_of_key h.jobs.nodup hmem hjob (hfoundId.trans hid.symm)
    have hfalse : isAuditJob found = false := hhandles
    rw [hof.1] at hfalse
    cases hfalse

/-! ## The pipeline of an audit -/

theorem findingsOf_put {findings own : List Finding} {auditId other : UUID}
    (hown : ∀ finding ∈ own, finding.auditId = auditId) :
    findingsOf (findings.filter (·.auditId != auditId) ++ own) other =
      if other = auditId then own else findingsOf findings other := by
  rw [findingsOf, List.filter_append, List.filter_filter]
  split
  next heq =>
    subst heq
    rw [List.filter_eq_nil_iff.mpr, List.nil_append, List.filter_eq_self]
    · intro finding hfinding
      simpa using hown finding hfinding
    · simp
  next hne =>
    have hnone : own.filter (·.auditId == other) = [] := by
      rw [List.filter_eq_nil_iff]
      intro finding hfinding
      rw [hown finding hfinding]
      simpa using Ne.symm hne
    rw [hnone, List.append_nil, findingsOf]
    refine List.filter_congr fun finding _ => ?_
    by_cases hother : finding.auditId = other
    · simp [hother, hne]
    · simp [hother]

theorem linked_put (h : Linked w) {audit : Audit} (hmem : audit ∈ w.audits) {record : Record}
    (hcontinues : Continues audit record.audit) : Linked (w.put record) := by
  have hgrown : Linked (w.commit (Table.modify Audit.auditId w.audits record.audit.auditId
      fun _ => record.audit) (w.jobs ++ [])) := by
    refine linked_grown h ?_ ?_ ?_ (by simp) (by simp) (by simp)
    · rw [Table.replace_keys rfl]
      exact h.audits
    · rw [List.append_nil]
      exact h.jobs
    · intro old hold
      refine ⟨_, Table.mem_modify.mpr ⟨old, hold, rfl⟩, ?_⟩
      split
      next heq =>
        obtain rfl := Table.eq_of_key h.audits hold hmem (heq.trans hcontinues.auditId)
        exact hcontinues
      next => exact .refl old
  exact linked_congr hgrown rfl (List.append_nil w.jobs).symm rfl

theorem stepped_running (h : Linked w) {run : Run} (hrun : run ∈ w.runs)
    {auditId organizationId : UUID} {position : Position}
    (hrunning : run.handler = .running auditId organizationId position) (outcome : Outcome) :
    Stepped (.advance run.jobId outcome) w (w.advance run outcome) := by
  obtain ⟨job, hjob, hid, hstatus, hhandles⟩ := h.handled run hrun
  rw [hrunning] at hhandles
  obtain ⟨hof, audit, haudit, rfl, rfl⟩ := hhandles
  set record : Record := { audit, findings := findingsOf w.findings audit.auditId } with hrecord
  have hown : record.Own := fun finding hfinding => by
    simpa using (List.mem_filter.mp hfinding).2
  cases hadvance : Coordinator.advance record position outcome with
  | mk record' position' =>
  have hkept := advance_kept hadvance
  have hown' := hkept.own hown
  have hid' : record'.audit.auditId = audit.auditId := hkept.continues.auditId
  have hnext : w.advance run outcome = (w.put record').move run.jobId
      (.running audit.auditId audit.organizationId position') := by
    unfold World.advance
    rw [hrunning]
    simp only [owned_of_mem h.audits haudit]
    rw [← hrecord, hadvance]
  rw [hnext]
  have hput := linked_put h haudit hkept.continues
  have hrows : jobOf w.jobs audit.auditId = some job := h.jobOf hjob hof
  constructor
  · refine linked_move hput fun other hother hotherId _ => ?_
    obtain rfl := Table.eq_of_key h.jobs.nodup hother hjob (hotherId.trans hid.symm)
    refine ⟨hof, record'.audit, Table.mem_modify.mpr ⟨audit, haudit, ?_⟩, hid',
      hkept.continues.organizationId⟩
    rw [if_pos hid'.symm]
  · intro other
    have haudits : Table.find? Audit.auditId (w.put record').audits other = _ :=
      Table.find?_replace rfl
    have hfindings : findingsOf (w.put record').findings other = _ := findingsOf_put hown'
    rw [view_move, haudits, hfindings, hid']
    show Move _ _ ⟨_, _, jobOf w.jobs other, (jobOf w.jobs other).bind fun job =>
      if job.jobId = run.jobId then (handlerOf w.runs job.jobId).map fun _ => _
      else handlerOf w.runs job.jobId⟩
    by_cases hother : other = audit.auditId
    · subst hother
      rw [if_pos rfl, if_pos rfl, view_employed hrows, hrows, Option.bind_some, if_pos hid, hid,
        handlerOf_mem h hrun, Table.find?_of_mem h.audits haudit, hrunning, ← hid]
      exact .advanced outcome hadvance
    · rw [if_neg hother, if_neg hother]
      cases hjobOther : jobOf w.jobs other with
      | none =>
        rw [view_unemployed hjobOther]
        exact .still _ _
      | some found =>
        obtain ⟨hmem, hofOther⟩ := mem_of_jobOf hjobOther
        have hne : found.jobId ≠ run.jobId := by
          intro heq
          obtain rfl := Table.eq_of_key h.jobs.nodup hmem hjob (heq.trans hid.symm)
          rw [IsJobOf, hof.2] at hofOther
          exact hother (Option.some.inj hofOther.2).symm
        rw [view_employed hjobOther, Option.bind_some, if_neg hne]
        exact .still _ _

end Events

/-! ## Every event -/

theorem stepped_advance {w : World} (h : Linked w) {run : Run} (hrun : run ∈ w.runs)
    (outcome : Outcome) : Stepped (.advance run.jobId outcome) w (w.advance run outcome) := by
  cases hhandler : run.handler with
  | entered => exact stepped_entered h hrun hhandler outcome
  | running auditId organizationId position => exact stepped_running h hrun hhandler outcome
  | other =>
    unfold World.advance
    rw [hhandler]
    cases outcome with
    | proceeds computed => exact stepped_other h hrun hhandler true
    | declared => exact stepped_other h hrun hhandler false
    | undeclared => exact stepped_other h hrun hhandler false
  | done returned =>
    unfold World.advance
    rw [hhandler]
    exact stepped_still h _

/-- Whatever happens, the tables stay linked and every audit makes one move or none. -/
theorem stepped_step (sha256 : String → String) {w : World} (h : Linked w) (event : Event) :
    Stepped event w (step sha256 w event) := by
  cases event with
  | create user request snapshot auditId =>
    simp only [step]
    split
    next audits jobs result hfinish =>
      obtain ⟨rfl, rfl, hdraft, hfresh⟩ := create_cases hfinish
      exact stepped_create h hdraft hfresh
    next => exact stepped_still h _
  | submit user auditId jobId now =>
    rcases submit_cases sha256 w.db.store user auditId jobId now with
      hsame | ⟨audit, hmem, rfl, hdraft, jobs, henqueue, haudits, hjobs⟩
    · refine stepped_congr (stepped_still h _) ?_ ?_ rfl rfl
      · simp only [step, World.audits, hsame]
      · simp only [step, World.jobs, hsame]
    · exact stepped_congr (stepped_submit h hmem hdraft henqueue) haudits hjobs rfl rfl
  | reevaluate request latest auditId jobId now =>
    simp only [step]
    split
    next => exact stepped_still h _
    next source hsource =>
      split
      next =>
        split
        next audits jobs result hfinish =>
          simp only [Reevaluation.Service.startStatement, except_bind_eq_ok, found_eq_ok, pure,
            Except.pure, Except.ok.injEq, Advance.finish.injEq] at hfinish
          obtain ⟨added, hinsert, queued, hjobs, rfl, rfl, rfl⟩ := hfinish
          obtain ⟨rfl, hfresh, -⟩ := insertAudit?_eq_some hinsert
          exact stepped_reevaluate h rfl hfresh rfl rfl rfl (except_mapError_eq_ok.mp hjobs)
        next => exact stepped_still h _
      next => exact stepped_still h _
  | elsewhere db => exact stepped_congr (stepped_still h _) rfl rfl rfl rfl
  | enqueue input =>
    simp only [step]
    split
    next => exact stepped_still h _
    next htype => exact stepped_enqueue h htype
  | claim allowed leaseOwner leaseSeconds now locked =>
    simp only [step]
    split
    next job jobs hnext hclaim => exact stepped_claim h hnext hclaim
    next => exact stepped_still h _
  | heartbeat jobId leaseSeconds now =>
    simp only [step]
    split
    next run hrun => exact stepped_jobs h (fun input => by simp) fun hrow => .renewed hrow
    next => exact stepped_still h _
  | recover limit now locked =>
    exact stepped_jobs h (fun input => by simp) fun hrow => .recovered hrow
  | advance jobId outcome =>
    simp only [step]
    split
    next run hfound =>
      obtain ⟨hrun, rfl⟩ := Table.find?_eq_some hfound
      exact stepped_advance h hrun outcome
    next => exact stepped_still h _
  | settle jobId now later =>
    simp only [step]
    split
    next run hfound =>
      obtain ⟨hrun, rfl⟩ := Table.find?_eq_some hfound
      split
      next returned hresult => exact stepped_settle h hrun hresult now later
      next => exact stepped_still h _
    next => exact stepped_still h _
  | crash jobId => exact stepped_crash h jobId

end ConfigAuditor.Audits.Moves
