import ConfigAuditor.Audits.Lifecycle

/-!
# Audits that no worker finishes

A submitted audit is finished by the one handler of its one job. What loses an audit is a
worker that is lost in the middle, a lease that runs out, an exception that the handler does not
name, or a failure of the first checkpoint or of `mark_failed`; nothing brings it back.
-/
namespace ConfigAuditor.Audits.Stranded

open Library Processing Coordinator Workers Views Moves Lifecycle
open Jobs (Job)
open Jobs.LeaseProtocol (RowStep)

/-- The audit is submitted and has not ended, its job is not in the queue and no handler runs
for it. -/
structure Lost (w : World) (audit : Audit) : Prop where
  mem : audit ∈ w.audits
  unfinished : Unfinished audit
  job : ∃ job ∈ w.jobs, IsJobOf audit.auditId job ∧ job.status ≠ .queued ∧
    ∀ run ∈ w.runs, run.jobId ≠ job.jobId

/-- The view of a lost audit. -/
structure LostView (v : View) (audit : Audit) (findings : List Finding) : Prop where
  audit_eq : v.audit = some audit
  findings_eq : v.findings = findings
  job : ∃ job, v.job = some job ∧ job.status ≠ .queued
  idle : v.handler = none

theorem lostView_move {event : Event} {v v' : View} (hmove : Move event v v') {audit : Audit}
    {findings : List Finding} (h : LostView v audit findings) : LostView v' audit findings := by
  obtain ⟨haudit, hfindings, ⟨job, hjob, hstatus⟩, hidle⟩ := h
  cases hmove with
  | still => exact ⟨haudit, hfindings, ⟨job, hjob, hstatus⟩, hidle⟩
  | created => cases haudit
  | submitted => cases hjob
  | reevaluated => cases haudit
  | claimed hqueued =>
    obtain rfl := Option.some.inj hjob
    exact absurd hqueued hstatus
  | renewed hrow =>
    obtain rfl := Option.some.inj hjob
    exact ⟨haudit, hfindings, ⟨_, rfl, (same_of_rowStep hrow).claimed hstatus⟩, hidle⟩
  | recovered hrow =>
    obtain rfl := Option.some.inj hjob
    exact ⟨haudit, hfindings, ⟨_, rfl, (same_of_rowStep hrow).claimed hstatus⟩, hidle⟩
  | settled => cases hidle
  | entered => cases hidle
  | advanced => cases hidle
  | crashed => exact ⟨haudit, hfindings, ⟨job, hjob, hstatus⟩, rfl⟩

theorem lostView_of_lost {w : World} (h : Linked w) {audit : Audit} (hlost : Lost w audit) :
    LostView (view w audit.auditId) audit (findingsOf w.findings audit.auditId) := by
  obtain ⟨hmem, -, job, hjob, hof, hstatus, hidle⟩ := hlost
  have hfound := h.jobOf hjob hof
  refine ⟨view_audit h hmem, rfl, ⟨job, hfound, hstatus⟩, ?_⟩
  rw [view_employed hfound, handlerOf, Option.map_eq_none_iff]
  simpa [Table.find?] using hidle

theorem lost_of_lostView {w : World} {audit : Audit} {findings : List Finding}
    (hunfinished : Unfinished audit) (h : LostView (view w audit.auditId) audit findings) :
    Lost w audit := by
  obtain ⟨haudit, -, ⟨job, hjob, hstatus⟩, hidle⟩ := h
  obtain ⟨hmem, hof⟩ := mem_of_jobOf hjob
  refine ⟨(Table.find?_eq_some haudit).1, hunfinished, job, hmem, hof, hstatus, ?_⟩
  rw [view_employed hjob, handlerOf, Option.map_eq_none_iff] at hidle
  simpa [Table.find?] using hidle

/-- A lost audit stays lost for ever, with the row and the findings it has: whatever the workers,
the requests and the recovery of jobs do, it is never finished and never started again. -/
theorem lost_for_ever (sha256 : String → String) (db : Creation.Database)
    (before after : List Event) {audit : Audit}
    (hlost : Lost (Runs.run (step sha256) (World.initial db) before) audit) :
    let w := Runs.run (step sha256) (World.initial db) before
    let w' := Runs.run (step sha256) w after
    Lost w' audit ∧
      findingsOf w'.findings audit.auditId = findingsOf w.findings audit.auditId := by
  intro w w'
  have hsound : Sound w := sound_run sha256 (sound_initial db) before
  have hstep : ∀ w₁ event,
      Linked w₁ ∧ LostView (view w₁ audit.auditId) audit (findingsOf w.findings audit.auditId) →
      Linked (step sha256 w₁ event) ∧ LostView (view (step sha256 w₁ event) audit.auditId) audit
        (findingsOf w.findings audit.auditId) := by
    intro w₁ event h
    have hstepped := stepped_step sha256 h.1 event
    exact ⟨hstepped.linked, lostView_move (hstepped.moves audit.auditId) h.2⟩
  have hend := Runs.run_invariant hstep ⟨hsound.linked, lostView_of_lost hsound.linked hlost⟩ after
  exact ⟨lost_of_lostView hlost.unfinished hend.2, hend.2.findings_eq⟩

/-! A ready snapshot, and its audit up to the first checkpoint of a worker. -/

/-- The audit that a worker has begun. -/
def begunRow : Audit :=
  { Creation.initialAudit analyst { snapshotId := .ofNat 4 } readySnapshot (.ofNat 6) with
    status := .processing, processingStage := some .identifying, startedAt := some 30 }

/-- The worker is lost, and its job is recovered an hour later. -/
theorem lost_for_ever_crash :
    Lost (Runs.run (step id) (Runs.run (step id) (World.initial readyTables)
        (begunAudit ++ [.crash (.ofNat 7)])) [.recover 100 3600000000 []]) begunRow ∧
      findingsOf (Runs.run (step id) (Runs.run (step id) (World.initial readyTables)
        (begunAudit ++ [.crash (.ofNat 7)])) [.recover 100 3600000000 []]).findings (.ofNat 6) =
      findingsOf (Runs.run (step id) (World.initial readyTables)
        (begunAudit ++ [.crash (.ofNat 7)])).findings (.ofNat 6) := by
  have hlost : Lost (Runs.run (step id) (World.initial readyTables)
      (begunAudit ++ [.crash (.ofNat 7)])) begunRow :=
    ⟨by decide +kernel, .inr rfl, by decide +kernel⟩
  exact lost_for_ever id readyTables (begunAudit ++ [.crash (.ofNat 7)])
    [.recover 100 3600000000 []] hlost

/-- What a handler may meet without losing its audit: an exception that it names, except in its
own reads, at the first checkpoint and in `mark_failed`. -/
def fair : Handler → Outcome → Bool
  | .entered, .proceeds _ => true
  | .entered, _ => false
  | .running _ _ position, .declared =>
    match position with
    | .called | .failing | .failingAt _ => false
    | _ => true
  | .running _ _ position, .undeclared => position.ended
  | _, _ => true

/-- No lease runs out and no worker is lost while a handler is at work, and the handlers meet
what they may. -/
def orderly (w : World) : Event → Bool
  | .recover _ now _ => w.runs.all fun run => run.handler.result.isSome ||
    w.jobs.all fun job => job.jobId != run.jobId || !Jobs.isStale now job
  | .advance jobId outcome => w.runs.all fun run => run.jobId != jobId || fair run.handler outcome
  | .crash jobId => w.runs.all fun run => run.jobId != jobId || run.handler.result.isSome
  | _ => true

/-- A handler at work on an audit that has not ended. -/
def Busy (audit : Audit) : Handler → Prop
  | .entered => True
  | .running _ _ position =>
    match position with
    | .failing | .failingAt _ => audit.status = .processing
    | _ => position.ended = false
  | _ => False

theorem Busy.result {audit : Audit} {handler : Handler} (h : Busy audit handler) :
    handler.result = none := by
  cases handler with
  | entered => rfl
  | running auditId organizationId position => cases position <;> first | rfl | cases h
  | other => exact h.elim
  | done returned => exact h.elim

/-- The job of an unfinished audit waits or is processed, and a handler that is left for it is at
work. -/
def Kept (v : View) : Prop :=
  ∀ audit, v.audit = some audit → Unfinished audit → ∃ job, v.job = some job ∧
    (job.status = .queued ∨ job.status = .processing ∧
      ∀ handler, v.handler = some handler → Busy audit handler)

/-- A job that is processed for an unfinished audit has a handler. -/
def Attended (v : View) : Prop :=
  ∀ audit job, v.audit = some audit → Unfinished audit → v.job = some job →
    job.status = .processing → v.handler ≠ none

/-- No job of an unfinished audit is taken for a stale one, and the handlers meet what they may. -/
def undisturbed (w : World) : Event → Bool
  | .recover _ now _ => w.jobs.all fun job => !Jobs.isStale now job ||
    w.audits.all fun audit => !decide (IsJobOf audit.auditId job) || isTerminal audit.status
  | .advance jobId outcome => w.runs.all fun run => run.jobId != jobId || fair run.handler outcome
  | _ => true

/-- What an undisturbed event means for one audit. -/
def UndisturbedAt (event : Event) (v : View) : Prop :=
  ∀ job, v.job = some job →
    match event with
    | .recover _ now _ => Jobs.isStale now job = true →
      ∀ audit, v.audit = some audit → ¬ Unfinished audit
    | .advance jobId outcome => job.jobId = jobId →
      ∀ handler, v.handler = some handler → fair handler outcome = true
    | _ => True

theorem not_unfinished_of_terminal {audit : Audit} (h : isTerminal audit.status = true) :
    ¬ Unfinished audit := by
  intro hunfinished
  rw [not_terminal_of_unfinished hunfinished] at h
  cases h

theorem undisturbedAt_of_undisturbed {w : World} {event : Event} (h : undisturbed w event = true)
    (auditId : UUID) : UndisturbedAt event (view w auditId) := by
  intro job hjob
  obtain ⟨hmem, hof⟩ := mem_of_jobOf hjob
  cases event with
  | recover limit now locked =>
    intro hstale audit haudit
    obtain ⟨hin, rfl⟩ := Table.find?_eq_some haudit
    have hjobs := List.all_eq_true.mp h job hmem
    rw [hstale, Bool.not_true, Bool.false_or] at hjobs
    have hended := List.all_eq_true.mp hjobs audit hin
    rw [decide_eq_true hof, Bool.not_true, Bool.false_or] at hended
    exact not_unfinished_of_terminal hended
  | advance jobId outcome =>
    intro hsame handler hhandler
    rw [view_employed hjob, handlerOf, Option.map_eq_some_iff] at hhandler
    obtain ⟨run, hfound, rfl⟩ := hhandler
    obtain ⟨hrun, hid⟩ := Table.find?_eq_some hfound
    have hruns := List.all_eq_true.mp h run hrun
    simpa [hid, hsame] using hruns
  | _ => trivial

/-- What an orderly event means for one audit. -/
def OrderlyAt (event : Event) (v : View) : Prop :=
  ∀ job handler, v.job = some job → v.handler = some handler →
    match event with
    | .recover _ now _ => handler.result = none → Jobs.isStale now job = false
    | .advance jobId outcome => job.jobId = jobId → fair handler outcome = true
    | .crash jobId => job.jobId = jobId → handler.result ≠ none
    | _ => True

theorem orderlyAt_of_orderly {w : World} {event : Event} (h : orderly w event = true)
    (auditId : UUID) : OrderlyAt event (view w auditId) := by
  intro job handler hjob hhandler
  have hmem := (mem_of_jobOf hjob).1
  rw [view_employed hjob, handlerOf, Option.map_eq_some_iff] at hhandler
  obtain ⟨run, hfound, rfl⟩ := hhandler
  obtain ⟨hrun, hid⟩ := Table.find?_eq_some hfound
  cases event with
  | recover limit now locked =>
    intro hresult
    have hruns := List.all_eq_true.mp h run hrun
    rw [hresult, Option.isSome_none, Bool.false_or] at hruns
    have hjobs := List.all_eq_true.mp hruns job hmem
    simpa [hid] using hjobs
  | advance jobId outcome =>
    intro hsame
    have hruns := List.all_eq_true.mp h run hrun
    simpa [hid, hsame] using hruns
  | crash jobId =>
    intro hsame
    have hruns := List.all_eq_true.mp h run hrun
    simp only [hid, hsame, bne_self_eq_false, Bool.false_or] at hruns
    exact Option.isSome_iff_ne_none.mp hruns
  | _ => trivial

section Advance

variable {record record' : Record} {position position' : Position}

/-- `mark_failed` ends an audit that is processed. -/
theorem failed_of_processing {stage : Option AuditProcessingStage} {now : Int} {audit : Audit}
    (hproper : Proper record) (hprocessing : record.audit.status = .processing)
    (h : (finalizeFailure record.audit stage now).getD record.audit = audit) :
    audit.status = .failed := by
  have hopen := (hproper.processing hprocessing).2
  rw [finalizeFailure, if_pos hprocessing, Option.getD_some, worked, write,
    if_pos ⟨hprocessing, hopen⟩, Option.getD_some] at h
  rw [← h]

theorem unfinished_of_started {audit : Audit} (hstarted : audit.status ≠ .draft)
    (hgoing : isTerminal audit.status ≠ true) : Unfinished audit := by
  cases hstatus : audit.status with
  | draft => exact absurd hstatus hstarted
  | queued => exact .inl hstatus
  | processing => exact .inr hstatus
  | _ => exact absurd (by rw [hstatus]; rfl) hgoing

/-- The audit of a handler between its first checkpoint and its end is processed. -/
theorem caught_busy {organizationId auditId : UUID} (hexpects : Expects record position)
    (hgoing : position.ended = false) (hcalled : position ≠ .called)
    (hfailing : position ≠ .failing) (hfailingAt : ∀ stage, position ≠ .failingAt stage) :
    Busy record.audit (.running auditId organizationId position.caught) := by
  cases position with
  | called => exact absurd rfl hcalled
  | failing => exact absurd rfl hfailing
  | failingAt stage => exact absurd rfl (hfailingAt stage)
  | pinRead => exact hexpects.1.1
  | finalizing => exact hexpects.1.1
  | returned => cases hgoing
  | raised => cases hgoing
  | _ => exact hexpects.1

theorem busy_resolvedAt {audit : Audit} {auditId organizationId : UUID}
    (resolution : List (String × PyValue)) :
    Busy audit (.running auditId organizationId (resolvedAt resolution)) := by
  unfold resolvedAt
  split <;> rfl

/-- A busy handler that goes on is busy, or its audit has ended. -/
theorem proceed_busy {auditId organizationId : UUID} {c : Computed} (hproper : Proper record)
    (hexpects : Expects record position)
    (hbusy : Busy record.audit (.running auditId organizationId position))
    (h : proceed record c position = some (record', position'))
    (hunfinished : Unfinished record'.audit) :
    Busy record'.audit (.running auditId organizationId position') := by
  have hnext := (proceed_lives hproper hexpects h).expects
  cases position with
  | failing =>
    obtain ⟨rfl, rfl⟩ := Prod.mk.inj (Option.some.inj h)
    exact hbusy
  | failingAt stage =>
    obtain ⟨rfl, rfl⟩ := Prod.mk.inj (Option.some.inj h)
    have hfailed := @failed_of_processing record stage c.now _ hproper hbusy rfl
    exact absurd hunfinished (not_unfinished_of_terminal (by rw [hfailed]; rfl))
  | returned => cases hbusy
  | raised => cases hbusy
  | rejected =>
    obtain ⟨audit, -, heq⟩ := Option.map_eq_some_iff.mp h
    obtain ⟨rfl, rfl⟩ := Prod.mk.inj heq
    exact absurd hunfinished (not_unfinished_of_terminal hnext)
  | finalizing findings =>
    obtain ⟨audit, -, heq⟩ := Option.map_eq_some_iff.mp h
    obtain ⟨rfl, rfl⟩ := Prod.mk.inj heq
    exact absurd hunfinished (not_unfinished_of_terminal hnext)
  | called =>
    obtain ⟨audit, -, heq⟩ := Option.map_eq_some_iff.mp h
    obtain ⟨rfl, rfl⟩ := Prod.mk.inj heq
    rfl
  | begun =>
    obtain ⟨next, hresolution, heq⟩ := Option.map_eq_some_iff.mp h
    obtain ⟨rfl, rfl⟩ := Prod.mk.inj heq
    simp only [pinnedResolution] at hresolution
    split at hresolution
    · rw [← Option.some.inj hresolution]
      rfl
    · split at hresolution
      · rw [← Option.some.inj hresolution]
        exact busy_resolvedAt _
      · cases hresolution
  | identifying =>
    simp only [proceed] at h
    split at h
    · obtain ⟨audit, -, heq⟩ := Option.map_eq_some_iff.mp h
      obtain ⟨rfl, rfl⟩ := Prod.mk.inj heq
      exact busy_resolvedAt _
    · cases h
  | pinning profileVersionId =>
    simp only [proceed] at h
    split at h <;> (obtain ⟨rfl, rfl⟩ := Prod.mk.inj (Option.some.inj h); rfl)
  | pinRead profileVersionId refs =>
    obtain ⟨rfl, rfl⟩ := Prod.mk.inj (Option.some.inj h)
    rfl
  | loading profileVersionId =>
    obtain ⟨rfl, rfl⟩ := Prod.mk.inj (Option.some.inj h)
    rfl
  | checkpoint profileVersionId pack next =>
    cases next <;>
      (obtain ⟨audit, -, heq⟩ := Option.map_eq_some_iff.mp h
       obtain ⟨rfl, rfl⟩ := Prod.mk.inj heq
       rfl)
  | working profileVersionId pack stage =>
    cases stage with
    | evaluating =>
      simp only [proceed] at h
      split at h
      · obtain ⟨rfl, rfl⟩ := Prod.mk.inj (Option.some.inj h)
        rfl
      · cases h
    | _ =>
      obtain ⟨rfl, rfl⟩ := Prod.mk.inj (Option.some.inj h)
      rfl

/-- The first checkpoint and `mark_failed` get through. -/
theorem proceed_isSome {c : Computed} (hexpects : Expects record position)
    (hposition : position = .called ∨ position = .failing ∨ ∃ stage, position = .failingAt stage) :
    proceed record c position ≠ none := by
  rcases hposition with rfl | rfl | ⟨stage, rfl⟩
  · have hqueued : record.audit.status = .queued := hexpects
    simp [proceed, write, hqueued]
  · simp [proceed]
  · simp [proceed]

/-- What a handler may meet leaves it busy, or its audit has ended. -/
theorem advance_busy {auditId organizationId : UUID} {outcome : Outcome} (hproper : Proper record)
    (hexpects : Expects record position)
    (hbusy : Busy record.audit (.running auditId organizationId position))
    (hfair : fair (.running auditId organizationId position) outcome = true)
    (h : advance record position outcome = (record', position'))
    (hunfinished : Unfinished record'.audit) :
    Busy record'.audit (.running auditId organizationId position') := by
  have hgoing : position.ended = false := by
    cases position <;> first | rfl | cases hbusy
  cases outcome with
  | proceeds computed =>
    rw [advance] at h
    cases hproceed : proceed record computed position with
    | none =>
      rw [hproceed] at h
      obtain ⟨rfl, rfl⟩ := Prod.mk.inj h
      refine caught_busy hexpects hgoing ?_ ?_ ?_
      · exact fun heq => proceed_isSome hexpects (.inl heq) hproceed
      · exact fun heq => proceed_isSome hexpects (.inr (.inl heq)) hproceed
      · exact fun stage heq => proceed_isSome hexpects (.inr (.inr ⟨stage, heq⟩)) hproceed
    | some result =>
      rw [hproceed] at h
      exact proceed_busy hproper hexpects hbusy (hproceed.trans (congrArg some h)) hunfinished
  | declared =>
    obtain ⟨rfl, rfl⟩ := Prod.mk.inj h
    refine caught_busy hexpects hgoing ?_ ?_ ?_
    · rintro rfl
      cases hfair
    · rintro rfl
      cases hfair
    · rintro stage rfl
      cases hfair
  | undeclared =>
    have hended : position.ended = true := hfair
    rw [hgoing] at hended
    cases hended

end Advance

/-- Undisturbed moves keep the job of an unfinished audit. -/
theorem kept_move {event : Event} {v v' : View} (hmove : Move event v v') (h : Standing v)
    (hundisturbed : UndisturbedAt event v) (hkept : Kept v) : Kept v' := by
  cases hmove with
  | still => exact hkept
  | created hdraft =>
    intro audit haudit hunfinished
    obtain rfl := Option.some.inj haudit
    rcases hunfinished with hstatus | hstatus <;> (rw [hdraft] at hstatus; cases hstatus)
  | submitted hdraft hqueued => exact fun _ _ _ => ⟨_, rfl, .inl hqueued⟩
  | reevaluated haudit hqueued => exact fun _ _ _ => ⟨_, rfl, .inl hqueued⟩
  | claimed hqueued =>
    intro audit haudit hunfinished
    refine ⟨_, rfl, .inr ⟨rfl, fun handler hhandler => ?_⟩⟩
    rw [← Option.some.inj hhandler]
    trivial
  | renewed hrow =>
    intro audit haudit hunfinished
    obtain ⟨job, hjob, hstatus⟩ := hkept audit haudit hunfinished
    obtain rfl := Option.some.inj hjob
    cases hrow with
    | same => exact ⟨_, rfl, hstatus⟩
    | heartbeat => exact ⟨_, rfl, hstatus⟩
  | recovered hrow =>
    intro audit haudit hunfinished
    obtain ⟨job, hjob, hstatus⟩ := hkept audit haudit hunfinished
    obtain rfl := Option.some.inj hjob
    cases hrow with
    | same => exact ⟨_, rfl, hstatus⟩
    | recover hstale => exact absurd hunfinished (hundisturbed _ rfl hstale audit haudit)
  | @settled run returned hresult now later job job' hjob hrow audit findings =>
    intro found hfound hunfinished
    obtain ⟨job₀, hjob₀, hqueued | ⟨-, hbusy⟩⟩ := hkept found hfound hunfinished
    · obtain rfl := Option.some.inj hjob₀
      cases h with
      | handled _ hclaimed _ => exact absurd hqueued hclaimed
    · rw [(hbusy _ rfl).result] at hresult
      cases hresult
  | @entered outcome audit findings job =>
    intro found hfound hunfinished
    obtain rfl := Option.some.inj hfound
    have hqueued : audit.status = .queued := h.handler.2.2
    have hfair := hundisturbed job rfl rfl .entered rfl
    obtain ⟨job₀, hjob₀, hstatus | ⟨hprocessing, -⟩⟩ := hkept audit rfl hunfinished
    · obtain rfl := Option.some.inj hjob₀
      exact ⟨job, rfl, .inl hstatus⟩
    · obtain rfl := Option.some.inj hjob₀
      cases outcome with
      | proceeds computed =>
        refine ⟨job, rfl, .inr ⟨hprocessing, fun handler hhandler => ?_⟩⟩
        rw [← Option.some.inj hhandler, entry, if_neg (by simp [hqueued, isTerminal])]
        rfl
      | declared => cases hfair
      | undeclared => cases hfair
  | @advanced outcome record record' position position' hadvance job =>
    intro found hfound hunfinished
    obtain rfl := Option.some.inj hfound
    obtain ⟨hproper, hclaimed, -, -, hexpects⟩ := h.handler
    have hlives := advance_lives hproper hexpects hadvance
    have hbefore : Unfinished record.audit := by
      refine unfinished_of_started h.handler.2.2.started fun hended => ?_
      obtain rfl := hlives.forward.final hended
      exact not_unfinished_of_terminal hended hunfinished
    obtain ⟨job₀, hjob₀, hstatus | ⟨hprocessing, hbusy⟩⟩ := hkept record.audit rfl hbefore
    · obtain rfl := Option.some.inj hjob₀
      exact absurd hstatus hclaimed
    · obtain rfl := Option.some.inj hjob₀
      refine ⟨job, rfl, .inr ⟨hprocessing, fun handler hhandler => ?_⟩⟩
      rw [← Option.some.inj hhandler]
      exact advance_busy hproper hexpects (hbusy _ rfl) (hundisturbed job rfl rfl _ rfl) hadvance
        hunfinished
  | @crashed job audit findings handler =>
    intro found hfound hunfinished
    obtain ⟨job₀, hjob₀, hstatus⟩ := hkept found hfound hunfinished
    exact ⟨job₀, hjob₀, hstatus.imp_right fun h => ⟨h.1, fun _ hnone => by cases hnone⟩⟩

/-- An orderly event disturbs no audit that is attended. -/
theorem OrderlyAt.undisturbed {event : Event} {v : View} (h : OrderlyAt event v) (hkept : Kept v)
    (hattended : Attended v) : UndisturbedAt event v := by
  intro job hjob
  cases event with
  | recover limit now locked =>
    intro hstale audit haudit hunfinished
    have hprocessing : job.status = .processing := by
      simp only [Jobs.isStale, Bool.and_eq_true, beq_iff_eq] at hstale
      exact hstale.1
    obtain ⟨handler, hhandler⟩ :=
      Option.ne_none_iff_exists'.mp (hattended audit job haudit hunfinished hjob hprocessing)
    obtain ⟨other, hother, hqueued | ⟨-, hbusy⟩⟩ := hkept audit haudit hunfinished
    · rw [Option.some.inj (hother.symm.trans hjob), hprocessing] at hqueued
      cases hqueued
    · have hfresh := h job handler hjob hhandler (hbusy handler hhandler).result
      rw [hstale] at hfresh
      cases hfresh
  | advance jobId outcome => exact fun hsame handler hhandler => h job handler hjob hhandler hsame
  | _ => trivial

/-- Orderly moves leave no audit to nobody. -/
theorem attended_move {event : Event} {v v' : View} (hmove : Move event v v') (h : Standing v)
    (horderly : OrderlyAt event v) (hkept : Kept v) (hattended : Attended v) : Attended v' := by
  cases hmove with
  | still => exact hattended
  | created => exact fun _ _ _ _ hjob _ => by cases hjob
  | submitted hdraft hqueued =>
    intro audit job _ _ hjob hprocessing
    rw [← Option.some.inj hjob, hqueued] at hprocessing
    cases hprocessing
  | reevaluated haudit hqueued =>
    intro audit job _ _ hjob hprocessing
    rw [← Option.some.inj hjob, hqueued] at hprocessing
    cases hprocessing
  | claimed | entered | advanced => exact fun _ _ _ _ _ _ hnone => by cases hnone
  | renewed hrow =>
    intro audit job haudit hunfinished hjob hprocessing
    obtain rfl := Option.some.inj hjob
    cases hrow with
    | same => exact hattended audit _ haudit hunfinished rfl hprocessing
    | heartbeat hlease => exact hattended audit _ haudit hunfinished rfl hlease.processing
  | recovered hrow =>
    intro audit job haudit hunfinished hjob hprocessing
    obtain rfl := Option.some.inj hjob
    cases hrow with
    | same => exact hattended audit _ haudit hunfinished rfl hprocessing
    | recover => cases hprocessing
  | @settled run returned hresult now later job job' hjob hrow audit findings =>
    intro found other hfound hunfinished hother hprocessing
    obtain ⟨job₀, hjob₀, hqueued | ⟨-, hbusy⟩⟩ := hkept found hfound hunfinished
    · obtain rfl := Option.some.inj hjob₀
      cases h with
      | handled _ hclaimed _ => exact absurd hqueued hclaimed
    · rw [(hbusy _ rfl).result] at hresult
      cases hresult
  | @crashed job audit findings handler =>
    intro found other hfound hunfinished hother hprocessing
    obtain rfl := Option.some.inj hother
    obtain ⟨busy, hhandler⟩ :=
      Option.ne_none_iff_exists'.mp (hattended found _ hfound hunfinished rfl hprocessing)
    obtain ⟨job₀, hjob₀, hqueued | ⟨-, hbusy⟩⟩ := hkept found hfound hunfinished
    · rw [← Option.some.inj hjob₀, hprocessing] at hqueued
      cases hqueued
    · exact absurd (hbusy busy hhandler).result (horderly _ busy rfl hhandler rfl)

/-- Every audit that is queued or processed has a job that is queued or processed, and where the
job of an audit has ended the audit has. -/
structure NoneStranded (w : World) : Prop where
  served : ∀ audit ∈ w.audits, Unfinished audit → ∃ job ∈ w.jobs, IsJobOf audit.auditId job ∧
    (job.status = .queued ∨ job.status = .processing)
  ended : ∀ job ∈ w.jobs, ∀ audit ∈ w.audits, IsJobOf audit.auditId job →
    job.status ≠ .queued → job.status ≠ .processing → isTerminal audit.status = true

theorem served_of_kept {w : World} (h : Linked w) (hkept : ∀ auditId, Kept (view w auditId))
    {audit : Audit} (haudit : audit ∈ w.audits) (hunfinished : Unfinished audit) :
    ∃ job ∈ w.jobs, IsJobOf audit.auditId job ∧
      (job.status = .queued ∨ job.status = .processing) := by
  obtain ⟨job, hjob, hstatus⟩ := hkept audit.auditId audit (view_audit h haudit) hunfinished
  obtain ⟨hmem, hof⟩ := mem_of_jobOf hjob
  exact ⟨job, hmem, hof, hstatus.imp_right fun h => h.1⟩

theorem noneStranded_of_kept {w : World} (h : Linked w) (hkept : ∀ auditId, Kept (view w auditId)) :
    NoneStranded w := by
  refine ⟨fun audit haudit hunfinished => served_of_kept h hkept haudit hunfinished,
    fun job hjob audit haudit hof hqueued hprocessing => ?_⟩
  by_contra hgoing
  obtain ⟨named, hnamed, hid, -, hdraft⟩ := h.named job hjob hof.1
  obtain rfl := Table.eq_of_key h.audits hnamed haudit (Option.some.inj (hid.symm.trans hof.2))
  obtain ⟨other, hother, hofOther, hstatus⟩ :=
    served_of_kept h hkept hnamed (unfinished_of_started hdraft hgoing)
  obtain rfl := h.single job hjob other hother _ hof hofOther
  exact hstatus.elim hqueued hprocessing

theorem kept_initial (db : Creation.Database) (auditId : UUID) :
    Kept (view (World.initial db) auditId) := fun _ haudit => by cases haudit

theorem kept_step (sha256 : String → String) {w : World} {event : Event} (h : Sound w)
    (hkept : ∀ auditId, Kept (view w auditId))
    (hundisturbed : ∀ auditId, UndisturbedAt event (view w auditId)) :
    Sound (step sha256 w event) ∧ ∀ auditId, Kept (view (step sha256 w event) auditId) := by
  refine ⟨sound_step sha256 h event, fun auditId => ?_⟩
  exact kept_move ((stepped_step sha256 h.linked event).moves auditId) (h.standing auditId)
    (hundisturbed auditId) (hkept auditId)

/-- In every run in which the handlers meet only exceptions that they name, outside their own
reads, their first checkpoint and `mark_failed`, and in which the recovery finds no stale job of
an unfinished audit, no audit is stranded in any state. -/
theorem undisturbed_runs_strand_none (sha256 : String → String) (db : Creation.Database)
    (events : List Event)
    (hundisturbed : Runs.Along (step sha256) (fun w event => undisturbed w event = true)
      (World.initial db) events) :
    ∀ first rest, events = first ++ rest →
      NoneStranded (Runs.run (step sha256) (World.initial db) first) := by
  rintro first rest rfl
  have hstep : ∀ w event, (Sound w ∧ ∀ auditId, Kept (view w auditId)) →
      undisturbed w event = true →
        Sound (step sha256 w event) ∧ ∀ auditId, Kept (view (step sha256 w event) auditId) :=
    fun w event h hevent =>
      kept_step sha256 h.1 h.2 fun auditId => undisturbedAt_of_undisturbed hevent auditId
  obtain ⟨hsound, hkept⟩ := Runs.run_invariant_along hstep
    ⟨sound_initial db, kept_initial db⟩ (Runs.along_append.mp hundisturbed).1
  exact noneStranded_of_kept hsound.linked hkept

/-- A worker is lost in the middle, and nobody recovers its job. -/
theorem undisturbed_runs_strand_none_crash : NoneStranded
    (Runs.run (step id) (World.initial readyTables) (begunAudit ++ [.crash (.ofNat 7)])) :=
  undisturbed_runs_strand_none id readyTables (begunAudit ++ [.crash (.ofNat 7)])
    (by decide +kernel) _ [] (List.append_nil _).symm

/-- The worker is lost in the middle, and the recovery of its job an hour later leaves the audit
to nobody. -/
theorem crash_strands :
    ¬ ∀ (sha256 : String → String) (db : Creation.Database) (events : List Event),
      NoneStranded (Runs.run (step sha256) (World.initial db) events) := by
  intro h
  have hnone := h id readyTables (begunAudit ++ [.crash (.ofNat 7), .recover 100 3600000000 []])
  obtain ⟨job, hjob, hof, hstatus⟩ := hnone.served begunRow (by decide +kernel) (.inr rfl)
  have hfailed : ∀ job ∈ (Runs.run (step id) (World.initial readyTables)
      (begunAudit ++ [.crash (.ofNat 7), .recover 100 3600000000 []])).jobs,
        job.status = .failed := by decide +kernel
  rw [hfailed job hjob] at hstatus
  rcases hstatus with hqueued | hprocessing
  · cases hqueued
  · cases hprocessing

/-- In a run in which no lease of a busy handler runs out and no busy worker is lost, and in
which a handler meets only exceptions that it names, outside its own reads, its first checkpoint
and `mark_failed`, every audit that is queued or processed has a job that is queued or
processed. -/
theorem orderly_runs_lose_none (sha256 : String → String) (db : Creation.Database)
    (events : List Event)
    (horderly : Runs.Along (step sha256) (fun w event => orderly w event = true)
      (World.initial db) events) :
    let w := Runs.run (step sha256) (World.initial db) events
    ∀ audit ∈ w.audits, Unfinished audit → ∃ job ∈ w.jobs, IsJobOf audit.auditId job ∧
      (job.status = .queued ∨ job.status = .processing) := by
  intro w audit haudit hunfinished
  have hstep : ∀ w event,
      (Sound w ∧ (∀ auditId, Kept (view w auditId)) ∧ ∀ auditId, Attended (view w auditId)) →
      orderly w event = true → Sound (step sha256 w event) ∧
        (∀ auditId, Kept (view (step sha256 w event) auditId)) ∧
          ∀ auditId, Attended (view (step sha256 w event) auditId) := by
    rintro w event ⟨hsound, hkept, hattended⟩ hevent
    have horderly := orderlyAt_of_orderly hevent
    have hnext := kept_step sha256 hsound hkept fun auditId =>
      (horderly auditId).undisturbed (hkept auditId) (hattended auditId)
    refine ⟨hnext.1, hnext.2, fun auditId => ?_⟩
    exact attended_move ((stepped_step sha256 hsound.linked event).moves auditId)
      (hsound.standing auditId) (horderly auditId) (hkept auditId) (hattended auditId)
  have hinitial : Sound (World.initial db) ∧ (∀ auditId, Kept (view (World.initial db) auditId)) ∧
      ∀ auditId, Attended (view (World.initial db) auditId) :=
    ⟨sound_initial db, kept_initial db, fun auditId audit job haudit => by cases haudit⟩
  obtain ⟨hsound, hkept, -⟩ := Runs.run_invariant_along hstep hinitial horderly
  exact served_of_kept hsound.linked hkept haudit hunfinished

/-- A second snapshot of the device. -/
def laterSnapshot : Snapshots.Snapshot := { readySnapshot with snapshotId := .ofNat 14 }

def laterTables : Creation.Database :=
  { readyTables with
    store :=
      { readyTables.store with
        snapshots := [readySnapshot, laterSnapshot],
        artifacts := readyTables.store.artifacts ++
          [⟨.ofNat 15, .ofNat 2, some (.ofNat 14), "ab", .ready⟩] } }

/-- The audit fails with an exception that the handler names, and `mark_failed` ends it; then an
audit of the second snapshot waits while stale jobs are recovered. -/
def failedAudit : List Event :=
  begunAudit ++
    [.advance (.ofNat 7) .declared, .advance (.ofNat 7) (.proceeds {}),
      .advance (.ofNat 7) (.proceeds { now := 40 }), .advance (.ofNat 7) (.proceeds {}),
      .settle (.ofNat 7) 50 50,
      .create analyst { snapshotId := .ofNat 14 } laterSnapshot (.ofNat 16),
      .submit analyst (.ofNat 16) (.ofNat 17) 60, .recover 100 3600000000 []]

/-- The audit that waits. -/
def waitingRow : Audit :=
  Service.submitted
    (Creation.initialAudit analyst { snapshotId := .ofNat 14 } laterSnapshot (.ofNat 16))

/-- The failed audit has ended with its job, and the other one has the job that it waits for. -/
theorem orderly_runs_lose_none_failed :
    ((Runs.run (step id) (World.initial laterTables) failedAudit).audits.map (·.status)) =
      [.failed, .queued] ∧
    ∃ job ∈ (Runs.run (step id) (World.initial laterTables) failedAudit).jobs,
      IsJobOf (.ofNat 16) job ∧ (job.status = .queued ∨ job.status = .processing) :=
  ⟨by decide +kernel, orderly_runs_lose_none id laterTables failedAudit (by decide +kernel)
    waitingRow (by decide +kernel) (.inl rfl)⟩

end ConfigAuditor.Audits.Stranded
