import ConfigAuditor.Reevaluation.Interleaving
import ConfigAuditor.Reevaluation.Numbering

/-!
# Revision numbers under any interleaving

A `start` transaction that has counted the revisions of a snapshot holds the snapshot row,
so nobody else adds a revision before it commits; a `create_audit` transaction can only add
the first one. The numbering of every snapshot therefore survives every interleaving.
-/
namespace ConfigAuditor.Reevaluation.Revisions

open Library Runs Audits Audits.Creation Audits.Processing Service Interleaving
  ConfigAuditor.Reevaluation.Numbering
open Training (User)

/-- The locked source is still in the table. -/
def OnSource (audits : List Audit) (source : Audit) : Prop :=
  ∃ row ∈ audits, row.auditId = source.auditId ∧ row.snapshotId = source.snapshotId

/-- The source's snapshot is locked. -/
def OnSnapshot (audits : List Audit) (held : List Row) (source : Audit) : Prop :=
  OnSource audits source ∧ Row.snapshot source.snapshotId ∈ held

/-- What a `start` transaction relies on at each of its statements. -/
def StartSound (audits : List Audit) (held : List Row) (request : Request) :
    StartProgress → Prop
  | .begun => True
  | .sourceLocked source => OnSource audits source
  | .snapshotRead source _ => OnSource audits source
  | .evidenceRead source => OnSource audits source
  | .scanning source _ _ _ => OnSource audits source
  | .eligible source _ => OnSource audits source
  | .targetLocked source => OnSource audits source
  | .assessmentChecked source => OnSource audits source
  | .snapshotLocked source _ => OnSnapshot audits held source
  | .evidenceLocked source => OnSnapshot audits held source
  | .latestRead source latest =>
    OnSnapshot audits held source ∧ latest = (auditsOf audits source.snapshotId).length
  | .existingRead source latest =>
    OnSnapshot audits held source ∧ latest = (auditsOf audits source.snapshotId).length ∧
      audits.filter (activeReevaluation source.auditId request.target) = []

def SessionSound (audits : List Audit) (session : Session) : Prop :=
  match session.transaction with
  | .create _ _ _ => True
  | .start request progress => StartSound audits session.held request progress

structure Sound (w : World) : Prop where
  numbered : Numbered w.db.store.audits
  session_ids : (w.sessions.map Session.id).Nodup
  exclusive : ∀ first ∈ w.sessions, ∀ second ∈ w.sessions, ∀ row ∈ first.held,
    row ∈ second.held → first.id = second.id
  sessions : ∀ session ∈ w.sessions, SessionSound w.db.store.audits session

variable {audits audits' : List Audit} {held : List Row} {request : Request}

/-- A row that neither concerns the locked snapshot nor the source. -/
def Elsewhere (held : List Row) (audits : List Audit) (new : Audit) : Prop :=
  ∀ source, OnSnapshot audits held source →
    new.snapshotId ≠ source.snapshotId ∧ new.previousAuditId ≠ some source.auditId

theorem startSound_append {new : Audit} {progress : StartProgress}
    (hnew : Elsewhere held audits new) (h : StartSound audits held request progress) :
    StartSound (audits ++ [new]) held request progress := by
  have hsource : ∀ source, OnSource audits source → OnSource (audits ++ [new]) source := by
    rintro source ⟨row, hrow, hsame⟩
    exact ⟨row, List.mem_append_left _ hrow, hsame⟩
  have hlength : ∀ source, OnSnapshot audits held source →
      auditsOf (audits ++ [new]) source.snapshotId = auditsOf audits source.snapshotId := by
    intro source hlocked
    rw [auditsOf_append, if_neg (hnew source hlocked).1, List.append_nil]
  cases progress with
  | begun => trivial
  | snapshotLocked source _ => exact ⟨hsource source h.1, h.2⟩
  | evidenceLocked source => exact ⟨hsource source h.1, h.2⟩
  | latestRead source latest =>
    obtain ⟨hlocked, hlatest⟩ := h
    exact ⟨⟨hsource source hlocked.1, hlocked.2⟩, by rw [hlength source hlocked]; exact hlatest⟩
  | existingRead source latest =>
    obtain ⟨hlocked, hlatest, hfree⟩ := h
    refine ⟨⟨hsource source hlocked.1, hlocked.2⟩, by rw [hlength source hlocked]; exact hlatest,
      ?_⟩
    have hother : activeReevaluation source.auditId request.target new = false := by
      simp [activeReevaluation, (hnew source hlocked).2]
    rw [List.filter_append, hfree, List.filter_singleton, hother, cond_false, List.append_nil]
  | _ => exact hsource _ h

theorem startSound_processed {progress : StartProgress} (hnumbered : Numbered audits)
    (auditId : UUID) (work : Work) (h : StartSound audits held request progress) :
    StartSound (processed audits auditId work) held request progress := by
  have hsource : ∀ source, OnSource audits source →
      OnSource (processed audits auditId work) source := by
    rintro source ⟨row, hrow, hid, hsnapshot⟩
    have hsame := workedRow_sameRevision auditId work row
    refine ⟨workedRow auditId work row, ?_, hsame.auditId.trans hid,
      hsame.snapshotId.trans hsnapshot⟩
    rw [processed_eq]
    exact List.mem_map_of_mem hrow
  have hlength : ∀ snapshotId, (auditsOf (processed audits auditId work) snapshotId).length =
      (auditsOf audits snapshotId).length := by
    intro snapshotId
    rw [auditsOf_processed, List.length_map]
  cases progress with
  | begun => trivial
  | snapshotLocked source _ => exact ⟨hsource source h.1, h.2⟩
  | evidenceLocked source => exact ⟨hsource source h.1, h.2⟩
  | latestRead source latest =>
    obtain ⟨hlocked, hlatest⟩ := h
    exact ⟨⟨hsource source hlocked.1, hlocked.2⟩, by rw [hlength]; exact hlatest⟩
  | existingRead source latest =>
    obtain ⟨hlocked, hlatest, hfree⟩ := h
    exact ⟨⟨hsource source hlocked.1, hlocked.2⟩, by rw [hlength]; exact hlatest,
      free_processed hnumbered hfree auditId work⟩
  | _ => exact hsource _ h

variable {sha256 : String → String} {db : Database} {auditId jobId : UUID} {now : Int}

/-- The next statement knows what it relies on. -/
theorem startStatement_next {progress next : StartProgress}
    (hnumbered : Numbered db.store.audits)
    (h : StartSound db.store.audits held request progress)
    (hnext : startStatement sha256 db request auditId jobId now progress = .ok (.next next)) :
    StartSound db.store.audits ((wantedRow db request progress).toList ++ held) request next := by
  cases progress with
  | begun =>
    simp only [startStatement, except_bind_eq_ok, Snapshots.found_eq_ok, pure, Except.pure,
      Except.ok.injEq, Advance.next.injEq] at hnext
    obtain ⟨_, -, source, hsource, rfl⟩ := hnext
    exact ⟨source, (owned_eq_some hsource).1, rfl, rfl⟩
  | sourceLocked source =>
    simp only [startStatement, except_bind_eq_ok, pure, Except.pure, Except.ok.injEq,
      Advance.next.injEq] at hnext
    obtain ⟨_, -, snapshot, -, _, -, rfl⟩ := hnext
    exact h
  | snapshotRead source snapshot =>
    simp only [startStatement] at hnext
    split at hnext
    · cases hnext
      exact h
    · cases hnext
    · cases hnext
  | evidenceRead source =>
    simp only [startStatement, except_bind_eq_ok, pure, Except.pure, Except.ok.injEq,
      Advance.next.injEq] at hnext
    obtain ⟨_, -, _, -, _, -, rfl⟩ := hnext
    exact h
  | scanning source profile packs eligible =>
    cases packs with
    | nil =>
      simp only [startStatement, except_bind_eq_ok, pure, Except.pure, Except.ok.injEq,
        Advance.next.injEq] at hnext
      obtain ⟨_, -, rfl⟩ := hnext
      exact h
    | cons pack packs =>
      simp only [startStatement, Except.ok.injEq, Advance.next.injEq] at hnext
      rw [← hnext]
      exact h
  | eligible source candidates =>
    simp only [startStatement, except_bind_eq_ok, pure, Except.pure, Except.ok.injEq,
      Advance.next.injEq] at hnext
    obtain ⟨_, -, _, -, rfl⟩ := hnext
    exact h
  | targetLocked source =>
    simp only [startStatement] at hnext
    split at hnext
    · cases hnext
      exact h
    · split at hnext
      · cases hnext
        exact h
      · cases hnext
      · cases hnext
  | assessmentChecked source =>
    simp only [startStatement, except_bind_eq_ok, Snapshots.found_eq_ok, pure, Except.pure,
      Except.ok.injEq, Advance.next.injEq] at hnext
    obtain ⟨snapshot, hfound, rfl⟩ := hnext
    refine ⟨h, List.mem_append_left _ ?_⟩
    simp [wantedRow, hfound]
  | snapshotLocked source snapshot =>
    simp only [startStatement, except_bind_eq_ok, pure, Except.pure, Except.ok.injEq,
      Advance.next.injEq] at hnext
    obtain ⟨_, -, rfl⟩ := hnext
    exact h
  | evidenceLocked source =>
    simp only [startStatement, Except.ok.injEq, Advance.next.injEq] at hnext
    rw [← hnext]
    exact ⟨h, latestRevision_eq hnumbered source.snapshotId⟩
  | latestRead source latest =>
    simp only [startStatement] at hnext
    split at hnext
    · cases hnext
    next hnone =>
      cases hnext
      refine ⟨h.1, h.2, List.filter_eq_nil_iff.mpr ?_⟩
      exact List.find?_eq_none.mp hnone
  | existingRead source latest =>
    simp [startStatement, pure, Except.pure] at hnext

/-- A `start` transaction ends with the audits as they were, or with the next revision of the
locked snapshot. -/
theorem startStatement_finish {progress : StartProgress} {jobs : Jobs.JobTable} {result : Audit}
    (hnumbered : Numbered db.store.audits)
    (h : StartSound db.store.audits held request progress)
    (hfinish : startStatement sha256 db request auditId jobId now progress =
      .ok (.finish audits' jobs result)) :
    audits' = db.store.audits ∨
      Numbered audits' ∧ ∃ source, OnSnapshot db.store.audits held source ∧
        audits' = db.store.audits ++ [result] ∧ result.snapshotId = source.snapshotId ∧
          result.previousAuditId = some source.auditId := by
  cases progress with
  | latestRead source latest =>
    simp only [startStatement] at hfinish
    split at hfinish
    · cases hfinish
      exact .inl rfl
    · cases hfinish
  | existingRead source latest =>
    simp only [startStatement, except_bind_eq_ok, Snapshots.found_eq_ok, pure, Except.pure,
      Except.ok.injEq, Advance.finish.injEq] at hfinish
    obtain ⟨added, hinsert, queued, -, rfl, -, rfl⟩ := hfinish
    obtain ⟨hlocked, hlatest, hfree⟩ := h
    obtain ⟨row, hrow, -, hsnapshot⟩ := hlocked.1
    have hsome : row ∈ auditsOf db.store.audits source.snapshotId :=
      mem_auditsOf.mpr ⟨hrow, hsnapshot⟩
    exact .inr ⟨numbered_append_reevaluation hnumbered hinsert hsome hlatest hfree, source,
      hlocked, (insertAudit?_eq_some hinsert).1, rfl, rfl⟩
  | snapshotRead source snapshot =>
    simp only [startStatement] at hfinish
    split at hfinish <;> cases hfinish
  | targetLocked source =>
    simp only [startStatement] at hfinish
    split at hfinish
    · cases hfinish
    · split at hfinish <;> cases hfinish
  | scanning source profile packs eligible =>
    cases packs <;> simp [startStatement, pure, Except.pure] at hfinish
  | _ => simp [startStatement, pure, Except.pure] at hfinish

variable {w : World}

theorem mem_close {id : Nat} {session : Session} :
    session ∈ (w.close id).sessions ↔ session ∈ w.sessions ∧ session.id ≠ id := by
  simp [World.close]

/-- Closing a session frees its locks and disturbs nobody. -/
theorem sound_close (h : Sound w) (id : Nat) : Sound (w.close id) := by
  refine ⟨h.numbered, ?_, ?_, ?_⟩
  · exact h.session_ids.sublist (List.filter_sublist.map _)
  · intro first hfirst second hsecond
    exact h.exclusive first (mem_close.mp hfirst).1 second (mem_close.mp hsecond).1
  · intro session hsession
    exact h.sessions session (mem_close.mp hsession).1

/-- The other sessions know nothing that a commit changes. -/
theorem sound_commit (h : Sound w) {id : Nat} {new : Audit} {jobs : Jobs.JobTable}
    (hnumbered : Numbered (w.db.store.audits ++ [new]))
    (helsewhere : ∀ session ∈ w.sessions, session.id ≠ id →
      Elsewhere session.held w.db.store.audits new) :
    Sound { w.close id with db := committed w.db (w.db.store.audits ++ [new]) jobs } := by
  have hclosed := sound_close h id
  refine ⟨hnumbered, hclosed.session_ids, hclosed.exclusive, ?_⟩
  intro session hsession
  obtain ⟨hmem, hid⟩ := mem_close.mp hsession
  have hsound := h.sessions session hmem
  unfold SessionSound at hsound ⊢
  split
  · trivial
  next request progress htransaction =>
    rw [htransaction] at hsound
    exact startSound_append (helsewhere session hmem hid) hsound

/-- The snapshot lock keeps a revision away from the other transactions. -/
theorem elsewhere_locked (h : Sound w) {session other : Session} (hsession : session ∈ w.sessions)
    (hother : other ∈ w.sessions) (hid : other.id ≠ session.id) {source new : Audit}
    (hlocked : OnSnapshot w.db.store.audits session.held source)
    (hsnapshot : new.snapshotId = source.snapshotId)
    (hprevious : new.previousAuditId = some source.auditId) :
    Elsewhere other.held w.db.store.audits new := by
  intro mine hmine
  have hdifferent : source.snapshotId ≠ mine.snapshotId := by
    intro hsame
    have hrow := hmine.2
    rw [← hsame] at hrow
    exact hid (h.exclusive other hother session hsession _ hrow hlocked.2)
  refine ⟨fun he => hdifferent (hsnapshot.symm.trans he), fun he => hdifferent ?_⟩
  rw [hprevious] at he
  obtain ⟨first, hfirst, hfirstId, hfirstSnapshot⟩ := hlocked.1
  obtain ⟨second, hsecond, hsecondId, hsecondSnapshot⟩ := hmine.1
  have hrows : first = second := by
    refine Table.eq_of_key h.numbered.ids hfirst hsecond ?_
    rw [hfirstId, hsecondId]
    exact Option.some.inj he
  rw [← hfirstSnapshot, ← hsecondSnapshot, hrows]

/-- The first revision of a snapshot concerns no re-evaluation. -/
theorem elsewhere_initial {new : Audit} (hempty : auditsOf audits new.snapshotId = [])
    (hprevious : new.previousAuditId = none) : Elsewhere held audits new := by
  intro mine hmine
  obtain ⟨row, hrow, -, hsnapshot⟩ := hmine.1
  refine ⟨fun hsame => ?_, by simp [hprevious]⟩
  have hmem : row ∈ auditsOf audits new.snapshotId :=
    mem_auditsOf.mpr ⟨hrow, hsnapshot.trans hsame.symm⟩
  rw [hempty] at hmem
  cases hmem

/-- A session goes on, with one more lock that nobody else held. -/
theorem sound_next (h : Sound w) {session : Session} (hsession : session ∈ w.sessions)
    {row : Option Row} (hfree : ¬row.any (w.blocked session.id)) {transaction : Transaction}
    (hnext : SessionSound w.db.store.audits (advanced transaction row session)) :
    Sound { w with
      sessions := Table.modify Session.id w.sessions session.id (advanced transaction row) } := by
  have hkey : ∀ old, (advanced transaction row old).id = old.id := fun _ => rfl
  have hall : ∀ old ∈ Table.modify Session.id w.sessions session.id (advanced transaction row),
      (old ∈ w.sessions ∧ old.id ≠ session.id) ∨ old = advanced transaction row session := by
    intro old hold
    obtain ⟨before, hbefore, rfl⟩ := Table.mem_modify.mp hold
    by_cases hid : before.id = session.id
    · rw [if_pos hid, Table.eq_of_key h.session_ids hbefore hsession hid]
      exact .inr rfl
    · rw [if_neg hid]
      exact .inl ⟨hbefore, hid⟩
  -- a row of the advanced session is not held by the others
  have happart : ∀ other ∈ w.sessions, other.id ≠ session.id → ∀ r,
      r ∈ (advanced transaction row session).held → r ∉ other.held := by
    intro other hother hid r hr hheld
    rcases List.mem_append.mp hr with hnew | hold
    · obtain rfl : row = some r := by simpa [Option.mem_toList] using hnew
      apply hfree
      refine List.any_eq_true.mpr ⟨other, hother, ?_⟩
      simp [hid, hheld]
    · exact hid (h.exclusive other hother session hsession r hheld hold)
  refine ⟨h.numbered, ?_, ?_, ?_⟩
  · rw [Table.modify_keys hkey]
    exact h.session_ids
  · intro first hfirst second hsecond r hr hr'
    rcases hall first hfirst with ⟨hfirst, hfirstId⟩ | rfl
    · rcases hall second hsecond with ⟨hsecond, -⟩ | rfl
      · exact h.exclusive first hfirst second hsecond r hr hr'
      · exact absurd hr (happart first hfirst hfirstId r hr')
    · rcases hall second hsecond with ⟨hsecond, hsecondId⟩ | rfl
      · exact absurd hr' (happart second hsecond hsecondId r hr)
      · rfl
  · intro old hold
    rcases hall old hold with ⟨hold, -⟩ | rfl
    · exact h.sessions old hold
    · exact hnext

theorem sound_advance (h : Sound w) {session : Session} (hsession : session ∈ w.sessions)
    (auditId jobId : UUID) (now : Int) :
    Sound (advance sha256 w session auditId jobId now) := by
  unfold advance
  dsimp only
  split
  · exact h
  next hfree =>
    have hsound := h.sessions session hsession
    cases htransaction : session.transaction with
    | create user request progress =>
      simp only [Transaction.statement]
      cases hstatement : createStatement sha256 w.db user request auditId progress with
      | error error => exact sound_close h session.id
      | ok result =>
        cases result with
        | next progress =>
          rw [htransaction] at hfree
          exact sound_next h hsession hfree trivial
        | finish audits jobs result =>
          obtain ⟨hinsert, hone, hinitial, hprevious⟩ := createStatement_finish hstatement
          obtain ⟨hnumbered, hempty⟩ :=
            numbered_append_initial h.numbered hinsert hone hinitial hprevious
          obtain ⟨rfl, -⟩ := insertAudit?_eq_some hinsert
          exact sound_commit h hnumbered fun other _ _ => elsewhere_initial hempty hprevious
    | start request progress =>
      simp only [SessionSound, htransaction] at hsound
      simp only [Transaction.statement]
      cases hstatement : startStatement sha256 w.db request auditId jobId now progress with
      | error error => exact sound_close h session.id
      | ok result =>
        cases result with
        | next next =>
          rw [htransaction] at hfree
          exact sound_next h hsession hfree
            (startStatement_next h.numbered hsound hstatement)
        | finish audits jobs result =>
          rcases startStatement_finish h.numbered hsound hstatement with
            rfl | ⟨hnumbered, source, hlocked, rfl, hsnapshot, hprevious⟩
          · have hclosed := sound_close h session.id
            exact ⟨h.numbered, hclosed.session_ids, hclosed.exclusive, hclosed.sessions⟩
          · exact sound_commit h hnumbered fun other hother hid =>
              elsewhere_locked h hsession hother hid hlocked hsnapshot hprevious

theorem sound_step (h : Sound w) (event : Event) : Sound (step sha256 w event) := by
  cases event with
  | opened id call =>
    simp only [step]
    split
    next sessions hinsert =>
      obtain ⟨rfl, hfresh⟩ := Table.insert?_eq_some hinsert
      refine ⟨h.numbered, Table.insert?_nodup h.session_ids hinsert, ?_, ?_⟩
      · intro first hfirst second hsecond row hrow hrow'
        rcases List.mem_append.mp hfirst with hfirst | hfirst
        · rcases List.mem_append.mp hsecond with hsecond | hsecond
          · exact h.exclusive first hfirst second hsecond row hrow hrow'
          · rw [List.mem_singleton.mp hsecond] at hrow'
            cases hrow'
        · rw [List.mem_singleton.mp hfirst] at hrow
          cases hrow
      · intro session hsession
        rcases List.mem_append.mp hsession with hold | hnew
        · exact h.sessions session hold
        · rw [List.mem_singleton.mp hnew]
          cases call <;> trivial
    next => exact h
  | advance id auditId jobId now =>
    simp only [step]
    split
    next session hfound =>
      exact sound_advance h (Table.find?_eq_some hfound).1 auditId jobId now
    next => exact h
  | abort id => exact sound_close h id
  | work auditId work =>
    refine ⟨numbered_processed h.numbered auditId work, h.session_ids, h.exclusive, ?_⟩
    intro session hsession
    have hsound := h.sessions session hsession
    unfold SessionSound at hsound ⊢
    split
    · trivial
    next request progress htransaction =>
      rw [htransaction] at hsound
      exact startSound_processed h.numbered auditId work hsound
  | elsewhere db => exact ⟨h.numbered, h.session_ids, h.exclusive, h.sessions⟩

theorem sound_initial (db : Database) : Sound (World.initial db) := by
  refine ⟨numbered_nil, List.nodup_nil, ?_, ?_⟩
  · intro first hfirst
    cases hfirst
  · intro session hsession
    cases hsession

theorem sound_run (h : Sound w) (events : List Event) : Sound (run (step sha256) w events) := by
  have hstep : ∀ w event, Sound w → Sound (step sha256 w event) :=
    fun _ event h => sound_step h event
  exact run_invariant hstep h events

/-- In every interleaving the revisions of each snapshot are 1, …, n in the order of creation,
the initial audits are those of revision 1, and a source has at most one open re-evaluation
for each target. -/
theorem revision_numbering (sha256 : String → String) (db : Database) (events : List Event) :
    let audits := (run (step sha256) (World.initial db) events).db.store.audits
    (∀ snapshotId, ∃ n,
      (auditsOf audits snapshotId).map Audit.revisionNumber = List.range' 1 n) ∧
    (∀ audit ∈ audits, audit.reevaluationReason = .initial ↔ audit.revisionNumber = 1) ∧
    ∀ sourceId target, (audits.filter (activeReevaluation sourceId target)).length ≤ 1 := by
  have hsound := @sound_run sha256 _ (sound_initial db) events
  exact ⟨fun snapshotId => ⟨_, hsound.numbered.revisions snapshotId⟩, hsound.numbered.initial,
    hsound.numbered.single⟩

end ConfigAuditor.Reevaluation.Revisions
