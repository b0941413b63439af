import ConfigAuditor.Reevaluation.Service

/-!
# The revisions of a snapshot

What the table of audits satisfies, and the three things that happen to it: a first revision
is added, the next revision is added, and an audit is processed.
-/
namespace ConfigAuditor.Reevaluation.Numbering

open Library Audits Audits.Creation Audits.Processing Service

/-- The revisions of each snapshot are 1, 2, … in the order of creation, revision 1 is the
initial one, and a source has at most one open re-evaluation for each target. -/
structure Numbered (audits : List Audit) : Prop where
  ids : (audits.map Audit.auditId).Nodup
  revisions : ∀ snapshotId, (auditsOf audits snapshotId).map Audit.revisionNumber =
    List.range' 1 (auditsOf audits snapshotId).length
  initial : ∀ audit ∈ audits, audit.reevaluationReason = .initial ↔ audit.revisionNumber = 1
  pinned : ∀ audit ∈ audits, audit.previousAuditId.isSome →
    ∃ text, Dict.get? audit.versionRefs knowledgePackKey = some (.str text)
  single : ∀ sourceId target,
    (audits.filter (activeReevaluation sourceId target)).length ≤ 1

theorem numbered_nil : Numbered [] := by
  refine ⟨List.nodup_nil, fun _ => rfl, ?_, ?_, fun _ _ => Nat.zero_le _⟩
  · intro audit haudit
    cases haudit
  · intro audit haudit
    cases haudit

variable {audits : List Audit} {audit : Audit} {snapshotId : UUID}

theorem mem_auditsOf : audit ∈ auditsOf audits snapshotId ↔
    audit ∈ audits ∧ audit.snapshotId = snapshotId := by
  simp [auditsOf]

/-- A snapshot that has audits has a first one. -/
theorem exists_first (h : Numbered audits) (hsome : audit ∈ auditsOf audits snapshotId) :
    ∃ first ∈ auditsOf audits snapshotId, first.revisionNumber = 1 := by
  have hlength : 0 < (auditsOf audits snapshotId).length := List.length_pos_of_mem hsome
  have hone : 1 ∈ (auditsOf audits snapshotId).map Audit.revisionNumber := by
    rw [h.revisions, List.mem_range'_1]
    omega
  obtain ⟨first, hfirst, hrevision⟩ := List.mem_map.mp hone
  exact ⟨first, hfirst, hrevision⟩

theorem foldr_max_range' (n : Nat) : (List.range' 1 n).foldr max 0 = n := by
  have hle : ∀ start n bound, start + n ≤ bound + 1 →
      (List.range' start n).foldr max 0 ≤ bound := by
    intro start n
    induction n generalizing start with
    | zero =>
      intro bound _
      exact Nat.zero_le bound
    | succ n ih =>
      intro bound hbound
      rw [List.range'_succ, List.foldr_cons]
      have hrest := ih (start + 1) bound (by omega)
      omega
  have hge : ∀ start n, 0 < n → start + n ≤ (List.range' start n).foldr max 0 + 1 := by
    intro start n
    induction n generalizing start with
    | zero => omega
    | succ n ih =>
      intro _
      rw [List.range'_succ, List.foldr_cons]
      by_cases hn : 0 < n
      · have hrest := ih (start + 1) hn
        omega
      · omega
  by_cases hn : 0 < n
  · have hupper := hle 1 n n (by omega)
    have hlower := hge 1 n hn
    omega
  · have hzero : n = 0 := by omega
    rw [hzero]
    rfl

/-- `max(revision_number)` counts the audits of the snapshot. -/
theorem latestRevision_eq (h : Numbered audits) (snapshotId : UUID) :
    latestRevision audits snapshotId = (auditsOf audits snapshotId).length := by
  rw [latestRevision, h.revisions, foldr_max_range']

theorem auditsOf_append (snapshotId : UUID) : auditsOf (audits ++ [audit]) snapshotId =
    auditsOf audits snapshotId ++ if audit.snapshotId = snapshotId then [audit] else [] := by
  unfold auditsOf
  rw [List.filter_append]
  by_cases h : audit.snapshotId = snapshotId <;> simp [h]

/-- The next number in a snapshot keeps the numbering. -/
theorem revisions_append (h : Numbered audits)
    (hnext : audit.revisionNumber = (auditsOf audits audit.snapshotId).length + 1)
    (snapshotId : UUID) :
    (auditsOf (audits ++ [audit]) snapshotId).map Audit.revisionNumber =
      List.range' 1 (auditsOf (audits ++ [audit]) snapshotId).length := by
  rw [auditsOf_append]
  by_cases hhere : audit.snapshotId = snapshotId
  · rw [if_pos hhere, List.map_append, h.revisions, List.length_append, List.length_singleton,
      List.range'_1_concat, List.map_singleton, hnext, hhere, Nat.add_comm 1]
  · rw [if_neg hhere, List.append_nil, h.revisions]

/-- A first revision goes into a snapshot without audits. -/
theorem numbered_append_initial {audits' : List Audit} (h : Numbered audits)
    (hinsert : insertAudit? audits audit = some audits') (hone : audit.revisionNumber = 1)
    (hinitial : audit.reevaluationReason = .initial) (hprevious : audit.previousAuditId = none) :
    Numbered audits' ∧ auditsOf audits audit.snapshotId = [] := by
  obtain ⟨rfl, hids, hfree⟩ := insertAudit?_eq_some hinsert
  have hempty : auditsOf audits audit.snapshotId = [] := by
    refine List.eq_nil_iff_forall_not_mem.mpr fun other hother => ?_
    obtain ⟨first, hfirst, hrevision⟩ := exists_first h hother
    obtain ⟨hmem, hsnapshot⟩ := mem_auditsOf.mp hfirst
    exact hfree first hmem hsnapshot (hrevision.trans hone.symm)
  refine ⟨⟨Table.append_nodup h.ids hids, ?_, ?_, ?_, ?_⟩, hempty⟩
  · apply revisions_append h
    rw [hempty, hone, List.length_nil]
  · intro other hother
    rcases List.mem_append.mp hother with hold | hnew
    · exact h.initial other hold
    · rw [List.mem_singleton.mp hnew]
      exact ⟨fun _ => hone, fun _ => hinitial⟩
  · intro other hother hsome
    rcases List.mem_append.mp hother with hold | hnew
    · exact h.pinned other hold hsome
    · rw [List.mem_singleton.mp hnew, hprevious] at hsome
      cases hsome
  · intro sourceId target
    have hother : activeReevaluation sourceId target audit = false := by
      simp [activeReevaluation, hprevious]
    rw [List.filter_append, List.filter_singleton, hother, cond_false, List.append_nil]
    exact h.single sourceId target

theorem knowledgePack_reevaluationAudit (request : Request) (source : Audit) (latest : Nat)
    (auditId : UUID) :
    Dict.get? (reevaluationAudit request source latest auditId).versionRefs knowledgePackKey =
      some (.str request.target.str) := by
  unfold reevaluationAudit mergeRefs
  cases request.assessmentPack with
  | none => simp [Dict.get?_set]
  | some packId => simp [Dict.get?_set, knowledgePackKey]

/-- A re-evaluation takes the next number of a snapshot that has audits. -/
theorem numbered_append_reevaluation {audits' : List Audit} {request : Request} {source : Audit}
    {latest : Nat} {auditId : UUID} (h : Numbered audits)
    (hinsert : insertAudit? audits (reevaluationAudit request source latest auditId) =
      some audits')
    (hsome : audit ∈ auditsOf audits source.snapshotId)
    (hlatest : latest = (auditsOf audits source.snapshotId).length)
    (hfree : audits.filter (activeReevaluation source.auditId request.target) = []) :
    Numbered audits' := by
  obtain ⟨rfl, hids, -⟩ := insertAudit?_eq_some hinsert
  have hpack := knowledgePack_reevaluationAudit request source latest auditId
  have hpositive : 0 < latest := hlatest ▸ List.length_pos_of_mem hsome
  refine ⟨Table.append_nodup h.ids hids, ?_, ?_, ?_, ?_⟩
  · apply revisions_append h
    exact congrArg (· + 1) hlatest
  · intro other hother
    rcases List.mem_append.mp hother with hold | hnew
    · exact h.initial other hold
    · rw [List.mem_singleton.mp hnew]
      simp only [reevaluationAudit, reduceCtorEq, false_iff]
      omega
  · intro other hother hprevious
    rcases List.mem_append.mp hother with hold | hnew
    · exact h.pinned other hold hprevious
    · rw [List.mem_singleton.mp hnew]
      exact ⟨_, hpack⟩
  · intro sourceId target
    rw [List.filter_append, List.filter_singleton]
    cases hnew : activeReevaluation sourceId target
        (reevaluationAudit request source latest auditId) with
    | false =>
      rw [cond_false, List.append_nil]
      exact h.single sourceId target
    | true =>
      -- the new audit is the open re-evaluation, and there was none
      have hsame : source.auditId = sourceId ∧ request.target.str = target.str := by
        simp only [activeReevaluation, hpack, Bool.and_eq_true, beq_iff_eq, Option.some.injEq,
          PyValue.str.injEq] at hnew
        exact ⟨Option.some.inj hnew.1.1, hnew.1.2⟩
      have htarget : request.target = target := UUID.str_injective hsame.2
      rw [← hsame.1, ← htarget, hfree, cond_true]
      exact Nat.le_refl 1

/-- The table after one audit was processed. -/
def processed (audits : List Audit) (auditId : UUID) (work : Work) : List Audit :=
  Table.modify Audit.auditId audits auditId (worked work)

/-- A row after the work on one audit. -/
def workedRow (auditId : UUID) (work : Work) (audit : Audit) : Audit :=
  if audit.auditId = auditId then worked work audit else audit

theorem processed_eq (audits : List Audit) (auditId : UUID) (work : Work) :
    processed audits auditId work = audits.map (workedRow auditId work) := rfl

theorem workedRow_sameRevision (auditId : UUID) (work : Work) (audit : Audit) :
    SameRevision audit (workedRow auditId work audit) := by
  unfold workedRow
  split
  · exact worked_sameRevision work audit
  · exact ⟨rfl, rfl, rfl, rfl, rfl, rfl, rfl⟩

theorem auditsOf_processed (audits : List Audit) (auditId : UUID) (work : Work)
    (snapshotId : UUID) : auditsOf (processed audits auditId work) snapshotId =
      (auditsOf audits snapshotId).map (workedRow auditId work) := by
  unfold auditsOf
  rw [processed_eq, List.filter_map]
  congr 1
  refine List.filter_congr fun audit _ => ?_
  rw [Function.comp_apply, (workedRow_sameRevision auditId work audit).snapshotId]

/-- Only an open re-evaluation is one afterwards. -/
theorem activeReevaluation_workedRow (h : Numbered audits) (haudit : audit ∈ audits)
    {auditId sourceId target : UUID} {work : Work}
    (hactive : activeReevaluation sourceId target (workedRow auditId work audit) = true) :
    activeReevaluation sourceId target audit = true := by
  unfold workedRow at hactive
  split at hactive
  · simp only [activeReevaluation, Bool.and_eq_true, beq_iff_eq] at hactive ⊢
    obtain ⟨⟨hprevious, hpack⟩, hstatus⟩ := hactive
    rw [(worked_sameRevision work audit).previousAuditId] at hprevious
    obtain ⟨text, htext⟩ := h.pinned audit haudit (by rw [hprevious]; rfl)
    have hkept := knowledgePack_worked work htext
    exact ⟨⟨hprevious, htext.trans (hkept.symm.trans hpack)⟩, isActive_worked hstatus⟩
  · exact hactive

theorem numbered_processed (h : Numbered audits) (auditId : UUID) (work : Work) :
    Numbered (processed audits auditId work) := by
  refine ⟨?_, ?_, ?_, ?_, ?_⟩
  · rw [processed, Table.modify_keys fun old => (worked_sameRevision work old).auditId]
    exact h.ids
  · intro snapshotId
    rw [auditsOf_processed, List.map_map, List.length_map, ← h.revisions]
    exact List.map_congr_left fun audit _ =>
      (workedRow_sameRevision auditId work audit).revisionNumber
  · intro audit haudit
    obtain ⟨old, hold, rfl⟩ := List.mem_map.mp (processed_eq audits auditId work ▸ haudit)
    have hsame := workedRow_sameRevision auditId work old
    rw [hsame.reevaluationReason, hsame.revisionNumber]
    exact h.initial old hold
  · intro audit haudit hprevious
    obtain ⟨old, hold, rfl⟩ := List.mem_map.mp (processed_eq audits auditId work ▸ haudit)
    rw [(workedRow_sameRevision auditId work old).previousAuditId] at hprevious
    obtain ⟨text, htext⟩ := h.pinned old hold hprevious
    unfold workedRow
    split
    · exact ⟨text, knowledgePack_worked work htext⟩
    · exact ⟨text, htext⟩
  · intro sourceId target
    rw [processed_eq, List.filter_map, List.length_map]
    refine Nat.le_trans ?_ (h.single sourceId target)
    rw [← List.countP_eq_length_filter, ← List.countP_eq_length_filter]
    exact List.countP_mono_left fun audit haudit => activeReevaluation_workedRow h haudit

/-- Where there was no open re-evaluation, processing makes none. -/
theorem free_processed (h : Numbered audits) {sourceId target : UUID}
    (hfree : audits.filter (activeReevaluation sourceId target) = []) (auditId : UUID)
    (work : Work) :
    (processed audits auditId work).filter (activeReevaluation sourceId target) = [] := by
  refine List.filter_eq_nil_iff.mpr fun audit haudit hactive => ?_
  obtain ⟨old, hold, rfl⟩ := List.mem_map.mp (processed_eq audits auditId work ▸ haudit)
  exact List.filter_eq_nil_iff.mp hfree old hold (activeReevaluation_workedRow h hold hactive)

end ConfigAuditor.Reevaluation.Numbering
