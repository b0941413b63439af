import Mathlib.Data.List.Count
import ConfigAuditor.Audits.Moves

/-!
# The life of an audit

Where the row of an audit and its handler are, seen together: the handler finds the row as it
left it, no other party has written in between, and what has ended stays as it is.
-/
namespace ConfigAuditor.Audits.Lifecycle

open Library Processing Coordinator Workers Views Moves
open Jobs (Job claimed)
open Jobs.LeaseProtocol (RowStep)
open Compliance.Model (FindingVerdict)

/-! ## Where the row is -/

/-- The row is being processed and is in a stage. -/
def InStage (audit : Audit) (stage : AuditProcessingStage) : Prop :=
  audit.status = .processing ∧ audit.processingStage = some stage

/-- Submitted, and not ended. -/
def Unfinished (audit : Audit) : Prop := audit.status = .queued ∨ audit.status = .processing

/-- The stage before a checkpoint. -/
def stageBefore : Checkpoint → AuditProcessingStage
  | .parsing => .identifying
  | .interpreting => .parsing
  | .resolvingState => .interpreting
  | .evaluating => .resolvingState

/-- What the coordinator relies on at a position: the stage it has checkpointed, what it has
read, and what it has written. -/
def Expects (record : Record) : Position → Prop
  | .called => record.audit.status = .queued
  | .begun | .identifying | .rejected | .pinning _ | .loading _ => InStage record.audit .identifying
  | .pinRead _ refs => InStage record.audit .identifying ∧ record.audit.versionRefs = refs
  | .checkpoint _ _ next => InStage record.audit (stageBefore next)
  | .working _ _ stage => InStage record.audit stage.stage
  | .finalizing findings => InStage record.audit .evaluating ∧ record.findings = findings
  | .failing => Unfinished record.audit
  | .failingAt stage => Unfinished record.audit ∧
    (record.audit.status = .processing → stage = record.audit.processingStage)
  | .returned => isTerminal record.audit.status = true
  | .raised => record.audit.status ≠ .draft

/-- The counts of the findings, as `_finalize` writes them. -/
def verdictCounts (findings : List Finding) : List (String × PyValue) :=
  countsOf (findings.map (verdictValue ·.verdict))

def severityCounts (findings : List Finding) : List (String × PyValue) :=
  countsOf (findings.map (severityValue ·.severity))

/-- The row by itself: while it is processed it has begun and not ended, and when evaluation
has ended it counts the findings. -/
structure Proper (record : Record) : Prop where
  processing : record.audit.status = .processing →
    record.audit.startedAt.isSome = true ∧ record.audit.completedAt = none
  staged : record.audit.status = .processing → record.audit.processingStage.isSome = true
  ended : isTerminal record.audit.status = true → record.audit.completedAt.isSome = true
  counted : isTerminal record.audit.status = true → record.audit.status ≠ .failed →
    record.audit.verdictCounts = verdictCounts record.findings ∧
      record.audit.severityCounts = severityCounts record.findings ∧
      record.audit.status = terminalStatus record.audit.verdictCounts ∧
      record.audit.processingStage = some .finalizing

/-- How far an audit has come. -/
def rank (audit : Audit) : Nat :=
  match audit.status with
  | .draft => 0
  | .queued => 1
  | .processing =>
    match audit.processingStage with
    | none => 2
    | some .validating => 3
    | some .identifying => 4
    | some .parsing => 5
    | some .interpreting => 6
    | some .resolvingState => 7
    | some .evaluating => 8
    | some .finalizing => 9
  | .completed | .completedWithUnknowns | .completedWithErrors | .failed => 10

/-- The row is as before, or it fails in the stage that it was processed in. -/
def FailsInPlace (audit audit' : Audit) : Prop :=
  audit'.status = .failed → audit' = audit ∨
    audit.status = .processing ∧ audit'.processingStage = audit.processingStage

/-- An audit only goes forward, and what has ended stays. -/
structure Forward (record record' : Record) : Prop where
  same : SameRevision record.audit record'.audit
  rank_le : rank record.audit ≤ rank record'.audit
  final : isTerminal record.audit.status = true → record' = record
  begun : 2 ≤ rank record.audit → record'.audit.startedAt = record.audit.startedAt

theorem Forward.refl (record : Record) : Forward record record :=
  ⟨⟨rfl, rfl, rfl, rfl, rfl, rfl, rfl⟩, le_rfl, fun _ => rfl, fun _ => rfl⟩

theorem Forward.trans {first second third : Record} (h : Forward first second)
    (h' : Forward second third) : Forward first third := by
  refine ⟨?_, h.rank_le.trans h'.rank_le, fun hended => ?_, fun hbegun => ?_⟩
  · have hs := h.same
    have hs' := h'.same
    exact ⟨hs'.auditId.trans hs.auditId, hs'.organizationId.trans hs.organizationId,
      hs'.deviceId.trans hs.deviceId, hs'.snapshotId.trans hs.snapshotId,
      hs'.revisionNumber.trans hs.revisionNumber, hs'.previousAuditId.trans hs.previousAuditId,
      hs'.reevaluationReason.trans hs.reevaluationReason⟩
  · obtain rfl := h.final hended
    exact h'.final hended
  · exact (h'.begun (hbegun.trans h.rank_le)).trans (h.begun hbegun)

/-! ## One transaction of the coordinator -/

section Transaction

variable {record record' : Record} {position position' : Position}

theorem not_terminal_of_unfinished {audit : Audit} (h : Unfinished audit) :
    isTerminal audit.status = false := by
  rcases h with h | h <;> rw [h] <;> rfl

theorem InStage.unfinished {audit : Audit} {stage : AuditProcessingStage} (h : InStage audit stage) :
    Unfinished audit := .inr h.1

/-- Before `run` or `mark_failed` has ended, the audit has not. -/
theorem unfinished_of_expects (h : Expects record position) (hgoing : position.ended = false) :
    Unfinished record.audit := by
  cases position with
  | called => exact .inl h
  | begun => exact InStage.unfinished h
  | identifying => exact InStage.unfinished h
  | rejected => exact InStage.unfinished h
  | pinning _ => exact InStage.unfinished h
  | pinRead _ _ => exact h.1.unfinished
  | loading _ => exact InStage.unfinished h
  | checkpoint _ _ _ => exact InStage.unfinished h
  | working _ _ _ => exact InStage.unfinished h
  | finalizing _ => exact h.1.unfinished
  | failing => exact h
  | failingAt _ => exact h.1
  | returned => cases hgoing
  | raised => cases hgoing

theorem expects_caught (h : Expects record position) : Expects record position.caught := by
  cases hended : position.ended with
  | false =>
    have hunfinished := unfinished_of_expects h hended
    have hdraft : record.audit.status ≠ .draft := by
      rcases hunfinished with hstatus | hstatus <;> simp [hstatus]
    cases position <;> first | exact hunfinished | exact hdraft | cases hended
  | true => cases position <;> first | exact h | cases hended

/-- What a transaction leads to. -/
structure Lives (record record' : Record) (position' : Position) : Prop where
  proper : Proper record'
  expects : Expects record' position'
  forward : Forward record record'
  fails : FailsInPlace record.audit record'.audit

theorem lives_same (hproper : Proper record) (hexpects : Expects record position') :
    Lives record record position' := ⟨hproper, hexpects, .refl record, fun _ => .inl rfl⟩

/-- The audit is processed, and not less far than before. -/
theorem lives_processing (hunfinished : Unfinished record.audit)
    (hsame : SameRevision record.audit record'.audit)
    (hstage : record'.audit.status = .processing)
    (hstaged : record'.audit.processingStage.isSome = true)
    (hstarted : record'.audit.startedAt.isSome = true) (hcompleted : record'.audit.completedAt = none)
    (hbegun : record.audit.status = .processing →
      record'.audit.startedAt = record.audit.startedAt)
    (hrank : rank record.audit ≤ rank record'.audit) (hexpects : Expects record' position') :
    Lives record record' position' := by
  have hnot : isTerminal record'.audit.status = false := by
    rw [hstage]
    rfl
  refine ⟨⟨fun _ => ⟨hstarted, hcompleted⟩, fun _ => hstaged, fun h => ?_, fun h => ?_⟩, hexpects,
    ⟨hsame, hrank, fun h => ?_, fun h => ?_⟩, fun h => ?_⟩
  · rw [hnot] at h
    cases h
  · rw [hnot] at h
    cases h
  · rw [not_terminal_of_unfinished hunfinished] at h
    cases h
  · rcases hunfinished with hqueued | hprocessing
    · simp [rank, hqueued] at h
    · exact hbegun hprocessing
  · rw [hstage] at h
    cases h

/-- The audit ends. -/
theorem lives_ended (hunfinished : Unfinished record.audit)
    (hsame : SameRevision record.audit record'.audit)
    (hended : isTerminal record'.audit.status = true)
    (hcompleted : record'.audit.completedAt.isSome = true)
    (hstarted : record'.audit.startedAt = record.audit.startedAt)
    (hcounted : record'.audit.status ≠ .failed →
      record'.audit.verdictCounts = verdictCounts record'.findings ∧
        record'.audit.severityCounts = severityCounts record'.findings ∧
        record'.audit.status = terminalStatus record'.audit.verdictCounts ∧
        record'.audit.processingStage = some .finalizing)
    (hfails : FailsInPlace record.audit record'.audit)
    (hexpects : Expects record' position') : Lives record record' position' := by
  have hrank : rank record'.audit = 10 := by
    unfold rank
    cases hstatus : record'.audit.status <;> simp [hstatus, isTerminal] at hended ⊢
  have hrankLe : rank record.audit ≤ 10 := by
    rcases hunfinished with hstatus | hstatus
    · simp [rank, hstatus]
    · simp only [rank, hstatus]
      split <;> omega
  refine ⟨⟨fun h => ?_, fun h => ?_, fun _ => hcompleted, fun _ => hcounted⟩, hexpects,
    ⟨hsame, hrank ▸ hrankLe, fun h => ?_, fun _ => hstarted⟩, hfails⟩
  · rw [h] at hended
    cases hended
  · rw [h] at hended
    cases hended
  · rw [not_terminal_of_unfinished hunfinished] at h
    cases h

/-- The writes that leave the row in its stage. -/
theorem lives_inStage {audit' : Audit} {stage stage' : AuditProcessingStage}
    {findings' : List Finding} (hproper : Proper record) (hstage : InStage record.audit stage)
    (hsame : SameRevision record.audit audit') (hstage' : InStage audit' stage')
    (hstarted : audit'.startedAt = record.audit.startedAt)
    (hcompleted : audit'.completedAt = record.audit.completedAt)
    (hrank : rank record.audit ≤ rank audit')
    (hexpects : Expects { audit := audit', findings := findings' } position') :
    Lives record { audit := audit', findings := findings' } position' := by
  obtain ⟨hbegun, hopen⟩ := hproper.processing hstage.1
  exact lives_processing hstage.unfinished hsame hstage'.1 (by rw [hstage'.2]; rfl)
    (by rw [hstarted]; exact hbegun)
    (by rw [hcompleted]; exact hopen) (fun _ => hstarted) hrank hexpects

theorem finalizeFailure_processing {stage : Option AuditProcessingStage} {now : Int}
    {audit audit' : Audit} (h : finalizeFailure audit stage now = some audit') :
    audit.status = .processing := by
  unfold finalizeFailure at h
  split at h
  next hprocessing => exact hprocessing
  next => cases h

/-- A row that is processed fails with it. -/
theorem finalizeFailure_eq {stage : Option AuditProcessingStage} {now : Int} {audit audit' : Audit}
    (hopen : audit.completedAt = none) (h : finalizeFailure audit stage now = some audit') :
    audit.status = .processing ∧ audit' =
      { audit with
        processingStage := some ((stage.or audit.processingStage).getD .identifying),
        status := .failed, completedAt := some now } := by
  unfold finalizeFailure at h
  split at h
  next hprocessing =>
    refine ⟨hprocessing, ?_⟩
    rw [← Option.some.inj h, worked, write, if_pos ⟨hprocessing, hopen⟩, Option.getD_some]
  next => cases h

theorem finalizeFailure_lives {stage : Option AuditProcessingStage} {now : Int} {audit : Audit}
    (hproper : Proper record) (hprocessing : record.audit.status = .processing)
    (hstage : stage = record.audit.processingStage)
    (h : finalizeFailure record.audit stage now = some audit)
    (hexpects : audit.status = .failed → Expects { record with audit } position') :
    Lives record { record with audit } position' := by
  obtain ⟨-, haudit⟩ := finalizeFailure_eq (hproper.processing hprocessing).2 h
  have hfailed : audit.status = .failed := by rw [haudit]
  have hkept : audit.processingStage = record.audit.processingStage := by
    obtain ⟨current, hcurrent⟩ := Option.isSome_iff_exists.mp (hproper.staged hprocessing)
    rw [haudit, hstage, hcurrent]
    rfl
  refine lives_ended (.inr hprocessing) ?_ ?_ ?_ ?_ (absurd hfailed)
    (fun _ => .inr ⟨hprocessing, hkept⟩) (hexpects hfailed)
  · rw [haudit]
    exact ⟨rfl, rfl, rfl, rfl, rfl, rfl, rfl⟩
  · rw [hfailed]
    rfl
  · rw [haudit]
    rfl
  · rw [haudit]

/-- The references and the outputs of a stage leave the row where it is. -/
theorem rank_congr {audit audit' : Audit} (hstatus : audit'.status = audit.status)
    (hstage : audit'.processingStage = audit.processingStage) : rank audit' = rank audit := by
  rw [rank, rank, hstatus, hstage]

theorem expects_resolvedAt {resolution : List (String × PyValue)}
    (hstage : InStage record.audit .identifying) : Expects record (resolvedAt resolution) := by
  unfold resolvedAt
  split <;> exact hstage

theorem expects_pinnedResolution (hstage : InStage record.audit .identifying)
    (h : pinnedResolution record.audit = some position') : Expects record position' := by
  simp only [pinnedResolution] at h
  split at h
  · rw [← Option.some.inj h]
    exact hstage
  · split at h
    · rw [← Option.some.inj h]
      exact expects_resolvedAt hstage
    · cases h

/-- A checkpoint leads from one stage to the next. -/
theorem checkpoint_lives {audit : Audit} {next : Checkpoint} (hproper : Proper record)
    (hstage : InStage record.audit (stageBefore next)) (hsame : SameRevision record.audit audit)
    (hstage' : InStage audit next.stage) (hstarted : audit.startedAt = record.audit.startedAt)
    (hcompleted : audit.completedAt = record.audit.completedAt)
    (hexpects : Expects { record with audit } position') :
    Lives record { record with audit } position' := by
  refine lives_inStage hproper hstage hsame hstage' hstarted hcompleted ?_ hexpects
  cases next <;> simp [rank, hstage.1, hstage.2, hstage'.1, hstage'.2, stageBefore, Checkpoint.stage]

theorem pinVersions_lives {audit : Audit} {profileVersionId : String} {pack : UUID}
    {next : Checkpoint} (hproper : Proper record)
    (hstage : InStage record.audit (stageBefore next))
    (h : write record.audit (.pinVersions profileVersionId pack next.stage) = some audit) :
    Lives record { record with audit } (.working profileVersionId pack next) := by
  have hsame := worked_sameRevision (.pinVersions profileVersionId pack next.stage) record.audit
  rw [worked, h, Option.getD_some] at hsame
  simp only [write] at h
  split at h
  · have haudit := Option.some.inj h
    have hnow : InStage audit next.stage := by
      rw [← haudit]
      exact ⟨hstage.1, rfl⟩
    refine checkpoint_lives hproper hstage hsame hnow ?_ ?_ hnow
    · rw [← haudit]
    · rw [← haudit]
  · cases h

section Positions

variable {c : Computed} {profileVersionId : String} {pack : UUID}

theorem called_lives (hqueued : record.audit.status = .queued)
    (h : proceed record c .called = some (record', position')) :
    Lives record record' position' := by
  obtain ⟨audit, hwrite, heq⟩ := Option.map_eq_some_iff.mp h
  obtain ⟨rfl, rfl⟩ := Prod.mk.inj heq
  have hsame := worked_sameRevision (.beginProcessing c.now) record.audit
  rw [worked, hwrite, Option.getD_some] at hsame
  rw [write, if_pos (.inl hqueued)] at hwrite
  obtain rfl := Option.some.inj hwrite
  refine lives_processing (.inl hqueued) hsame rfl rfl rfl rfl ?_ ?_ ⟨rfl, rfl⟩
  · intro hprocessing
    rw [hqueued] at hprocessing
    cases hprocessing
  · simp [rank, hqueued]

theorem identifying_lives (hproper : Proper record) (hstage : InStage record.audit .identifying)
    (h : proceed record c .identifying = some (record', position')) :
    Lives record record' position' := by
  simp only [proceed, write, Option.map_some] at h
  split at h
  · obtain ⟨rfl, rfl⟩ := Prod.mk.inj (Option.some.inj h)
    exact lives_inStage hproper hstage ⟨rfl, rfl, rfl, rfl, rfl, rfl, rfl⟩ hstage rfl rfl
      (rank_congr rfl rfl).ge (expects_resolvedAt hstage)
  · cases h

/-- A profile that is not resolved ends the audit where it stands, in its first stage. -/
theorem rejected_lives (hproper : Proper record) (hstage : InStage record.audit .identifying)
    (h : proceed record c .rejected = some (record', position')) :
    Lives record record' position' := by
  obtain ⟨audit, hfailed, heq⟩ := Option.map_eq_some_iff.mp h
  obtain ⟨rfl, rfl⟩ := Prod.mk.inj heq
  refine finalizeFailure_lives hproper hstage.1 hstage.2.symm hfailed fun hstatus => ?_
  show isTerminal audit.status = true
  rw [hstatus]
  rfl

theorem pinning_lives (hproper : Proper record) (hstage : InStage record.audit .identifying)
    (h : proceed record c (.pinning profileVersionId) = some (record', position')) :
    Lives record record' position' := by
  simp only [proceed] at h
  split at h
  · obtain ⟨rfl, rfl⟩ := Prod.mk.inj (Option.some.inj h)
    exact lives_same hproper hstage
  · obtain ⟨rfl, rfl⟩ := Prod.mk.inj (Option.some.inj h)
    exact lives_same hproper ⟨hstage, rfl⟩

theorem proceed_checkpoint_lives {next : Checkpoint} (hproper : Proper record)
    (hstage : InStage record.audit (stageBefore next))
    (h : proceed record c (.checkpoint profileVersionId pack next) = some (record', position')) :
    Lives record record' position' := by
  cases next with
  | evaluating =>
    obtain ⟨audit, hpinned, heq⟩ := Option.map_eq_some_iff.mp h
    obtain ⟨rfl, rfl⟩ := Prod.mk.inj heq
    obtain ⟨packs, -, -, -, rfl⟩ := pinCompliance_cases hpinned
    exact checkpoint_lives hproper hstage ⟨rfl, rfl, rfl, rfl, rfl, rfl, rfl⟩ ⟨hstage.1, rfl⟩
      rfl rfl ⟨hstage.1, rfl⟩
  | _ =>
    obtain ⟨audit, hwrite, heq⟩ := Option.map_eq_some_iff.mp h
    obtain ⟨rfl, rfl⟩ := Prod.mk.inj heq
    exact pinVersions_lives hproper hstage hwrite

theorem working_lives {stage : Checkpoint} (hproper : Proper record)
    (hstage : InStage record.audit stage.stage)
    (h : proceed record c (.working profileVersionId pack stage) = some (record', position')) :
    Lives record record' position' := by
  cases stage with
  | evaluating =>
    simp only [proceed, if_pos hstage.1] at h
    obtain ⟨rfl, rfl⟩ := Prod.mk.inj (Option.some.inj h)
    cases hcoverage : c.coverage with
    | none =>
      exact lives_inStage hproper hstage ⟨rfl, rfl, rfl, rfl, rfl, rfl, rfl⟩ hstage rfl rfl
        le_rfl ⟨hstage, rfl⟩
    | some coverage =>
      exact lives_inStage hproper hstage ⟨rfl, rfl, rfl, rfl, rfl, rfl, rfl⟩ hstage rfl rfl
        (rank_congr rfl rfl).ge ⟨hstage, rfl⟩
  | _ =>
    obtain ⟨rfl, rfl⟩ := Prod.mk.inj (Option.some.inj h)
    exact lives_same hproper hstage

theorem finalizing_lives (hstage : InStage record.audit .evaluating)
    (h : proceed record c (.finalizing record.findings) = some (record', position')) :
    Lives record record' position' := by
  simp only [proceed, write, if_pos hstage.1, Option.map_some] at h
  obtain ⟨rfl, rfl⟩ := Prod.mk.inj (Option.some.inj h)
  have hend := terminalStatus_inactive (verdictCounts record.findings)
  have hterminal : isTerminal (terminalStatus (verdictCounts record.findings)) = true := by
    rcases hend with hend | hend | hend <;> rw [hend] <;> rfl
  have hnot : terminalStatus (verdictCounts record.findings) ≠ .failed := by
    rcases hend with hend | hend | hend <;> rw [hend] <;> decide
  exact lives_ended hstage.unfinished ⟨rfl, rfl, rfl, rfl, rfl, rfl, rfl⟩ hterminal rfl rfl
    (fun _ => ⟨rfl, rfl, rfl, rfl⟩) (fun hfailed => absurd hfailed hnot) hterminal

/-- `mark_failed` ends an audit that is processed in the stage it has read, and leaves another
where it is. -/
theorem failingAt_lives {stage : Option AuditProcessingStage} (hproper : Proper record)
    (hunfinished : Unfinished record.audit)
    (hread : record.audit.status = .processing → stage = record.audit.processingStage)
    (h : proceed record c (.failingAt stage) = some (record', position')) :
    Lives record record' position' := by
  obtain ⟨rfl, rfl⟩ := Prod.mk.inj (Option.some.inj h)
  cases hfailed : finalizeFailure record.audit stage c.now with
  | none =>
    refine lives_same hproper ?_
    rcases hunfinished with hstatus | hstatus <;> simp [Expects, hstatus]
  | some audit =>
    have hprocessing := finalizeFailure_processing hfailed
    show Lives record { record with audit } .raised
    refine finalizeFailure_lives hproper hprocessing (hread hprocessing) hfailed fun hstatus => ?_
    show audit.status ≠ .draft
    rw [hstatus]
    decide

end Positions

theorem proceed_lives {c : Computed} (hproper : Proper record) (hexpects : Expects record position)
    (h : proceed record c position = some (record', position')) :
    Lives record record' position' := by
  cases position with
  | called => exact called_lives hexpects h
  | begun =>
    obtain ⟨next, hnext, heq⟩ := Option.map_eq_some_iff.mp h
    obtain ⟨rfl, rfl⟩ := Prod.mk.inj heq
    exact lives_same hproper (expects_pinnedResolution hexpects hnext)
  | identifying => exact identifying_lives hproper hexpects h
  | rejected => exact rejected_lives hproper hexpects h
  | pinning profileVersionId => exact pinning_lives hproper hexpects h
  | pinRead profileVersionId refs =>
    obtain ⟨hstage, -⟩ := hexpects
    obtain ⟨rfl, rfl⟩ := Prod.mk.inj (Option.some.inj h)
    exact lives_inStage hproper hstage ⟨rfl, rfl, rfl, rfl, rfl, rfl, rfl⟩ hstage rfl rfl
      (rank_congr rfl rfl).ge hstage
  | checkpoint profileVersionId pack next => exact proceed_checkpoint_lives hproper hexpects h
  | working profileVersionId pack stage => exact working_lives hproper hexpects h
  | finalizing findings =>
    obtain ⟨hstage, rfl⟩ := hexpects
    exact finalizing_lives hstage h
  | failing =>
    obtain ⟨rfl, rfl⟩ := Prod.mk.inj (Option.some.inj h)
    exact lives_same hproper ⟨hexpects, fun _ => rfl⟩
  | failingAt stage =>
    obtain ⟨hunfinished, hread⟩ := hexpects
    exact failingAt_lives hproper hunfinished hread h
  | loading _ | returned | raised =>
    obtain ⟨rfl, rfl⟩ := Prod.mk.inj (Option.some.inj h)
    exact lives_same hproper hexpects

theorem advance_lives {outcome : Outcome} (hproper : Proper record)
    (hexpects : Expects record position)
    (h : advance record position outcome = (record', position')) :
    Lives record record' position' := by
  cases outcome with
  | proceeds computed =>
    rw [advance] at h
    cases hproceed : proceed record computed position with
    | none =>
      rw [hproceed] at h
      obtain ⟨rfl, rfl⟩ := Prod.mk.inj h
      exact lives_same hproper (expects_caught hexpects)
    | some result =>
      rw [hproceed] at h
      exact proceed_lives hproper hexpects (hproceed.trans (congrArg some h))
  | declared =>
    obtain ⟨rfl, rfl⟩ := Prod.mk.inj h
    exact lives_same hproper (expects_caught hexpects)
  | undeclared =>
    obtain ⟨rfl, rfl⟩ := Prod.mk.inj h
    split
    next => exact lives_same hproper hexpects
    next hgoing =>
      refine lives_same hproper ?_
      have hunfinished := unfinished_of_expects hexpects (Bool.not_eq_true _ ▸ hgoing)
      rcases hunfinished with hstatus | hstatus <;> simp [Expects, hstatus]

end Transaction

/-! ## One move -/

/-- What the handler of an audit's job relies on. -/
def HandlerExpects (record : Record) : Handler → Prop
  | .entered => record.audit.status = .queued
  | .running auditId organizationId position => auditId = record.audit.auditId ∧
    organizationId = record.audit.organizationId ∧ Expects record position
  | .other => False
  | .done _ => record.audit.status ≠ .draft

/-- Where an audit stands: not there yet, a draft, waiting for a worker, with the worker that
claimed its job, or left by that worker. -/
inductive Standing : View → Prop
  | absent {findings : List Finding} : Standing ⟨none, findings, none, none⟩
  | draft {audit : Audit} (hdraft : audit.status = .draft) {findings : List Finding} :
    Standing ⟨some audit, findings, none, none⟩
  | waiting {audit : Audit} (hwaiting : audit.status = .queued) {findings : List Finding}
    {job : Job} (hqueued : job.status = .queued) :
    Standing ⟨some audit, findings, some job, none⟩
  | handled {audit : Audit} {findings : List Finding} (hproper : Proper { audit, findings })
    {job : Job} (hclaimed : job.status ≠ .queued) {handler : Handler}
    (hexpects : HandlerExpects { audit, findings } handler) :
    Standing ⟨some audit, findings, some job, some handler⟩
  | left {audit : Audit} {findings : List Finding} (hproper : Proper { audit, findings })
    (hstarted : audit.status ≠ .draft) {job : Job} (hclaimed : job.status ≠ .queued) :
    Standing ⟨some audit, findings, some job, none⟩

/-- A handler that is there. -/
theorem Standing.handler {audit : Audit} {findings : List Finding} {job : Job} {handler : Handler}
    (h : Standing ⟨some audit, findings, some job, some handler⟩) :
    Proper { audit, findings } ∧ job.status ≠ .queued ∧
      HandlerExpects { audit, findings } handler := by
  cases h with
  | handled hproper hclaimed hexpects => exact ⟨hproper, hclaimed, hexpects⟩

/-- How far an audit that is there has come from one view to another. -/
def Onward (v v' : View) : Prop :=
  ∀ audit, v.audit = some audit → ∃ audit', v'.audit = some audit' ∧
    Forward { audit, findings := v.findings } { audit := audit', findings := v'.findings }

/-- An audit that fails by a move stays in its stage. -/
def Fails (v v' : View) : Prop :=
  ∀ audit, v.audit = some audit → ∀ audit', v'.audit = some audit' → FailsInPlace audit audit'

theorem fails_same {v v' : View} (haudit : v'.audit = v.audit) : Fails v v' := by
  intro audit h audit' h' _
  rw [haudit, h] at h'
  exact .inl (Option.some.inj h').symm

/-- The row of an audit is proper wherever it stands. -/
theorem Standing.proper {audit : Audit} {findings : List Finding} {job : Option Job}
    {handler : Option Handler} (h : Standing ⟨some audit, findings, job, handler⟩) :
    Proper { audit, findings } := by
  cases h with
  | draft hdraft => constructor <;> simp [hdraft, isTerminal]
  | waiting hwaiting => constructor <;> simp [hwaiting, isTerminal]
  | handled hproper => exact hproper
  | left hproper => exact hproper

theorem onward_same {v v' : View} (haudit : v'.audit = v.audit) (hfindings : v'.findings = v.findings) :
    Onward v v' := by
  intro audit h
  refine ⟨audit, haudit.trans h, ?_⟩
  rw [hfindings]
  exact .refl _

theorem proper_of_queued {audit : Audit} {findings : List Finding} (h : audit.status = .queued) :
    Proper { audit, findings } := by
  constructor <;> simp [h, isTerminal]

theorem HandlerExpects.started {record : Record} {handler : Handler}
    (h : HandlerExpects record handler) : record.audit.status ≠ .draft := by
  cases handler with
  | entered =>
    have hqueued : record.audit.status = .queued := h
    simp [hqueued]
  | running auditId organizationId position =>
    obtain ⟨-, -, hexpects⟩ := h
    cases hended : position.ended with
    | false =>
      rcases unfinished_of_expects hexpects hended with hstatus | hstatus <;> simp [hstatus]
    | true =>
      intro hdraft
      cases position with
      | returned =>
        have hterminal : isTerminal record.audit.status = true := hexpects
        rw [hdraft] at hterminal
        cases hterminal
      | raised => exact hexpects hdraft
      | _ => cases hended
  | other => exact h.elim
  | done returned => exact h

theorem submitted_onward {audit : Audit} (hdraft : audit.status = .draft) {findings : List Finding} :
    Forward { audit, findings } { audit := Service.submitted audit, findings } := by
  refine ⟨⟨rfl, rfl, rfl, rfl, rfl, rfl, rfl⟩, ?_, fun h => ?_, fun h => ?_⟩
  · simp [rank, hdraft]
  · rw [hdraft] at h
    cases h
  · simp [rank, hdraft] at h

/-- Only a claim takes a job from the queue. -/
theorem waits_of_rowStep {event : Jobs.LeaseProtocol.Event} {job job' : Job}
    (h : RowStep event job job') (hqueued : job.status = .queued)
    (hkind : ∀ allowed owner seconds now locked, event ≠ .claim allowed owner seconds now locked) :
    job' = job := by
  cases h with
  | same => rfl
  | claim => exact absurd rfl (hkind _ _ _ _ _)
  | heartbeat hlease => exact absurd (hqueued.symm.trans hlease.processing) (by simp)
  | complete hlease => exact absurd (hqueued.symm.trans hlease.processing) (by simp)
  | fail hlease => exact absurd (hqueued.symm.trans hlease.processing) (by simp)
  | recover hstale => simp [Jobs.isStale, hqueued] at hstale

theorem standing_updated {audit : Option Audit} {findings : List Finding} {job job' : Job}
    {handler : Option Handler} (hsame : Same job job')
    (hwaits : job.status = .queued → job' = job)
    (h : Standing ⟨audit, findings, some job, handler⟩) :
    Standing ⟨audit, findings, some job', handler⟩ := by
  cases h with
  | waiting hwaiting hqueued =>
    rw [hwaits hqueued]
    exact .waiting hwaiting hqueued
  | handled hproper hclaimed hexpects => exact .handled hproper (hsame.claimed hclaimed) hexpects
  | left hproper hstarted hclaimed => exact .left hproper hstarted (hsame.claimed hclaimed)

/-- A worker that is gone leaves the audit as it is. -/
theorem standing_left {audit : Option Audit} {findings : List Finding} {job : Job}
    {handler : Option Handler} (h : Standing ⟨audit, findings, some job, handler⟩) :
    Standing ⟨audit, findings, some job, none⟩ := by
  cases h with
  | waiting hwaiting hqueued => exact .waiting hwaiting hqueued
  | handled hproper hclaimed hexpects => exact .left hproper hexpects.started hclaimed
  | left hproper hstarted hclaimed => exact .left hproper hstarted hclaimed

/-- Every move keeps an audit in its place and takes it onward. -/
theorem standing_move {event : Event} {v v' : View} (hmove : Move event v v') (h : Standing v) :
    Standing v' ∧ Onward v v' := by
  cases hmove with
  | still => exact ⟨h, onward_same rfl rfl⟩
  | created hdraft => exact ⟨.draft hdraft, fun audit h => by cases h⟩
  | submitted hdraft hqueued =>
    refine ⟨.waiting rfl hqueued, fun audit haudit => ?_⟩
    obtain rfl := Option.some.inj haudit
    exact ⟨_, rfl, submitted_onward hdraft⟩
  | reevaluated haudit hqueued => exact ⟨.waiting haudit hqueued, fun audit h => by cases h⟩
  | claimed hqueued =>
    refine ⟨?_, onward_same rfl rfl⟩
    cases h with
    | waiting hwaiting _ =>
      exact .handled (proper_of_queued hwaiting) (by simp [claimed]) hwaiting
    | left hproper hstarted hclaimed => exact absurd hqueued hclaimed
  | renewed hrow =>
    refine ⟨standing_updated (same_of_rowStep hrow) (fun hqueued => ?_) h, onward_same rfl rfl⟩
    exact waits_of_rowStep hrow hqueued (by simp)
  | recovered hrow =>
    refine ⟨standing_updated (same_of_rowStep hrow) (fun hqueued => ?_) h, onward_same rfl rfl⟩
    exact waits_of_rowStep hrow hqueued (by simp)
  | settled hresult hjob hrow =>
    refine ⟨standing_left (standing_updated (same_of_rowStep hrow) (fun hqueued => ?_) h),
      onward_same rfl rfl⟩
    refine waits_of_rowStep hrow hqueued fun _ _ _ _ _ => ?_
    unfold settlement
    split <;> simp
  | @entered outcome audit findings job =>
    refine ⟨?_, onward_same rfl rfl⟩
    obtain ⟨hproper, hclaimed, hexpects⟩ := h.handler
    have hqueued : audit.status = .queued := hexpects
    have hdone : ∀ returned, HandlerExpects { audit, findings } (.done returned) := by
      intro returned
      simp [HandlerExpects, hqueued]
    refine .handled hproper hclaimed ?_
    cases outcome with
    | proceeds computed =>
      rw [entry, if_neg (by simp [hqueued, isTerminal])]
      exact ⟨rfl, rfl, hqueued⟩
    | declared => exact hdone false
    | undeclared => exact hdone false
  | @advanced outcome record record' position position' hadvance job =>
    obtain ⟨hproper, hclaimed, -, -, hexpects⟩ := h.handler
    have hlives := advance_lives hproper hexpects hadvance
    have hkept := (advance_kept hadvance).continues
    refine ⟨.handled hlives.proper hclaimed ⟨hkept.auditId.symm, hkept.organizationId.symm,
      hlives.expects⟩, fun audit haudit => ?_⟩
    obtain rfl := Option.some.inj haudit
    exact ⟨record'.audit, rfl, hlives.forward⟩
  | crashed => exact ⟨standing_left h, onward_same rfl rfl⟩

/-- An audit fails by its own coordinator, in the stage that this has left it in. -/
theorem fails_move {event : Event} {v v' : View} (hmove : Move event v v') (h : Standing v) :
    Fails v v' := by
  cases hmove with
  | created => exact fun audit haudit => by cases haudit
  | reevaluated => exact fun audit haudit => by cases haudit
  | submitted =>
    intro audit _ audit' haudit' hfailed
    rw [← Option.some.inj haudit'] at hfailed
    cases hfailed
  | @advanced outcome record record' position position' hadvance job =>
    obtain ⟨hproper, -, -, -, hexpects⟩ := h.handler
    intro audit haudit audit' haudit'
    obtain rfl := Option.some.inj haudit
    obtain rfl := Option.some.inj haudit'
    exact (advance_lives hproper hexpects hadvance).fails
  | still | claimed | renewed | recovered | settled | entered | crashed => exact fails_same rfl

/-! ## Every run -/

/-- The tables are linked, and every audit has its place. -/
structure Sound (w : World) : Prop where
  linked : Linked w
  standing : ∀ auditId, Standing (view w auditId)

theorem sound_initial (db : Creation.Database) : Sound (World.initial db) :=
  ⟨linked_initial db, fun _ => .absent⟩

theorem sound_step (sha256 : String → String) {w : World} (h : Sound w) (event : Event) :
    Sound (step sha256 w event) := by
  have hstepped := stepped_step sha256 h.linked event
  exact ⟨hstepped.linked,
    fun auditId => (standing_move (hstepped.moves auditId) (h.standing auditId)).1⟩

theorem sound_run (sha256 : String → String) {w : World} (h : Sound w) (events : List Event) :
    Sound (Runs.run (step sha256) w events) := by
  have hstep : ∀ w event, Sound w → Sound (step sha256 w event) :=
    fun _ event h => sound_step sha256 h event
  exact Runs.run_invariant hstep h events

/-- The view of an audit that is in the table. -/
theorem view_audit {w : World} (h : Linked w) {audit : Audit} (haudit : audit ∈ w.audits) :
    (view w audit.auditId).audit = some audit := Table.find?_of_mem h.audits haudit

/-- A handler stands where it expects to. -/
theorem Sound.expects {w : World} (h : Sound w) {run : Run} (hrun : run ∈ w.runs)
    {auditId organizationId : UUID} {position : Position}
    (hrunning : run.handler = .running auditId organizationId position) :
    ∃ audit ∈ w.audits, audit.auditId = auditId ∧ audit.organizationId = organizationId ∧
      Expects { audit, findings := findingsOf w.findings auditId } position := by
  obtain ⟨job, hjob, hid, -, hhandles⟩ := h.linked.handled run hrun
  rw [hrunning] at hhandles
  obtain ⟨hof, audit, haudit, rfl, rfl⟩ := hhandles
  refine ⟨audit, haudit, rfl, rfl, ?_⟩
  have hstanding := h.standing audit.auditId
  rw [view_employed (h.linked.jobOf hjob hof), hid, handlerOf_mem h.linked hrun, hrunning,
    Table.find?_of_mem h.linked.audits haudit] at hstanding
  exact hstanding.handler.2.2.2.2

/-- In every state of every run, whatever workers are lost and whatever leases run out: a job is
claimed at most once, an audit has at most one job that processes it and at most one coordinator
that runs for it, and this coordinator finds the row as it left it. -/
theorem one_runner (sha256 : String → String) (db : Creation.Database) (events : List Event) :
    let w := Runs.run (step sha256) (World.initial db) events
    (∀ job ∈ w.jobs, job.attemptCount ≤ 1) ∧
    (∀ first ∈ w.jobs, ∀ second ∈ w.jobs, ∀ auditId, IsJobOf auditId first →
      IsJobOf auditId second → first = second) ∧
    (∀ first ∈ w.runs, ∀ second ∈ w.runs, ∀ auditId organizationId organizationId' position
      position', first.handler = .running auditId organizationId position →
        second.handler = .running auditId organizationId' position' → first = second) ∧
    ∀ run ∈ w.runs, ∀ auditId organizationId position,
      run.handler = .running auditId organizationId position →
        ∃ audit ∈ w.audits, audit.auditId = auditId ∧ audit.organizationId = organizationId ∧
          Expects { audit, findings := findingsOf w.findings auditId } position := by
  intro w
  have hsound : Sound w := sound_run sha256 (sound_initial db) events
  have hlinked := hsound.linked
  refine ⟨fun job hjob => ?_, hlinked.single, ?_, ?_⟩
  · have hattempts := (hlinked.jobs.valid job hjob).attempts
    rw [hattempts]
    split <;> omega
  · intro first hfirst second hsecond auditId organizationId organizationId' position position'
      hrunning hrunning'
    obtain ⟨job, hjob, hid, -, hhandles⟩ := hlinked.handled first hfirst
    obtain ⟨job', hjob', hid', -, hhandles'⟩ := hlinked.handled second hsecond
    rw [hrunning] at hhandles
    rw [hrunning'] at hhandles'
    have heq := hlinked.single job hjob job' hjob' auditId hhandles.1 hhandles'.1
    apply Table.eq_of_key hlinked.runs hfirst hsecond
    rw [← hid, ← hid', heq]
  · exact fun run hrun auditId organizationId position hrunning => hsound.expects hrun hrunning

/-- An audit has come from one state to another. -/
def Reaches (auditId : UUID) (w w' : World) : Prop := Onward (view w auditId) (view w' auditId)

theorem Reaches.refl (auditId : UUID) (w : World) : Reaches auditId w w := onward_same rfl rfl

theorem Reaches.trans {auditId : UUID} {first second third : World}
    (h : Reaches auditId first second) (h' : Reaches auditId second third) :
    Reaches auditId first third := by
  intro audit haudit
  obtain ⟨audit', haudit', hforward⟩ := h audit haudit
  obtain ⟨audit'', haudit'', hforward'⟩ := h' audit' haudit'
  exact ⟨audit'', haudit'', hforward.trans hforward'⟩

theorem reaches_run (sha256 : String → String) {w : World} (h : Sound w) (events : List Event)
    (auditId : UUID) : Reaches auditId w (Runs.run (step sha256) w events) := by
  have hstep : ∀ w event, Sound w →
      Sound (step sha256 w event) ∧ Reaches auditId w (step sha256 w event) := by
    intro w event h
    have hmove := (stepped_step sha256 h.linked event).moves auditId
    exact ⟨sound_step sha256 h event, (standing_move hmove (h.standing auditId)).2⟩
  exact Runs.run_relates (Reaches.refl auditId) (fun _ _ _ => Reaches.trans) hstep h events

/-- From every reachable state on, an audit stays the revision it is, never goes back to a status
or a stage it has left, begins once, and when it has ended neither its row nor its findings
change; the event by which it fails leaves it in the stage in which it was processed. -/
theorem audits_go_forward (sha256 : String → String) (db : Creation.Database)
    (before after : List Event) :
    let w := Runs.run (step sha256) (World.initial db) before
    let w' := Runs.run (step sha256) w after
    ∀ audit ∈ w.audits,
      (∃ audit' ∈ w'.audits, SameRevision audit audit' ∧
        rank audit ≤ rank audit' ∧
        (2 ≤ rank audit → audit'.startedAt = audit.startedAt) ∧
        (isTerminal audit.status = true → audit' = audit ∧
          findingsOf w'.findings audit.auditId = findingsOf w.findings audit.auditId)) ∧
      ∀ event, ∀ audit' ∈ (step sha256 w event).audits, audit'.auditId = audit.auditId →
        FailsInPlace audit audit' := by
  intro w w' audit haudit
  have hsound : Sound w := sound_run sha256 (sound_initial db) before
  refine ⟨?_, fun event audit' hmem hid => ?_⟩
  · obtain ⟨audit', haudit', hforward⟩ :=
      reaches_run sha256 hsound after audit.auditId audit (view_audit hsound.linked haudit)
    refine ⟨audit', (Table.find?_eq_some haudit').1, hforward.same, hforward.rank_le,
      hforward.begun, fun hended => ?_⟩
    have hsame := hforward.final hended
    exact ⟨congrArg Record.audit hsame, congrArg Record.findings hsame⟩
  · have hstepped := stepped_step sha256 hsound.linked event
    have hview := view_audit hstepped.linked hmem
    rw [hid] at hview
    exact fails_move (hstepped.moves audit.auditId) (hsound.standing audit.auditId) audit
      (view_audit hsound.linked haudit) audit' hview

/-! ## What a completed audit counts -/

/-- What a column of counts says about the values of the findings. -/
def Counts {α : Type} [DecidableEq α] (counts : List (String × PyValue)) (text : α → String)
    (values : List α) : Prop :=
  ∀ value, Dict.get? counts (text value) =
    if value ∈ values then some (.int (values.count value)) else none

theorem get?_countsOf (values : List String) (value : String) :
    Dict.get? (countsOf values) value =
      if value ∈ values then some (.int (values.count value)) else none := by
  have hmap : ∀ counts : List (String × Nat),
      Dict.get? (counts.map fun entry => (entry.1, PyValue.int entry.2)) value =
        (Dict.get? counts value).map fun n => PyValue.int n := by
    intro counts
    induction counts with
    | nil => rfl
    | cons entry rest ih =>
      rw [List.map_cons, Dict.get?_cons, Dict.get?_cons, ih]
      split <;> rfl
  rw [countsOf, hmap, Tallies.get?_foldl_counted]
  split <;> rfl

theorem counts_countsOf {α : Type} [DecidableEq α] {text : α → String}
    (htext : Function.Injective text) (values : List α) :
    Counts (countsOf (values.map text)) text values := by
  intro value
  rw [get?_countsOf, List.count_map_of_injective _ _ htext]
  simp [htext.eq_iff]

theorem verdictValue_injective : Function.Injective verdictValue := by
  intro first second h
  cases first <;> cases second <;> first | rfl | exact absurd h (by decide)

theorem severityValue_injective : Function.Injective severityValue := by
  intro first second h
  cases first <;> cases second <;> first | rfl | exact absurd h (by decide)

theorem verdictCounts_counts (findings : List Finding) :
    Counts (verdictCounts findings) verdictValue (findings.map Finding.verdict) := by
  have hcounts := counts_countsOf verdictValue_injective (findings.map Finding.verdict)
  rwa [List.map_map] at hcounts

theorem severityCounts_counts (findings : List Finding) :
    Counts (severityCounts findings) severityValue (findings.map Finding.severity) := by
  have hcounts := counts_countsOf severityValue_injective (findings.map Finding.severity)
  rwa [List.map_map] at hcounts

/-- A count is true when there is a finding. -/
theorem truthy_of_counts {α : Type} [DecidableEq α] {counts : List (String × PyValue)}
    {text : α → String} {values : List α} (h : Counts counts text values) (value : α) :
    ((Dict.get? counts (text value)).getD .none).truthy = decide (value ∈ values) := by
  rw [h value]
  split
  next hmem =>
    have hpos : 0 < values.count value := List.count_pos_iff.mpr hmem
    simp [PyValue.truthy, hmem]
    omega
  next hmem => simp [PyValue.truthy, hmem]

/-- Which terminal status the verdicts give. -/
def statusOf (verdicts : List FindingVerdict) : AuditStatus :=
  if .processError ∈ verdicts then .completedWithErrors
  else if .unknown ∈ verdicts ∨ .manualReview ∈ verdicts then .completedWithUnknowns
  else .completed

theorem terminalStatus_eq {counts : List (String × PyValue)} {verdicts : List FindingVerdict}
    (h : Counts counts verdictValue verdicts) : terminalStatus counts = statusOf verdicts := by
  have herror := truthy_of_counts h .processError
  have hunknown := truthy_of_counts h .unknown
  have hmanual := truthy_of_counts h .manualReview
  simp only [verdictValue] at herror hunknown hmanual
  simp only [terminalStatus, statusOf, herror, hunknown, hmanual, Bool.or_eq_true,
    decide_eq_true_eq]

def analyst : Training.User := ⟨.ofNat 1, .ofNat 2, .analyst⟩

def readySnapshot : Snapshots.Snapshot where
  snapshotId := .ofNat 4
  deviceId := .ofNat 3
  organizationId := .ofNat 2
  label := none
  capturedAt := none
  ingestedAt := 0
  status := .ready
  groupingStatus := .manuallyConfirmed
  snapshotHash := "ab"
  artifactCount := 1
  source := .upload
  createdBy := none

def readyTables : Creation.Database where
  store :=
    { devices := [⟨.ofNat 3, .ofNat 2, none⟩], snapshots := [readySnapshot],
      artifacts := [⟨.ofNat 5, .ofNat 2, some (.ofNat 4), "ab", .ready⟩] }
  training := .untrained []
  assessmentPacks := []
  profileFor := fun _ _ => .ok none

def begunAudit : List Event :=
  [.create analyst { snapshotId := .ofNat 4 } readySnapshot (.ofNat 6),
    .submit analyst (.ofNat 6) (.ofNat 7) 10,
    .claim none "worker" (.round 60 false) 20 [],
    .advance (.ofNat 7) (.proceeds {}), .advance (.ofNat 7) (.proceeds { now := 30 })]

/-- The worker takes it through every stage, with one finding that a reviewer must settle. -/
def finishedAudit : List Event :=
  let resolved : List (String × PyValue) :=
    [("resolution_status", .str "resolved"), ("profile_version_id", .str "profile")]
  let findings : List Finding :=
    [⟨.ofNat 8, .ofNat 6, .pass, .low⟩, ⟨.ofNat 9, .ofNat 6, .manualReview, .high⟩]
  let work : List Computed :=
    [{}, { resolution := resolved }, { packIds := some ["pack"] }, { packIds := some ["pack"] },
      { knowledgePackVersionId := .ofNat 10 }, {}, {}, {}, {}, {}, {},
      { rulePack := "rules", policyId := "policy" }, { findings := findings }, { now := 40 }]
  begunAudit ++ work.map fun computed => .advance (.ofNat 7) (.proceeds computed)

/-- The audit that the worker has finished. -/
def finishedRow : Audit :=
  { Creation.initialAudit analyst { snapshotId := .ofNat 4 } readySnapshot (.ofNat 6) with
    status := .completedWithUnknowns, processingStage := some .finalizing
    startedAt := some 30, completedAt := some 40
    verdictCounts := [("pass", .int 1), ("manual_review", .int 1)]
    severityCounts := [("low", .int 1), ("high", .int 1)]
    profileResolution :=
      [("resolution_status", .str "resolved"), ("profile_version_id", .str "profile")]
    versionRefs :=
      [("assessment_pack_version_ids", .list [.str "pack"]), ("schema_version", .str "1.0.0"),
        ("device_profile_version_id", .str "profile"),
        (knowledgePackKey, .str (UUID.ofNat 10).str), (rulePacksKey, .list [.str "rules"]),
        (policyKey, .str "policy")] }

/-- In every state of every run the counts of a completed audit are those of its findings, and
its status is the one their verdicts give. -/
theorem completed_audits_count (sha256 : String → String) (db : Creation.Database)
    (events : List Event) :
    let w := Runs.run (step sha256) (World.initial db) events
    ∀ audit ∈ w.audits, isTerminal audit.status = true → audit.status ≠ .failed →
      let findings := findingsOf w.findings audit.auditId
      Counts audit.verdictCounts verdictValue (findings.map Finding.verdict) ∧
      Counts audit.severityCounts severityValue (findings.map Finding.severity) ∧
      audit.status = statusOf (findings.map Finding.verdict) ∧
      audit.processingStage = some .finalizing ∧ audit.completedAt.isSome = true := by
  intro w audit haudit hended hfailed findings
  have hsound : Sound w := sound_run sha256 (sound_initial db) events
  have hproper : Proper { audit, findings } := by
    have hstanding := hsound.standing audit.auditId
    have hview : view w audit.auditId = ⟨some audit, findings, jobOf w.jobs audit.auditId,
        (view w audit.auditId).handler⟩ := by
      rw [← view_audit hsound.linked haudit]
      rfl
    rw [hview] at hstanding
    exact hstanding.proper
  obtain ⟨hverdicts, hseverities, hstatus, hstage⟩ := hproper.counted hended hfailed
  have hcounts := verdictCounts_counts findings
  have hverdicts : audit.verdictCounts = verdictCounts findings := hverdicts
  have hseverities : audit.severityCounts = severityCounts findings := hseverities
  rw [← hverdicts] at hcounts
  refine ⟨hcounts, ?_, hstatus.trans (terminalStatus_eq hcounts), hstage, hproper.ended hended⟩
  rw [hseverities]
  exact severityCounts_counts findings

/-- The finished audit counts its two findings. -/
theorem completed_audits_count_finished :
    let findings :=
      findingsOf (Runs.run (step id) (World.initial readyTables) finishedAudit).findings (.ofNat 6)
    Counts finishedRow.verdictCounts verdictValue (findings.map Finding.verdict) ∧
      Counts finishedRow.severityCounts severityValue (findings.map Finding.severity) ∧
      finishedRow.status = statusOf (findings.map Finding.verdict) ∧
      finishedRow.processingStage = some .finalizing ∧
      finishedRow.completedAt.isSome = true :=
  completed_audits_count id readyTables finishedAudit finishedRow (by decide +kernel) rfl
    (by decide)

end ConfigAuditor.Audits.Lifecycle
