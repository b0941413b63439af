import ConfigAuditor.Dashboard.Coverage

/-!
# Two accounts of one assessment

The stored summaries count every selected obligation, the dashboard the applicable ones. The
verdicts of the two agree; the other counts differ by the results that are not applicable.
-/
namespace ConfigAuditor.Dashboard.Accounts

open Library Tallies Runs ProfileResolution EffectiveState.Model Compliance.Model
  Assessment.Model Assessment.Service Assessment.CoverageSummary Coverage

/-- The counts of the dashboard are the numbers of applicable results of each kind. -/
structure RowTotals (c : AssessmentCounts) (results : List AssessmentResult) : Prop where
  automatic : c.automatic = results.countP fun r => isAutomaticResult r && isApplicable r
  manual : c.manual = results.countP fun r => isManualResult r && isApplicable r
  unimplemented :
    c.unimplemented = results.countP fun r => isUnimplementedResult r && isApplicable r
  pass : c.pass = results.countP fun r => hasVerdict .pass r && isApplicable r
  fail : c.fail = results.countP fun r => hasVerdict .fail r && isApplicable r
  unknown : c.unknown = results.countP fun r => hasVerdict .unknown r && isApplicable r

/-- What one turn adds to each count. -/
structure RowCounted (c c' : AssessmentCounts) (r : AssessmentResult) : Prop where
  automatic : c'.automatic = c.automatic + weight (fun r => isAutomaticResult r && isApplicable r) r
  manual : c'.manual = c.manual + weight (fun r => isManualResult r && isApplicable r) r
  unimplemented :
    c'.unimplemented =
      c.unimplemented + weight (fun r => isUnimplementedResult r && isApplicable r) r
  pass : c'.pass = c.pass + weight (fun r => hasVerdict .pass r && isApplicable r) r
  fail : c'.fail = c.fail + weight (fun r => hasVerdict .fail r && isApplicable r) r
  unknown : c'.unknown = c.unknown + weight (fun r => hasVerdict .unknown r && isApplicable r) r

theorem countRow_counted (c : AssessmentCounts) (result : AssessmentResult) :
    RowCounted c (countRow c result) result := by
  obtain ⟨_, _, applicability, method, implementation, verdict, _, _, _, _⟩ := result
  cases implementation with
  | unimplemented => cases method <;> cases applicability <;> constructor <;> rfl
  | manual => cases method <;> cases applicability <;> constructor <;> rfl
  | implemented =>
    cases method with
    | manual => cases applicability <;> constructor <;> rfl
    | automatic =>
      cases applicability <;> rcases verdict with _ | (_ | _ | _ | _ | _ | _) <;>
        constructor <;> rfl

theorem assessmentCoverage_totals (results : List AssessmentResult) :
    RowTotals (assessmentCoverage results) results := by
  have hturn := countRow_counted
  have htotal : ∀ (count : AssessmentCounts → Nat) (p : AssessmentResult → Bool),
      (∀ c result, count (countRow c result) = count c + weight p result) →
      count {} = 0 → count (assessmentCoverage results) = results.countP p := by
    intro count p hstep hstart
    rw [assessmentCoverage, foldl_count count hstep, hstart, Nat.zero_add]
  constructor
  · exact htotal _ _ (fun c result => (hturn c result).automatic) rfl
  · exact htotal _ _ (fun c result => (hturn c result).manual) rfl
  · exact htotal _ _ (fun c result => (hturn c result).unimplemented) rfl
  · exact htotal _ _ (fun c result => (hturn c result).pass) rfl
  · exact htotal _ _ (fun c result => (hturn c result).fail) rfl
  · exact htotal _ _ (fun c result => (hturn c result).unknown) rfl

/-- The results of one audit. -/
def ownResults (rows : List AssessmentResultRow) (auditId : UUID) : List AssessmentResult :=
  (rows.filter (·.auditId == auditId)).map (·.result)

/-- The summary an audit stores; an audit that has none counts nothing. -/
def summaryOf (audit : AuditRow) : Coverage := audit.coverage.getD {}

/-- Each audit stores the summary of its own results, and these come from an assessment. -/
structure Consistent (s : Store) : Prop where
  ids : (s.audits.map (·.auditId)).Nodup
  stored : ∀ audit ∈ s.audits,
    summaryOf audit = coverageSummary (ownResults s.results audit.auditId)
  owned : ∀ audit ∈ s.audits, ∀ row ∈ s.results, row.auditId = audit.auditId →
    row.organizationId = audit.organizationId
  assessed : ∀ row ∈ s.results, Assessed row.result

theorem consistent_empty {audits : List AuditRow} (hids : (audits.map (·.auditId)).Nodup)
    (hfresh : ∀ audit ∈ audits, audit.coverage = none) :
    Consistent { audits := audits, results := [] } := by
  refine ⟨hids, fun audit haudit => ?_, ?_, ?_⟩
  · rw [summaryOf, hfresh audit haudit]
    rfl
  · intro audit _ row hrow
    cases hrow
  · intro row hrow
    cases hrow

section Replace

variable {s : Store} {pins : PinnedAssessment} {results : List AssessmentResult} {auditId : UUID}

theorem ownResults_replaced :
    ownResults (s.replaceResults pins results).results pins.auditId = results := by
  have hold : (s.results.filter (·.auditId != pins.auditId)).filter (·.auditId == pins.auditId) =
      [] := by
    rw [List.filter_filter, List.filter_eq_nil_iff]
    simp
  have hnew : (results.map (rowOf pins)).filter (·.auditId == pins.auditId) =
      results.map (rowOf pins) := by
    rw [List.filter_eq_self]
    simp [rowOf]
  rw [ownResults, Store.replaceResults, List.filter_append, hold, hnew, List.nil_append,
    List.map_map]
  exact List.map_id results

theorem ownResults_other (h : auditId ≠ pins.auditId) :
    ownResults (s.replaceResults pins results).results auditId = ownResults s.results auditId := by
  have hnew : (results.map (rowOf pins)).filter (·.auditId == auditId) = [] := by
    rw [List.filter_eq_nil_iff]
    simp [rowOf, Ne.symm h]
  rw [ownResults, Store.replaceResults, List.filter_append, hnew, List.append_nil,
    List.filter_filter, ownResults]
  congr 1
  refine List.filter_congr fun row _ => ?_
  by_cases hrow : row.auditId = auditId
  · simp [hrow, h]
  · simp [hrow]

/-- Replacing the results of an audit of the organization keeps the tables consistent. -/
theorem Consistent.replaceResults (h : Consistent s) {audit : AuditRow}
    (haudit : audit ∈ s.audits) (hid : audit.auditId = pins.auditId)
    (horganization : audit.organizationId = pins.organizationId)
    (hresults : ∀ result ∈ results, Assessed result) :
    Consistent (s.replaceResults pins results) := by
  have hkeys : (s.replaceResults pins results).audits.map (·.auditId) =
      s.audits.map (·.auditId) := Table.modify_keys fun _ => rfl
  refine ⟨by rw [hkeys]; exact h.ids, ?_, ?_, ?_⟩
  · intro changed hchanged
    obtain ⟨old, hold, rfl⟩ := Table.mem_modify.mp hchanged
    by_cases hpin : old.auditId = pins.auditId
    · rw [if_pos hpin]
      change coverageSummary results = coverageSummary (ownResults _ old.auditId)
      rw [hpin, ownResults_replaced]
    · rw [if_neg hpin, ownResults_other hpin]
      exact h.stored old hold
  · intro changed hchanged row hrow hsame
    obtain ⟨old, hold, rfl⟩ := Table.mem_modify.mp hchanged
    have hold' : row.auditId = old.auditId ∧ old.organizationId =
        (if old.auditId = pins.auditId then
          AuditRow.withCoverage (coverageSummary results) old else old).organizationId := by
      split_ifs at hsame ⊢ <;> exact ⟨hsame, rfl⟩
    rw [← hold'.2]
    rcases List.mem_append.mp hrow with hkept | hadded
    · exact h.owned old hold row (List.mem_filter.mp hkept).1 hold'.1
    · obtain ⟨result, -, rfl⟩ := List.mem_map.mp hadded
      have heq : audit = old :=
        Table.eq_of_key h.ids haudit hold (hid.trans hold'.1)
      rw [← heq, horganization]
      rfl
  · intro row hrow
    rcases List.mem_append.mp hrow with hkept | hadded
    · exact h.assessed row (List.mem_filter.mp hkept).1
    · obtain ⟨result, hresult, rfl⟩ := List.mem_map.mp hadded
      exact hresults result hresult

end Replace

/-- What a call can do: nothing, or replace the results of one audit by assessed ones. -/
theorem persist_cases (sha256 : String → String) (s : Store) (call : AssessmentCall) :
    persist sha256 s call = s ∨ ∃ audit ∈ s.audits, ∃ results,
      audit.auditId = call.pins.auditId ∧ audit.organizationId = call.pins.organizationId ∧
      (∀ result ∈ results, Assessed result) ∧
      persist sha256 s call = s.replaceResults call.pins results := by
  unfold persist
  cases haudit : Audits.owned AuditRow.auditId AuditRow.organizationId s.audits call.pins.auditId
      call.pins.organizationId with
  | none => exact .inl rfl
  | some audit =>
    obtain ⟨hmem, hid, horganization⟩ := Audits.owned_eq_some haudit
    dsimp only
    split
    · exact .inl rfl
    · cases hresults : persistAssessmentResults sha256 call.catalogs call.pins
          call.profileVersionId call.states call.findings with
      | error e => exact .inl rfl
      | ok results => exact .inr ⟨audit, hmem, results, hid, horganization,
          persistAssessmentResults_assessed hresults, rfl⟩

theorem persist_consistent (sha256 : String → String) (s : Store) (call : AssessmentCall)
    (h : Consistent s) : Consistent (persist sha256 s call) := by
  obtain hsame | ⟨audit, haudit, results, hid, horganization, hresults, heq⟩ :=
    persist_cases sha256 s call
  · rw [hsame]
    exact h
  · rw [heq]
    exact h.replaceResults haudit hid horganization hresults

/-- The sum of a count over the stored summaries of the selected audits. -/
def storedSum (count : Coverage → Nat) (selected : List AuditRow) : Nat :=
  (selected.map fun audit => count (summaryOf audit)).sum

/-- The six counts of the dashboard are the sums of the stored ones. -/
structure Agree (counts : AssessmentCounts) (selected : List AuditRow) : Prop where
  automatic : counts.automatic = storedSum (·.automatic) selected
  manual : counts.manual = storedSum (·.manual) selected
  unimplemented : counts.unimplemented = storedSum (·.unimplemented) selected
  pass : counts.pass = storedSum (·.pass) selected
  fail : counts.fail = storedSum (·.fail) selected
  unknown : counts.unknown = storedSum (·.unknown) selected

/-- The applicable results are automatic, manual or unimplemented, and the automatic ones pass,
fail or are unknown. -/
structure Partitioned (applicable automatic manual unimplemented pass fail unknown : Nat) :
    Prop where
  kinds : applicable = automatic + manual + unimplemented
  verdicts : automatic = pass + fail + unknown

/-- The partition of the dashboard's account, and of one stored summary. -/
def DashboardPartitioned (counts : AssessmentCounts) (results : List AssessmentResult) : Prop :=
  Partitioned (results.countP isApplicable) counts.automatic counts.manual counts.unimplemented
    counts.pass counts.fail counts.unknown

def SummaryPartitioned (c : Coverage) : Prop :=
  Partitioned c.applicable c.automatic c.manual c.unimplemented c.pass c.fail c.unknown

/-- How the two accounts of the same results, stored in these rows, are related. -/
structure Reconciled (counts : AssessmentCounts) (selected : List AuditRow)
    (results : List AssessmentResult) (rows : List AssessmentResultRow) : Prop where
  pass : counts.pass = storedSum (·.pass) selected
  fail : counts.fail = storedSum (·.fail) selected
  unknown : counts.unknown = storedSum (·.unknown) selected
  automatic : storedSum (·.automatic) selected =
    counts.automatic + results.countP (outside isAutomaticResult)
  manual : storedSum (·.manual) selected =
    counts.manual + results.countP (outside isManualResult)
  unimplemented : storedSum (·.unimplemented) selected =
    counts.unimplemented + results.countP (outside isUnimplementedResult)
  dashboard : DashboardPartitioned counts results
  applicability : ∀ audit ∈ selected, (summaryOf audit).selectedObligationCount =
    (summaryOf audit).applicable + (summaryOf audit).notApplicable
  kinds : ∀ audit ∈ selected, (summaryOf audit).selectedObligationCount =
    (summaryOf audit).automatic + (summaryOf audit).manual + (summaryOf audit).unimplemented
  verdicts : ∀ audit ∈ selected, (summaryOf audit).automatic =
    (summaryOf audit).pass + (summaryOf audit).fail + (summaryOf audit).unknown +
      (ownResults rows audit.auditId).countP (outside isAutomaticResult)
  exact : (Agree counts selected ∧ ∀ audit ∈ selected, SummaryPartitioned (summaryOf audit)) ↔
    ∀ result ∈ results, isApplicable result = true

section Selected

variable {audits : List AuditRow} {devices : List UUID} {audit : AuditRow}

theorem completedAudit?_eq_some {deviceId : UUID}
    (h : completedAudit? audits deviceId = some audit) :
    audit ∈ audits ∧ audit.deviceId = deviceId := by
  have hmem := List.mem_of_find?_eq_some h
  obtain ⟨hsorted, hdevice⟩ := List.mem_filter.mp hmem
  exact ⟨(mem_sortedBy _).mp hsorted, by simpa using hdevice⟩

theorem mem_of_mem_selectedAudits (h : audit ∈ selectedAudits devices audits) : audit ∈ audits := by
  obtain ⟨deviceId, -, hselected⟩ := List.mem_filterMap.mp h
  exact (completedAudit?_eq_some hselected).1

/-- Two devices do not share an audit. -/
theorem selectedAudits_nodup (hids : (audits.map (·.auditId)).Nodup) :
    ((selectedAudits devices audits).map (·.auditId)).Nodup := by
  have hselected : (selectedAudits devices audits).Nodup := by
    refine List.Nodup.filterMap (fun d d' audit hd hd' => ?_) (List.nodup_dedup devices)
    exact (completedAudit?_eq_some hd).2.symm.trans (completedAudit?_eq_some hd').2
  refine hselected.map_on fun a ha b hb hab => ?_
  exact Table.eq_of_key hids (mem_of_mem_selectedAudits ha) (mem_of_mem_selectedAudits hb) hab

end Selected

section Selection

variable {s : Store} {rows : List AssessmentResultRow} {selected : List AuditRow}

theorem countP_ownResults (hrows : rows.Perm s.results) (p : AssessmentResult → Bool)
    (auditId : UUID) : (ownResults rows auditId).countP p =
      (ownResults s.results auditId).countP p :=
  ((hrows.filter _).map _).countP_eq p

/-- A count of the summaries is a count of the selected results. -/
theorem storedSum_eq (h : Consistent s) (hrows : rows.Perm s.results)
    (hselected : ∀ audit ∈ selected, audit ∈ s.audits)
    (hids : (selected.map (·.auditId)).Nodup) {count : Coverage → Nat}
    {p : AssessmentResult → Bool}
    (hcount : ∀ results, count (coverageSummary results) = results.countP p) :
    storedSum count selected = (selectedResults selected rows).countP p := by
  have hown : ∀ audit ∈ selected, count (summaryOf audit) =
      (rows.filter (·.auditId == audit.auditId)).countP (p ∘ (·.result)) := by
    intro audit haudit
    rw [h.stored audit (hselected audit haudit), hcount, ← countP_ownResults hrows, ownResults,
      List.countP_map]
  rw [selectedResults, List.countP_map, countP_owned hids, List.map_map, storedSum,
    List.map_congr_left hown]
  rfl

/-- The rows of the organization hold all results of its audits. -/
theorem selectedResults_resultsOf (h : Consistent s) (hrows : rows.Perm s.results)
    {organizationId : UUID}
    (hselected : ∀ audit ∈ selected, audit ∈ auditsOf organizationId s.audits) :
    selectedResults selected (resultsOf organizationId s.audits rows) =
      selectedResults selected rows := by
  unfold selectedResults resultsOf
  rw [List.filter_filter]
  congr 1
  refine List.filter_congr fun row hrow => ?_
  by_cases hmem : row.auditId ∈ selected.map (·.auditId)
  · obtain ⟨audit, haudit, hid⟩ := List.mem_map.mp hmem
    obtain ⟨hstored, horganization⟩ := List.mem_filter.mp (hselected audit haudit)
    have hown : row.organizationId = organizationId := by
      rw [h.owned audit hstored row (hrows.mem_iff.mp hrow) hid.symm]
      simpa using horganization
    have hlisted : row.auditId ∈ (auditsOf organizationId s.audits).map (·.auditId) :=
      List.mem_map.mpr ⟨audit, hselected audit haudit, hid⟩
    simp only [List.contains_iff_mem.mpr hmem, List.contains_iff_mem.mpr hlisted, hown,
      beq_self_eq_true, Bool.and_self]
  · have hnot : (selected.map (·.auditId)).contains row.auditId = false := by
      simpa using hmem
    rw [hnot, Bool.false_and]

theorem mem_selectedResults {result : AssessmentResult} : result ∈ selectedResults selected rows ↔
    ∃ audit ∈ selected, result ∈ ownResults rows audit.auditId := by
  unfold selectedResults ownResults
  simp only [List.mem_map, List.mem_filter, List.contains_iff_mem, beq_iff_eq]
  constructor
  · rintro ⟨row, ⟨hrow, audit, haudit, hid⟩, rfl⟩
    exact ⟨audit, haudit, row, ⟨hrow, hid.symm⟩, rfl⟩
  · rintro ⟨audit, haudit, row, ⟨hrow, hid⟩, rfl⟩
    exact ⟨row, ⟨hrow, audit, haudit, hid.symm⟩, rfl⟩

end Selection

/-- Where nothing is outside of its kind, every result is applicable. -/
theorem applicable_of_outside {results : List AssessmentResult}
    (hautomatic : results.countP (outside isAutomaticResult) = 0)
    (hmanual : results.countP (outside isManualResult) = 0)
    (hunimplemented : results.countP (outside isUnimplementedResult) = 0) :
    ∀ result ∈ results, isApplicable result = true := by
  intro result hresult
  have ha := List.countP_eq_zero.mp hautomatic result hresult
  have hm := List.countP_eq_zero.mp hmanual result hresult
  have hu := List.countP_eq_zero.mp hunimplemented result hresult
  unfold outside isManualResult at *
  revert ha hm hu
  cases isAutomaticResult result <;> cases isUnimplementedResult result <;>
    cases isApplicable result <;> simp

theorem outside_eq_zero {results : List AssessmentResult} (kind : AssessmentResult → Bool)
    (h : ∀ result ∈ results, isApplicable result = true) :
    results.countP (outside kind) = 0 := by
  refine List.countP_eq_zero.mpr fun result hresult => ?_
  rw [outside, h result hresult]
  simp

section Reconcile

variable {s : Store} {rows : List AssessmentResultRow} {selected : List AuditRow}

theorem countP_applicable (kind : AssessmentResult → Bool) (results : List AssessmentResult) :
    (results.filter isApplicable).countP kind =
      results.countP fun r => kind r && isApplicable r := List.countP_filter

/-- The kinds and verdicts of one stored summary. -/
theorem summary_split (h : Consistent s) (hrows : rows.Perm s.results) {audit : AuditRow}
    (haudit : audit ∈ s.audits) :
    (summaryOf audit).selectedObligationCount =
        (summaryOf audit).applicable + (summaryOf audit).notApplicable ∧
      (summaryOf audit).selectedObligationCount = (summaryOf audit).automatic +
        (summaryOf audit).manual + (summaryOf audit).unimplemented ∧
      (summaryOf audit).automatic =
        (summaryOf audit).pass + (summaryOf audit).fail + (summaryOf audit).unknown +
          (ownResults rows audit.auditId).countP (outside isAutomaticResult) := by
  have hassessed : ∀ result ∈ ownResults s.results audit.auditId, Assessed result := by
    intro result hresult
    obtain ⟨row, hrow, rfl⟩ := List.mem_map.mp hresult
    exact h.assessed row (List.mem_filter.mp hrow).1
  have htotals := coverageSummary_totals (ownResults s.results audit.auditId)
  rw [h.stored audit haudit, countP_ownResults hrows, htotals.selected, htotals.applicable,
    htotals.notApplicable, htotals.automatic, htotals.manual, htotals.unimplemented, htotals.pass,
    htotals.fail, htotals.unknown]
  refine ⟨?_, count_kinds _, ?_⟩
  · rw [List.length_eq_countP_add_countP isApplicable]
    congr 1
    refine List.countP_congr fun result hresult => ?_
    have hknown := (hassessed result hresult).known
    unfold isApplicable
    cases hstatus : result.applicabilityStatus with
    | applicable => simp
    | notApplicable => simp
    | unknown => exact absurd hstatus hknown
  · rw [← count_decided hassessed, count_outside]

/-- The accounts of consistent tables reconcile. -/
theorem reconciled (h : Consistent s) (hrows : rows.Perm s.results)
    (hselected : ∀ audit ∈ selected, audit ∈ s.audits)
    (hids : (selected.map (·.auditId)).Nodup) :
    Reconciled (assessmentCoverage (selectedResults selected rows)) selected
      (selectedResults selected rows) rows := by
  have hcounts := assessmentCoverage_totals (selectedResults selected rows)
  have hassessed : ∀ result ∈ selectedResults selected rows, Assessed result := by
    intro result hresult
    obtain ⟨row, hrow, rfl⟩ := List.mem_map.mp hresult
    exact h.assessed row (hrows.mem_iff.mp (List.mem_filter.mp hrow).1)
  have hsum : ∀ (count : Coverage → Nat) (p : AssessmentResult → Bool),
      (∀ results, count (coverageSummary results) = results.countP p) →
      storedSum count selected = (selectedResults selected rows).countP p :=
    fun _ _ hcount => storedSum_eq h hrows hselected hids hcount
  have hpass := hsum (·.pass) (hasVerdict .pass)
    fun results => (coverageSummary_totals results).pass
  have hfail := hsum (·.fail) (hasVerdict .fail)
    fun results => (coverageSummary_totals results).fail
  have hunknown := hsum (·.unknown) (hasVerdict .unknown)
    fun results => (coverageSummary_totals results).unknown
  have hautomatic := hsum (·.automatic) isAutomaticResult
    fun results => (coverageSummary_totals results).automatic
  have hmanual := hsum (·.manual) isManualResult
    fun results => (coverageSummary_totals results).manual
  have hunimplemented := hsum (·.unimplemented) isUnimplementedResult
    fun results => (coverageSummary_totals results).unimplemented
  rw [count_outside, countP_applicable, ← hcounts.automatic] at hautomatic
  rw [count_outside, countP_applicable, ← hcounts.manual] at hmanual
  rw [count_outside, countP_applicable, ← hcounts.unimplemented] at hunimplemented
  rw [← count_verdict hassessed, countP_applicable, ← hcounts.pass] at hpass
  rw [← count_verdict hassessed, countP_applicable, ← hcounts.fail] at hfail
  rw [← count_verdict hassessed, countP_applicable, ← hcounts.unknown] at hunknown
  have hsplit := fun audit haudit => summary_split h hrows (hselected audit haudit)
  refine ⟨hpass.symm, hfail.symm, hunknown.symm, hautomatic, hmanual, hunimplemented, ⟨?_, ?_⟩,
    fun audit haudit => (hsplit audit haudit).1, fun audit haudit => (hsplit audit haudit).2.1,
    fun audit haudit => (hsplit audit haudit).2.2, ?_, fun happlicable => ⟨?_, ?_⟩⟩
  · rw [List.countP_eq_length_filter, count_kinds, countP_applicable, countP_applicable,
      countP_applicable, hcounts.automatic, hcounts.manual, hcounts.unimplemented]
  · rw [hcounts.automatic, ← countP_applicable, count_decided hassessed,
      ← count_verdict hassessed, ← count_verdict hassessed, ← count_verdict hassessed,
      countP_applicable, countP_applicable, countP_applicable, hcounts.pass, hcounts.fail,
      hcounts.unknown]
  · rintro ⟨hagree, -⟩
    have ha := hagree.automatic
    have hm := hagree.manual
    have hu := hagree.unimplemented
    exact applicable_of_outside (by omega) (by omega) (by omega)
  · have ha := outside_eq_zero isAutomaticResult happlicable
    have hm := outside_eq_zero isManualResult happlicable
    have hu := outside_eq_zero isUnimplementedResult happlicable
    exact ⟨by omega, by omega, by omega, hpass.symm, hfail.symm, hunknown.symm⟩
  · intro audit haudit
    obtain ⟨hsides, hkinds, hverdicts⟩ := hsplit audit haudit
    have hown : ∀ result ∈ ownResults rows audit.auditId, isApplicable result = true :=
      fun result hresult => happlicable result (mem_selectedResults.mpr ⟨audit, haudit, hresult⟩)
    have hnone : (summaryOf audit).notApplicable = 0 := by
      rw [h.stored audit (hselected audit haudit),
        (coverageSummary_totals (ownResults s.results audit.auditId)).notApplicable,
        ← countP_ownResults hrows]
      refine List.countP_eq_zero.mpr fun result hresult => ?_
      have hresult' := hown result hresult
      unfold isApplicable at hresult'
      rw [beq_iff_eq] at hresult'
      simp [hresult']
    rw [outside_eq_zero _ hown] at hverdicts
    exact ⟨by omega, hverdicts⟩

end Reconcile

/-- After any calls of `persist_assessment_results` the dashboard of an organization and the
summaries of its selected audits reconcile. -/
theorem coverage_accounts (sha256 : String → String) (calls : List AssessmentCall)
    (audits : List AuditRow) (hids : (audits.map (·.auditId)).Nodup)
    (hfresh : ∀ audit ∈ audits, audit.coverage = none) (organizationId : UUID)
    (devices : List UUID) {rows : List AssessmentResultRow}
    (hrows : rows.Perm (run (persist sha256) { audits := audits, results := [] } calls).results) :
    let s := run (persist sha256) { audits := audits, results := [] } calls
    let selected := selectedAudits devices (auditsOf organizationId s.audits)
    let results := selectedResults selected (resultsOf organizationId s.audits rows)
    Reconciled (assessmentCoverage results) selected results rows := by
  intro s selected results
  have h : Consistent s :=
    run_invariant (persist_consistent sha256) (consistent_empty hids hfresh) calls
  have hown : ∀ audit ∈ selected, audit ∈ auditsOf organizationId s.audits :=
    fun audit haudit => mem_of_mem_selectedAudits haudit
  have hmem : ∀ audit ∈ selected, audit ∈ s.audits :=
    fun audit haudit => (List.mem_filter.mp (hown audit haudit)).1
  have hdistinct : (selected.map (·.auditId)).Nodup := by
    refine selectedAudits_nodup (List.Nodup.sublist ?_ h.ids)
    exact List.filter_sublist.map _
  have hresults : results = selectedResults selected rows :=
    selectedResults_resultsOf h hrows hown
  rw [hresults]
  exact reconciled h hrows hmem hdistinct

def unsupportedPack : AssessmentPackVersion where
  assessmentPackVersionId := UUID.ofNat 1
  organizationId := none
  packKey := "synthetic_management_baseline"
  family := "TEST/INFRASTRUCTURE"
  name := "Synthetic management baseline"
  version := 1
  profileVersionIds := ["arista.eos.4@1.0.0"]
  sourceMetadata := []
  sourceVersionLabel := "synthetic@1"
  contentDigest := "".pushn 'a' 64
  applicability := [("profile_version_ids", .list [.str "arista.eos.4@1.0.0"])]

/-- The profile has no canonical field for the version of SSH. -/
def unsupportedObligation : AssessmentObligation where
  assessmentObligationId := UUID.ofNat 2
  assessmentPackVersionId := UUID.ofNat 1
  obligationKey := "ac-17.ssh-v2"
  title := "SSH version 2"
  frameworkVersion := "1"
  sourceUrl := "https://example.invalid"
  sourceDigest := "".pushn 'b' 64
  controlId := "AC-17"
  severity := "high"
  scope := "device"
  profileVersionIds := none
  assessmentMethod := .automatic
  implementationStatus := .implemented
  evaluatorRuleId := some "management.ssh.version"
  policyParameters := [("required_canonical_fields", .list [.str "management.remote.ssh.version"])]

def unsupportedCall : AssessmentCall where
  catalogs := { packs := [unsupportedPack], obligations := [unsupportedObligation], rules := [] }
  pins := { auditId := UUID.ofNat 3, organizationId := UUID.ofNat 4, packIds := [UUID.ofNat 1] }
  profileVersionId := "arista.eos.4@1.0.0"
  states := []
  findings := []

def unsupportedAudit : AuditRow where
  auditId := UUID.ofNat 3
  organizationId := UUID.ofNat 4
  deviceId := UUID.ofNat 5
  status := .completed
  createdAt := 0

/-- The digest of the policy of the obligation. -/
def unsupportedDigest (_ : String) : String :=
  "02694d76ea3190d703b8246c373b267fbf497e2418ed2855eac137859d87a34a"

def unsupportedStore : Store :=
  run (persist unsupportedDigest) { audits := [unsupportedAudit], results := [] }
    [unsupportedCall]

/-- An automatic obligation on a field of the profile. -/
def automaticObligation (id : Nat) (key fieldId ruleId : String) : AssessmentObligation :=
  { unsupportedObligation with
    assessmentObligationId := UUID.ofNat id, obligationKey := key, title := key,
    evaluatorRuleId := some ruleId,
    policyParameters := [("required_canonical_fields", .list [.str fieldId])] }

/-- An obligation that is not evaluated. -/
def openObligation (id : Nat) (key : String) (assessmentMethod : AssessmentMethod)
    (implementationStatus : ImplementationStatus) : AssessmentObligation :=
  { unsupportedObligation with
    assessmentObligationId := UUID.ofNat id, obligationKey := key, title := key,
    assessmentMethod, implementationStatus, evaluatorRuleId := none, policyParameters := [] }

/-- SSH is on and telnet too. -/
def baselineState (id : Nat) (fieldId : String) : EffectiveStateRow :=
  { effectiveStateId := UUID.ofNat id, auditId := UUID.ofNat 3, deviceId := UUID.ofNat 5, fieldId,
    scope := { type := "device", key := "device", attributes := [] },
    scopeKey := "device::device",
    effectiveValue := some { type := .boolean, value := .bool true },
    resolutionStatus := .resolved, sourceFactIds := [UUID.ofNat 7], unresolvedReason := none }

/-- A baseline with an obligation of every kind. -/
def baselineCall : AssessmentCall :=
  { unsupportedCall with
    catalogs :=
      { unsupportedCall.catalogs with
        obligations := [unsupportedObligation,
          automaticObligation 12 "ac-17.ssh" "management.remote.ssh.enabled"
            "management.ssh.enabled",
          automaticObligation 13 "ac-17.telnet" "management.remote.telnet.enabled"
            "management.telnet.disabled",
          automaticObligation 14 "au-4.logging" "logging.remote.destination"
            "logging.remote.destination.configured",
          openObligation 15 "pl-1.policy" .manual .manual,
          openObligation 16 "si-2.patches" .automatic .unimplemented] }
    states := [baselineState 21 "management.remote.ssh.enabled",
      baselineState 22 "management.remote.telnet.enabled"] }

def baselineStore : Store :=
  run (persist unsupportedDigest) { audits := [unsupportedAudit], results := [] } [baselineCall]

/-- One obligation passes, one fails, one has no evidence, one is for a reviewer, one is not
implemented and one is not applicable. -/
theorem coverage_accounts_baseline :
    let selected := selectedAudits [UUID.ofNat 5] (auditsOf (UUID.ofNat 4) baselineStore.audits)
    let results := selectedResults selected
      (resultsOf (UUID.ofNat 4) baselineStore.audits baselineStore.results)
    assessmentCoverage results =
        { automatic := 3, manual := 1, unimplemented := 1, pass := 1, fail := 1, unknown := 1 } ∧
      Reconciled (assessmentCoverage results) selected results baselineStore.results :=
  ⟨by decide +kernel, coverage_accounts unsupportedDigest [baselineCall] [unsupportedAudit]
    (by decide) (by decide) (UUID.ofNat 4) [UUID.ofNat 5] (List.Perm.refl _)⟩

/-- The stored summary counts the obligation as automatic, the dashboard does not count it, and
the summary has no verdict for it. -/
theorem unsupported_obligation_counted :
    let selected := selectedAudits [UUID.ofNat 5] (auditsOf (UUID.ofNat 4) unsupportedStore.audits)
    let results := selectedResults selected
      (resultsOf (UUID.ofNat 4) unsupportedStore.audits unsupportedStore.results)
    assessmentCoverage results = {} ∧
      selected = [unsupportedAudit.withCoverage
        { selectedObligationCount := 1, notApplicable := 1, automaticImplemented := 1 }] ∧
      ¬Agree (assessmentCoverage results) selected ∧
      ¬∀ audit ∈ selected, SummaryPartitioned (summaryOf audit) := by
  have hcounts : assessmentCoverage (selectedResults
      (selectedAudits [UUID.ofNat 5] (auditsOf (UUID.ofNat 4) unsupportedStore.audits))
      (resultsOf (UUID.ofNat 4) unsupportedStore.audits unsupportedStore.results)) = {} := by
    decide +kernel
  have hselected : selectedAudits [UUID.ofNat 5]
      (auditsOf (UUID.ofNat 4) unsupportedStore.audits) = [unsupportedAudit.withCoverage
        { selectedObligationCount := 1, notApplicable := 1, automaticImplemented := 1 }] := by
    decide +kernel
  intro selected results
  refine ⟨hcounts, hselected, fun hagree => ?_, fun hpartitioned => ?_⟩
  · have hautomatic := hagree.automatic
    rw [show assessmentCoverage results = {} from hcounts, show selected = _ from hselected]
      at hautomatic
    exact absurd hautomatic (by decide)
  · have hsummary := hpartitioned (unsupportedAudit.withCoverage
      { selectedObligationCount := 1, notApplicable := 1, automaticImplemented := 1 })
      (by rw [show selected = _ from hselected]; exact List.mem_singleton.mpr rfl)
    exact absurd hsummary.kinds (by decide)

end ConfigAuditor.Dashboard.Accounts
