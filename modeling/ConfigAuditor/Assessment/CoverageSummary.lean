import ConfigAuditor.Assessment.Service
import ConfigAuditor.Library.Tallies

/-!
# The coverage of an assessment

`coverage_summary`: the counts an audit stores beside its results. The results of an audit
carry a verdict exactly where they are automatic and applicable.
-/
namespace ConfigAuditor.Assessment.CoverageSummary

open Library Tallies SecurityModel ProfileResolution EffectiveState.Model Compliance.Model
  Compliance.Evaluator Compliance.RuntimeRules Assessment.Model Assessment.Service

/-- `automatic_verdicts`. -/
structure VerdictCounts where
  pass : Nat := 0
  fail : Nat := 0
  unknown : Nat := 0
  deriving DecidableEq, Repr

/-- The counts of `coverage_summary`; `automatic`, `pass`, `fail` and `unknown` are copies. -/
structure Coverage where
  selectedObligationCount : Nat := 0
  applicable : Nat := 0
  notApplicable : Nat := 0
  applicabilityUnknown : Nat := 0
  automaticImplemented : Nat := 0
  manual : Nat := 0
  unimplemented : Nat := 0
  automaticVerdicts : VerdictCounts := {}
  deriving DecidableEq, Repr

def Coverage.automatic (c : Coverage) : Nat := c.automaticImplemented
def Coverage.pass (c : Coverage) : Nat := c.automaticVerdicts.pass
def Coverage.fail (c : Coverage) : Nat := c.automaticVerdicts.fail
def Coverage.unknown (c : Coverage) : Nat := c.automaticVerdicts.unknown

/-- `counts[result.applicability_status.value] += 1`. -/
def countApplicability (c : Coverage) (status : ApplicabilityStatus) : Coverage :=
  match status with
  | .applicable => { c with applicable := c.applicable + 1 }
  | .notApplicable => { c with notApplicable := c.notApplicable + 1 }
  | .unknown => { c with applicabilityUnknown := c.applicabilityUnknown + 1 }

/-- `counts["automatic_verdicts"][result.verdict] += 1`, where the verdict is a key of it. -/
def countVerdict (v : VerdictCounts) (verdict : Option FindingVerdict) : VerdictCounts :=
  match verdict with
  | some .pass => { v with pass := v.pass + 1 }
  | some .fail => { v with fail := v.fail + 1 }
  | some .unknown => { v with unknown := v.unknown + 1 }
  | _ => v

/-- One turn of the loop of `coverage_summary`. -/
def countResult (c : Coverage) (result : AssessmentResult) : Coverage :=
  let c := countApplicability c result.applicabilityStatus
  if result.implementationStatus = .unimplemented then
    { c with unimplemented := c.unimplemented + 1 }
  else if result.implementationStatus = .implemented ∧ result.assessmentMethod = .automatic then
    { c with
      automaticImplemented := c.automaticImplemented + 1
      automaticVerdicts := countVerdict c.automaticVerdicts result.verdict }
  else if result.implementationStatus = .manual ∨ result.assessmentMethod = .manual then
    { c with manual := c.manual + 1 }
  else c

/-- `coverage_summary`. -/
def coverageSummary (results : List AssessmentResult) : Coverage :=
  results.foldl countResult { selectedObligationCount := results.length }

def isApplicable (result : AssessmentResult) : Bool := result.applicabilityStatus == .applicable

def isAutomaticResult (result : AssessmentResult) : Bool :=
  result.implementationStatus == .implemented && result.assessmentMethod == .automatic

def isUnimplementedResult (result : AssessmentResult) : Bool :=
  result.implementationStatus == .unimplemented

def isManualResult (result : AssessmentResult) : Bool :=
  !isAutomaticResult result && !isUnimplementedResult result

/-- An automatic result with this verdict. -/
def hasVerdict (verdict : FindingVerdict) (result : AssessmentResult) : Bool :=
  isAutomaticResult result && result.verdict == some verdict

/-- What one turn adds to each count. -/
structure Counted (c c' : Coverage) (result : AssessmentResult) : Prop where
  selected : c'.selectedObligationCount = c.selectedObligationCount
  applicable : c'.applicable = c.applicable + weight isApplicable result
  notApplicable : c'.notApplicable =
    c.notApplicable + weight (·.applicabilityStatus == .notApplicable) result
  applicabilityUnknown : c'.applicabilityUnknown =
    c.applicabilityUnknown + weight (·.applicabilityStatus == .unknown) result
  automatic : c'.automatic = c.automatic + weight isAutomaticResult result
  manual : c'.manual = c.manual + weight isManualResult result
  unimplemented : c'.unimplemented = c.unimplemented + weight isUnimplementedResult result
  pass : c'.pass = c.pass + weight (hasVerdict .pass) result
  fail : c'.fail = c.fail + weight (hasVerdict .fail) result
  unknown : c'.unknown = c.unknown + weight (hasVerdict .unknown) result

theorem countResult_counted (c : Coverage) (result : AssessmentResult) :
    Counted c (countResult c result) result := by
  obtain ⟨_, _, applicability, method, implementation, verdict, _, _, _, _⟩ := result
  -- The verdict is only looked at where the result is automatic.
  cases implementation with
  | unimplemented => cases method <;> cases applicability <;> constructor <;> rfl
  | manual => cases method <;> cases applicability <;> constructor <;> rfl
  | implemented =>
    cases method with
    | manual => cases applicability <;> constructor <;> rfl
    | automatic =>
      cases applicability <;> rcases verdict with _ | (_ | _ | _ | _ | _ | _) <;>
        constructor <;> rfl

/-- The counts of a summary are the numbers of results of each kind. -/
structure Totals (c : Coverage) (results : List AssessmentResult) : Prop where
  selected : c.selectedObligationCount = results.length
  applicable : c.applicable = results.countP isApplicable
  notApplicable : c.notApplicable = results.countP (·.applicabilityStatus == .notApplicable)
  applicabilityUnknown : c.applicabilityUnknown =
    results.countP (·.applicabilityStatus == .unknown)
  automatic : c.automatic = results.countP isAutomaticResult
  manual : c.manual = results.countP isManualResult
  unimplemented : c.unimplemented = results.countP isUnimplementedResult
  pass : c.pass = results.countP (hasVerdict .pass)
  fail : c.fail = results.countP (hasVerdict .fail)
  unknown : c.unknown = results.countP (hasVerdict .unknown)

theorem coverageSummary_totals (results : List AssessmentResult) :
    Totals (coverageSummary results) results := by
  have hturn := countResult_counted
  have htotal : ∀ (count : Coverage → Nat) (p : AssessmentResult → Bool),
      (∀ c result, count (countResult c result) = count c + weight p result) →
      count { selectedObligationCount := results.length } = 0 →
      count (coverageSummary results) = results.countP p := by
    intro count p hstep hstart
    rw [coverageSummary, foldl_count count hstep, hstart, Nat.zero_add]
  constructor
  · have h := foldl_count (·.selectedObligationCount) (p := fun _ => false)
      (fun c result => (hturn c result).selected)
      { selectedObligationCount := results.length } results
    simpa [coverageSummary] using h
  · exact htotal _ _ (fun c result => (hturn c result).applicable) rfl
  · exact htotal _ _ (fun c result => (hturn c result).notApplicable) rfl
  · exact htotal _ _ (fun c result => (hturn c result).applicabilityUnknown) rfl
  · exact htotal _ _ (fun c result => (hturn c result).automatic) rfl
  · exact htotal _ _ (fun c result => (hturn c result).manual) rfl
  · exact htotal _ _ (fun c result => (hturn c result).unimplemented) rfl
  · exact htotal _ _ (fun c result => (hturn c result).pass) rfl
  · exact htotal _ _ (fun c result => (hturn c result).fail) rfl
  · exact htotal _ _ (fun c result => (hturn c result).unknown) rfl

/-- A verdict that `automatic_verdicts` counts. -/
def isCounted (verdict : FindingVerdict) : Bool :=
  verdict == .pass || verdict == .fail || verdict == .unknown

/-- A result is applicable or not, and has a counted verdict where it is applicable and
automatic, none elsewhere. -/
structure Assessed (result : AssessmentResult) : Prop where
  known : result.applicabilityStatus ≠ .unknown
  decided : isApplicable result = true → isAutomaticResult result = true →
    ∃ verdict, result.verdict = some verdict ∧ isCounted verdict = true
  silent : ¬(isApplicable result = true ∧ isAutomaticResult result = true) →
    result.verdict = none

theorem evaluateCondition_counted {rule : RuleDefinition} {value : Option TypedValue}
    {parameter : Option PyValue} {verdict : FindingVerdict}
    (h : evaluateCondition rule value parameter = .ok verdict) : isCounted verdict = true := by
  have hverdict : ∀ holds : Bool, isCounted (verdictOf holds) = true := by decide
  cases value with
  | none => cases h
  | some value =>
    unfold evaluateCondition at h
    cases hoperator : rule.condition.operator with
    | equals =>
      simp only [hoperator, evaluateEquals, except_bind_eq_ok] at h
      obtain ⟨_, -, h⟩ := h
      split at h
      · cases h
      · rw [except_pure_eq_ok] at h
        exact h ▸ hverdict _
    | lessThanOrEqual =>
      simp only [hoperator, evaluateMaximum, except_bind_eq_ok, except_pure_eq_ok] at h
      obtain ⟨_, -, _, -, _, -, h⟩ := h
      exact h ▸ hverdict _
    | enumAtLeast =>
      simp only [hoperator, evaluateEnum] at h
      split at h
      · cases h
      · simp only [except_bind_eq_ok, except_pure_eq_ok] at h
        obtain ⟨_, -, h⟩ := h
        exact h ▸ hverdict _
    | nonEmpty =>
      simp only [hoperator, except_bind_eq_ok, except_pure_eq_ok] at h
      obtain ⟨_, -, h⟩ := h
      exact h ▸ hverdict _
    | allMembersInParameterSet =>
      simp only [hoperator, except_bind_eq_ok] at h
      obtain ⟨_, -, h⟩ := h
      unfold evaluateAllowList at h
      split at h
      · split at h
        · cases h
          exact hverdict _
        · cases h
      · cases h
    | other name => simp only [hoperator] at h; cases h

theorem stateVerdict_counted {rule : RuleDefinition} {o : AssessmentObligation}
    {state : EffectiveStateRow} {verdict : FindingVerdict} {reason : Option AssessmentReason}
    (h : stateVerdict rule o state = .ok (verdict, reason)) : isCounted verdict = true := by
  unfold stateVerdict at h
  split at h
  · cases h
    rfl
  · split at h
    next found heval =>
      cases h
      exact evaluateCondition_counted heval
    next => cases h; rfl
    next => cases h

theorem obligationVerdict_counted {rule : RuleDefinition} {o : AssessmentObligation}
    {states : List EffectiveStateRow} {findings : List FindingDraft} {verdict : FindingVerdict}
    {reason : Option AssessmentReason}
    (h : obligationVerdict rule o states findings = .ok (verdict, reason)) :
    isCounted verdict = true := by
  unfold obligationVerdict at h
  split at h
  · cases h
    rfl
  · split at h
    · cases h
      rfl
    · exact stateVerdict_counted h
    · cases h
      rfl

section Assess

variable {rules : List RuntimeRuleVersion} {organizationId : UUID} {profileVersionId : String}
  {sha256 : String → String} {packs : List AssessmentPackVersion}
  {states : List EffectiveStateRow} {findings : List FindingDraft}

theorem assessObligation_assessed {o : AssessmentObligation} {result : AssessmentResult}
    (h : assessObligation rules organizationId profileVersionId sha256 packs states findings o =
      .ok result) : Assessed result := by
  unfold assessObligation at h
  cases hpack : packs.find? (·.assessmentPackVersionId == o.assessmentPackVersionId) with
  | none => simp only [hpack] at h; cases h
  | some pack =>
    simp only [hpack, except_bind_eq_ok] at h
    obtain ⟨_, -, digest, -, h⟩ := h
    have hknown : applicabilityOf rules organizationId profileVersionId pack o ≠ .unknown := by
      unfold applicabilityOf
      split <;> simp
    split at h
    next hdecided =>
      obtain ⟨happlicable, hautomatic⟩ := hdecided
      simp only [except_bind_eq_ok, except_pure_eq_ok] at h
      obtain ⟨rule, -, ⟨verdict, reason⟩, hverdict, rfl⟩ := h
      refine ⟨hknown, fun _ _ => ⟨verdict, rfl, obligationVerdict_counted hverdict⟩, ?_⟩
      intro hnot
      refine absurd ⟨?_, hautomatic⟩ hnot
      simpa [isApplicable] using happlicable
    next hundecided =>
      rw [except_pure_eq_ok] at h
      subst h
      refine ⟨hknown, fun happlicable hautomatic => ?_, fun _ => rfl⟩
      refine absurd ⟨?_, hautomatic⟩ hundecided
      simpa [isApplicable] using happlicable

end Assess

theorem persistAssessmentResults_assessed {sha256 : String → String} {catalogs : Catalogs}
    {pins : PinnedAssessment} {profileVersionId : String} {states : List EffectiveStateRow}
    {findings : List FindingDraft} {results : List AssessmentResult}
    (h : persistAssessmentResults sha256 catalogs pins profileVersionId states findings =
      .ok results) : ∀ result ∈ results, Assessed result := by
  unfold persistAssessmentResults at h
  split at h
  · cases h
    simp
  · simp only [except_bind_eq_ok] at h
    obtain ⟨_, -, _, -, h⟩ := h
    intro result hresult
    obtain ⟨o, -, ho⟩ := mapM_exists_input h hresult
    exact assessObligation_assessed ho

section Kinds

/-- Every result is automatic, manual or unimplemented. -/
theorem count_kinds (results : List AssessmentResult) : results.length =
    results.countP isAutomaticResult + results.countP isManualResult +
      results.countP isUnimplementedResult := by
  induction results with
  | nil => rfl
  | cons result rest ih =>
    have hkind : weight isAutomaticResult result + weight isManualResult result +
        weight isUnimplementedResult result = 1 := by
      unfold weight isManualResult isAutomaticResult isUnimplementedResult
      cases result.implementationStatus <;> cases result.assessmentMethod <;> rfl
    unfold weight at hkind
    rw [List.length_cons, List.countP_cons, List.countP_cons, List.countP_cons, ih]
    omega

/-- A not applicable result of a kind. -/
def outside (kind : AssessmentResult → Bool) (result : AssessmentResult) : Bool :=
  kind result && !isApplicable result

/-- The results of a kind are the applicable ones and those outside. -/
theorem count_outside (kind : AssessmentResult → Bool) (results : List AssessmentResult) :
    results.countP kind =
      (results.filter isApplicable).countP kind + results.countP (outside kind) := by
  rw [List.countP_filter]
  refine countP_split fun result _ => ?_
  by_cases hkind : kind result = true <;> by_cases happlicable : isApplicable result = true <;>
    simp [weight, outside, hkind, happlicable]

variable {results : List AssessmentResult}

/-- A result with a verdict is applicable. -/
theorem count_verdict (h : ∀ result ∈ results, Assessed result) (verdict : FindingVerdict) :
    (results.filter isApplicable).countP (hasVerdict verdict) =
      results.countP (hasVerdict verdict) := by
  rw [List.countP_filter]
  refine List.countP_congr fun result hresult => ?_
  have hsilent := (h result hresult).silent
  rw [Bool.and_eq_true]
  refine ⟨fun hboth => hboth.1, fun hverdict => ⟨hverdict, ?_⟩⟩
  by_contra hnot
  have hnone : result.verdict = none := hsilent fun hboth => hnot hboth.1
  rw [hasVerdict, hnone, Bool.and_eq_true] at hverdict
  exact absurd hverdict.2 (by simp)

/-- An applicable automatic result passes, fails or is unknown. -/
theorem count_decided (h : ∀ result ∈ results, Assessed result) :
    (results.filter isApplicable).countP isAutomaticResult =
      results.countP (hasVerdict .pass) + results.countP (hasVerdict .fail) +
        results.countP (hasVerdict .unknown) := by
  rw [List.countP_filter]
  induction results with
  | nil => rfl
  | cons result rest ih =>
    have hrest := ih fun other hother => h other (List.mem_cons_of_mem _ hother)
    have hresult := h result List.mem_cons_self
    simp only [List.countP_cons, hrest]
    by_cases hdecided : isApplicable result = true ∧ isAutomaticResult result = true
    · obtain ⟨verdict, hverdict, hcounted⟩ := hresult.decided hdecided.1 hdecided.2
      simp only [hasVerdict, hdecided.1, hdecided.2, hverdict]
      cases verdict <;> first | (simp; omega) | cases hcounted
    · have hverdict : ∀ verdict, hasVerdict verdict result = false := by
        intro verdict
        rw [hasVerdict, hresult.silent hdecided]
        simp
      have hnot : (isAutomaticResult result && isApplicable result) = false := by
        rw [Bool.and_eq_false_iff]
        by_cases hautomatic : isAutomaticResult result = true
        · exact .inr (by simpa using fun happlicable => hdecided ⟨happlicable, hautomatic⟩)
        · exact .inl (by simpa using hautomatic)
      simp only [hverdict, hnot]
      simp

end Kinds

end ConfigAuditor.Assessment.CoverageSummary
