import ConfigAuditor.Assessment.Model
import ConfigAuditor.ProfileResolution.Registry

/-!
# The results of an assessment

`persist_assessment_results`: each obligation of the pinned packs is applicable or not, and
an automatic one is evaluated on the states and findings of the audit.
-/
namespace ConfigAuditor.Assessment.Service

open Library SecurityModel ProfileResolution EffectiveState.Model Compliance.Model
  Compliance.Evaluator Compliance.RuntimeRules Assessment.Model

/-- What an organization can publish and an assessment reads. -/
structure Catalogs where
  packs : List AssessmentPackVersion
  obligations : List AssessmentObligation
  rules : List RuntimeRuleVersion

/-- An audit with its pinned packs: the framework pins, then the legacy pin. -/
structure PinnedAssessment where
  auditId : UUID
  organizationId : UUID
  packIds : List UUID
  deriving DecidableEq

def packError (code message : String) : Error := .assessmentPack code message

/-- `a or b`. -/
def orElse (a b : PyValue) : PyValue := if a.truthy then a else b

def isHexDigit (c : Char) : Bool := "0123456789abcdef".toList.contains c

/-- The provenance condition on `source_metadata`. -/
def sourceInvalid (pack : AssessmentPackVersion) : Bool :=
  let source := pack.sourceMetadata
  let url := orElse (get source "official_source_url")
    (orElse (get source "source_url") (get source "iso_open_data_url"))
  let digest := orElse (get source "source_sha256") (get source "olir_sha3_256")
  pack.family != "TEST/INFRASTRUCTURE" &&
    (!(url.str?.any (Text.startsWith · "https://")) || !(digest.str?.any fun d => 32 ≤ d.length))

/-- `set(applicability_profiles) == set(profiles)`, when the former is a list. -/
def applicabilityMatches (pack : AssessmentPackVersion) : Bool :=
  match get pack.applicability "profile_version_ids" with
  | .list items =>
    items.all (fun item => item.str?.any (pack.profileVersionIds.contains ·)) &&
      pack.profileVersionIds.all fun profile => items.contains (.str profile)
  | _ => false

/-- `AssessmentPackRegistry.validate`. -/
def validatePack (pack : AssessmentPackVersion) : Except Error Unit :=
  raiseIf (pack.schemaVersion != "1.0.0" || pack.assessmentPackVersionId.int == 0 ||
    (Text.strip pack.packKey).isEmpty || (Text.strip pack.family).isEmpty ||
    (Text.strip pack.name).isEmpty || decide (pack.version < 1) ||
    pack.profileVersionIds.isEmpty || pack.profileVersionIds.any (fun p => (Text.strip p).isEmpty) ||
    !applicabilityMatches pack || pack.contentDigest.length != 64 ||
    !(Text.lower pack.contentDigest).toList.all isHexDigit || sourceInvalid pack)
    (packError "assessment_pack_invalid" "Assessment Pack registry entry is invalid")

/-- The texts of `validate_persisted_obligation`. -/
def provenanceTexts (o : AssessmentObligation) : List String :=
  [o.frameworkVersion, o.sourceUrl, o.sourceDigest, o.controlId, o.title, o.severity, o.scope]

/-- `validate_persisted_obligation`. -/
def obligationValid (o : AssessmentObligation) : Bool :=
  (provenanceTexts o).all (fun text => !(Text.strip text).isEmpty) &&
    Text.startsWith o.sourceUrl "https://" && 32 ≤ o.sourceDigest.length

/-- What an UNKNOWN result gives as its reason. -/
inductive AssessmentReason where
  | unresolved (reason : UnresolvedReason)
  | evaluationError
  deriving DecidableEq, Repr

structure AssessmentResult where
  resultIdentity : String
  obligationId : UUID
  applicabilityStatus : ApplicabilityStatus
  assessmentMethod : AssessmentMethod
  implementationStatus : ImplementationStatus
  verdict : Option FindingVerdict
  technicalFindingId : Option UUID
  policyDigest : String
  unknownReason : Option AssessmentReason
  /-- `not_applicable_reason` is `canonical_evidence_unsupported`. -/
  evidenceUnsupported : Bool
  deriving DecidableEq

def isAutomatic (o : AssessmentObligation) : Bool :=
  o.implementationStatus == .implemented && o.assessmentMethod == .automatic

section Evaluate

variable (rules : List RuntimeRuleVersion) (organizationId : UUID) (profileVersionId : String)

/-- `_rule_for`. -/
def ruleFor (ruleId : String) : Except Error RuleDefinition :=
  match runtimeRuleFor rules organizationId ruleId profileVersionId with
  | .error (.runtimeRule _) => .error (packError "assessment_evaluator_unavailable"
      "Assessment evaluator binding is unavailable")
  | result => result

/-- The fields an obligation needs: those of its policy, else those of its rule. -/
def requiredFields (o : AssessmentObligation) : Option (List PyValue) :=
  match get o.policyParameters "required_canonical_fields" with
  | .list (field :: rest) => some (field :: rest)
  | _ => (ruleFor rules organizationId profileVersionId (o.evaluatorRuleId.getD "")).toOption.map
      fun rule => rule.requiredEffectiveStates.map .str

/-- `_automatic_evidence_supported`. -/
def automaticEvidenceSupported (o : AssessmentObligation) : Bool :=
  match requiredFields rules organizationId profileVersionId o with
  | none => false
  | some required =>
    !required.isEmpty &&
      match profileRegistry profileVersionId with
      | none => true
      | some profile => required.all fun field =>
          field.str?.any (profile.canonicalFields.contains ·)

/-- The finding an obligation is compared with: an unknown one, else the first of the rule. -/
def baselineFinding (findings : List FindingDraft) (ruleId : String) : Option FindingDraft :=
  let own := findings.filter (·.ruleId == ruleId)
  match own.find? (·.verdict == .unknown) with
  | some finding => some finding
  | none => own.head?

/-- The verdict on the one state of the rule's field. -/
def stateVerdict (rule : RuleDefinition) (o : AssessmentObligation) (state : EffectiveStateRow) :
    Except Error (FindingVerdict × Option AssessmentReason) :=
  if state.resolutionStatus ≠ .resolved then
    .ok (.unknown, some (.unresolved (state.unresolvedReason.getD .conflictingEvidence)))
  else
    match evaluateObligation rule o.policyParameters state.effectiveValue with
    | .ok verdict => .ok (verdict, none)
    | .error (.evaluation _) => .ok (.unknown, some .evaluationError)
    | .error e => .error e

/-- The verdict of an automatic obligation and its reason when it is UNKNOWN. -/
def obligationVerdict (rule : RuleDefinition) (o : AssessmentObligation)
    (states : List EffectiveStateRow) (findings : List FindingDraft) :
    Except Error (FindingVerdict × Option AssessmentReason) :=
  match (baselineFinding findings rule.ruleId).filter (·.verdict == .unknown) with
  | some finding => .ok
      (.unknown, some (.unresolved (finding.unknownReason.getD .unknownSemantics)))
  | none =>
    match states.filter fun state => rule.requiredEffectiveStates.contains state.fieldId with
    | [] => .ok (.unknown, some (.unresolved .missingEvidence))
    | [state] => stateVerdict rule o state
    | _ :: _ :: _ => .ok (.unknown, some (.unresolved .ambiguousScope))

/-- The finding a result names: the baseline one, when the verdicts agree. -/
def technicalFinding (findings : List FindingDraft) (ruleId : String) (verdict : FindingVerdict) :
    Option UUID :=
  ((baselineFinding findings ruleId).filter (·.verdict == verdict)).map (·.findingId)

/-- The applicability of an obligation before its evidence is considered. -/
def profileApplicable (pack : AssessmentPackVersion) (o : AssessmentObligation) : Bool :=
  (o.profileVersionIds.getD pack.profileVersionIds).contains profileVersionId

/-- The applicability of an obligation. -/
def applicabilityOf (pack : AssessmentPackVersion) (o : AssessmentObligation) :
    ApplicabilityStatus :=
  if !profileApplicable profileVersionId pack o ||
      (isAutomatic o && !automaticEvidenceSupported rules organizationId profileVersionId o) then
    .notApplicable
  else .applicable

variable (sha256 : String → String)

/-- `policy_digest`. -/
def policyDigest (policy : Payload) : Except Error String := do
  let text ← (PyValue.dict policy).dumps
  return sha256 text

/-- `_result_identity`, with the key of the pack where an audit pins several. -/
def resultIdentity (packCount : Nat) (pack : AssessmentPackVersion) (o : AssessmentObligation)
    (digest : String) : String :=
  if 1 < packCount then pack.packKey ++ ":" ++ (o.obligationKey ++ ":" ++ digest)
  else o.obligationKey ++ ":" ++ digest

/-- One turn of the loop of `persist_assessment_results`. -/
def assessObligation (packs : List AssessmentPackVersion) (states : List EffectiveStateRow)
    (findings : List FindingDraft) (o : AssessmentObligation) : Except Error AssessmentResult :=
  match packs.find? (·.assessmentPackVersionId == o.assessmentPackVersionId) with
  | none => .error (.python .keyError)
  | some pack => do
    raiseIf (pack.family != "TEST/INFRASTRUCTURE" && !obligationValid o)
      (packError "assessment_catalog_invalid" "Catalog obligation provenance is invalid")
    let digest ← policyDigest sha256 o.policyParameters
    let applicability := applicabilityOf rules organizationId profileVersionId pack o
    let result : AssessmentResult :=
      { resultIdentity := resultIdentity packs.length pack o digest,
        obligationId := o.assessmentObligationId, applicabilityStatus := applicability,
        assessmentMethod := o.assessmentMethod, implementationStatus := o.implementationStatus,
        verdict := none, technicalFindingId := none, policyDigest := digest,
        unknownReason := none,
        evidenceUnsupported := profileApplicable profileVersionId pack o &&
          applicability == .notApplicable }
    if applicability = .applicable ∧ isAutomatic o = true then
      let rule ← ruleFor rules organizationId profileVersionId (o.evaluatorRuleId.getD "")
      let (verdict, reason) ← obligationVerdict rule o states findings
      return {
        result with
        verdict := some verdict
        unknownReason := reason
        technicalFindingId := technicalFinding findings rule.ruleId verdict }
    else return result

end Evaluate

/-- The rows of the pinned packs. -/
def pinnedPacks (catalogs : Catalogs) (pins : PinnedAssessment) : List AssessmentPackVersion :=
  catalogs.packs.filter fun pack => pins.packIds.contains pack.assessmentPackVersionId

/-- The obligations of the pinned packs, `ORDER BY obligation_key`. -/
def pinnedObligations (catalogs : Catalogs) (pins : PinnedAssessment) :
    List AssessmentObligation :=
  sortedBy (·.obligationKey)
    (catalogs.obligations.filter fun o => pins.packIds.contains o.assessmentPackVersionId)

/-- Every pinned pack is there and belongs to the organization or to everyone. -/
def packsAvailable (pins : PinnedAssessment) (packs : List AssessmentPackVersion) : Bool :=
  packs.length == pins.packIds.dedup.length &&
    packs.all fun pack => pack.organizationId.all (· == pins.organizationId)

/-- The states of the audit, in the order of field and scope. -/
def auditStates (auditId : UUID) (states : List EffectiveStateRow) : List EffectiveStateRow :=
  sortedBy (fun state => toLex (state.fieldId, state.scopeKey))
    (states.filter (·.auditId == auditId))

/-- `persist_assessment_results`; without pins there is nothing to assess. -/
def persistAssessmentResults (sha256 : String → String) (catalogs : Catalogs)
    (pins : PinnedAssessment) (profileVersionId : String) (states : List EffectiveStateRow)
    (findings : List FindingDraft) : Except Error (List AssessmentResult) :=
  if pins.packIds.isEmpty then .ok []
  else do
    let packs := pinnedPacks catalogs pins
    raiseIf (!packsAvailable pins packs)
      (packError "assessment_pack_not_found" "Pinned Assessment Pack is unavailable")
    packs.forM validatePack
    (pinnedObligations catalogs pins).mapM
      (assessObligation catalogs.rules pins.organizationId profileVersionId sha256 packs
        (auditStates pins.auditId states) findings)

end ConfigAuditor.Assessment.Service
