import ConfigAuditor.Compliance.Model
import ConfigAuditor.Library.UuidText
import ConfigAuditor.Remediation.Procedures

/-!
# Previews of a remediation

`_select`, `_preview`, `persisted_preview_payload` and `_restore_preview`: the procedure
for a finding, the preview of its steps for given parameters, what is stored of the
preview, and the preview made again from what is stored.
-/
namespace ConfigAuditor.Remediation

open Library Compliance.Model

/-- The columns of a finding that the service reads. -/
structure FindingView where
  findingId : UUID
  ruleId : String
  verdict : FindingVerdict
  remediationProcedureId : Option UUID

/-- What the service reads of `audit.version_refs` and `audit.profile_resolution`. -/
structure AuditView where
  deviceProfileVersionId : Option String
  profileVersionId : Option String
  resolutionStatus : Option String

/-- The table of procedures and the built-in catalog with the reasons it gives for what it lacks. -/
structure Procedures where
  rows : List RemediationProcedure
  builtIn : List RemediationProcedure
  unavailableReasons : List ((String × String) × String)

/-- `db.get(RemediationProcedure, id)`. -/
def Procedures.row (s : Procedures) (id : UUID) : Option RemediationProcedure :=
  s.rows.find? (·.procedureId == id)

/-- The procedure of an id: the row, or the one of the catalog. -/
def Procedures.lookup (s : Procedures) (id : UUID) : Option RemediationProcedure :=
  (s.row id).or (s.builtIn.find? (·.procedureId == id))

/-- `_profile`. -/
def profileOf (audit : AuditView) : Option String :=
  match audit.deviceProfileVersionId, audit.profileVersionId with
  | some pinned, some resolved =>
    if pinned.isEmpty || resolved.isEmpty || pinned != resolved ||
      audit.resolutionStatus != some "resolved" then none
    else some pinned
  | _, _ => none

/-- `profile in rule.get("profile_version_ids", [])`. -/
def profileListed (procedure : RemediationProcedure) (profile : String) : Except PyError Bool :=
  memberOf profile ((Dict.get? procedure.profileApplicability "profile_version_ids").getD (.list []))

/-- `_applicable`: the reason why a procedure is not applicable, if there is one. -/
def inapplicable (procedure : RemediationProcedure) (audit : AuditView) :
    Except PyError (Option String) :=
  match profileOf audit with
  | none => return some "profile_context_mismatch"
  | some profile => do
    if ← profileListed procedure profile then return none else return some "unsupported_profile"

/-- `RemediationProcedureRegistry.for_rule`. -/
def Procedures.forRule (s : Procedures) (ruleId : String) (profile : Option String) :
    Except PyError (Option RemediationProcedure) := do
  let candidates := s.builtIn.filter (·.ruleId == ruleId)
  let candidates ← match profile with
    | none => return if candidates.length = 1 then candidates.head? else none
    | some profile => candidates.filterM fun procedure => profileListed procedure profile
  return if candidates.length = 1 then candidates.head? else none

/-- The result of `_select`. -/
inductive Selection where
  | selected (procedure : RemediationProcedure) (source : String)
  | unavailable (reason : Option String)

/-- The end of `_select`: the checks on the procedure that was found. -/
def checkedSelection (procedure : RemediationProcedure) (source : String) (audit : AuditView) :
    Except Failure Selection :=
  match (do validateRegistryIdentity procedure; validateProcedure procedure) with
  | .error (.remediation reason) => return .unavailable (some reason)
  | .error error => .error error
  | .ok () => do
    match ← inapplicable procedure audit with
    | none => return .selected procedure source
    | some reason => return .unavailable (some reason)

/-- Why the catalog has no procedure for a rule. -/
def Procedures.missingReason (s : Procedures) (profile : Option String) (ruleId : String) : String :=
  let documented := profile.bind fun profile =>
    (s.unavailableReasons.find? fun entry => entry.1 == (profile, ruleId)).map (·.2)
  match documented with
  | some reason => reason
  | none =>
    if s.builtIn.any (·.ruleId == ruleId) then "unsupported_profile" else "no_published_procedure"

/-- `_select`. -/
def select (s : Procedures) (finding : FindingView) (audit : AuditView) :
    Except Failure Selection := do
  match finding.remediationProcedureId with
  | some id => match s.row id with
    | none => return .unavailable (some "invalid_registry_entry")
    | some procedure =>
      if procedure.status.isReleased = false ∨ procedure.ruleId ≠ finding.ruleId then
        return .unavailable (some "invalid_registry_entry")
      else checkedSelection procedure "explicit_finding_reference" audit
  | none =>
    let candidates := s.rows.filter fun procedure =>
      procedure.ruleId == finding.ruleId && procedure.status == .published
    let applicable ← candidates.filterM fun procedure => do
      return (← inapplicable procedure audit).isNone
    match applicable with
    | [] => match ← s.forRule finding.ruleId (profileOf audit) with
      | none => return .unavailable (s.missingReason (profileOf audit) finding.ruleId)
      | some procedure => checkedSelection procedure "built_in_reviewed_catalog" audit
    | [procedure] => checkedSelection procedure "published_registry_resolution" audit
    | _ => return .unavailable (some "ambiguous_procedure")

/-- A response. The columns of the procedure are copied into it as they are. -/
structure Response where
  status : String
  reason : Option String
  findingId : UUID
  procedure : Option RemediationProcedure := none
  selectionSource : Option String := none
  validatedParameters : Option (List (String × String)) := none
  rendered : Option RenderedSections := none
  deriving DecidableEq

/-- An entry of `required_parameters` under its name. -/
def definitionOf : PyValue → Option (String × Definition)
  | .dict item => match Dict.get? item "name" with
    | some (.str name) => some (name, item)
    | _ => none
  | _ => none

/-- `{item["name"]: item for item in procedure.required_parameters}`. -/
def definitionsOf (procedure : RemediationProcedure) : List (String × Definition) :=
  procedure.requiredParameters.filterMap definitionOf

/-- `_response`. -/
def response (finding : FindingView) (selection : Selection) : Except Failure Response := do
  if finding.verdict ≠ .fail then
    return { status := "not_required", reason := some "non_fail_verdict", findingId := finding.findingId }
  else match selection with
    | .unavailable reason =>
      return { status := "unavailable", reason := reason, findingId := finding.findingId }
    | .selected procedure source =>
      let required := (definitionsOf procedure).filter fun definition => isRequired definition.2
      let rendered ← if required.isEmpty then some <$> renderSections procedure [] else pure none
      return {
        status := if required.isEmpty then "applicable" else "requires_parameters"
        reason := none
        findingId := finding.findingId
        procedure := some procedure
        selectionSource := some source
        rendered := rendered }

abbrev Policy := Option (List (String × PyValue))

/-- `_validate_framework_parameters`. -/
def validateFrameworkParameters (policy : Policy) (values : List (String × String)) :
    Except Failure Unit :=
  let maximum := (Dict.get? (policy.getD []) "maximum_admin_idle_timeout_seconds").getD .none
  match maximum, Dict.get? values "minutes" with
  | .none, _ => return ()
  | _, none => return ()
  | maximum, some minutes =>
    match (do return (← PyValue.intOfText minutes, ← maximum.toInt) : Except PyError (Int × Int)) with
    | .ok (minutes, maximumSeconds) =>
      refuseIf (maximumSeconds < minutes * 60) "framework_parameter_exceeds_threshold"
    | .error .typeError => .error invalidParameters
    | .error .valueError => .error invalidParameters
    | .error error => .error (.python error)

/-- The loop of `_preview` over the definitions. -/
def givenValues (parameters : List (String × PyValue)) :
    List (String × Definition) → Except Failure (List (String × String))
  | [] => return []
  | (name, definition) :: rest =>
    match Dict.get? parameters name with
    | none => do
      refuseIf (isRequired definition) "missing_required_parameters"
      givenValues parameters rest
    | some given => do
      let normal ← value definition given
      return (name, normal) :: (← givenValues parameters rest)

/-- `_preview`. -/
def preview (s : Procedures) (finding : FindingView) (audit : AuditView)
    (parameters : List (String × PyValue)) (policy : Policy) : Except Failure Response := do
  let selection ← select s finding audit
  let base ← response finding selection
  match base.procedure with
  | none => return base
  | some procedure =>
    let definitions := definitionsOf procedure
    refuseIf (parameters.any fun parameter => (Dict.get? definitions parameter.1).isNone)
      "invalid_parameters"
    let values ← givenValues parameters definitions
    validateFrameworkParameters policy values
    let rendered ← renderSections procedure values
    return { base with
      status := "applicable"
      validatedParameters := some values
      rendered := some rendered }

/-- `_PLACEHOLDER.search(step)`. -/
def unresolved (step : String) : Bool := !(placeholders step).isEmpty

/-- `persisted_preview_payload`. -/
def persistedPreviewPayload (preview : Response) : Except Failure (List (String × PyValue)) := do
  refuseIf (preview.status != "applicable") "remediation_not_applicable"
  match preview.procedure with
  | none => .error (.remediation "invalid_registry_entry")
  | some procedure =>
    let rendered := preview.rendered.getD ⟨[], [], []⟩
    refuseIf ((rendered.renderedSteps ++ rendered.renderedVerificationSteps ++
      rendered.renderedRollbackSteps).any unresolved) "unresolved_parameters"
    return [
      ("procedure_id", .str procedure.procedureId.str),
      ("procedure_key", .str procedure.procedureKey),
      ("procedure_version", .int procedure.version),
      ("parameters", .dict ((preview.validatedParameters.getD []).map fun p => (p.1, .str p.2))),
      ("rendered_steps", .list (rendered.renderedSteps.map .str)),
      ("rendered_verification_steps", .list (rendered.renderedVerificationSteps.map .str)),
      ("rendered_rollback_steps", .list (rendered.renderedRollbackSteps.map .str)),
      ("selection_source", match preview.selectionSource with
        | some source => .str source
        | none => .none)]

def unavailableResponse (finding : FindingView) (reason : String) : Response where
  status := "unavailable"
  reason := some reason
  findingId := finding.findingId

/-- `UUID(str(stored["procedure_id"]))`. -/
def storedId (stored : List (String × PyValue)) : Except PyError UUID := do
  match Dict.get? stored "procedure_id" with
  | none => .error .keyError
  | some id => match UUID.ofText? (← id.text) with
    | some id => return id
    | none => .error .valueError

/-- `int(stored["procedure_version"])`. -/
def storedVersion (stored : List (String × PyValue)) : Except PyError Int :=
  match Dict.get? stored "procedure_version" with
  | none => .error .keyError
  | some version => version.toInt

/-- The parameters of a stored preview, validated once more. -/
def restoredValues (procedure : RemediationProcedure) (stored : List (String × PyValue)) :
    Except Failure (List (String × String)) := do
  let definitions := definitionsOf procedure
  match Dict.get? stored "parameters" with
  | some (.dict parameters) =>
    refuseIf (parameters.any fun parameter => (Dict.get? definitions parameter.1).isNone)
      "invalid_parameters"
    refuseIf (definitions.any fun definition =>
      isRequired definition.2 && (Dict.get? parameters definition.1).isNone)
      "missing_required_parameters"
    parameters.mapM fun parameter => do
      let normal ← value ((Dict.get? definitions parameter.1).getD []) parameter.2
      return (parameter.1, normal)
  | _ => .error invalidParameters

/-- The last part of `_restore_preview`, inside its `try`. -/
def restored (finding : FindingView) (procedure : RemediationProcedure)
    (stored : List (String × PyValue)) (policy : Policy) : Except Failure Response := do
  validateRegistryIdentity procedure
  validateProcedure procedure
  let values ← restoredValues procedure stored
  validateFrameworkParameters policy values
  let base ← response finding (.selected procedure "persisted_preview")
  let rendered ← renderSections procedure values
  return { base with
    status := "applicable"
    validatedParameters := some values
    rendered := some rendered }

/-- `_restore_preview`; `none` is `None`. -/
def restorePreview (s : Procedures) (finding : FindingView) (audit : AuditView) (stored : PyValue)
    (policy : Policy) : Except Failure (Option Response) := do
  match stored with
  | .dict stored =>
    if stored.isEmpty || finding.verdict != .fail then return none
    else match (do return (← storedId stored, ← storedVersion stored) : Except PyError (UUID × Int)) with
      | .error .overflowError => .error (.python .overflowError)
      | .error _ => return some (unavailableResponse finding "persisted_preview_invalid")
      | .ok (id, version) =>
        match s.lookup id with
        | none => return some (unavailableResponse finding "persisted_preview_unavailable")
        | some procedure =>
          if procedure.status.isReleased = false ∨ procedure.version ≠ version ∨
              procedure.ruleId ≠ finding.ruleId then
            return some (unavailableResponse finding "persisted_preview_unavailable")
          else if (← inapplicable procedure audit).isSome then
            return some (unavailableResponse finding "persisted_preview_unavailable")
          else match restored finding procedure stored policy with
            | .ok response => return some response
            | .error (.remediation _) =>
              return some (unavailableResponse finding "persisted_preview_invalid")
            | .error error => .error error
  | _ => return none

end ConfigAuditor.Remediation
