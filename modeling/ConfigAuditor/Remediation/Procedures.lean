import ConfigAuditor.Library.AddressText
import ConfigAuditor.Library.Dict
import ConfigAuditor.Library.Uuid
import ConfigAuditor.Library.Value

/-!
# Remediation procedures

`app.remediation.service`: reviewed procedures with typed parameters and text steps.
A parameter is validated and put into its normal form, and the steps are rendered
with the normal forms in the place of their placeholders.
-/
namespace ConfigAuditor.Remediation

open Library

/-- What the service raises: `RemediationError`, or an exception of the library. -/
inductive Failure where
  | remediation (reason : String)
  | python (error : PyError)
  deriving DecidableEq, Repr

instance : MonadLift (Except PyError) (Except Failure) where
  monadLift x := x.mapError .python

/-- `if condition: raise RemediationError(reason)`. -/
def refuseIf (condition : Bool) (reason : String) : Except Failure Unit :=
  if condition then .error (.remediation reason) else .ok ()

@[simp] theorem refuseIf_eq_ok {condition : Bool} {reason : String} {u : Unit} :
    refuseIf condition reason = .ok u ↔ condition = false := by
  cases condition <;> simp [refuseIf]

inductive RemediationProcedureStatus where
  | draft
  | reviewed
  | validated
  | published
  | superseded
  deriving DecidableEq, Repr

/-- A row of `remediation_procedures`, or a reviewed procedure of the built-in catalog. -/
structure RemediationProcedure where
  procedureId : UUID
  procedureKey : String
  version : Int
  ruleId : String
  title : String
  securityObjective : String
  description : String
  status : RemediationProcedureStatus
  profileApplicability : List (String × PyValue)
  prerequisites : List PyValue
  safetyWarnings : List PyValue
  requiredParameters : List PyValue
  configurationContext : List PyValue
  orderedSteps : List PyValue
  verificationSteps : List PyValue
  rollbackSteps : List PyValue
  validationResults : List PyValue
  sourceReferences : List PyValue
  reviewedAt : PyValue
  validatedAt : PyValue
  schemaVersion : String
  deriving DecidableEq

/-- The statuses a stored procedure may have: published, or superseded since. -/
def RemediationProcedureStatus.isReleased : RemediationProcedureStatus → Bool
  | .published | .superseded => true
  | _ => false

/-- A procedure that was moved to another status. -/
def RemediationProcedure.withStatus (procedure : RemediationProcedure)
    (status : RemediationProcedureStatus) : RemediationProcedure :=
  { procedure with status := status }

/-- A character of a step, or a placeholder. -/
inductive Piece where
  | char (c : Char)
  | hole (name : String)
  deriving DecidableEq

def isNameStart (c : Char) : Bool := Text.isAsciiLetter c

def isNameChar (c : Char) : Bool := Text.isAsciiAlnum c || c == '_'

/-- The characters of a brace and of the name behind it that found no closing brace. -/
def unmatched : Option (List Char) → List Piece
  | none => []
  | some name => .char '\x7b' :: name.reverse.map .char

/-- The matches of `_PLACEHOLDER` and the text between them. The state is the name behind an
opening brace, read backwards. -/
def pieces : Option (List Char) → List Char → List Piece
  | pending, [] => unmatched pending
  | none, c :: cs => if c = '\x7b' then pieces (some []) cs else .char c :: pieces none cs
  | some name, c :: cs =>
    if name.isEmpty && isNameStart c || !name.isEmpty && isNameChar c then
      pieces (some (c :: name)) cs
    else if c = '\x7d' ∧ name.isEmpty = false then
      .hole (String.ofList name.reverse) :: pieces none cs
    else if c = '\x7b' then unmatched (some name) ++ pieces (some []) cs
    else unmatched (some name) ++ .char c :: pieces none cs

/-- `_PLACEHOLDER.findall(text)`. -/
def placeholders (text : String) : List String :=
  (pieces none text.toList).filterMap fun
    | .hole name => some name
    | .char _ => none

example : placeholders "line \x7b\x7bvty\x7d \x7b1\x7d \x7bvty_range\x7d \x7bminutes" =
    ["vty", "vty_range"] := by
  decide +kernel

/-- `_PLACEHOLDER.sub(lambda match: values[match.group(1)], text)`. -/
def substitute (values : List (String × String)) (text : String) : Except PyError String := do
  let parts ← (pieces none text.toList).mapM fun
    | .hole name => match Dict.get? values name with
      | some value => .ok value.toList
      | none => .error .keyError
    | .char c => .ok [c]
  return String.ofList parts.flatten

/-- `item in container` for a text. -/
def memberOf (item : String) : PyValue → Except PyError Bool
  | .list items => .ok (items.any (PyValue.eq (.str item)))
  | .str s => .ok (Text.occursIn item.toList s.toList)
  | .dict entries => .ok (entries.any (·.1 == item))
  | _ => .error .typeError

/-- `number < bound`. -/
def lessThan (a b : PyValue) : Except PyError Bool :=
  match a.number?, b.number? with
  | some x, some y => .ok (x.le y && !x.eq y)
  | _, _ => .error .typeError

abbrev Definition := List (String × PyValue)

/-- `definition.get("required", True)`. -/
def isRequired (definition : Definition) : Bool :=
  ((Dict.get? definition "required").getD (.bool true)).truthy

/-- The sections of a procedure that are rendered. -/
def RemediationProcedure.sections (procedure : RemediationProcedure) : List (List PyValue) :=
  [procedure.orderedSteps, procedure.verificationSteps, procedure.rollbackSteps]

def parameterTypes : List String :=
  ["ip_address", "ip_network", "hostname", "integer", "port", "enum"]

/-- The name of one entry of `required_parameters`. -/
def parameterName : PyValue → Except Failure String
  | .dict item => match (Dict.get? item "type").getD .none with
    | .list _ => .error (.python .typeError)
    | .dict _ => .error (.python .typeError)
    | .str kind => do
      refuseIf (!parameterTypes.contains kind) "invalid_registry_entry"
      match Dict.get? item "name" with
      | some (.str name) => return name
      | _ => .error (.remediation "invalid_registry_entry")
    | _ => .error (.remediation "invalid_registry_entry")
  | _ => .error (.remediation "invalid_registry_entry")

/-- `step.get("text", "")` of the steps that are dictionaries; `join` refuses anything but text. -/
def stepText : PyValue → Option (Except PyError String)
  | .dict step => match (Dict.get? step "text").getD (.str "") with
    | .str text => some (.ok text)
    | _ => some (.error .typeError)
  | _ => none

/-- `_validate_procedure`. -/
def validateProcedure (procedure : RemediationProcedure) : Except Failure Unit := do
  let names ← procedure.requiredParameters.mapM parameterName
  refuseIf (!decide names.Nodup || procedure.sourceReferences.isEmpty ||
    procedure.validationResults.isEmpty || procedure.prerequisites.isEmpty ||
    procedure.safetyWarnings.isEmpty || procedure.sections.any (·.isEmpty))
    "invalid_registry_entry"
  let texts ← ((procedure.sections.flatten.filterMap stepText).mapM id :
    Except PyError (List String))
  refuseIf (!(placeholders (Text.join "\n" texts)).all names.contains) "invalid_registry_entry"

/-- `_validate_registry_identity`. -/
def validateRegistryIdentity (procedure : RemediationProcedure) : Except Failure Unit :=
  refuseIf (procedure.schemaVersion != "1.0.0" || procedure.procedureId.int == 0 ||
    (Text.strip procedure.procedureKey).isEmpty || procedure.version < 1 ||
    (Text.strip procedure.ruleId).isEmpty) "invalid_registry_entry"

def isHostEdge (c : Char) : Bool := Text.isAsciiAlnum c

def isHostChar (c : Char) : Bool := Text.isAsciiAlnum c || c == '.' || c == '-'

/-- A full match of the pattern of host names. -/
def isHostname (s : String) : Bool :=
  match s.toList with
  | [] => false
  | [c] => isHostEdge c
  | c :: cs => isHostEdge c && isHostEdge (cs.getLastD c) && cs.dropLast.all isHostChar &&
      cs.length ≤ 252

def invalidParameters : Failure := .remediation "invalid_parameters"

/-- `definition.get("minimum")` and its like as a check on a number: the key is there and the
comparison holds. -/
def bounded (definition : Definition) (key : String)
    (outside : PyValue → Except PyError Bool) : Except Failure Unit := do
  match Dict.get? definition key with
  | some bound => refuseIf (← outside bound) "invalid_parameters"
  | none => return ()

/-- `_value` of an integer or a port. -/
def integerValue (definition : Definition) (kind s : String) : Except Failure String := do
  match PyValue.intOfText s with
  | .error _ => .error invalidParameters
  | .ok number =>
    refuseIf (kind == "port" && !(1 ≤ number && number ≤ 65535)) "invalid_parameters"
    bounded definition "minimum" fun bound => lessThan (.int number) bound
    bounded definition "maximum" fun bound => lessThan bound (.int number)
    PyValue.intText number

/-- The branches of `_value` for a text of a kind. -/
def valueOfKind (definition : Definition) (s : String) : PyValue → Except Failure String
  | .str "ip_address" => match IpAddress.ofText? s with
    | some address => return address.text
    | none => .error invalidParameters
  | .str "ip_network" => match IpAddress.networkOfText? s with
    | some network => return network
    | none => .error invalidParameters
  | .str "hostname" => match IpAddress.ofText? s with
    | some address => return address.text
    | none => if isHostname s then return Text.lower s else .error invalidParameters
  | .str "integer" => integerValue definition "integer" s
  | .str "port" => integerValue definition "port" s
  | .str "enum" => do
    let found ← memberOf s ((Dict.get? definition "values").getD (.list []))
    if found then return s else .error invalidParameters
  | _ => .error invalidParameters

/-- `_value`. -/
def value (definition : Definition) : PyValue → Except Failure String
  | .str s => do
    refuseIf (s.toList.any fun c => c.toNat < 32) "invalid_parameters"
    match Dict.get? definition "type" with
    | none => .error (.python .keyError)
    | some kind => valueOfKind definition s kind
  | _ => .error invalidParameters

/-- One step of `_render_section`. -/
def renderStep (values : List (String × String)) : PyValue → Except Failure String
  | .dict step => match Dict.get? step "text" with
    | some (.str text) => match substitute values text with
      | .ok rendered => return rendered
      | .error .keyError => .error (.remediation "missing_required_parameters")
      | .error error => .error (.python error)
    | _ => .error (.remediation "invalid_registry_entry")
  | _ => .error (.remediation "invalid_registry_entry")

structure RenderedSections where
  renderedSteps : List String
  renderedVerificationSteps : List String
  renderedRollbackSteps : List String
  deriving DecidableEq

/-- `_render_sections`. -/
def renderSections (procedure : RemediationProcedure) (values : List (String × String)) :
    Except Failure RenderedSections := do
  let steps ← procedure.orderedSteps.mapM (renderStep values)
  let verification ← procedure.verificationSteps.mapM (renderStep values)
  let rollback ← procedure.rollbackSteps.mapM (renderStep values)
  return ⟨steps, verification, rollback⟩

end ConfigAuditor.Remediation
