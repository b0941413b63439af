import ConfigAuditor.Assessment.Publication
import ConfigAuditor.ProfileResolution.RuntimeProfiles

/-!
# Imported catalogs

`parse_external_catalog`: a CIS or ISO catalog of obligations that are assessed by hand. The
texts of the file are taken with `str`, whatever value stands there; the printed form of a list
or an object and the JSON reader are parameters.
-/
namespace ConfigAuditor.Assessment.ExternalCatalog

open Library Compliance.RuntimeRules Assessment.Model Catalog Publication
open ProfileResolution.RuntimeProfiles (LoadsError)

section Parse

variable (loads : String → Except LoadsError PyValue) (reprOf : PyValue → Except PyError String)
  (sha256 : ByteArray → String)

/-- `json.loads(content.decode("utf-8"))`; nothing where the clause of the parser catches the
exception. -/
def loaded (content : ByteArray) : Except Error (Option PyValue) :=
  match (String.fromUTF8? content).map loads with
  | some (.ok value) => .ok (some value)
  | some (.error (.raised error)) => .error (.python error)
  | _ => .ok none

/-- `str(value)`. -/
def strOf (value : PyValue) : Except PyError String :=
  if value.isContainer then reprOf value else value.text

/-- `str(payload.get(key, otherwise)).strip()`. -/
def textAt (payload : List (String × PyValue)) (key otherwise : String) : Except Error String := do
  let text ← strOf reprOf ((PyValue.lookup key payload).getD (.str otherwise))
  return Text.strip text

def isProfileName (value : PyValue) : Bool :=
  value.str?.any fun text => !(Text.strip text).isEmpty && text.length ≤ 255

/-- The profiles of a catalog, when each is a name. -/
def profileNames (value : PyValue) : Option (List String) :=
  match value with
  | .list items =>
    if items.isEmpty || 32 < items.length || !items.all isProfileName then none
    else some ((items.filterMap fun item => item.str?.map Text.strip).eraseDups)
  | _ => none

/-- The controls of a catalog. -/
def controlItems (value : PyValue) : Option (List PyValue) :=
  match value with
  | .list items =>
    if items.isEmpty || maxExternalControls < items.length then none else some items
  | _ => none

def manualStatus (text : String) : Option ImplementationStatus :=
  if text = "manual" then some .manual
  else if text = "unimplemented" then some .unimplemented
  else none

def invalidControl : Error := importError "Catalog control is invalid or duplicated"

/-- A control of texts that were taken. -/
def checkedControl (seen : List ExternalControl)
    (controlId title severity scope implementation : String) : Except Error ExternalControl :=
  match manualStatus (Text.lower implementation) with
  | some implementationStatus => do
    raiseIf (!isIdentifier controlId || seen.any (·.controlId == controlId) ||
      title.isEmpty || 255 < title.length || severity.isEmpty || 32 < severity.length ||
      scope.isEmpty || 512 < scope.length) invalidControl
    return { controlId, title, severity, scope, implementationStatus }
  | none => .error invalidControl

/-- One turn of the loop over the controls, given those already read. -/
def parseControl (seen : List ExternalControl) (value : PyValue) : Except Error ExternalControl :=
  match value with
  | .dict control => do
    raiseIf (get control "evaluator_rule_id" != .none)
      (importError "External controls cannot define automatic evaluators")
    let controlId ← textAt reprOf control "control_id" ""
    let title ← textAt reprOf control "title" ""
    let severity ← textAt reprOf control "severity" "not_assigned"
    let scope ← textAt reprOf control "scope" "organization-defined"
    let implementation ← textAt reprOf control "implementation_status" "manual"
    checkedControl seen controlId title severity scope implementation
  | _ => .error (importError "External controls cannot define automatic evaluators")

/-- The loop over the controls. -/
def parseControls (values : List PyValue) : Except Error (List ExternalControl) :=
  values.foldlM (fun seen value => do
    let control ← parseControl reprOf seen value
    return seen ++ [control]) []

def invalidProvenance : Error := importError "Catalog identity or provenance is invalid"

/-- The fields of a catalog that identify it. -/
def validProvenance (catalogId name sourceVersion sourceUrl : String) : Bool :=
  isIdentifier catalogId && !name.isEmpty && name.length ≤ 255 && !sourceVersion.isEmpty &&
    sourceVersion.length ≤ 128 && Text.startsWith sourceUrl "https://" && sourceUrl.length ≤ 2048

/-- A catalog of texts that were taken. -/
def checkedCatalog (payload : List (String × PyValue))
    (digest framework catalogId name sourceVersion sourceUrl : String) :
    Except Error ExternalCatalog :=
  match profileNames (get payload "profile_version_ids"), controlItems (get payload "controls") with
  | some profileVersionIds, some items => do
    raiseIf (!validProvenance catalogId name sourceVersion sourceUrl) invalidProvenance
    let controls ← parseControls reprOf items
    return {
      framework, catalogId, name, sourceVersion, sourceUrl, sourceDigest := digest,
      profileVersionIds, controls }
  | _, _ => .error invalidProvenance

/-- `parse_external_catalog` of a JSON object. -/
def catalogOf (digest : String) (payload : List (String × PyValue)) :
    Except Error ExternalCatalog := do
  raiseIf (get payload "schema_version" != .str "1.0.0")
    (importError "Catalog schema_version must be 1.0.0")
  let framework ← textAt reprOf payload "framework" ""
  raiseIf (!(["cis", "iso"].contains (Text.lower framework)))
    (importError "Only CIS and ISO external catalogs are supported")
  let catalogId ← textAt reprOf payload "catalog_id" ""
  let name ← textAt reprOf payload "name" ""
  let sourceVersion ← textAt reprOf payload "source_version" ""
  let sourceUrl ← textAt reprOf payload "source_url" ""
  checkedCatalog reprOf payload digest (Text.lower framework) catalogId name sourceVersion sourceUrl

/-- `parse_external_catalog`. -/
def parseExternalCatalog (content : ByteArray) : Except Error ExternalCatalog := do
  raiseIf (content.size = 0 || maxExternalCatalogBytes < content.size)
    (importError "Catalog file size is invalid")
  match ← loaded loads content with
  | some (.dict payload) => catalogOf reprOf (sha256 content) payload
  | some _ => .error (importError "Catalog schema_version must be 1.0.0")
  | none => .error (importError "Catalog must be valid UTF-8 JSON")

end Parse

end ConfigAuditor.Assessment.ExternalCatalog
