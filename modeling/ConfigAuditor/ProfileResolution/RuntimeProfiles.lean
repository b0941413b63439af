import ConfigAuditor.ProfileResolution.Resolver

/-!
# Published profiles

`app.profile_resolution.runtime`: an administrator uploads a profile manifest as JSON bytes. The
manifest is checked, its JSON value is stored, and every later use encodes the value and checks
it again. The JSON reader is a parameter.
-/
namespace ConfigAuditor.ProfileResolution.RuntimeProfiles

open Library SecurityModel

def spaced (parts : List (List Char)) : List Char := [',', ' '].intercalate parts

mutual
/-- The characters of `json.dumps(value, sort_keys=True)`. -/
def encode : PyValue → Except PyError (List Char)
  | .none => .ok "null".toList
  | .bool b => .ok (if b then "true".toList else "false".toList)
  | .int i => (PyValue.intText i).map (·.toList)
  | .float x => .ok (PyValue.jsonFloat x).toList
  | .str s => .ok (PyValue.jsonString s)
  | .list items => do
    let parts ← encodeList items
    return '[' :: spaced parts ++ [']']
  | .dict entries => do
    let parts ← encodeEntries entries
    let members := (PyValue.ordered true parts).map fun part =>
      PyValue.jsonString part.1 ++ ':' :: ' ' :: part.2
    return '\x7b' :: spaced members ++ ['\x7d']

def encodeList : List PyValue → Except PyError (List (List Char))
  | [] => .ok []
  | value :: rest => do
    let part ← encode value
    let parts ← encodeList rest
    return part :: parts

def encodeEntries : List (String × PyValue) → Except PyError (List (String × List Char))
  | [] => .ok []
  | (key, value) :: rest => do
    let part ← encode value
    let parts ← encodeEntries rest
    return (key, part) :: parts
end

/-- `json.dumps(value, sort_keys=True)`. -/
def dumps (value : PyValue) : Except PyError String := (encode value).map String.ofList

/-- A full match of one class and then at most `most` of another. -/
def fits (first rest : Char → Bool) (most : Nat) (text : String) : Bool :=
  match text.toList with
  | [] => false
  | c :: cs => first c && cs.length ≤ most && cs.all rest

/-- `_IDENTIFIER`. -/
def isIdentifier : String → Bool :=
  fits Text.isAsciiLower
    (fun c => Text.isAsciiLower c || Text.isAsciiDigit c || ['.', '_', '-'].contains c) 127

/-- `_SEMVER`. -/
def isSemver (text : String) : Bool :=
  match Text.splitAll '.' text.toList with
  | [major, minor, patch] =>
    [major, minor, patch].all fun number => !number.isEmpty && number.all PyFloat.isDigit
  | _ => false

/-- `_TOKEN`. -/
def isToken : String → Bool :=
  fits Text.isAsciiAlnum
    (fun c => Text.isAsciiAlnum c || [' ', '.', '_', ':', '/', '-'].contains c) 63

/-- `[A-Za-z_][A-Za-z0-9_.-]{0,127}`. -/
def isPathPart : String → Bool :=
  fits (fun c => Text.isAsciiLetter c || c == '_')
    (fun c => Text.isAsciiAlnum c || ['_', '.', '-'].contains c) 127

def refused (message : String) : Error := .runtimeProfile message

/-- `raw.get(key)`: an absent key is `None`. -/
def get (raw : List (String × PyValue)) (key : String) : PyValue :=
  (PyValue.lookup key raw).getD .none

/-- `value in texts` of a set of texts; what has no hash cannot be asked for. -/
def isOneOf (texts : List String) (value : PyValue) : Except Error Bool := do
  raiseIf value.isContainer (.python .typeError)
  return value.str?.any texts.contains

/-- The texts of a list of strings. -/
def textsOf (items : List PyValue) : Option (List String) := items.mapM PyValue.str?

/-- `_text`. -/
def textOf (value : PyValue) (label : String) (limit : Nat := 255) : Except Error String := do
  let result := Text.strip (value.str?.getD "")
  raiseIf (result.isEmpty || limit < result.length)
    (refused ("Profile " ++ label ++ " is invalid"))
  return result

/-- `_version`. -/
def versionOf (value : PyValue) : Except Error (Option (List Nat)) :=
  if value = .none then .ok none
  else do
    let text ← textOf value "version constraint" 64
    match ← VersionConstraint.parse text with
    | some parsed => return some parsed
    | none => .error (refused "Profile version constraint is invalid")

def evidenceTypes : List (String × ArtifactEvidenceType) :=
  [("configuration", .configuration), ("version_output", .versionOutput),
    ("inventory_output", .inventoryOutput), ("operational_output", .operationalOutput),
    ("structured_export", .structuredExport), ("unknown_evidence", .unknownEvidence)]

def deviceClassNames : List (String × DeviceClass) :=
  [("router", .router), ("switch", .switch), ("firewall", .firewall), ("sase", .sase),
    ("load_balancer", .loadBalancer), ("wireless", .wireless),
    ("cloud_network_control", .cloudNetworkControl),
    ("virtual_network_device", .virtualNetworkDevice), ("unknown", .unknown), ("other", .other)]

def identityFields : List (String × IdentityField) :=
  [("os_version", .osVersion), ("hostname", .hostname), ("model", .model),
    ("serial_number", .serialNumber)]

/-- The members of an enumeration with these values. -/
def membersOf {α : Type} (names : List (String × α)) (items : List PyValue) : Option (List α) :=
  items.mapM fun item => item.str?.bind (Dict.get? names)

/-- `_READERS`. -/
def readers : List (String × List ArtifactEvidenceType) :=
  [("indentation_cli.v1", [.configuration, .unknownEvidence]),
    ("xml_tree.v1", [.structuredExport]), ("json_tree.v1", [.structuredExport])]

/-- `_CAPABILITIES`. -/
def capabilityNames : List String :=
  ["structural_parsing", "semantic_interpretation", "effective_state_resolution",
    "administrator_training"]

def invalidSelector : Error := refused "Profile identity selector is invalid"

/-- The path of a selector. -/
def selectorPath (value : PyValue) : Except Error (List String) :=
  match value with
  | .list items =>
    match textsOf items with
    | some path => do
      raiseIf (path.isEmpty || 8 < path.length || !path.all isPathPart) invalidSelector
      return path
    | none => .error invalidSelector
  | _ => .error invalidSelector

/-- A selector of values that were checked. -/
def selector (field : IdentityField) (path : List String) (source attributeName : PyValue) :
    XmlIdentitySelector where
  field := field
  path := path
  source := if source = .str "attribute" then .attributeValue else .text
  attributeName := attributeName.str?

/-- The body of the loop of `_selectors`. -/
def selectorOf (item : PyValue) : Except Error XmlIdentitySelector :=
  match item with
  | .dict entries => do
    let field := get entries "field"
    raiseIf (!(← isOneOf (identityFields.map (·.1)) field)) invalidSelector
    let path ← selectorPath (get entries "path")
    let source := (PyValue.lookup "source" entries).getD (.str "text")
    let attributeName := get entries "attribute"
    raiseIf (!(← isOneOf ["text", "attribute"] source)) invalidSelector
    raiseIf (source == .str "attribute" && !attributeName.isStr) invalidSelector
    match field.str?.bind (Dict.get? identityFields) with
    | some field => return selector field path source attributeName
    | none => .error invalidSelector
  | _ => .error invalidSelector

/-- `_selectors`. -/
def selectorsOf (value : PyValue) (reader : String) : Except Error (List XmlIdentitySelector) :=
  if value = .none then .ok []
  else match value with
    | .list items => do
      raiseIf (reader != "xml_tree.v1" || 4 < items.length)
        (refused "Profile identity selectors are invalid")
      let selectors ← items.mapM selectorOf
      raiseIf (decide (¬ (selectors.map (·.field)).Nodup))
        (refused "Profile identity selectors are duplicated")
      return selectors
    | _ => .error (refused "Profile identity selectors are invalid")

/-- The id and the version of a profile. -/
def identityOf (raw : List (String × PyValue)) : Except Error (String × String) := do
  let profileId ← textOf (get raw "profile_id") "ID"
  let profileVersion ← textOf (get raw "profile_version") "version" 32
  raiseIf (!isIdentifier profileId || !isSemver profileVersion)
    (refused "Profile identity is invalid")
  raiseIf (get raw "profile_version_id" != .str (profileId ++ "@" ++ profileVersion))
    (refused "Profile version identity is invalid")
  return (profileId, profileVersion)

/-- The reader of a profile. -/
def readerOf (raw : List (String × PyValue)) : Except Error String := do
  let reader := get raw "structural_reader"
  raiseIf (!(← isOneOf (readers.map (·.1)) reader))
    (refused "Profile structural reader is unsupported")
  return reader.str?.getD ""

/-- The evidence types of a profile, as a set. -/
def evidenceTypesOf (raw : List (String × PyValue)) (reader : String) :
    Except Error (List ArtifactEvidenceType) :=
  let invalid := refused "Profile evidence types are invalid"
  match get raw "evidence_types" with
  | .list items =>
    if items.isEmpty then .error invalid
    else match membersOf evidenceTypes items with
      | some types => do
        raiseIf (!types.all ((Dict.get? readers reader).getD []).contains)
          (refused "Profile evidence types are incompatible with its reader")
        return types.dedup
      | none => .error invalid
  | _ => .error invalid

/-- The detection tokens of a profile. -/
def tokensOf (raw : List (String × PyValue)) : Except Error (List String) :=
  match get raw "detection" with
  | .dict detection =>
    let prefixValue := (PyValue.lookup "version_prefix" detection).getD (.str "version")
    match get detection "tokens" with
    | .list items =>
      match textsOf items with
      | some tokens => do
        raiseIf (tokens.isEmpty || 4 < tokens.length || !tokens.all isToken ||
          !prefixValue.str?.any isToken) (refused "Profile detection is invalid")
        return tokens
      | none => .error (refused "Profile detection is invalid")
    | _ => .error (refused "Profile detection is invalid")
  | _ => .error (refused "Profile detection is required")

def invalidConstraints : Error := refused "Profile version constraints are invalid"

/-- `supported_major_versions`. -/
def majorsOf (constraints : List (String × PyValue)) : Except Error (List Nat) :=
  match (PyValue.lookup "supported_major_versions" constraints).getD (.list []) with
  | .list items =>
    match items.mapM fun item => match item with
      | .int i => if 0 ≤ i then some i.toNat else none
      | _ => none with
    | some majors => .ok majors
    | none => .error invalidConstraints
  | _ => .error invalidConstraints

/-- Whether some text is no version; the first that is none ends the search. -/
def someUnparsed : List String → Except Error Bool
  | [] => .ok false
  | text :: rest => do
    match ← VersionConstraint.parse text with
    | none => return true
    | some _ => someUnparsed rest

/-- `excluded_versions`. -/
def excludedOf (constraints : List (String × PyValue)) : Except Error (List String) :=
  match (PyValue.lookup "excluded_versions" constraints).getD (.list []) with
  | .list items => do
    raiseIf (← someUnparsed (items.filterMap PyValue.str?)) invalidConstraints
    match textsOf items with
    | some excluded => return excluded
    | none => .error invalidConstraints
  | _ => .error invalidConstraints

/-- `version_constraints`. -/
def constraintsOf (raw : List (String × PyValue)) : Except Error (List (String × PyValue)) :=
  match (PyValue.lookup "version_constraints" raw).getD (.dict []) with
  | .dict constraints => .ok constraints
  | _ => .error invalidConstraints

/-- The device classes of a profile: the members of anything that can be iterated. -/
def deviceClassesOf (raw : List (String × PyValue)) : Except Error (List DeviceClass) :=
  let classes := (PyValue.lookup "device_classes" raw).getD (.list [.str "unknown"])
  match classes.iterate.toOption.bind (membersOf deviceClassNames) with
  | some found => .ok found.dedup
  | none => .error (refused "Profile device classes are invalid")

/-- The capabilities of a profile. -/
def capabilitiesOf (raw : List (String × PyValue)) : Except Error (List String) :=
  let invalid := refused "Profile capabilities are invalid"
  match (PyValue.lookup "capabilities" raw).getD (.list (capabilityNames.map .str)) with
  | .list items =>
    if items.isEmpty then .error invalid
    else do
      raiseIf (items.any (·.isContainer)) (.python .typeError)
      match textsOf items with
      | some names => do
        raiseIf (!names.all capabilityNames.contains) invalid
        return names.dedup
      | none => .error invalid
  | _ => .error invalid

/-- The canonical fields of a profile. -/
def canonicalFieldsOf (raw : List (String × PyValue)) : Except Error (List String) :=
  let invalid := refused "Profile canonical fields are invalid"
  match (PyValue.lookup "canonical_fields" raw).getD (.list []) with
  | .list items =>
    match textsOf items with
    | some names => do
      raiseIf (64 < names.length || !names.all (fun name => (fieldRegistry name).isSome) ||
        decide (¬ names.Nodup)) invalid
      return names
    | none => .error invalid
  | _ => .error invalid

/-- How `json.loads` fails. -/
inductive LoadsError where
  | decodeError
  | raised (error : PyError)
  deriving DecidableEq

section Profiles

variable (loads : String → Except LoadsError PyValue)

/-- `json.loads(content.decode("utf-8"))`, as `parse_runtime_profile` calls it. -/
def decoded (content : ByteArray) : Except Error PyValue :=
  match (String.fromUTF8? content).map loads with
  | some (.ok raw) => .ok raw
  | some (.error (.raised error)) => .error (.python error)
  | _ => .error (refused "Profile manifest must be valid UTF-8 JSON")

/-- `parse_runtime_profile` of a JSON object. -/
def manifestOf (raw : List (String × PyValue)) : Except Error DeviceManifest := do
  raiseIf (get raw "schema_version" != .str "1.0.0")
    (refused "Profile manifest schema_version must be 1.0.0")
  let (profileId, profileVersion) ← identityOf raw
  let reader ← readerOf raw
  let types ← evidenceTypesOf raw reader
  let tokens ← tokensOf raw
  let constraints ← constraintsOf raw
  let majors ← majorsOf constraints
  let excluded ← excludedOf constraints
  let classes ← deviceClassesOf raw
  let capabilities ← capabilitiesOf raw
  let canonicalFields ← canonicalFieldsOf raw
  let selectors ← selectorsOf (get raw "identity_selectors") reader
  let vendor ← textOf (get raw "vendor") "vendor"
  let productFamily ← textOf (get raw "product_family") "product"
  let os ← textOf (get raw "os") "OS"
  let minimumVersion ← versionOf (get constraints "minimum_version")
  let maximumVersion ← versionOf (get constraints "maximum_version")
  return {
    profileId, profileVersionId := profileId ++ "@" ++ profileVersion
    structuralReaderName := some reader
    knowledgePackName := some ("runtime." ++ profileId ++ "@" ++ profileVersion)
    canonicalFields, profileVersion, vendor, productFamily, os
    versionConstraint :=
      { supportedMajorVersions := majors.dedup, minimumVersion, maximumVersion,
        excludedVersions := excluded.dedup }
    deviceClasses := classes, acceptedEvidenceTypes := types, capabilities
    detectionTokens := tokens, xmlIdentitySelectors := selectors
    structuralEvidenceTypes := types }

/-- `parse_runtime_profile`. -/
def parseRuntimeProfile (content : ByteArray) : Except Error DeviceManifest := do
  raiseIf (content.size = 0 || 128 * 1024 < content.size)
    (refused "Profile manifest size is invalid")
  match ← decoded loads content with
  | .dict raw => manifestOf raw
  | _ => .error (refused "Profile manifest schema_version must be 1.0.0")

/-- A row of `profile_manifest_versions`. -/
structure ProfileManifestVersion where
  organizationId : UUID
  profileId : String
  profileVersionId : String
  manifest : PyValue
  status : String := "published"
  deriving DecidableEq

/-- `parse_runtime_profile(json.dumps(row.manifest, sort_keys=True).encode())`. -/
def reload (manifest : PyValue) : Except Error DeviceManifest := do
  let text ← (dumps manifest).mapError Error.python
  parseRuntimeProfile loads text.toUTF8

/-- The rows are in the order of their creation. -/
def runtimeProfiles (rows : List ProfileManifestVersion) (organizationId : UUID) :
    Except Error (List DeviceManifest) := do
  let published := rows.filter fun row =>
    row.organizationId == organizationId && row.status == "published"
  let profiles ← published.mapM fun row =>
    match reload loads row.manifest with
    | .ok profile => .ok (some profile)
    | .error (.runtimeProfile _) => .ok none
    | .error error => .error error
  return profiles.filterMap id

/-- `PROFILE_REGISTRY.get`. -/
def builtIn? (profileVersionId : String) : Option DeviceManifest :=
  builtInManifests.find? (·.profileVersionId == profileVersionId)

/-- The row of an organization's profile version. -/
def rowOf (rows : List ProfileManifestVersion) (organizationId : UUID)
    (profileVersionId : String) : Option ProfileManifestVersion :=
  rows.find? fun row =>
    row.organizationId == organizationId && row.profileVersionId == profileVersionId

/-- `profile_for`. -/
def profileFor (rows : List ProfileManifestVersion) (organizationId : UUID)
    (profileVersionId : String) : Except Error (Option DeviceManifest) :=
  match rowOf rows organizationId profileVersionId with
  | some row => do
    raiseIf (row.status != "published") (refused "Profile version is not published")
    raiseIf (builtIn? profileVersionId).isSome
      (refused "Profile version conflicts with a built-in profile")
    match reload loads row.manifest with
    | .ok profile => return some profile
    | .error (.runtimeProfile _) => .error (refused "Published profile manifest is invalid")
    | .error error => .error error
  | none => .ok (builtIn? profileVersionId)

/-- The row that is stored. -/
def publishedRow (organizationId : UUID) (profile : DeviceManifest) (manifest : PyValue) :
    ProfileManifestVersion where
  organizationId := organizationId
  profileId := profile.profileId
  profileVersionId := profile.profileVersionId
  manifest := manifest

/-- `publish_runtime_profile`. -/
def publishRuntimeProfile (rows : List ProfileManifestVersion) (organizationId : UUID)
    (profile : DeviceManifest) (manifest : PyValue) :
    Except Error (List ProfileManifestVersion) := do
  raiseIf ((builtIn? profile.profileVersionId).isSome ||
    (rowOf rows organizationId profile.profileVersionId).isSome)
    (refused "Profile version is already published")
  return rows ++ [publishedRow organizationId profile manifest]

end Profiles

end ConfigAuditor.ProfileResolution.RuntimeProfiles
