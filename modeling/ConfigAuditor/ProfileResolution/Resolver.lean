import ConfigAuditor.Library.Dict
import ConfigAuditor.ProfileResolution.Extraction

/-!
# Resolving the profile of a device

`resolve_profile` of `app.profile_resolution.resolver`: the findings of all documents, those of
the XML selectors, the published runtime manifests that match, and the decision.
-/
namespace ConfigAuditor.ProfileResolution

open Library SecurityModel Regex

inductive ResolutionConfidence where
  | high
  | medium
  | low
  | unresolved
  deriving DecidableEq, Repr

inductive ResolutionStatus where
  | resolved
  | partiallyResolved
  | unsupported
  | conflict
  | unresolved
  | ambiguous
  deriving DecidableEq, Repr

structure ResolutionConflict where
  code : String
  artifactIds : List UUID
  deriving DecidableEq

structure ProfileResolutionResult where
  vendor : Option String := none
  productFamily : Option String := none
  os : Option String := none
  osVersion : Option String := none
  model : Option String := none
  serialNumber : Option String := none
  deviceClass : Option DeviceClass := none
  selectedProfileId : Option String := none
  selectedProfileVersionId : Option String := none
  confidence : ResolutionConfidence
  resolutionStatus : ResolutionStatus
  supportingSignals : List EvidenceSignal
  unresolvedReasons : List String := []
  conflicts : List ResolutionConflict := []
  metadata : List (String × PyValue) := []
  deriving DecidableEq

/-- What `resolve_profile` may raise. -/
inductive ResolverError where
  | raised (error : Error)
  /-- `next` of an empty iterator. -/
  | stopIteration
  deriving DecidableEq, Repr

def identitiesOf (findings : List Finding) : List Identity :=
  findings.filterMap fun | .identity identity => some identity | _ => none

def modelsOf (findings : List Finding) : List Hardware :=
  findings.filterMap fun | .model hardware => some hardware | _ => none

def serialsOf (findings : List Finding) : List Hardware :=
  findings.filterMap fun | .serial hardware => some hardware | _ => none

def hostnamesOf (findings : List Finding) : List Hardware :=
  findings.filterMap fun | .hostname hardware => some hardware | _ => none

def buildsOf (findings : List Finding) : List String :=
  findings.filterMap fun | .build text => some text | _ => none

def ciscoSyntaxOf (findings : List Finding) : List EvidenceSignal :=
  findings.filterMap fun | .ciscoSyntax signal => some signal | _ => none

/-- The signals `_append_signal` is called with. -/
def attemptsOf (findings : List Finding) : List EvidenceSignal :=
  findings.filterMap fun | .signal signal => some signal | _ => none

def maxSupportingSignals : Nat := 200

/-- `_append_signal`. -/
def appendSignal (signals : List EvidenceSignal) (signal : EvidenceSignal) :
    List EvidenceSignal :=
  if signals.length < maxSupportingSignals ∧ signals.all (fun item =>
      (item.artifactId, item.signalId, item.lineNumber) !=
        (signal.artifactId, signal.signalId, signal.lineNumber)) then
    signals ++ [signal]
  else signals

def signalsOf (findings : List Finding) : List EvidenceSignal :=
  (attemptsOf findings).foldl appendSignal []

/-- `_first_value`. -/
def firstValue (values : List Hardware) : Option String := values.head?.map (·.value)

/-- Findings that depend on the identities found before them. -/
def accumulate {α : Type} (read : List Identity → α → List Finding) :
    List Identity → List α → List Finding
  | _, [] => []
  | known, a :: rest =>
    let findings := read known a
    findings ++ accumulate read (known ++ identitiesOf findings) rest

/-- `xml_manifests`. -/
def xmlManifests (runtimeManifests : List DeviceManifest) : List DeviceManifest :=
  (builtInManifests ++ runtimeManifests).filter fun item =>
    item.structuralReaderName == some "xml_tree.v1" && !item.xmlIdentitySelectors.isEmpty

/-- `values.get(field)`: a later selector or node replaces an earlier one. -/
def selectedValue (manifest : DeviceManifest) (nodes : List Parsing.XmlNode)
    (field : IdentityField) : Option (Parsing.XmlNode × String) :=
  let selectors := manifest.xmlIdentitySelectors.filter (·.field == field)
  (selectors.flatMap fun selector => nodes.filterMap fun node =>
    (selector.matches node.path node.attributes node.text).map fun value => (node, value)).getLast?

/-- `_xml_signal`. -/
def xmlSignal (document : EvidenceDocument) (field : IdentityField) (node : Parsing.XmlNode)
    (manifest : DeviceManifest) : EvidenceSignal :=
  { artifactId := document.artifactId, evidenceType := document.evidenceType,
    lineNumber := none, category := "xml_identity",
    signalId := manifest.profileId ++ ":" ++ field.value, strength := .strong,
    extractedFields := [field.value], sourceLabel := some document.originalFilename,
    sourcePath := some node.path }

/-- The hardware a document has under a manifest's selectors. -/
def xmlHardware (document : EvidenceDocument) (nodes : List Parsing.XmlNode)
    (manifest : DeviceManifest) : List Finding :=
  [(IdentityField.hostname, Finding.hostname), (.model, .model), (.serialNumber, .serial)].flatMap
    fun (field, kind) =>
      match selectedValue manifest nodes field with
      | none => []
      | some (node, value) =>
        let signal := xmlSignal document field node manifest
        [.signal signal, kind ⟨value, signal⟩]

/-- One manifest's selectors on a document. -/
def manifestFindings (document : EvidenceDocument) (nodes : List Parsing.XmlNode)
    (known : List Identity) (manifest : DeviceManifest) : List Finding :=
  match selectedValue manifest nodes .osVersion with
  | some (node, version) =>
    let signal := xmlSignal document .osVersion node manifest
    [.identity ⟨manifest.vendor, manifest.os, some version, signal⟩, .signal signal] ++
      xmlHardware document nodes manifest
  | none =>
    if known.any fun item => item.vendor == manifest.vendor && item.os == manifest.os then
      xmlHardware document nodes manifest
    else []

section Resolution

variable (p : Platform)

/-- `parse_xml_text`, or `none` where it raises: it raises nothing but `ValueError`. -/
def xmlNodes (document : EvidenceDocument) : Option (List Parsing.XmlNode) :=
  match Parsing.XmlTree.parse p.sha256 p.reprPath p.isWord p.fromString
      { content := document.text
        source := ⟨document.artifactId, some document.snapshotId, document.originalFilename⟩
        inputTruncated := document.truncated } with
  | .ok ir => some ir.nodes
  | .error _ => none

/-- The body of `_extract_manifest_xml_identity` for a document. -/
def documentXmlFindings (manifests : List DeviceManifest) (known : List Identity)
    (document : EvidenceDocument) : List Finding :=
  if document.text.toList.contains '<' then
    match xmlNodes p document with
    | some nodes => accumulate (manifestFindings document nodes) known manifests
    | none => []
  else []

/-- The findings of the lines of all documents. -/
def lineFindings (documents : List EvidenceDocument) : List Finding :=
  documents.flatMap (documentFindings p)

/-- All findings. -/
def allFindings (documents : List EvidenceDocument) (runtimeManifests : List DeviceManifest) :
    List Finding :=
  let findings := lineFindings p documents
  findings ++ accumulate (documentXmlFindings p (xmlManifests runtimeManifests))
    (identitiesOf findings) documents

structure RuntimeMatch where
  manifest : DeviceManifest
  version : String
  document : EvidenceDocument

/-- The version pattern of `_resolve_runtime_manifest`. -/
def runtimeVersionPattern : Regex :=
  all [.wordBoundary, word "version", star space, maybe [':', '='], star space,
    optional (word "v"),
    .group 1 (all [plus digit, plus (.seq (.chars (· == '.')) (plus digit)),
      optional (plus (alnumOr ['.', '-']))])]

/-- The version text a document has for a manifest it may be evidence of. -/
def runtimeVersion (manifest : DeviceManifest) (document : EvidenceDocument) : Option String :=
  if manifest.detectionTokens.isEmpty then none
  else if !manifest.acceptedEvidenceTypes.contains document.evidenceType then none
  else if !manifest.detectionTokens.all fun token =>
      Text.occursIn (p.caseFold token.toList) (p.caseFold document.text.toList) then none
  else
    (search p.isWord runtimeVersionPattern
      (document.text.toList.take (maxLineCharacters * maxLinesPerArtifact))).map (·.group 1)

/-- One turn of the loops of `_resolve_runtime_manifest`. -/
def runtimeMatch (manifest : DeviceManifest) (document : EvidenceDocument) :
    Except Error (Option RuntimeMatch) :=
  match runtimeVersion p manifest document with
  | none => .ok none
  | some version => do
    if ← manifest.versionConstraint.accepts version then
      return some ⟨manifest, version, document⟩
    else return none

/-- `matches`. -/
def runtimeMatches (documents : List EvidenceDocument) (manifests : List DeviceManifest) :
    Except Error (List RuntimeMatch) := do
  let turns := manifests.flatMap fun manifest => documents.map fun document => (manifest, document)
  let found ← turns.mapM fun (manifest, document) => runtimeMatch p manifest document
  return found.filterMap id

/-- What a match is a match of. -/
def RuntimeMatch.key (item : RuntimeMatch) : String × String :=
  (item.manifest.profileVersionId, item.version)

/-- The result of the first match, when all are of one profile and version. -/
def runtimeResult (signals : List EvidenceSignal) (matched : RuntimeMatch) :
    Except ResolverError ProfileResolutionResult :=
  let manifest := matched.manifest
  let signal : EvidenceSignal :=
    { artifactId := matched.document.artifactId, evidenceType := matched.document.evidenceType,
      lineNumber := none, category := "runtime_manifest_identity",
      signalId := manifest.profileId ++ ":detection", strength := .strong,
      extractedFields := ["vendor", "os", "os_version"],
      sourceLabel := some matched.document.originalFilename }
  match manifest.deviceClasses with
  | [] => .error .stopIteration
  | deviceClass :: _ => .ok
    { vendor := some manifest.vendor, productFamily := some manifest.productFamily,
      os := some manifest.os, osVersion := some matched.version, deviceClass := some deviceClass,
      selectedProfileId := some manifest.profileId,
      selectedProfileVersionId := some manifest.profileVersionId,
      supportingSignals := signals ++ [signal], confidence := .high, resolutionStatus := .resolved,
      unresolvedReasons := ["Published runtime profile matched bounded evidence"] }

/-- `_resolve_runtime_manifest`. -/
def resolveRuntimeManifest (documents : List EvidenceDocument) (manifests : List DeviceManifest)
    (signals : List EvidenceSignal) :
    Except ResolverError (Option ProfileResolutionResult) := do
  let ambiguous : ProfileResolutionResult :=
    { supportingSignals := signals, confidence := .unresolved, resolutionStatus := .ambiguous,
      unresolvedReasons := ["Multiple compatible runtime profile manifests were detected"] }
  match ← (runtimeMatches p documents manifests).mapError .raised with
  | [] => return none
  | first :: rest =>
    if rest.all fun item => item.key == first.key then
      return some (← runtimeResult signals first)
    else return some ambiguous

/-- How the results of one platform differ from those of another. -/
structure Family where
  productFamily : Option String
  deviceClass : Option DeviceClass
  resolvedClass : Option DeviceClass
  versionRequired : String
  unsupported : String
  /-- Whether an unsupported result keeps the hardware. -/
  keepsHardware : Bool := true

/-- The platforms with branches of their own, and the others. -/
def familyOf (vendor os : String) (productFamily : Option String)
    (deviceClass : Option DeviceClass) : Family :=
  if vendor = "Cisco" ∧ os = "IOS XE" then
    { productFamily, deviceClass, resolvedClass := deviceClass,
      versionRequired := "IOS XE version is required for profile applicability",
      unsupported := "Detected IOS XE version is outside the supported 17.x profile" }
  else if vendor = "Fortinet" ∧ os = "FortiOS" then
    { productFamily := some "FortiGate", deviceClass := none, resolvedClass := some .firewall,
      versionRequired := "FortiOS version is required for profile applicability",
      unsupported := "Detected FortiOS version is outside the supported 7.x profile" }
  else if vendor = "Arista" ∧ os = "EOS" then
    { productFamily := some "EOS", deviceClass := some .switch, resolvedClass := some .switch,
      versionRequired := "EOS version output is required for profile applicability",
      unsupported := "Detected EOS version is outside the supported 4.x profile" }
  else
    { productFamily, deviceClass, resolvedClass := deviceClass,
      versionRequired := "Profile applicability requires an explicit software version",
      unsupported := "Detected platform has no supported deep profile", keepsHardware := false }

/-- The result for the compatible built-in profiles of a version. -/
def builtInResult (family : Family) (vendor os version : String)
    (model serialNumber : Option String) (signals : List EvidenceSignal)
    (confidence : ResolutionConfidence) : List DeviceManifest → ProfileResolutionResult
  | [] =>
    if family.keepsHardware then
      { vendor := some vendor, productFamily := family.productFamily, os := some os,
        osVersion := some version, model, serialNumber, deviceClass := family.deviceClass,
        supportingSignals := signals, confidence, resolutionStatus := .unsupported,
        unresolvedReasons := [family.unsupported] }
    else
      { vendor := some vendor, os := some os, osVersion := some version,
        supportingSignals := signals, confidence, resolutionStatus := .unsupported,
        unresolvedReasons := [family.unsupported] }
  | [selected] =>
    { vendor := some vendor, productFamily := family.productFamily, os := some os,
      osVersion := some version, model, serialNumber, deviceClass := family.resolvedClass,
      selectedProfileId := some selected.profileId,
      selectedProfileVersionId := some selected.profileVersionId,
      supportingSignals := signals, confidence, resolutionStatus := .resolved }
  | _ :: _ :: _ =>
    { vendor := some vendor, productFamily := family.productFamily, os := some os,
      osVersion := some version, model, serialNumber, deviceClass := family.deviceClass,
      supportingSignals := signals, confidence := .unresolved, resolutionStatus := .ambiguous,
      unresolvedReasons := ["Multiple compatible profile manifests were detected"] }

/-- The choice of a built-in profile for a platform. -/
def resolveBuiltIn (family : Family) (vendor os : String)
    (version model serialNumber : Option String) (signals : List EvidenceSignal)
    (confidence : ResolutionConfidence) : Except ResolverError ProfileResolutionResult :=
  match version with
  | none => .ok
    { vendor := some vendor, productFamily := family.productFamily, os := some os, model,
      serialNumber, deviceClass := family.deviceClass, supportingSignals := signals,
      confidence := .medium, resolutionStatus := .partiallyResolved,
      unresolvedReasons := [family.versionRequired] }
  | some version => do
    let candidates ← (compatibleManifests vendor os version).mapError .raised
    return builtInResult family vendor os version model serialNumber signals confidence candidates

/-- `sorted({...}, key=str)`. -/
def sortedIds (ids : List UUID) : List UUID := sortedBy UUID.str ids.dedup

/-- The versions that were extracted. -/
def versionsOf (identities : List Identity) : List String := identities.filterMap (·.version)

/-- `identity_keys` and `versions`, as sets. -/
def identityKeys (identities : List Identity) : List (String × String) :=
  (identities.map fun item => (item.vendor, item.os)).dedup

/-- The conflict of several versions. -/
def versionConflict (vendor os : String) (findings : List Finding) : ProfileResolutionResult :=
  { vendor := some vendor, os := some os, model := firstValue (modelsOf findings),
    serialNumber := firstValue (serialsOf findings), supportingSignals := signalsOf findings,
    confidence := .unresolved, resolutionStatus := .conflict,
    unresolvedReasons := ["Conflicting explicit OS versions"],
    conflicts := [⟨"os_version_conflict", sortedIds
      (((identitiesOf findings).filter (·.version.isSome)).map (·.signal.artifactId))⟩] }

/-- The part of `_resolve_candidates` for one platform that explicit evidence names. -/
def resolveIdentified (findings : List Finding) (documents : List EvidenceDocument)
    (runtimeManifests : List DeviceManifest) (vendor os : String) :
    Except ResolverError ProfileResolutionResult :=
  let matching := identitiesOf findings
  let signals := signalsOf findings
  let model := firstValue (modelsOf findings)
  match (versionsOf matching).dedup with
  | _ :: _ :: _ => .ok (versionConflict vendor os findings)
  | versions => do
    let runtime ← resolveRuntimeManifest p documents runtimeManifests signals
    match runtime.filter fun found => found.vendor == some vendor && found.os == some os with
    | some found => return found
    | none =>
      let (productFamily, deviceClass) := classifyHardware p model
      let confidence : ResolutionConfidence :=
        if matching.any (·.signal.strength == .strongest) then .high else .medium
      resolveBuiltIn (familyOf vendor os productFamily deviceClass) vendor os versions.head? model
        (firstValue (serialsOf findings)) signals confidence

/-- `text.lstrip()` on characters. -/
def leftStripped (text : String) : List Char := text.toList.dropWhile Text.isSpace

/-- `_administrator_labels`. -/
def administratorLabels (documents : List EvidenceDocument) : List (String × PyValue) :=
  [("vendor_label", "vendor"), ("os_label", "os")].filterMap fun (key, name) =>
    let values := documents.filterMap fun document =>
      ((Dict.get? document.sourceMetadata key).filter (·.truthy)).map fun value =>
        Text.strip (p.strOf value)
    match values.dedup with
    | [label] => some (name, .str label)
    | _ => none

/-- A generic profile. -/
def genericResult (manifest : DeviceManifest) (documents : List EvidenceDocument)
    (signals : List EvidenceSignal) (reason : String) : ProfileResolutionResult :=
  let labels := administratorLabels p documents
  { vendor := some manifest.vendor, productFamily := some manifest.productFamily,
    os := some manifest.os, deviceClass := some .unknown,
    selectedProfileId := some manifest.profileId,
    selectedProfileVersionId := some manifest.profileVersionId, supportingSignals := signals,
    confidence := .low, resolutionStatus := .resolved, unresolvedReasons := [reason],
    metadata := if labels.isEmpty then [] else [("administrator_labels", .dict labels)] }

/-- `configuration_documents`. -/
def configurationDocuments (documents : List EvidenceDocument) : List EvidenceDocument :=
  documents.filter fun document =>
    !(leftStripped document.text).isEmpty &&
      (document.evidenceType == .configuration || document.evidenceType == .structuredExport ||
        document.evidenceType == .unknownEvidence)

def looksXml (document : EvidenceDocument) : Bool :=
  (leftStripped document.text).head? == some '<'

def looksJson (document : EvidenceDocument) : Bool :=
  (leftStripped document.text).head?.any ['\x7b', '['].contains

/-- A document of `generic_documents`. -/
def claimsNothing (document : EvidenceDocument) : Bool :=
  !looksXml document &&
    !found p.isWord knownPlatformClaimPattern (document.text.toList.take maxLineCharacters)

/-- The part of `_resolve_candidates` after the runtime manifests. -/
def resolveUnidentified (findings : List Finding) (documents : List EvidenceDocument)
    (unavailableCount : Nat) : ProfileResolutionResult :=
  let signals := signalsOf findings
  let model := firstValue (modelsOf findings)
  let (productFamily, deviceClass) := classifyHardware p model
  let configured := configurationDocuments documents
  let silent := !configured.isEmpty && signals.isEmpty
  let structuredReason := "Generic bounded structured profile selected without inferred semantics"
  if model.isSome then
    { vendor := some "Cisco", productFamily, model,
      serialNumber := firstValue (serialsOf findings), deviceClass, supportingSignals := signals,
      confidence := .medium, resolutionStatus := .partiallyResolved,
      unresolvedReasons := ["Cisco hardware evidence does not establish IOS XE"] }
  else if !(ciscoSyntaxOf findings).isEmpty then
    { vendor := some "Cisco", supportingSignals := signals, confidence := .low,
      resolutionStatus := .partiallyResolved,
      unresolvedReasons := ["Cisco-like CLI syntax does not distinguish IOS from IOS XE"] }
  else if silent && configured.all looksXml then
    genericResult p genericXmlManifest configured signals structuredReason
  else if silent && configured.all looksJson then
    genericResult p genericJsonManifest configured signals structuredReason
  else if silent && configured.all (claimsNothing p) then
    genericResult p genericCliManifest configured signals
      "Generic CLI selected without inferred command semantics"
  else
    { supportingSignals := signals, confidence := .unresolved, resolutionStatus := .unresolved,
      unresolvedReasons := "No authoritative platform evidence was detected" ::
        if unavailableCount = 0 then [] else ["One or more artifacts could not be inspected"] }

/-- The conflict of several platforms. -/
def platformConflict (findings : List Finding) : ProfileResolutionResult :=
  { supportingSignals := signalsOf findings, confidence := .unresolved,
    resolutionStatus := .conflict,
    unresolvedReasons := ["Conflicting explicit platform evidence"],
    conflicts := [⟨"platform_identity_conflict",
      sortedIds ((identitiesOf findings).map (·.signal.artifactId))⟩] }

/-- `_resolve_candidates`. -/
def resolveCandidates (findings : List Finding) (documents : List EvidenceDocument)
    (unavailableCount : Nat) (runtimeManifests : List DeviceManifest) :
    Except ResolverError ProfileResolutionResult :=
  match identityKeys (identitiesOf findings) with
  | _ :: _ :: _ => .ok (platformConflict findings)
  | [(vendor, os)] => resolveIdentified p findings documents runtimeManifests vendor os
  | [] => do
    let runtime ← resolveRuntimeManifest p documents runtimeManifests (signalsOf findings)
    return runtime.getD (resolveUnidentified p findings documents unavailableCount)

/-- The metadata `resolve_profile` adds to a result. -/
def withMetadata (findings : List Finding) (result : ProfileResolutionResult) :
    ProfileResolutionResult :=
  let hostname := (firstValue (hostnamesOf findings)).filter (!·.isEmpty)
  let added := match hostname with
    | some name => Dict.set result.metadata "hostname" (.str name)
    | none => result.metadata
  { result with metadata :=
      match (buildsOf findings).dedup with
      | [build] => Dict.set added "os_build" (.str build)
      | _ => added }

/-- `resolve_profile`. -/
def resolveProfile (evidence : SnapshotEvidence) (runtimeManifests : List DeviceManifest) :
    Except ResolverError ProfileResolutionResult := do
  let findings := allFindings p evidence.documents runtimeManifests
  let result ← resolveCandidates p findings evidence.documents evidence.issues.length
    runtimeManifests
  return withMetadata findings result

end Resolution

end ConfigAuditor.ProfileResolution
