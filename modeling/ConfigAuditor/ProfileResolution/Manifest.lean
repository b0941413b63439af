import ConfigAuditor.Library.Sorting
import ConfigAuditor.Parsing.Models
import ConfigAuditor.ProfileResolution.Registry
import ConfigAuditor.ProfileResolution.Versions

/-!
# Device manifests

The whole of `ProfileManifest` and the built-in registry of
`app.profile_resolution.registry`: which versions a profile supports, and where in an XML
document it finds a device's identity. A frozen set is a list in the order it is iterated.
-/
namespace ConfigAuditor.ProfileResolution

open Library SecurityModel

inductive DeviceClass where
  | router
  | switch
  | firewall
  | sase
  | loadBalancer
  | wireless
  | cloudNetworkControl
  | virtualNetworkDevice
  | unknown
  | other
  deriving DecidableEq, Repr

inductive IdentityField where
  | osVersion
  | hostname
  | model
  | serialNumber
  deriving DecidableEq, Repr

def IdentityField.value : IdentityField → String
  | .osVersion => "os_version"
  | .hostname => "hostname"
  | .model => "model"
  | .serialNumber => "serial_number"

inductive SelectorSource where
  | text
  | attributeValue
  deriving DecidableEq, Repr

structure XmlIdentitySelector where
  field : IdentityField
  path : List String
  namespaceUris : List (Option String) := []
  source : SelectorSource := .text
  attributeName : Option String := none
  deriving DecidableEq

/-- `_xml_name`: the namespace and the local name of a tag. -/
def xmlName (tag : List Char) : Option (List Char) × List Char :=
  match tag with
  | '\x7b' :: rest =>
    match Text.splitFirst '\x7d' rest with
    | some (uri, localName) => (some uri, localName)
    | none => (none, tag)
  | _ => (none, tag)

/-- `actual.rsplit("[", 1)[0]`. -/
def stepTag (step : String) : List Char :=
  ((Text.splitLast '[' step.toList).map (·.1)).getD step.toList

/-- One step of the path is the expected one. -/
def stepMatches (actual expected : String) (expectedNamespace : Option String) : Bool :=
  let (uri, localName) := xmlName (stepTag actual)
  localName == expected.toList &&
    expectedNamespace.all fun expected => uri == some expected.toList

/-- `XmlIdentitySelector.matches`. -/
def XmlIdentitySelector.matches (selector : XmlIdentitySelector) (nodePath : List String)
    (attributes : List (String × String)) (text : Option String) : Option String :=
  let namespaces :=
    if selector.namespaceUris.isEmpty then selector.path.map fun _ => none
    else selector.namespaceUris
  if nodePath.length != selector.path.length || namespaces.length != selector.path.length then none
  else if ((nodePath.zip selector.path).zip namespaces).all
      fun ((actual, expected), uri) => stepMatches actual expected uri then
    match selector.source with
    | .attributeValue =>
      (attributes.reverse.find? (·.1 == selector.attributeName.getD "")).map (·.2)
    | .text => text
  else none

structure DeviceManifest extends ProfileManifest where
  profileVersion : String
  vendor : String
  productFamily : String
  os : String
  versionConstraint : VersionConstraint
  deviceClasses : List DeviceClass
  acceptedEvidenceTypes : List ArtifactEvidenceType
  capabilities : List String
  exclusions : List String := []
  detectionTokens : List String := []
  xmlIdentitySelectors : List XmlIdentitySelector := []
  structuralEvidenceTypes : List ArtifactEvidenceType := [.configuration]
  deriving DecidableEq

/-- `applicability(version) == "compatible"` of a version that is known. -/
def DeviceManifest.compatible (manifest : DeviceManifest) (version : String) :
    Except Error Bool := do
  return (← manifest.versionConstraint.accepts version) && !manifest.exclusions.contains version

/-- `frozenset(ArtifactEvidenceType)`. -/
def allEvidenceTypes : List ArtifactEvidenceType :=
  [.configuration, .versionOutput, .inventoryOutput, .operationalOutput, .structuredExport,
    .unknownEvidence]

def deepCapabilities : List String :=
  ["profile_detection", "structural_parsing", "semantic_interpretation",
    "effective_state_resolution", "deterministic_compliance"]

def genericCapabilities : List String :=
  ["structural_parsing", "semantic_interpretation", "effective_state_resolution",
    "deterministic_compliance", "administrator_training"]

def ciscoIosXe17Manifest : DeviceManifest :=
  { ciscoIosXe17 with
    profileVersion := "1.0.0", vendor := "Cisco", productFamily := "IOS XE", os := "IOS XE",
    versionConstraint := { supportedMajorVersions := [17] },
    deviceClasses := [.router, .switch], acceptedEvidenceTypes := allEvidenceTypes,
    capabilities := deepCapabilities }

def fortios7Manifest : DeviceManifest :=
  { fortios7 with
    profileVersion := "1.0.0", vendor := "Fortinet", productFamily := "FortiGate",
    os := "FortiOS", versionConstraint := { supportedMajorVersions := [7] },
    deviceClasses := [.firewall], acceptedEvidenceTypes := allEvidenceTypes,
    capabilities := deepCapabilities }

def juniperJunos18Manifest : DeviceManifest :=
  { juniperJunos18 with
    profileVersion := "1.0.0", vendor := "Juniper", productFamily := "Junos", os := "Junos",
    versionConstraint := { minimumVersion := some [18, 4], maximumVersion := some [18, 4] },
    deviceClasses := [.router, .switch, .firewall], acceptedEvidenceTypes := allEvidenceTypes,
    capabilities := deepCapabilities,
    xmlIdentitySelectors :=
      [{ field := .osVersion, path := ["rpc-reply", "configuration", "version"] },
        { field := .hostname, path := ["rpc-reply", "configuration", "system", "host-name"] },
        { field := .model, path := ["rpc-reply", "chassis-inventory", "chassis", "description"] },
        { field := .serialNumber,
          path := ["rpc-reply", "chassis-inventory", "chassis", "serial-number"] }]
    structuralEvidenceTypes := [.structuredExport] }

def aristaEos4Manifest : DeviceManifest :=
  { aristaEos4 with
    profileVersion := "1.0.0", vendor := "Arista", productFamily := "EOS", os := "EOS",
    versionConstraint := { supportedMajorVersions := [4] },
    deviceClasses := [.switch, .router], acceptedEvidenceTypes := allEvidenceTypes,
    capabilities := deepCapabilities }

def genericCliManifest : DeviceManifest :=
  { genericCli with
    profileVersion := "1.0.0", vendor := "Generic", productFamily := "Generic CLI", os := "CLI",
    versionConstraint := { supportedMajorVersions := [1] },
    deviceClasses := [.unknown, .other], acceptedEvidenceTypes := allEvidenceTypes,
    capabilities := genericCapabilities,
    structuralEvidenceTypes := [.configuration, .unknownEvidence] }

def genericXmlManifest : DeviceManifest :=
  { genericXml with
    profileVersion := "1.0.0", vendor := "Generic", productFamily := "Generic XML", os := "XML",
    versionConstraint := { supportedMajorVersions := [1] },
    deviceClasses := [.unknown, .other], acceptedEvidenceTypes := [.structuredExport],
    capabilities := genericCapabilities, structuralEvidenceTypes := [.structuredExport] }

def genericJsonManifest : DeviceManifest :=
  { genericJson with
    profileVersion := "1.0.0", vendor := "Generic", productFamily := "Generic JSON",
    os := "JSON", versionConstraint := { supportedMajorVersions := [1] },
    deviceClasses := [.unknown, .other], acceptedEvidenceTypes := [.structuredExport],
    capabilities := genericCapabilities, structuralEvidenceTypes := [.structuredExport] }

/-- The values of `PROFILE_REGISTRY`. -/
def builtInManifests : List DeviceManifest :=
  [ciscoIosXe17Manifest, fortios7Manifest, juniperJunos18Manifest, aristaEos4Manifest,
    genericCliManifest, genericXmlManifest, genericJsonManifest]

/-- `compatible_manifests`; a registry has one manifest for each id and version. -/
def compatibleManifests (vendor os version : String) : Except Error (List DeviceManifest) := do
  let named := builtInManifests.filter fun item => item.vendor == vendor && item.os == os
  let judged ← named.mapM fun item => do return (item, ← item.compatible version)
  return sortedBy (fun item => toLex (item.profileId, item.profileVersion))
    ((judged.filter (·.2)).map (·.1))

/-- What is compatible is of the vendor and OS, and accepts the version. -/
theorem mem_compatibleManifests {vendor os version : String} {found : List DeviceManifest}
    (h : compatibleManifests vendor os version = .ok found) {manifest : DeviceManifest}
    (hmem : manifest ∈ found) :
    manifest ∈ builtInManifests ∧ manifest.vendor = vendor ∧ manifest.os = os ∧
      manifest.versionConstraint.accepts version = .ok true := by
  simp only [compatibleManifests, except_bind_eq_ok, except_pure_eq_ok] at h
  obtain ⟨judged, hjudged, rfl⟩ := h
  rw [mem_sortedBy] at hmem
  obtain ⟨⟨item, verdict⟩, hfiltered, rfl⟩ := List.mem_map.mp hmem
  obtain ⟨hitem, hverdict⟩ := List.mem_filter.mp hfiltered
  obtain ⟨source, hsource, hresult⟩ := mapM_exists_input hjudged hitem
  obtain ⟨hbuiltIn, hnamed⟩ := List.mem_filter.mp hsource
  simp only [except_bind_eq_ok, except_pure_eq_ok] at hresult
  obtain ⟨compatible, hcompatible, hpair⟩ := hresult
  obtain ⟨rfl, rfl⟩ := Prod.mk.inj hpair
  simp only [DeviceManifest.compatible, except_bind_eq_ok, except_pure_eq_ok] at hcompatible
  obtain ⟨accepted, haccepted, hboth⟩ := hcompatible
  have htrue : accepted = true := by
    have hall : (accepted && !source.exclusions.contains version) = true := hboth.trans hverdict
    exact (Bool.and_eq_true _ _ ▸ hall).1
  simp only [Bool.and_eq_true, beq_iff_eq] at hnamed
  exact ⟨hbuiltIn, hnamed.1, hnamed.2, htrue ▸ haccepted⟩

end ConfigAuditor.ProfileResolution
