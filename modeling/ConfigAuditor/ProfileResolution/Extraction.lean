import ConfigAuditor.ProfileResolution.DataLines
import ConfigAuditor.Parsing.XmlTree
import ConfigAuditor.ProfileResolution.Manifest

/-!
# What a document says about its device

The loop of `resolve_profile` over the lines of a document. The lists the loop appends to are
shared by all documents and only appended to, so a document is read for its findings: the
appends it makes, in order.
-/
namespace ConfigAuditor.ProfileResolution

open Library SecurityModel Regex

/-- What Python knows of characters beyond ASCII, how it prints values, and the XML reader's
parameters. -/
structure Platform where
  wordBeyond : Char → Bool := fun _ => false
  caseFoldBeyond : Char → List Char := fun c => [c]
  upperBeyond : Char → List Char := fun c => [c]
  strOf : PyValue → String := fun _ => ""
  sha256 : String → String := id
  reprPath : List String → String := fun _ => ""
  fromString : String → Option Parsing.XmlTree.Element := fun _ => none

namespace Platform

def isAscii (c : Char) : Bool := c.toNat < 128

/-- `\w`. -/
def isWord (p : Platform) (c : Char) : Bool :=
  if isAscii c then Text.isAsciiAlnum c || c == '_' else p.wordBeyond c

/-- `text.casefold()` on characters. -/
def caseFold (p : Platform) (cs : List Char) : List Char :=
  cs.flatMap fun c => if isAscii c then [Text.foldCase c] else p.caseFoldBeyond c

/-- `text.upper()` on characters. -/
def upper (p : Platform) (cs : List Char) : List Char :=
  cs.flatMap fun c =>
    if isAscii c then [if Text.isAsciiLower c then Char.ofNat (c.toNat - 32) else c]
    else p.upperBeyond c

end Platform

inductive SignalStrength where
  | strongest
  | strong
  | medium
  | weak
  deriving DecidableEq, Repr

structure EvidenceSignal where
  artifactId : UUID
  evidenceType : ArtifactEvidenceType
  lineNumber : Option Nat
  category : String
  signalId : String
  strength : SignalStrength
  extractedFields : List String := []
  sourceLabel : Option String := none
  sourcePath : Option (List String) := none
  deriving DecidableEq

/-- `_Identity`. -/
structure Identity where
  vendor : String
  os : String
  version : Option String
  signal : EvidenceSignal
  deriving DecidableEq

/-- `_Hardware`. -/
structure Hardware where
  value : String
  signal : EvidenceSignal
  deriving DecidableEq

/-- One append of the loop. -/
inductive Finding where
  | identity (identity : Identity)
  | model (hardware : Hardware)
  | serial (hardware : Hardware)
  | hostname (hardware : Hardware)
  | build (text : String)
  | ciscoSyntax (signal : EvidenceSignal)
  /-- `_append_signal`. -/
  | signal (signal : EvidenceSignal)

/-- `VALUE_PATTERN`, as the group with an index. -/
def valueGroup (index : Nat) : Regex :=
  .group index (.seq (alnumOr [])
    (.repeated true 0 (some 63) (alnumOr ['(', ')', '.', '_', '/', '-'])))

def value : Regex := valueGroup 1

/-- `[^...]` of the listed characters. -/
def noneOf (others : List Char) : Regex := .chars fun c => !others.contains c

/-- `x?` of one character. -/
def maybe (options : List Char) : Regex := optional (.chars options.contains)

def iosXeVersionPatterns : List Regex :=
  [all [.wordBoundary, word "Cisco IOS XE Software", .wordBoundary, fewUpTo 200 anyChar,
      .wordBoundary, word "Version", plus space, value],
    all [.wordBoundary, word "Cisco IOS Software", .wordBoundary, fewUpTo 250 anyChar,
      .wordBoundary,
      oneOf [all [word "IOS", maybe ['-', '_', ' '], word "XE"],
        all [plus (alnumOr []), word "_IOSXE"]],
      .wordBoundary, fewUpTo 250 anyChar, .wordBoundary, word "Version", plus space, value]]

def iosXeMarker : Regex :=
  all [.wordBoundary,
    oneOf [all [word "Cisco IOS", maybe ['-', ' '], word "XE Software"],
      all [plus (alnumOr []), word "_IOSXE"]],
    .wordBoundary]

def iosVersionPattern : Regex :=
  all [.wordBoundary, word "Cisco IOS Software", .wordBoundary, fewUpTo 300 anyChar,
    .wordBoundary, word "Version", plus space, value]

/-- `^\s*label\s*:\s*value`. -/
def labelledValue (label : String) : Regex :=
  all [.textStart, star space, word label, star space, word ":", star space, value]

def modelNumberPattern : Regex := labelledValue "Model Number"

def ciscoProcessorPattern : Regex :=
  all [.textStart, star space, word "cisco", plus space, value, plus space, word "(",
    .repeated true 0 (some 160) anyChar, word ")", plus space, word "processor", .wordBoundary]

def chassisNamePattern : Regex :=
  all [.textStart, star space, word "NAME", star space, word ":", star space, word "\"",
    star (noneOf ['"']), word "chassis", star (noneOf ['"']), word "\""]

/-- `\blabel\s*:\s*value`. -/
def innerValue (label : String) : Regex :=
  all [.wordBoundary, word label, star space, word ":", star space, value]

def pidPattern : Regex := innerValue "PID"

def serialPatterns : List Regex :=
  [innerValue "System Serial Number",
    all [.wordBoundary, word "Processor board ID", plus space, value]]

def snPattern : Regex := innerValue "SN"

def junosPattern : Regex :=
  all [.wordBoundary, oneOf [word "JUNOS Software Release", word "Junos:"], star space,
    maybe ['['], value]

def fortiosPattern : Regex :=
  all [.wordBoundary, word "FortiOS", plus space, optional (word "v"), value]

def fortiosStatusPattern : Regex :=
  all [.textStart, star space, word "Version:", star space,
    .group 1 (.seq (word "FortiGate-") (plus (alnumOr ['.', '_', '/', '-']))), plus space,
    optional (word "v"), valueGroup 2,
    optional (all [word ",", star space, word "build", star space, .group 3 (plus digit)])]

def fortiosHostnamePattern : Regex := labelledValue "Hostname"
def fortiosSerialPattern : Regex := labelledValue "Serial-Number"

def aristaProductPattern : Regex :=
  all [.textStart, star space, word "Arista", plus space,
    .group 1 (oneOf [.seq (word "vEOS") (optional (word "-lab")), word "EOS",
      .seq (word "DCS-") (plus (alnumOr ['.', '_', '/', '-']))]),
    .wordBoundary]

def aristaSerialPattern : Regex := labelledValue "Serial number"
def aristaSoftwareVersionPattern : Regex := labelledValue "Software image version"

def knownPlatformClaimPattern : Regex :=
  all [.wordBoundary,
    oneOf [word "Cisco", all [word "IOS", maybe ['-', '_', ' '], word "XE"], word "Fortinet",
      word "FortiOS", word "Juniper", word "Junos",
      all [word "Arista", plus space, oneOf [word "EOS", word "vEOS", word "DCS-"]]],
    .wordBoundary]

/-- `[^a-z0-9]`. -/
def noAlnum : Regex := .chars fun c => !Text.isAsciiAlnum (Text.foldCase c)

def filenameHintPattern : Regex :=
  all [oneOf [.textStart, noAlnum],
    oneOf [word "cisco", all [word "ios", maybe ['-', '_', ' '], word "xe"]],
    oneOf [noAlnum, .lineEnd]]

def configSyntaxPatterns : List (String × Regex) :=
  [("hostname", all [.textStart, word "hostname", plus space, plus visible]),
    ("interface", all [.textStart, word "interface", plus space, plus visible]),
    ("line", all [.textStart, word "line", plus space,
      oneOf [word "vty", word "con", word "console", word "aux"], .wordBoundary]),
    ("aaa", all [.textStart, word "aaa", plus space]),
    ("access_list", all [.textStart, oneOf [word "ip", word "ipv6"], plus space,
      word "access-list", plus space]),
    ("snmp", all [.textStart, word "snmp-server", plus space]),
    ("routing", all [.textStart, word "router", plus space,
      oneOf [word "bgp", word "ospf", word "eigrp", word "isis"], .wordBoundary])]

/-- `_signal`. -/
def signalOf (document : EvidenceDocument) (lineNumber : Option Nat) (category signalId : String)
    (strength : SignalStrength) (extractedFields : List String) : EvidenceSignal :=
  { artifactId := document.artifactId, evidenceType := document.evidenceType, lineNumber,
    category, signalId, strength, extractedFields,
    sourceLabel := some document.originalFilename }

/-- `_classify_hardware` of a model that is known. -/
def classifyModel (p : Platform) (model : String) : Option String × Option DeviceClass :=
  let normalized := p.upper model.toList
  let startsWith (front : String) := front.toList.isPrefixOf normalized
  if startsWith "C9" || startsWith "WS-C" || startsWith "CAT" then (some "Catalyst", some .switch)
  else if startsWith "ISR" then (some "ISR", some .router)
  else if startsWith "ASR" then (some "ASR", some .router)
  else (none, none)

/-- `_classify_hardware`. -/
def classifyHardware (p : Platform) : Option String → Option String × Option DeviceClass
  | none => (none, none)
  | some model => classifyModel p model

/-- `_is_recognized_cisco_model`. -/
def isRecognizedCiscoModel (p : Platform) (model : String) : Bool :=
  (classifyModel p model).1.isSome

/-- What the loop remembers between the lines of a document. -/
structure LineState where
  ciscoContext : Bool := false
  aristaContext : Bool := false
  fortiosContext : Bool := false
  aristaVersions : List (String × Nat) := []
  fortiosIdentity : List (String × String × Nat) := []
  syntaxCategories : List String := []
  chassisContext : Nat := 0

/-- A part of the loop's body. -/
abbrev LineReader := LineState → LineState × List Finding

/-- One part after the other. -/
def LineReader.andThen (first second : LineReader) : LineReader := fun s =>
  let (s, before) := first s
  let (s, after) := second s
  (s, before ++ after)

section Line

variable (p : Platform) (document : EvidenceDocument) (number : Nat) (line : List Char)

/-- `explicit_strength`. -/
def explicitStrength : SignalStrength :=
  if document.evidenceType = .configuration then .strong else .strongest

/-- `identities.append(...)` and `_append_signal(...)`. -/
def identityFound (vendor os : String) (version : Option String) (signalId : String)
    (strength : SignalStrength) (fields : List String) : List Finding :=
  let signal := signalOf document (some number) "os_identity" signalId strength fields
  [.identity ⟨vendor, os, version, signal⟩, .signal signal]

def readCisco : LineReader := fun s =>
  let versioned := ["vendor", "os", "os_version"]
  match iosXeVersionPatterns.findSome? (search p.isWord · line) with
  | some found =>
    ({ s with ciscoContext := true }, identityFound document number "Cisco" "IOS XE"
      (some (found.group 1)) "cisco_ios_xe_version" (explicitStrength document) versioned)
  | none =>
    if found p.isWord iosXeMarker line then
      ({ s with ciscoContext := true }, identityFound document number "Cisco" "IOS XE" none
        "cisco_ios_xe_marker" (explicitStrength document) ["vendor", "os"])
    else
      match search p.isWord iosVersionPattern line with
      | some found =>
        ({ s with ciscoContext := true }, identityFound document number "Cisco" "IOS"
          (some (found.group 1)) "cisco_ios_version" (explicitStrength document) versioned)
      | none => (s, [])

def readJunos : LineReader := fun s =>
  match search p.isWord junosPattern line with
  | some found => (s, identityFound document number "Juniper" "Junos" (some (found.group 1))
      "juniper_junos_version" (explicitStrength document) ["vendor", "os", "os_version"])
  | none => (s, [])

def readFortios : LineReader := fun s =>
  match search p.isWord fortiosPattern line with
  | some found =>
    ({ s with fortiosContext := true }, identityFound document number "Fortinet" "FortiOS"
      (some (found.group 1)) "fortinet_fortios_version" (explicitStrength document)
      ["vendor", "os", "os_version"])
  | none => (s, [])

def readFortiosStatus : LineReader := fun s =>
  match search p.isWord fortiosStatusPattern line with
  | some found =>
    ({ s with
      fortiosContext := true
      fortiosIdentity := s.fortiosIdentity ++ [(found.group 1, found.group 2, number)] },
      ((found.group? 3).map fun build => Finding.build (String.ofList build)).toList)
  | none => (s, [])

/-- `models.append(...)` or `serials.append(...)`, and `_append_signal(...)`. -/
def hardwareFound (kind : Hardware → Finding) (value signalId : String) (field : String) :
    List Finding :=
  let signal := signalOf document (some number) "hardware_identity" signalId .strong [field]
  [kind ⟨value, signal⟩, .signal signal]

def readAristaProduct : LineReader := fun s =>
  match search p.isWord aristaProductPattern line with
  | some found =>
    ({ s with aristaContext := true },
      identityFound document number "Arista" "EOS" none "arista_eos_marker" .strongest
          ["vendor", "os"] ++
        hardwareFound document number .model (found.group 1) "arista_model" "model")
  | none => (s, [])

def readAristaSerial : LineReader := fun s =>
  match search p.isWord aristaSerialPattern line with
  | some found =>
    (s, if s.aristaContext then
        hardwareFound document number .serial (found.group 1) "arista_serial" "serial_number"
      else [])
  | none => (s, [])

def readAristaVersion : LineReader := fun s =>
  match search p.isWord aristaSoftwareVersionPattern line with
  | some found => ({ s with aristaVersions := s.aristaVersions ++ [(found.group 1, number)] }, [])
  | none => (s, [])

def readArista : LineReader := fun s =>
  if document.evidenceType = .versionOutput then
    ((readAristaProduct p document number line).andThen
      ((readAristaSerial p document number line).andThen (readAristaVersion p number line))) s
  else (s, [])

/-- What a FortiOS line says under one of its labels. -/
def readFortiosLabel (pattern : Regex) (kind : String) : LineReader := fun s =>
  match search p.isWord pattern line with
  | some found =>
    ({ s with fortiosIdentity := s.fortiosIdentity ++ [(kind, found.group 1, number)] }, [])
  | none => (s, [])

def readCiscoModel : LineReader := fun s =>
  let processor := search p.isWord ciscoProcessorPattern line
  match processor.or (search p.isWord modelNumberPattern line) with
  | some found =>
    if processor.isSome || s.ciscoContext || isRecognizedCiscoModel p (found.group 1) then
      ({ s with ciscoContext := true },
        hardwareFound document number .model (found.group 1) "cisco_model" "model")
    else (s, [])
  | none => (s, [])

def readChassisPid : LineReader := fun s =>
  match search p.isWord pidPattern line with
  | some found =>
    if isRecognizedCiscoModel p (found.group 1) then
      ({ s with ciscoContext := true },
        hardwareFound document number .model (found.group 1) "cisco_chassis_pid" "model")
    else (s, [])
  | none => (s, [])

def readChassisSerial : LineReader := fun s =>
  match search p.isWord snPattern line with
  | some found =>
    (s, if s.ciscoContext then
        hardwareFound document number .serial (found.group 1) "cisco_chassis_serial"
          "serial_number"
      else [])
  | none => (s, [])

/-- The lines after a chassis name are searched for its product and serial numbers. -/
def readChassis : LineReader := fun s =>
  if found p.isWord chassisNamePattern line then ({ s with chassisContext := 2 }, [])
  else if s.chassisContext = 0 then (s, [])
  else
    let (s, findings) :=
      ((readChassisPid p document number line).andThen (readChassisSerial p document number line)) s
    ({ s with chassisContext := s.chassisContext - 1 }, findings)

def readCiscoSerial : LineReader := fun s =>
  match serialPatterns.findSome? (search p.isWord · line) with
  | some found =>
    (s, if s.ciscoContext then
        hardwareFound document number .serial (found.group 1) "cisco_serial" "serial_number"
      else [])
  | none => (s, [])

def readHardware : LineReader := fun s =>
  if document.evidenceType = .configuration ∨ document.evidenceType = .structuredExport then
    (s, [])
  else
    ((readFortiosLabel p number line fortiosHostnamePattern "hostname").andThen
      ((readFortiosLabel p number line fortiosSerialPattern "serial").andThen
        ((readCiscoModel p document number line).andThen
          ((readChassis p document number line).andThen
            (readCiscoSerial p document number line))))) s

/-- `syntax_categories` after a line. -/
def syntaxSeen (seen : List String) : List String :=
  let stripped := Text.stripList Text.isSpace line
  configSyntaxPatterns.foldl
    (fun seen category =>
      if found p.isWord category.2 stripped && !seen.contains category.1 then seen ++ [category.1]
      else seen) seen

def readSyntax : LineReader := fun s =>
  ({ s with syntaxCategories := syntaxSeen p line s.syntaxCategories }, [])

/-- The body of the loop over the lines. -/
def readLine : LineReader :=
  (readCisco p document number line).andThen
    ((readJunos p document number line).andThen
      ((readFortios p document number line).andThen
        ((readFortiosStatus p number line).andThen
          ((readArista p document number line).andThen
            ((readHardware p document number line).andThen (readSyntax p line))))))

end Line

/-- The loop over the lines. -/
def readLines (p : Platform) (document : EvidenceDocument) : List (Nat × List Char) → LineReader
  | [] => fun s => (s, [])
  | (number, line) :: rest =>
    (readLine p document number line).andThen (readLines p document rest)

def filenameFindings (p : Platform) (document : EvidenceDocument) : List Finding :=
  if found p.isWord filenameHintPattern document.originalFilename.toList then
    [.signal (signalOf document none "filename_hint" "cisco_filename_hint" .weak [])]
  else []

def syntaxFindings (document : EvidenceDocument) (s : LineState) : List Finding :=
  if 3 ≤ s.syntaxCategories.length then
    let signal := signalOf document none "cli_structure" "cisco_cli_structure" .medium ["vendor"]
    [.ciscoSyntax signal, .signal signal]
  else []

def aristaFindings (document : EvidenceDocument) (s : LineState) : List Finding :=
  if s.aristaContext then
    s.aristaVersions.flatMap fun (version, number) =>
      identityFound document number "Arista" "EOS" (some version) "arista_eos_version" .strongest
        ["vendor", "os", "os_version"]
  else []

/-- What one remembered FortiOS line is found to be. -/
def fortiosFinding (document : EvidenceDocument) : String × String × Nat → List Finding
  | (kind, value, number) =>
    if Text.startsWith kind "FortiGate-" then
      let signal := signalOf document (some number) "os_identity" "fortinet_fortios_status"
        .strongest ["vendor", "os", "os_version", "model"]
      [.identity ⟨"Fortinet", "FortiOS", some value, signal⟩, .model ⟨kind, signal⟩,
        .signal signal]
    else if kind = "hostname" then
      hardwareFound document number .hostname value "fortinet_hostname" "hostname"
    else if kind = "serial" then
      hardwareFound document number .serial value "fortinet_serial" "serial_number"
    else []

def fortiosFindings (document : EvidenceDocument) (s : LineState) : List Finding :=
  if s.fortiosContext then s.fortiosIdentity.flatMap (fortiosFinding document) else []

/-- The appends of the loop's body for a document. -/
def documentFindings (p : Platform) (document : EvidenceDocument) : List Finding :=
  let (s, lineFindings) := readLines p document (dataLines document) {}
  filenameFindings p document ++ lineFindings ++ syntaxFindings document s ++
    aristaFindings document s ++ fortiosFindings document s

end ConfigAuditor.ProfileResolution
