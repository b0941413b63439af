import ConfigAuditor.KnowledgePacks.Model

/-!
# The sealed knowledge packs

The built-in packs of `app.knowledge_packs`, with the identities of their mappings.
Every registered pack passes `validate_knowledge_pack` for its own profile.
-/
namespace ConfigAuditor.KnowledgePacks.Sealed

open Library SecurityModel Training.Dsl KnowledgePacks

namespace Cisco

def telnetId := UUID.ofNat 0xc2a81d5b95915ecdbeee46beb57acced
def telnetVersion := UUID.ofNat 0x4e5634f2c0f2529e912fe42139aed61e
def sshId := UUID.ofNat 0xbc2cc36840eb53ed896e5efd779359d3
def sshVersionOf := UUID.ofNat 0x82f62960c06e5ee1a1ceccd574ead730
def timeoutId := UUID.ofNat 0x79a68ade607d514898cf5e9f5e92943a
def timeoutVersion := UUID.ofNat 0xa153b5c4786d59409fc72906ea7d42c7
def sshProtocolId := UUID.ofNat 0x98f4ebb2a48e51f08611430e6987e212
def sshProtocolVersion := UUID.ofNat 0x4b13928b98eb5dc2a739d978d5c8bd95
def loggingId := UUID.ofNat 0x3363d69ac3e853a8844a9146e7eee8e3
def loggingVersion := UUID.ofNat 0xf112df12f8605fadb0137b89701d2fcf
def ntpId := UUID.ofNat 0x3f7d8702ed3f5c11ab8634d057d95678
def ntpVersion := UUID.ofNat 0x31eadc31751e5451bdd72532a26c9710

def lineVty (command : String) (arguments : List String) : NodeMatcher :=
  { command, argumentsPrefix := arguments, parentCommand := some "line",
    parentArgumentsPrefix := ["vty"] }

def top (command : String) (arguments : List String) : NodeMatcher :=
  { command, argumentsPrefix := arguments }

def legacyMappings : List DeclarativeMapping :=
  [{ mappingId := telnetId, mappingVersionId := telnetVersion,
      fieldId := "management.remote.telnet.enabled", matcher := lineVty "transport" ["input"],
      extractor := "transport_telnet", scopeResolver := "vty_range",
      declaredValueTypes := [.boolean] },
    { mappingId := sshId, mappingVersionId := sshVersionOf,
      fieldId := "management.remote.ssh.enabled", matcher := lineVty "transport" ["input"],
      extractor := "transport_ssh", scopeResolver := "vty_range",
      declaredValueTypes := [.boolean] },
    { mappingId := timeoutId, mappingVersionId := timeoutVersion,
      fieldId := "management.session.idle_timeout", matcher := lineVty "exec-timeout" [],
      extractor := "duration_minutes_seconds", scopeResolver := "vty_range",
      declaredValueTypes := [.duration] },
    { mappingId := sshProtocolId, mappingVersionId := sshProtocolVersion,
      fieldId := "management.remote.ssh.version", matcher := top "ip" ["ssh", "version"],
      extractor := "ssh_version", scopeResolver := "device", declaredValueTypes := [.integer] },
    { mappingId := loggingId, mappingVersionId := loggingVersion,
      fieldId := "logging.remote.destination", matcher := top "logging" ["host"],
      extractor := "logging_destination", scopeResolver := "device",
      declaredValueTypes := [.ipAddress, .string] },
    { mappingId := ntpId, mappingVersionId := ntpVersion, fieldId := "time.ntp.server",
      matcher := top "ntp" ["server"], extractor := "ntp_server", scopeResolver := "device",
      declaredValueTypes := [.ipAddress, .string] }]

def b4Mappings : List DeclarativeMapping :=
  [{ mappingId := telnetId, mappingVersionId := telnetVersion,
      fieldId := "management.remote.telnet.enabled", matcher := lineVty "transport" ["input"],
      extractor := "transport_telnet", scopeResolver := "vty_range",
      declaredValueTypes := [.boolean], negationBehavior := .resetToDefault,
      resetMappingVersionId := some (UUID.ofNat 0xe42c0eb21d5d584ab4638ee80574a35c) },
    { mappingId := sshId, mappingVersionId := sshVersionOf,
      fieldId := "management.remote.ssh.enabled", matcher := lineVty "transport" ["input"],
      extractor := "transport_ssh", scopeResolver := "vty_range",
      declaredValueTypes := [.boolean], negationBehavior := .resetToDefault,
      resetMappingVersionId := some (UUID.ofNat 0x65f4fbb9f9e85273a1828a99f95d72a1) },
    { mappingId := timeoutId, mappingVersionId := timeoutVersion,
      fieldId := "management.session.idle_timeout", matcher := lineVty "exec-timeout" [],
      extractor := "duration_minutes_seconds", scopeResolver := "vty_range",
      declaredValueTypes := [.duration], negationBehavior := .resetToDefault,
      resetMappingVersionId := some (UUID.ofNat 0xfa460558d8fc58a8af78caaa6272e861) },
    { mappingId := sshProtocolId, mappingVersionId := sshProtocolVersion,
      fieldId := "management.remote.ssh.version", matcher := top "ip" ["ssh", "version"],
      extractor := "ssh_version", scopeResolver := "device", declaredValueTypes := [.integer],
      negationBehavior := .resetToDefault,
      resetMappingVersionId := some (UUID.ofNat 0x8fd9e9416ece5f2a9d31f1592dfd34bd) },
    { mappingId := loggingId, mappingVersionId := loggingVersion,
      fieldId := "logging.remote.destination", matcher := top "logging" ["host"],
      extractor := "logging_destination", scopeResolver := "device",
      declaredValueTypes := [.ipAddress, .string], negationBehavior := .removeValue,
      removalMappingVersionId := some (UUID.ofNat 0x3fe025cce9bb5860a4249273a7391c3a) },
    { mappingId := ntpId, mappingVersionId := ntpVersion, fieldId := "time.ntp.server",
      matcher := top "ntp" ["server"], extractor := "ntp_server", scopeResolver := "device",
      declaredValueTypes := [.ipAddress, .string], negationBehavior := .removeValue,
      removalMappingVersionId := some (UUID.ofNat 0xcc7f73d2e27e5a57896cb4d322fc2c14) }]

/-- Identities `876787ca-…-b4b5xx` and `4c84d96e-…-f5bfxx` of the later mappings. -/
def laterId (suffix : Nat) : UUID := UUID.ofNat (0x876787ca1d7f5a4c9f1a01f934b4b500 + suffix)

def laterVersion (suffix : Nat) : UUID :=
  UUID.ofNat (0x4c84d96e99b053c9b7f38e3f9e5bf500 + suffix)

def laterRemoval (suffix : Nat) : UUID :=
  UUID.ofNat (0x9d5412820e9a5180a80b3c2041c7b500 + suffix)

def mappings : List DeclarativeMapping := b4Mappings ++
  [{ mappingId := laterId 1, mappingVersionId := laterVersion 1,
      fieldId := "management.remote.source.restriction.configured",
      matcher := lineVty "access-class" [], extractor := "cisco_access_class",
      scopeResolver := "vty_range", declaredValueTypes := [.boolean] },
    { mappingId := laterId 2, mappingVersionId := laterVersion 2, fieldId := "logging.enabled",
      matcher := top "logging" ["on"], extractor := "presence_enabled", scopeResolver := "device",
      declaredValueTypes := [.boolean] },
    { mappingId := laterId 3, mappingVersionId := laterVersion 3,
      fieldId := "time.ntp.authentication.enabled", matcher := top "ntp" ["authenticate"],
      extractor := "presence_enabled", scopeResolver := "device",
      declaredValueTypes := [.boolean] },
    { mappingId := laterId 4, mappingVersionId := laterVersion 4,
      fieldId := "time.ntp.authentication.key_id", matcher := top "ntp" ["authentication-key"],
      extractor := "ntp_key_id", scopeResolver := "device", declaredValueTypes := [.integer],
      negationBehavior := .removeValue, removalMappingVersionId := some (laterRemoval 4) },
    { mappingId := laterId 5, mappingVersionId := laterVersion 5,
      fieldId := "time.ntp.authentication.trusted_key_id",
      matcher := top "ntp" ["trusted-key"], extractor := "ntp_key_id", scopeResolver := "device",
      declaredValueTypes := [.integer], negationBehavior := .removeValue,
      removalMappingVersionId := some (laterRemoval 5) },
    { mappingId := laterId 6, mappingVersionId := laterVersion 6,
      fieldId := "time.ntp.configured", matcher := top "ntp" ["server"],
      extractor := "ntp_configured", scopeResolver := "device",
      declaredValueTypes := [.boolean] }]

def phase8Mappings : List DeclarativeMapping := mappings ++
  [{ mappingId := laterId 7, mappingVersionId := laterVersion 7,
      fieldId := "management.remote.http.enabled", matcher := top "ip" ["http", "server"],
      extractor := "presence_enabled", scopeResolver := "device",
      declaredValueTypes := [.boolean], negationBehavior := .invertBoolean }]

def pack (versionId : Nat) (version : String) (mappings : List DeclarativeMapping) :
    KnowledgePack :=
  { knowledgePackId := UUID.ofNat 0x33ededa80c1755e0b104302fc55de5b8,
    knowledgePackVersionId := UUID.ofNat versionId, name := "cisco_iosxe_17", version,
    schemaVersion := "1.0.0", profileId := "cisco.ios_xe.17",
    profileVersionId := "cisco.ios_xe.17@1.0.0", mappings }

def packV1 := pack 0x17e3e91317df53bfb8c15cae4bfa133e "1.0.0" legacyMappings
def packV1_1 := pack 0xdbad6d6197d65e42a1aafeb4e28e15b0 "1.1.0" b4Mappings
def packV1_2 := pack 0xcac421499da95d1394d712d2c9ae5b05 "1.2.0" mappings
def current := pack 0xf5bb890cc8c3562890473e0b95871a13 "1.3.0" phase8Mappings

end Cisco

namespace Fortios

/-- `a1b2c3d4-xxxx-5aaa-8aaa-000000000013`. -/
def identity (group : Nat) : UUID :=
  UUID.ofNat (0xa1b2c3d400005aaa8aaa000000000013 + group * 2 ^ 80)

def config (command : String) (arguments context : List String) : NodeMatcher :=
  { command, argumentsPrefix := arguments, parentCommand := some "config",
    parentArgumentsPrefix := context }

def edit (command : String) (arguments context : List String) : NodeMatcher :=
  { command, argumentsPrefix := arguments, parentCommand := some "edit",
    ancestorCommand := some "config", ancestorArgumentsPrefix := context }

/-- `_mapping`, with the groups of its identities. -/
def mapping (id version : Nat) (fieldId : String) (matcher : NodeMatcher) (extractor : String)
    (types : List TypedValueType) (scope : String := "device")
    (negation : NegationBehavior := .unsupported) (reset : Option Nat := none) :
    DeclarativeMapping :=
  { mappingId := identity id, mappingVersionId := identity version, fieldId, matcher, extractor,
    scopeResolver := scope, declaredValueTypes := types, negationBehavior := negation,
    resetMappingVersionId := reset.map identity }

def legacyMappings : List DeclarativeMapping :=
  [mapping 0x3101 0x4101 "management.remote.telnet.enabled"
      (config "set" ["admin-telnet-port"] ["system", "global"]) "fortios_port_enabled" [.boolean],
    mapping 0x3201 0x4201 "management.remote.telnet.enabled"
      (config "unset" ["admin-telnet-port"] ["system", "global"]) "fortios_port_enabled"
      [.boolean] "device" .resetToDefault,
    mapping 0x3102 0x4102 "management.remote.ssh.enabled"
      (config "set" ["admin-ssh-port"] ["system", "global"]) "fortios_port_enabled" [.boolean],
    mapping 0x3202 0x4202 "management.remote.ssh.enabled"
      (config "unset" ["admin-ssh-port"] ["system", "global"]) "fortios_port_enabled"
      [.boolean] "device" .resetToDefault,
    mapping 0x3103 0x4103 "management.session.idle_timeout"
      (config "set" ["admintimeout"] ["system", "global"]) "fortios_timeout" [.duration],
    mapping 0x3203 0x4203 "management.session.idle_timeout"
      (config "unset" ["admintimeout"] ["system", "global"]) "fortios_timeout"
      [.duration] "device" .resetToDefault,
    mapping 0x3104 0x4104 "logging.remote.destination"
      (config "set" ["server"] ["log", "syslogd", "setting"]) "fortios_server"
      [.ipAddress, .string],
    mapping 0x3105 0x4105 "time.ntp.server" (edit "set" ["server"] ["ntpserver"]) "ntp_server"
      [.ipAddress, .string]]

/-- The statement `set`/`unset allowaccess` of an interface. -/
def allowaccess (command : String) : NodeMatcher :=
  edit command ["allowaccess"] ["system", "interface"]

def b4Mappings : List DeclarativeMapping :=
  [mapping 0x5101 0x6101 "management.remote.telnet.enabled" (allowaccess "set")
      "fortios_allowaccess_telnet" [.boolean] "device" .unsupported (some 0x6201),
    mapping 0x5201 0x6201 "management.remote.telnet.enabled" (allowaccess "unset")
      "fortios_allowaccess_telnet" [.boolean] "device" .resetToDefault (some 0x6201),
    mapping 0x5102 0x6102 "management.remote.ssh.enabled" (allowaccess "set")
      "fortios_allowaccess_ssh" [.boolean] "device" .unsupported (some 0x6202),
    mapping 0x5202 0x6202 "management.remote.ssh.enabled" (allowaccess "unset")
      "fortios_allowaccess_ssh" [.boolean] "device" .resetToDefault (some 0x6202),
    mapping 0x5103 0x6103 "management.session.idle_timeout"
      (config "set" ["admintimeout"] ["system", "global"]) "fortios_timeout" [.duration],
    mapping 0x5203 0x6203 "management.session.idle_timeout"
      (config "unset" ["admintimeout"] ["system", "global"]) "fortios_timeout" [.duration]
      "device" .resetToDefault,
    mapping 0x5104 0x6104 "logging.remote.destination"
      (config "set" ["server"] ["log", "syslogd", "setting"]) "fortios_server"
      [.ipAddress, .string],
    mapping 0x5105 0x6105 "time.ntp.server" (edit "set" ["server"] ["ntpserver"]) "ntp_server"
      [.ipAddress, .string]]

def mappings : List DeclarativeMapping :=
  b4Mappings.filter (fun m => m.fieldId != "management.remote.telnet.enabled" &&
    m.fieldId != "management.remote.ssh.enabled") ++
  [mapping 0x5301 0x6301 "management.remote.telnet.enabled" (allowaccess "set")
      "fortios_allowaccess_telnet" [.boolean] "interface" .unsupported (some 0x6401),
    mapping 0x5302 0x6302 "management.remote.ssh.enabled" (allowaccess "set")
      "fortios_allowaccess_ssh" [.boolean] "interface" .unsupported (some 0x6402),
    mapping 0x5401 0x6401 "management.remote.telnet.enabled" (allowaccess "unset")
      "fortios_allowaccess_telnet" [.boolean] "interface" .resetToDefault (some 0x6501),
    mapping 0x5402 0x6402 "management.remote.ssh.enabled" (allowaccess "unset")
      "fortios_allowaccess_ssh" [.boolean] "interface" .resetToDefault (some 0x6502),
    mapping 0x5303 0x6303 "management.remote.https.enabled" (allowaccess "set")
      "fortios_allowaccess_https" [.boolean] "interface" .unsupported (some 0x6403),
    mapping 0x5403 0x6403 "management.remote.https.enabled" (allowaccess "unset")
      "fortios_allowaccess_https" [.boolean] "interface" .resetToDefault (some 0x6503),
    mapping 0x5304 0x6304 "management.remote.tls.minimum_version"
      (config "set" ["admin-https-ssl-versions"] ["system", "global"]) "fortios_tls_minimum"
      [.enum],
    mapping 0x5305 0x6305 "management.remote.source.restriction.configured"
      (edit "set" [] ["system", "admin"]) "fortios_trusthost_restriction" [.boolean]
      "administrator",
    mapping 0x5306 0x6306 "management.remote.source.permitted_network"
      (edit "set" [] ["system", "admin"]) "fortios_trusthost_network" [.ipNetwork]
      "administrator",
    mapping 0x5307 0x6307 "logging.enabled"
      (config "set" ["status", "enable"] ["log", "setting"]) "presence_enabled" [.boolean],
    mapping 0x5308 0x6308 "time.ntp.configured" (edit "set" ["server"] ["ntpserver"])
      "ntp_configured" [.boolean]]

def phase4Mappings : List DeclarativeMapping := mappings ++
  [mapping 0x5309 0x6309 "management.remote.http.enabled" (allowaccess "set")
      "fortios_allowaccess_http" [.boolean] "interface" .unsupported (some 0x6409),
    mapping 0x5409 0x6409 "management.remote.http.enabled" (allowaccess "unset")
      "fortios_allowaccess_http" [.boolean] "interface" .resetToDefault (some 0x6509)]

def pack (group : Nat) (version : String) (mappings : List DeclarativeMapping) : KnowledgePack :=
  { knowledgePackId := identity 0x1111, knowledgePackVersionId := identity group,
    name := "fortios_7", version, schemaVersion := "1.0.0", profileId := "fortinet.fortios.7",
    profileVersionId := "fortinet.fortios.7@1.0.0", mappings }

def packV1 := pack 0x2222 "1.0.0" legacyMappings
def packV1_1 := pack 0x3333 "1.1.0" b4Mappings
def packV1_2 := pack 0x7333 "1.2.0" mappings
def current := pack 0x8333 "1.3.0" phase4Mappings

end Fortios

namespace Juniper

/-- `_definition`. -/
def definition (field : String) (path : List String) (source : XmlSource)
    (output : TypedValueType) (valueType : CaptureType) (capture : Option String := none)
    (conversion : UnitConversion := .none) (qualifiers : List (List String) := []) :
    MappingFields :=
  { profileApplicability :=
      { profileIds := ["juniper.junos.18"], profileVersionIds := ["juniper.junos.18@1.0.0"] },
    structuralMatch :=
      { operation := .xmlPath, command := "xml",
        xmlPath := some
          { path := path.map fun item => { localName := item, exact := item != "server" },
            source, capture, valueType := some valueType } },
    targetFieldId := field,
    valueExtraction :=
      { operation := if source = .presence then .booleanFromPresence else .capture, capture,
        outputType := output },
    unitConversion := conversion,
    scopeResolution := { strategy := .device, xmlUnsupportedQualifierPaths := qualifiers },
    negationBehavior := .unsupported, removalBehavior := .unsupported,
    defaultBehavior := .unknown }

def sshDefinition : MappingDefinition :=
  ⟨definition "management.remote.ssh.enabled" ["configuration", "system", "services", "ssh"]
    .presence .boolean .boolean, by decide +kernel⟩

def loggingDefinition : MappingDefinition :=
  ⟨definition "logging.remote.destination" ["configuration", "system", "syslog", "host", "name"]
    .text .string .string (some "destination"), by decide +kernel⟩

def ntpDefinition : MappingDefinition :=
  ⟨definition "time.ntp.server" ["configuration", "system", "ntp", "server", "name"]
    .text .string .string (some "server"), by decide +kernel⟩

def ntpQualifiedDefinition : MappingDefinition :=
  ⟨definition "time.ntp.server" ["configuration", "system", "ntp", "server", "name"]
    .text .string .string (some "server") .none [["routing-instance"]], by decide +kernel⟩

def timeoutDefinition : MappingDefinition :=
  ⟨definition "management.session.idle_timeout"
    ["configuration", "system", "login", "idle-timeout"] .text .duration .integer
    (some "minutes") .minutesToSeconds, by decide +kernel⟩

def ntpConfiguredDefinition : MappingDefinition :=
  ⟨definition "time.ntp.configured" ["configuration", "system", "ntp", "server"]
    .presence .boolean .boolean none .none [["routing-instance"]], by decide +kernel⟩

def telnetDefinition : MappingDefinition :=
  ⟨definition "management.remote.telnet.enabled"
    ["configuration", "system", "services", "telnet"] .presence .boolean .boolean, by decide +kernel⟩

def mapping (id version : Nat) (fieldId : String) (types : List TypedValueType)
    (definition : MappingDefinition) : DeclarativeMapping :=
  { mappingId := UUID.ofNat (0xb3010000000050008000000000000000 + id),
    mappingVersionId := UUID.ofNat (0xb3020000000050008000000000000000 + version), fieldId,
    matcher := { command := "xml" }, extractor := "training_dsl", scopeResolver := "device",
    declaredValueTypes := types, trainingDefinition := some definition }

def b4Mappings : List DeclarativeMapping :=
  [mapping 0x1 0x1 "management.remote.ssh.enabled" [.boolean] sshDefinition,
    mapping 0x2 0x2 "logging.remote.destination" [.string] loggingDefinition,
    mapping 0x3 0x3 "time.ntp.server" [.string] ntpDefinition]

def mappings : List DeclarativeMapping := b4Mappings.take 2 ++
  [mapping 0x3 0x103 "time.ntp.server" [.string] ntpQualifiedDefinition,
    mapping 0x4 0x104 "management.session.idle_timeout" [.duration] timeoutDefinition,
    mapping 0x5 0x105 "time.ntp.configured" [.boolean] ntpConfiguredDefinition]

def phase6Mappings : List DeclarativeMapping := mappings ++
  [mapping 0x6 0x106 "management.remote.telnet.enabled" [.boolean] telnetDefinition]

def pack (versionId : Nat) (version : String) (mappings : List DeclarativeMapping) :
    KnowledgePack :=
  { knowledgePackId := UUID.ofNat 0xb3000000000050008000000000000018,
    knowledgePackVersionId := UUID.ofNat versionId, name := "juniper_junos_18", version,
    schemaVersion := "1.0.0", profileId := "juniper.junos.18",
    profileVersionId := "juniper.junos.18@1.0.0", mappings }

def packV1 := pack 0xb3040000000050008000000000000018 "1.0.0" b4Mappings
def packV1_1 := pack 0xb3050000000050008000000000000018 "1.1.0" mappings
def current := pack 0xb3060000000050008000000000000018 "1.2.0" phase6Mappings

end Juniper

namespace Arista

/-- `_mapping`. -/
def mapping (number : Nat) (fieldId : String) (matcher : NodeMatcher) (extractor : String)
    (types : List TypedValueType) (scope : String := "device")
    (negation : NegationBehavior := .unsupported) (reset removal : Bool := false) :
    DeclarativeMapping :=
  { mappingId := UUID.ofNat (0xa4100000000050008000000000000000 + number),
    mappingVersionId := UUID.ofNat (0xa4200000000050008000000000000000 + number), fieldId,
    matcher, extractor, scopeResolver := scope, declaredValueTypes := types,
    negationBehavior := negation,
    resetMappingVersionId :=
      if reset then some (UUID.ofNat (0xa4300000000050008000000000000000 + number)) else none,
    removalMappingVersionId :=
      if removal then some (UUID.ofNat (0xa4400000000050008000000000000000 + number)) else none }

def management (command : String) (arguments : List String) (service : String) : NodeMatcher :=
  { command, argumentsPrefix := arguments, parentCommand := some "management",
    parentArgumentsPrefix := [service] }

def mappings : List DeclarativeMapping :=
  [mapping 1 "management.remote.ssh.enabled" (management "shutdown" [] "ssh")
      "presence_disabled" [.boolean] "device" .invertBoolean,
    mapping 2 "management.remote.telnet.enabled" (management "shutdown" [] "telnet")
      "presence_disabled" [.boolean] "device" .invertBoolean,
    mapping 3 "management.session.idle_timeout" (management "idle-timeout" [] "ssh")
      "duration_minutes" [.duration] "device" .resetToDefault true,
    mapping 4 "logging.remote.destination" { command := "logging", argumentsPrefix := ["host"] }
      "logging_destination" [.ipAddress, .string] "device" .removeValue false true,
    mapping 5 "time.ntp.server" { command := "ntp", argumentsPrefix := ["server"] }
      "ntp_server" [.ipAddress, .string] "device" .removeValue false true,
    mapping 6 "management.remote.source.restriction.configured"
      (management "ip" ["access-group"] "ssh") "arista_service_acl" [.boolean]
      "arista_management_service"]

def phase7Mappings : List DeclarativeMapping := mappings ++
  [mapping 7 "time.ntp.configured" { command := "ntp", argumentsPrefix := ["server"] }
    "ntp_configured" [.boolean]]

def pack (versionId : Nat) (version : String) (mappings : List DeclarativeMapping) :
    KnowledgePack :=
  { knowledgePackId := UUID.ofNat 0xa4000000000050008000000000000004,
    knowledgePackVersionId := UUID.ofNat versionId, name := "arista_eos_4", version,
    schemaVersion := "1.0.0", profileId := "arista.eos.4",
    profileVersionId := "arista.eos.4@1.0.0", mappings }

def packV1 := pack 0xa4010000000050008000000000000004 "1.0.0" mappings
def current := pack 0xa4010000000050008000000000000104 "1.1.0" phase7Mappings

end Arista

namespace Generic

def pack (suffix : Nat) (name profileId : String) : KnowledgePack :=
  { knowledgePackId := UUID.ofNat (0xa5000000000050008000000000000000 + suffix),
    knowledgePackVersionId := UUID.ofNat (0xa5010000000050008000000000000000 + suffix), name,
    version := "1.0.0", schemaVersion := "1.0.0", profileId,
    profileVersionId := profileId ++ "@1.0.0", mappings := [] }

def cli := pack 0x5 "generic_cli" "generic.cli"
def xml := pack 0x6 "generic_xml" "generic.xml"
def json := pack 0x7 "generic_json" "generic.json"

end Generic

/-- The packs of `KNOWLEDGE_PACK_REGISTRY`. -/
def registry : List KnowledgePack :=
  [Cisco.packV1, Cisco.packV1_1, Cisco.packV1_2, Cisco.current,
    Fortios.packV1, Fortios.packV1_1, Fortios.packV1_2, Fortios.current,
    Juniper.packV1, Juniper.packV1_1, Juniper.current,
    Arista.packV1, Arista.current, Generic.cli, Generic.xml, Generic.json]

/-- The active pack of each profile. -/
def active : List KnowledgePack :=
  [Cisco.current, Fortios.current, Juniper.current, Arista.current, Generic.cli, Generic.xml,
    Generic.json]

def activeForProfile (profileVersionId : String) : Option KnowledgePack :=
  active.find? (·.profileVersionId == profileVersionId)

/-- Every registered pack passes the validator for its own profile. -/
theorem registry_validated : ∀ pack ∈ registry,
    validateKnowledgePack pack pack.profileId pack.profileVersionId = .ok pack := by
  decide +kernel

end ConfigAuditor.KnowledgePacks.Sealed
