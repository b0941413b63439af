import ConfigAuditor.SecurityModel

/-!
# Profile manifests

The built-in device profiles of `app.profile_resolution.registry`, with the fields
that interpretation reads.
-/
namespace ConfigAuditor.ProfileResolution

structure ProfileManifest where
  profileId : String
  profileVersionId : String
  structuralReaderName : Option String
  knowledgePackName : Option String
  /-- `coverage_manifest["canonical_fields"]`. -/
  canonicalFields : List String := []
  /-- `coverage_manifest["identity_only_commands"]`. -/
  identityOnlyCommands : List String := []
  deriving DecidableEq

def ciscoIosXe17 : ProfileManifest :=
  { profileId := "cisco.ios_xe.17", profileVersionId := "cisco.ios_xe.17@1.0.0",
    structuralReaderName := some "indentation_cli.v1",
    knowledgePackName := some "cisco_iosxe_17@1.3.0",
    canonicalFields := ["management.remote.telnet.enabled", "management.remote.ssh.enabled",
      "management.remote.ssh.version", "management.remote.http.enabled",
      "management.session.idle_timeout", "management.remote.source.restriction.configured",
      "logging.enabled", "logging.remote.destination", "time.ntp.server", "time.ntp.configured",
      "time.ntp.authentication.enabled", "time.ntp.authentication.key_id",
      "time.ntp.authentication.trusted_key_id"],
    identityOnlyCommands := ["hostname"] }

def fortios7 : ProfileManifest :=
  { profileId := "fortinet.fortios.7", profileVersionId := "fortinet.fortios.7@1.0.0",
    structuralReaderName := some "fortios_cli.v1", knowledgePackName := some "fortios_7@1.3.0",
    canonicalFields := ["management.remote.telnet.enabled", "management.remote.ssh.enabled",
      "management.remote.http.enabled", "management.session.idle_timeout",
      "management.remote.https.enabled", "management.remote.tls.minimum_version",
      "management.remote.source.restriction.configured",
      "management.remote.source.permitted_network", "logging.enabled",
      "logging.remote.destination", "time.ntp.server", "time.ntp.configured"] }

def juniperJunos18 : ProfileManifest :=
  { profileId := "juniper.junos.18", profileVersionId := "juniper.junos.18@1.0.0",
    structuralReaderName := some "xml_tree.v1",
    knowledgePackName := some "juniper_junos_18@1.2.0",
    canonicalFields := ["management.remote.ssh.enabled", "management.remote.telnet.enabled",
      "management.session.idle_timeout", "logging.remote.destination", "time.ntp.server",
      "time.ntp.configured"] }

def aristaEos4 : ProfileManifest :=
  { profileId := "arista.eos.4", profileVersionId := "arista.eos.4@1.0.0",
    structuralReaderName := some "indentation_cli.v1",
    knowledgePackName := some "arista_eos_4@1.1.0",
    canonicalFields := ["management.remote.ssh.enabled", "management.remote.telnet.enabled",
      "management.session.idle_timeout", "logging.remote.destination", "time.ntp.server",
      "time.ntp.configured", "management.remote.source.restriction.configured"] }

def genericCli : ProfileManifest :=
  { profileId := "generic.cli", profileVersionId := "generic.cli@1.0.0",
    structuralReaderName := some "indentation_cli.v1",
    knowledgePackName := some "generic_cli@1.0.0" }

def genericXml : ProfileManifest :=
  { profileId := "generic.xml", profileVersionId := "generic.xml@1.0.0",
    structuralReaderName := some "xml_tree.v1", knowledgePackName := some "generic_xml@1.0.0" }

def genericJson : ProfileManifest :=
  { profileId := "generic.json", profileVersionId := "generic.json@1.0.0",
    structuralReaderName := some "json_tree.v1", knowledgePackName := some "generic_json@1.0.0" }

/-- The manifests of `PROFILE_REGISTRY`. -/
def manifests : List ProfileManifest :=
  [ciscoIosXe17, fortios7, juniperJunos18, aristaEos4, genericCli, genericXml, genericJson]

/-- `PROFILE_REGISTRY.get`. -/
def profileRegistry (profileVersionId : String) : Option ProfileManifest :=
  manifests.find? (·.profileVersionId == profileVersionId)

end ConfigAuditor.ProfileResolution
