import ConfigAuditor.Compliance.Model

/-!
# The technical baseline rule packs

The rules of `app.compliance.rule_registry`, one active pack for each built-in
profile. Every registered pack passes the validator, and no rule id has a colon.
-/
namespace ConfigAuditor.Compliance.Rules

open Library SecurityModel Model

/-- `_nist`. -/
def nist (controlId : String) : List FrameworkReference :=
  ((verifiedNistTitles.find? (·.1 == controlId)).map fun entry =>
    { framework := "NIST SP 800-53", revision := "Rev. 5", controlId,
      controlTitle := entry.2 }).toList

/-- `_rule`. -/
def rule (ruleId title domain : String) (severity : FindingSeverity) (field : String)
    (condition : RuleCondition) (references : List FrameworkReference := []) : RuleDefinition :=
  { ruleId, title, securityDomain := domain, severity, requiredEffectiveStates := [field],
    condition, requiredPolicyParameters := condition.parameter.toList,
    frameworkReferences := references }

def equals (expected : PyValue) : RuleCondition :=
  { operator := .equals, expected := some expected }

def baseRules : List RuleDefinition :=
  [rule "management.telnet.disabled" "Telnet management access disabled" "management" .high
      "management.remote.telnet.enabled" (equals (.bool false)) (nist "AC-17"),
    rule "management.ssh.enabled" "SSH management access enabled" "management" .high
      "management.remote.ssh.enabled" (equals (.bool true)) (nist "AC-17"),
    rule "management.ssh.version_2" "SSH protocol version 2 required" "management" .medium
      "management.remote.ssh.version" (equals (.int 2)) (nist "AC-17"),
    rule "management.source.restriction.configured" "Management source restriction configured"
      "management" .medium "management.remote.source.restriction.configured"
      (equals (.bool true)),
    rule "management.idle_timeout.maximum"
      "Administrative idle timeout within organization maximum" "management" .medium
      "management.session.idle_timeout"
      { operator := .lessThanOrEqual, parameter := some "maximum_admin_idle_timeout_seconds",
        minimumExclusive := some (.int 0) } (nist "AC-11"),
    rule "logging.enabled" "Configuration logging enabled" "logging" .medium "logging.enabled"
      (equals (.bool true)) (nist "AU-12"),
    rule "logging.remote.destination.configured" "Remote logging destination configured" "logging"
      .medium "logging.remote.destination" { operator := .nonEmpty } (nist "AU-12"),
    rule "logging.remote.destination.approved"
      "Remote logging destinations approved by organization policy" "logging" .medium
      "logging.remote.destination"
      { operator := .allMembersInParameterSet,
        parameter := some "approved_logging_destinations" },
    rule "time.ntp.server.configured" "NTP server configured" "time" .medium "time.ntp.server"
      { operator := .nonEmpty } (nist "AU-8"),
    rule "time.ntp.configured" "NTP configuration present" "time" .medium "time.ntp.configured"
      (equals (.bool true)) (nist "AU-8"),
    rule "time.ntp.authentication.enabled" "Cryptographic NTP source authentication enabled"
      "time" .medium "time.ntp.authentication.enabled" (equals (.bool true)),
    rule "time.ntp.server.approved" "NTP servers approved by organization policy" "time" .medium
      "time.ntp.server"
      { operator := .allMembersInParameterSet, parameter := some "approved_ntp_servers" }]

def rules : List RuleDefinition := baseRules ++
  [rule "management.http.disabled" "HTTP management access disabled" "management" .high
      "management.remote.http.enabled" (equals (.bool false)) (nist "AC-17"),
    rule "management.https.enabled" "HTTPS management access enabled" "management" .medium
      "management.remote.https.enabled" (equals (.bool true)) (nist "AC-17"),
    rule "management.tls.minimum_1_2" "Administrative TLS minimum version is 1.2" "management"
      .high "management.remote.tls.minimum_version"
      { operator := .enumAtLeast, expected := some (.str "tlsv1-2"),
        order := some [.str "tlsv1-0", .str "tlsv1-1", .str "tlsv1-2", .str "tlsv1-3"] }
      (nist "AC-17"),
    rule "management.ssh.strong_crypto" "Strong SSH cryptographic settings configured"
      "management" .high "management.remote.ssh.strong_crypto.configured" (equals (.bool true))
      (nist "AC-17"),
    rule "logging.administrative_access.enabled" "Administrative access logging enabled" "logging"
      .medium "logging.administrative_access.enabled" (equals (.bool true)) (nist "AU-12")]

def baseline (versionId : Nat) (name version profileVersionId : String)
    (rules : List RuleDefinition) : RulePack :=
  { rulePackVersionId := UUID.ofNat versionId, name := name ++ "_technical_baseline", version,
    profileVersionId, rules }

def rulePackV1 := baseline 0xe3763b76edcd55b89825b82933a3e2f9 "cisco_iosxe_17" "1.0.0"
  "cisco.ios_xe.17@1.0.0" baseRules
def rulePack := baseline 0x49931437aa5154dca45443720ce9ca1e "cisco_iosxe_17" "1.1.0"
  "cisco.ios_xe.17@1.0.0" rules
def fortiosRulePackV1 := baseline 0x4b96939a77b3572797d8904fa4ffef35 "fortios_7" "1.0.0"
  "fortinet.fortios.7@1.0.0" baseRules
def fortiosRulePack := baseline 0xe3c6d66d2e9e52e685a743ad2f54d80c "fortios_7" "1.1.0"
  "fortinet.fortios.7@1.0.0" rules
def junosRulePackV1 := baseline 0xdc1dcf04b9445509bddff28624e1ac84 "juniper_junos_18" "1.0.0"
  "juniper.junos.18@1.0.0" baseRules
def junosRulePack := baseline 0xeb235591e592537f8a498e44ed212386 "juniper_junos_18" "1.1.0"
  "juniper.junos.18@1.0.0" rules
def aristaRulePackV1 := baseline 0x791a3c0333ad53f781f566afa0c2b940 "arista_eos_4" "1.0.0"
  "arista.eos.4@1.0.0" baseRules
def aristaRulePack := baseline 0x69d3a5a51d59542c9261a3e8628c44a0 "arista_eos_4" "1.1.0"
  "arista.eos.4@1.0.0" rules
def genericRulePackV1 := baseline 0xddec943e06c95cf8964ec0fef5fd7927 "generic_cli" "1.0.0"
  "generic.cli@1.0.0" baseRules
def genericRulePack := baseline 0x13295741198850ea8f478e8aa6fdddb0 "generic_cli" "1.1.0"
  "generic.cli@1.0.0" rules
def genericXmlRulePack := baseline 0x9cb948f343cb594bb5742fc2a1313c67 "generic_xml" "1.0.0"
  "generic.xml@1.0.0" rules
def genericJsonRulePack := baseline 0x3d53c5e7c7915381809d733773b44cb2 "generic_json" "1.0.0"
  "generic.json@1.0.0" rules

/-- The packs of `RULE_REGISTRY`. -/
def registry : List RulePack :=
  [rulePackV1, rulePack, fortiosRulePackV1, fortiosRulePack, junosRulePackV1, junosRulePack,
    aristaRulePackV1, aristaRulePack, genericRulePackV1, genericRulePack, genericXmlRulePack,
    genericJsonRulePack]

/-- `RULE_PACK_BY_PROFILE.values()`. -/
def active : List RulePack :=
  [rulePack, fortiosRulePack, junosRulePack, aristaRulePack, genericRulePack, genericXmlRulePack,
    genericJsonRulePack]

/-- `RULE_PACK_BY_PROFILE.get`. -/
def rulePackByProfile (profileVersionId : String) : Option RulePack :=
  active.find? (·.profileVersionId == profileVersionId)

theorem registry_of_active {pack : RulePack} (h : pack ∈ active) : pack ∈ registry := by
  simp only [active, registry, List.mem_cons, List.not_mem_nil, or_false] at h ⊢
  tauto

theorem rules_no_colon : ∀ rule ∈ rules, ':' ∉ rule.ruleId.toList := by decide +kernel

theorem registry_rules {pack : RulePack} (h : pack ∈ registry) :
    pack.rules = baseRules ∨ pack.rules = rules := by
  simp only [registry, List.mem_cons, List.not_mem_nil, or_false] at h
  rcases h with rfl | rfl | rfl | rfl | rfl | rfl | rfl | rfl | rfl | rfl | rfl | rfl <;>
    first | exact Or.inl rfl | exact Or.inr rfl

/-- The active packs all have the same rules. -/
theorem mem_rules_of_active {profileVersionId : String} {rule : RuleDefinition}
    (h : rule ∈ ((rulePackByProfile profileVersionId).map (·.rules)).getD []) : rule ∈ rules := by
  cases hpack : rulePackByProfile profileVersionId with
  | none => simp [hpack] at h
  | some pack =>
    have hmem : pack ∈ active := List.mem_of_find?_eq_some hpack
    have hrules : pack.rules = rules := by
      simp only [active, List.mem_cons, List.not_mem_nil, or_false] at hmem
      rcases hmem with rfl | rfl | rfl | rfl | rfl | rfl | rfl <;> rfl
    rw [hpack, Option.map_some, Option.getD_some, hrules] at h
    exact h

/-- Every registered pack passes the validator. -/
theorem registry_validated : ∀ pack ∈ registry, rulePackOk pack = true := by
  decide +kernel

/-- No registered rule id has a colon. -/
theorem registry_no_colon {pack : RulePack} (h : pack ∈ registry) :
    ∀ rule ∈ pack.rules, ':' ∉ rule.ruleId.toList := by
  intro rule hrule
  refine rules_no_colon rule ?_
  rcases registry_rules h with heq | heq
  · rw [heq] at hrule
    exact List.mem_append_left _ hrule
  · rwa [heq] at hrule

end ConfigAuditor.Compliance.Rules
