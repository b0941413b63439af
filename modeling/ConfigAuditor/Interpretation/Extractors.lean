import ConfigAuditor.Library.IpAddress
import ConfigAuditor.Parsing.Models
import ConfigAuditor.KnowledgePacks.Model

/-!
# The extractors of the sealed mappings

`app.interpretation.extractors`: the typed value a sealed mapping reads from the
arguments of a statement, or the code of a diagnostic. Only the conversion of a
digit string can raise.
-/
namespace ConfigAuditor.Interpretation.Extractors

open Library SecurityModel Parsing

structure ExtractionOutcome where
  value : Option TypedValue
  diagnosticCode : Option String := none
  deriving DecidableEq

/-- `ExtractionOutcome(None, code)`. -/
def failed (code : String) : ExtractionOutcome := { value := none, diagnosticCode := some code }

def extracted (value : TypedValue) : ExtractionOutcome := { value := some value }

/-- A full match of `INTEGER_PATTERN`. -/
def isInteger (s : String) : Bool := !s.isEmpty && s.toList.all Text.isAsciiDigit

def isHostnameChar (c : Char) : Bool := Text.isAsciiAlnum c || c == '.' || c == '-'

/-- A full match of `HOSTNAME_PATTERN`. -/
def isHostname (s : String) : Bool :=
  s.length ≤ 253 && s.toList.head?.any Text.isAsciiAlnum && s.toList.getLast?.any Text.isAsciiAlnum &&
    s.toList.all isHostnameChar

def joined (arguments : List String) : PyValue := .str (Text.join " " arguments)

/-- `arguments[index].lower()`, the empty text past the end. -/
def lowerAt (arguments : List String) (index : Nat) : String := Text.lower (arguments.getD index "")

def presence (enabled : Bool) (arguments : List String) : ExtractionOutcome :=
  extracted { type := .boolean, value := .bool enabled, originalValue := joined arguments }

/-- `extract_presence_enabled`. -/
def extractPresenceEnabled (arguments : List String) : ExtractionOutcome := presence true arguments

/-- `extract_presence_disabled`. -/
def extractPresenceDisabled (arguments : List String) : ExtractionOutcome := presence false arguments

/-- `_extract_transport_protocol`. -/
def extractTransportProtocol (protocol : String) (arguments : List String) : ExtractionOutcome :=
  if arguments.length < 2 || lowerAt arguments 0 != "input" then failed "invalid_transport_input"
  else
    let protocols := (arguments.drop 1).map Text.lower
    if protocols == ["none"] then presence false arguments
    else if [["telnet"], ["ssh"], ["telnet", "ssh"], ["ssh", "telnet"]].contains protocols then
      -- `transport input` is an allow-list: a protocol it omits is off.
      presence (protocols.contains protocol) arguments
    else failed "unsupported_transport_input"

def durationOf (minutes seconds : Int) (original : PyValue) (unit : String) : ExtractionOutcome :=
  extracted
    { type := .duration, value := .int (minutes * 60 + seconds), unit := some "seconds",
      originalValue := original, originalUnit := some unit }

/-- `extract_timeout_minutes_seconds`. -/
def extractTimeoutMinutesSeconds (arguments : List String) : Except PyError ExtractionOutcome :=
  if (arguments.length != 1 && arguments.length != 2) || !arguments.all isInteger then
    return failed "invalid_exec_timeout"
  else do
    let minutes ← PyValue.intOfText (arguments.getD 0 "")
    let seconds ← if arguments.length = 2 then PyValue.intOfText (arguments.getD 1 "") else .ok 0
    if 35791 < minutes || 59 < seconds then return failed "invalid_exec_timeout"
    else return durationOf minutes seconds (joined arguments) "minutes_seconds"

/-- `extract_ssh_version`. -/
def extractSshVersion (arguments : List String) : ExtractionOutcome :=
  let version := arguments.getD 2 ""
  if arguments.length != 3 || lowerAt arguments 0 != "ssh" || lowerAt arguments 1 != "version" ||
      (version != "1" && version != "2") then failed "invalid_ssh_version"
  else extracted
    { type := .integer, value := .int (if version = "1" then 1 else 2),
      originalValue := .str version }

/-- `_extract_endpoint`. -/
def extractEndpoint (keyword diagnostic : String) (arguments : List String) : ExtractionOutcome :=
  if arguments.length != 2 || lowerAt arguments 0 != keyword then failed diagnostic
  else
    let original := Text.stripChars ['"'] (arguments.getD 1 "")
    match IpAddress.ofText? original with
    | some address =>
      extracted
        { type := .ipAddress, value := .str address.text, originalValue := .str original }
    | none =>
      if isHostname original then
        extracted
          { type := .string, value := .str (Text.lower original),
            originalValue := .str original }
      else failed diagnostic

def extractLoggingDestination := extractEndpoint "host" "invalid_logging_destination"
def extractNtpServer := extractEndpoint "server" "invalid_ntp_server"
def extractFortiosServer := extractEndpoint "server" "invalid_fortios_server"

/-- `extract_ntp_configured`. -/
def extractNtpConfigured (arguments : List String) : ExtractionOutcome :=
  let outcome := extractNtpServer arguments
  if outcome.value.isNone then outcome else extractPresenceEnabled arguments

/-- `extract_fortios_port_enabled`. -/
def extractFortiosPortEnabled (arguments : List String) : Except PyError ExtractionOutcome :=
  if arguments.length != 2 || !(["admin-ssh-port", "admin-telnet-port"] : List String).contains
      (lowerAt arguments 0) || !isInteger (arguments.getD 1 "") then
    return failed "invalid_fortios_port"
  else do
    let port ← PyValue.intOfText (arguments.getD 1 "")
    return presence (0 < port) arguments

def allowaccessTokens : List String :=
  ["http", "https", "ping", "snmp", "ssh", "telnet", "fgfm", "ftm", "none"]

/-- `_extract_fortios_allowaccess`. -/
def extractFortiosAllowaccess (protocol : String) (arguments : List String) : ExtractionOutcome :=
  if arguments.length < 2 || lowerAt arguments 0 != "allowaccess" then
    failed "invalid_fortios_allowaccess"
  else
    let tokens := (arguments.drop 1).map Text.lower
    if !tokens.all allowaccessTokens.contains then failed "invalid_fortios_allowaccess"
    else if tokens == ["none"] then presence false arguments
    else presence (tokens.contains protocol) arguments

/-- `extract_fortios_timeout`. -/
def extractFortiosTimeout (arguments : List String) : Except PyError ExtractionOutcome :=
  if arguments.length != 2 || lowerAt arguments 0 != "admintimeout" ||
      !isInteger (arguments.getD 1 "") then
    return failed "invalid_fortios_timeout"
  else do
    let minutes ← PyValue.intOfText (arguments.getD 1 "")
    if 35791 < minutes then return failed "invalid_fortios_timeout"
    else return durationOf minutes 0 (.str (arguments.getD 1 "")) "minutes"

/-- `extract_duration_minutes`. -/
def extractDurationMinutes (arguments : List String) : Except PyError ExtractionOutcome :=
  if arguments.length != 1 || !isInteger (arguments.getD 0 "") then
    return failed "invalid_idle_timeout"
  else do
    let minutes ← PyValue.intOfText (arguments.getD 0 "")
    if 86400 < minutes then return failed "invalid_idle_timeout"
    else return durationOf minutes 0 (.str (arguments.getD 0 "")) "minutes"

def isAclNameChar (c : Char) : Bool :=
  Text.isAsciiAlnum c || c == '_' || c == '.' || c == ':' || c == '-'

def isAclName (s : String) : Bool :=
  s.length ≤ 64 && s.toList.head?.any Text.isAsciiAlnum && s.toList.all isAclNameChar

/-- `extract_arista_service_acl`. -/
def extractAristaServiceAcl (arguments : List String) : ExtractionOutcome :=
  let lowered := arguments.map Text.lower
  let names := match lowered with
    | ["access-group", _, "in"] => some [arguments.getD 1 ""]
    | ["access-group", _, "vrf", _, "in"] => some [arguments.getD 1 "", arguments.getD 3 ""]
    | _ => none
  if names.any (·.all isAclName) then extractPresenceEnabled arguments
  else failed "invalid_arista_service_acl"

/-- `extract_cisco_access_class`. -/
def extractCiscoAccessClass (arguments : List String) : ExtractionOutcome :=
  if arguments.length != 2 || lowerAt arguments 1 != "in" || !isHostname (arguments.getD 0 "") then
    failed "invalid_access_class"
  else extractPresenceEnabled arguments

/-- `extract_ntp_key_id`. -/
def extractNtpKeyId (arguments : List String) : Except PyError ExtractionOutcome :=
  if arguments.length < 2 || !(["authentication-key", "trusted-key"] : List String).contains
      (lowerAt arguments 0) || !isInteger (arguments.getD 1 "") then
    return failed "invalid_ntp_key_id"
  else do
    let key ← PyValue.intOfText (arguments.getD 1 "")
    return extracted
      { type := .integer, value := .int key, originalValue := .str (arguments.getD 1 "") }

def trusthostKeywords : List String :=
  ["trusthost1", "trusthost2", "trusthost3", "trusthost4", "trusthost5", "trusthost6",
    "trusthost7", "trusthost8", "trusthost9", "trusthost10"]

/-- `extract_fortios_trusthost_network`; other settings are left without a diagnostic. -/
def extractFortiosTrusthostNetwork (arguments : List String) : ExtractionOutcome :=
  if arguments.isEmpty || !Text.startsWith (lowerAt arguments 0) "trusthost" then
    { value := none }
  else if arguments.length != 3 || !trusthostKeywords.contains (lowerAt arguments 0) then
    failed "invalid_fortios_trusthost"
  else match IpAddress.networkText? (arguments.getD 1 "") (arguments.getD 2 "") with
    | none => failed "invalid_fortios_trusthost"
    | some network =>
      extracted
        { type := .ipNetwork, value := .str network, originalValue := joined (arguments.drop 1),
          originalUnit := some "address_mask" }

/-- `extract_fortios_trusthost_restriction`. -/
def extractFortiosTrusthostRestriction (arguments : List String) : ExtractionOutcome :=
  let outcome := extractFortiosTrusthostNetwork arguments
  if outcome.value.isNone then outcome else extractPresenceEnabled arguments

def tlsVersions : List String := ["tlsv1-0", "tlsv1-1", "tlsv1-2", "tlsv1-3"]

/-- `extract_fortios_tls_minimum`; the ranks follow the order of `tlsVersions`. -/
def extractFortiosTlsMinimum (arguments : List String) : ExtractionOutcome :=
  let versions := (arguments.drop 1).map Text.lower
  if arguments.length < 2 || lowerAt arguments 0 != "admin-https-ssl-versions" ||
      !versions.all tlsVersions.contains then failed "invalid_fortios_tls_versions"
  else match tlsVersions.find? versions.contains with
    | some minimum =>
      extracted { type := .enum, value := .str minimum, originalValue := joined arguments }
    | none => failed "invalid_fortios_tls_versions"

/-- `EXTRACTORS[name]` on the arguments of a node. -/
def extractor (name : String) (arguments : List String) : Except PyError ExtractionOutcome :=
  match name with
  | "transport_telnet" => return extractTransportProtocol "telnet" arguments
  | "transport_ssh" => return extractTransportProtocol "ssh" arguments
  | "duration_minutes_seconds" => extractTimeoutMinutesSeconds arguments
  | "ssh_version" => return extractSshVersion arguments
  | "logging_destination" => return extractLoggingDestination arguments
  | "ntp_server" => return extractNtpServer arguments
  | "ntp_configured" => return extractNtpConfigured arguments
  | "fortios_server" => return extractFortiosServer arguments
  | "fortios_port_enabled" => extractFortiosPortEnabled arguments
  | "fortios_allowaccess_ssh" => return extractFortiosAllowaccess "ssh" arguments
  | "fortios_allowaccess_telnet" => return extractFortiosAllowaccess "telnet" arguments
  | "fortios_allowaccess_https" => return extractFortiosAllowaccess "https" arguments
  | "fortios_allowaccess_http" => return extractFortiosAllowaccess "http" arguments
  | "fortios_timeout" => extractFortiosTimeout arguments
  | "presence_enabled" => return extractPresenceEnabled arguments
  | "presence_disabled" => return extractPresenceDisabled arguments
  | "duration_minutes" => extractDurationMinutes arguments
  | "arista_service_acl" => return extractAristaServiceAcl arguments
  | "cisco_access_class" => return extractCiscoAccessClass arguments
  | "ntp_key_id" => extractNtpKeyId arguments
  | "fortios_trusthost_network" => return extractFortiosTrusthostNetwork arguments
  | "fortios_trusthost_restriction" => return extractFortiosTrusthostRestriction arguments
  | "fortios_tls_minimum" => return extractFortiosTlsMinimum arguments
  | _ => .error .keyError

end ConfigAuditor.Interpretation.Extractors
