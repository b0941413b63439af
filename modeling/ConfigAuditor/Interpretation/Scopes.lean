import ConfigAuditor.Parsing.Models
import ConfigAuditor.Interpretation.Extractors

/-!
# Scope resolvers

`app.interpretation.scopes`: the scope a statement configures, from its parents,
and the container node that establishes it.
-/
namespace ConfigAuditor.Interpretation.Scopes

open Library SecurityModel Parsing Extractors

structure ScopeOutcome where
  scope : Option ScopeRef
  contextNode : Option ConfigNode := none
  diagnosticCode : Option String := none
  deriving DecidableEq

def unresolvedScope (context : Option ConfigNode) (code : String) : ScopeOutcome :=
  { scope := none, contextNode := context, diagnosticCode := some code }

/-- `_parent`. -/
def parentOf (node : ConfigNode) (ir : StructuralIR) : Option ConfigNode :=
  node.parentId.bind ir.node?

def deviceScope : ScopeRef := { type := "device", key := "device", attributes := [] }

def vtyRangeScope (start finish : Int) : ScopeRef :=
  { type := "vty_range", key := "vty:" ++ toString start ++ "-" ++ toString finish,
    attributes := [("start", .int start), ("end", .int finish)] }

/-- The shape of a `line vty` statement. -/
def isVtyLine (node : ConfigNode) : Bool :=
  node.command == some "line" && (node.arguments.length == 2 || node.arguments.length == 3) &&
    lowerAt node.arguments 0 == "vty" && (node.arguments.drop 1).all isInteger

/-- `resolve_vty_range`. -/
def resolveVtyRange (node : ConfigNode) (ir : StructuralIR) : Except PyError ScopeOutcome :=
  match parentOf node ir with
  | none => return unresolvedScope none "missing_vty_context"
  | some parent =>
    if !isVtyLine parent then return unresolvedScope (some parent) "unsupported_vty_scope"
    else do
      let start ← PyValue.intOfText (parent.arguments.getD 1 "")
      let finish ← if parent.arguments.length = 3 then PyValue.intOfText (parent.arguments.getD 2 "")
        else .ok start
      if finish < start || 999 < finish then
        return unresolvedScope (some parent) "unsupported_vty_scope"
      else return { scope := some (vtyRangeScope start finish), contextNode := some parent }

def namedScope (scopeType name : String) : ScopeRef :=
  { type := scopeType, key := scopeType ++ ":" ++ name, attributes := [("name", .str name)] }

/-- A named entry of a FortiOS table: `resolve_fortios_interface` and
`resolve_fortios_administrator`. -/
def resolveFortiosEntry (table scopeType code : String) (node : ConfigNode) (ir : StructuralIR) :
    ScopeOutcome :=
  let edit := parentOf node ir
  match edit, edit.bind (parentOf · ir) with
  | some entry, some config =>
    if entry.command != some "edit" || entry.arguments.length != 1 ||
        config.command != some "config" || config.arguments.map Text.lower != ["system", table] then
      unresolvedScope edit code
    else
      let name := Text.stripChars ['"'] (entry.arguments.getD 0 "")
      if name.isEmpty then unresolvedScope edit code
      else { scope := some (namedScope scopeType name), contextNode := edit }
  | _, _ => unresolvedScope edit code

def resolveFortiosInterface :=
  resolveFortiosEntry "interface" "interface" "unsupported_interface_scope"

def resolveFortiosAdministrator :=
  resolveFortiosEntry "admin" "administrator" "unsupported_administrator_scope"

def managementSshScope : ScopeRef :=
  { type := "management_service", key := "management:ssh",
    attributes := [("service", .str "ssh")] }

/-- `resolve_arista_management_service`. -/
def resolveAristaManagementService (node : ConfigNode) (ir : StructuralIR) : ScopeOutcome :=
  let parent := parentOf node ir
  if parent.any fun p => p.command == some "management" && p.arguments.map Text.lower == ["ssh"] then
    { scope := some managementSshScope, contextNode := parent }
  else unresolvedScope parent "unsupported_management_service_scope"

/-- `SCOPE_RESOLVERS[name](node, ir)`. -/
def resolveScope (name : String) (node : ConfigNode) (ir : StructuralIR) :
    Except PyError ScopeOutcome :=
  match name with
  | "device" => return { scope := some deviceScope }
  | "vty_range" => resolveVtyRange node ir
  | "interface" => return resolveFortiosInterface node ir
  | "administrator" => return resolveFortiosAdministrator node ir
  | "arista_management_service" => return resolveAristaManagementService node ir
  | _ => .error .keyError

end ConfigAuditor.Interpretation.Scopes
