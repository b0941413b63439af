import ConfigAuditor.Interpretation.UnresolvedBlocks
import ConfigAuditor.Library.Splitting

/-!
# Impact analysis on persisted blocks

`_block_matches` of `app.training.service` decides from the occurrence that
`_persist_unresolved_blocks` stored whether a definition matches a node. The occurrence
keeps less than the node, and is matched by rules of its own.
-/
namespace ConfigAuditor.Training.ImpactAnalysis

open Library SecurityModel Parsing Interpretation.Mapping Interpretation.UnresolvedBlocks
open Training.Dsl Training.Matcher

def optionalText : Option String → PyValue
  | some s => .str s
  | none => .none

/-- `nodes.get(node.parent_id) if node.parent_id else None`; of equal ids the last node counts. -/
def persistedParent (ir : StructuralIR) (node : ConfigNode) : Option ConfigNode :=
  node.parentId.bind fun id => ir.nodes.reverse.find? (·.nodeId == id)

/-- The occurrence of a command-line node. -/
def cliOccurrence (ir : StructuralIR) (node : ConfigNode) : List (String × PyValue) := [
  ("artifact_id", .str node.artifactId.str),
  ("command", optionalText node.command),
  ("arguments", .list (node.arguments.map .str)),
  ("parent_command", optionalText ((persistedParent ir node).bind (·.command))),
  ("ancestor_commands", .list (node.contextPath.map .str)),
  ("negated", .bool node.negated),
  ("order", .int node.order)]

/-- The occurrence of an XML node. -/
def xmlOccurrence (node : XmlNode) : List (String × PyValue) := [
  ("artifact_id", .str node.source.artifactId.str),
  ("xml_path", .list (node.path.map .str)),
  ("tag", .str node.tag),
  ("attributes", .dict ((Dict.ofList node.attributes).map fun p => (p.1, .str p.2))),
  ("text", optionalText node.text),
  ("order", .int node.order)]

/-- The occurrence of a JSON node. -/
def jsonOccurrence (node : JsonNode) : List (String × PyValue) := [
  ("artifact_id", .str node.source.artifactId.str),
  ("json_path", .list (node.path.map stepValue)),
  ("value", node.value),
  ("order", .int node.order)]

/-- A list of texts. -/
def textList : PyValue → Option (List String)
  | .list items => items.mapM (·.str?)
  | _ => none

/-- A text or `None`. -/
def optionalText? : PyValue → Option (Option String)
  | .none => some none
  | .str s => some (some s)
  | _ => none

def boolean? : PyValue → Option Bool
  | .bool b => some b
  | _ => none

/-- `ValidationNode.model_validate` of the values an occurrence gives, `none` where it raises. -/
def occurrenceNode (occurrence : List (String × PyValue)) : Option ValidationNode := do
  let get (key : String) (default : PyValue) := (Dict.get? occurrence key).getD default
  let node : ValidationNode := {
    command := ← (get "command" (.str "unknown")).str?
    arguments := ← textList (get "arguments" (.list []))
    parentCommand := ← optionalText? (get "parent_command" .none)
    ancestorCommands := ← textList (get "ancestor_commands" (.list []))
    scopeType := ← optionalText? (get "scope_type" .none)
    negated := ← boolean? (get "negated" (.bool false)) }
  if node.bounded then some node else none

/-- `text.rsplit("[", 1)[0].split("}")[-1]`. -/
def normalizedStep (text : String) : String :=
  let tag := match Text.splitLast '[' text.toList with
    | some (tag, _) => tag
    | none => text.toList
  String.ofList ((Text.splitAll '\x7d' tag).getLastD [])

/-- `item.key if item.key is not None else item.index`. -/
def expectedValue (segment : JsonPathSegment) : PyValue :=
  match segment.key, segment.index with
  | some key, _ => .str key
  | none, some index => .int index
  | none, none => .none

/-- `_block_matches` on the occurrence of a block. -/
def blockMatches (definition : MappingDefinition) (occurrence : List (String × PyValue)) : Bool :=
  let m := definition.structuralMatch
  match m.operation with
  | .xmlPath => match Dict.get? occurrence "xml_path", m.xmlPath with
    | some (.list actual), some expected =>
      actual.length == expected.path.length &&
        actual.map (fun item => item.text.toOption.map normalizedStep) ==
          expected.path.map fun segment => some segment.localName
    | _, _ => false
  | .jsonPath => match Dict.get? occurrence "json_path", m.jsonPath with
    | some (.list actual), some expected => PyValue.eqList actual (expected.path.map expectedValue)
    | _, _ => false
  | _ => match occurrenceNode occurrence with
    | some node => (matchNode definition node).isSome
    | none => false

/-- `matches` on `_training_validation_node`. -/
def interpreterMatchesCli (definition : MappingDefinition) (ir : StructuralIR) (node : ConfigNode) :
    Bool :=
  match trainingValidationNode node ir definition.scopeResolution.strategy.text with
  | .ok projected => (matchNode definition projected).isSome
  | .error _ => false

/-- One node in `matches_xml`. -/
def interpreterMatchesXml (definition : MappingDefinition) (node : XmlNode) : Bool :=
  match definition.structuralMatch.operation, definition.structuralMatch.xmlPath with
  | .xmlPath, some source => match matchXmlNode source node with
    | .ok captures => captures.isSome
    | .error _ => false
  | _, _ => false

/-- One node in `matches_json`. -/
def interpreterMatchesJson (definition : MappingDefinition) (node : JsonNode) : Bool :=
  match definition.structuralMatch.operation, definition.structuralMatch.jsonPath with
  | .jsonPath, some source => match matchJsonNode source node with
    | .ok captures => captures.isSome
    | .error _ => false
  | _, _ => false

end ConfigAuditor.Training.ImpactAnalysis
