import ConfigAuditor.Library.Dict
import ConfigAuditor.Parsing.Models
import ConfigAuditor.Training.Dsl

/-!
# Running a mapping definition

`matches`, `matches_xml`, `matches_json` and `extract`: which nodes a definition
matches, the values it captures there, and the value it extracts from them.
-/
namespace ConfigAuditor.Training.Matcher

open Library SecurityModel Dsl Parsing

abbrev Captures := List (String × PyValue)

/-- `_typed`. -/
def typed (value : PyValue) : CaptureType → Except PyError PyValue
  | .integer => if value.isBool then .error .valueError else return .int (← value.toInt)
  | .number => if value.isBool then .error .valueError else return .float (← value.toFloat)
  | .boolean => match value with
    | .bool b => .ok (.bool b)
    | .str "true" => .ok (.bool true)
    | .str "false" => .ok (.bool false)
    | _ => .error .valueError
  | .string | .ipAddress => if value.isStr then .ok value else .error .valueError

/-- The argument loop of `matches`, on the arguments that are left. -/
def matchArguments : List ArgumentPattern → List String → Captures → Option Captures
  | [], _, captures => some captures
  | pattern :: patterns, arguments, captures =>
    match pattern.operation, arguments with
    | .optional, value :: rest =>
      if some value = pattern.value then matchArguments patterns rest captures
      else matchArguments patterns arguments captures
    | .optional, [] => matchArguments patterns [] captures
    | _, [] => none
    | .literal, value :: rest =>
      if some value = pattern.value then matchArguments patterns rest captures else none
    | .oneOf, value :: rest =>
      if pattern.options.contains value then matchArguments patterns rest captures else none
    | .capture, value :: rest =>
      match typed (.str value) (pattern.valueType.getD .string) with
      | .ok captured =>
        matchArguments patterns rest (Dict.set captures (pattern.name.getD "") captured)
      | .error _ => none

/-- The conditions of `matches` before the arguments are read. -/
def matchesContext (m : StructuralMatch) (node : ValidationNode) : Bool :=
  (match m.operation with
    | .commandEquality => node.command == m.command
    | .commandPrefix => Text.startsWith node.command m.command
    | _ => false) &&
  (m.negated.all (node.negated == ·)) &&
  (m.parentCommand.all fun command => node.parentCommand == some command) &&
  m.ancestorCommands.all node.ancestorCommands.contains &&
  (m.scopeType.all fun scope => node.scopeType == some scope.text) &&
  (m.minimumArguments.all fun least => least ≤ (node.arguments.length : Int)) &&
  (m.maximumArguments.all fun most => (node.arguments.length : Int) ≤ most)

/-- `matches`: the captures of a match. -/
def matchNode (definition : MappingDefinition) (node : ValidationNode) : Option Captures :=
  if matchesContext definition.structuralMatch node then
    matchArguments definition.structuralMatch.arguments node.arguments []
  else none

/-- `_xml_name`: the namespace and the local name of a tag. -/
def xmlName (tag : String) : Option String × String :=
  match tag.toList with
  | '\x7b' :: rest => match Text.splitFirst '\x7d' rest with
    | some (namespaceUri, localName) =>
      (some (String.ofList namespaceUri), String.ofList localName)
    | none => (none, tag)
  | _ => (none, tag)

/-- A path step `tag[occurrence]` read back. -/
def readStep (actual : String) : Except PyError (String × Int) :=
  match Text.splitLast '[' actual.toList with
  | none => .error .indexError
  | some (tag, index) => do
    let occurrence ← PyValue.intOfText (String.ofList index.dropLast)
    return (String.ofList tag, occurrence)

def stepMatches (segment : XmlPathSegment) (step : String × Int) : Bool :=
  let name := xmlName step.1
  name.2 == segment.localName && segment.namespaceUri.all (name.1 == some ·) &&
    (!segment.exact || step.2 == segment.index)

/-- The path loop of `matches_xml`; it stops at the first step that differs. -/
def pathMatches : List String → List XmlPathSegment → Except PyError Bool
  | actual :: path, segment :: segments => do
    let step ← readStep actual
    if stepMatches segment step then pathMatches path segments else return false
  | _, _ => return true

/-- What an XML path match reads at a node. -/
def xmlRaw (source : XmlPathMatch) (node : XmlNode) : Option String :=
  match source.source with
  | .text => node.text
  | .attributeValue => Dict.get? (Dict.ofList node.attributes) (source.attributeName.getD "")
  | .presence => some "True"

/-- The captures of a text read at a node; `none` where a capture has the wrong type. -/
def xmlCaptures (source : XmlPathMatch) (raw : String) : Option Captures :=
  if present source.capture then
    match typed (.str raw) (source.valueType.getD .string) with
    | .ok captured => some [(source.capture.getD "", captured)]
    | .error _ => none
  else some []

/-- One node in `matches_xml`. -/
def matchXmlNode (source : XmlPathMatch) (node : XmlNode) : Except PyError (Option Captures) :=
  if node.path.length != source.path.length then return none
  else do
    let found ← pathMatches node.path source.path
    return if found then (xmlRaw source node).bind (xmlCaptures source) else none

/-- The matching nodes with their captures, in the order of the tree. -/
def collectMatches {ν : Type} (f : ν → Except PyError (Option Captures)) :
    List ν → Except PyError (List (ν × Captures))
  | [] => return []
  | node :: nodes => do
    let captures ← f node
    let rest ← collectMatches f nodes
    return (captures.map fun c => (node, c)).toList ++ rest

theorem mem_collectMatches {ν : Type} {f : ν → Except PyError (Option Captures)} {nodes : List ν}
    {found : List (ν × Captures)} (h : collectMatches f nodes = .ok found) {node : ν}
    {captures : Captures} :
    (node, captures) ∈ found ↔ node ∈ nodes ∧ f node = .ok (some captures) := by
  induction nodes generalizing found with
  | nil =>
    obtain rfl := except_pure_eq_ok.mp h
    simp
  | cons first rest ih =>
    simp only [collectMatches, except_bind_eq_ok, except_pure_eq_ok] at h
    obtain ⟨result, hfirst, others, hrest, rfl⟩ := h
    simp only [List.mem_append, Option.mem_toList, Option.map_eq_some_iff, ih hrest,
      List.mem_cons, Prod.mk.injEq]
    constructor
    · rintro (⟨c, rfl, rfl, rfl⟩ | ⟨hmem, hf⟩)
      · exact ⟨Or.inl rfl, hfirst⟩
      · exact ⟨Or.inr hmem, hf⟩
    · rintro ⟨rfl | hmem, hf⟩
      · rw [hfirst] at hf
        exact Or.inl ⟨captures, Except.ok.inj hf, rfl, rfl⟩
      · exact Or.inr ⟨hmem, hf⟩

/-- `matches_xml`. -/
def matchesXml (definition : MappingDefinition) (ir : XmlStructuralIR) :
    Except PyError (List (XmlNode × Captures)) :=
  match definition.structuralMatch.operation, definition.structuralMatch.xmlPath with
  | .xmlPath, some source => collectMatches (matchXmlNode source) ir.nodes
  | _, _ => return []

/-- The nodes below `current` along a path of local names. -/
def descend (ir : XmlStructuralIR) : List XmlNode → List String → List XmlNode
  | current, [] => current
  | current, segment :: path =>
    descend ir (current.flatMap fun item => ir.nodes.filter fun child =>
      child.parentId == some item.nodeId && (xmlName child.tag).2 == segment) path

/-- `xml_match_has_unsupported_qualifier`. -/
def hasUnsupportedQualifier (definition : MappingDefinition) (ir : XmlStructuralIR)
    (node : XmlNode) : Bool :=
  match node.parentId with
  | none => false
  | some parentId =>
    let frontier := (ir.nodes.find? (·.nodeId == parentId)).toList
    definition.scopeResolution.xmlUnsupportedQualifierPaths.any fun path =>
      !(descend ir frontier path).isEmpty

def expectedStep (segment : JsonPathSegment) : Option JsonStep :=
  match segment.key with
  | some key => some (.key key)
  | none => segment.index.map .index

/-- Errors of a JSON capture that count as no match; the others propagate. -/
def skipsMatch : PyError → Bool
  | .typeError => true
  | .valueError => true
  | _ => false

def jsonCaptures (source : JsonPathMatch) (raw : PyValue) : Except PyError (Option Captures) :=
  if present source.capture then
    match typed raw (source.valueType.getD .string) with
    | .ok captured => return some [(source.capture.getD "", captured)]
    | .error e => if skipsMatch e then return none else .error e
  else return some []

/-- One node in `matches_json`. -/
def matchJsonNode (source : JsonPathMatch) (node : JsonNode) : Except PyError (Option Captures) :=
  if source.path.map expectedStep != node.path.map some then return none
  else match source.source with
    | .presence => jsonCaptures source (.bool true)
    | .value => if node.value.isContainer then return none else jsonCaptures source node.value

/-- `matches_json`. -/
def matchesJson (definition : MappingDefinition) (ir : JsonStructuralIR) :
    Except PyError (List (JsonNode × Captures)) :=
  match definition.structuralMatch.operation, definition.structuralMatch.jsonPath with
  | .jsonPath, some source => collectMatches (matchJsonNode source) ir.nodes
  | _, _ => return []

/-- `captures[name]`. -/
def captured (captures : Captures) (name : Option String) : Except PyError PyValue :=
  match Dict.get? captures (name.getD "") with
  | some value => .ok value
  | none => .error .keyError

/-- The factors of the parts of a duration: minutes and seconds, or all seconds. -/
def multipliers (parts : List String) : List Nat :=
  if parts.length = 2 then [60, 1] else List.replicate parts.length 1

def extractRaw (rule : ValueExtraction) (captures : Captures) : Except PyError PyValue :=
  match rule.operation with
  | .constant => return rule.value
  | .booleanFromPresence => return .bool true
  | .capture => captured captures rule.capture
  | .integer => do return .int (← (← captured captures rule.capture).toInt)
  | .number => do return .float (← (← captured captures rule.capture).toFloat)
  | .enumMapping => do
    let key ← (← captured captures rule.capture).text
    match Dict.get? rule.enumMap key with
    | some value => return .str value
    | none => .error .keyError
  | .list => do return .list (← rule.values.mapM fun name => captured captures (some name))
  | .durationFromParts => do
    let parts ← (rule.parts.zip (multipliers rule.parts)).mapM fun part => do
      let x ← (← captured captures (some part.1)).toFloat
      return PyFloat.mul x (.finite part.2)
    return if parts.isEmpty then .int 0 else .float (PyFloat.sum parts)

def convert (conversion : UnitConversion) (value : PyValue) : Except PyError PyValue :=
  match conversion with
  | .none => return value
  | .minutesToSeconds => value.times 60
  | .hoursToSeconds => value.times 3600
  | .millisecondsToSeconds => value.dividedBy 1000

/-- `extract`. -/
def extract (definition : MappingDefinition) (captures : Captures) : Except PyError PyValue := do
  let value ← extractRaw definition.valueExtraction captures
  convert definition.unitConversion value

end ConfigAuditor.Training.Matcher
