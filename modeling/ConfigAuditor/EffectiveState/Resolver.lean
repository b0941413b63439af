import Mathlib.Data.Prod.Lex
import ConfigAuditor.Library.Intervals
import ConfigAuditor.EffectiveState.Model

/-!
# Deterministic resolution of persisted facts

The resolver of `app.effective_state.resolver`: facts are classified, grouped by
field, and resolved per scope. VTY ranges of a scalar field are first cut into
cells that no fact's range ends in, so one cell has one set of applicable facts.
-/
namespace ConfigAuditor.EffectiveState.Resolver

open Library SecurityModel Policy Model

structure ClassifiedFact where
  fact : SecurityFact
  scope : ScopeRef
  value : TypedValue
  operation : FactOperation
  artifactId : UUID
  sourceLine : Nat
  deriving DecidableEq

def maxTraceEntries : Nat := 128

def traceEvent (event : String) (values : List (String × PyValue)) : PyValue :=
  .dict (("event", .str event) :: values)

def bounded (trace : List PyValue) : List PyValue := trace.take maxTraceEntries

def factIdText (item : ClassifiedFact) : PyValue := .str item.fact.factId.str

/-- The dependencies of a stored fact that are UUIDs. -/
def knownDependencies (fact : SecurityFact) : List UUID := (fact.dependencies.filterMap id).dedup

/-- The dependency graph; a later fact replaces an earlier one with its identity. -/
def dependencyGraph (facts : List SecurityFact) : List (UUID × List UUID) :=
  Dict.ofList (facts.map fun fact => (fact.factId, knownDependencies fact))

/-- Depth-first traversal from one root. Each step adds to `seen`, which stays within
128 entries, so the fuel is never what ends the loop. -/
def traversalBlocked (graph : List (UUID × List UUID)) (root : UUID) :
    Nat → List UUID → List UUID → Bool
  | 0, _, _ => true
  | _ + 1, _, [] => false
  | fuel + 1, seen, current :: stack =>
    if seen.contains current || 128 ≤ seen.length then true
    else
      let dependencies := (Dict.get? graph current).getD []
      dependencies.contains root || traversalBlocked graph root fuel (current :: seen)
        ((dependencies.filter fun d => (Dict.get? graph d).isSome).reverse ++ stack)

/-- `_blocked_dependency_ids`: missing, malformed or cyclic references. -/
def blockedDependencyIds (facts : List SecurityFact) : List UUID :=
  let ids := facts.map (·.factId)
  let graph := dependencyGraph facts
  (facts.filter fun fact => fact.dependencies.any fun d => match d with
      | some dependency => !ids.contains dependency
      | none => true).map (·.factId) ++
    (graph.map (·.1)).filter fun root => traversalBlocked graph root 130 [] [root]

def malformedProvenance : Error :=
  .effectiveStateValidation "SecurityFact ordering provenance is malformed"

/-- The source position of one evidence reference. -/
def refPosition (reference : EvidenceRef) : Except Error Nat :=
  match reference.startLine, reference.structuredOrder with
  | some line, some order =>
    if 1 ≤ line then .ok line else if 1 ≤ order then .ok order else .error malformedProvenance
  | some line, none => if 1 ≤ line then .ok line else .error malformedProvenance
  | none, some order => if 1 ≤ order then .ok order else .error malformedProvenance
  | none, none => .error malformedProvenance

/-- The operation of a fact: the caller's, else the table's. -/
def factOperation (fact : SecurityFact) (persisted : Option FactOperation) :
    Except Error FactOperation :=
  match persisted with
  | some operation => .ok operation
  | none => do
    let policy ← getMappingOperationPolicy fact.knowledgePackVersionId fact.mappingVersionId
      fact.fieldId
    return policy.operation

/-- `_classify`. -/
def classify (fact : SecurityFact) (persisted : Option FactOperation) :
    Except Error ClassifiedFact := do
  let scope ← scopeFromDict fact.scope
  let operation ← factOperation fact persisted
  match fact.evidenceRefs with
  | [] => .error (.effectiveStateValidation "SecurityFact ordering provenance is missing")
  | first :: rest =>
    let position ← refPosition first
    let positions ← rest.mapM refPosition
    raiseIf (rest.any (·.artifactId != first.artifactId)) malformedProvenance
    raiseIf (operation == .reset && fact.value.type != .null)
      (.effectiveStateValidation "SecurityFact reset value is malformed")
    raiseIf (operation == .remove && fact.value.type == .null)
      (.effectiveStateValidation "SecurityFact removal value is malformed")
    return {
      fact, scope, value := fact.value, operation, artifactId := first.artifactId,
      sourceLine := positions.foldl min position }

/-- `_value_key`. -/
def valueKey (value : TypedValue) : Except Error String := value.toDict.dumps

def operationKeys (facts : List ClassifiedFact) : Except Error (List (FactOperation × String)) :=
  facts.mapM fun item => do
    let key ← valueKey item.value
    return (item.operation, key)

def byIdentity (facts : List ClassifiedFact) : List ClassifiedFact :=
  sortedBy (fun item => item.fact.factId.int) facts

def bySource (facts : List ClassifiedFact) : List ClassifiedFact :=
  sortedBy (fun item => toLex (item.sourceLine, item.fact.factId.int)) facts

/-- `_ordered_winner`: the winning fact and whether the facts conflict. -/
def orderedWinner (facts : List ClassifiedFact) : Except Error (ClassifiedFact × Bool) := do
  if 1 < (facts.map (·.artifactId)).dedup.length then
    let operations ← operationKeys facts
    match byIdentity facts with
    | [] => .error (.python .indexError)
    | winner :: _ => return (winner, operations.dedup.length != 1)
  else
    match (bySource facts).getLast? with
    | none => .error (.python .indexError)
    | some winner =>
      let final := (bySource facts).filter (·.sourceLine == winner.sourceLine)
      let operations ← operationKeys final
      return (winner, 1 < operations.dedup.length)

section Resolution

variable (uuid5 : UUID → String → UUID) (auditId deviceId : UUID) (fieldId : String)

def sourceIds (facts : List ClassifiedFact) : List UUID :=
  sortedBy (·.int) (facts.map (·.fact.factId)).dedup

/-- `_unknown`. -/
def unknownState (scope : ScopeRef) (ids : List UUID) (trace : List PyValue)
    (reason : UnresolvedReason) (conflict : Bool) : Except Error EffectiveStateDraft :=
  makeEffectiveStateDraft uuid5
    { effectiveStateId := UUID.ofNat 0, auditId, deviceId, fieldId, scope, effectiveValue := none,
      resolutionStatus := if conflict then .conflicting else .unknown, sourceFactIds := ids,
      resolutionTrace := bounded trace,
      unresolvedReason := some (if conflict then .conflictingEvidence else reason) }

def inputTrace (facts : List ClassifiedFact) : List PyValue :=
  facts.map fun item =>
    traceEvent "input_fact" [("fact_id", factIdText item), ("scope_key", .str item.scope.key)]

/-- `_resolve_scalar_scope`. -/
def resolveScalarScope (scope : ScopeRef) (facts : List ClassifiedFact) :
    Except Error EffectiveStateDraft := do
  let trace := inputTrace facts
  let (winner, conflict) ← orderedWinner facts
  if conflict then
    unknownState uuid5 auditId deviceId fieldId scope (sourceIds facts)
      (trace ++ [traceEvent "conflict_detected" []]) .conflictingEvidence true
  else
    match winner.operation with
    | .reset =>
      unknownState uuid5 auditId deviceId fieldId scope (sourceIds facts)
        (trace ++ [traceEvent "default_missing" [("fact_id", factIdText winner)]])
        .unresolvedDefault false
    | .remove =>
      unknownState uuid5 auditId deviceId fieldId scope (sourceIds facts)
        (trace ++ [traceEvent "unresolved" []]) .unknownSemantics false
    | .assign =>
      let winnerKey ← valueKey winner.value
      let keyed ← facts.mapM fun item => do
        let key ← valueKey item.value
        return (item, key)
      let equivalent := (keyed.filter (·.2 == winnerKey)).map (·.1)
      let collapsed := if 1 < equivalent.length then
        [traceEvent "duplicate_collapsed" [("fact_ids", .list (equivalent.map factIdText))]] else []
      makeEffectiveStateDraft uuid5
        { effectiveStateId := UUID.ofNat 0, auditId, deviceId, fieldId, scope,
          effectiveValue := some winner.value, resolutionStatus := .resolved,
          sourceFactIds := sourceIds facts,
          resolutionTrace := bounded (trace ++ collapsed ++
            [traceEvent "explicit_selected" [("fact_id", factIdText winner)]]),
          precedenceApplied := if 1 < facts.length then
            [.dict [("rule", .str "same_artifact_source_order"),
              ("winner_fact_id", factIdText winner)]] else [] }

/-- `_vty_partitions`. -/
def vtyPartitions (facts : List ClassifiedFact) :
    Except Error (List (ScopeRef × List ClassifiedFact)) := do
  let ranges ← facts.mapM fun item => do
    let bounds ← vtyBounds item.scope
    return (item, bounds)
  return (Intervals.partition (fun r => r.2.1) (fun r => r.2.2) ranges).map fun cell =>
    (vtyScope cell.1.1 cell.1.2, cell.2.map (·.1))

def scopeKeyOf (scope : ScopeRef) : String ×ₗ String := toLex (scope.type, scope.key)

/-- `_resolve_scalar_field`. -/
def resolveScalarField (facts : List ClassifiedFact) : Except Error (List EffectiveStateDraft) :=
  match facts with
  | [] => .ok []
  | first :: _ =>
    if first.scope.type ≠ "vty_range" then
      let sorted := sortedBy (fun item : ClassifiedFact =>
        toLex (scopeKeyOf item.scope, item.fact.factId.int)) facts
      (groupRuns (fun item => scopeKeyOf item.scope) sorted).mapM fun items =>
        match items with
        | [] => .error (.python .indexError)
        | head :: _ => resolveScalarScope uuid5 auditId deviceId fieldId head.scope items
    else do
      let partitions ← vtyPartitions facts
      partitions.mapM fun (scope, applicable) =>
        resolveScalarScope uuid5 auditId deviceId fieldId scope applicable

structure CollectionState where
  values : List TypedValue
  trace : List PyValue
  conflict : Bool

/-- One member of a collection: added, removed or in conflict. -/
def memberStep (state : CollectionState) (members : List ClassifiedFact) :
    Except Error CollectionState := do
  let (winner, memberConflict) ← orderedWinner members
  if memberConflict then return { state with conflict := true }
  else
    match winner.operation with
    | .assign =>
      return {
        state with
        values := state.values ++ [winner.value]
        trace := state.trace ++
          [traceEvent "collection_member_added" [("fact_id", factIdText winner)]] }
    | .remove =>
      return {
        state with
        trace := state.trace ++
          [traceEvent "collection_member_removed" [("fact_id", factIdText winner)]] }
    | .reset => return { state with conflict := true }

/-- The facts of one scope of a repeatable field, each with its value key. -/
def resolveCollection (items : List (String × ClassifiedFact)) :
    Except Error EffectiveStateDraft := do
  match items with
  | [] => .error (.python .indexError)
  | (_, head) :: _ =>
    let scope := head.scope
    let facts := items.map (·.2)
    let members := items.foldl (fun dict p => Dict.append dict p.1 p.2) []
    let ordered := sortedBy (·.1) members
    let trace := facts.map fun item =>
      traceEvent "input_fact" [("fact_id", factIdText item), ("scope_key", .str scope.key)]
    let state ← ordered.foldlM (fun state p => memberStep state p.2) ⟨[], trace, false⟩
    if state.conflict then
      unknownState uuid5 auditId deviceId fieldId scope (sourceIds facts)
        (state.trace ++ [traceEvent "conflict_detected" []]) .conflictingEvidence true
    else
      makeEffectiveStateDraft uuid5
        { effectiveStateId := UUID.ofNat 0, auditId, deviceId, fieldId, scope,
          effectiveValue := some
            { type := .list, value := .list (state.values.map (·.toDict)) },
          resolutionStatus := .resolved, sourceFactIds := sourceIds facts,
          resolutionTrace := bounded state.trace }

/-- `_resolve_repeatable_field`. -/
def resolveRepeatableField (facts : List ClassifiedFact) :
    Except Error (List EffectiveStateDraft) := do
  let keyed ← facts.mapM fun item => do
    let key ← valueKey item.value
    return (key, item)
  let sorted := sortedBy (fun p : String × ClassifiedFact =>
    toLex (scopeKeyOf p.2.scope, p.1)) keyed
  (groupRuns (fun p : String × ClassifiedFact => scopeKeyOf p.2.scope) sorted).mapM
    (resolveCollection uuid5 auditId deviceId fieldId)

/-- The facts of one field whose dependencies are not available. -/
def resolveBlocked (blocked : List ClassifiedFact) : Except Error (List EffectiveStateDraft) :=
  let scopes := Dict.ofList (blocked.map fun item => (item.scope.key, item.scope))
  let trace := blocked.map fun item =>
    traceEvent "dependency_missing" [("fact_id", factIdText item)]
  scopes.mapM fun entry =>
    unknownState uuid5 auditId deviceId fieldId entry.2 (sourceIds blocked) trace
      .missingEvidence false

end Resolution

section Audit

variable (uuid5 : UUID → String → UUID) (auditId deviceId : UUID)

/-- The facts of one field. -/
def resolveField (blockedIds : List UUID) (facts : List ClassifiedFact) :
    Except Error (List EffectiveStateDraft) :=
  match facts with
  | [] => .ok []
  | first :: _ => do
    let fieldId := first.fact.fieldId
    let policy ← getFieldPolicy fieldId
    let blocked := facts.filter fun item => blockedIds.contains item.fact.factId
    if !blocked.isEmpty then resolveBlocked uuid5 auditId deviceId fieldId blocked
    else match policy.cardinality with
      | .scalar => resolveScalarField uuid5 auditId deviceId fieldId facts
      | .repeatable => resolveRepeatableField uuid5 auditId deviceId fieldId facts

def resolverKey (item : ClassifiedFact) : String ×ₗ (String ×ₗ String) ×ₗ Nat :=
  toLex (item.fact.fieldId, toLex (scopeKeyOf item.scope, item.fact.factId.int))

def draftKey (draft : EffectiveStateDraft) : String ×ₗ (String ×ₗ String) :=
  toLex (draft.fieldId, scopeKeyOf draft.scope)

/-- `classified`: every fact with its scope, value, operation and source position. -/
def classifyFacts (facts : List SecurityFact) (operations : UUID → Option FactOperation) :
    Except Error (List ClassifiedFact) :=
  facts.mapM fun fact => classify fact (operations fact.factId)

/-- `resolve_security_facts`. -/
def resolveSecurityFacts (facts : List SecurityFact) (operations : UUID → Option FactOperation) :
    Except Error (List EffectiveStateDraft) := do
  let classified ← classifyFacts facts operations
  let fields := groupRuns (fun item : ClassifiedFact => item.fact.fieldId)
    (sortedBy resolverKey classified)
  let drafts ← fields.mapM (resolveField uuid5 auditId deviceId (blockedDependencyIds facts))
  return sortedBy draftKey drafts.flatten

end Audit

end ConfigAuditor.EffectiveState.Resolver
