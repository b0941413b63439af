import ConfigAuditor.EffectiveState.ScopeIndependence
import ConfigAuditor.EffectiveState.Spelling

/-!
# Facts under another spelling

Another spelling of the facts is classified, grouped and cut alike: the resolver meets the
same groups with the same identities, artifacts and positions, and only the keys differ.
-/
namespace ConfigAuditor.EffectiveState.Respelling

open Library SecurityModel Policy Model Resolver VtyPartition Resolved Groups OrderIndependence
  ScopeTypes ScopeIndependence Winner Spelling

/-- The facts with other original values and units. -/
def respell (originals : SecurityFact → Original) (fact : SecurityFact) : SecurityFact :=
  { fact with value := spell (originals fact) fact.value }

def respellItem (originals : SecurityFact → Original) (item : ClassifiedFact) : ClassifiedFact :=
  { item with
    fact := respell originals item.fact
    value := spell (originals item.fact) item.value }

/-- A draft without its trace, its sources and the spelling of its value. -/
structure Content where
  fieldId : String
  scopeKey : String ×ₗ String
  status : ResolutionStatus
  value : Option TypedValue

/-- The canonical content of a stored member. -/
def bareMember : PyValue → PyValue
  | .dict entries => .dict (entries.filter fun entry =>
      entry.1 != "original_value" && entry.1 != "original_unit")
  | value => value

def bareMembers : PyValue → PyValue
  | .list items => .list (items.map bareMember)
  | value => value

/-- The canonical type, value and unit; the members of a list have theirs. -/
def bareContent (value : TypedValue) : TypedValue :=
  { bare value with value := if value.type = .list then bareMembers value.value else value.value }

def content (draft : EffectiveStateDraft) : Content where
  fieldId := draft.fieldId
  scopeKey := scopeKeyOf draft.scope
  status := draft.resolutionStatus
  value := draft.effectiveValue.map bareContent

/-- Other original values and units change neither the status nor the canonical content of a
draft. -/
def SpellingFree (uuid5 : UUID → String → UUID) (auditId deviceId : UUID)
    (facts : List SecurityFact) (operations : UUID → Option FactOperation)
    (drafts : List EffectiveStateDraft) : Prop :=
  ∀ originals : SecurityFact → Original,
    (∀ fact ∈ facts, ∃ key, valueKey (respell originals fact).value = .ok key) →
    ∃ drafts', resolveSecurityFacts uuid5 auditId deviceId (facts.map (respell originals))
      operations = .ok drafts' ∧ drafts'.map content = drafts.map content

section Pipeline

variable {uuid5 : UUID → String → UUID} {auditId deviceId : UUID} {fieldId : String}
  {facts : List SecurityFact} {operations : UUID → Option FactOperation}
  {classified items : List ClassifiedFact} {originals : SecurityFact → Original}

theorem classify_respell {fact : SecurityFact} {persisted : Option FactOperation}
    {item : ClassifiedFact} (h : classify fact persisted = .ok item) :
    classify (respell originals fact) persisted = .ok (respellItem originals item) := by
  have hoperation : factOperation (respell originals fact) persisted =
      factOperation fact persisted := rfl
  simp only [classify, except_bind_eq_ok] at h ⊢
  obtain ⟨scope, hscope, operation, hop, h⟩ := h
  refine ⟨scope, hscope, operation, hoperation.trans hop, ?_⟩
  have hrefs : (respell originals fact).evidenceRefs = fact.evidenceRefs := rfl
  rw [hrefs]
  cases hevidence : fact.evidenceRefs with
  | nil => simp [hevidence] at h
  | cons first rest =>
    simp only [hevidence, except_bind_eq_ok, except_pure_eq_ok] at h ⊢
    obtain ⟨position, hposition, positions, hpositions, _, hartifact, _, hreset, _, hremove,
      rfl⟩ := h
    exact ⟨position, hposition, positions, hpositions, (), hartifact, (), hreset, (), hremove,
      rfl⟩

theorem classifyFacts_respell (h : classifyFacts facts operations = .ok classified) :
    classifyFacts (facts.map (respell originals)) operations =
      .ok (classified.map (respellItem originals)) := by
  rw [classifyFacts, mapM_eq_ok] at h ⊢
  rw [List.forall₂_map_left_iff, List.forall₂_map_right_iff]
  exact h.imp fun fact item hitem => classify_respell hitem

theorem blockedDependencyIds_respell :
    blockedDependencyIds (facts.map (respell originals)) = blockedDependencyIds facts := by
  have hgraph : dependencyGraph (facts.map (respell originals)) = dependencyGraph facts := by
    rw [dependencyGraph, dependencyGraph, List.map_map]
    rfl
  have hids : (facts.map (respell originals)).map (·.factId) = facts.map (·.factId) := by
    rw [List.map_map]
    rfl
  rw [blockedDependencyIds, blockedDependencyIds, hgraph, hids, List.filter_map, List.map_map]
  rfl

theorem factsOf_respell : factsOf (classified.map (respellItem originals)) fieldId =
    (factsOf classified fieldId).map (respellItem originals) := by
  have hkey : ∀ item, resolverKey (respellItem originals item) = resolverKey item := fun _ => rfl
  rw [factsOf, ← map_sortedBy hkey, List.filter_map]
  rfl

theorem fieldIds_respell :
    fieldIds (classified.map (respellItem originals)) = fieldIds classified := by
  rw [fieldIds, fieldIds, List.map_map]
  rfl

theorem fieldFacts_respell (h : FieldFacts fieldId items) :
    FieldFacts fieldId (items.map (respellItem originals)) := by
  refine ⟨?_, ?_, ?_⟩
  · intro item hitem
    obtain ⟨own, hown, rfl⟩ := List.mem_map.mp hitem
    exact h.field own hown
  · exact List.pairwise_map.mpr h.sorted
  · intro item hitem
    obtain ⟨own, hown, rfl⟩ := List.mem_map.mp hitem
    exact h.valid own hown

theorem sourceIds_respell : sourceIds (items.map (respellItem originals)) = sourceIds items := by
  rw [sourceIds, sourceIds, List.map_map]
  rfl

/-- Facts are held back whatever their spelling. -/
theorem resolveBlocked_respell :
    resolveBlocked uuid5 auditId deviceId fieldId (items.map (respellItem originals)) =
      resolveBlocked uuid5 auditId deviceId fieldId items := by
  rw [resolveBlocked, resolveBlocked, sourceIds_respell, List.map_map, List.map_map]
  rfl

/-- A group of facts with the scope of its first fact. -/
def scopePart (group : List ClassifiedFact) : Except Error (ScopeRef × List ClassifiedFact) :=
  match group with
  | [] => .error (.python .indexError)
  | head :: _ => .ok (head.scope, group)

/-- The scopes of a scalar field, each with the facts it is resolved from. -/
def scalarParts (items : List ClassifiedFact) :
    Except Error (List (ScopeRef × List ClassifiedFact)) :=
  match items with
  | [] => .ok []
  | first :: _ =>
    if first.scope.type ≠ "vty_range" then
      (groupRuns (fun item : ClassifiedFact => scopeKeyOf item.scope) items).mapM scopePart
    else vtyPartitions items

theorem mapM_bind_ok {α β γ : Type} {f : α → Except Error β} {g : β → Except Error γ}
    {xs : List α} {zs : List γ} :
    xs.mapM (fun x => f x >>= g) = .ok zs ↔ ∃ ys, xs.mapM f = .ok ys ∧ ys.mapM g = .ok zs := by
  constructor
  · intro h
    rw [mapM_eq_ok] at h
    induction h with
    | nil => exact ⟨[], rfl, rfl⟩
    | cons hxz _ ih =>
      rw [except_bind_eq_ok] at hxz
      obtain ⟨y, hxy, hyz⟩ := hxz
      obtain ⟨ys, hys, hzs⟩ := ih
      exact ⟨y :: ys, mapM_eq_ok.mpr (.cons hxy (mapM_eq_ok.mp hys)),
        mapM_eq_ok.mpr (.cons hyz (mapM_eq_ok.mp hzs))⟩
  · rintro ⟨ys, hys, hzs⟩
    rw [mapM_eq_ok] at hys hzs ⊢
    induction hys generalizing zs with
    | nil =>
      cases hzs
      exact .nil
    | cons hxy _ ih =>
      cases hzs with
      | cons hyz hrest => exact .cons (except_bind_eq_ok.mpr ⟨_, hxy, hyz⟩) (ih hrest)

theorem resolveScalarField_parts (hfacts : FieldFacts fieldId items)
    {drafts : List EffectiveStateDraft} :
    resolveScalarField uuid5 auditId deviceId fieldId items = .ok drafts ↔
      ∃ parts, scalarParts items = .ok parts ∧
        parts.mapM (fun part => resolveScalarScope uuid5 auditId deviceId fieldId part.1 part.2) =
          .ok drafts := by
  cases items with
  | nil =>
    constructor
    · intro h
      exact ⟨[], rfl, h⟩
    · rintro ⟨parts, hparts, h⟩
      cases hparts
      exact h
  | cons first rest =>
    by_cases hvty : first.scope.type = "vty_range"
    · simp only [resolveScalarField, scalarParts, hvty, ne_eq, not_true_eq_false, if_false,
        except_bind_eq_ok]
    · rw [resolveScalarField_groups hfacts hvty, scalarParts, if_pos hvty, ← mapM_bind_ok]
      have hstep : groupDraft uuid5 auditId deviceId fieldId = fun group => scopePart group >>=
          fun part => resolveScalarScope uuid5 auditId deviceId fieldId part.1 part.2 := by
        funext group
        cases group <;> rfl
      rw [hstep]

theorem vtyPartitions_respell {parts : List (ScopeRef × List ClassifiedFact)}
    (h : vtyPartitions items = .ok parts) :
    vtyPartitions (items.map (respellItem originals)) =
      .ok (parts.map fun part => (part.1, part.2.map (respellItem originals))) := by
  simp only [vtyPartitions, except_bind_eq_ok, except_pure_eq_ok] at h ⊢
  obtain ⟨ranges, hranges, rfl⟩ := h
  refine ⟨ranges.map fun range => (respellItem originals range.1, range.2), ?_, ?_⟩
  · rw [mapM_eq_ok] at hranges ⊢
    rw [List.forall₂_map_left_iff, List.forall₂_map_right_iff]
    refine hranges.imp fun item range hrange => ?_
    simp only [except_bind_eq_ok, except_pure_eq_ok] at hrange ⊢
    obtain ⟨bounds, hbounds, rfl⟩ := hrange
    exact ⟨bounds, hbounds, rfl⟩
  · have hcells : Intervals.partition (fun r : ClassifiedFact × Int × Int => r.2.1)
        (fun r => r.2.2) (ranges.map fun range => (respellItem originals range.1, range.2)) =
        (Intervals.partition (fun r => r.2.1) (fun r => r.2.2) ranges).map fun cell =>
          (cell.1, cell.2.map fun range => (respellItem originals range.1, range.2)) :=
      Intervals.map_partition _ _ (fun _ => rfl) (fun _ => rfl) ranges
    rw [hcells, List.map_map, List.map_map]
    refine List.map_congr_left fun cell _ => ?_
    simp only [Function.comp_apply, List.map_map]
    rfl

theorem scalarParts_respell (hfacts : FieldFacts fieldId items) {parts : List (ScopeRef × List ClassifiedFact)}
    (h : scalarParts items = .ok parts) :
    scalarParts (items.map (respellItem originals)) =
      .ok (parts.map fun part => (part.1, part.2.map (respellItem originals))) := by
  cases items with
  | nil =>
    cases h
    rfl
  | cons first rest =>
    have hscope : (respellItem originals first).scope = first.scope := rfl
    rw [List.map_cons, scalarParts, hscope, ← List.map_cons]
    rw [scalarParts] at h
    split
    · rename_i hvty
      rw [if_pos hvty, mapM_eq_ok] at h
      have hgroups : groupRuns (fun item : ClassifiedFact => scopeKeyOf item.scope)
          ((first :: rest).map (respellItem originals)) =
          (groupRuns (fun item : ClassifiedFact => scopeKeyOf item.scope) (first :: rest)).map
            (List.map (respellItem originals)) :=
        map_groupRuns (fun _ => rfl) hfacts.scopes
      rw [hgroups, mapM_eq_ok, List.forall₂_map_left_iff, List.forall₂_map_right_iff]
      refine h.imp fun group part hpart => ?_
      cases group with
      | nil => cases hpart
      | cons head tail =>
        cases hpart
        rfl
    · rename_i hvty
      rw [if_neg hvty] at h
      exact vtyPartitions_respell h

end Pipeline

end ConfigAuditor.EffectiveState.Respelling
