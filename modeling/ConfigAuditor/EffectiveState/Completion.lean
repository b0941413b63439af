import ConfigAuditor.EffectiveState.SpelledDrafts

/-!
# Facts that the service resolves to the end

A stored fact is acceptable for an operation when each check of the service lets it pass. An
audit all of whose facts are acceptable is resolved, and its states are stored.
-/
namespace ConfigAuditor.EffectiveState.Completion

open Library SecurityModel ProfileResolution Policy Model Resolver Service VtyPartition Resolved
  Groups Winner RespelledScopes SpelledDrafts

/-- What the checks of the service and of the classification ask of a fact. -/
structure Acceptable (fact : SecurityFact) (operation : FactOperation) : Prop where
  identity : fact.factId.int ≠ 0
  scope : validateScope fact.scope = .ok ()
  known : (fieldRegistry fact.fieldId).isSome = true
  value : fact.value.type ≠ .null →
    ∃ field, validateFieldValueScope fact.fieldId fact.value fact.scope = .ok field
  reset : fact.value.type = .null ↔ operation = .reset
  written : ∃ key, valueKey fact.value = .ok key
  evidence : fact.evidenceRefs ≠ []
  lines : ∀ ref ∈ fact.evidenceRefs, ∃ line, ref.startLine = some line ∧ 1 ≤ line
  artifact : ∀ ref ∈ fact.evidenceRefs, ∀ other ∈ fact.evidenceRefs,
    ref.artifactId = other.artifactId
  dependencies : fact.dependencies = []

theorem refPosition_line {reference : EvidenceRef} {line : Nat}
    (hline : reference.startLine = some line) (h : 1 ≤ line) :
    refPosition reference = .ok line := by
  unfold refPosition
  cases reference.structuredOrder <;> simp [hline, h]

/-- An acceptable fact is classified. -/
theorem classify_acceptable {fact : SecurityFact} {operation : FactOperation}
    (h : Acceptable fact operation) :
    ∃ item, classify fact (some operation) = .ok item ∧ item.operation = operation := by
  have hpositions : ∀ ref ∈ fact.evidenceRefs, ∃ position, refPosition ref = .ok position := by
    intro ref href
    obtain ⟨line, hline, hpos⟩ := h.lines ref href
    exact ⟨line, refPosition_line hline hpos⟩
  have hscope : scopeFromDict fact.scope = .ok fact.scope :=
    except_bind_eq_ok.mpr ⟨(), h.scope, rfl⟩
  cases hrefs : fact.evidenceRefs with
  | nil => exact absurd hrefs h.evidence
  | cons first rest =>
    rw [hrefs] at hpositions
    obtain ⟨position, hposition⟩ := hpositions first List.mem_cons_self
    obtain ⟨positions, hrest⟩ := mapM_completes fun ref href =>
      hpositions ref (List.mem_cons_of_mem _ href)
    have hone : (rest.any fun ref => ref.artifactId != first.artifactId) = false := by
      rw [List.any_eq_false]
      intro ref href
      have hsame := h.artifact ref (hrefs ▸ List.mem_cons_of_mem _ href) first
        (hrefs ▸ List.mem_cons_self)
      simp [hsame]
    refine ⟨{
      fact, scope := fact.scope, value := fact.value, operation, artifactId := first.artifactId,
      sourceLine := positions.foldl min position }, ?_, rfl⟩
    unfold classify
    simp only [hrefs, factOperation, except_bind_eq_ok, raiseIf_eq_ok, except_pure_eq_ok]
    refine ⟨_, hscope, operation, rfl, position, hposition, positions, hrest, (), hone, (), ?_, (),
      ?_, rfl⟩
    · by_cases hnull : fact.value.type = .null
      · simp [hnull]
      · simp [mt h.reset.mpr hnull]
    · by_cases hnull : fact.value.type = .null
      · simp [h.reset.mp hnull]
      · simp [hnull]

/-- A classified fact that can be part of a draft. -/
structure Resolvable (fieldId : String) (item : ClassifiedFact) : Prop where
  identity : item.fact.factId.int ≠ 0
  scope : validateScope item.scope = .ok ()
  written : ∃ key, valueKey item.value = .ok key
  assigned : item.operation = .assign →
    ∃ field, validateFieldValueScope fieldId item.value item.scope = .ok field

theorem resolvable_of_acceptable {fact : SecurityFact} {operation : FactOperation}
    (h : Acceptable fact operation) {item : ClassifiedFact}
    (hitem : classify fact (some operation) = .ok item) (hoperation : item.operation = operation) :
    Resolvable fact.fieldId item := by
  obtain ⟨hfact, hscope, hvalue, hvalid⟩ := classify_ok hitem
  refine ⟨hfact ▸ h.identity, hscope ▸ hvalid, hvalue ▸ h.written, fun hassign => ?_⟩
  rw [hvalue, hscope]
  apply h.value
  intro hnull
  rw [hoperation, h.reset.mp hnull] at hassign
  cases hassign

section Drafts

variable {uuid5 : UUID → String → UUID} {auditId deviceId : UUID} {fieldId : String}
  {scope : ScopeRef} {items : List ClassifiedFact}

theorem makeDraft_completes {draft : EffectiveStateDraft} (h : DraftChecks draft) :
    ∃ made, makeEffectiveStateDraft uuid5 draft = .ok made := by
  have hidentity := h.identity
  simp only [Bool.or_eq_false_iff] at hidentity
  obtain ⟨id, hid⟩ : ∃ id, deterministicEffectiveStateId uuid5 draft.auditId draft.fieldId
      draft.scope = .ok id := by
    simp only [deterministicEffectiveStateId, canonicalScopeKey, except_bind_eq_ok,
      except_pure_eq_ok]
    refine ⟨_, (), ?_, _, ⟨(), h.scope, rfl⟩, rfl⟩
    rw [raiseIf_eq_ok, hidentity.1.1, hidentity.2]
    rfl
  refine ⟨{ draft with effectiveStateId := id }, ?_⟩
  simp only [makeEffectiveStateDraft, except_bind_eq_ok, except_pure_eq_ok, validateDraft_eq_ok]
  exact ⟨id, hid, (), ⟨hid, ⟨h.identity, h.scope, h.value, h.sources, h.status, h.version, h.trace,
    h.precedence⟩⟩, rfl⟩

theorem sourceIds_checked (h : ∀ item ∈ items, Resolvable fieldId item) :
    (decide (¬ (sourceIds items).Nodup) || (sourceIds items).any (·.int == 0)) = false := by
  have hnodup : (sourceIds items).Nodup :=
    (sortedBy_perm _ _).nodup_iff.mpr (List.nodup_dedup _)
  have hnonzero : (sourceIds items).any (·.int == 0) = false := by
    rw [List.any_eq_false]
    intro id hid
    obtain ⟨item, hitem, rfl⟩ := List.mem_map.mp (List.mem_dedup.mp ((mem_sortedBy _).mp hid))
    simpa using (h item hitem).identity
  simp [hnodup, hnonzero]

/-- Where an audit, a device and a field can be written about. -/
structure Place (auditId deviceId : UUID) (fieldId : String) : Prop where
  audit : auditId.int ≠ 0
  device : deviceId.int ≠ 0
  field : (fieldRegistry fieldId).isSome = true

theorem fieldIds_printed : ∀ field ∈ fields, (Text.strip field.fieldId).isEmpty = false := by
  decide +kernel

theorem Place.identity (h : Place auditId deviceId fieldId) :
    (auditId.int == 0 || deviceId.int == 0 || (Text.strip fieldId).isEmpty) = false := by
  obtain ⟨field, hfield⟩ := Option.isSome_iff_exists.mp h.field
  obtain ⟨rfl, hmem⟩ := fieldRegistry_fieldId hfield
  simp [h.audit, h.device, fieldIds_printed field hmem]

/-- The value of a fact fits any scope with the type of its own and a key. -/
theorem validateFieldValueScope_scope {value : TypedValue} {scope' : ScopeRef}
    (htype : scope'.type = scope.type) (hkey : scope'.key.isEmpty = false)
    (h : ∃ field, validateFieldValueScope fieldId value scope = .ok field) :
    ∃ field, validateFieldValueScope fieldId value scope' = .ok field := by
  obtain ⟨field, hfield⟩ := h
  rw [validateFieldValueScope_eq_ok] at hfield
  refine ⟨field, validateFieldValueScope_eq_ok.mpr ?_⟩
  rw [htype]
  exact ⟨hfield.1, hfield.2.1, hfield.2.2.1, hfield.2.2.2.1, hkey⟩

theorem validateEffectiveValue_of_check {value : TypedValue}
    (h : ∃ field, validateFieldValueScope fieldId value scope = .ok field) :
    validateEffectiveValue fieldId value scope = .ok () := by
  obtain ⟨field, hfield⟩ := h
  have hcheck := validateFieldValueScope_eq_ok.mp hfield
  have hlist : value.type ≠ .list := fun hlist =>
    fields_no_list field (fieldRegistry_fieldId hcheck.1).2 (hlist ▸ hcheck.2.1)
  simp only [validateEffectiveValue, hlist, if_false, hfield]

/-- A scope of facts of its type has its draft. -/
theorem resolveScalarScope_completes (hplace : Place auditId deviceId fieldId) (hne : items ≠ [])
    (h : ∀ item ∈ items, Resolvable fieldId item) (hvalid : validateScope scope = .ok ())
    (hkey : scope.key.isEmpty = false) (htype : ∀ item ∈ items, scope.type = item.scope.type) :
    ∃ draft, resolveScalarScope uuid5 auditId deviceId fieldId scope items = .ok draft := by
  obtain ⟨winner, conflict, trace, precedence, hwinner, -, htrace, hprecedence, hrun⟩ :=
    resolveScalarScope_spec uuid5 auditId deviceId fieldId scope hne fun item hitem =>
      (h item hitem).written
  have hmem := (mem_deciding.mp hwinner).1
  have hversion : (Text.strip "1.0.0").isEmpty = false := by decide +kernel
  rw [hrun]
  apply makeDraft_completes
  refine ⟨hplace.identity, hvalid, ?_, sourceIds_checked h, ?_, hversion,
    validateJsonCollection_texts htrace, validateJsonCollection_texts hprecedence⟩
  · intro value hvalue
    cases conflict with
    | true => cases hvalue
    | false =>
      cases hop : winner.operation with
      | assign =>
        simp only [scopeDraft, scopeValue, hop, Bool.false_eq_true, if_false,
          Option.some.injEq] at hvalue
        subst hvalue
        exact validateEffectiveValue_of_check (validateFieldValueScope_scope (htype winner hmem)
          hkey ((h winner hmem).assigned hop))
      | reset | remove => simp [scopeDraft, scopeValue, hop] at hvalue
  · cases conflict with
    | true => rfl
    | false =>
      cases hop : winner.operation <;>
        simp [statusConsistent, scopeDraft, scopeStatus, scopeValue, scopeReason, hop, raiseIf]

/-- Every valid scope has a key. -/
theorem key_of_valid (h : validateScope scope = .ok ()) : scope.key.isEmpty = false := by
  rw [validateScope_eq_ok] at h
  by_contra hempty
  have hkey : scope.key = "" := by simpa using hempty
  have hlabel : ∀ label name : String, ("" == label ++ ":" ++ name) = false := by
    intro label name
    rw [beq_eq_false_iff_ne]
    intro heq
    have hlength := congrArg String.length heq
    have hcolon : ":".length = 1 := rfl
    rw [String.length_append, String.length_append, hcolon, String.length_empty] at hlength
    omega
  unfold scopeValid namedValid at h
  rw [hkey] at h
  split at h
  · simp at h
  split at h
  · have hnone : vtyGroups "" = none := by decide
    rw [hnone] at h
    simp at h
  split at h
  · simp only [hlabel, Bool.and_false] at h
    split at h <;> cases h
  split at h
  · simp only [hlabel, Bool.and_false] at h
    split at h <;> cases h
  split at h
  · have hservice : ∀ service : String, ("" == "management:" ++ service) = false := by
      intro service
      rw [beq_eq_false_iff_ne]
      intro heq
      have hlength := congrArg String.length heq
      have hmanagement : "management:".length = 11 := rfl
      rw [String.length_append, hmanagement, String.length_empty] at hlength
      omega
    split at h <;> simp [hservice] at h
  · simp at h

/-- What a member adds to a collection is the value of one of its assignments. -/
theorem mem_memberValues {members : List ClassifiedFact} {value : TypedValue}
    (h : value ∈ (memberValues members).getD []) :
    ∃ item ∈ members, item.operation = .assign ∧ value = item.value := by
  unfold memberValues at h
  split at h
  · rename_i winner hwinner
    cases hop : winner.operation with
    | assign =>
      simp only [hop, Option.getD_some, List.mem_singleton] at h
      exact ⟨winner, orderedWinner_mem hwinner, hop, h⟩
    | remove => simp [hop] at h
    | reset => simp [hop] at h
  · simp at h

/-- A collection of facts of one scope has its draft. -/
theorem resolveCollection_completes (hplace : Place auditId deviceId fieldId) {key : String}
    {head : ClassifiedFact} {rest : List (String × ClassifiedFact)}
    (hkeyed : ∀ p ∈ (key, head) :: rest, valueKey p.2.value = .ok p.1)
    (h : ∀ p ∈ (key, head) :: rest, Resolvable fieldId p.2)
    (htype : ∀ p ∈ (key, head) :: rest, head.scope.type = p.2.scope.type) :
    ∃ draft, resolveCollection uuid5 auditId deviceId fieldId ((key, head) :: rest) =
      .ok draft := by
  obtain ⟨trace, htrace, hrun⟩ := resolveCollection_spec uuid5 auditId deviceId fieldId hkeyed
  have hvalid := (h _ List.mem_cons_self).scope
  have hversion : (Text.strip "1.0.0").isEmpty = false := by decide +kernel
  have hnone : Encodable [] := fun _ hevent => absurd hevent List.not_mem_nil
  have hitems : ∀ item ∈ ((key, head) :: rest).map (·.2), Resolvable fieldId item := by
    intro item hitem
    obtain ⟨p, hp, rfl⟩ := List.mem_map.mp hitem
    exact h p hp
  have hvalue : ∀ value ∈ (memberGroups ((key, head) :: rest)).flatMap fun group =>
      (memberValues group.2).getD [],
      ∃ field, validateFieldValueScope fieldId value head.scope = .ok field := by
    intro value hvalue
    obtain ⟨group, hgroup, hmember⟩ := List.mem_flatMap.mp hvalue
    obtain ⟨item, hitem, hassign, rfl⟩ := mem_memberValues hmember
    have hpair := (memberGroups_grouping ((key, head) :: rest)).mem hgroup hitem
    exact validateFieldValueScope_scope (htype _ hpair) (key_of_valid hvalid)
      ((h _ hpair).assigned hassign)
  rw [hrun]
  apply makeDraft_completes
  refine ⟨hplace.identity, hvalid, ?_, sourceIds_checked hitems, ?_, hversion,
    validateJsonCollection_texts htrace, validateJsonCollection_texts hnone⟩
  · intro value hsome
    simp only [collectionDraft] at hsome
    split at hsome
    · cases hsome
    · obtain rfl := Option.some.inj hsome
      exact validateEffectiveValue_members hvalue
  · unfold statusConsistent collectionDraft
    cases (memberGroups ((key, head) :: rest)).any fun group => (memberValues group.2).isNone with
    | true => rfl
    | false => rfl

/-- The scope of a cell is valid. -/
theorem cell_valid {ranges : List (ClassifiedFact × Int × Int)} (hvalid : ValidScopes items)
    (hranges : RangesOf items ranges) {cell : (Int × Int) × List (ClassifiedFact × Int × Int)}
    (hcell : cell ∈ Intervals.partition (fun r => r.2.1) (fun r => r.2.2) ranges) :
    validateScope (vtyScope cell.1.1 cell.1.2) = .ok () := by
  obtain ⟨hle, hne⟩ := Intervals.partition_nonempty _ _ hcell
  obtain ⟨r, hr⟩ := List.exists_mem_of_ne_nil _ hne
  obtain ⟨hrmem, hlo, hhi⟩ := Intervals.partition_covered _ _ hcell hr
  obtain ⟨htype, hscope⟩ := hvalid r.1 (hranges.1 ▸ List.mem_map_of_mem hrmem)
  obtain ⟨start, finish, hread, hstart, -, hfinish⟩ := vtyBounds_of_valid htype hscope
  have hbounds : (start, finish) = r.2 := Except.ok.inj (hread.symm.trans (hranges.2 r hrmem))
  have hlow : start ≤ cell.1.1 := by
    rw [← hbounds] at hlo
    exact hlo
  have hhigh : cell.1.2 ≤ finish := by
    rw [← hbounds] at hhi
    exact hhi
  exact validateScope_vtyScope (hstart.trans hlow) hle (hhigh.trans hfinish)

theorem resolveScalarField_completes (hplace : Place auditId deviceId fieldId)
    (hfacts : FieldFacts fieldId items) (h : ∀ item ∈ items, Resolvable fieldId item) :
    ∃ drafts, resolveScalarField uuid5 auditId deviceId fieldId items = .ok drafts := by
  cases items with
  | nil => exact ⟨[], rfl⟩
  | cons first rest =>
    simp only [resolveScalarField]
    split
    · refine mapM_completes fun group hgroup => ?_
      have hsub : ∀ item ∈ group, item ∈ first :: rest := by
        intro item hitem
        have hflat := List.mem_flatten.mpr ⟨group, hgroup, hitem⟩
        rw [flatten_groupRuns] at hflat
        exact (mem_sortedBy _).mp hflat
      cases group with
      | nil => exact absurd rfl (ne_nil_of_mem_groupRuns hgroup)
      | cons head tail =>
        have hvalid := (h head (hsub head List.mem_cons_self)).scope
        refine resolveScalarScope_completes hplace (List.cons_ne_nil _ _)
          (fun item hitem => h item (hsub item hitem)) hvalid (key_of_valid hvalid) ?_
        intro item hitem
        exact (scopeKeyOf_eq.mp (eq_of_mem_groupRuns hgroup List.mem_cons_self hitem)).1
    · rename_i hvty
      have hscopes := hfacts.all_vty (not_not.mp hvty)
      obtain ⟨parts, hparts⟩ : ∃ parts, vtyPartitions (first :: rest) = .ok parts := by
        have hranges : ∃ ranges, (first :: rest).mapM (fun item => do
            let bounds ← vtyBounds item.scope
            return (item, bounds)) = .ok ranges := mapM_completes fun item hitem => by
          obtain ⟨start, finish, hbounds, -⟩ := vtyBounds_of_valid (hscopes item hitem).1
            (hscopes item hitem).2
          exact ⟨(item, start, finish), except_bind_eq_ok.mpr ⟨_, hbounds, rfl⟩⟩
        obtain ⟨ranges, hranges⟩ := hranges
        exact ⟨_, except_bind_eq_ok.mpr ⟨ranges, hranges, rfl⟩⟩
      obtain ⟨ranges, hmap, hbounds, rfl⟩ := vtyPartitions_ok hparts
      simp only [hparts]
      refine mapM_completes fun part hpart => ?_
      obtain ⟨cell, hcell, rfl⟩ := List.mem_map.mp hpart
      obtain ⟨-, hne⟩ := Intervals.partition_nonempty _ _ hcell
      have hcovered : ∀ item ∈ cell.2.map (·.1), item ∈ first :: rest := by
        intro item hitem
        obtain ⟨range, hrange, rfl⟩ := List.mem_map.mp hitem
        exact hmap ▸ List.mem_map_of_mem (Intervals.partition_covered _ _ hcell hrange).1
      have hvalid := cell_valid hscopes ⟨hmap, hbounds⟩ hcell
      refine resolveScalarScope_completes hplace (by simpa using hne)
        (fun item hitem => h item (hcovered item hitem)) hvalid (key_of_valid hvalid) ?_
      intro item hitem
      exact (hscopes item (hcovered item hitem)).1.symm

theorem resolveRepeatableField_completes (hplace : Place auditId deviceId fieldId)
    (h : ∀ item ∈ items, Resolvable fieldId item) :
    ∃ drafts, resolveRepeatableField uuid5 auditId deviceId fieldId items = .ok drafts := by
  have hkeyed : ∃ keyed, items.mapM (fun item => do
      let key ← valueKey item.value
      return (key, item)) = .ok keyed := mapM_completes fun item hitem => by
    obtain ⟨key, hkey⟩ := (h item hitem).written
    exact ⟨(key, item), except_bind_eq_ok.mpr ⟨key, hkey, rfl⟩⟩
  obtain ⟨keyed, hkeyed⟩ := hkeyed
  have hpairs : ∀ p ∈ keyed, p.2 ∈ items ∧ valueKey p.2.value = .ok p.1 := by
    intro p hp
    obtain ⟨item, hitem, hp⟩ := mapM_exists_input hkeyed hp
    obtain ⟨key, hkey, hp⟩ := except_bind_eq_ok.mp hp
    obtain rfl := except_pure_eq_ok.mp hp
    exact ⟨hitem, hkey⟩
  unfold resolveRepeatableField
  simp only [hkeyed]
  refine mapM_completes fun group hgroup => ?_
  have hsub : ∀ p ∈ group, p ∈ keyed := by
    intro p hp
    have hflat := List.mem_flatten.mpr ⟨group, hgroup, hp⟩
    rw [flatten_groupRuns] at hflat
    exact (mem_sortedBy _).mp hflat
  cases group with
  | nil => exact absurd rfl (ne_nil_of_mem_groupRuns hgroup)
  | cons head tail =>
    refine resolveCollection_completes hplace (fun p hp => (hpairs p (hsub p hp)).2)
      (fun p hp => h p.2 (hpairs p (hsub p hp)).1) fun p hp => ?_
    exact (scopeKeyOf_eq.mp (eq_of_mem_groupRuns hgroup List.mem_cons_self hp)).1

/-- Acceptable facts are resolved. -/
theorem resolveSecurityFacts_completes (haudit : auditId.int ≠ 0) (hdevice : deviceId.int ≠ 0)
    {facts : List SecurityFact} {operations : UUID → Option FactOperation}
    (h : ∀ fact ∈ facts, ∃ operation, operations fact.factId = some operation ∧
      Acceptable fact operation) :
    ∃ drafts, resolveSecurityFacts uuid5 auditId deviceId facts operations = .ok drafts := by
  obtain ⟨classified, hclassified⟩ : ∃ classified, classifyFacts facts operations =
      .ok classified := mapM_completes fun fact hfact => by
    obtain ⟨operation, hoperation, hok⟩ := h fact hfact
    obtain ⟨item, hitem, -⟩ := classify_acceptable hok
    exact ⟨item, hoperation ▸ hitem⟩
  have hitems : ∀ item ∈ classified, Resolvable item.fact.fieldId item ∧
      (fieldRegistry item.fact.fieldId).isSome = true := by
    intro item hitem
    obtain ⟨fact, hfact, hread⟩ := mapM_exists_input hclassified hitem
    obtain ⟨operation, hoperation, hok⟩ := h fact hfact
    obtain ⟨other, hother, hsame⟩ := classify_acceptable hok
    rw [hoperation] at hread
    obtain rfl := Except.ok.inj (hother.symm.trans hread)
    rw [(classify_ok hread).1]
    exact ⟨resolvable_of_acceptable hok hread hsame, hok.known⟩
  have hblocked := blockedDependencyIds_eq_nil fun fact hfact =>
    (h fact hfact).elim fun _ hok => hok.2.dependencies
  have hfields : ∃ drafts, (groupRuns (fun item : ClassifiedFact => item.fact.fieldId)
      (sortedBy resolverKey classified)).mapM
        (resolveField uuid5 auditId deviceId (blockedDependencyIds facts)) = .ok drafts := by
    rw [fieldGroups_eq, hblocked]
    refine mapM_completes fun group hgroup => ?_
    obtain ⟨fieldId, -, rfl⟩ := List.mem_map.mp hgroup
    have hfacts := fieldFacts_factsOf (fun item hitem => (hitems item hitem).1.scope) fieldId
    have hmem : ∀ item ∈ factsOf classified fieldId, item ∈ classified := fun item hitem =>
      (mem_sortedBy _).mp (List.mem_filter.mp hitem).1
    cases hgroup : factsOf classified fieldId with
    | nil => exact ⟨[], rfl⟩
    | cons first rest =>
      rw [hgroup] at hfacts hmem
      have hfirst : first.fact.fieldId = fieldId := hfacts.field first List.mem_cons_self
      have hknown : (fieldRegistry fieldId).isSome = true :=
        hfirst ▸ (hitems first (hmem first List.mem_cons_self)).2
      have hresolvable : ∀ item ∈ first :: rest, Resolvable fieldId item := fun item hitem =>
        hfacts.field item hitem ▸ (hitems item (hmem item hitem)).1
      have hplace : Place auditId deviceId fieldId := ⟨haudit, hdevice, hknown⟩
      obtain ⟨field, hfield⟩ := Option.isSome_iff_exists.mp hknown
      simp only [resolveField, hfirst, getFieldPolicy, hfield, List.contains_nil,
        List.filter_false, List.isEmpty_nil, Bool.not_true, Bool.false_eq_true, if_false,
        except_bind_eq_ok, Except.ok.injEq, exists_eq_left']
      cases (fieldPolicy field).cardinality with
      | scalar => exact resolveScalarField_completes hplace hfacts hresolvable
      | repeatable => exact resolveRepeatableField_completes hplace hresolvable
  obtain ⟨drafts, hdrafts⟩ := hfields
  exact ⟨sortedBy draftKey drafts.flatten,
    except_bind_eq_ok.mpr ⟨classified, hclassified, except_bind_eq_ok.mpr ⟨drafts, hdrafts, rfl⟩⟩⟩

end Drafts

section Stored

variable {uuid5 : UUID → String → UUID} {store : Store} {organizationId : UUID}
  {audit : PinnedAudit} {pinnedPack : String} {table : List SecurityFact}

/-- A fact of an audit that the service lets pass: inside the audit, and acceptable for the
operation that its mapping gives it. -/
structure Passes (db : Training.Database) (audit : PinnedAudit) (pinnedPack : String)
    (fact : SecurityFact) : Prop where
  auditId : fact.auditId = audit.auditId
  deviceId : fact.deviceId = audit.deviceId
  snapshotId : fact.snapshotId = audit.snapshotId
  packId : fact.knowledgePackVersionId.str = pinnedPack
  policy : ∃ policy, operationPolicy db audit fact = .ok policy ∧ Acceptable fact policy.operation

theorem checkFactValue_acceptable {fact : SecurityFact} {operation : FactOperation}
    (h : Acceptable fact operation) : checkFactValue fact operation = .ok () := by
  unfold checkFactValue
  by_cases hnull : fact.value.type = .null
  · rw [if_pos hnull, h.reset.mp hnull]
    rfl
  · obtain ⟨field, hfield⟩ := h.value hnull
    rw [if_neg hnull, hfield]

theorem validateResolverFact_passes {db : Training.Database} {fact : SecurityFact}
    (h : Passes db audit pinnedPack fact) :
    validateResolverFact db audit pinnedPack fact = .ok () := by
  obtain ⟨policy, hpolicy, hok⟩ := h.policy
  obtain ⟨field, hfield⟩ := Option.isSome_iff_exists.mp hok.known
  have hfieldPolicy : getFieldPolicy fact.fieldId = .ok (fieldPolicy field) := by
    simp only [getFieldPolicy, hfield]
  simp only [validateResolverFact, except_bind_eq_ok, raiseIf_eq_ok]
  refine ⟨(), ?_, (), ?_, fact.scope, ?_, policy, hpolicy, (), checkFactValue_acceptable hok,
    _, hfieldPolicy, rfl⟩
  · simp [h.auditId, h.deviceId, h.snapshotId]
  · simp [h.packId]
  · exact except_bind_eq_ok.mpr ⟨(), hok.scope, rfl⟩

/-- The checks of the service pass on any facts that pass. -/
theorem validateResolverFacts_passes {auditId : UUID} {facts : List SecurityFact}
    (haudit : auditOf store auditId organizationId = some audit)
    (hboundary : checkBoundary store organizationId audit = .ok pinnedPack)
    (h : ∀ fact ∈ facts, Passes store.training audit pinnedPack fact) :
    validateResolverFacts store auditId organizationId facts = .ok audit := by
  have hall : facts.forM (validateResolverFact store.training audit pinnedPack) = .ok () :=
    forM_eq_ok.mpr fun fact hfact => validateResolverFact_passes (h fact hfact)
  simp only [validateResolverFacts, haudit]
  exact except_bind_eq_ok.mpr ⟨pinnedPack, hboundary, except_bind_eq_ok.mpr ⟨(), hall, rfl⟩⟩

theorem auditOf_id {auditId : UUID} (h : auditOf store auditId organizationId = some audit) :
    audit.auditId = auditId := by
  have hfound := List.find?_some h
  simp only [Bool.and_eq_true, beq_iff_eq] at hfound
  exact hfound.1

/-- The facts that the resolver of an audit reads. -/
def ownFacts (auditId : UUID) (table : List SecurityFact) : List SecurityFact :=
  sortedBy (·.factId.int) (table.filter (·.auditId == auditId))

theorem mem_ownFacts {auditId : UUID} {fact : SecurityFact} :
    fact ∈ ownFacts auditId table ↔ fact ∈ table ∧ fact.auditId = auditId := by
  rw [ownFacts, mem_sortedBy, List.mem_filter, beq_iff_eq]

/-- The drafts of an audit whose facts pass. -/
theorem resolveDrafts_completes {auditId : UUID}
    (haudit : auditOf store auditId organizationId = some audit)
    (hboundary : checkBoundary store organizationId audit = .ok pinnedPack)
    (hnonzero : audit.auditId.int ≠ 0 ∧ audit.deviceId.int ≠ 0)
    (hids : (table.map (·.factId)).Nodup)
    (h : ∀ fact ∈ ownFacts auditId table, Passes store.training audit pinnedPack fact) :
    ∃ drafts operations, resolveDrafts uuid5 store auditId organizationId
        (ownFacts auditId table) = .ok drafts ∧
      resolveSecurityFacts uuid5 audit.auditId audit.deviceId (ownFacts auditId table) operations =
        .ok drafts := by
  obtain ⟨operations, hoperations⟩ : ∃ operations, factOperations store.training audit
      (ownFacts auditId table) = .ok operations := mapM_completes fun fact hfact => by
    obtain ⟨policy, hpolicy, -⟩ := (h fact hfact).policy
    exact ⟨_, except_bind_eq_ok.mpr ⟨policy, hpolicy, rfl⟩⟩
  have hkeys : operations.map (·.1) = (ownFacts auditId table).map (·.factId) :=
    mapM_map hoperations fun fact pair hpair => by
      obtain ⟨policy, -, hpair⟩ := except_bind_eq_ok.mp hpair
      obtain rfl := except_pure_eq_ok.mp hpair
      rfl
  have hnodup : (operations.map (·.1)).Nodup := by
    rw [hkeys]
    refine ((sortedBy_perm _ _).map _).nodup_iff.mpr ?_
    exact hids.sublist (List.filter_sublist.map _)
  have hall : ∀ fact ∈ ownFacts auditId table, ∃ operation,
      Dict.get? (Dict.ofList operations) fact.factId = some operation ∧
        Acceptable fact operation := by
    intro fact hfact
    obtain ⟨policy, hpolicy, hok⟩ := (h fact hfact).policy
    obtain ⟨pair, hpair, hread⟩ := mapM_exists_output hoperations hfact
    obtain ⟨other, hother, hread⟩ := except_bind_eq_ok.mp hread
    obtain rfl := except_pure_eq_ok.mp hread
    obtain rfl := Except.ok.inj (hpolicy.symm.trans hother)
    exact ⟨_, (Dict.get?_ofList hnodup).mpr hpair, hok⟩
  obtain ⟨drafts, hdrafts⟩ : ∃ drafts, resolveSecurityFacts uuid5 audit.auditId audit.deviceId
      (ownFacts auditId table) (Dict.get? (Dict.ofList operations)) = .ok drafts :=
    resolveSecurityFacts_completes hnonzero.1 hnonzero.2 hall
  refine ⟨drafts, _, ?_, hdrafts⟩
  exact except_bind_eq_ok.mpr ⟨audit, validateResolverFacts_passes haudit hboundary h,
    except_bind_eq_ok.mpr ⟨operations, hoperations, hdrafts⟩⟩

/-- The states of an audit keep the identities that their fields and scopes determine. -/
def Deterministic (uuid5 : UUID → String → UUID) (auditId : UUID)
    (states : List EffectiveStateRow) : Prop :=
  ∀ state ∈ states, state.auditId = auditId → state.effectiveStateId =
    uuid5 effectiveStateNamespace (auditId.str ++ ":" ++ state.fieldId ++ ":" ++ state.scopeKey)

/-- One draft is stored. -/
theorem persist_completes {auditId : UUID}
    (haudit : auditOf store auditId organizationId = some audit)
    (hboundary : checkBoundary store organizationId audit = .ok pinnedPack)
    (hids : (table.map (·.factId)).Nodup)
    (h : ∀ fact ∈ ownFacts auditId table, Passes store.training audit pinnedPack fact)
    {operations : UUID → Option FactOperation} {drafts : List EffectiveStateDraft}
    (hrun : resolveSecurityFacts uuid5 audit.auditId audit.deviceId (ownFacts auditId table)
      operations = .ok drafts) {draft : EffectiveStateDraft} (hdraft : draft ∈ drafts)
    {states : List EffectiveStateRow} (hstates : Deterministic uuid5 auditId states) :
    ∃ rows, persistEffectiveState uuid5 store organizationId table states draft = .ok rows ∧
      Deterministic uuid5 auditId rows := by
  obtain ⟨field, items, -, hitems, hfrom⟩ := resolveSecurityFacts_from hrun hdraft
  have hdraftAudit : draft.auditId = auditId := hfrom.audit.trans (auditOf_id haudit)
  obtain ⟨hid, hchecks⟩ := validateDraft_eq_ok.mp hfrom.valid
  simp only [deterministicEffectiveStateId, except_bind_eq_ok, except_pure_eq_ok] at hid
  obtain ⟨_, -, key, hkey, hid⟩ := hid
  -- the facts under the ids that the draft cites
  have hcited : ∀ fact ∈ table, draft.sourceFactIds.contains fact.factId = true →
      fact ∈ ownFacts auditId table ∧ fact.fieldId = draft.fieldId := by
    intro fact hfact hcites
    rw [List.contains_iff_mem, hfrom.sources, sourceIds, mem_sortedBy, List.mem_dedup] at hcites
    obtain ⟨item, hitem, hsame⟩ := List.mem_map.mp hcites
    obtain ⟨hown, -, hfield⟩ := hitems item hitem
    obtain rfl := List.inj_on_of_nodup_map hids (mem_ownFacts.mp hown).1 hfact hsame
    exact ⟨hown, hfield⟩
  have hlength : (table.filter fun fact => draft.sourceFactIds.contains fact.factId).length =
      draft.sourceFactIds.length := by
    have hnodup : draft.sourceFactIds.Nodup := by
      have hsources := hchecks.sources
      simp only [Bool.or_eq_false_iff, decide_eq_false_iff_not, not_not] at hsources
      exact hsources.1
    rw [← List.length_map (·.factId)]
    refine ((List.perm_ext_iff_of_nodup (hids.sublist (List.filter_sublist.map _))
      hnodup).mpr fun id => ?_).length_eq
    simp only [List.mem_map, List.mem_filter, List.contains_iff_mem]
    constructor
    · rintro ⟨fact, ⟨-, hcites⟩, rfl⟩
      exact hcites
    · intro hcites
      have hsource := hcites
      rw [hfrom.sources, sourceIds, mem_sortedBy, List.mem_dedup] at hsource
      obtain ⟨item, hitem, rfl⟩ := List.mem_map.mp hsource
      exact ⟨item.fact, ⟨(mem_ownFacts.mp (hitems item hitem).1).1, hcites⟩, rfl⟩
  have hvalidated : validateResolverFacts store draft.auditId organizationId
      (table.filter fun fact => draft.sourceFactIds.contains fact.factId) = .ok audit := by
    rw [hdraftAudit]
    refine validateResolverFacts_passes haudit hboundary fun fact hfact => ?_
    obtain ⟨hfact, hcites⟩ := List.mem_filter.mp hfact
    exact h fact (hcited fact hfact hcites).1
  have hfields : raiseIf ((table.filter fun fact =>
      draft.sourceFactIds.contains fact.factId).any (·.fieldId != draft.fieldId))
      (invalid "EffectiveState source field is incompatible") = .ok () := by
    rw [raiseIf_eq_ok, List.any_eq_false]
    intro fact hfact
    obtain ⟨hfact, hcites⟩ := List.mem_filter.mp hfact
    simp [(hcited fact hfact hcites).2]
  have hsources : raiseIf ((table.filter fun fact =>
      draft.sourceFactIds.contains fact.factId).length != draft.sourceFactIds.length)
      (invalid "EffectiveState source fact is missing") = .ok () := by
    rw [raiseIf_eq_ok, hlength, bne_self_eq_false]
  cases hfind : states.find? fun state => state.auditId == draft.auditId &&
      state.fieldId == draft.fieldId && state.scopeKey == key with
  | some existing =>
    have hmatch := List.find?_some hfind
    simp only [Bool.and_eq_true, beq_iff_eq] at hmatch
    have hsame : existing.effectiveStateId = draft.effectiveStateId := by
      rw [hstates existing (List.mem_of_find?_eq_some hfind) (hmatch.1.1.trans hdraftAudit),
        hmatch.1.2, hmatch.2, ← hid, hdraftAudit]
    refine ⟨states, ?_, hstates⟩
    unfold persistEffectiveState
    simp only [except_bind_eq_ok]
    refine ⟨(), hfrom.valid, (), hsources, audit, hvalidated, (), hfields, key, hkey, ?_⟩
    simp only [hfind, hsame, bne_self_eq_false]
    rfl
  | none =>
    refine ⟨states ++ [stateRow draft key], ?_, fun state hstate hown => ?_⟩
    · unfold persistEffectiveState
      simp only [except_bind_eq_ok]
      refine ⟨(), hfrom.valid, (), hsources, audit, hvalidated, (), hfields, key, hkey, ?_⟩
      simp only [hfind]
      rfl
    rcases List.mem_append.mp hstate with hold | hnew
    · exact hstates state hold hown
    · obtain rfl := List.mem_singleton.mp hnew
      simp only [stateRow, ← hid, hdraftAudit]

/-- An audit whose facts pass is resolved, and its states are stored. -/
theorem resolveAudit_completes {auditId : UUID}
    (haudit : auditOf store auditId organizationId = some audit)
    (hboundary : checkBoundary store organizationId audit = .ok pinnedPack)
    (hnonzero : audit.auditId.int ≠ 0 ∧ audit.deviceId.int ≠ 0)
    (hids : (table.map (·.factId)).Nodup)
    (h : ∀ fact ∈ ownFacts auditId table, Passes store.training audit pinnedPack fact)
    (states : List EffectiveStateRow) :
    ∃ rows, resolveAuditEffectiveStates uuid5 store auditId organizationId table states =
      .ok rows := by
  obtain ⟨drafts, operations, hdrafts, hrun⟩ : ∃ drafts operations, resolveDrafts uuid5 store
      auditId organizationId (ownFacts auditId table) = .ok drafts ∧ _ :=
    resolveDrafts_completes haudit hboundary hnonzero hids h
  have hfold : ∀ rest ⊆ drafts, ∀ states, Deterministic uuid5 auditId states →
      ∃ rows, rest.foldlM (persistEffectiveState uuid5 store organizationId table) states =
        .ok rows := by
    intro rest
    induction rest with
    | nil => exact fun _ states _ => ⟨states, rfl⟩
    | cons draft rest ih =>
      intro hsub states hstates
      obtain ⟨next, hnext, hkept⟩ := persist_completes haudit hboundary hids h hrun
        (hsub List.mem_cons_self) hstates
      obtain ⟨rows, hrows⟩ := ih (fun d hd => hsub (List.mem_cons_of_mem _ hd)) next hkept
      exact ⟨rows, by rw [List.foldlM_cons, hnext]; exact hrows⟩
  obtain ⟨rows, hrows⟩ := hfold drafts (List.Subset.refl _) (states.filter (·.auditId != auditId))
    fun state hstate hown => by
      have hother := (List.mem_filter.mp hstate).2
      simp [hown] at hother
  exact ⟨rows, except_bind_eq_ok.mpr ⟨drafts, hdrafts, hrows⟩⟩

end Stored

end ConfigAuditor.EffectiveState.Completion
