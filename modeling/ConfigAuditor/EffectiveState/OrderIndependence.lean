import ConfigAuditor.EffectiveState.Groups
import ConfigAuditor.EffectiveState.Resolved

/-!
# Resolution does not depend on the order of the facts

Facts with distinct identities resolve to the same drafts in every order. The drafts name
distinct fields and scopes, so every one of them is stored.
-/
namespace ConfigAuditor.EffectiveState.OrderIndependence

open Library SecurityModel Policy Model Resolver Service VtyPartition Resolved
  Groups

section Dependencies

variable {facts facts' : List SecurityFact}

theorem dependencyGraph_get? (hids : (facts.map (·.factId)).Nodup) {id : UUID}
    {dependencies : List UUID} :
    Dict.get? (dependencyGraph facts) id = some dependencies ↔
      ∃ fact ∈ facts, fact.factId = id ∧ knownDependencies fact = dependencies := by
  have hkeys : ((facts.map fun fact => (fact.factId, knownDependencies fact)).map (·.1)).Nodup := by
    rw [List.map_map]
    exact hids
  rw [dependencyGraph, Dict.get?_ofList hkeys, List.mem_map]
  simp only [Prod.mk.injEq]

theorem dependencyGraph_perm (hids : (facts.map (·.factId)).Nodup) (hperm : facts.Perm facts')
    (id : UUID) :
    Dict.get? (dependencyGraph facts') id = Dict.get? (dependencyGraph facts) id := by
  have hids' : (facts'.map (·.factId)).Nodup := (hperm.map _).nodup_iff.mp hids
  refine Option.ext fun dependencies => ?_
  rw [dependencyGraph_get? hids', dependencyGraph_get? hids]
  simp only [hperm.mem_iff]

/-- The traversal reads the graph through lookups only. -/
theorem traversalBlocked_congr {graph graph' : List (UUID × List UUID)}
    (h : ∀ id, Dict.get? graph' id = Dict.get? graph id) (root : UUID) (fuel : Nat)
    (seen stack : List UUID) :
    traversalBlocked graph' root fuel seen stack = traversalBlocked graph root fuel seen stack := by
  induction fuel generalizing seen stack with
  | zero => rfl
  | succ fuel ih =>
    cases stack with
    | nil => rfl
    | cons current stack => simp only [traversalBlocked, h, ih]

theorem mem_blockedDependencyIds {id : UUID} :
    id ∈ blockedDependencyIds facts ↔
      (∃ fact ∈ facts, fact.factId = id ∧ fact.dependencies.any (fun d => match d with
        | some dependency => !(facts.map (·.factId)).contains dependency
        | none => true) = true) ∨
      (id ∈ facts.map (·.factId) ∧
        traversalBlocked (dependencyGraph facts) id 130 [] [id] = true) := by
  have hkeys : id ∈ (dependencyGraph facts).map (·.1) ↔ id ∈ facts.map (·.factId) := by
    rw [dependencyGraph, (Dict.keys_ofList _).2, List.map_map]
    rfl
  simp only [blockedDependencyIds, List.mem_append, List.mem_filter, List.mem_map, hkeys]
  constructor
  · rintro (⟨fact, ⟨hfact, hany⟩, rfl⟩ | h)
    · exact .inl ⟨fact, hfact, rfl, hany⟩
    · exact .inr h
  · rintro (⟨fact, hfact, rfl, hany⟩ | h)
    · exact .inl ⟨fact, ⟨hfact, hany⟩, rfl⟩
    · exact .inr h

/-- The order of the facts does not change which of them are blocked. -/
theorem blockedDependencyIds_perm (hids : (facts.map (·.factId)).Nodup)
    (hperm : facts.Perm facts') (id : UUID) :
    id ∈ blockedDependencyIds facts' ↔ id ∈ blockedDependencyIds facts := by
  have hnames := (hperm.map (·.factId)).mem_iff (a := id)
  have hcontains : ∀ d, (facts'.map (·.factId)).contains d = (facts.map (·.factId)).contains d := by
    intro d
    rw [Bool.eq_iff_iff, List.contains_iff_mem, List.contains_iff_mem,
      (hperm.map (·.factId)).mem_iff]
  rw [mem_blockedDependencyIds, mem_blockedDependencyIds,
    traversalBlocked_congr (dependencyGraph_perm hids hperm)]
  simp only [hperm.mem_iff, hnames, hcontains]

theorem resolveField_congr {uuid5 : UUID → String → UUID} {auditId deviceId : UUID}
    {blocked blocked' : List UUID} (h : ∀ id, id ∈ blocked' ↔ id ∈ blocked)
    (items : List ClassifiedFact) :
    resolveField uuid5 auditId deviceId blocked' items =
      resolveField uuid5 auditId deviceId blocked items := by
  have hcontains : ∀ id, blocked'.contains id = blocked.contains id := by
    intro id
    rw [Bool.eq_iff_iff, List.contains_iff_mem, List.contains_iff_mem, h]
  cases items with
  | nil => rfl
  | cons first rest => simp only [resolveField, hcontains]

end Dependencies

/-- Facts with distinct identities are told apart by the key the resolver sorts by. -/
theorem resolverKey_injective {classified : List ClassifiedFact}
    (hids : (classified.map (·.fact.factId)).Nodup) :
    ∀ a ∈ classified, ∀ b ∈ classified, resolverKey a = resolverKey b → a = b := by
  intro a ha b hb hab
  simp only [resolverKey, EmbeddingLike.apply_eq_iff_eq, Prod.mk.injEq] at hab
  exact List.inj_on_of_nodup_map hids ha hb (UUID.int_injective hab.2.2)

theorem resolveSecurityFacts_perm {uuid5 : UUID → String → UUID} {auditId deviceId : UUID}
    {facts facts' : List SecurityFact} {operations : UUID → Option FactOperation}
    {drafts : List EffectiveStateDraft} (hids : (facts.map (·.factId)).Nodup)
    (hperm : facts.Perm facts')
    (h : resolveSecurityFacts uuid5 auditId deviceId facts operations = .ok drafts) :
    resolveSecurityFacts uuid5 auditId deviceId facts' operations = .ok drafts := by
  simp only [resolveSecurityFacts, except_bind_eq_ok, except_pure_eq_ok] at h ⊢
  obtain ⟨classified, hclassified, groups, hgroups, rfl⟩ := h
  obtain ⟨classified', hclassified', hperm'⟩ := mapM_perm hperm hclassified
  refine ⟨classified', hclassified', groups, ?_, rfl⟩
  have hnames : (classified.map (·.fact.factId)).Nodup := by
    rw [mapM_map (g := (·.fact.factId)) (k := (·.factId)) hclassified]
    · exact hids
    · intro fact item hitem
      rw [(classify_ok hitem).1]
  have hsorted := sortedBy_eq_of_perm hperm' (resolverKey_injective hnames)
  have hsame : resolveField uuid5 auditId deviceId (blockedDependencyIds facts') =
      resolveField uuid5 auditId deviceId (blockedDependencyIds facts) :=
    funext fun items => resolveField_congr (blockedDependencyIds_perm hids hperm) items
  rw [← hsorted, hsame]
  exact hgroups

section Distinct

variable {uuid5 : UUID → String → UUID} {auditId deviceId : UUID} {fieldId : String}
  {facts : List ClassifiedFact} {drafts : List EffectiveStateDraft}

/-- The drafts of one field, each for a scope of its own. -/
structure FieldDrafts (fieldId : String) (drafts : List EffectiveStateDraft) : Prop where
  field : ∀ draft ∈ drafts, draft.fieldId = fieldId
  scopes : (drafts.map (scopeKeyOf ·.scope)).Nodup

theorem blocked_distinct (h : resolveBlocked uuid5 auditId deviceId fieldId facts = .ok drafts) :
    FieldDrafts fieldId drafts := by
  have hdraft : ∀ draft ∈ drafts, draft.fieldId = fieldId := by
    intro draft hdraft
    obtain ⟨entry, -, hd⟩ := mapM_exists_input h hdraft
    exact (unknownState_scope hd).2
  refine ⟨hdraft, ?_⟩
  have hkeys : drafts.map (·.scope.key) =
      (Dict.ofList (facts.map fun item => (item.scope.key, item.scope))).map (·.1) := by
    refine mapM_map_of_mem h fun entry hentry draft hd => ?_
    obtain ⟨item, -, rfl⟩ := List.mem_map.mp (Dict.mem_ofList hentry)
    rw [(unknownState_scope hd).1]
  have hnodup : (drafts.map (·.scope.key)).Nodup := hkeys ▸ (Dict.keys_ofList _).1
  refine List.Nodup.of_map (fun key : String ×ₗ String => (ofLex key).2) ?_
  rw [List.map_map]
  exact hnodup

/-- A loop over the groups of a sorted list gives one result for each key. -/
theorem groups_nodup {α β δ : Type} [LinearOrder β] {key : α → β} {items : List α}
    {f : List α → Except Error δ} {tag : δ → β} {results : List δ}
    (hsorted : items.Pairwise fun a b => key a ≤ key b)
    (h : (groupRuns key items).mapM f = .ok results)
    (hf : ∀ head rest result, f (head :: rest) = .ok result → tag result = key head) :
    (results.map tag).Nodup := by
  rw [groupRuns_eq_filters hsorted, mapM_eq_ok, List.forall₂_map_left_iff] at h
  have hkeys : ∀ keys results, (∀ k ∈ keys, k ∈ items.map key) →
      List.Forall₂ (fun k result => f (items.filter (key · = k)) = .ok result) keys results →
      results.map tag = keys := by
    intro keys results hmem h
    induction h with
    | nil => rfl
    | @cons k result keys results hresult _ ih =>
      rw [List.map_cons, ih fun k hk => hmem k (List.mem_cons_of_mem _ hk)]
      congr 1
      obtain ⟨a, ha, hak⟩ := List.mem_map.mp (hmem k List.mem_cons_self)
      cases hgroup : items.filter (key · = k) with
      | nil => simpa [hak] using List.filter_eq_nil_iff.mp hgroup a ha
      | cons head rest =>
        have hhead : head ∈ items.filter (key · = k) := by simp [hgroup]
        rw [hf head rest result (hgroup ▸ hresult)]
        exact of_decide_eq_true (List.mem_filter.mp hhead).2
  rw [hkeys _ _ (fun k hk => mem_sortedSet.mp hk) h]
  exact nodup_sortedSet _

theorem scalar_distinct (hfacts : FieldFacts fieldId facts)
    (h : resolveScalarField uuid5 auditId deviceId fieldId facts = .ok drafts) :
    FieldDrafts fieldId drafts := by
  cases facts with
  | nil =>
    cases h
    exact ⟨by simp, List.nodup_nil⟩
  | cons first rest =>
    by_cases hvty : first.scope.type = "vty_range"
    · have hvalid := hfacts.all_vty hvty
      obtain ⟨ranges, hranges, hscopes, hdrafts⟩ := resolveScalarField_vty hvalid h
      refine ⟨?_, ?_⟩
      · intro draft hdraft
        obtain ⟨cell, -, -, hd⟩ := hdrafts draft hdraft
        exact (resolveScalarScope_scope hd).2
      · have hmap : drafts.map (scopeKeyOf ·.scope) =
            (Intervals.partition (fun r : ClassifiedFact × Int × Int => r.2.1) (fun r => r.2.2)
              ranges).map fun cell => scopeKeyOf (vtyScope cell.1.1 cell.1.2) := by
          have hkeys := congrArg (List.map scopeKeyOf) hscopes
          rwa [List.map_map, List.map_map] at hkeys
        rw [hmap, List.nodup_iff_pairwise_ne, List.pairwise_map]
        refine (Intervals.partition_disjoint _ _ ranges).imp_of_mem ?_
        intro cell cell' hcell hcell' hlt heq
        have hbounds := vtyBounds_congr heq
        rw [cell_bounds hvalid hranges hcell, cell_bounds hvalid hranges hcell',
          Except.ok.injEq, Prod.mk.injEq] at hbounds
        obtain ⟨hle, -⟩ := Intervals.partition_nonempty _ _ hcell'
        omega
    · simp only [resolveScalarField, ne_eq, hvty, not_false_eq_true, if_true] at h
      refine ⟨?_, groups_nodup (pairwise_sortedBy_fst _ _ _) h ?_⟩
      · intro draft hdraft
        obtain ⟨items, -, hd⟩ := mapM_exists_input h hdraft
        split at hd
        · cases hd
        · exact (resolveScalarScope_scope hd).2
      · intro head tail draft hd
        rw [(resolveScalarScope_scope hd).1]

theorem resolveCollection_scope {key : String} {head : ClassifiedFact}
    {rest : List (String × ClassifiedFact)} {draft : EffectiveStateDraft}
    (h : resolveCollection uuid5 auditId deviceId fieldId ((key, head) :: rest) = .ok draft) :
    draft.scope = head.scope ∧ draft.fieldId = fieldId := by
  simp only [resolveCollection, except_bind_eq_ok] at h
  obtain ⟨state, -, h⟩ := h
  split at h
  · exact unknownState_scope h
  · obtain ⟨id, -, rfl⟩ := makeEffectiveStateDraft_ok uuid5 h
    exact ⟨rfl, rfl⟩

theorem repeatable_distinct
    (h : resolveRepeatableField uuid5 auditId deviceId fieldId facts = .ok drafts) :
    FieldDrafts fieldId drafts := by
  simp only [resolveRepeatableField, except_bind_eq_ok] at h
  obtain ⟨keyed, -, h⟩ := h
  refine ⟨?_, groups_nodup (pairwise_sortedBy_fst _ _ keyed) h ?_⟩
  · intro draft hdraft
    obtain ⟨items, -, hd⟩ := mapM_exists_input h hdraft
    cases items with
    | nil => cases hd
    | cons head rest => exact (resolveCollection_scope hd).2
  · intro head rest draft hd
    rw [(resolveCollection_scope hd).1]

theorem field_distinct {blockedIds : List UUID} (hfacts : FieldFacts fieldId facts)
    (h : resolveField uuid5 auditId deviceId blockedIds facts = .ok drafts) :
    FieldDrafts fieldId drafts := by
  cases facts with
  | nil =>
    cases h
    exact ⟨by simp, List.nodup_nil⟩
  | cons first rest =>
    simp only [resolveField, hfacts.field first List.mem_cons_self, except_bind_eq_ok] at h
    obtain ⟨policy, -, h⟩ := h
    split at h
    · exact blocked_distinct h
    · cases hcard : policy.cardinality with
      | scalar =>
        rw [hcard] at h
        exact scalar_distinct hfacts h
      | repeatable =>
        rw [hcard] at h
        exact repeatable_distinct h

/-- The drafts of a run are told apart by field and scope. -/
theorem drafts_distinct {facts : List SecurityFact} {operations : UUID → Option FactOperation}
    {drafts : List EffectiveStateDraft}
    (h : resolveSecurityFacts uuid5 auditId deviceId facts operations = .ok drafts) :
    (drafts.map draftKey).Nodup := by
  simp only [resolveSecurityFacts, except_bind_eq_ok, except_pure_eq_ok] at h
  obtain ⟨classified, hclassified, groups, hgroups, rfl⟩ := h
  have hvalid : ∀ item ∈ classified, validateScope item.scope = .ok () := by
    intro item hitem
    obtain ⟨fact, -, hc⟩ := mapM_exists_input hclassified hitem
    obtain ⟨-, hscope, -, hvalid⟩ := classify_ok hc
    exact hscope ▸ hvalid
  rw [fieldGroups_eq] at hgroups
  have hfields : List.Forall₂ FieldDrafts (fieldIds classified) groups :=
    (List.forall₂_map_left_iff.mp (mapM_eq_ok.mp hgroups)).imp fun field drafts hd =>
      field_distinct (fieldFacts_factsOf hvalid field) hd
  have htagged : Tagged EffectiveStateDraft.fieldId id (fieldIds classified) groups :=
    hfields.imp fun field drafts hd => hd.field
  have hnodup : (groups.flatten.map fun d => (d.fieldId, scopeKeyOf d.scope)).Nodup := by
    refine tagged_nodup htagged ?_ ?_
    · rw [List.map_id]
      exact nodup_sortedSet _
    · intro group hgroup
      obtain ⟨items, hitems, hd⟩ := mapM_exists_input hgroups hgroup
      obtain ⟨field, -, rfl⟩ := List.mem_map.mp hitems
      exact (field_distinct (fieldFacts_factsOf hvalid field) hd).scopes
  exact (((sortedBy_perm draftKey groups.flatten).map draftKey).nodup_iff).mpr hnodup

end Distinct

theorem canonicalScopeKey_of_valid {uuid5 : UUID → String → UUID} {draft : EffectiveStateDraft}
    (h : validateEffectiveStateDraft uuid5 draft = .ok ()) :
    ∃ key, canonicalScopeKey draft.scope = .ok key := by
  simp only [validateEffectiveStateDraft, deterministicEffectiveStateId, except_bind_eq_ok] at h
  obtain ⟨_, -, _, ⟨_, -, key, hkey, -⟩, -⟩ := h
  exact ⟨key, hkey⟩

section Stored

variable {uuid5 : UUID → String → UUID} {store : Store} {organizationId : UUID}
  {facts : List SecurityFact}

/-- No stored state is there for the audit, field and scope of a draft. -/
def Free (states : List EffectiveStateRow) (draft : EffectiveStateDraft) : Prop :=
  ∀ state ∈ states, ∀ key, canonicalScopeKey draft.scope = .ok key →
    ¬(state.auditId = draft.auditId ∧ state.fieldId = draft.fieldId ∧ state.scopeKey = key)

theorem persist_free {states rows : List EffectiveStateRow} {draft : EffectiveStateDraft}
    (hfree : Free states draft)
    (h : persistEffectiveState uuid5 store organizationId facts states draft = .ok rows) :
    ∃ key, canonicalScopeKey draft.scope = .ok key ∧ rows = states ++ [stateRow draft key] := by
  simp only [persistEffectiveState, except_bind_eq_ok] at h
  obtain ⟨_, -, _, -, _, -, _, -, key, hkey, h⟩ := h
  refine ⟨key, hkey, ?_⟩
  split at h
  · rename_i existing hfind
    have hmatch := List.find?_some hfind
    simp only [Bool.and_eq_true, beq_iff_eq] at hmatch
    exact absurd ⟨hmatch.1.1, hmatch.1.2, hmatch.2⟩
      (hfree existing (List.mem_of_find?_eq_some hfind) key hkey)
  · exact (Except.ok.inj h).symm

/-- Drafts for distinct fields and scopes are all added. -/
theorem persist_all {drafts : List EffectiveStateDraft} {states rows : List EffectiveStateRow}
    (hfree : ∀ draft ∈ drafts, Free states draft) (hkeys : (drafts.map draftKey).Nodup)
    (h : drafts.foldlM (persistEffectiveState uuid5 store organizationId facts) states =
      .ok rows) :
    ∃ added, rows = states ++ added ∧ List.Forall₂ (fun draft row =>
      ∃ key, canonicalScopeKey draft.scope = .ok key ∧ row = stateRow draft key) drafts added := by
  induction drafts generalizing states with
  | nil =>
    simp only [List.foldlM_nil, except_pure_eq_ok] at h
    exact ⟨[], by simp [h], .nil⟩
  | cons draft rest ih =>
    rw [List.map_cons, List.nodup_cons] at hkeys
    simp only [List.foldlM_cons, except_bind_eq_ok] at h
    obtain ⟨next, hnext, h⟩ := h
    obtain ⟨key, hkey, rfl⟩ := persist_free (hfree draft List.mem_cons_self) hnext
    have hrest : ∀ other ∈ rest, Free (states ++ [stateRow draft key]) other := by
      intro other hother state hstate otherKey hotherKey hsame
      rcases List.mem_append.mp hstate with hold | hnew
      · exact hfree other (List.mem_cons_of_mem _ hother) state hold otherKey hotherKey hsame
      · obtain rfl := List.mem_singleton.mp hnew
        obtain ⟨-, hfield, rfl⟩ := hsame
        refine hkeys.1 (List.mem_map.mpr ⟨other, hother, ?_⟩)
        have hscope := scopeKeyOf_eq.mpr (canonicalScopeKey_injective hotherKey hkey)
        simp only [draftKey, hscope]
        exact congrArg (fun f => toLex (f, scopeKeyOf draft.scope)) hfield.symm
    obtain ⟨added, rfl, hadded⟩ := ih hrest hkeys.2 h
    exact ⟨stateRow draft key :: added, by simp, .cons ⟨key, hkey, rfl⟩ hadded⟩

end Stored

/-- Facts with distinct identities resolve to the same drafts in every order, the drafts have
distinct fields and canonical scope keys, and storing them where the audit has no states adds
one row for each. -/
theorem resolution_order_independent (uuid5 : UUID → String → UUID) (auditId deviceId : UUID)
    (facts : List SecurityFact) (operations : UUID → Option FactOperation)
    (drafts : List EffectiveStateDraft) (hids : (facts.map (·.factId)).Nodup)
    (hrun : resolveSecurityFacts uuid5 auditId deviceId facts operations = .ok drafts) :
    (∀ facts', facts.Perm facts' →
      resolveSecurityFacts uuid5 auditId deviceId facts' operations = .ok drafts) ∧
    (drafts.Pairwise fun d d' => ¬(d.fieldId = d'.fieldId ∧
      canonicalScopeKey d.scope = canonicalScopeKey d'.scope)) ∧
    ∀ store organizationId stored states rows, (∀ state ∈ states, state.auditId ≠ auditId) →
      drafts.foldlM (persistEffectiveState uuid5 store organizationId stored) states = .ok rows →
      ∃ added, rows = states ++ added ∧ List.Forall₂ (fun draft row =>
        ∃ key, canonicalScopeKey draft.scope = .ok key ∧ row = stateRow draft key)
        drafts added := by
  have hkeys := drafts_distinct hrun
  have hfrom := fun draft (hdraft : draft ∈ drafts) => resolveSecurityFacts_from hrun hdraft
  refine ⟨fun facts' hperm => resolveSecurityFacts_perm hids hperm hrun, ?_, ?_⟩
  · refine (List.pairwise_map.mp (List.nodup_iff_pairwise_ne.mp hkeys)).imp_of_mem ?_
    intro d d' hd hd' hne hsame
    obtain ⟨_, _, -, -, hd⟩ := hfrom d hd
    obtain ⟨key, hkey⟩ := canonicalScopeKey_of_valid hd.valid
    refine hne ?_
    have hscope := scopeKeyOf_eq.mpr (canonicalScopeKey_injective hkey (hsame.2 ▸ hkey))
    simp only [draftKey, hscope]
    exact congrArg (fun f => toLex (f, scopeKeyOf d'.scope)) hsame.1
  · intro store organizationId stored states rows hother h
    refine persist_all ?_ hkeys h
    intro draft hdraft state hstate key _ hsame
    obtain ⟨_, _, -, -, hd⟩ := hfrom draft hdraft
    exact hother state hstate (hsame.1.trans hd.audit)

theorem resolution_order_independent_overlapping :
    ∃ drafts, resolveSecurityFacts overlappingUuid5 (UUID.ofNat 1) (UUID.ofNat 2)
        overlappingFacts (fun _ => some .assign) = .ok drafts ∧
      resolveSecurityFacts overlappingUuid5 (UUID.ofNat 1) (UUID.ofNat 2)
        overlappingFacts.reverse (fun _ => some .assign) = .ok drafts := by
  obtain ⟨drafts, hrun⟩ := exists_of_isOk (x := resolveSecurityFacts overlappingUuid5
    (UUID.ofNat 1) (UUID.ofNat 2) overlappingFacts fun _ => some .assign) (by decide +kernel)
  obtain ⟨hperm, -⟩ := resolution_order_independent _ _ _ _ _ drafts (by decide) hrun
  exact ⟨drafts, hrun, hperm _ (List.reverse_perm _).symm⟩

end ConfigAuditor.EffectiveState.OrderIndependence
