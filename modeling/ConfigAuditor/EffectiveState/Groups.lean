import ConfigAuditor.EffectiveState.VtyPartition

/-!
# The groups of the resolver

Facts are sorted by field, scope and identity before they are grouped, so each group holds
the facts of one key and each key has one group. The drafts of a run therefore name distinct
fields and scopes.
-/
namespace ConfigAuditor.EffectiveState.Groups

open Library SecurityModel Policy Model Resolver VtyPartition

def scopeTypes : List String :=
  ["device", "vty_range", "interface", "administrator", "management_service"]

theorem scopeType_of_valid {scope : ScopeRef} (h : validateScope scope = .ok ()) :
    scope.type ∈ scopeTypes := by
  rw [validateScope_eq_ok] at h
  unfold scopeValid at h
  by_contra hno
  simp only [scopeTypes, List.mem_cons, List.not_mem_nil, or_false, not_or] at hno
  obtain ⟨hdevice, hvty, hinterface, hadministrator, hservice⟩ := hno
  simp [hdevice, hvty, hinterface, hadministrator, hservice] at h

/-- No type of a scope sorts after the VTY ranges. -/
theorem scopeTypes_le : ∀ type ∈ scopeTypes, type ≤ "vty_range" := by decide

theorem scopeTypes_colon : ∀ type ∈ scopeTypes, ':' ∉ type.toList := by decide

/-- A canonical scope key determines the type and the key of its scope. -/
theorem canonicalScopeKey_injective {scope scope' : ScopeRef} {key : String}
    (h : canonicalScopeKey scope = .ok key) (h' : canonicalScopeKey scope' = .ok key) :
    scope.type = scope'.type ∧ scope.key = scope'.key := by
  simp only [canonicalScopeKey, except_bind_eq_ok, except_pure_eq_ok] at h h'
  obtain ⟨_, hvalid, rfl⟩ := h
  obtain ⟨_, hvalid', heq⟩ := h'
  have hfree := scopeTypes_colon _ (scopeType_of_valid hvalid)
  have hfree' := scopeTypes_colon _ (scopeType_of_valid hvalid')
  have hchars : ∀ s : ScopeRef, (s.type ++ "::" ++ s.key).toList =
      s.type.toList ++ ':' :: (':' :: s.key.toList) := by
    intro s
    have hcolons : "::".toList = [':', ':'] := rfl
    simp [hcolons]
  have hsplit := Text.splitFirst_append ':' scope.type.toList (':' :: scope.key.toList) hfree
  rw [← hchars scope, ← heq, hchars scope', Text.splitFirst_append _ _ _ hfree'] at hsplit
  simp only [Option.some.injEq, Prod.mk.injEq, List.cons.injEq, true_and, String.toList_inj]
    at hsplit
  exact ⟨hsplit.1.symm, hsplit.2.symm⟩

theorem scopeKeyOf_eq {scope scope' : ScopeRef} :
    scopeKeyOf scope = scopeKeyOf scope' ↔ scope.type = scope'.type ∧ scope.key = scope'.key := by
  simp [scopeKeyOf]

/-- The bounds of a VTY scope are read off its key. -/
theorem vtyBounds_congr {scope scope' : ScopeRef} (h : scopeKeyOf scope = scopeKeyOf scope') :
    vtyBounds scope = vtyBounds scope' := by
  obtain ⟨htype, hkey⟩ := scopeKeyOf_eq.mp h
  simp only [vtyBounds, htype, hkey]

theorem resolverKey_le {a b : ClassifiedFact} (h : resolverKey a ≤ resolverKey b) :
    a.fact.fieldId ≤ b.fact.fieldId ∧
      (a.fact.fieldId = b.fact.fieldId → scopeKeyOf a.scope ≤ scopeKeyOf b.scope) := by
  simp only [resolverKey, Prod.Lex.toLex_le_toLex] at h
  rcases h with hlt | ⟨heq, hlt | ⟨hscope, -⟩⟩
  · exact ⟨hlt.le, fun heq => absurd heq hlt.ne⟩
  · exact ⟨heq.le, fun _ => hlt.le⟩
  · exact ⟨heq.le, fun _ => hscope.le⟩

/-- Facts of one field in the order of scope and identity. -/
structure FieldFacts (fieldId : String) (facts : List ClassifiedFact) : Prop where
  field : ∀ item ∈ facts, item.fact.fieldId = fieldId
  sorted : facts.Pairwise fun a b => resolverKey a ≤ resolverKey b
  valid : ∀ item ∈ facts, validateScope item.scope = .ok ()

theorem FieldFacts.scopes {fieldId : String} {facts : List ClassifiedFact}
    (h : FieldFacts fieldId facts) :
    facts.Pairwise fun a b => scopeKeyOf a.scope ≤ scopeKeyOf b.scope := by
  refine h.sorted.imp_of_mem fun ha hb hab => ?_
  exact (resolverKey_le hab).2 ((h.field _ ha).trans (h.field _ hb).symm)

/-- If the first fact of a field has a VTY scope, all have. -/
theorem FieldFacts.all_vty {fieldId : String} {first : ClassifiedFact}
    {rest : List ClassifiedFact} (h : FieldFacts fieldId (first :: rest))
    (hfirst : first.scope.type = "vty_range") : ValidScopes (first :: rest) := by
  intro item hitem
  refine ⟨?_, h.valid item hitem⟩
  rcases List.mem_cons.mp hitem with rfl | hrest
  · exact hfirst
  · have hle := (List.pairwise_cons.mp h.scopes).1 item hrest
    have htype : first.scope.type ≤ item.scope.type := by
      simp only [scopeKeyOf, Prod.Lex.toLex_le_toLex] at hle
      rcases hle with hlt | ⟨heq, -⟩
      · exact hlt.le
      · exact heq.le
    rw [hfirst] at htype
    exact le_antisymm (scopeTypes_le _ (scopeType_of_valid (h.valid item hitem))) htype

/-- The fields of the facts of a run. -/
def fieldIds (classified : List ClassifiedFact) : List String :=
  sortedSet (classified.map (·.fact.fieldId))

/-- The facts of one field, as the resolver groups them. -/
def factsOf (classified : List ClassifiedFact) (fieldId : String) : List ClassifiedFact :=
  (sortedBy resolverKey classified).filter (·.fact.fieldId = fieldId)

/-- The resolver's groups are the facts of each field. -/
theorem fieldGroups_eq (classified : List ClassifiedFact) :
    groupRuns (fun item : ClassifiedFact => item.fact.fieldId) (sortedBy resolverKey classified) =
      (fieldIds classified).map (factsOf classified) := by
  have hsorted : (sortedBy resolverKey classified).Pairwise fun a b =>
      a.fact.fieldId ≤ b.fact.fieldId :=
    (pairwise_sortedBy resolverKey classified).imp fun hab => (resolverKey_le hab).1
  rw [groupRuns_eq_filters hsorted]
  have hperm := (sortedBy_perm resolverKey classified).map (·.fact.fieldId)
  rw [sortedSet_congr fun f => hperm.mem_iff]
  rfl

theorem fieldFacts_factsOf {classified : List ClassifiedFact}
    (hvalid : ∀ item ∈ classified, validateScope item.scope = .ok ()) (fieldId : String) :
    FieldFacts fieldId (factsOf classified fieldId) := by
  refine ⟨?_, (pairwise_sortedBy resolverKey classified).filter _, ?_⟩
  · intro item hitem
    simpa using (List.mem_filter.mp hitem).2
  · intro item hitem
    exact hvalid item ((mem_sortedBy _).mp (List.mem_filter.mp hitem).1)

/-- The facts of one scope of a field. -/
def scopeFacts (facts : List ClassifiedFact) (key : String ×ₗ String) : List ClassifiedFact :=
  facts.filter (scopeKeyOf ·.scope = key)

/-- The scopes of the facts of a field. -/
def scopeKeys (facts : List ClassifiedFact) : List (String ×ₗ String) :=
  sortedSet (facts.map (scopeKeyOf ·.scope))

theorem FieldFacts.identity {fieldId : String} {facts : List ClassifiedFact}
    (h : FieldFacts fieldId facts) :
    facts.Pairwise fun a b => (toLex (scopeKeyOf a.scope, a.fact.factId.int) :
      (String ×ₗ String) ×ₗ Nat) ≤ toLex (scopeKeyOf b.scope, b.fact.factId.int) := by
  refine h.sorted.imp_of_mem fun ha hb hab => ?_
  simp only [resolverKey, Prod.Lex.toLex_le_toLex] at hab
  rcases hab with hlt | ⟨-, hle⟩
  · rw [h.field _ ha, h.field _ hb] at hlt
    exact absurd hlt (lt_irrefl _)
  · exact Prod.Lex.toLex_le_toLex.mpr hle

theorem scopeFacts_ne_nil {facts : List ClassifiedFact} {key : String ×ₗ String}
    (h : key ∈ scopeKeys facts) : scopeFacts facts key ≠ [] := by
  obtain ⟨item, hitem, rfl⟩ := List.mem_map.mp (mem_sortedSet.mp h)
  exact List.ne_nil_of_mem (a := item) (List.mem_filter.mpr ⟨hitem, decide_eq_true rfl⟩)

end ConfigAuditor.EffectiveState.Groups
