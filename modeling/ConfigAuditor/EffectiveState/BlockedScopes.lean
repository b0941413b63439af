import ConfigAuditor.EffectiveState.DependencyBlocking
import ConfigAuditor.EffectiveState.ScopeIndependence

/-!
# What a blocked fact holds back

Without blocked facts every fact of a field is cited for a scope within its own. A blocked fact
replaces the resolution of its whole field: the other facts of the field are cited nowhere, and
blocked facts are cited for each other's scopes. Blocking stays within its scope exactly when
the facts of a field are blocked all together and for one scope.
-/
namespace ConfigAuditor.EffectiveState.BlockedScopes

open Library SecurityModel Policy Model Resolver VtyPartition Groups Resolved OrderIndependence
  ScopeTypes ScopeIndependence

/-- A scope is the other one, or a range of terminal lines in its range. -/
def Within (inner outer : ScopeRef) : Prop :=
  scopeKeyOf inner = scopeKeyOf outer ∨
    ∃ s e s' e', vtyBounds inner = .ok (s, e) ∧ vtyBounds outer = .ok (s', e') ∧ s' ≤ s ∧ e ≤ e'

theorem within_self (scope : ScopeRef) : Within scope scope := .inl rfl

theorem Within.congr_left {inner inner' outer : ScopeRef}
    (h : scopeKeyOf inner = scopeKeyOf inner') (hwithin : Within inner outer) :
    Within inner' outer := by
  rcases hwithin with hsame | ⟨s, e, s', e', hinner, houter, hle⟩
  · exact .inl (h.symm.trans hsame)
  · exact .inr ⟨s, e, s', e', vtyBounds_congr h ▸ hinner, houter, hle⟩

/-- Facts and drafts of one field: each fact is cited for a scope within its own, and each draft
cites only facts that apply to its scope. -/
structure Scoped (items : List ClassifiedFact) (drafts : List EffectiveStateDraft) : Prop where
  cited : ∀ item ∈ items, ∃ draft ∈ drafts, item.fact.factId ∈ draft.sourceFactIds ∧
    Within draft.scope item.scope
  applies : ∀ draft ∈ drafts, ∃ cited ⊆ items, draft.sourceFactIds = sourceIds cited ∧
    ∀ item ∈ cited, Within draft.scope item.scope

section Field

variable {uuid5 : UUID → String → UUID} {auditId deviceId : UUID} {fieldId : String}
  {items : List ClassifiedFact} {drafts : List EffectiveStateDraft}

/-- A field resolved scope by scope. -/
theorem scoped_of_groups {α : Type} {key : α → String ×ₗ String} {sorted : List α}
    {f : List α → Except Error EffectiveStateDraft} (factOf : α → ClassifiedFact)
    (hitems : ∀ item, item ∈ items ↔ ∃ a ∈ sorted, factOf a = item)
    (hkey : ∀ a, key a = scopeKeyOf (factOf a).scope)
    (hf : ∀ group draft, f group = .ok draft → draft.sourceFactIds = sourceIds (group.map factOf) ∧
      ∃ head ∈ group, scopeKeyOf draft.scope = key head)
    (h : (groupRuns key sorted).mapM f = .ok drafts) : Scoped items drafts := by
  have hflat := flatten_groupRuns key sorted
  constructor
  · intro item hitem
    obtain ⟨a, ha, rfl⟩ := (hitems item).mp hitem
    rw [← hflat] at ha
    obtain ⟨group, hgroup, hin⟩ := List.mem_flatten.mp ha
    obtain ⟨draft, hdraft, hd⟩ := mapM_exists_output h hgroup
    obtain ⟨hids, head, hhead, hscope⟩ := hf group draft hd
    refine ⟨draft, hdraft, ?_, .inl ?_⟩
    · rw [hids, mem_sourceIds]
      exact ⟨factOf a, List.mem_map_of_mem hin, rfl⟩
    · rw [hscope, eq_of_mem_groupRuns hgroup hhead hin, hkey]
  · intro draft hdraft
    obtain ⟨group, hgroup, hd⟩ := mapM_exists_input h hdraft
    obtain ⟨hids, head, hhead, hscope⟩ := hf group draft hd
    refine ⟨group.map factOf, ?_, hids, ?_⟩
    · intro item hitem
      obtain ⟨a, ha, rfl⟩ := List.mem_map.mp hitem
      have hin := List.mem_flatten.mpr ⟨group, hgroup, ha⟩
      rw [hflat] at hin
      exact (hitems _).mpr ⟨a, hin, rfl⟩
    · intro item hitem
      obtain ⟨a, ha, rfl⟩ := List.mem_map.mp hitem
      exact .inl (by rw [hscope, eq_of_mem_groupRuns hgroup hhead ha, hkey])

/-- A field resolved cell by cell. -/
theorem scoped_of_cells (hvalid : ValidScopes items) (hne : items ≠ [])
    (h : resolveScalarField uuid5 auditId deviceId fieldId items = .ok drafts) :
    Scoped items drafts := by
  obtain ⟨ranges, hranges, hmem, hcell⟩ := mem_cellDrafts hvalid hne h
  have hwithin : ∀ cell ∈ Intervals.partition (fun r : ClassifiedFact × Int × Int => r.2.1)
      (fun r => r.2.2) ranges, ∀ item ∈ cell.2.map (·.1), item ∈ items ∧
        Within (vtyScope cell.1.1 cell.1.2) item.scope := by
    intro cell hin item hitem
    obtain ⟨r, hr, rfl⟩ := List.mem_map.mp hitem
    obtain ⟨hrmem, hlow, hhigh⟩ := Intervals.partition_covered _ _ hin hr
    exact ⟨hranges.1 ▸ List.mem_map_of_mem hrmem, .inr ⟨_, _, _, _,
      cell_bounds hvalid hranges hin, hranges.2 r hrmem, hlow, hhigh⟩⟩
  constructor
  · intro item hitem
    obtain ⟨htype, hscope⟩ := hvalid item hitem
    obtain ⟨start, finish, hbounds, -, hle, -⟩ := vtyBounds_of_valid htype hscope
    have hcovers := (coversLine_of_bounds hbounds start).mpr ⟨le_rfl, hle⟩
    obtain ⟨cell, hin, hstart⟩ := (cells_cover hranges start).mpr ⟨item, hitem, hcovers⟩
    obtain ⟨draft, hd⟩ := hcell cell hin
    have hitemIn : item ∈ cell.2.map (·.1) := by
      rw [cell_facts hranges hin hstart]
      exact List.mem_filter.mpr ⟨hitem, hcovers⟩
    refine ⟨draft, (hmem draft).mpr ⟨cell, hin, hd⟩, ?_, ?_⟩
    · rw [(resolveScalarScope_reason hd).1, mem_sourceIds]
      exact ⟨item, hitemIn, rfl⟩
    · rw [(resolveScalarScope_scope hd).1]
      exact (hwithin cell hin item hitemIn).2
  · intro draft hdraft
    obtain ⟨cell, hin, hd⟩ := (hmem draft).mp hdraft
    refine ⟨cell.2.map (·.1), fun item hitem => (hwithin cell hin item hitem).1,
      (resolveScalarScope_reason hd).1, fun item hitem => ?_⟩
    rw [(resolveScalarScope_scope hd).1]
    exact (hwithin cell hin item hitem).2

/-- A field without blocked facts. -/
theorem scoped_of_free {blockedIds : List UUID} (hfacts : FieldFacts fieldId items)
    (h : resolveField uuid5 auditId deviceId blockedIds items = .ok drafts)
    (hfree : heldItems blockedIds items = []) : Scoped items drafts := by
  by_cases hne : items = []
  · subst hne
    cases h
    exact ⟨by simp, by simp⟩
  obtain ⟨field, -, hscalar, hrepeatable⟩ := resolveField_free hfacts hne h hfree
  cases hrep : field.repeatable with
  | false =>
    have hrun := hscalar hrep
    obtain ⟨first, rest, rfl⟩ := List.exists_cons_of_ne_nil hne
    by_cases hvty : first.scope.type = "vty_range"
    · exact scoped_of_cells (hfacts.all_vty hvty) hne hrun
    · rw [resolveScalarField_groups hfacts hvty] at hrun
      refine scoped_of_groups id (by simp) (fun _ => rfl) ?_ hrun
      intro group draft hd
      cases group with
      | nil => cases hd
      | cons head tail =>
        refine ⟨?_, head, List.mem_cons_self, groupDraft_scope hd⟩
        rw [List.map_id]
        exact (resolveScalarScope_reason hd).1
  | true =>
    have hrun := hrepeatable hrep
    simp only [resolveRepeatableField, except_bind_eq_ok] at hrun
    obtain ⟨keyed, hkeyed, hrun⟩ := hrun
    have hpair : ∀ (item : ClassifiedFact) (pair : String × ClassifiedFact),
        (do let key ← valueKey item.value; return (key, item)) = .ok pair → pair.2 = item := by
      intro item pair h
      simp only [except_bind_eq_ok, except_pure_eq_ok] at h
      obtain ⟨_, -, rfl⟩ := h
      rfl
    refine scoped_of_groups (fun pair : String × ClassifiedFact => pair.2) ?_ (fun _ => rfl) ?_ hrun
    · intro item
      constructor
      · intro hitem
        obtain ⟨pair, hp, hd⟩ := mapM_exists_output hkeyed hitem
        exact ⟨pair, (mem_sortedBy _).mpr hp, hpair item pair hd⟩
      · rintro ⟨pair, hp, rfl⟩
        obtain ⟨item, hitem, hd⟩ := mapM_exists_input hkeyed ((mem_sortedBy _).mp hp)
        rw [hpair item pair hd]
        exact hitem
    · intro group draft hd
      cases group with
      | nil => cases hd
      | cons head tail =>
        refine ⟨(resolveCollection_from hd).sources, head, List.mem_cons_self, ?_⟩
        rw [(resolveCollection_scope hd).1]

theorem mem_held_draft {blocked : List ClassifiedFact} {drafts : List EffectiveStateDraft}
    (h : resolveBlocked uuid5 auditId deviceId fieldId blocked = .ok drafts)
    {item : ClassifiedFact} (hitem : item ∈ blocked) :
    ∃ draft ∈ drafts, ∃ other ∈ blocked, draft.scope = other.scope ∧
      other.scope.key = item.scope.key := by
  have hkey : item.scope.key ∈
      (Dict.ofList (blocked.map fun item => (item.scope.key, item.scope))).map (·.1) := by
    rw [(Dict.keys_ofList _).2, List.map_map]
    exact List.mem_map_of_mem (f := fun item : ClassifiedFact => item.scope.key) hitem
  obtain ⟨entry, hentry, hsame⟩ := List.mem_map.mp hkey
  obtain ⟨draft, hdraft, hd⟩ := mapM_exists_output h hentry
  obtain ⟨other, hother, rfl⟩ := List.mem_map.mp (Dict.mem_ofList hentry)
  exact ⟨draft, hdraft, other, hother, (unknownState_ok hd).1, hsame⟩

theorem Within.type_eq {inner outer : ScopeRef} (h : Within inner outer) :
    inner.type = outer.type := by
  have hvty : ∀ scope bounds, vtyBounds scope = .ok bounds → scope.type = "vty_range" := by
    intro scope bounds hb
    simp only [vtyBounds, except_bind_eq_ok, raiseIf_eq_ok] at hb
    obtain ⟨_, htype, -⟩ := hb
    simpa using htype
  rcases h with hsame | ⟨_, _, _, _, hinner, houter, -⟩
  · exact (scopeKeyOf_eq.mp hsame).1
  · exact (hvty _ _ hinner).trans (hvty _ _ houter).symm

end Field

/-- The dependencies of the fact hold it back. -/
abbrev Blocked (facts : List SecurityFact) (fact : SecurityFact) : Prop :=
  fact.factId ∈ blockedDependencyIds facts

/-- The facts without the blocked ones of a field. -/
def withoutBlocked (facts : List SecurityFact) (fieldId : String) : List SecurityFact :=
  facts.filter fun fact => fact.fieldId != fieldId ||
    !(blockedDependencyIds facts).contains fact.factId

/-- A blocked fact matters for its own scope alone. -/
structure KeptApart (uuid5 : UUID → String → UUID) (auditId deviceId : UUID)
    (facts : List SecurityFact) (operations : UUID → Option FactOperation)
    (drafts : List EffectiveStateDraft) : Prop where
  cited : ∀ fact ∈ facts, ∃ draft ∈ drafts, fact.factId ∈ draft.sourceFactIds ∧
    Within draft.scope fact.scope
  applies : ∀ draft ∈ drafts, ∀ fact ∈ facts, fact.factId ∈ draft.sourceFactIds →
    Within draft.scope fact.scope
  unaffected : ∀ fieldId drafts', resolveSecurityFacts uuid5 auditId deviceId
      (withoutBlocked facts fieldId) operations = .ok drafts' →
    ∀ draft : EffectiveStateDraft, draft.fieldId = fieldId →
      (∀ fact ∈ facts, fact.fieldId = fieldId → Blocked facts fact →
        ¬Within draft.scope fact.scope) →
      (draft ∈ drafts ↔ draft ∈ drafts')

/-- The facts of a field are blocked all together, and for one scope. -/
def BlockedTogether (facts : List SecurityFact) : Prop :=
  ∀ fact ∈ facts, ∀ other ∈ facts, fact.fieldId = other.fieldId → Blocked facts fact →
    Blocked facts other ∧ Within fact.scope other.scope

section Run

variable {uuid5 : UUID → String → UUID} {auditId deviceId : UUID} {facts : List SecurityFact}
  {operations : UUID → Option FactOperation} {classified : List ClassifiedFact}
  {drafts fieldDrafts : List EffectiveStateDraft} {fieldId : String}

theorem mem_fieldDrafts
    (h : drafts.filter (fun draft => draft.fieldId = fieldId) = sortedBy draftKey fieldDrafts)
    (draft : EffectiveStateDraft) :
    draft ∈ fieldDrafts ↔ draft ∈ drafts ∧ draft.fieldId = fieldId := by
  rw [← mem_sortedBy draftKey, ← h, List.mem_filter, decide_eq_true_eq]

/-- Facts with one scope, all of them blocked. -/
theorem scoped_of_together {items : List ClassifiedFact}
    (hscope : ∀ a ∈ items, ∀ b ∈ items, Within a.scope b.scope)
    (h : resolveBlocked uuid5 auditId deviceId fieldId items = .ok drafts) :
    Scoped items drafts := by
  constructor
  · intro item hitem
    obtain ⟨draft, hdraft, other, hother, hsame, -⟩ := mem_held_draft h hitem
    refine ⟨draft, hdraft, ?_, hsame ▸ hscope other hother item hitem⟩
    rw [(resolveBlocked_ok h draft hdraft).1, mem_sourceIds]
    exact ⟨item, hitem, rfl⟩
  · intro draft hdraft
    obtain ⟨hids, -, item, hitem, hsame⟩ := resolveBlocked_ok h draft hdraft
    exact ⟨items, List.Subset.refl _, hids, fun other hother =>
      hsame ▸ hscope item hitem other hother⟩

theorem heldItems_self (hclassified : classifyFacts facts operations = .ok classified)
    (htogether : BlockedTogether facts)
    (hheld : heldItems (blockedDependencyIds facts) (factsOf classified fieldId) ≠ []) :
    heldItems (blockedDependencyIds facts) (factsOf classified fieldId) =
      factsOf classified fieldId := by
  obtain ⟨item, hitem⟩ := List.exists_mem_of_ne_nil _ hheld
  obtain ⟨hin, hblocked⟩ := mem_heldItems.mp hitem
  obtain ⟨hfact, hfield, -⟩ := mem_factsOf hclassified hin
  refine List.filter_eq_self.mpr fun other hother => ?_
  obtain ⟨hfact', hfield', -⟩ := mem_factsOf hclassified hother
  rw [List.contains_iff_mem]
  exact (htogether item.fact hfact other.fact hfact' (hfield.trans hfield'.symm) hblocked).1

theorem scoped_field (hclassified : classifyFacts facts operations = .ok classified)
    (htogether : BlockedTogether facts)
    (h : resolveField uuid5 auditId deviceId (blockedDependencyIds facts)
      (factsOf classified fieldId) = .ok fieldDrafts) :
    Scoped (factsOf classified fieldId) fieldDrafts := by
  have hfacts := fieldFacts_factsOf (classified_valid hclassified) fieldId
  by_cases hfree : heldItems (blockedDependencyIds facts) (factsOf classified fieldId) = []
  · exact scoped_of_free hfacts h hfree
  · have hrun := resolveField_held hfacts h hfree
    have hall := heldItems_self hclassified htogether hfree
    rw [hall] at hrun
    refine scoped_of_together (fun a ha b hb => ?_) hrun
    obtain ⟨hafact, hafield, hascope⟩ := mem_factsOf hclassified ha
    obtain ⟨hbfact, hbfield, hbscope⟩ := mem_factsOf hclassified hb
    rw [← hall] at ha
    rw [hascope, hbscope]
    exact (htogether a.fact hafact b.fact hbfact (hafield.trans hbfield.symm)
      (mem_heldItems.mp ha).2).2

theorem keptApart_of_together (hids : (facts.map (·.factId)).Nodup)
    (hclassified : classifyFacts facts operations = .ok classified)
    (hrun : resolveSecurityFacts uuid5 auditId deviceId facts operations = .ok drafts)
    (htogether : BlockedTogether facts) :
    KeptApart uuid5 auditId deviceId facts operations drafts := by
  constructor
  · intro fact hfact
    obtain ⟨fieldDrafts, -, hfield, hfilter⟩ := fieldRun hclassified hrun fact.fieldId
    obtain ⟨item, hitem, rfl⟩ := exists_factsOf hclassified hfact rfl
    obtain ⟨draft, hdraft, hcites, hwithin⟩ :=
      (scoped_field hclassified htogether hfield).cited item hitem
    rw [(mem_factsOf hclassified hitem).2.2] at hwithin
    exact ⟨draft, ((mem_fieldDrafts hfilter draft).mp hdraft).1, hcites, hwithin⟩
  · intro draft hdraft fact hfact hcites
    obtain ⟨fieldDrafts, -, hfield, hfilter⟩ := fieldRun hclassified hrun draft.fieldId
    obtain ⟨cited, hsub, hsources, happlies⟩ := (scoped_field hclassified htogether hfield).applies
      draft ((mem_fieldDrafts hfilter draft).mpr ⟨hdraft, rfl⟩)
    rw [hsources, mem_sourceIds] at hcites
    obtain ⟨item, hitem, hid⟩ := hcites
    obtain ⟨hmem, -, hscope⟩ := mem_factsOf hclassified (hsub hitem)
    obtain rfl := List.inj_on_of_nodup_map hids hmem hfact hid
    exact hscope ▸ happlies item hitem
  · intro fieldId drafts' hwithout draft hdraftField huncovered
    by_cases hblocked : ∃ fact ∈ facts, fact.fieldId = fieldId ∧ Blocked facts fact
    · obtain ⟨fact, hfact, hfactField, hheld⟩ := hblocked
      constructor
      · intro hdraft
        obtain ⟨fieldDrafts, -, hfield, hfilter⟩ := fieldRun hclassified hrun fieldId
        obtain ⟨item, hitem, rfl⟩ := exists_factsOf hclassified hfact hfactField
        have hne : heldItems (blockedDependencyIds facts) (factsOf classified fieldId) ≠ [] :=
          List.ne_nil_of_mem (mem_heldItems.mpr ⟨hitem, hheld⟩)
        have hheldRun := resolveField_held
          (fieldFacts_factsOf (classified_valid hclassified) fieldId) hfield hne
        obtain ⟨-, -, other, hother, hscope⟩ := resolveBlocked_ok hheldRun draft
          ((mem_fieldDrafts hfilter draft).mpr ⟨hdraft, hdraftField⟩)
        obtain ⟨hin, hotherHeld⟩ := mem_heldItems.mp hother
        obtain ⟨hotherFact, hotherField, hotherScope⟩ := mem_factsOf hclassified hin
        refine absurd ?_ (huncovered other.fact hotherFact hotherField hotherHeld)
        rw [hscope, hotherScope]
        exact within_self _
      · intro hdraft
        obtain ⟨field, items, -, hitems, hfrom⟩ := resolveSecurityFacts_from hwithout hdraft
        obtain ⟨item, hitem⟩ := List.exists_mem_of_ne_nil _ hfrom.cites
        obtain ⟨hmem, -, hitemField⟩ := hitems item hitem
        obtain ⟨hin, hkept⟩ := List.mem_filter.mp hmem
        have hout := (htogether fact hfact item.fact hin
          (hfactField.trans (hdraftField.symm.trans hitemField.symm)) hheld).1
        simp [hitemField, hdraftField, hout] at hkept
    · have hsame : withoutBlocked facts fieldId = facts := by
        refine List.filter_eq_self.mpr fun fact hfact => ?_
        by_cases hfield : fact.fieldId = fieldId
        · have hfree : ¬Blocked facts fact := fun hheld => hblocked ⟨fact, hfact, hfield, hheld⟩
          simp [hfree]
        · simp [hfield]
      rw [hsame, hrun, Except.ok.injEq] at hwithout
      rw [hwithout]

theorem together_of_keptApart (hids : (facts.map (·.factId)).Nodup)
    (hclassified : classifyFacts facts operations = .ok classified)
    (hrun : resolveSecurityFacts uuid5 auditId deviceId facts operations = .ok drafts)
    (h : KeptApart uuid5 auditId deviceId facts operations drafts) : BlockedTogether facts := by
  intro fact hfact other hother hsame hheld
  obtain ⟨fieldDrafts, -, hfield, hfilter⟩ := fieldRun hclassified hrun other.fieldId
  obtain ⟨item, hitem, rfl⟩ := exists_factsOf hclassified hfact hsame
  have hitemHeld : item ∈ heldItems (blockedDependencyIds facts)
      (factsOf classified other.fieldId) := mem_heldItems.mpr ⟨hitem, hheld⟩
  have hblocked := resolveField_held
    (fieldFacts_factsOf (classified_valid hclassified) other.fieldId) hfield
    (List.ne_nil_of_mem hitemHeld)
  -- every draft of the field cites all blocked facts and no other
  have hcites : ∀ draft ∈ drafts, draft.fieldId = other.fieldId → ∀ id,
      id ∈ draft.sourceFactIds ↔ ∃ held ∈ heldItems (blockedDependencyIds facts)
        (factsOf classified other.fieldId), held.fact.factId = id := by
    intro draft hdraft hdraftField id
    rw [(resolveBlocked_ok hblocked draft
      ((mem_fieldDrafts hfilter draft).mpr ⟨hdraft, hdraftField⟩)).1, mem_sourceIds]
  have hotherHeld : Blocked facts other := by
    obtain ⟨draft, hdraft, hcited, -⟩ := h.cited other hother
    obtain ⟨field, items, -, hitems, hfrom⟩ := resolveSecurityFacts_from hrun hdraft
    have hsource := hcited
    rw [hfrom.sources, mem_sourceIds] at hsource
    obtain ⟨source, hin, hid⟩ := hsource
    obtain ⟨hmem, -, hsourceField⟩ := hitems source hin
    have hsourceFact := List.inj_on_of_nodup_map hids hmem hother hid
    have hdraftField : draft.fieldId = other.fieldId := by rw [← hsourceField, hsourceFact]
    obtain ⟨held, hheldIn, hheldId⟩ := (hcites draft hdraft hdraftField other.factId).mp hcited
    rw [Blocked, ← hheldId]
    exact (mem_heldItems.mp hheldIn).2
  refine ⟨hotherHeld, ?_⟩
  obtain ⟨draft, hdraft, source, -, hscope, hkey⟩ := mem_held_draft hblocked hitemHeld
  obtain ⟨hin, hdraftField⟩ := (mem_fieldDrafts hfilter draft).mp hdraft
  obtain ⟨otherItem, hotherItem, hotherFact⟩ := exists_factsOf hclassified hother rfl
  have happliesOther := h.applies draft hin other hother ((hcites draft hin hdraftField _).mpr
    ⟨otherItem, mem_heldItems.mpr ⟨hotherItem, hotherFact ▸ hotherHeld⟩, by rw [hotherFact]⟩)
  have happlies := h.applies draft hin item.fact hfact ((hcites draft hin hdraftField _).mpr
    ⟨item, hitemHeld, rfl⟩)
  rw [← (mem_factsOf hclassified hitem).2.2] at happlies ⊢
  -- the draft has the scope of the fact: its key by the loop, its type as it applies
  refine Within.congr_left (scopeKeyOf_eq.mpr ⟨happlies.type_eq, ?_⟩) happliesOther
  rw [hscope, hkey]

/-- A blocked fact matters for its own scope alone exactly when the facts of a field are blocked
all together and for one scope. -/
theorem blocked_scopes_iff (uuid5 : UUID → String → UUID) (auditId deviceId : UUID)
    (facts : List SecurityFact) (operations : UUID → Option FactOperation)
    (drafts : List EffectiveStateDraft) (hids : (facts.map (·.factId)).Nodup)
    (hrun : resolveSecurityFacts uuid5 auditId deviceId facts operations = .ok drafts) :
    KeptApart uuid5 auditId deviceId facts operations drafts ↔ BlockedTogether facts := by
  have hrun' := hrun
  simp only [resolveSecurityFacts, except_bind_eq_ok] at hrun'
  obtain ⟨classified, hclassified, -⟩ := hrun'
  exact ⟨together_of_keptApart hids hclassified hrun, keptApart_of_together hids hclassified hrun⟩

end Run

/-- The fact for lines 0 to 4 has a missing dependency. -/
def heldFact : SecurityFact :=
  { sshFact 10 1 0 4 true with dependencies := [some (UUID.ofNat 99)] }

def heldUuid5 : UUID → String → UUID := UUID.ofTable
  [("00000000-0000-0000-0000-000000000001:management.remote.ssh.enabled:vty_range::vty:0-4",
      0x860917a0f93759ec9d26b57bdc5576a7)]

/-- A blocked fact alone in its field. -/
theorem blocked_scopes_iff_alone :
    ∃ drafts, resolveSecurityFacts heldUuid5 (UUID.ofNat 1) (UUID.ofNat 2) [heldFact]
        (fun _ => some .assign) = .ok drafts ∧
      (KeptApart heldUuid5 (UUID.ofNat 1) (UUID.ofNat 2) [heldFact] (fun _ => some .assign)
        drafts ↔ BlockedTogether [heldFact]) := by
  obtain ⟨drafts, hrun⟩ := exists_of_isOk (x := resolveSecurityFacts heldUuid5
    (UUID.ofNat 1) (UUID.ofNat 2) [heldFact] fun _ => some .assign) (by decide +kernel)
  exact ⟨drafts, hrun, blocked_scopes_iff _ _ _ _ _ drafts (by decide) hrun⟩

/-- SSH is allowed on lines 5 to 9, by a fact that depends on nothing. -/
def freeFact : SecurityFact := sshFact 11 2 5 9 true

/-- No state cites the fact for lines 5 to 9. -/
theorem free_fact_not_cited :
    ∃ drafts, resolveSecurityFacts heldUuid5 (UUID.ofNat 1) (UUID.ofNat 2) [heldFact, freeFact]
        (fun _ => some .assign) = .ok drafts ∧
      ¬KeptApart heldUuid5 (UUID.ofNat 1) (UUID.ofNat 2) [heldFact, freeFact]
        (fun _ => some .assign) drafts := by
  obtain ⟨drafts, hrun, hsources⟩ := exists_of_toOption (x := resolveSecurityFacts heldUuid5
    (UUID.ofNat 1) (UUID.ofNat 2) [heldFact, freeFact] fun _ => some .assign)
    (f := fun drafts => drafts.map (·.sourceFactIds)) (b := [[UUID.ofNat 10]]) (by decide +kernel)
  refine ⟨drafts, hrun, fun h => ?_⟩
  obtain ⟨draft, hdraft, hcited, -⟩ := h.cited freeFact (by simp)
  have hsource := List.mem_map_of_mem (f := (·.sourceFactIds)) hdraft
  rw [hsources, List.mem_singleton] at hsource
  rw [hsource, List.mem_singleton] at hcited
  revert hcited
  decide

end ConfigAuditor.EffectiveState.BlockedScopes
