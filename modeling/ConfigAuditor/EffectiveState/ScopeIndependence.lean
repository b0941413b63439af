import ConfigAuditor.EffectiveState.ScopeTypes

/-!
# Scope types are not independent

A field is resolved with and without the facts of its other scope types. The drafts of one
type agree exactly when the same facts are held back and no VTY range would be cut: beside a
fact for the device, overlapping ranges are not partitioned.
-/
namespace ConfigAuditor.EffectiveState.ScopeIndependence

open Library SecurityModel Policy Model Resolver VtyPartition Resolved Groups OrderIndependence
  ScopeTypes

section Field

variable {uuid5 : UUID → String → UUID} {auditId deviceId : UUID} {fieldId : String}
  {items : List ClassifiedFact} {drafts drafts' : List EffectiveStateDraft}

/-- The facts of a field that are held back. -/
def heldItems (blockedIds : List UUID) (items : List ClassifiedFact) : List ClassifiedFact :=
  items.filter fun item => blockedIds.contains item.fact.factId

theorem mem_heldItems {blockedIds : List UUID} {item : ClassifiedFact} :
    item ∈ heldItems blockedIds items ↔ item ∈ items ∧ item.fact.factId ∈ blockedIds := by
  rw [heldItems, List.mem_filter, List.contains_iff_mem]

theorem heldItems_eq_iff {type : String} {blockedIds blockedIds' : List UUID} :
    heldItems blockedIds items = heldItems blockedIds' (typeFacts items type) ↔
      ∀ item ∈ items, item.fact.factId ∈ blockedIds ↔
        item.scope.type = type ∧ item.fact.factId ∈ blockedIds' := by
  constructor
  · intro hsame item hitem
    have hleft : item ∈ heldItems blockedIds items ↔ _ := mem_heldItems
    rw [hsame, mem_heldItems, typeFacts, List.mem_filter, decide_eq_true_eq] at hleft
    tauto
  · intro hsame
    rw [heldItems, heldItems, typeFacts, List.filter_filter]
    refine List.filter_congr fun item hitem => ?_
    rw [Bool.eq_iff_iff, Bool.and_eq_true, List.contains_iff_mem, List.contains_iff_mem,
      decide_eq_true_eq, hsame item hitem, and_comm]

/-- A field with facts held back states only those. -/
theorem resolveField_held {blockedIds : List UUID} (hfacts : FieldFacts fieldId items)
    (h : resolveField uuid5 auditId deviceId blockedIds items = .ok drafts)
    (hheld : heldItems blockedIds items ≠ []) :
    resolveBlocked uuid5 auditId deviceId fieldId (heldItems blockedIds items) = .ok drafts := by
  cases items with
  | nil => exact absurd rfl hheld
  | cons first rest =>
    simp only [resolveField, hfacts.field first List.mem_cons_self, except_bind_eq_ok] at h
    obtain ⟨policy, -, h⟩ := h
    rw [if_pos (by simpa [heldItems] using hheld)] at h
    exact h

/-- A field without facts held back is resolved by its cardinality. -/
theorem resolveField_free {blockedIds : List UUID} (hfacts : FieldFacts fieldId items)
    (hne : items ≠ []) (h : resolveField uuid5 auditId deviceId blockedIds items = .ok drafts)
    (hfree : heldItems blockedIds items = []) :
    ∃ field, fieldRegistry fieldId = some field ∧
      (field.repeatable = false → resolveScalarField uuid5 auditId deviceId fieldId items =
        .ok drafts) ∧
      (field.repeatable = true → resolveRepeatableField uuid5 auditId deviceId fieldId items =
        .ok drafts) := by
  cases items with
  | nil => exact absurd rfl hne
  | cons first rest =>
    simp only [resolveField, hfacts.field first List.mem_cons_self, except_bind_eq_ok] at h
    obtain ⟨policy, hpolicy, h⟩ := h
    rw [if_neg (by simpa [heldItems] using hfree)] at h
    unfold getFieldPolicy at hpolicy
    cases hreg : fieldRegistry fieldId with
    | none => simp [hreg] at hpolicy
    | some field =>
      simp only [hreg, Except.ok.injEq] at hpolicy
      subst hpolicy
      refine ⟨field, rfl, fun hrep => ?_, fun hrep => ?_⟩
      · simp only [fieldPolicy, hrep] at h
        exact h
      · simp only [fieldPolicy, hrep] at h
        exact h

/-- Without a partition the field is resolved scope by scope. -/
theorem resolveScalarField_groups {first : ClassifiedFact} {rest : List ClassifiedFact}
    (hfacts : FieldFacts fieldId (first :: rest)) (hfirst : first.scope.type ≠ "vty_range") :
    resolveScalarField uuid5 auditId deviceId fieldId (first :: rest) =
      (groupRuns (fun item : ClassifiedFact => scopeKeyOf item.scope) (first :: rest)).mapM
        (groupDraft uuid5 auditId deviceId fieldId) := by
  rw [resolveScalarField, if_pos hfirst]
  rw [show sortedBy (fun item : ClassifiedFact =>
      (toLex (scopeKeyOf item.scope, item.fact.factId.int) : (String ×ₗ String) ×ₗ Nat))
      (first :: rest) = first :: rest from hfacts.identity.insertionSort_eq]
  rfl

theorem groupDraft_scope {head : ClassifiedFact} {rest : List ClassifiedFact}
    {draft : EffectiveStateDraft}
    (h : groupDraft uuid5 auditId deviceId fieldId (head :: rest) = .ok draft) :
    scopeKeyOf draft.scope = scopeKeyOf head.scope := by
  rw [(resolveScalarScope_scope h).1]

theorem scalar_unblocked (hfacts : FieldFacts fieldId items) (hne : items ≠ [])
    (h : resolveScalarField uuid5 auditId deviceId fieldId items = .ok drafts) :
    drafts ≠ [] ∧ ∀ draft ∈ drafts, draft.unresolvedReason ≠ some .missingEvidence := by
  cases items with
  | nil => exact absurd rfl hne
  | cons first rest =>
    by_cases hvty : first.scope.type = "vty_range"
    · have hvalid := hfacts.all_vty hvty
      obtain ⟨ranges, hranges, hmem, hdraft⟩ := mem_cellDrafts hvalid hne h
      constructor
      · obtain ⟨htype, hv⟩ := hvalid first List.mem_cons_self
        obtain ⟨start, finish, hbounds, -, hle, -⟩ := vtyBounds_of_valid htype hv
        have hcover := (coversLine_of_bounds hbounds start).mpr ⟨le_rfl, hle⟩
        obtain ⟨cell, hcell, -⟩ :=
          (cells_cover hranges start).mpr ⟨first, List.mem_cons_self, hcover⟩
        obtain ⟨draft, hd⟩ := hdraft cell hcell
        exact List.ne_nil_of_mem ((hmem draft).mpr ⟨cell, hcell, hd⟩)
      · intro draft hd
        obtain ⟨cell, -, hresolved⟩ := (hmem draft).mp hd
        exact (resolveScalarScope_reason hresolved).2
    · rw [resolveScalarField_groups hfacts hvty] at h
      refine ⟨groupDrafts_ne_nil hne h, fun draft hdraft => ?_⟩
      obtain ⟨group, -, hd⟩ := mapM_exists_input h hdraft
      cases group with
      | nil => cases hd
      | cons head tail => exact (resolveScalarScope_reason hd).2

theorem repeatable_unblocked (hne : items ≠ [])
    (h : resolveRepeatableField uuid5 auditId deviceId fieldId items = .ok drafts) :
    drafts ≠ [] ∧ ∀ draft ∈ drafts, draft.unresolvedReason ≠ some .missingEvidence := by
  simp only [resolveRepeatableField, except_bind_eq_ok] at h
  obtain ⟨keyed, hkeyed, h⟩ := h
  constructor
  · refine groupDrafts_ne_nil ?_ h
    obtain ⟨item, hitem⟩ := List.exists_mem_of_ne_nil _ hne
    obtain ⟨pair, hpair, -⟩ := mapM_exists_output hkeyed hitem
    exact List.ne_nil_of_mem ((mem_sortedBy _).mpr hpair)
  · intro draft hdraft
    obtain ⟨group, -, hd⟩ := mapM_exists_input h hdraft
    exact resolveCollection_reason hd

/-- A repeatable field is resolved scope by scope. -/
theorem repeatable_ofType {type : String}
    (h : resolveRepeatableField uuid5 auditId deviceId fieldId items = .ok drafts)
    (h' : resolveRepeatableField uuid5 auditId deviceId fieldId (typeFacts items type) =
      .ok drafts') (draft : EffectiveStateDraft) :
    draft ∈ drafts' ↔ draft ∈ drafts.filter (·.scope.type = type) := by
  simp only [resolveRepeatableField, except_bind_eq_ok] at h h'
  obtain ⟨keyed, hkeyed, h⟩ := h
  obtain ⟨keyed', hkeyed', h'⟩ := h'
  have hsub := mapM_filter (p := fun item : ClassifiedFact => item.scope.type = type)
    (q := fun pair : String × ClassifiedFact => pair.2.scope.type = type) hkeyed (by
      intro item pair hpair
      simp only [except_bind_eq_ok, except_pure_eq_ok] at hpair
      obtain ⟨_, -, rfl⟩ := hpair
      rfl)
  rw [typeFacts, hsub, Except.ok.injEq] at hkeyed'
  subst hkeyed'
  rw [← filter_sortedBy] at h'
  refine groupDrafts_ofType (pairwise_sortedBy_fst _ _ keyed) h ?_ h' draft
  intro head rest draft hd
  rw [(resolveCollection_scope hd).1]

/-- A scalar field without facts held back: the other scope types matter only to ranges that
a partition would change. -/
theorem scalar_ofType {type : String} (hfacts : FieldFacts fieldId items)
    (hids : (items.map (·.fact.factId)).Nodup)
    (hscope : ∀ item ∈ items, item.scope = item.fact.scope) (hne : typeFacts items type ≠ [])
    (h : resolveScalarField uuid5 auditId deviceId fieldId items = .ok drafts)
    (h' : resolveScalarField uuid5 auditId deviceId fieldId (typeFacts items type) =
      .ok drafts') :
    (∀ view, view ∈ drafts'.map draftView ↔
      view ∈ (drafts.filter (·.scope.type = type)).map draftView) ↔
      (type = "vty_range" → (∃ item ∈ items, item.scope.type ≠ type) →
        RangesApart ((typeFacts items type).map (·.fact))) := by
  have hkept : FieldFacts fieldId (typeFacts items type) := fieldFacts_typeFacts hfacts type
  have htypes : ∀ item ∈ typeFacts items type, item.scope.type = type := fun item hitem =>
    of_decide_eq_true (List.mem_filter.mp hitem).2
  cases hitems : items with
  | nil => simp [hitems, typeFacts] at hne
  | cons first rest =>
    subst hitems
    by_cases hvty : first.scope.type = "vty_range"
    · -- All facts have VTY scopes: nothing is removed.
      have hvalid := hfacts.all_vty hvty
      obtain ⟨kept, hmem⟩ := List.exists_mem_of_ne_nil _ hne
      have htype : type = "vty_range" := by
        rw [← htypes kept hmem]
        exact (hvalid kept (List.mem_filter.mp hmem).1).1
      have hall : ∀ item ∈ first :: rest, item.scope.type = type := fun item hitem =>
        (hvalid item hitem).1.trans htype.symm
      have hsame : typeFacts (first :: rest) type = first :: rest :=
        List.filter_eq_self.mpr fun item hitem => decide_eq_true (hall item hitem)
      rw [hsame, h, Except.ok.injEq] at h'
      subst h'
      obtain ⟨ranges, -, hcells, -⟩ := mem_cellDrafts hvalid (List.cons_ne_nil _ _) h
      have hself : drafts.filter (·.scope.type = type) = drafts := by
        refine List.filter_eq_self.mpr fun draft hdraft => decide_eq_true ?_
        obtain ⟨cell, -, hd⟩ := (hcells draft).mp hdraft
        rw [(resolveScalarScope_scope hd).1, htype]
        rfl
      rw [hself]
      refine ⟨fun _ _ hother => ?_, fun _ _ => Iff.rfl⟩
      obtain ⟨item, hitem, hotherType⟩ := hother
      exact absurd (hall item hitem) hotherType
    · rw [resolveScalarField_groups hfacts hvty] at h
      by_cases htype : type = "vty_range"
      · -- The ranges are resolved scope by scope with the other facts, cell by cell alone.
        have hvalid : ValidScopes (typeFacts (first :: rest) type) := fun item hitem =>
          ⟨(htypes item hitem).trans htype, hkept.valid item hitem⟩
        obtain ⟨ranges, hranges, hcells, hcell⟩ := mem_cellDrafts hvalid hne h'
        have hboth : BothWays uuid5 auditId deviceId fieldId (typeFacts (first :: rest) type)
            ranges (drafts.filter (·.scope.type = type)) drafts' := by
          refine ⟨hkept, hvalid, hids.sublist (List.filter_sublist.map _), ?_, hranges, hcells,
            hcell, fun draft => ?_, fun item hitem => ofType_draft hfacts.scopes h hitem⟩
          · intro item hitem
            exact hscope item (List.mem_filter.mp hitem).1
          · rw [mem_ofType hfacts.scopes h (fun _ _ _ hd => groupDraft_scope hd)]
            simp only [List.mem_map, exists_exists_and_eq_and]
            rfl
        rw [hboth.views_iff]
        refine ⟨fun hapart _ _ => hapart, fun hapart => hapart htype ?_⟩
        exact ⟨first, List.mem_cons_self, fun heq => hvty (heq.trans htype)⟩
      · -- No range is involved: both runs go scope by scope.
        refine ⟨fun _ heq => absurd heq htype, fun _ view => ?_⟩
        cases hfilter : typeFacts (first :: rest) type with
        | nil => exact absurd hfilter hne
        | cons kept others =>
          rw [hfilter] at h' hkept htypes
          rw [resolveScalarField_groups hkept (by
            rw [htypes kept List.mem_cons_self]
            exact htype), ← hfilter] at h'
          simp only [List.mem_map]
          refine exists_congr fun draft => and_congr_left fun _ => ?_
          exact groupDrafts_ofType hfacts.scopes h (fun _ _ _ hd => groupDraft_scope hd) h' draft

/-- The drafts of a field without facts held back, none of which lacks evidence. -/
theorem free_drafts {blockedIds : List UUID} (hfacts : FieldFacts fieldId items)
    (hne : items ≠ []) (h : resolveField uuid5 auditId deviceId blockedIds items = .ok drafts)
    (hfree : heldItems blockedIds items = []) :
    drafts ≠ [] ∧ ∀ draft ∈ drafts, draft.unresolvedReason ≠ some .missingEvidence := by
  obtain ⟨field, -, hscalar, hrepeatable⟩ := resolveField_free hfacts hne h hfree
  cases hrep : field.repeatable with
  | false => exact scalar_unblocked hfacts hne (hscalar hrep)
  | true => exact repeatable_unblocked hne (hrepeatable hrep)

/-- Each draft of a field has the scope type of one of its facts. -/
theorem fieldDrafts_type {blockedIds : List UUID} (hfacts : FieldFacts fieldId items)
    (h : resolveField uuid5 auditId deviceId blockedIds items = .ok drafts)
    {draft : EffectiveStateDraft} (hdraft : draft ∈ drafts) :
    ∃ item ∈ items, draft.scope.type = item.scope.type := by
  by_cases hne : items = []
  · subst hne
    cases h
    cases hdraft
  by_cases hheld : heldItems blockedIds items = []
  · obtain ⟨field, -, hscalar, hrepeatable⟩ := resolveField_free hfacts hne h hheld
    cases hrep : field.repeatable with
    | false =>
      have hrun := hscalar hrep
      cases items with
      | nil => exact absurd rfl hne
      | cons first rest =>
        by_cases hvty : first.scope.type = "vty_range"
        · obtain ⟨ranges, -, hcells, -⟩ := mem_cellDrafts (hfacts.all_vty hvty) hne hrun
          obtain ⟨cell, -, hd⟩ := (hcells draft).mp hdraft
          refine ⟨first, List.mem_cons_self, ?_⟩
          rw [(resolveScalarScope_scope hd).1, hvty]
          rfl
        · rw [resolveScalarField_groups hfacts hvty] at hrun
          obtain ⟨group, hgroup, hd⟩ := mapM_exists_input hrun hdraft
          cases group with
          | nil => cases hd
          | cons head tail =>
            refine ⟨head, ?_, (scopeKeyOf_eq.mp (groupDraft_scope hd)).1⟩
            rw [← flatten_groupRuns (fun item : ClassifiedFact => scopeKeyOf item.scope)
              (first :: rest)]
            exact List.mem_flatten.mpr ⟨_, hgroup, List.mem_cons_self⟩
    | true =>
      have hrun := hrepeatable hrep
      simp only [resolveRepeatableField, except_bind_eq_ok] at hrun
      obtain ⟨keyed, hkeyed, hrun⟩ := hrun
      obtain ⟨group, hgroup, hd⟩ := mapM_exists_input hrun hdraft
      cases group with
      | nil => cases hd
      | cons head tail =>
        have hflat := List.mem_flatten.mpr ⟨_, hgroup, List.mem_cons_self⟩
        rw [flatten_groupRuns, mem_sortedBy] at hflat
        obtain ⟨item, hitem, hpair⟩ := mapM_exists_input hkeyed hflat
        simp only [except_bind_eq_ok, except_pure_eq_ok] at hpair
        obtain ⟨_, -, rfl⟩ := hpair
        exact ⟨item, hitem, congrArg ScopeRef.type (resolveCollection_scope hd).1⟩
  · obtain ⟨-, -, item, hitem, hd⟩ := resolveBlocked_ok (resolveField_held hfacts h hheld) draft
      hdraft
    exact ⟨item, (mem_heldItems.mp hitem).1, congrArg ScopeRef.type hd⟩

theorem exists_of_views {held free : List EffectiveStateDraft} {P : EffectiveStateDraft → Prop}
    (hne : held ≠ []) (hviews : ∀ view ∈ held.map draftView, view ∈ free.map draftView)
    (hP : ∀ d ∈ free, P d) : ∃ d ∈ held, ∃ d', draftView d' = draftView d ∧ P d' := by
  obtain ⟨d, hd⟩ := List.exists_mem_of_ne_nil _ hne
  obtain ⟨d', hd', hview⟩ := List.mem_map.mp (hviews _ (List.mem_map_of_mem hd))
  exact ⟨d, hd, d', hview, hP d' hd'⟩

/-- Two runs that hold facts of a field back state the same when they hold back the same. -/
theorem heldDrafts_iff {type : String} {blockedIds blockedIds' : List UUID}
    (hids : (items.map (·.fact.factId)).Nodup)
    (h : resolveBlocked uuid5 auditId deviceId fieldId (heldItems blockedIds items) = .ok drafts)
    (h' : resolveBlocked uuid5 auditId deviceId fieldId
      (heldItems blockedIds' (typeFacts items type)) = .ok drafts')
    (hheld' : heldItems blockedIds' (typeFacts items type) ≠ []) :
    (∀ view, view ∈ drafts'.map draftView ↔
      view ∈ (drafts.filter (·.scope.type = type)).map draftView) ↔
      heldItems blockedIds items = heldItems blockedIds' (typeFacts items type) := by
  have hblocked := resolveBlocked_ok h
  constructor
  · intro hviews
    obtain ⟨d, hd, d', hview, hd'⟩ := exists_of_views (resolveBlocked_ne_nil hheld' h')
      (fun view hview => (hviews view).mp hview)
      (fun d hd => (hblocked d (List.mem_filter.mp hd).1).1)
    have hsources := congrArg EffectiveStateDraft.sourceFactIds hview
    have hsame := hd'.symm.trans (hsources.trans (resolveBlocked_ok h' d hd).1)
    have hmem : ∀ held ⊆ items, ∀ item ∈ items,
        (item.fact.factId ∈ sourceIds held ↔ item ∈ held) := by
      intro held hsub item hitem
      rw [mem_sourceIds]
      refine ⟨fun ⟨twin, htwin, hid⟩ => ?_, fun hin => ⟨item, hin, rfl⟩⟩
      exact List.inj_on_of_nodup_map hids (hsub htwin) hitem hid ▸ htwin
    refine heldItems_eq_iff.mpr fun item hitem => ?_
    have hiff := hmem (heldItems blockedIds items) (List.filter_subset_self _) item hitem
    rw [hsame, hmem (heldItems blockedIds' (typeFacts items type))
      (fun x hx => (List.mem_filter.mp (List.mem_filter.mp hx).1).1) item hitem, mem_heldItems,
      mem_heldItems, typeFacts, List.mem_filter, decide_eq_true_eq] at hiff
    tauto
  · intro hsame view
    have hdrafts : drafts = drafts' := by
      rw [hsame, h', Except.ok.injEq] at h
      exact h.symm
    have hself : drafts.filter (·.scope.type = type) = drafts := by
      refine List.filter_eq_self.mpr fun draft hdraft => decide_eq_true ?_
      obtain ⟨-, -, item, hitem, hd⟩ := hblocked draft hdraft
      rw [hd]
      rw [hsame] at hitem
      exact of_decide_eq_true (List.mem_filter.mp (List.mem_filter.mp hitem).1).2
    rw [hself, hdrafts]

/-- The drafts of a field for one scope type are the same without the other scope types exactly
when the same facts are held back and no range would be cut. -/
theorem fieldDrafts_iff {type : String} {blockedIds blockedIds' : List UUID}
    (hfacts : FieldFacts fieldId items) (hids : (items.map (·.fact.factId)).Nodup)
    (hscope : ∀ item ∈ items, item.scope = item.fact.scope) (hne : typeFacts items type ≠ [])
    (h : resolveField uuid5 auditId deviceId blockedIds items = .ok drafts)
    (h' : resolveField uuid5 auditId deviceId blockedIds' (typeFacts items type) = .ok drafts') :
    (∀ view, view ∈ drafts'.map draftView ↔
      view ∈ (drafts.filter (·.scope.type = type)).map draftView) ↔
      heldItems blockedIds items = heldItems blockedIds' (typeFacts items type) ∧
      (heldItems blockedIds items = [] →
        (∃ field, fieldRegistry fieldId = some field ∧ field.repeatable = false) →
        type = "vty_range" → (∃ item ∈ items, item.scope.type ≠ type) →
        RangesApart ((typeFacts items type).map (·.fact))) := by
  have hkept : FieldFacts fieldId (typeFacts items type) := fieldFacts_typeFacts hfacts type
  have hall : items ≠ [] := by
    rintro rfl
    exact hne rfl
  by_cases hheld : heldItems blockedIds items = []
  · obtain ⟨hdrafts, hreason⟩ := free_drafts hfacts hall h hheld
    by_cases hheld' : heldItems blockedIds' (typeFacts items type) = []
    · obtain ⟨field, hfield, hscalar, hrepeatable⟩ := resolveField_free hfacts hall h hheld
      obtain ⟨field', hfield', hscalar', hrepeatable'⟩ := resolveField_free hkept hne h' hheld'
      obtain rfl : field' = field := by simpa using hfield'.symm.trans hfield
      rw [hheld, hheld']
      cases hrep : field'.repeatable with
      | false =>
        rw [scalar_ofType hfacts hids hscope hne (hscalar hrep) (hscalar' hrep)]
        exact ⟨fun hranges => ⟨rfl, fun _ _ => hranges⟩,
          fun hranges => hranges.2 rfl ⟨field', hfield, hrep⟩⟩
      | true =>
        refine ⟨fun _ => ⟨rfl, fun _ hscalarField => ?_⟩, fun _ view => ?_⟩
        · obtain ⟨other, hother, hno⟩ := hscalarField
          rw [hfield, Option.some.injEq] at hother
          rw [← hother, hrep] at hno
          exact absurd hno (by decide)
        · simp only [List.mem_map]
          refine exists_congr fun draft => and_congr_left fun _ => ?_
          exact repeatable_ofType (hrepeatable hrep) (hrepeatable' hrep) draft
    · -- Facts are held back only when the others are gone.
      have hblocked := resolveBlocked_ok (resolveField_held hkept h' hheld')
      refine ⟨fun hviews => ?_, fun hsame => absurd (hsame.1.symm.trans hheld) hheld'⟩
      obtain ⟨d, hd, d', hview, hd'⟩ := exists_of_views
        (resolveBlocked_ne_nil hheld' (resolveField_held hkept h' hheld'))
        (fun view hview => (hviews view).mp hview)
        (fun d hd => hreason d (List.mem_filter.mp hd).1)
      have hsameReason := congrArg EffectiveStateDraft.unresolvedReason hview
      exact absurd (hsameReason.trans (hblocked d hd).2.1) hd'
  · have hblocked := resolveBlocked_ok (resolveField_held hfacts h hheld)
    by_cases hheld' : heldItems blockedIds' (typeFacts items type) = []
    · -- Facts are held back only together with the others.
      obtain ⟨hdrafts', hreason'⟩ := free_drafts hkept hne h' hheld'
      refine ⟨fun hviews => ?_, fun hsame => absurd (hsame.1.trans hheld') hheld⟩
      obtain ⟨d, hd, d', hview, hd'⟩ := exists_of_views hdrafts'
        (fun view hview => (hviews view).mp hview)
        (fun d hd => (hblocked d (List.mem_filter.mp hd).1).2.1)
      have hsameReason := congrArg EffectiveStateDraft.unresolvedReason hview
      exact absurd (hsameReason.symm.trans hd') (hreason' d hd)
    · rw [heldDrafts_iff hids (resolveField_held hfacts h hheld)
        (resolveField_held hkept h' hheld') hheld']
      exact ⟨fun hsame => ⟨hsame, fun hnone => absurd hnone hheld⟩, fun hsame => hsame.1⟩

end Field

section Run

variable {uuid5 : UUID → String → UUID} {auditId deviceId : UUID} {facts : List SecurityFact}
  {operations : UUID → Option FactOperation} {classified : List ClassifiedFact}
  {fieldId type : String}

theorem heldAlike_iff (hclassified : classifyFacts facts operations = .ok classified) :
    heldItems (blockedDependencyIds facts) (factsOf classified fieldId) =
        heldItems (blockedDependencyIds (withoutOthers facts fieldId type))
          (typeFacts (factsOf classified fieldId) type) ↔
      HeldAlike facts fieldId type := by
  rw [heldItems_eq_iff]
  constructor
  · intro hsame fact hfact hfield
    obtain ⟨item, hitem, rfl⟩ := exists_factsOf hclassified hfact hfield
    obtain ⟨-, -, hscope⟩ := mem_factsOf hclassified hitem
    rw [hsame item hitem, hscope]
  · intro hsame item hitem
    obtain ⟨hfact, hfield, hscope⟩ := mem_factsOf hclassified hitem
    rw [hsame item.fact hfact hfield, hscope]

theorem rangesApart_iff (hclassified : classifyFacts facts operations = .ok classified) :
    RangesApart ((typeFacts (factsOf classified fieldId) type).map (·.fact)) ↔
      RangesApart (ofType facts fieldId type) := by
  have hmem : ∀ fact, fact ∈ (typeFacts (factsOf classified fieldId) type).map (·.fact) ↔
      fact ∈ ofType facts fieldId type := by
    intro fact
    rw [ofType, List.mem_filter, Bool.and_eq_true, beq_iff_eq, beq_iff_eq]
    constructor
    · intro hin
      obtain ⟨item, hitem, rfl⟩ := List.mem_map.mp hin
      obtain ⟨hitems, htype⟩ := List.mem_filter.mp hitem
      obtain ⟨hfact, hfield, hscope⟩ := mem_factsOf hclassified hitems
      exact ⟨hfact, hfield, hscope ▸ of_decide_eq_true htype⟩
    · rintro ⟨hfact, hfield, htype⟩
      obtain ⟨item, hitem, rfl⟩ := exists_factsOf hclassified hfact hfield
      obtain ⟨-, -, hscope⟩ := mem_factsOf hclassified hitem
      refine List.mem_map_of_mem (List.mem_filter.mpr ⟨hitem, decide_eq_true ?_⟩)
      rw [hscope, htype]
  exact ⟨RangesApart.congr hmem, RangesApart.congr fun fact => (hmem fact).symm⟩

theorem independent_iff (hclassified : classifyFacts facts operations = .ok classified) :
    (heldItems (blockedDependencyIds facts) (factsOf classified fieldId) =
        heldItems (blockedDependencyIds (withoutOthers facts fieldId type))
          (typeFacts (factsOf classified fieldId) type) ∧
      (heldItems (blockedDependencyIds facts) (factsOf classified fieldId) = [] →
        (∃ field, fieldRegistry fieldId = some field ∧ field.repeatable = false) →
        type = "vty_range" → (∃ item ∈ factsOf classified fieldId, item.scope.type ≠ type) →
        RangesApart ((typeFacts (factsOf classified fieldId) type).map (·.fact)))) ↔
      Independent facts fieldId type := by
  have hnone : heldItems (blockedDependencyIds facts) (factsOf classified fieldId) = [] ↔
      ∀ fact ∈ facts, fact.fieldId = fieldId → fact.factId ∉ blockedDependencyIds facts := by
    rw [List.eq_nil_iff_forall_not_mem]
    simp only [mem_heldItems, not_and]
    constructor
    · intro hno fact hfact hfield
      obtain ⟨item, hitem, rfl⟩ := exists_factsOf hclassified hfact hfield
      exact hno item hitem
    · intro hno item hitem
      obtain ⟨hfact, hfield, -⟩ := mem_factsOf hclassified hitem
      exact hno item.fact hfact hfield
  have hother : (∃ item ∈ factsOf classified fieldId, item.scope.type ≠ type) ↔
      ∃ fact ∈ facts, fact.fieldId = fieldId ∧ fact.scope.type ≠ type := by
    constructor
    · rintro ⟨item, hitem, htype⟩
      obtain ⟨hfact, hfield, hscope⟩ := mem_factsOf hclassified hitem
      exact ⟨item.fact, hfact, hfield, hscope ▸ htype⟩
    · rintro ⟨fact, hfact, hfield, htype⟩
      obtain ⟨item, hitem, rfl⟩ := exists_factsOf hclassified hfact hfield
      obtain ⟨-, -, hscope⟩ := mem_factsOf hclassified hitem
      exact ⟨item, hitem, hscope.symm ▸ htype⟩
  rw [heldAlike_iff hclassified, rangesApart_iff hclassified, hnone, hother]
  exact ⟨fun h => ⟨h.1, h.2⟩, fun h => ⟨h.held, h.ranges⟩⟩

/-- The drafts of a field for the scopes of one type are the drafts without the facts of its
other scope types exactly when the same facts are held back for their dependencies and, for a
scalar field with other scope types, no VTY range would be cut. -/
theorem scope_types_independent_iff (uuid5 : UUID → String → UUID) (auditId deviceId : UUID)
    (facts : List SecurityFact) (operations : UUID → Option FactOperation)
    (fieldId type : String) (drafts drafts' : List EffectiveStateDraft)
    (hids : (facts.map (·.factId)).Nodup)
    (hrun : resolveSecurityFacts uuid5 auditId deviceId facts operations = .ok drafts)
    (hrun' : resolveSecurityFacts uuid5 auditId deviceId (withoutOthers facts fieldId type)
      operations = .ok drafts') :
    draftsOf drafts' fieldId type = draftsOf drafts fieldId type ↔
      ((∃ fact ∈ facts, fact.fieldId = fieldId ∧ fact.scope.type = type) →
        Independent facts fieldId type) := by
  obtain ⟨classified, hclassified⟩ : ∃ classified,
      classifyFacts facts operations = .ok classified := by
    simp only [resolveSecurityFacts, except_bind_eq_ok] at hrun
    obtain ⟨classified, hclassified, -⟩ := hrun
    exact ⟨classified, hclassified⟩
  have hvalid := classified_valid hclassified
  have hfacts := fieldFacts_factsOf hvalid fieldId
  have hscope : ∀ item ∈ factsOf classified fieldId, item.scope = item.fact.scope :=
    fun item hitem => (mem_factsOf hclassified hitem).2.2
  obtain ⟨fieldDrafts, hfield, hresolved, hdrafts⟩ := fieldRun hclassified hrun fieldId
  obtain ⟨fieldDrafts', hfield', hresolved', hdrafts'⟩ :=
    fieldRun (classifyFacts_withoutOthers hclassified) hrun' fieldId
  rw [factsOf_withoutOthers] at hresolved'
  have hkeptFacts : FieldFacts fieldId (typeFacts (factsOf classified fieldId) type) :=
    fieldFacts_typeFacts hfacts type
  have hkept : fieldDrafts'.filter (·.scope.type = type) = fieldDrafts' := by
    refine List.filter_eq_self.mpr fun draft hdraft => decide_eq_true ?_
    obtain ⟨item, hitem, hd⟩ := fieldDrafts_type hkeptFacts hresolved' hdraft
    rw [hd]
    exact of_decide_eq_true (List.mem_filter.mp hitem).2
  rw [draftsOf_eq hdrafts', draftsOf_eq hdrafts, hkept,
    sortedViews_eq (fieldDrafts_filter hfield _) hfield']
  by_cases hne : typeFacts (factsOf classified fieldId) type = []
  · have hno : ¬∃ fact ∈ facts, fact.fieldId = fieldId ∧ fact.scope.type = type := by
      rintro ⟨fact, hfact, hfactField, htype⟩
      obtain ⟨item, hitem, rfl⟩ := exists_factsOf hclassified hfact hfactField
      have hout := List.filter_eq_nil_iff.mp hne item hitem
      rw [hscope item hitem, htype] at hout
      simp at hout
    have hempty : fieldDrafts.filter (·.scope.type = type) = [] := by
      refine List.filter_eq_nil_iff.mpr fun draft hdraft => ?_
      obtain ⟨item, hitem, hd⟩ := fieldDrafts_type hfacts hresolved hdraft
      rw [hd]
      exact List.filter_eq_nil_iff.mp hne item hitem
    rw [hne] at hresolved'
    cases hresolved'
    rw [hempty]
    exact ⟨fun _ hsome => absurd hsome hno, fun _ _ => Iff.rfl⟩
  · have hsome : ∃ fact ∈ facts, fact.fieldId = fieldId ∧ fact.scope.type = type := by
      obtain ⟨item, hitem⟩ := List.exists_mem_of_ne_nil _ hne
      obtain ⟨hin, htype⟩ := List.mem_filter.mp hitem
      obtain ⟨hfact, hfactField, hitemScope⟩ := mem_factsOf hclassified hin
      exact ⟨item.fact, hfact, hfactField, hitemScope ▸ of_decide_eq_true htype⟩
    rw [fieldDrafts_iff hfacts (factsOf_ids hids hclassified) hscope hne hresolved hresolved',
      independent_iff hclassified]
    exact ⟨fun h _ => h, fun h => h hsome⟩

end Run

/-- A statement at `line` that sets SSH for the whole device. -/
def deviceSshFact (id line : Nat) (enabled : Bool) : SecurityFact :=
  { sshFact id line 0 4 enabled with
    scope := { type := "device", key := "device", attributes := [] } }

def mixedUuid5 : UUID → String → UUID := UUID.ofTable
  [("00000000-0000-0000-0000-000000000001:management.remote.ssh.enabled:device::device",
      0xb74c6104370e5bf18b8d5303503e5d56),
    ("00000000-0000-0000-0000-000000000001:management.remote.ssh.enabled:vty_range::vty:0-4",
      0x860917a0f93759ec9d26b57bdc5576a7),
    ("00000000-0000-0000-0000-000000000001:management.remote.ssh.enabled:vty_range::vty:2-9",
      0xad5a58454ee45414a6ee8ddf167616c8),
    ("00000000-0000-0000-0000-000000000001:management.remote.ssh.enabled:vty_range::vty:0-1",
      0x8dc06838bd945ab5a60f044f501ec0f3),
    ("00000000-0000-0000-0000-000000000001:management.remote.ssh.enabled:vty_range::vty:2-4",
      0xe0f243466eb05660ba834eb0326b227b),
    ("00000000-0000-0000-0000-000000000001:management.remote.ssh.enabled:vty_range::vty:5-9",
      0xd4ead48dd1775ac2bcb37ee1ca0ac658)]

/-- A statement for the device beside a statement for one range. -/
def apartFacts : List SecurityFact := [deviceSshFact 9 1 true, sshFact 10 2 0 4 false]

theorem scope_types_independent_apart :
    ∃ drafts drafts', resolveSecurityFacts mixedUuid5 (UUID.ofNat 1) (UUID.ofNat 2) apartFacts
        (fun _ => some .assign) = .ok drafts ∧
      resolveSecurityFacts mixedUuid5 (UUID.ofNat 1) (UUID.ofNat 2)
        (withoutOthers apartFacts "management.remote.ssh.enabled" "vty_range")
        (fun _ => some .assign) = .ok drafts' ∧
      (draftsOf drafts' "management.remote.ssh.enabled" "vty_range" =
          draftsOf drafts "management.remote.ssh.enabled" "vty_range" ↔
        ((∃ fact ∈ apartFacts, fact.fieldId = "management.remote.ssh.enabled" ∧
            fact.scope.type = "vty_range") →
          Independent apartFacts "management.remote.ssh.enabled" "vty_range")) := by
  obtain ⟨drafts, hrun⟩ := exists_of_isOk (x := resolveSecurityFacts mixedUuid5
    (UUID.ofNat 1) (UUID.ofNat 2) apartFacts fun _ => some .assign) (by decide +kernel)
  obtain ⟨drafts', hrun'⟩ := exists_of_isOk (x := resolveSecurityFacts mixedUuid5
    (UUID.ofNat 1) (UUID.ofNat 2)
    (withoutOthers apartFacts "management.remote.ssh.enabled" "vty_range") fun _ => some .assign)
    (by decide +kernel)
  exact ⟨drafts, drafts', hrun, hrun', scope_types_independent_iff _ _ _ apartFacts _ _ _ _ _
    (by decide) hrun hrun'⟩

/-- A statement for the device beside two statements for overlapping ranges. -/
def mixedFacts : List SecurityFact := deviceSshFact 9 1 true :: overlappingFacts

/-- Without the statement for the device the overlapping ranges are cut into three cells; with
it each range has a draft of its own and lines 2 to 4 have two. -/
theorem device_fact_stops_partition :
    ∃ drafts drafts', resolveSecurityFacts mixedUuid5 (UUID.ofNat 1) (UUID.ofNat 2) mixedFacts
        (fun _ => some .assign) = .ok drafts ∧
      resolveSecurityFacts mixedUuid5 (UUID.ofNat 1) (UUID.ofNat 2)
        (withoutOthers mixedFacts "management.remote.ssh.enabled" "vty_range")
        (fun _ => some .assign) = .ok drafts' ∧
      draftsOf drafts' "management.remote.ssh.enabled" "vty_range" ≠
        draftsOf drafts "management.remote.ssh.enabled" "vty_range" := by
  obtain ⟨drafts, hrun, hkeys⟩ := exists_of_toOption
    (x := resolveSecurityFacts mixedUuid5 (UUID.ofNat 1) (UUID.ofNat 2) mixedFacts
      fun _ => some .assign)
    (f := fun drafts => (draftsOf drafts "management.remote.ssh.enabled" "vty_range").map
      (·.scope.key)) (b := ["vty:0-4", "vty:2-9"]) (by decide +kernel)
  obtain ⟨drafts', hrun', hkeys'⟩ := exists_of_toOption
    (x := resolveSecurityFacts mixedUuid5 (UUID.ofNat 1) (UUID.ofNat 2)
      (withoutOthers mixedFacts "management.remote.ssh.enabled" "vty_range")
      fun _ => some .assign)
    (f := fun drafts => (draftsOf drafts "management.remote.ssh.enabled" "vty_range").map
      (·.scope.key)) (b := ["vty:0-1", "vty:2-4", "vty:5-9"]) (by decide +kernel)
  refine ⟨drafts, drafts', hrun, hrun', fun heq => ?_⟩
  simp only [heq, hkeys] at hkeys'
  exact absurd hkeys' (by decide)

end ConfigAuditor.EffectiveState.ScopeIndependence
