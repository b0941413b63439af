import ConfigAuditor.EffectiveState.OrderIndependence

/-!
# The scope types of one field

A run on the facts of a field with one scope type is compared with the run on all of them.
Facts held back for their dependencies name each other across scope types, and the VTY ranges
of a scalar field are partitioned only when no fact of the field has another scope type.
-/
namespace ConfigAuditor.EffectiveState.ScopeTypes

open Library SecurityModel Policy Model Resolver VtyPartition Resolved Groups OrderIndependence

/-- The facts that stay when those of the field with another scope type are removed. -/
def withoutOthers (facts : List SecurityFact) (fieldId type : String) : List SecurityFact :=
  facts.filter fun fact => fact.fieldId != fieldId || fact.scope.type == type

def ofType (facts : List SecurityFact) (fieldId type : String) : List SecurityFact :=
  facts.filter fun fact => fact.fieldId == fieldId && fact.scope.type == type

/-- A scope as it compares: a dictionary has its entries in no order. -/
def scopeView (scope : ScopeRef) : ScopeRef :=
  { scope with attributes := sortedBy (·.1) scope.attributes }

def draftView (draft : EffectiveStateDraft) : EffectiveStateDraft :=
  { draft with scope := scopeView draft.scope }

/-- The drafts of a field for the scopes of one type. -/
def draftsOf (drafts : List EffectiveStateDraft) (fieldId type : String) :
    List EffectiveStateDraft :=
  (drafts.filter fun draft => draft.fieldId == fieldId && draft.scope.type == type).map draftView

/-- The same facts of the field are held back for their dependencies, with and without the
facts of the other scope types. -/
def HeldAlike (facts : List SecurityFact) (fieldId type : String) : Prop :=
  ∀ fact ∈ facts, fact.fieldId = fieldId →
    (fact.factId ∈ blockedDependencyIds facts ↔ fact.scope.type = type ∧
      fact.factId ∈ blockedDependencyIds (withoutOthers facts fieldId type))

/-- The scope is written the way the partition writes its cells. -/
def WrittenAsCell (scope : ScopeRef) : Prop :=
  ∃ start finish, vtyBounds scope = .ok (start, finish) ∧
    scopeView scope = scopeView (vtyScope start finish)

/-- A partition would leave the ranges of these facts as they are. -/
structure RangesApart (facts : List SecurityFact) : Prop where
  apart : ∀ fact ∈ facts, ∀ other ∈ facts, ∀ n, coversLine fact.scope n = true →
    coversLine other.scope n = true → scopeKeyOf fact.scope = scopeKeyOf other.scope
  written : ∀ fact ∈ facts, (∀ other ∈ facts, scopeKeyOf other.scope = scopeKeyOf fact.scope →
    fact.factId.int ≤ other.factId.int) → WrittenAsCell fact.scope

/-- The facts of the field with another scope type change nothing for this type. -/
structure Independent (facts : List SecurityFact) (fieldId type : String) : Prop where
  held : HeldAlike facts fieldId type
  ranges : (∀ fact ∈ facts, fact.fieldId = fieldId → fact.factId ∉ blockedDependencyIds facts) →
    (∃ field, fieldRegistry fieldId = some field ∧ field.repeatable = false) →
    type = "vty_range" → (∃ fact ∈ facts, fact.fieldId = fieldId ∧ fact.scope.type ≠ type) →
    RangesApart (ofType facts fieldId type)

theorem RangesApart.congr {facts facts' : List SecurityFact}
    (h : ∀ fact, fact ∈ facts ↔ fact ∈ facts') (hapart : RangesApart facts) :
    RangesApart facts' := by
  refine ⟨fun fact hfact other hother n => ?_, fun fact hfact hleast => ?_⟩
  · exact hapart.apart fact ((h fact).mpr hfact) other ((h other).mpr hother) n
  · exact hapart.written fact ((h fact).mpr hfact) fun other hother =>
      hleast other ((h other).mp hother)

section Reduced

variable {facts : List SecurityFact} {operations : UUID → Option FactOperation}
  {classified : List ClassifiedFact} {fieldId type : String}

theorem classifyFacts_withoutOthers (h : classifyFacts facts operations = .ok classified) :
    classifyFacts (withoutOthers facts fieldId type) operations =
      .ok (classified.filter fun item => item.fact.fieldId != fieldId ||
        item.scope.type == type) := by
  refine mapM_filter h fun fact item hitem => ?_
  obtain ⟨rfl, hscope, -, -⟩ := classify_ok hitem
  rw [hscope]

/-- The facts of a field, without those of the other scope types. -/
def typeFacts (items : List ClassifiedFact) (type : String) : List ClassifiedFact :=
  items.filter (·.scope.type = type)

theorem fieldFacts_typeFacts {items : List ClassifiedFact} (h : FieldFacts fieldId items)
    (type : String) : FieldFacts fieldId (typeFacts items type) :=
  ⟨fun item hitem => h.field item (List.mem_filter.mp hitem).1, h.sorted.filter _,
    fun item hitem => h.valid item (List.mem_filter.mp hitem).1⟩

theorem factsOf_withoutOthers :
    factsOf (classified.filter fun item => item.fact.fieldId != fieldId ||
      item.scope.type == type) fieldId = typeFacts (factsOf classified fieldId) type := by
  simp only [factsOf, typeFacts, ← filter_sortedBy, List.filter_filter]
  refine List.filter_congr fun item _ => ?_
  by_cases hfield : item.fact.fieldId = fieldId
  · simp [hfield, beq_eq_decide]
  · simp [hfield]

/-- A fact of the field and its classification have the same scope. -/
theorem mem_factsOf (h : classifyFacts facts operations = .ok classified)
    {item : ClassifiedFact} (hitem : item ∈ factsOf classified fieldId) :
    item.fact ∈ facts ∧ item.fact.fieldId = fieldId ∧ item.scope = item.fact.scope := by
  obtain ⟨hsorted, hfield⟩ := List.mem_filter.mp hitem
  obtain ⟨fact, hfact, hc⟩ := mapM_exists_input h ((mem_sortedBy _).mp hsorted)
  obtain ⟨rfl, hscope, -, -⟩ := classify_ok hc
  exact ⟨hfact, of_decide_eq_true hfield, hscope⟩

theorem exists_factsOf (h : classifyFacts facts operations = .ok classified)
    {fact : SecurityFact} (hfact : fact ∈ facts) (hfield : fact.fieldId = fieldId) :
    ∃ item ∈ factsOf classified fieldId, item.fact = fact := by
  obtain ⟨item, hitem, hc⟩ := mapM_exists_output h hfact
  obtain ⟨hsame, -⟩ := classify_ok hc
  refine ⟨item, List.mem_filter.mpr ⟨(mem_sortedBy _).mpr hitem, ?_⟩, hsame⟩
  exact decide_eq_true (hsame ▸ hfield)

theorem factsOf_ids (hids : (facts.map (·.factId)).Nodup)
    (h : classifyFacts facts operations = .ok classified) :
    ((factsOf classified fieldId).map (·.fact.factId)).Nodup := by
  have hnames : (classified.map (·.fact.factId)).Nodup := by
    rw [mapM_map (g := (·.fact.factId)) (k := (·.factId)) h]
    · exact hids
    · intro fact item hitem
      rw [(classify_ok hitem).1]
  have hsorted : ((sortedBy resolverKey classified).map (·.fact.factId)).Nodup :=
    ((sortedBy_perm resolverKey classified).map _).nodup_iff.mpr hnames
  exact hsorted.sublist (List.filter_sublist.map _)

end Reduced

section Drafts

variable {uuid5 : UUID → String → UUID} {auditId deviceId : UUID} {fieldId : String}

theorem classified_valid {facts : List SecurityFact} {operations : UUID → Option FactOperation}
    {classified : List ClassifiedFact} (h : classifyFacts facts operations = .ok classified) :
    ∀ item ∈ classified, validateScope item.scope = .ok () := by
  intro item hitem
  obtain ⟨fact, -, hc⟩ := mapM_exists_input h hitem
  obtain ⟨-, hscope, -, hvalid⟩ := classify_ok hc
  exact hscope ▸ hvalid

/-- The drafts of a field in a run are those its facts resolve to. -/
theorem fieldRun {facts : List SecurityFact} {operations : UUID → Option FactOperation}
    {classified : List ClassifiedFact} {drafts : List EffectiveStateDraft}
    (hclassified : classifyFacts facts operations = .ok classified)
    (h : resolveSecurityFacts uuid5 auditId deviceId facts operations = .ok drafts)
    (fieldId : String) :
    ∃ fieldDrafts, FieldDrafts fieldId fieldDrafts ∧
      resolveField uuid5 auditId deviceId (blockedDependencyIds facts)
        (factsOf classified fieldId) = .ok fieldDrafts ∧
      drafts.filter (fun draft => draft.fieldId = fieldId) = sortedBy draftKey fieldDrafts := by
  simp only [resolveSecurityFacts, hclassified, except_bind_eq_ok, except_pure_eq_ok,
    Except.ok.injEq, exists_eq_left'] at h
  obtain ⟨groups, hgroups, rfl⟩ := h
  have hvalid := classified_valid hclassified
  rw [fieldGroups_eq] at hgroups
  have hruns : List.Forall₂ (fun field drafts => resolveField uuid5 auditId deviceId
      (blockedDependencyIds facts) (factsOf classified field) = .ok drafts)
      (fieldIds classified) groups :=
    List.forall₂_map_left_iff.mp (mapM_eq_ok.mp hgroups)
  have htagged : Tagged EffectiveStateDraft.fieldId id (fieldIds classified) groups :=
    hruns.imp fun field drafts hd =>
      (field_distinct (fieldFacts_factsOf hvalid field) hd).field
  have hrun : resolveField uuid5 auditId deviceId (blockedDependencyIds facts)
      (factsOf classified fieldId) =
        .ok (groups.flatten.filter fun draft => draft.fieldId = fieldId) := by
    by_cases hmem : fieldId ∈ fieldIds classified
    · refine tagged_filter hruns htagged ?_ fieldId hmem
      rw [List.map_id]
      exact nodup_sortedSet _
    · have hempty : factsOf classified fieldId = [] := by
        refine List.filter_eq_nil_iff.mpr fun item hitem => ?_
        rw [decide_eq_true_eq]
        rintro rfl
        exact hmem (mem_sortedSet.mpr (List.mem_map_of_mem ((mem_sortedBy _).mp hitem)))
      have hnone : groups.flatten.filter (fun draft => draft.fieldId = fieldId) = [] := by
        refine List.filter_eq_nil_iff.mpr fun draft hdraft => ?_
        obtain ⟨owner, howner, htag⟩ := tagged_mem_flatten htagged hdraft
        rw [decide_eq_true_eq]
        rintro rfl
        exact hmem (htag ▸ howner)
      rw [hempty, hnone]
      rfl
  exact ⟨_, field_distinct (fieldFacts_factsOf hvalid fieldId) hrun, hrun,
    filter_sortedBy draftKey _ groups.flatten⟩

theorem draftsOf_eq {drafts fieldDrafts : List EffectiveStateDraft}
    (h : drafts.filter (fun draft => draft.fieldId = fieldId) = sortedBy draftKey fieldDrafts)
    (type : String) :
    draftsOf drafts fieldId type =
      sortedBy draftKey ((fieldDrafts.filter (·.scope.type = type)).map draftView) := by
  have hsplit : drafts.filter (fun draft => draft.fieldId == fieldId && draft.scope.type == type) =
      (drafts.filter fun draft => draft.fieldId = fieldId).filter (·.scope.type = type) := by
    rw [List.filter_filter]
    refine List.filter_congr fun draft _ => ?_
    rw [Bool.and_comm]
    rfl
  have hkey : ∀ draft, draftKey (draftView draft) = draftKey draft := fun _ => rfl
  rw [draftsOf, hsplit, h, filter_sortedBy]
  exact map_sortedBy hkey _

theorem fieldDrafts_filter {drafts : List EffectiveStateDraft} (h : FieldDrafts fieldId drafts)
    (p : EffectiveStateDraft → Bool) : FieldDrafts fieldId (drafts.filter p) :=
  ⟨fun draft hdraft => h.field draft (List.mem_filter.mp hdraft).1,
    h.scopes.sublist (List.filter_sublist.map _)⟩

/-- Drafts of one field in the order of their scopes are the same list when they are the
same drafts. -/
theorem sortedViews_eq {drafts drafts' : List EffectiveStateDraft}
    (h : FieldDrafts fieldId drafts) (h' : FieldDrafts fieldId drafts') :
    sortedBy draftKey (drafts'.map draftView) = sortedBy draftKey (drafts.map draftView) ↔
      ∀ view, view ∈ drafts'.map draftView ↔ view ∈ drafts.map draftView := by
  have hkeys : ∀ {drafts}, FieldDrafts fieldId drafts →
      ((drafts.map draftView).map (scopeKeyOf ·.scope)).Nodup := by
    intro drafts h
    rw [List.map_map]
    exact h.scopes
  constructor
  · intro heq view
    rw [← mem_sortedBy draftKey, heq, mem_sortedBy]
  · intro hmem
    refine sortedBy_eq_of_perm ?_ ?_
    · exact (List.perm_ext_iff_of_nodup (hkeys h').of_map (hkeys h).of_map).mpr hmem
    · intro a ha b hb hab
      simp only [draftKey, EmbeddingLike.apply_eq_iff_eq, Prod.mk.injEq] at hab
      exact List.inj_on_of_nodup_map (hkeys h') ha hb hab.2

end Drafts

section Blocked

variable {uuid5 : UUID → String → UUID} {auditId deviceId : UUID} {fieldId : String}

theorem unknownState_ok {scope : ScopeRef} {ids : List UUID} {trace : List PyValue}
    {reason : UnresolvedReason} {conflict : Bool} {draft : EffectiveStateDraft}
    (h : unknownState uuid5 auditId deviceId fieldId scope ids trace reason conflict = .ok draft) :
    draft.scope = scope ∧ draft.sourceFactIds = ids ∧
      draft.unresolvedReason = some (if conflict then .conflictingEvidence else reason) := by
  obtain ⟨id, -, rfl⟩ := makeEffectiveStateDraft_ok uuid5 h
  exact ⟨rfl, rfl, rfl⟩

theorem resolveBlocked_ok {blocked : List ClassifiedFact} {drafts : List EffectiveStateDraft}
    (h : resolveBlocked uuid5 auditId deviceId fieldId blocked = .ok drafts) :
    ∀ draft ∈ drafts, draft.sourceFactIds = sourceIds blocked ∧
      draft.unresolvedReason = some .missingEvidence ∧
      ∃ item ∈ blocked, draft.scope = item.scope := by
  intro draft hdraft
  obtain ⟨entry, hentry, hd⟩ := mapM_exists_input h hdraft
  obtain ⟨hscope, hids, hreason⟩ := unknownState_ok hd
  obtain ⟨item, hitem, rfl⟩ := List.mem_map.mp (Dict.mem_ofList hentry)
  exact ⟨hids, hreason, item, hitem, hscope⟩

theorem resolveBlocked_ne_nil {blocked : List ClassifiedFact} {drafts : List EffectiveStateDraft}
    (hblocked : blocked ≠ []) (h : resolveBlocked uuid5 auditId deviceId fieldId blocked =
      .ok drafts) : drafts ≠ [] := by
  obtain ⟨item, hitem⟩ := List.exists_mem_of_ne_nil _ hblocked
  have hkey : item.scope.key ∈
      (Dict.ofList (blocked.map fun item => (item.scope.key, item.scope))).map (·.1) := by
    rw [(Dict.keys_ofList _).2, List.map_map]
    exact List.mem_map_of_mem (f := fun item : ClassifiedFact => item.scope.key) hitem
  obtain ⟨entry, hentry, -⟩ := List.mem_map.mp hkey
  obtain ⟨draft, hdraft, -⟩ := mapM_exists_output h hentry
  exact List.ne_nil_of_mem hdraft

/-- A scope that is resolved does not lack evidence. -/
theorem resolveScalarScope_reason {scope : ScopeRef} {items : List ClassifiedFact}
    {draft : EffectiveStateDraft}
    (h : resolveScalarScope uuid5 auditId deviceId fieldId scope items = .ok draft) :
    draft.sourceFactIds = sourceIds items ∧
      draft.unresolvedReason ≠ some .missingEvidence := by
  simp only [resolveScalarScope, except_bind_eq_ok] at h
  obtain ⟨⟨winner, conflict⟩, -, h⟩ := h
  cases conflict with
  | true =>
    obtain ⟨-, hids, hreason⟩ := unknownState_ok h
    exact ⟨hids, by simp [hreason]⟩
  | false =>
    cases hop : winner.operation with
    | assign =>
      simp only [hop, Bool.false_eq_true, if_false, except_bind_eq_ok] at h
      obtain ⟨_, -, _, -, h⟩ := h
      obtain ⟨id, -, rfl⟩ := makeEffectiveStateDraft_ok uuid5 h
      exact ⟨rfl, by simp⟩
    | reset =>
      simp only [hop, Bool.false_eq_true, if_false] at h
      obtain ⟨-, hids, hreason⟩ := unknownState_ok h
      exact ⟨hids, by simp [hreason]⟩
    | remove =>
      simp only [hop, Bool.false_eq_true, if_false] at h
      obtain ⟨-, hids, hreason⟩ := unknownState_ok h
      exact ⟨hids, by simp [hreason]⟩

theorem resolveCollection_reason {items : List (String × ClassifiedFact)}
    {draft : EffectiveStateDraft}
    (h : resolveCollection uuid5 auditId deviceId fieldId items = .ok draft) :
    draft.unresolvedReason ≠ some .missingEvidence := by
  cases items with
  | nil => cases h
  | cons head rest =>
    simp only [resolveCollection, except_bind_eq_ok] at h
    obtain ⟨state, -, h⟩ := h
    split at h
    · obtain ⟨-, -, hreason⟩ := unknownState_ok h
      simp [hreason]
    · obtain ⟨id, -, rfl⟩ := makeEffectiveStateDraft_ok uuid5 h
      simp

end Blocked

section Groups

variable {uuid5 : UUID → String → UUID} {auditId deviceId : UUID} {fieldId : String}
  {α : Type} {key : α → String ×ₗ String} {f : List α → Except Error EffectiveStateDraft}
  {items : List α} {drafts drafts' : List EffectiveStateDraft}

/-- The drafts of a field resolved scope by scope, one for each scope. -/
theorem mem_groupDrafts (hsorted : items.Pairwise fun a b => key a ≤ key b)
    (h : (groupRuns key items).mapM f = .ok drafts) (draft : EffectiveStateDraft) :
    draft ∈ drafts ↔ ∃ k ∈ items.map key, f (items.filter (key · = k)) = .ok draft := by
  rw [mem_mapM h, groupRuns_eq_filters hsorted]
  constructor
  · rintro ⟨group, hgroup, hd⟩
    obtain ⟨k, hk, rfl⟩ := List.mem_map.mp hgroup
    exact ⟨k, mem_sortedSet.mp hk, hd⟩
  · rintro ⟨k, hk, hd⟩
    exact ⟨_, List.mem_map_of_mem (mem_sortedSet.mpr hk), hd⟩

theorem groupDrafts_ne_nil (hitems : items ≠ [])
    (h : (groupRuns key items).mapM f = .ok drafts) : drafts ≠ [] := by
  obtain ⟨a, ha⟩ := List.exists_mem_of_ne_nil _ hitems
  rw [← flatten_groupRuns key items] at ha
  obtain ⟨group, hgroup, -⟩ := List.mem_flatten.mp ha
  obtain ⟨draft, hdraft, -⟩ := mapM_exists_output h hgroup
  exact List.ne_nil_of_mem hdraft

section OfType

variable {type : String} (hsorted : items.Pairwise fun a b => key a ≤ key b)
  (h : (groupRuns key items).mapM f = .ok drafts)

theorem ofType_group {k : String ×ₗ String} (hk : (ofLex k).1 = type) :
    (items.filter fun a => (ofLex (key a)).1 = type).filter (key · = k) =
      items.filter (key · = k) := by
  rw [List.filter_filter]
  refine List.filter_congr fun a _ => ?_
  by_cases hak : key a = k <;> simp [hak, hk]

include hsorted h

theorem ofType_draft {a : α} (ha : a ∈ items.filter fun a => (ofLex (key a)).1 = type) :
    ∃ draft, f ((items.filter fun a => (ofLex (key a)).1 = type).filter (key · = key a)) =
      .ok draft := by
  obtain ⟨hmem, htype⟩ := List.mem_filter.mp ha
  rw [ofType_group (of_decide_eq_true htype)]
  have hgroup : items.filter (key · = key a) ∈ groupRuns key items := by
    rw [groupRuns_eq_filters hsorted]
    exact List.mem_map_of_mem (mem_sortedSet.mpr (List.mem_map_of_mem hmem))
  obtain ⟨draft, -, hd⟩ := mapM_exists_output h hgroup
  exact ⟨draft, hd⟩

/-- Scope by scope, the drafts of one scope type are made from the items of that type. -/
theorem mem_ofType
    (hscope : ∀ head rest draft, f (head :: rest) = .ok draft → scopeKeyOf draft.scope = key head)
    (draft : EffectiveStateDraft) :
    draft ∈ drafts.filter (·.scope.type = type) ↔
      ∃ k ∈ (items.filter fun a => (ofLex (key a)).1 = type).map key,
        f ((items.filter fun a => (ofLex (key a)).1 = type).filter (key · = k)) = .ok draft := by
  rw [List.mem_filter, mem_groupDrafts hsorted h, decide_eq_true_eq]
  have htype : ∀ k ∈ items.map key, f (items.filter (key · = k)) = .ok draft →
      draft.scope.type = (ofLex k).1 := by
    intro k hk hd
    obtain ⟨a, ha, hak⟩ := List.mem_map.mp hk
    cases hfilter : items.filter (key · = k) with
    | nil => simpa [hak] using List.filter_eq_nil_iff.mp hfilter a ha
    | cons head rest =>
      have hhead : head ∈ items.filter (key · = k) := by simp [hfilter]
      have hkey := hscope head rest draft (hfilter ▸ hd)
      rw [of_decide_eq_true (List.mem_filter.mp hhead).2] at hkey
      rw [← hkey]
      rfl
  constructor
  · rintro ⟨⟨k, hk, hd⟩, hdtype⟩
    have hktype := (htype k hk hd).symm.trans hdtype
    obtain ⟨a, ha, rfl⟩ := List.mem_map.mp hk
    refine ⟨key a, List.mem_map_of_mem (List.mem_filter.mpr ⟨ha, decide_eq_true hktype⟩), ?_⟩
    rw [ofType_group hktype]
    exact hd
  · rintro ⟨k, hk, hd⟩
    obtain ⟨a, ha, rfl⟩ := List.mem_map.mp hk
    obtain ⟨hmem, hatype⟩ := List.mem_filter.mp ha
    rw [decide_eq_true_eq] at hatype
    rw [ofType_group hatype] at hd
    have hkmem := List.mem_map_of_mem (f := key) hmem
    exact ⟨⟨_, hkmem, hd⟩, (htype _ hkmem hd).trans hatype⟩

theorem groupDrafts_ofType
    (hscope : ∀ head rest draft, f (head :: rest) = .ok draft → scopeKeyOf draft.scope = key head)
    (h' : (groupRuns key (items.filter fun a => (ofLex (key a)).1 = type)).mapM f = .ok drafts')
    (draft : EffectiveStateDraft) :
    draft ∈ drafts' ↔ draft ∈ drafts.filter (·.scope.type = type) := by
  rw [mem_ofType hsorted h hscope, mem_groupDrafts (hsorted.filter _) h']

end OfType

end Groups

section Ranges

variable {uuid5 : UUID → String → UUID} {auditId deviceId : UUID} {fieldId : String}

theorem scopeView_key {scope scope' : ScopeRef} (h : scopeView scope = scopeView scope') :
    scopeKeyOf scope = scopeKeyOf scope' := by
  have htype := congrArg ScopeRef.type h
  have hkey := congrArg ScopeRef.key h
  exact scopeKeyOf_eq.mpr ⟨htype, hkey⟩

theorem makeDraft_view {draft made made' : EffectiveStateDraft} {scope' : ScopeRef}
    (h : makeEffectiveStateDraft uuid5 draft = .ok made)
    (h' : makeEffectiveStateDraft uuid5 { draft with scope := scope' } = .ok made')
    (hview : scopeView draft.scope = scopeView scope') : draftView made = draftView made' := by
  obtain ⟨id, hid, rfl⟩ := makeEffectiveStateDraft_ok uuid5 h
  obtain ⟨id', hid', rfl⟩ := makeEffectiveStateDraft_ok uuid5 h'
  obtain ⟨htype, hkey⟩ := scopeKeyOf_eq.mp (scopeView_key hview)
  simp only [deterministicEffectiveStateId, canonicalScopeKey, except_bind_eq_ok,
    except_pure_eq_ok] at hid hid'
  obtain ⟨_, -, _, ⟨_, -, rfl⟩, rfl⟩ := hid
  obtain ⟨_, -, _, ⟨_, -, rfl⟩, rfl⟩ := hid'
  simp only [draftView, hview, htype, hkey]

/-- The same facts resolve to the same draft for every writing of their scope. -/
theorem resolveScalarScope_view {scope scope' : ScopeRef} {items : List ClassifiedFact}
    {draft draft' : EffectiveStateDraft}
    (h : resolveScalarScope uuid5 auditId deviceId fieldId scope items = .ok draft)
    (h' : resolveScalarScope uuid5 auditId deviceId fieldId scope' items = .ok draft')
    (hview : scopeView scope = scopeView scope') : draftView draft = draftView draft' := by
  simp only [resolveScalarScope, except_bind_eq_ok] at h h'
  obtain ⟨⟨winner, conflict⟩, hwinner, h⟩ := h
  obtain ⟨_, hwinner', h'⟩ := h'
  rw [hwinner, Except.ok.injEq] at hwinner'
  subst hwinner'
  cases conflict with
  | true => exact makeDraft_view h h' hview
  | false =>
    cases hop : winner.operation with
    | assign =>
      simp only [hop, Bool.false_eq_true, if_false, except_bind_eq_ok] at h h'
      obtain ⟨_, hkey, _, hkeyed, h⟩ := h
      obtain ⟨_, hkey', _, hkeyed', h'⟩ := h'
      rw [hkey, Except.ok.injEq] at hkey'
      subst hkey'
      rw [hkeyed, Except.ok.injEq] at hkeyed'
      subst hkeyed'
      exact makeDraft_view h h' hview
    | reset =>
      simp only [hop, Bool.false_eq_true, if_false] at h h'
      exact makeDraft_view h h' hview
    | remove =>
      simp only [hop, Bool.false_eq_true, if_false] at h h'
      exact makeDraft_view h h' hview

theorem mem_sourceIds {items : List ClassifiedFact} {id : UUID} :
    id ∈ sourceIds items ↔ ∃ item ∈ items, item.fact.factId = id := by
  simp [sourceIds]

/-- The draft of one group of `resolveScalarField`: its first fact gives the scope. -/
def groupDraft (uuid5 : UUID → String → UUID) (auditId deviceId : UUID) (fieldId : String)
    (items : List ClassifiedFact) : Except Error EffectiveStateDraft :=
  match items with
  | [] => .error (.python .indexError)
  | head :: _ => resolveScalarScope uuid5 auditId deviceId fieldId head.scope items

/-- The facts of one scope, in the order of their identities. -/
theorem scopeGroup {facts : List ClassifiedFact} (hfacts : FieldFacts fieldId facts)
    {item : ClassifiedFact} (hitem : item ∈ facts) :
    ∃ head rest, facts.filter (scopeKeyOf ·.scope = scopeKeyOf item.scope) = head :: rest ∧
      head ∈ facts ∧ scopeKeyOf head.scope = scopeKeyOf item.scope ∧
      ∀ other ∈ facts, scopeKeyOf other.scope = scopeKeyOf item.scope →
        head.fact.factId.int ≤ other.fact.factId.int := by
  have hmem : item ∈ facts.filter (scopeKeyOf ·.scope = scopeKeyOf item.scope) :=
    List.mem_filter.mpr ⟨hitem, decide_eq_true rfl⟩
  cases hgroup : facts.filter (scopeKeyOf ·.scope = scopeKeyOf item.scope) with
  | nil => simp [hgroup] at hmem
  | cons head rest =>
    have hhead : head ∈ facts.filter (scopeKeyOf ·.scope = scopeKeyOf item.scope) := by
      rw [hgroup]
      exact List.mem_cons_self
    obtain ⟨hin, hkey⟩ := List.mem_filter.mp hhead
    rw [decide_eq_true_eq] at hkey
    refine ⟨head, rest, rfl, hin, hkey, fun other hother hokey => ?_⟩
    have hotherGroup : other ∈ head :: rest := by
      rw [← hgroup]
      exact List.mem_filter.mpr ⟨hother, decide_eq_true hokey⟩
    have hordered := hfacts.identity.filter (scopeKeyOf ·.scope = scopeKeyOf item.scope)
    rw [hgroup, List.pairwise_cons] at hordered
    rcases List.mem_cons.mp hotherGroup with rfl | hrest
    · exact le_rfl
    · have hle := hordered.1 other hrest
      rw [Prod.Lex.toLex_le_toLex, hkey, hokey] at hle
      simpa using hle

/-- Each draft of a partitioned field resolves one cell, and each cell has a draft. -/
theorem mem_cellDrafts {facts : List ClassifiedFact} {drafts : List EffectiveStateDraft}
    (hvalid : ValidScopes facts) (hne : facts ≠ [])
    (h : resolveScalarField uuid5 auditId deviceId fieldId facts = .ok drafts) :
    ∃ ranges, RangesOf facts ranges ∧
      (∀ draft, draft ∈ drafts ↔
        ∃ cell ∈ Intervals.partition (fun r : ClassifiedFact × Int × Int => r.2.1) (fun r => r.2.2)
            ranges,
          resolveScalarScope uuid5 auditId deviceId fieldId (vtyScope cell.1.1 cell.1.2)
            (cell.2.map (·.1)) = .ok draft) ∧
      ∀ cell ∈ Intervals.partition (fun r : ClassifiedFact × Int × Int => r.2.1) (fun r => r.2.2)
          ranges,
        ∃ draft, resolveScalarScope uuid5 auditId deviceId fieldId (vtyScope cell.1.1 cell.1.2)
          (cell.2.map (·.1)) = .ok draft := by
  cases facts with
  | nil => exact absurd rfl hne
  | cons first rest =>
    have htype := (hvalid first List.mem_cons_self).1
    simp only [resolveScalarField, htype, ne_eq, not_true_eq_false, if_false,
      except_bind_eq_ok] at h
    obtain ⟨parts, hparts, hdrafts⟩ := h
    obtain ⟨ranges, hmap, hbounds, rfl⟩ := vtyPartitions_ok hparts
    refine ⟨ranges, ⟨hmap, hbounds⟩, fun draft => ?_, fun cell hcell => ?_⟩
    · rw [mem_mapM hdrafts]
      constructor
      · rintro ⟨part, hpart, hd⟩
        obtain ⟨cell, hcell, rfl⟩ := List.mem_map.mp hpart
        exact ⟨cell, hcell, hd⟩
      · rintro ⟨cell, hcell, hd⟩
        exact ⟨_, List.mem_map_of_mem hcell, hd⟩
    · obtain ⟨draft, -, hd⟩ := mapM_exists_output hdrafts (List.mem_map_of_mem hcell)
      exact ⟨draft, hd⟩

section Apart

variable {facts : List ClassifiedFact} {ranges : List (ClassifiedFact × Int × Int)}

/-- Where no range shares a line with another one, each range is a cell of the partition. -/
theorem cell_of_apart (hvalid : ValidScopes facts) (hranges : RangesOf facts ranges)
    (hscope : ∀ item ∈ facts, item.scope = item.fact.scope)
    (hapart : RangesApart (facts.map (·.fact))) {item : ClassifiedFact} (hitem : item ∈ facts) :
    ∃ cell ∈ Intervals.partition (fun r : ClassifiedFact × Int × Int => r.2.1) (fun r => r.2.2)
        ranges, vtyBounds item.scope = .ok (cell.1.1, cell.1.2) ∧
      cell.2.map (·.1) = facts.filter (scopeKeyOf ·.scope = scopeKeyOf item.scope) := by
  have hsame : ∀ a ∈ facts, ∀ b ∈ facts, ∀ n, coversLine a.scope n = true →
      coversLine b.scope n = true → scopeKeyOf a.scope = scopeKeyOf b.scope := by
    intro a ha b hb n han hbn
    rw [hscope a ha] at han ⊢
    rw [hscope b hb] at hbn ⊢
    exact hapart.apart _ (List.mem_map_of_mem ha) _ (List.mem_map_of_mem hb) n han hbn
  have hfact : ∀ r ∈ ranges, r.1 ∈ facts := fun r hr => hranges.1 ▸ List.mem_map_of_mem hr
  have hle : ∀ r ∈ ranges, r.2.1 ≤ r.2.2 := by
    intro r hr
    obtain ⟨htype, hv⟩ := hvalid r.1 (hfact r hr)
    obtain ⟨s, e, hse, -, hle, -⟩ := vtyBounds_of_valid htype hv
    rw [hranges.2 r hr, Except.ok.injEq] at hse
    rw [hse]
    exact hle
  obtain ⟨range, hrange, rfl⟩ := List.mem_map.mp (hranges.1.symm ▸ hitem)
  obtain ⟨cell, hcell, hbounds⟩ := Intervals.partition_of_apart
    (fun r : ClassifiedFact × Int × Int => r.2.1) (fun r => r.2.2) hle hrange (by
      intro r hr n hlo hhi hrlo hrhi
      have hkey := hsame r.1 (hfact r hr) range.1 hitem n
        ((coversLine_of_bounds (hranges.2 r hr) n).mpr ⟨hrlo, hrhi⟩)
        ((coversLine_of_bounds (hranges.2 range hrange) n).mpr ⟨hlo, hhi⟩)
      have hsameBounds := vtyBounds_congr hkey
      rw [hranges.2 r hr, hranges.2 range hrange, Except.ok.injEq] at hsameBounds
      rw [hsameBounds]
      exact ⟨rfl, rfl⟩)
  refine ⟨cell, hcell, ?_, ?_⟩
  · rw [hranges.2 range hrange, hbounds]
  · have hin : cell.1.1 ≤ range.2.1 ∧ range.2.1 ≤ cell.1.2 := by
      rw [hbounds]
      exact ⟨le_rfl, hle range hrange⟩
    have hcover : coversLine range.1.scope range.2.1 = true :=
      (coversLine_of_bounds (hranges.2 range hrange) _).mpr ⟨le_rfl, hle range hrange⟩
    rw [cell_facts hranges hcell hin]
    refine List.filter_congr fun other hother => ?_
    rw [Bool.eq_iff_iff, decide_eq_true_eq]
    constructor
    · intro hocover
      exact hsame other hother range.1 hitem _ hocover hcover
    · intro hkey
      rw [coversLine, vtyBounds_congr hkey]
      exact hcover

end Apart

/-- The facts of one field with VTY scopes, resolved scope by scope and cell by cell. -/
structure BothWays (uuid5 : UUID → String → UUID) (auditId deviceId : UUID) (fieldId : String)
    (facts : List ClassifiedFact) (ranges : List (ClassifiedFact × Int × Int))
    (groups cells : List EffectiveStateDraft) : Prop where
  field : FieldFacts fieldId facts
  valid : ValidScopes facts
  ids : (facts.map (·.fact.factId)).Nodup
  scope : ∀ item ∈ facts, item.scope = item.fact.scope
  bounds : RangesOf facts ranges
  mem_cells : ∀ draft, draft ∈ cells ↔
    ∃ cell ∈ Intervals.partition (fun r : ClassifiedFact × Int × Int => r.2.1) (fun r => r.2.2)
        ranges,
      resolveScalarScope uuid5 auditId deviceId fieldId (vtyScope cell.1.1 cell.1.2)
        (cell.2.map (·.1)) = .ok draft
  cell_draft : ∀ cell ∈ Intervals.partition (fun r : ClassifiedFact × Int × Int => r.2.1)
      (fun r => r.2.2) ranges,
    ∃ draft, resolveScalarScope uuid5 auditId deviceId fieldId (vtyScope cell.1.1 cell.1.2)
      (cell.2.map (·.1)) = .ok draft
  mem_groups : ∀ draft, draft ∈ groups ↔ ∃ item ∈ facts, groupDraft uuid5 auditId deviceId fieldId
    (facts.filter (scopeKeyOf ·.scope = scopeKeyOf item.scope)) = .ok draft
  group_draft : ∀ item ∈ facts, ∃ draft, groupDraft uuid5 auditId deviceId fieldId
    (facts.filter (scopeKeyOf ·.scope = scopeKeyOf item.scope)) = .ok draft

section BothWays

variable {facts : List ClassifiedFact} {ranges : List (ClassifiedFact × Int × Int)}
  {groups cells : List EffectiveStateDraft}
  (hboth : BothWays uuid5 auditId deviceId fieldId facts ranges groups cells)

include hboth

/-- Facts of one cell have one scope when the cell's draft is the draft of a scope. -/
theorem BothWays.apart (hviews : ∀ view, view ∈ cells.map draftView ↔ view ∈ groups.map draftView)
    {a b : ClassifiedFact} (ha : a ∈ facts) (hb : b ∈ facts) {n : Int}
    (han : coversLine a.scope n = true) (hbn : coversLine b.scope n = true) :
    scopeKeyOf a.scope = scopeKeyOf b.scope := by
  obtain ⟨cell, hcell, hcn⟩ := (cells_cover hboth.bounds n).mpr ⟨a, ha, han⟩
  obtain ⟨d', hd'⟩ := hboth.cell_draft cell hcell
  have hview := List.mem_map_of_mem (f := draftView) ((hboth.mem_cells d').mpr ⟨cell, hcell, hd'⟩)
  obtain ⟨d, hd, hsame⟩ := List.mem_map.mp ((hviews _).mp hview)
  obtain ⟨item, hitem, hgroup⟩ := (hboth.mem_groups d).mp hd
  have hsources : sourceIds (facts.filter (scopeKeyOf ·.scope = scopeKeyOf item.scope)) =
      sourceIds (cell.2.map (·.1)) := by
    obtain ⟨head, rest, hfilter, -⟩ := scopeGroup hboth.field hitem
    rw [hfilter] at hgroup ⊢
    rw [← (resolveScalarScope_reason hgroup).1, ← (resolveScalarScope_reason hd').1]
    have hsameSources := congrArg EffectiveStateDraft.sourceFactIds hsame
    exact hsameSources
  have hkey : ∀ other ∈ facts, coversLine other.scope n = true →
      scopeKeyOf other.scope = scopeKeyOf item.scope := by
    intro other hother hcover
    have hid : other.fact.factId ∈ sourceIds (cell.2.map (·.1)) := by
      rw [cell_facts hboth.bounds hcell hcn]
      exact mem_sourceIds.mpr ⟨other, List.mem_filter.mpr ⟨hother, hcover⟩, rfl⟩
    rw [← hsources] at hid
    obtain ⟨twin, htwin, hsameId⟩ := mem_sourceIds.mp hid
    obtain ⟨hin, htkey⟩ := List.mem_filter.mp htwin
    obtain rfl := List.inj_on_of_nodup_map hboth.ids hin hother hsameId
    exact of_decide_eq_true htkey
  rw [hkey a ha han, hkey b hb hbn]

/-- The first fact of a scope gives the scope that the draft of its cell has. -/
theorem BothWays.written
    (hviews : ∀ view, view ∈ cells.map draftView ↔ view ∈ groups.map draftView)
    {head : ClassifiedFact} {rest : List ClassifiedFact} (hhead : head ∈ facts)
    (hgroup : facts.filter (scopeKeyOf ·.scope = scopeKeyOf head.scope) = head :: rest) :
    WrittenAsCell head.scope := by
  obtain ⟨d, hd⟩ := hboth.group_draft head hhead
  have hmem := (hboth.mem_groups d).mpr ⟨head, hhead, hd⟩
  obtain ⟨d', hd', hview⟩ := List.mem_map.mp ((hviews _).mpr (List.mem_map_of_mem hmem))
  obtain ⟨cell, hcell, hresolved⟩ := (hboth.mem_cells d').mp hd'
  rw [hgroup] at hd
  have hscopes : scopeView (vtyScope cell.1.1 cell.1.2) = scopeView head.scope := by
    rw [← (resolveScalarScope_scope hresolved).1, ← (resolveScalarScope_scope hd).1]
    have hsameScope := congrArg EffectiveStateDraft.scope hview
    exact hsameScope
  refine ⟨cell.1.1, cell.1.2, ?_, hscopes.symm⟩
  rw [← vtyBounds_congr (scopeView_key hscopes)]
  exact cell_bounds hboth.valid hboth.bounds hcell

/-- The drafts of a scope and of the cell with its facts are the same draft. -/
theorem BothWays.view_eq (hapart : RangesApart (facts.map (·.fact))) {item : ClassifiedFact}
    (hitem : item ∈ facts) {cell : (Int × Int) × List (ClassifiedFact × Int × Int)}
    (hbounds : vtyBounds item.scope = .ok (cell.1.1, cell.1.2))
    (hitems : cell.2.map (·.1) = facts.filter (scopeKeyOf ·.scope = scopeKeyOf item.scope))
    {d d' : EffectiveStateDraft}
    (hd : groupDraft uuid5 auditId deviceId fieldId
      (facts.filter (scopeKeyOf ·.scope = scopeKeyOf item.scope)) = .ok d)
    (hd' : resolveScalarScope uuid5 auditId deviceId fieldId (vtyScope cell.1.1 cell.1.2)
      (cell.2.map (·.1)) = .ok d') : draftView d = draftView d' := by
  obtain ⟨head, rest, hgroup, hhead, hkey, hfirst⟩ := scopeGroup hboth.field hitem
  rw [hitems, hgroup] at hd'
  rw [hgroup] at hd
  have hleast : ∀ other ∈ facts.map (·.fact), scopeKeyOf other.scope = scopeKeyOf head.fact.scope →
      head.fact.factId.int ≤ other.factId.int := by
    intro other hother hokey
    obtain ⟨b, hb, rfl⟩ := List.mem_map.mp hother
    rw [← hboth.scope b hb, ← hboth.scope head hhead, hkey] at hokey
    exact hfirst b hb hokey
  obtain ⟨start, finish, hwritten, hview⟩ :=
    hapart.written head.fact (List.mem_map_of_mem hhead) hleast
  rw [← hboth.scope head hhead] at hwritten hview
  rw [vtyBounds_congr hkey, hbounds, Except.ok.injEq, Prod.mk.injEq] at hwritten
  refine resolveScalarScope_view hd hd' ?_
  rw [hview, hwritten.1, hwritten.2]

/-- Where the ranges are apart, every cell is the range of its facts. -/
theorem BothWays.cell_item (hapart : RangesApart (facts.map (·.fact)))
    {cell : (Int × Int) × List (ClassifiedFact × Int × Int)}
    (hcell : cell ∈ Intervals.partition (fun r : ClassifiedFact × Int × Int => r.2.1)
      (fun r => r.2.2) ranges) :
    ∃ item ∈ facts, vtyBounds item.scope = .ok (cell.1.1, cell.1.2) ∧
      cell.2.map (·.1) = facts.filter (scopeKeyOf ·.scope = scopeKeyOf item.scope) := by
  obtain ⟨hle, hnonempty⟩ := Intervals.partition_nonempty _ _ hcell
  obtain ⟨range, hrange⟩ := List.exists_mem_of_ne_nil _ hnonempty
  obtain ⟨hin, hlo, hhi⟩ := Intervals.partition_covered _ _ hcell hrange
  have hitem : range.1 ∈ facts := hboth.bounds.1 ▸ List.mem_map_of_mem hin
  obtain ⟨own, hown, hbounds, hitems⟩ :=
    cell_of_apart hboth.valid hboth.bounds hboth.scope hapart hitem
  have hpair := hboth.bounds.2 range hin
  rw [hbounds, Except.ok.injEq] at hpair
  have hsame : own = cell := by
    refine Intervals.unique_of_disjoint
      (Intervals.partition_disjoint (fun r : ClassifiedFact × Int × Int => r.2.1)
        (fun r => r.2.2) ranges) hown hcell (n := cell.1.1) ?_ ⟨le_rfl, hle⟩
    simp only [← hpair] at hlo hhi
    exact ⟨hlo, hle.trans hhi⟩
  subst hsame
  exact ⟨range.1, hitem, hbounds, hitems⟩

/-- Scope by scope and cell by cell the same drafts are made exactly when the partition leaves
the ranges as they are. -/
theorem BothWays.views_iff :
    (∀ view, view ∈ cells.map draftView ↔ view ∈ groups.map draftView) ↔
      RangesApart (facts.map (·.fact)) := by
  constructor
  · intro hviews
    refine ⟨?_, ?_⟩
    · intro fact hfact other hother n hn hon
      obtain ⟨a, ha, rfl⟩ := List.mem_map.mp hfact
      obtain ⟨b, hb, rfl⟩ := List.mem_map.mp hother
      rw [← hboth.scope a ha] at hn ⊢
      rw [← hboth.scope b hb] at hon ⊢
      exact hboth.apart hviews ha hb hn hon
    · intro fact hfact hleast
      obtain ⟨a, ha, rfl⟩ := List.mem_map.mp hfact
      obtain ⟨head, rest, hgroup, hhead, hkey, hfirst⟩ := scopeGroup hboth.field ha
      have hsame : head = a := by
        refine List.inj_on_of_nodup_map hboth.ids hhead ha (UUID.int_injective ?_)
        refine le_antisymm (hfirst a ha rfl) (hleast head.fact (List.mem_map_of_mem hhead) ?_)
        rw [← hboth.scope head hhead, ← hboth.scope a ha]
        exact hkey
      subst hsame
      rw [← hboth.scope head hhead]
      exact hboth.written hviews hhead hgroup
  · intro hapart view
    constructor
    · intro hin
      obtain ⟨d', hd', rfl⟩ := List.mem_map.mp hin
      obtain ⟨cell, hcell, hresolved⟩ := (hboth.mem_cells d').mp hd'
      obtain ⟨item, hitem, hbounds, hitems⟩ := hboth.cell_item hapart hcell
      obtain ⟨d, hd⟩ := hboth.group_draft item hitem
      rw [← hboth.view_eq hapart hitem hbounds hitems hd hresolved]
      exact List.mem_map_of_mem ((hboth.mem_groups d).mpr ⟨item, hitem, hd⟩)
    · intro hin
      obtain ⟨d, hd, rfl⟩ := List.mem_map.mp hin
      obtain ⟨item, hitem, hgroup⟩ := (hboth.mem_groups d).mp hd
      obtain ⟨cell, hcell, hbounds, hitems⟩ :=
        cell_of_apart hboth.valid hboth.bounds hboth.scope hapart hitem
      obtain ⟨d', hd'⟩ := hboth.cell_draft cell hcell
      rw [hboth.view_eq hapart hitem hbounds hitems hgroup hd']
      exact List.mem_map_of_mem ((hboth.mem_cells d').mpr ⟨cell, hcell, hd'⟩)

end BothWays

end Ranges

end ConfigAuditor.EffectiveState.ScopeTypes
