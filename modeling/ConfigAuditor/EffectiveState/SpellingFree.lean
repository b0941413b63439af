import ConfigAuditor.EffectiveState.SpelledDrafts
import ConfigAuditor.EffectiveState.Traces

/-!
# Resolution under every spelling

A run compares values by keys that hold the operator's spelling. Another spelling changes
neither a status nor a canonical value exactly where every scope of every field is safe.
-/
namespace ConfigAuditor.EffectiveState.SpellingFree

open Library SecurityModel Policy Model Resolver VtyPartition Resolved Groups OrderIndependence
  ScopeTypes ScopeIndependence Winner Spelling Respelling RespelledScopes RespelledCollections
  SpelledDrafts Traces

/-- The spelling a fact has. -/
def own (fact : SecurityFact) : Original := ⟨fact.value.originalValue, fact.value.originalUnit⟩

/-- What classification makes of facts that can be stored. -/
structure Classified (items : List ClassifiedFact) : Prop where
  values : ∀ item ∈ items, item.value = item.fact.value
  one : OneEach items
  nulls : NullsReset items
  keyed : Keyed items

section Classify

variable {facts : List SecurityFact} {operations : UUID → Option FactOperation}
  {classified items sub : List ClassifiedFact} {originals : SecurityFact → Original}

theorem Classified.subset (h : Classified items) (hsub : ∀ item ∈ sub, item ∈ items) :
    Classified sub :=
  ⟨fun item hitem => h.values item (hsub item hitem),
    fun a ha b hb => h.one a (hsub a ha) b (hsub b hb),
    fun item hitem => h.nulls item (hsub item hitem),
    fun item hitem => h.keyed item (hsub item hitem)⟩

theorem Classified.written (h : Classified items) : Written items := written_of_keyed h.keyed

theorem Classified.own (h : Classified items) : items.map (respellItem own) = items := by
  conv_rhs => rw [← List.map_id items]
  refine List.map_congr_left fun item hitem => ?_
  have hvalue : spell (SpellingFree.own item.fact) item.value = item.value := by
    rw [h.values item hitem]
    rfl
  simp only [respellItem, hvalue, id_eq]
  rfl

theorem classify_nulls {fact : SecurityFact} {persisted : Option FactOperation}
    {item : ClassifiedFact} (h : classify fact persisted = .ok item) :
    (item.operation = .reset → item.value.type = .null) ∧
      (item.operation = .remove → item.value.type ≠ .null) := by
  simp only [classify, except_bind_eq_ok] at h
  obtain ⟨scope, -, operation, -, h⟩ := h
  cases hrefs : fact.evidenceRefs with
  | nil => simp [hrefs] at h
  | cons first rest =>
    simp only [hrefs, except_bind_eq_ok, except_pure_eq_ok, raiseIf_eq_ok] at h
    obtain ⟨position, -, positions, -, _, -, _, hreset, _, hremove, rfl⟩ := h
    exact ⟨by simpa using hreset, by simpa using hremove⟩

theorem classified_of (h : classifyFacts facts operations = .ok classified)
    (hstored : ∀ fact ∈ facts, ∃ key, valueKey fact.value = .ok key) : Classified classified := by
  refine ⟨fun item hitem => (classifyFacts_mem h hitem).2, ?_, ?_, ?_⟩
  · intro a ha b hb hsame
    obtain ⟨fact, -, hc⟩ := mapM_exists_input h ha
    obtain ⟨fact', -, hc'⟩ := mapM_exists_input h hb
    obtain rfl : fact' = fact := by rw [← (classify_ok hc).1, ← (classify_ok hc').1, hsame]
    exact Except.ok.inj (hc.symm.trans hc')
  · intro item hitem
    obtain ⟨fact, -, hc⟩ := mapM_exists_input h hitem
    exact classify_nulls hc
  · intro item hitem
    obtain ⟨hfact, hvalue⟩ := classifyFacts_mem h hitem
    rw [hvalue]
    exact hstored item.fact hfact

/-- The respelled facts of a run can be stored when the facts are. -/
theorem keyed_of_stored (h : Classified items) (hin : ∀ item ∈ items, item.fact ∈ facts)
    (hstored : ∀ fact ∈ facts, ∃ key, valueKey (respell originals fact).value = .ok key) :
    Keyed (items.map (respellItem originals)) := by
  intro item hitem
  obtain ⟨own, hown, rfl⟩ := List.mem_map.mp hitem
  obtain ⟨key, hkey⟩ := hstored own.fact (hin own hown)
  refine ⟨key, ?_⟩
  have hvalue : (respellItem originals own).value = (respell originals own.fact).value := by
    simp only [respellItem, respell, h.values own hown]
  rwa [hvalue]

theorem keyed_tags (h : Classified items) (number : SecurityFact → Nat) :
    Keyed (items.map (respellItem (tags number))) :=
  keyed_respell h.written fun _ _ => ⟨_, rfl⟩

end Classify

/-- Some scope has another content in the second list. -/
def Differ (drafts drafts' : List EffectiveStateDraft) : Prop :=
  ∃ draft ∈ drafts, ∃ draft' ∈ drafts', scopeKeyOf draft'.scope = scopeKeyOf draft.scope ∧
    content draft' ≠ content draft

section Fields

variable {uuid5 : UUID → String → UUID} {auditId deviceId : UUID} {fieldId : String}
  {items : List ClassifiedFact} {originals : SecurityFact → Original}
  {drafts : List EffectiveStateDraft}

theorem scope_ne_nil {scope : ScopeRef} {draft : EffectiveStateDraft}
    (h : resolveScalarScope uuid5 auditId deviceId fieldId scope items = .ok draft) :
    items ≠ [] := by
  rintro rfl
  cases h

theorem scope_valid {scope : ScopeRef} {draft : EffectiveStateDraft}
    (h : resolveScalarScope uuid5 auditId deviceId fieldId scope items = .ok draft) :
    validateScope scope = .ok () := by
  have hvalid := (resolveScalarScope_from (scope_ne_nil h) h).valid
  rw [← (resolveScalarScope_scope h).1]
  exact (validateDraft_eq_ok.mp hvalid).2.scope

/-- A scalar field of safe scopes says the same under every spelling. -/
theorem scalar_safe (hfacts : FieldFacts fieldId items) (hclassified : Classified items)
    (hkeys : Keyed (items.map (respellItem originals)))
    (hsafe : ∀ parts, scalarParts items = .ok parts → ∀ part ∈ parts, ScalarSafe part.2)
    (h : resolveScalarField uuid5 auditId deviceId fieldId items = .ok drafts) :
    ∃ drafts', resolveScalarField uuid5 auditId deviceId fieldId
      (items.map (respellItem originals)) = .ok drafts' ∧
        drafts'.map content = drafts.map content := by
  obtain ⟨parts, hparts, hdrafts⟩ := (resolveScalarField_parts hfacts).mp h
  refine (@mapM_transfer _ _ _ _ _ _ _
    (parts.map fun part => (part.1, part.2.map (respellItem originals)))
    (fun part => resolveScalarScope uuid5 auditId deviceId fieldId part.1 part.2) content hdrafts
    ?_).imp fun drafts' hdrafts' => ⟨(resolveScalarField_parts (fieldFacts_respell hfacts)).mpr
      ⟨_, scalarParts_respell hfacts hparts, hdrafts'.1⟩, hdrafts'.2⟩
  refine List.forall₂_map_right_iff.mpr (List.forall₂_same.mpr fun part hpart draft hdraft => ?_)
  have hsub := (scalarParts_sublist hfacts hparts hpart).subset
  have hown := hclassified.subset fun item hitem => hsub hitem
  refine scalarScope_safe (scope_ne_nil hdraft) (scope_valid hdraft) hown.one hown.keyed ?_
    (hsafe parts hparts part hpart) hdraft
  intro item hitem
  obtain ⟨fact, hfact, rfl⟩ := List.mem_map.mp hitem
  exact hkeys _ (List.mem_map_of_mem (hsub hfact))

/-- A scalar field with a scope that is not safe says something else under some spelling. -/
theorem scalar_broken (hfacts : FieldFacts fieldId items) (hclassified : Classified items)
    {parts : List (ScopeRef × List ClassifiedFact)} (hparts : scalarParts items = .ok parts)
    {part : ScopeRef × List ClassifiedFact} (hpart : part ∈ parts) (hbroken : ¬ ScalarSafe part.2)
    (h : resolveScalarField uuid5 auditId deviceId fieldId items = .ok drafts) :
    ∃ number : SecurityFact → Nat, ∀ drafts', resolveScalarField uuid5 auditId deviceId fieldId
      (items.map (respellItem (tags number))) = .ok drafts' → Differ drafts drafts' := by
  obtain ⟨parts', hparts', hdrafts⟩ := (resolveScalarField_parts hfacts).mp h
  obtain rfl := Except.ok.inj (hparts.symm.trans hparts')
  obtain ⟨draft, hdraft, hrun⟩ := mapM_exists_output hdrafts hpart
  have hsub := (scalarParts_sublist hfacts hparts hpart).subset
  have hown := hclassified.subset fun item hitem => hsub hitem
  obtain ⟨number, hnumber⟩ := @scalarScope_broken uuid5 auditId deviceId fieldId part.1 _
    (scope_ne_nil hrun) hown.keyed hbroken draft
  refine ⟨number, fun drafts' h' => ?_⟩
  obtain ⟨parts', hparts', hdrafts'⟩ :=
    (resolveScalarField_parts (fieldFacts_respell hfacts)).mp h'
  rw [scalarParts_respell hfacts hparts, Except.ok.injEq] at hparts'
  subst hparts'
  obtain ⟨draft', hdraft', hrun'⟩ := mapM_exists_output hdrafts' (List.mem_map_of_mem hpart)
  refine ⟨draft, hdraft, draft', hdraft', ?_, hnumber draft' hrun'⟩
  rw [(resolveScalarScope_scope hrun).1, (resolveScalarScope_scope hrun').1]

/-- A repeatable field is resolved scope by scope, from the facts of each scope with their
keys. -/
theorem repeatable_spelled (hkeys : Keyed (items.map (respellItem originals))) :
    ∃ pairsOf : String ×ₗ String → List (String × ClassifiedFact),
      (∀ key, Spells (scopeFacts items key) originals (pairsOf key)) ∧
      resolveRepeatableField uuid5 auditId deviceId fieldId (items.map (respellItem originals)) =
        (scopeKeys items).mapM fun key =>
          resolveCollection uuid5 auditId deviceId fieldId (pairsOf key) := by
  let keyOf (item : ClassifiedFact) : String := (valueKey item.value).toOption.getD ""
  have hkeyOf : ∀ item ∈ items.map (respellItem originals),
      valueKey item.value = .ok (keyOf item) := by
    intro item hitem
    obtain ⟨key, hkey⟩ := hkeys item hitem
    simp [keyOf, hkey, Except.toOption]
  let keyed := (items.map (respellItem originals)).map fun item => (keyOf item, item)
  let sorted := sortedBy (fun p : String × ClassifiedFact => toLex (scopeKeyOf p.2.scope, p.1)) keyed
  have hkeyed : (items.map (respellItem originals)).mapM (fun item => do
      let key ← valueKey item.value
      return (key, item)) = .ok keyed := by
    refine mapM_eq_ok_map fun item hitem => ?_
    rw [hkeyOf item hitem]
    rfl
  have hscopes : sorted.Pairwise fun p q => scopeKeyOf p.2.scope ≤ scopeKeyOf q.2.scope :=
    pairwise_sortedBy_fst _ _ keyed
  have hnames : sortedSet (sorted.map fun p => scopeKeyOf p.2.scope) = scopeKeys items := by
    refine sortedSet_congr fun key => ?_
    simp only [sorted, keyed, List.mem_map, mem_sortedBy, exists_exists_and_eq_and]
    rfl
  refine ⟨fun key => sorted.filter (scopeKeyOf ·.2.scope = key), fun key => ⟨?_, ?_⟩, ?_⟩
  · intro p hp
    have hin := (mem_sortedBy _).mp (List.mem_filter.mp hp).1
    obtain ⟨item, hitem, rfl⟩ := List.mem_map.mp hin
    exact hkeyOf item hitem
  · have hperm := ((sortedBy_perm (fun p : String × ClassifiedFact =>
      toLex (scopeKeyOf p.2.scope, p.1)) keyed).filter (scopeKeyOf ·.2.scope = key)).map (·.2)
    refine hperm.trans (List.Perm.of_eq ?_)
    simp only [keyed, scopeFacts, List.filter_map, List.map_map]
    exact List.map_congr_left fun _ _ => rfl
  · simp only [resolveRepeatableField, hkeyed]
    have hgroups := groupRuns_eq_filters hscopes
    rw [hnames] at hgroups
    have hrun : (groupRuns (fun p : String × ClassifiedFact => scopeKeyOf p.2.scope) sorted).mapM
        (resolveCollection uuid5 auditId deviceId fieldId) = (scopeKeys items).mapM fun key =>
          resolveCollection uuid5 auditId deviceId fieldId
            (sorted.filter (scopeKeyOf ·.2.scope = key)) := by
      rw [hgroups, List.mapM_map]
      rfl
    exact hrun

theorem scopeFacts_subset {key : String ×ₗ String} :
    ∀ item ∈ scopeFacts items key, item ∈ items := fun _ hitem => (List.mem_filter.mp hitem).1

theorem scopeFacts_scope {key : String ×ₗ String} {item : ClassifiedFact}
    (h : item ∈ scopeFacts items key) : scopeKeyOf item.scope = key := by
  simpa using (List.mem_filter.mp h).2

theorem collection_key {key : String ×ₗ String} (hkey : key ∈ scopeKeys items)
    {pairs : List (String × ClassifiedFact)} (hs : Spells (scopeFacts items key) originals pairs)
    {draft : EffectiveStateDraft}
    (h : resolveCollection uuid5 auditId deviceId fieldId pairs = .ok draft) :
    scopeKeyOf draft.scope = key := by
  obtain ⟨item, hitem, trace, -, hrun⟩ :=
    @collection_spelled uuid5 auditId deviceId fieldId _ _ _ (scopeFacts_ne_nil hkey) hs
  rw [hrun] at h
  have hcontent := congrArg Content.scopeKey (content_made h)
  rw [content_collection] at hcontent
  exact hcontent.trans (scopeFacts_scope hitem)

/-- A repeatable field of safe scopes says the same under every spelling. -/
theorem repeatable_safe (hfacts : FieldFacts fieldId items) (hclassified : Classified items)
    (hkeys : Keyed (items.map (respellItem originals)))
    (hsafe : ∀ key ∈ scopeKeys items, CollectionSafe (scopeFacts items key))
    (h : resolveRepeatableField uuid5 auditId deviceId fieldId items = .ok drafts) :
    ∃ drafts', resolveRepeatableField uuid5 auditId deviceId fieldId
      (items.map (respellItem originals)) = .ok drafts' ∧
        drafts'.map content = drafts.map content := by
  obtain ⟨pairsOf, hspells, hrun⟩ := @repeatable_spelled uuid5 auditId deviceId fieldId items own
    (hclassified.own.symm ▸ hclassified.keyed)
  obtain ⟨pairsOf', hspells', hrun'⟩ := @repeatable_spelled uuid5 auditId deviceId fieldId items
    originals hkeys
  rw [hclassified.own] at hrun
  rw [hrun] at h
  rw [hrun']
  refine mapM_transfer h (List.forall₂_same.mpr fun key hkey draft hdraft => ?_)
  have hown := hclassified.subset (@scopeFacts_subset items key)
  refine collection_safe (scopeFacts_ne_nil hkey)
    (fun item hitem => hfacts.valid item (scopeFacts_subset item hitem))
    (fun a ha b hb => (scopeFacts_scope ha).trans (scopeFacts_scope hb).symm)
    (hspells key) (hspells' key) ?_ hdraft
  exact alike_of_safe hown.one hown.written hown.nulls (hsafe key hkey) (hspells key) (hspells' key)

/-- A repeatable field with a scope that is not safe says something else under some spelling. -/
theorem repeatable_broken (hclassified : Classified items) {key : String ×ₗ String}
    (hkey : key ∈ scopeKeys items) (hbroken : ¬ CollectionSafe (scopeFacts items key))
    (h : resolveRepeatableField uuid5 auditId deviceId fieldId items = .ok drafts) :
    ∃ number : SecurityFact → Nat, ∀ drafts', resolveRepeatableField uuid5 auditId deviceId fieldId
      (items.map (respellItem (tags number))) = .ok drafts' → Differ drafts drafts' := by
  have hown := hclassified.subset (@scopeFacts_subset items key)
  obtain ⟨pairsOf, hspells, hrun⟩ := @repeatable_spelled uuid5 auditId deviceId fieldId items own
    (hclassified.own.symm ▸ hclassified.keyed)
  rw [hclassified.own] at hrun
  rw [hrun] at h
  obtain ⟨draft, hdraft, hcollection⟩ := mapM_exists_output h hkey
  obtain ⟨number, number', hdiffer⟩ := spellings_differ hown.one hown.written hbroken
  -- a spelling that says the same is alike to the facts as they are
  have halike : ∀ number, (∃ drafts', resolveRepeatableField uuid5 auditId deviceId fieldId
      (items.map (respellItem (tags number))) = .ok drafts' ∧ ¬ Differ drafts drafts') →
      ∃ pairs, Spells (scopeFacts items key) (tags number) pairs ∧ Alike (pairsOf key) pairs := by
    rintro number ⟨drafts', h', hsame⟩
    obtain ⟨pairsOf', hspells', hrun'⟩ := @repeatable_spelled uuid5 auditId deviceId fieldId items
      (tags number) (keyed_tags hclassified number)
    rw [hrun'] at h'
    obtain ⟨draft', hdraft', hcollection'⟩ := mapM_exists_output h' hkey
    refine ⟨pairsOf' key, hspells' key, ?_⟩
    refine alike_of_content (scopeFacts_ne_nil hkey) (hspells key) (hspells' key) hcollection
      hcollection' ?_
    by_contra hcontent
    refine hsame ⟨draft, hdraft, draft', hdraft', ?_, hcontent⟩
    rw [collection_key hkey (hspells key) hcollection,
      collection_key hkey (hspells' key) hcollection']
  by_contra hno
  have hboth : ∀ number, ∃ drafts', resolveRepeatableField uuid5 auditId deviceId fieldId
      (items.map (respellItem (tags number))) = .ok drafts' ∧ ¬ Differ drafts drafts' := by
    intro number
    by_contra hall
    refine hno ⟨number, fun drafts' h' => ?_⟩
    by_contra hsame
    exact hall ⟨drafts', h', hsame⟩
  obtain ⟨pairs, hs, hleft⟩ := halike number (hboth number)
  obtain ⟨pairs', hs', hright⟩ := halike number' (hboth number')
  exact hdiffer pairs pairs' hs hs' (hleft.symm.trans hright)

end Fields

/-- No scope of the field depends on a spelling. -/
def FieldSafe (blockedIds : List UUID) (fieldId : String) (items : List ClassifiedFact) : Prop :=
  heldItems blockedIds items = [] → ∀ field, fieldRegistry fieldId = some field →
    (field.repeatable = false → ∀ parts, scalarParts items = .ok parts →
      ∀ part ∈ parts, ScalarSafe part.2) ∧
    (field.repeatable = true → ∀ key ∈ scopeKeys items, CollectionSafe (scopeFacts items key))

section Field

variable {uuid5 : UUID → String → UUID} {auditId deviceId : UUID} {fieldId : String}
  {blockedIds : List UUID} {items : List ClassifiedFact} {originals : SecurityFact → Original}
  {drafts : List EffectiveStateDraft}

theorem fieldSafe_nil : FieldSafe blockedIds fieldId [] := by
  intro _ field _
  constructor
  · intro _ parts hparts part hpart
    cases hparts
    cases hpart
  · intro _ key hkey
    cases hkey

theorem heldItems_respell : heldItems blockedIds (items.map (respellItem originals)) =
    (heldItems blockedIds items).map (respellItem originals) := by
  rw [heldItems, List.filter_map]
  rfl

theorem resolveField_held_respell (hheld : heldItems blockedIds items ≠ []) :
    resolveField uuid5 auditId deviceId blockedIds (items.map (respellItem originals)) =
      resolveField uuid5 auditId deviceId blockedIds items := by
  cases items with
  | nil => rfl
  | cons first rest =>
    have hcond : (!(heldItems blockedIds (first :: rest)).isEmpty) = true := by simpa using hheld
    have hcond' : (!(heldItems blockedIds
        ((first :: rest).map (respellItem originals))).isEmpty) = true := by
      rw [heldItems_respell]
      simpa using hheld
    refine bind_congr fun policy => ?_
    refine (if_pos hcond').trans (Eq.trans ?_ (if_pos hcond).symm)
    rw [show ((respellItem originals first).fact.fieldId) = first.fact.fieldId from rfl]
    exact (congrArg _ heldItems_respell).trans resolveBlocked_respell

theorem resolveField_scalar (hfacts : FieldFacts fieldId items) (hne : items ≠ [])
    (hfree : heldItems blockedIds items = []) {field : CanonicalField}
    (hfield : fieldRegistry fieldId = some field) (hrep : field.repeatable = false) :
    resolveField uuid5 auditId deviceId blockedIds items =
      resolveScalarField uuid5 auditId deviceId fieldId items := by
  cases items with
  | nil => exact absurd rfl hne
  | cons first rest =>
    have hcond : ((first :: rest).filter fun item => blockedIds.contains item.fact.factId) = [] :=
      hfree
    simp only [resolveField, hfacts.field first List.mem_cons_self, getFieldPolicy, hfield, hcond,
      fieldPolicy, hrep]
    rfl

theorem resolveField_repeatable (hfacts : FieldFacts fieldId items) (hne : items ≠ [])
    (hfree : heldItems blockedIds items = []) {field : CanonicalField}
    (hfield : fieldRegistry fieldId = some field) (hrep : field.repeatable = true) :
    resolveField uuid5 auditId deviceId blockedIds items =
      resolveRepeatableField uuid5 auditId deviceId fieldId items := by
  cases items with
  | nil => exact absurd rfl hne
  | cons first rest =>
    have hcond : ((first :: rest).filter fun item => blockedIds.contains item.fact.factId) = [] :=
      hfree
    simp only [resolveField, hfacts.field first List.mem_cons_self, getFieldPolicy, hfield, hcond,
      fieldPolicy, hrep]
    rfl

/-- A safe field says the same under every spelling. -/
theorem field_safe (hfacts : FieldFacts fieldId items) (hclassified : Classified items)
    (hkeys : Keyed (items.map (respellItem originals)))
    (hsafe : FieldSafe blockedIds fieldId items)
    (h : resolveField uuid5 auditId deviceId blockedIds items = .ok drafts) :
    ∃ drafts', resolveField uuid5 auditId deviceId blockedIds
      (items.map (respellItem originals)) = .ok drafts' ∧
        drafts'.map content = drafts.map content := by
  by_cases hne : items = []
  · subst hne
    exact ⟨drafts, h, rfl⟩
  have hne' : items.map (respellItem originals) ≠ [] := by simpa using hne
  by_cases hheld : heldItems blockedIds items = []
  · have hheld' : heldItems blockedIds (items.map (respellItem originals)) = [] := by
      rw [heldItems_respell, hheld]
      rfl
    obtain ⟨field, hfield, hscalar, hrepeatable⟩ := resolveField_free hfacts hne h hheld
    cases hrep : field.repeatable with
    | false =>
      rw [resolveField_scalar (fieldFacts_respell hfacts) hne' hheld' hfield hrep]
      exact scalar_safe hfacts hclassified hkeys ((hsafe hheld field hfield).1 hrep) (hscalar hrep)
    | true =>
      rw [resolveField_repeatable (fieldFacts_respell hfacts) hne' hheld' hfield hrep]
      exact repeatable_safe hfacts hclassified hkeys ((hsafe hheld field hfield).2 hrep)
        (hrepeatable hrep)
  · exact ⟨drafts, (resolveField_held_respell hheld).trans h, rfl⟩

/-- A field that is not safe says something else under some spelling. -/
theorem field_broken (hfacts : FieldFacts fieldId items) (hclassified : Classified items)
    (hbroken : ¬ FieldSafe blockedIds fieldId items)
    (h : resolveField uuid5 auditId deviceId blockedIds items = .ok drafts) :
    ∃ number : SecurityFact → Nat, ∀ drafts', resolveField uuid5 auditId deviceId blockedIds
      (items.map (respellItem (tags number))) = .ok drafts' → Differ drafts drafts' := by
  have hne : items ≠ [] := by
    rintro rfl
    exact hbroken fieldSafe_nil
  have hne' : ∀ number, items.map (respellItem (tags number)) ≠ [] := fun _ => by simpa using hne
  by_cases hheld : heldItems blockedIds items = []
  · have hheld' : ∀ number, heldItems blockedIds (items.map (respellItem (tags number))) = [] := by
      intro number
      rw [heldItems_respell, hheld]
      rfl
    obtain ⟨field, hfield, hscalar, hrepeatable⟩ := resolveField_free hfacts hne h hheld
    cases hrep : field.repeatable with
    | false =>
      obtain ⟨parts, hparts, part, hpart, hpartBroken⟩ : ∃ parts, scalarParts items = .ok parts ∧
          ∃ part ∈ parts, ¬ ScalarSafe part.2 := by
        by_contra hall
        refine hbroken fun _ other hother => ⟨fun _ parts hparts part hpart => ?_, fun hrep' => ?_⟩
        · by_contra hpartBroken
          exact hall ⟨parts, hparts, part, hpart, hpartBroken⟩
        · rw [← Option.some.inj (hfield.symm.trans hother), hrep] at hrep'
          cases hrep'
      obtain ⟨number, hnumber⟩ :=
        scalar_broken hfacts hclassified hparts hpart hpartBroken (hscalar hrep)
      refine ⟨number, fun drafts' h' => hnumber drafts' ?_⟩
      rwa [resolveField_scalar (fieldFacts_respell hfacts) (hne' number) (hheld' number) hfield
        hrep] at h'
    | true =>
      obtain ⟨key, hkey, hkeyBroken⟩ : ∃ key ∈ scopeKeys items,
          ¬ CollectionSafe (scopeFacts items key) := by
        by_contra hall
        refine hbroken fun _ other hother => ⟨fun hrep' => ?_, fun _ key hkey => ?_⟩
        · rw [← Option.some.inj (hfield.symm.trans hother), hrep] at hrep'
          cases hrep'
        · by_contra hkeyBroken
          exact hall ⟨key, hkey, hkeyBroken⟩
      obtain ⟨number, hnumber⟩ :=
        repeatable_broken hclassified hkey hkeyBroken (hrepeatable hrep)
      refine ⟨number, fun drafts' h' => hnumber drafts' ?_⟩
      rwa [resolveField_repeatable (fieldFacts_respell hfacts) (hne' number) (hheld' number) hfield
        hrep] at h'
  · exact absurd (fun hfree => absurd hfree hheld) hbroken

end Field

section Run

variable {uuid5 : UUID → String → UUID} {auditId deviceId : UUID} {facts : List SecurityFact}
  {operations : UUID → Option FactOperation} {classified : List ClassifiedFact}
  {drafts : List EffectiveStateDraft} {fieldId : String}

theorem mem_factsOf {item : ClassifiedFact} (h : item ∈ factsOf classified fieldId) :
    item ∈ classified := (mem_sortedBy _).mp (List.mem_filter.mp h).1

/-- What sorts a draft is part of its content. -/
def Content.key (shown : Content) : String ×ₗ (String ×ₗ String) :=
  toLex (shown.fieldId, shown.scopeKey)

theorem spellingFree_of_safe (hclassified : classifyFacts facts operations = .ok classified)
    (hstored : ∀ fact ∈ facts, ∃ key, valueKey fact.value = .ok key)
    (hrun : resolveSecurityFacts uuid5 auditId deviceId facts operations = .ok drafts)
    (hsafe : ∀ fieldId, FieldSafe (blockedDependencyIds facts) fieldId
      (factsOf classified fieldId)) :
    SpellingFree uuid5 auditId deviceId facts operations drafts := by
  intro originals hkeys
  have hall := classified_of hclassified hstored
  have hvalid := classified_valid hclassified
  simp only [resolveSecurityFacts, hclassified, except_bind_eq_ok, except_pure_eq_ok,
    Except.ok.injEq, exists_eq_left'] at hrun
  obtain ⟨groups, hgroups, rfl⟩ := hrun
  rw [fieldGroups_eq] at hgroups
  have htransfer : ∃ groups', ((fieldIds classified).map fun field =>
      (factsOf classified field).map (respellItem originals)).mapM
        (resolveField uuid5 auditId deviceId (blockedDependencyIds facts)) = .ok groups' ∧
      groups'.map (List.map content) = groups.map (List.map content) := by
    refine mapM_transfer hgroups ?_
    rw [List.forall₂_map_left_iff, List.forall₂_map_right_iff]
    refine List.forall₂_same.mpr fun field _ fieldDrafts hdrafts => ?_
    have hown := hall.subset fun item hitem => @mem_factsOf classified field item hitem
    refine field_safe (fieldFacts_factsOf hvalid field) hown ?_ (hsafe field) hdrafts
    exact keyed_of_stored hown
      (fun item hitem => (classifyFacts_mem hclassified (mem_factsOf hitem)).1) hkeys
  obtain ⟨groups', hgroups', hcontents⟩ := htransfer
  refine ⟨sortedBy draftKey groups'.flatten, ?_, ?_⟩
  · have hfields : groupRuns (fun item : ClassifiedFact => item.fact.fieldId)
        (sortedBy resolverKey (classified.map (respellItem originals))) =
        (fieldIds classified).map fun field =>
          (factsOf classified field).map (respellItem originals) := by
      rw [fieldGroups_eq, fieldIds_respell]
      exact List.map_congr_left fun field _ => factsOf_respell
    simp only [resolveSecurityFacts, classifyFacts_respell hclassified,
      blockedDependencyIds_respell, except_bind_eq_ok, except_pure_eq_ok, Except.ok.injEq,
      exists_eq_left']
    exact ⟨groups', hfields ▸ hgroups', rfl⟩
  · have hkey : ∀ draft, Content.key (content draft) = draftKey draft := fun _ => rfl
    rw [map_sortedBy hkey, map_sortedBy hkey, List.map_flatten, List.map_flatten, hcontents]

/-- Lists with the same contents do not differ in a field. -/
theorem not_differ {fieldDrafts fieldDrafts' drafts' : List EffectiveStateDraft}
    (hdistinct : FieldDrafts fieldId fieldDrafts) (hdistinct' : FieldDrafts fieldId fieldDrafts')
    (hfilter : drafts.filter (fun draft => draft.fieldId = fieldId) = sortedBy draftKey fieldDrafts)
    (hfilter' : drafts'.filter (fun draft => draft.fieldId = fieldId) =
      sortedBy draftKey fieldDrafts')
    (hcontents : drafts'.map content = drafts.map content) :
    ¬ Differ fieldDrafts fieldDrafts' := by
  rintro ⟨draft, hdraft, draft', hdraft', hscope, hdiffer⟩
  have hin : draft' ∈ drafts' := by
    have hmem := (mem_sortedBy draftKey).mpr hdraft'
    rw [← hfilter'] at hmem
    exact (List.mem_filter.mp hmem).1
  have hcontent : content draft' ∈ drafts.map content :=
    hcontents ▸ List.mem_map_of_mem hin
  obtain ⟨other, hother, hsame⟩ := List.mem_map.mp hcontent
  have hfield : other.fieldId = fieldId :=
    (congrArg Content.fieldId hsame).trans (hdistinct'.field draft' hdraft')
  have hmem : other ∈ fieldDrafts := by
    rw [← mem_sortedBy draftKey, ← hfilter]
    exact List.mem_filter.mpr ⟨hother, decide_eq_true hfield⟩
  have hkey : scopeKeyOf other.scope = scopeKeyOf draft.scope :=
    (congrArg Content.scopeKey hsame).trans hscope
  rw [List.inj_on_of_nodup_map hdistinct.scopes hmem hdraft hkey] at hsame
  exact hdiffer hsame.symm

theorem safe_of_spellingFree (hclassified : classifyFacts facts operations = .ok classified)
    (hstored : ∀ fact ∈ facts, ∃ key, valueKey fact.value = .ok key)
    (hrun : resolveSecurityFacts uuid5 auditId deviceId facts operations = .ok drafts)
    (hfree : SpellingFree uuid5 auditId deviceId facts operations drafts) (fieldId : String) :
    FieldSafe (blockedDependencyIds facts) fieldId (factsOf classified fieldId) := by
  by_contra hbroken
  have hall := classified_of hclassified hstored
  have hown := hall.subset fun item hitem => @mem_factsOf classified fieldId item hitem
  obtain ⟨fieldDrafts, hdistinct, hresolved, hfilter⟩ := fieldRun hclassified hrun fieldId
  obtain ⟨number, hnumber⟩ := field_broken
    (fieldFacts_factsOf (classified_valid hclassified) fieldId) hown hbroken hresolved
  obtain ⟨drafts', hrun', hcontents⟩ := hfree (tags number) fun fact hfact => by
    obtain ⟨key, hkey⟩ := hstored fact hfact
    obtain ⟨_, text, -, htext, -⟩ := valueKey_ok.mp hkey
    exact ⟨_, valueKey_tag htext⟩
  obtain ⟨fieldDrafts', hdistinct', hresolved', hfilter'⟩ :=
    fieldRun (classifyFacts_respell hclassified) hrun' fieldId
  rw [blockedDependencyIds_respell, factsOf_respell] at hresolved'
  exact not_differ hdistinct hdistinct' hfilter hfilter' hcontents
    (hnumber fieldDrafts' hresolved')

end Run

end ConfigAuditor.EffectiveState.SpellingFree
