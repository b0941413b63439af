import ConfigAuditor.EffectiveState.Service
import ConfigAuditor.EffectiveState.VtyPartition

/-!
# What a resolved state holds

Every draft of the resolver cites the classified facts it was made from. The value of a
resolved draft is the value of one of them, or the list of the members they add when the
field is repeatable, and it fits the field either way.
-/
namespace ConfigAuditor.EffectiveState.Resolved

open Library SecurityModel Policy Model Resolver Service VtyPartition

theorem typedValueFromDict_toDict (value : TypedValue) :
    typedValueFromDict value.toDict = .ok value := by
  obtain ⟨type, v, unit, original, originalUnit⟩ := value
  have hunit : ∀ u : Option String, (optionText u).str? = u := by
    intro u
    cases u <;> rfl
  simp [typedValueFromDict, TypedValue.toDict, hasKeys, PyValue.lookup, hunit]

/-- A value that is no list fits its field. -/
theorem validateEffectiveValue_scalar {fieldId : String} {value : TypedValue} {scope : ScopeRef}
    (hlist : value.type ≠ .list) (h : validateEffectiveValue fieldId value scope = .ok ()) :
    ∃ field, validateFieldValueScope fieldId value scope = .ok field := by
  simp only [validateEffectiveValue, hlist, if_false] at h
  split at h
  · rename_i field hcheck
    exact ⟨field, hcheck⟩
  · cases h

theorem validateEffectiveValue_list {fieldId : String} {values : List TypedValue}
    {scope : ScopeRef}
    (h : validateEffectiveValue fieldId
      { type := .list, value := .list (values.map (·.toDict)) } scope = .ok ()) :
    ∀ value ∈ values, ∃ field, validateFieldValueScope fieldId value scope = .ok field := by
  simp only [validateEffectiveValue, if_true, PyValue.iterate, except_bind_eq_ok, liftM_eq_ok,
    Except.ok.injEq, exists_eq_left'] at h
  intro value hvalue
  have hitem := forM_eq_ok.mp h value.toDict (List.mem_map_of_mem hvalue)
  simp only [typedValueFromDict_toDict, except_bind_eq_ok, Except.ok.injEq,
    exists_eq_left'] at hitem
  split at hitem
  · rename_i field hcheck
    exact ⟨field, hcheck⟩
  · cases hitem

/-- The value a resolved draft of these facts may have. -/
def ValueFrom (cardinality : FieldCardinality) (items : List ClassifiedFact) (value : TypedValue) :
    Prop :=
  match cardinality with
  | .scalar => ∃ item ∈ items, value = item.value
  | .repeatable => ∃ values : List TypedValue,
      value = { type := .list, value := .list (values.map (·.toDict)) } ∧
        ∀ v ∈ values, ∃ item ∈ items, v = item.value

/-- A valid draft that was made from `items`, all of them facts of its field. -/
structure DraftFrom (uuid5 : UUID → String → UUID) (auditId deviceId : UUID) (fieldId : String)
    (cardinality : FieldCardinality) (items : List ClassifiedFact) (draft : EffectiveStateDraft) :
    Prop where
  audit : draft.auditId = auditId
  device : draft.deviceId = deviceId
  field : draft.fieldId = fieldId
  cites : items ≠ []
  sources : draft.sourceFactIds = sourceIds items
  valid : validateEffectiveStateDraft uuid5 draft = .ok ()
  value : draft.resolutionStatus = .resolved →
    ∃ value, draft.effectiveValue = some value ∧ ValueFrom cardinality items value

section Drafts

variable {uuid5 : UUID → String → UUID} {auditId deviceId : UUID} {fieldId : String}

theorem makeEffectiveStateDraft_valid {draft made : EffectiveStateDraft}
    (h : makeEffectiveStateDraft uuid5 draft = .ok made) :
    validateEffectiveStateDraft uuid5 made = .ok () := by
  simp only [makeEffectiveStateDraft, except_bind_eq_ok, except_pure_eq_ok] at h
  obtain ⟨_, -, _, hvalid, rfl⟩ := h
  exact hvalid

/-- A state left unresolved cites its facts. -/
theorem draftFrom_unknown {cardinality : FieldCardinality} {items : List ClassifiedFact}
    {scope : ScopeRef} {trace : List PyValue} {reason : UnresolvedReason} {conflict : Bool}
    {draft : EffectiveStateDraft} (hitems : items ≠ [])
    (h : unknownState uuid5 auditId deviceId fieldId scope (sourceIds items) trace reason
      conflict = .ok draft) :
    DraftFrom uuid5 auditId deviceId fieldId cardinality items draft := by
  have hvalid := makeEffectiveStateDraft_valid h
  obtain ⟨id, -, rfl⟩ := makeEffectiveStateDraft_ok uuid5 h
  refine ⟨rfl, rfl, rfl, hitems, rfl, hvalid, ?_⟩
  intro hstatus
  cases conflict <;> cases hstatus

theorem orderedWinner_mem {items : List ClassifiedFact} {winner : ClassifiedFact}
    {conflict : Bool} (h : orderedWinner items = .ok (winner, conflict)) : winner ∈ items := by
  unfold orderedWinner at h
  split at h
  · simp only [except_bind_eq_ok] at h
    obtain ⟨_, -, h⟩ := h
    split at h
    · cases h
    · rename_i head rest hsorted
      simp only [except_pure_eq_ok, Prod.mk.injEq] at h
      obtain ⟨rfl, -⟩ := h
      exact (mem_sortedBy _).mp (show head ∈ byIdentity items by simp [hsorted])
  · split at h
    · cases h
    · rename_i last hlast
      simp only [except_bind_eq_ok, except_pure_eq_ok, Prod.mk.injEq] at h
      obtain ⟨_, -, rfl, -⟩ := h
      exact (mem_sortedBy _).mp (List.mem_of_getLast? hlast)

theorem resolveScalarScope_from {scope : ScopeRef} {items : List ClassifiedFact}
    {draft : EffectiveStateDraft} (hitems : items ≠ [])
    (h : resolveScalarScope uuid5 auditId deviceId fieldId scope items = .ok draft) :
    DraftFrom uuid5 auditId deviceId fieldId .scalar items draft := by
  simp only [resolveScalarScope, except_bind_eq_ok] at h
  obtain ⟨⟨winner, conflict⟩, hwinner, h⟩ := h
  have hmem := orderedWinner_mem hwinner
  cases conflict with
  | true => exact draftFrom_unknown hitems h
  | false =>
    cases hop : winner.operation with
    | reset =>
      simp only [hop, Bool.false_eq_true, if_false] at h
      exact draftFrom_unknown hitems h
    | remove =>
      simp only [hop, Bool.false_eq_true, if_false] at h
      exact draftFrom_unknown hitems h
    | assign =>
      simp only [hop, Bool.false_eq_true, if_false, except_bind_eq_ok] at h
      obtain ⟨_, -, _, -, h⟩ := h
      have hvalid := makeEffectiveStateDraft_valid h
      obtain ⟨id, -, rfl⟩ := makeEffectiveStateDraft_ok uuid5 h
      exact ⟨rfl, rfl, rfl, hitems, rfl, hvalid, fun _ => ⟨_, rfl, winner, hmem, rfl⟩⟩

/-- One member adds the value of one of its facts, or none. -/
theorem memberStep_values {state state' : CollectionState} {members : List ClassifiedFact}
    (h : memberStep state members = .ok state') :
    state'.values = state.values ∨
      ∃ item ∈ members, state'.values = state.values ++ [item.value] := by
  simp only [memberStep, except_bind_eq_ok] at h
  obtain ⟨⟨winner, conflict⟩, hwinner, h⟩ := h
  have hmem := orderedWinner_mem hwinner
  cases conflict with
  | true =>
    simp only [if_true, except_pure_eq_ok] at h
    exact .inl (by rw [← h])
  | false =>
    cases hop : winner.operation with
    | assign =>
      simp only [hop, Bool.false_eq_true, if_false, except_pure_eq_ok] at h
      exact .inr ⟨winner, hmem, by rw [← h]⟩
    | remove =>
      simp only [hop, Bool.false_eq_true, if_false, except_pure_eq_ok] at h
      exact .inl (by rw [← h])
    | reset =>
      simp only [hop, Bool.false_eq_true, if_false, except_pure_eq_ok] at h
      exact .inl (by rw [← h])

theorem members_values {groups : List (String × List ClassifiedFact)}
    {items : List ClassifiedFact} (hgroups : ∀ group ∈ groups, ∀ item ∈ group.2, item ∈ items)
    {state state' : CollectionState} (hstate : ∀ v ∈ state.values, ∃ item ∈ items, v = item.value)
    (h : groups.foldlM (fun state group => memberStep state group.2) state = .ok state') :
    ∀ v ∈ state'.values, ∃ item ∈ items, v = item.value := by
  induction groups generalizing state with
  | nil =>
    simp only [List.foldlM_nil, except_pure_eq_ok] at h
    exact h ▸ hstate
  | cons group rest ih =>
    simp only [List.foldlM_cons, except_bind_eq_ok] at h
    obtain ⟨next, hnext, hrest⟩ := h
    refine ih (fun g hg => hgroups g (List.mem_cons_of_mem _ hg)) ?_ hrest
    intro v hv
    rcases memberStep_values hnext with heq | ⟨item, hitem, heq⟩
    · exact hstate v (heq ▸ hv)
    · rw [heq, List.mem_append, List.mem_singleton] at hv
      rcases hv with hv | rfl
      · exact hstate v hv
      · exact ⟨item, hgroups group (by simp) item hitem, rfl⟩

/-- The facts of one scope of a repeatable field. -/
theorem resolveCollection_from {items : List (String × ClassifiedFact)}
    {draft : EffectiveStateDraft}
    (h : resolveCollection uuid5 auditId deviceId fieldId items = .ok draft) :
    DraftFrom uuid5 auditId deviceId fieldId .repeatable (items.map (·.2)) draft := by
  cases items with
  | nil => cases h
  | cons head rest =>
    obtain ⟨key, first⟩ := head
    simp only [resolveCollection, except_bind_eq_ok] at h
    obtain ⟨state, hstate, h⟩ := h
    have hvalues := @members_values _ (((key, first) :: rest).map (·.2))
      (fun group hgroup item hitem => Dict.mem_grouped ((mem_sortedBy _).mp hgroup) hitem)
      ⟨[], _, _⟩ _ (by simp) hstate
    split at h
    · exact draftFrom_unknown (by simp) h
    · have hvalid := makeEffectiveStateDraft_valid h
      obtain ⟨id, -, rfl⟩ := makeEffectiveStateDraft_ok uuid5 h
      exact ⟨rfl, rfl, rfl, by simp, rfl, hvalid, fun _ => ⟨_, rfl, state.values, rfl, hvalues⟩⟩

theorem resolveScalarField_from {facts : List ClassifiedFact} {drafts : List EffectiveStateDraft}
    (h : resolveScalarField uuid5 auditId deviceId fieldId facts = .ok drafts)
    {draft : EffectiveStateDraft} (hdraft : draft ∈ drafts) :
    ∃ items ⊆ facts, DraftFrom uuid5 auditId deviceId fieldId .scalar items draft := by
  cases facts with
  | nil =>
    cases h
    cases hdraft
  | cons first rest =>
    simp only [resolveScalarField] at h
    split at h
    · obtain ⟨group, hgroup, hd⟩ := mapM_exists_input h hdraft
      have hsub : group ⊆ first :: rest := by
        intro item hitem
        have hflat := List.mem_flatten.mpr ⟨group, hgroup, hitem⟩
        rw [flatten_groupRuns] at hflat
        exact (mem_sortedBy _).mp hflat
      have hne := ne_nil_of_mem_groupRuns hgroup
      split at hd
      · exact absurd rfl hne
      · exact ⟨_, hsub, resolveScalarScope_from hne hd⟩
    · simp only [except_bind_eq_ok] at h
      obtain ⟨parts, hparts, hdrafts⟩ := h
      obtain ⟨ranges, hmap, -, rfl⟩ := vtyPartitions_ok hparts
      obtain ⟨part, hpart, hd⟩ := mapM_exists_input hdrafts hdraft
      obtain ⟨cell, hcell, rfl⟩ := List.mem_map.mp hpart
      obtain ⟨-, hne⟩ := Intervals.partition_nonempty _ _ hcell
      refine ⟨cell.2.map (·.1), ?_, resolveScalarScope_from (by simpa using hne) hd⟩
      intro item hitem
      obtain ⟨range, hrange, rfl⟩ := List.mem_map.mp hitem
      obtain ⟨hin, -⟩ := Intervals.partition_covered _ _ hcell hrange
      exact hmap ▸ List.mem_map_of_mem hin

theorem resolveRepeatableField_from {facts : List ClassifiedFact}
    {drafts : List EffectiveStateDraft}
    (h : resolveRepeatableField uuid5 auditId deviceId fieldId facts = .ok drafts)
    {draft : EffectiveStateDraft} (hdraft : draft ∈ drafts) :
    ∃ items ⊆ facts, DraftFrom uuid5 auditId deviceId fieldId .repeatable items draft := by
  simp only [resolveRepeatableField, except_bind_eq_ok] at h
  obtain ⟨keyed, hkeyed, hdrafts⟩ := h
  obtain ⟨group, hgroup, hd⟩ := mapM_exists_input hdrafts hdraft
  refine ⟨group.map (·.2), ?_, resolveCollection_from hd⟩
  intro item hitem
  obtain ⟨pair, hpair, rfl⟩ := List.mem_map.mp hitem
  have hsorted : pair ∈ keyed := by
    have hflat := List.mem_flatten.mpr ⟨group, hgroup, hpair⟩
    rw [flatten_groupRuns] at hflat
    exact (mem_sortedBy _).mp hflat
  obtain ⟨fact, hfact, hpairOf⟩ := mapM_exists_input hkeyed hsorted
  simp only [except_bind_eq_ok, except_pure_eq_ok] at hpairOf
  obtain ⟨_, -, rfl⟩ := hpairOf
  exact hfact

theorem resolveBlocked_from {cardinality : FieldCardinality} {blocked : List ClassifiedFact}
    {drafts : List EffectiveStateDraft} (hblocked : blocked ≠ [])
    (h : resolveBlocked uuid5 auditId deviceId fieldId blocked = .ok drafts)
    {draft : EffectiveStateDraft} (hdraft : draft ∈ drafts) :
    DraftFrom uuid5 auditId deviceId fieldId cardinality blocked draft := by
  obtain ⟨entry, -, hd⟩ := mapM_exists_input h hdraft
  exact draftFrom_unknown hblocked hd

/-- Every draft of a field is made from facts of the field. -/
theorem resolveField_from {blockedIds : List UUID} {facts : List ClassifiedFact}
    {drafts : List EffectiveStateDraft} (hfield : ∀ item ∈ facts, item.fact.fieldId = fieldId)
    (h : resolveField uuid5 auditId deviceId blockedIds facts = .ok drafts)
    {draft : EffectiveStateDraft} (hdraft : draft ∈ drafts) :
    ∃ field items, fieldRegistry fieldId = some field ∧ items ⊆ facts ∧
      DraftFrom uuid5 auditId deviceId fieldId (fieldPolicy field).cardinality items draft := by
  cases facts with
  | nil =>
    cases h
    cases hdraft
  | cons first rest =>
    have hfirst : first.fact.fieldId = fieldId := hfield first (by simp)
    simp only [resolveField, hfirst, except_bind_eq_ok] at h
    obtain ⟨policy, hpolicy, h⟩ := h
    unfold getFieldPolicy at hpolicy
    cases hreg : fieldRegistry fieldId with
    | none => simp [hreg] at hpolicy
    | some field =>
      simp only [hreg, Except.ok.injEq] at hpolicy
      subst hpolicy
      refine ⟨field, ?_⟩
      split at h
      · rename_i hblocked
        refine ⟨_, rfl, List.filter_subset_self _, resolveBlocked_from ?_ h hdraft⟩
        simpa using hblocked
      · cases hcard : (fieldPolicy field).cardinality with
        | scalar =>
          rw [hcard] at h
          obtain ⟨items, hsub, hfrom⟩ := resolveScalarField_from h hdraft
          exact ⟨items, rfl, hsub, hfrom⟩
        | repeatable =>
          rw [hcard] at h
          obtain ⟨items, hsub, hfrom⟩ := resolveRepeatableField_from h hdraft
          exact ⟨items, rfl, hsub, hfrom⟩

theorem classifyFacts_mem {facts : List SecurityFact} {operations : UUID → Option FactOperation}
    {classified : List ClassifiedFact} (h : classifyFacts facts operations = .ok classified)
    {item : ClassifiedFact} (hitem : item ∈ classified) :
    item.fact ∈ facts ∧ item.value = item.fact.value := by
  obtain ⟨fact, hfact, hc⟩ := mapM_exists_input h hitem
  obtain ⟨rfl, -, hvalue, -⟩ := classify_ok hc
  exact ⟨hfact, hvalue⟩

/-- Every draft of an audit is made from classified facts of its field. -/
theorem resolveSecurityFacts_from {facts : List SecurityFact}
    {operations : UUID → Option FactOperation} {drafts : List EffectiveStateDraft}
    (h : resolveSecurityFacts uuid5 auditId deviceId facts operations = .ok drafts)
    {draft : EffectiveStateDraft} (hdraft : draft ∈ drafts) :
    ∃ field items, fieldRegistry draft.fieldId = some field ∧
      (∀ item ∈ items, item.fact ∈ facts ∧ item.value = item.fact.value ∧
        item.fact.fieldId = draft.fieldId) ∧
      DraftFrom uuid5 auditId deviceId draft.fieldId (fieldPolicy field).cardinality items
        draft := by
  simp only [resolveSecurityFacts, except_bind_eq_ok, except_pure_eq_ok] at h
  obtain ⟨classified, hclassified, groups, hgroups, rfl⟩ := h
  obtain ⟨group, hgroup, hin⟩ := List.mem_flatten.mp ((mem_sortedBy _).mp hdraft)
  obtain ⟨members, hmembers, hresolved⟩ := mapM_exists_input hgroups hgroup
  obtain ⟨first, hfirst⟩ := List.exists_mem_of_ne_nil _ (ne_nil_of_mem_groupRuns hmembers)
  have hsame : ∀ item ∈ members, item.fact.fieldId = first.fact.fieldId := fun item hitem =>
    eq_of_mem_groupRuns hmembers hitem hfirst
  obtain ⟨field, items, hfield, hsub, hfrom⟩ := resolveField_from hsame hresolved hin
  have hdraftField : draft.fieldId = first.fact.fieldId := hfrom.field
  rw [← hdraftField] at hfield hfrom
  refine ⟨field, items, hfield, ?_, hfrom⟩
  intro item hitem
  have hsorted : item ∈ sortedBy resolverKey classified := by
    have hflat := List.mem_flatten.mpr ⟨members, hmembers, hsub hitem⟩
    rwa [flatten_groupRuns] at hflat
  obtain ⟨hfact, hvalue⟩ := classifyFacts_mem hclassified ((mem_sortedBy _).mp hsorted)
  exact ⟨hfact, hvalue, (hsame item (hsub hitem)).trans hdraftField.symm⟩

end Drafts

/-- The value has a type of the field, and is of that type. -/
def FitsField (field : CanonicalField) (value : TypedValue) : Prop :=
  value.type ∈ field.expectedTypes ∧ hasType value.type value.value = true

def listOf (values : List TypedValue) : TypedValue :=
  { type := .list, value := .list (values.map (·.toDict)) }

/-- A value of the field, or a list of its values when the field is repeatable. -/
def ResolvedValue (field : CanonicalField) (value : TypedValue) : Prop :=
  if field.repeatable then ∃ members, value = listOf members ∧ ∀ m ∈ members, FitsField field m
  else FitsField field value

/-- Facts the service lets through to the resolver, each with its operation. -/
def Checked (facts : List SecurityFact) (operations : UUID → Option FactOperation) : Prop :=
  ∀ fact ∈ facts, ∃ operation, operations fact.factId = some operation ∧
    checkFactValue fact operation = .ok ()

/-- Some run of the resolver on checked facts marks the field resolved with this value. -/
def CanResolve (uuid5 : UUID → String → UUID) (fieldId : String) (value : TypedValue) : Prop :=
  ∃ auditId deviceId facts operations drafts, Checked facts operations ∧
    resolveSecurityFacts uuid5 auditId deviceId facts operations = .ok drafts ∧
    ∃ draft ∈ drafts, draft.fieldId = fieldId ∧ draft.resolutionStatus = .resolved ∧
      draft.effectiveValue = some value

theorem fields_no_list : ∀ field ∈ fields, .list ∉ field.expectedTypes := by decide

/-- The value a draft was checked with. -/
theorem effectiveValue_valid {uuid5 : UUID → String → UUID} {draft : EffectiveStateDraft}
    {value : TypedValue} (h : validateEffectiveStateDraft uuid5 draft = .ok ())
    (hvalue : draft.effectiveValue = some value) :
    validateEffectiveValue draft.fieldId value draft.scope = .ok () := by
  simp only [validateEffectiveStateDraft, except_bind_eq_ok, hvalue] at h
  obtain ⟨_, -, _, -, _, -, _, -, _, h, -⟩ := h
  exact h

/-- A resolved value fits its field. -/
theorem resolvedValue_of_canResolve {uuid5 : UUID → String → UUID} {field : CanonicalField}
    {fieldId : String} {value : TypedValue} (hfield : fieldRegistry fieldId = some field)
    (h : CanResolve uuid5 fieldId value) : ResolvedValue field value := by
  obtain ⟨auditId, deviceId, facts, operations, drafts, hchecked, hrun, draft, hdraft, rfl,
    hstatus, hvalue⟩ := h
  obtain ⟨field', items, hfield', hitems, hfrom⟩ := resolveSecurityFacts_from hrun hdraft
  obtain rfl : field' = field := by simpa using hfield'.symm.trans hfield
  have hvalid := effectiveValue_valid hfrom.valid hvalue
  obtain ⟨value', hvalue', hmade⟩ := hfrom.value hstatus
  obtain rfl : value' = value := by simpa using hvalue'.symm.trans hvalue
  have hfits : ∀ {v : TypedValue} {f : CanonicalField},
      validateFieldValueScope draft.fieldId v draft.scope = .ok f → FitsField field' v := by
    intro v f hcheck
    rw [validateFieldValueScope_eq_ok] at hcheck
    obtain rfl : f = field' := by simpa using hcheck.1.symm.trans hfield'
    exact ⟨hcheck.2.1, hcheck.2.2.2.1⟩
  unfold ResolvedValue
  cases hrep : field'.repeatable with
  | true =>
    simp only [fieldPolicy, hrep, if_true, ValueFrom] at hmade ⊢
    obtain ⟨values, rfl, -⟩ := hmade
    refine ⟨values, rfl, fun m hm => ?_⟩
    obtain ⟨f, hcheck⟩ := validateEffectiveValue_list hvalid m hm
    exact hfits hcheck
  | false =>
    simp only [fieldPolicy, hrep, Bool.false_eq_true, if_false, ValueFrom] at hmade ⊢
    obtain ⟨item, hitem, rfl⟩ := hmade
    obtain ⟨hfact, hsame, hitemField⟩ := hitems item hitem
    have hlist : item.value.type ≠ .list := by
      intro hlist
      obtain ⟨operation, -, hcheck⟩ := hchecked item.fact hfact
      rw [checkFactValue, ← hsame, if_neg (by rw [hlist]; decide)] at hcheck
      split at hcheck
      · rename_i f hok
        rw [hitemField, validateFieldValueScope_eq_ok] at hok
        have hmem := (fieldRegistry_fieldId hfield').2
        obtain rfl : f = field' := by simpa using hok.1.symm.trans hfield'
        exact fields_no_list f hmem (hlist ▸ hok.2.1)
      · cases hcheck
    obtain ⟨f, hcheck⟩ := validateEffectiveValue_scalar hlist hvalid
    exact hfits hcheck

section Single

/-- A scope every field of its kind accepts, outside the terminal lines. -/
def anyScope (field : CanonicalField) : ScopeRef :=
  if field.allowedScopeTypes.contains "device" then ⟨"device", "device", []⟩
  else if field.allowedScopeTypes.contains "interface" then
    ⟨"interface", "interface:eth0", [("name", .str "eth0")]⟩
  else ⟨"administrator", "administrator:admin", [("name", .str "admin")]⟩

/-- A statement on line 1 of a configuration that sets the field to the value. -/
def statementFact (field : CanonicalField) (value : TypedValue) : SecurityFact :=
  { factId := UUID.ofNat 4, auditId := UUID.ofNat 1, deviceId := UUID.ofNat 2,
    snapshotId := UUID.ofNat 3, fieldId := field.fieldId, value, scope := anyScope field,
    evidenceRefs := [lineEvidence 1], mappingId := none, mappingVersionId := none,
    knowledgePackVersionId := UUID.ofNat 9, dependencies := [] }

def statementItem (field : CanonicalField) (value : TypedValue) : ClassifiedFact :=
  { fact := statementFact field value, scope := anyScope field, value, operation := .assign,
    artifactId := UUID.ofNat 5, sourceLine := 1 }

variable {field : CanonicalField} {value : TypedValue} {key : String}

theorem anyScope_valid : ∀ field ∈ fields,
    validateScope (anyScope field) = .ok () ∧
      (anyScope field).type ∈ field.allowedScopeTypes ∧
      (anyScope field).key.isEmpty = false ∧ (anyScope field).type ≠ "vty_range" ∧
      (Text.strip field.fieldId).isEmpty = false ∧ fieldRegistry field.fieldId = some field := by
  decide +kernel

theorem classify_statement (hfield : field ∈ fields) :
    classify (statementFact field value) (some .assign) = .ok (statementItem field value) := by
  have hscope := (anyScope_valid field hfield).1
  simp only [classify, scopeFromDict, statementFact, hscope, factOperation, lineEvidence,
    refPosition]
  rfl

theorem orderedWinner_single (item : ClassifiedFact) (hkey : valueKey item.value = .ok key) :
    orderedWinner [item] = .ok (item, false) := by
  have hsource : bySource [item] = [item] := rfl
  have hkeys : operationKeys [item] = .ok [(item.operation, key)] := by
    simp only [operationKeys, List.mapM_cons, List.mapM_nil, hkey]
    rfl
  simp [orderedWinner, hsource, hkeys, bind, Except.bind, pure, Except.pure]

theorem validateFieldValueScope_fits (hfield : field ∈ fields) (hfits : FitsField field value) :
    validateFieldValueScope field.fieldId value (anyScope field) = .ok field := by
  obtain ⟨-, htype, hkey, -, -, hreg⟩ := anyScope_valid field hfield
  exact validateFieldValueScope_eq_ok.mpr ⟨hreg, hfits.1, htype, hfits.2, hkey⟩

/-- Traces of texts can be stored. -/
theorem validateJsonCollection_texts {trace : List PyValue}
    (h : ∀ event ∈ trace, ∃ parts, PyValue.encode true event = .ok parts) :
    validateJsonCollection trace = .ok () := by
  have hlist : ∃ parts, PyValue.encodeList true trace = .ok parts := by
    induction trace with
    | nil => exact ⟨[], by simp [PyValue.encodeList]⟩
    | cons event rest ih =>
      obtain ⟨part, hpart⟩ := h event (by simp)
      obtain ⟨parts, hparts⟩ := ih fun e he => h e (List.mem_cons_of_mem _ he)
      exact ⟨part :: parts, by simp [PyValue.encodeList, hpart, hparts, bind, Except.bind,
        pure, Except.pure]⟩
  obtain ⟨parts, hparts⟩ := hlist
  simp [validateJsonCollection, PyValue.encode, hparts, bind, Except.bind, pure, Except.pure]

theorem encode_texts (event : String) (entries : List (String × String)) :
    ∃ parts, PyValue.encode true (traceEvent event (entries.map fun e => (e.1, .str e.2))) =
      .ok parts := by
  have hentries : ∀ entries : List (String × String),
      ∃ parts, PyValue.encodeEntries true (entries.map fun e => (e.1, PyValue.str e.2)) =
        .ok parts := by
    intro entries
    induction entries with
    | nil => exact ⟨[], by simp [PyValue.encodeEntries]⟩
    | cons entry rest ih =>
      obtain ⟨parts, hparts⟩ := ih
      exact ⟨(entry.1, PyValue.jsonString entry.2) :: parts, by
        simp [PyValue.encodeEntries, PyValue.encode, hparts, bind, Except.bind, pure,
          Except.pure]⟩
  obtain ⟨parts, hparts⟩ := hentries (("event", event) :: entries)
  simp only [List.map_cons] at hparts
  exact ⟨_, by simp only [traceEvent, PyValue.encode, hparts]; rfl⟩

/-- The draft of a statement, before its identity is filled in. -/
def statementDraft (field : CanonicalField) (value : TypedValue) (trace : List PyValue) :
    EffectiveStateDraft :=
  { effectiveStateId := UUID.ofNat 0, auditId := UUID.ofNat 1, deviceId := UUID.ofNat 2,
    fieldId := field.fieldId, scope := anyScope field, effectiveValue := some value,
    resolutionStatus := .resolved, sourceFactIds := [UUID.ofNat 4], resolutionTrace := trace }

/-- A draft of the field that is resolved with the value. -/
def IsResolved (field : CanonicalField) (value : TypedValue) (draft : EffectiveStateDraft) : Prop :=
  draft.fieldId = field.fieldId ∧ draft.resolutionStatus = .resolved ∧
    draft.effectiveValue = some value

theorem makeEffectiveStateDraft_statement (uuid5 : UUID → String → UUID) (hfield : field ∈ fields)
    {trace : List PyValue}
    (hvalid : validateEffectiveValue field.fieldId value (anyScope field) = .ok ())
    (htrace : validateJsonCollection trace = .ok ()) :
    ∃ draft, makeEffectiveStateDraft uuid5 (statementDraft field value trace) = .ok draft ∧
      IsResolved field value draft := by
  obtain ⟨hscopeOk, -, -, -, hname, -⟩ := anyScope_valid field hfield
  have hid : ∃ id, deterministicEffectiveStateId uuid5 (UUID.ofNat 1) field.fieldId
      (anyScope field) = .ok id := by
    simp only [deterministicEffectiveStateId, canonicalScopeKey, hscopeOk, hname]
    exact ⟨_, rfl⟩
  obtain ⟨id, hid⟩ := hid
  have hempty : validateJsonCollection [] = .ok () :=
    validateJsonCollection_texts fun _ h => nomatch h
  have hsources : (decide ¬[UUID.ofNat 4].Nodup || [UUID.ofNat 4].any (·.int == 0)) = false := by
    decide
  have hcheck : validateEffectiveStateDraft uuid5
      { statementDraft field value trace with effectiveStateId := id } = .ok () := by
    simp only [validateEffectiveStateDraft, statementDraft, hid, hname, hvalid, hscopeOk, htrace,
      hempty, except_bind_eq_ok, raiseIf_eq_ok]
    have hstrip : (Text.strip "1.0.0").isEmpty = false := by decide +kernel
    exact ⟨(), rfl, id, rfl, (), by simp, (), trivial, (), trivial, (), hsources, (), rfl, (),
      hstrip, (), trivial, trivial⟩
  refine ⟨{ statementDraft field value trace with effectiveStateId := id }, ?_, rfl, rfl, rfl⟩
  simp only [makeEffectiveStateDraft, except_bind_eq_ok, except_pure_eq_ok]
  exact ⟨id, hid, (), hcheck, rfl⟩

/-- The trace of the statement: its fact is read, then decides. -/
def statementTrace (field : CanonicalField) (event : String) : List PyValue :=
  [("input_fact", [("fact_id", (UUID.ofNat 4).str), ("scope_key", (anyScope field).key)]),
    (event, [("fact_id", (UUID.ofNat 4).str)])].map fun entry =>
      traceEvent entry.1 (entry.2.map fun p => (p.1, .str p.2))

theorem statementTrace_valid (field : CanonicalField) (event : String) :
    validateJsonCollection (statementTrace field event) = .ok () := by
  refine validateJsonCollection_texts fun e he => ?_
  obtain ⟨entry, -, rfl⟩ := List.mem_map.mp he
  exact encode_texts _ _

theorem resolveScalarScope_statement (uuid5 : UUID → String → UUID) (hfield : field ∈ fields)
    (hkey : valueKey value = .ok key)
    (hvalid : validateEffectiveValue field.fieldId value (anyScope field) = .ok ()) :
    ∃ draft, resolveScalarScope uuid5 (UUID.ofNat 1) (UUID.ofNat 2) field.fieldId (anyScope field)
        [statementItem field value] = .ok draft ∧ IsResolved field value draft := by
  obtain ⟨draft, hdraft, hresolved⟩ := makeEffectiveStateDraft_statement uuid5 hfield hvalid
    (statementTrace_valid field "explicit_selected")
  have hwinner := orderedWinner_single (statementItem field value) hkey
  refine ⟨draft, ?_, hresolved⟩
  have hvalueKey : valueKey (statementItem field value).value = .ok key := hkey
  have hop : (statementItem field value).operation = .assign := rfl
  have hone : [(statementItem field value, key)].filter (·.2 == key) =
      [(statementItem field value, key)] := by simp
  simp only [resolveScalarScope, hwinner, hop, hvalueKey, except_bind_eq_ok, Except.ok.injEq,
    exists_eq_left', Bool.false_eq_true, if_false, List.mapM_cons, List.mapM_nil,
    except_pure_eq_ok, hone]
  exact hdraft

theorem resolveCollection_statement (uuid5 : UUID → String → UUID) (hfield : field ∈ fields)
    (hkey : valueKey value = .ok key)
    (hvalid : validateEffectiveValue field.fieldId (listOf [value]) (anyScope field) = .ok ()) :
    ∃ draft, resolveCollection uuid5 (UUID.ofNat 1) (UUID.ofNat 2) field.fieldId
        [(key, statementItem field value)] = .ok draft ∧
      IsResolved field (listOf [value]) draft := by
  obtain ⟨draft, hdraft, hresolved⟩ := makeEffectiveStateDraft_statement uuid5 hfield hvalid
    (statementTrace_valid field "collection_member_added")
  have hwinner := orderedWinner_single (statementItem field value) hkey
  refine ⟨draft, ?_, hresolved⟩
  have hmembers : sortedBy (·.1) ([(key, statementItem field value)].foldl
      (fun dict p => Dict.append dict p.1 p.2) []) = [(key, [statementItem field value])] := rfl
  simp only [resolveCollection, hmembers, List.foldlM_cons, List.foldlM_nil, memberStep, hwinner,
    except_bind_eq_ok, Except.ok.injEq, exists_eq_left']
  exact ⟨_, ⟨_, rfl, rfl⟩, hdraft⟩

theorem validateEffectiveValue_fits (hfield : field ∈ fields) (hfits : FitsField field value) :
    validateEffectiveValue field.fieldId value (anyScope field) = .ok () ∧
      validateEffectiveValue field.fieldId (listOf [value]) (anyScope field) = .ok () := by
  have hcheck := validateFieldValueScope_fits hfield hfits
  have hlist : value.type ≠ .list := fun h => fields_no_list field hfield (h ▸ hfits.1)
  constructor
  · simp only [validateEffectiveValue, hlist, if_false, hcheck]
  · simp only [validateEffectiveValue, listOf, if_true, PyValue.iterate, List.map_cons,
      List.map_nil, except_bind_eq_ok, liftM_eq_ok, Except.ok.injEq, exists_eq_left']
    refine forM_eq_ok.mpr fun item hitem => ?_
    rw [List.mem_singleton.mp hitem, typedValueFromDict_toDict]
    simp only [except_bind_eq_ok, Except.ok.injEq, exists_eq_left', hcheck]

/-- Every value that fits a field can be resolved, alone or as the only member of a list. -/
theorem canResolve_of_fits (uuid5 : UUID → String → UUID) (hfield : field ∈ fields)
    (hfits : FitsField field value) (hkey : valueKey value = .ok key) :
    CanResolve uuid5 field.fieldId (if field.repeatable then listOf [value] else value) := by
  have hreg := (anyScope_valid field hfield).2.2.2.2.2
  have hvty := (anyScope_valid field hfield).2.2.2.1
  have hvalid := validateEffectiveValue_fits hfield hfits
  have hitem := @classify_statement _ value hfield
  have hresolve : ∃ draft, resolveField uuid5 (UUID.ofNat 1) (UUID.ofNat 2) []
      [statementItem field value] = .ok [draft] ∧
      IsResolved field (if field.repeatable then listOf [value] else value) draft := by
    have hscope : (statementItem field value).scope.type ≠ "vty_range" := hvty
    have hfieldId : (statementItem field value).fact.fieldId = field.fieldId := rfl
    cases hrep : field.repeatable with
    | false =>
      obtain ⟨draft, hdraft, hresolved⟩ := resolveScalarScope_statement uuid5 hfield hkey hvalid.1
      refine ⟨draft, ?_, hresolved⟩
      simp only [resolveField, hfieldId, getFieldPolicy, hreg, fieldPolicy, hrep,
        List.contains_nil, List.filter_false, List.isEmpty_nil, Bool.not_true, Bool.false_eq_true,
        if_false, except_bind_eq_ok, Except.ok.injEq, exists_eq_left', resolveScalarField,
        ne_eq, hscope, not_false_eq_true, if_true]
      exact mapM_eq_ok.mpr (.cons hdraft .nil)
    | true =>
      obtain ⟨draft, hdraft, hresolved⟩ := resolveCollection_statement uuid5 hfield hkey hvalid.2
      refine ⟨draft, ?_, hresolved⟩
      simp only [resolveField, hfieldId, getFieldPolicy, hreg, fieldPolicy, hrep,
        List.contains_nil, List.filter_false, List.isEmpty_nil, Bool.not_true, Bool.false_eq_true,
        if_false, if_true, except_bind_eq_ok, Except.ok.injEq, exists_eq_left',
        resolveRepeatableField]
      refine ⟨[(key, statementItem field value)], ?_, mapM_eq_ok.mpr (.cons hdraft .nil)⟩
      refine mapM_eq_ok.mpr (.cons ?_ .nil)
      simp only [statementItem, hkey]
      rfl
  obtain ⟨draft, hdraft, hresolved⟩ := hresolve
  refine ⟨UUID.ofNat 1, UUID.ofNat 2, [statementFact field value], fun _ => some .assign, [draft],
    ?_, ?_, draft, by simp, hresolved⟩
  · intro fact hfact
    rw [List.mem_singleton.mp hfact]
    have hnull : (statementFact field value).value.type ≠ .null := fun h =>
      fields_no_null field hfield (h ▸ hfits.1)
    refine ⟨.assign, rfl, ?_⟩
    simp only [checkFactValue, hnull, if_false]
    simp only [statementFact, validateFieldValueScope_fits hfield hfits]
  · have hblocked : blockedDependencyIds [statementFact field value] = [] :=
      blockedDependencyIds_eq_nil fun fact hfact => by rw [List.mem_singleton.mp hfact]; rfl
    have hclassified : classifyFacts [statementFact field value] (fun _ => some .assign) =
        .ok [statementItem field value] := by
      simp only [classifyFacts, List.mapM_cons, List.mapM_nil, hitem]
      rfl
    simp only [resolveSecurityFacts, hclassified, hblocked, except_bind_eq_ok, Except.ok.injEq,
      exists_eq_left', except_pure_eq_ok]
    exact ⟨[[draft]], mapM_eq_ok.mpr (.cons hdraft .nil), rfl⟩

end Single
end ConfigAuditor.EffectiveState.Resolved
