import ConfigAuditor.EffectiveState.Respelling

/-!
# What the trace of a draft keeps

A trace lists the input facts, then the event that decided, and is cut to its first 128
entries. The decision is kept exactly where few enough facts precede it.
-/
namespace ConfigAuditor.EffectiveState.Traces

open Library SecurityModel Policy Model Resolver VtyPartition Resolved Groups OrderIndependence
  ScopeTypes ScopeIndependence Winner Respelling

/-! ## The decision of a draft -/

/-- The facts a draft cites, in the order of the resolver. -/
def citedFacts (classified : List ClassifiedFact) (draft : EffectiveStateDraft) :
    List ClassifiedFact :=
  (factsOf classified draft.fieldId).filter fun item =>
    draft.sourceFactIds.contains item.fact.factId

/-- The event that decided a draft. -/
def Decision (classified : List ClassifiedFact) (draft : EffectiveStateDraft) (event : PyValue) :
    Prop :=
  match draft.resolutionStatus, draft.unresolvedReason with
  | .resolved, _ => ∃ winner, orderedWinner (citedFacts classified draft) = .ok (winner, false) ∧
      event = traceEvent "explicit_selected" [("fact_id", factIdText winner)]
  | .conflicting, _ => event = traceEvent "conflict_detected" []
  | .unknown, some .unresolvedDefault =>
    ∃ winner, orderedWinner (citedFacts classified draft) = .ok (winner, false) ∧
      event = traceEvent "default_missing" [("fact_id", factIdText winner)]
  | .unknown, some .missingEvidence => ∃ item ∈ citedFacts classified draft,
      event = traceEvent "dependency_missing" [("fact_id", factIdText item)]
  | .unknown, _ => event = traceEvent "unresolved" []

/-- The trace is bounded and has the decision. -/
def KeepsDecision (classified : List ClassifiedFact) (draft : EffectiveStateDraft) : Prop :=
  draft.resolutionTrace.length ≤ maxTraceEntries ∧
    ∃ event ∈ draft.resolutionTrace, Decision classified draft event

/-- A scalar draft, or one in conflict. -/
def Explained (draft : EffectiveStateDraft) : Prop :=
  (∃ field, fieldRegistry draft.fieldId = some field ∧ field.repeatable = false) ∨
    draft.resolutionStatus = .conflicting

/-! ## Few enough facts -/

/-- The facts with the value of a fact. -/
def equivalents (items : List ClassifiedFact) (winner : ClassifiedFact) : List ClassifiedFact :=
  items.filter fun item => (valueKey item.value).toOption == (valueKey winner.value).toOption

/-- The deciding facts assign a value that further facts of the scope have. -/
def Collapses (items : List ClassifiedFact) : Prop :=
  (∀ a ∈ deciding items, ∀ b ∈ deciding items, Agree a b) ∧
    ∃ a ∈ deciding items, a.operation = .assign ∧ 1 < (equivalents items a).length

/-- The facts of a scope leave room for the decision. -/
def FewFacts (items : List ClassifiedFact) : Prop :=
  items.length < maxTraceEntries ∧
    (Collapses items → items.length + 1 < maxTraceEntries)

/-- The facts of the scopes of a repeatable field, with the keys of their values. -/
def collections (items : List ClassifiedFact) :
    Except Error (List (List (String × ClassifiedFact))) := do
  let keyed ← items.mapM fun item => do
    let key ← valueKey item.value
    return (key, item)
  return groupRuns (fun p : String × ClassifiedFact => scopeKeyOf p.2.scope)
    (sortedBy (fun p : String × ClassifiedFact => toLex (scopeKeyOf p.2.scope, p.1)) keyed)

/-- A collection in conflict leaves room for it behind its facts and its decided members. -/
def FewMembers (pairs : List (String × ClassifiedFact)) : Prop :=
  (∃ group ∈ memberGroups pairs, memberValues group.2 = none) →
    pairs.length + (memberGroups pairs).countP (fun group => (memberValues group.2).isSome) <
      maxTraceEntries

/-- No scope of the field has too many facts. -/
def ShortTraces (blockedIds : List UUID) (fieldId : String) (items : List ClassifiedFact) : Prop :=
  heldItems blockedIds items = [] → ∀ field, fieldRegistry fieldId = some field →
    (field.repeatable = false → ∀ parts, scalarParts items = .ok parts →
      ∀ part ∈ parts, FewFacts part.2) ∧
    (field.repeatable = true → ∀ groups, collections items = .ok groups →
      ∀ pairs ∈ groups, FewMembers pairs)

/-! ## Cut traces -/

theorem mem_take_append_singleton {α : Type} {events : List α} {last : α} (hlast : last ∉ events)
    (n : Nat) : last ∈ (events ++ [last]).take n ↔ events.length < n := by
  constructor
  · intro hmem
    by_contra hlong
    rw [List.take_append_of_le_length (by omega)] at hmem
    exact hlast (List.mem_of_mem_take hmem)
  · intro hshort
    rw [List.take_of_length_le (by rw [List.length_append, List.length_singleton]; omega)]
    exact List.mem_append_right _ List.mem_cons_self

theorem length_bounded (trace : List PyValue) : (bounded trace).length ≤ maxTraceEntries := by
  unfold bounded
  rw [List.length_take]
  omega

theorem traceEvent_ne {event event' : String} (h : event ≠ event')
    (values values' : List (String × PyValue)) : traceEvent event values ≠ traceEvent event' values' := by
  intro hsame
  unfold traceEvent at hsame
  injection hsame with hsame
  injection hsame with hhead
  injection hhead with _ htext
  injection htext with htext
  exact h htext

/-! ## The trace of a scope -/

theorem keyed_of_operationKeys {items : List ClassifiedFact}
    {keys : List (FactOperation × String)} (h : operationKeys items = .ok keys) : Keyed items := by
  intro item hitem
  obtain ⟨_, -, hrun⟩ := mapM_exists_output h hitem
  obtain ⟨key, hkey, -⟩ := except_bind_eq_ok.mp hrun
  exact ⟨key, hkey⟩

/-- A winner is found only among facts whose claims can be compared. -/
theorem orderedWinner_ok {items : List ClassifiedFact} {winner : ClassifiedFact}
    {conflict : Bool} (h : orderedWinner items = .ok (winner, conflict)) :
    winner ∈ deciding items ∧
      (conflict = true ↔ ∃ a ∈ deciding items, ∃ b ∈ deciding items, ¬Agree a b) := by
  have hne : items ≠ [] := List.ne_nil_of_mem (orderedWinner_mem h)
  have hkeys : Keyed (deciding items) := by
    by_cases hseveral : SeveralArtifacts items
    · rw [orderedWinner, if_pos (severalArtifacts_iff.mpr hseveral)] at h
      obtain ⟨keys, hrun, -⟩ := except_bind_eq_ok.mp h
      exact keyed_deciding (keyed_of_operationKeys hrun)
    · rw [orderedWinner, if_neg fun hmany => hseveral (severalArtifacts_iff.mp hmany)] at h
      cases hlast : (bySource items).getLast? with
      | none => rw [hlast] at h; cases h
      | some last =>
        rw [hlast] at h
        obtain ⟨keys, hrun, -⟩ := except_bind_eq_ok.mp h
        intro item hitem
        obtain ⟨hmem, hmany | hgreatest⟩ := mem_deciding.mp hitem
        · exact absurd hmany hseveral
        · have hle : item.sourceLine ≤ last.sourceLine :=
            Prod.Lex.monotone_fst _ _ (le_of_getLast?_sortedBy hlast item hmem)
          have hge : last.sourceLine ≤ item.sourceLine :=
            hgreatest last ((mem_sortedBy _).mp (List.mem_of_getLast? hlast))
          refine keyed_of_operationKeys hrun item (List.mem_filter.mpr
            ⟨(mem_sortedBy _).mpr hmem, ?_⟩)
          rw [beq_iff_eq]
          omega
  obtain ⟨winner', conflict', hrun, hmem, hconflict⟩ := orderedWinner_spec hne hkeys
  rw [h] at hrun
  cases hrun
  exact ⟨hmem, hconflict⟩

/-- The event that the winner of a scope decides it with. -/
def scopeDecision (winner : ClassifiedFact) (conflict : Bool) : PyValue :=
  if conflict then traceEvent "conflict_detected" []
  else match winner.operation with
    | .assign => traceEvent "explicit_selected" [("fact_id", factIdText winner)]
    | .reset => traceEvent "default_missing" [("fact_id", factIdText winner)]
    | .remove => traceEvent "unresolved" []

/-- The event of the facts with the value that is assigned. -/
def collapsedEvents (items : List ClassifiedFact) (winner : ClassifiedFact) (conflict : Bool) :
    List PyValue :=
  if conflict = false ∧ winner.operation = .assign ∧ 1 < (equivalents items winner).length then
    [traceEvent "duplicate_collapsed"
      [("fact_ids", .list ((equivalents items winner).map factIdText))]]
  else []

/-- What precedes the decision. -/
def beforeDecision (items : List ClassifiedFact) (winner : ClassifiedFact) (conflict : Bool) :
    List PyValue :=
  inputTrace items ++ collapsedEvents items winner conflict

section Scope

variable {uuid5 : UUID → String → UUID} {auditId deviceId : UUID} {fieldId : String}

/-- The draft of a scope has the decision of its winner behind the events of its facts. -/
structure ScopeTrace (fieldId : String) (items : List ClassifiedFact) (winner : ClassifiedFact)
    (conflict : Bool) (draft : EffectiveStateDraft) : Prop where
  field : draft.fieldId = fieldId
  sources : draft.sourceFactIds = sourceIds items
  status : draft.resolutionStatus = scopeStatus winner conflict
  reason : draft.unresolvedReason = scopeReason winner conflict
  trace : draft.resolutionTrace =
    bounded (beforeDecision items winner conflict ++ [scopeDecision winner conflict])

theorem scopeTrace_unknown {scope : ScopeRef} {items : List ClassifiedFact}
    {winner : ClassifiedFact} {conflict : Bool} {reason : UnresolvedReason}
    {draft : EffectiveStateDraft}
    (h : unknownState uuid5 auditId deviceId fieldId scope (sourceIds items)
      (inputTrace items ++ [scopeDecision winner conflict]) reason conflict = .ok draft)
    (hstatus : scopeStatus winner conflict = if conflict then .conflicting else .unknown)
    (hreason : scopeReason winner conflict =
      some (if conflict then .conflictingEvidence else reason))
    (hcollapsed : collapsedEvents items winner conflict = []) :
    ScopeTrace fieldId items winner conflict draft := by
  obtain ⟨id, -, rfl⟩ := makeEffectiveStateDraft_ok uuid5 h
  exact ⟨rfl, rfl, hstatus.symm, hreason.symm, by
    rw [beforeDecision, hcollapsed, List.append_nil]⟩

/-- The facts that are collapsed with the winner, as the resolver collects them. -/
theorem collapsed_eq {items : List ClassifiedFact} {winner : ClassifiedFact} {winnerKey : String}
    {keyed : List (ClassifiedFact × String)} (hkey : valueKey winner.value = .ok winnerKey)
    (hkeyed : items.mapM (fun item => do
      let key ← valueKey item.value
      return (item, key)) = .ok keyed) :
    (keyed.filter (·.2 == winnerKey)).map (·.1) = equivalents items winner := by
  rw [mapM_eq_ok] at hkeyed
  rw [equivalents, hkey]
  induction hkeyed with
  | nil => rfl
  | @cons item pair items keyed hpair _ ih =>
    obtain ⟨key, hitem, hpair⟩ := except_bind_eq_ok.mp hpair
    cases hpair
    rw [List.filter_cons, List.filter_cons, hitem]
    by_cases hsame : key = winnerKey
    · simp [hsame, Except.toOption, ih]
    · simp [hsame, Except.toOption, ih]

theorem resolveScalarScope_trace {scope : ScopeRef} {items : List ClassifiedFact}
    {draft : EffectiveStateDraft}
    (h : resolveScalarScope uuid5 auditId deviceId fieldId scope items = .ok draft) :
    ∃ winner conflict, orderedWinner items = .ok (winner, conflict) ∧
      ScopeTrace fieldId items winner conflict draft := by
  simp only [resolveScalarScope, except_bind_eq_ok] at h
  obtain ⟨⟨winner, conflict⟩, hwinner, h⟩ := h
  refine ⟨winner, conflict, hwinner, ?_⟩
  cases conflict with
  | true => exact scopeTrace_unknown h rfl rfl rfl
  | false =>
    cases hop : winner.operation with
    | reset =>
      simp only [hop, Bool.false_eq_true, if_false] at h
      have hdecision : scopeDecision winner false =
          traceEvent "default_missing" [("fact_id", factIdText winner)] := by
        simp [scopeDecision, hop]
      rw [← hdecision] at h
      exact scopeTrace_unknown h (by simp [scopeStatus, hop]) (by simp [scopeReason, hop])
        (by simp [collapsedEvents, hop])
    | remove =>
      simp only [hop, Bool.false_eq_true, if_false] at h
      have hdecision : scopeDecision winner false = traceEvent "unresolved" [] := by
        simp [scopeDecision, hop]
      rw [← hdecision] at h
      exact scopeTrace_unknown h (by simp [scopeStatus, hop]) (by simp [scopeReason, hop])
        (by simp [collapsedEvents, hop])
    | assign =>
      simp only [hop, Bool.false_eq_true, if_false, except_bind_eq_ok] at h
      obtain ⟨winnerKey, hkey, keyed, hkeyed, h⟩ := h
      rw [collapsed_eq hkey hkeyed] at h
      obtain ⟨id, -, rfl⟩ := makeEffectiveStateDraft_ok uuid5 h
      refine ⟨rfl, rfl, by simp [scopeStatus, hop], by simp [scopeReason, hop], ?_⟩
      simp [beforeDecision, collapsedEvents, scopeDecision, hop]

/-! ### Room for the decision -/

variable {items : List ClassifiedFact} {winner : ClassifiedFact} {conflict : Bool}
  {classified : List ClassifiedFact} {draft : EffectiveStateDraft}

theorem collapses_iff (hwinner : orderedWinner items = .ok (winner, conflict)) :
    Collapses items ↔ conflict = false ∧ winner.operation = .assign ∧
      1 < (equivalents items winner).length := by
  obtain ⟨hmem, hconflict⟩ := orderedWinner_ok hwinner
  constructor
  · rintro ⟨hagree, a, ha, hassign, hmany⟩
    obtain ⟨hoperation, hkey⟩ := hagree winner hmem a ha
    refine ⟨?_, hoperation.trans hassign, ?_⟩
    · rw [← Bool.not_eq_true, hconflict]
      rintro ⟨b, hb, c, hc, hdiffer⟩
      exact hdiffer (hagree b hb c hc)
    · rwa [equivalents, hkey]
  · rintro ⟨rfl, hassign, hmany⟩
    refine ⟨fun a ha b hb => ?_, winner, hmem, hassign, hmany⟩
    by_contra hdiffer
    exact absurd (hconflict.mpr ⟨a, ha, b, hb, hdiffer⟩) (by decide)

theorem length_beforeDecision_lt (hwinner : orderedWinner items = .ok (winner, conflict)) :
    (beforeDecision items winner conflict).length < maxTraceEntries ↔ FewFacts items := by
  rw [FewFacts, collapses_iff hwinner, beforeDecision, List.length_append, collapsedEvents,
    inputTrace, List.length_map]
  split
  · rename_i hcollapses
    rw [List.length_singleton]
    exact ⟨fun h => ⟨by omega, fun _ => h⟩, fun h => h.2 hcollapses⟩
  · rename_i hapart
    exact ⟨fun h => ⟨h, fun hcollapses => absurd hcollapses hapart⟩, fun h => h.1⟩

theorem decision_not_before : scopeDecision winner conflict ∉ beforeDecision items winner conflict := by
  have happart : ∀ event ∈ ["input_fact", "duplicate_collapsed"], ∀ values,
      traceEvent event values ≠ scopeDecision winner conflict := by
    intro event hevent values
    unfold scopeDecision
    split
    · exact traceEvent_ne (by rintro rfl; revert hevent; decide) _ _
    · split <;> exact traceEvent_ne (by rintro rfl; revert hevent; decide) _ _
  intro hmem
  rcases List.mem_append.mp hmem with hinput | hcollapsed
  · obtain ⟨item, -, hsame⟩ := List.mem_map.mp hinput
    exact happart _ List.mem_cons_self _ hsame
  · unfold collapsedEvents at hcollapsed
    split at hcollapsed
    · exact happart _ (List.mem_cons_of_mem _ List.mem_cons_self) _
        (List.mem_singleton.mp hcollapsed).symm
    · cases hcollapsed

/-- The decision of a scope is the event of its winner. -/
theorem ScopeTrace.decision_iff (h : ScopeTrace fieldId items winner conflict draft)
    (hwinner : orderedWinner items = .ok (winner, conflict))
    (hcited : citedFacts classified draft = items) (event : PyValue) :
    Decision classified draft event ↔ event = scopeDecision winner conflict := by
  have hnamed : ∀ name : String, conflict = false →
      ((∃ first, orderedWinner (citedFacts classified draft) = .ok (first, false) ∧
        event = traceEvent name [("fact_id", factIdText first)]) ↔
      event = traceEvent name [("fact_id", factIdText winner)]) := by
    rintro name rfl
    rw [hcited, hwinner]
    exact ⟨fun ⟨first, hfirst, hevent⟩ => by cases hfirst; exact hevent,
      fun hevent => ⟨winner, rfl, hevent⟩⟩
  rw [Decision, h.status, h.reason]
  cases conflict with
  | true => exact Iff.rfl
  | false =>
    cases hop : winner.operation with
    | assign => simpa [scopeStatus, scopeReason, scopeDecision, hop] using hnamed _ rfl
    | reset => simpa [scopeStatus, scopeReason, scopeDecision, hop] using hnamed _ rfl
    | remove => simp [scopeStatus, scopeReason, scopeDecision, hop]

theorem ScopeTrace.keeps_iff (h : ScopeTrace fieldId items winner conflict draft)
    (hwinner : orderedWinner items = .ok (winner, conflict))
    (hcited : citedFacts classified draft = items) :
    KeepsDecision classified draft ↔ FewFacts items := by
  rw [← length_beforeDecision_lt hwinner, ← mem_take_append_singleton decision_not_before,
    KeepsDecision]
  constructor
  · rintro ⟨-, event, hevent, hdecision⟩
    rw [h.decision_iff hwinner hcited] at hdecision
    rw [hdecision, h.trace] at hevent
    exact hevent
  · intro hmem
    refine ⟨h.trace ▸ length_bounded _, scopeDecision winner conflict, h.trace ▸ hmem, ?_⟩
    exact (h.decision_iff hwinner hcited _).mpr rfl

/-! ### Collections -/

/-- What a decided member adds to the trace of its collection. -/
def memberEvents (members : List ClassifiedFact) : List PyValue :=
  match orderedWinner members with
  | .ok (winner, false) =>
    match winner.operation with
    | .assign => [traceEvent "collection_member_added" [("fact_id", factIdText winner)]]
    | .remove => [traceEvent "collection_member_removed" [("fact_id", factIdText winner)]]
    | .reset => []
  | _ => []

theorem length_memberEvents (members : List ClassifiedFact) :
    (memberEvents members).length = if (memberValues members).isSome then 1 else 0 := by
  unfold memberEvents memberValues
  cases orderedWinner members with
  | error _ => rfl
  | ok result =>
    obtain ⟨winner, conflict⟩ := result
    cases conflict with
    | true => rfl
    | false => cases hop : winner.operation <;> simp [hop]

theorem conflict_not_member (members : List ClassifiedFact) :
    traceEvent "conflict_detected" [] ∉ memberEvents members := by
  have happart : ∀ event ∈ ["collection_member_added", "collection_member_removed"], ∀ values,
      traceEvent "conflict_detected" [] ≠ traceEvent event values := by
    intro event hevent values
    exact traceEvent_ne (by rintro rfl; revert hevent; decide) _ _
  unfold memberEvents
  split
  · split
    · exact fun h => happart _ List.mem_cons_self _ (List.mem_singleton.mp h)
    · exact fun h => happart _ (List.mem_cons_of_mem _ List.mem_cons_self) _
        (List.mem_singleton.mp h)
    · exact List.not_mem_nil
  · exact List.not_mem_nil

theorem memberStep_trace {state state' : CollectionState} {members : List ClassifiedFact}
    (h : memberStep state members = .ok state') :
    state'.trace = state.trace ++ memberEvents members ∧
      state'.conflict = (state.conflict || (memberValues members).isNone) := by
  unfold memberStep at h
  obtain ⟨⟨winner, conflict⟩, hwinner, h⟩ := except_bind_eq_ok.mp h
  cases conflict with
  | true =>
    cases h
    simp [memberEvents, memberValues, hwinner]
  | false =>
    cases hop : winner.operation <;> simp only [hop, Bool.false_eq_true, if_false] at h <;>
      cases h <;> simp [memberEvents, memberValues, hwinner, hop]

theorem members_trace {groups : List (String × List ClassifiedFact)}
    {state state' : CollectionState}
    (h : groups.foldlM (fun state group => memberStep state group.2) state = .ok state') :
    state'.trace = state.trace ++ groups.flatMap (memberEvents ·.2) ∧
      state'.conflict =
        (state.conflict || groups.any fun group => (memberValues group.2).isNone) := by
  induction groups generalizing state with
  | nil =>
    cases h
    simp
  | cons group rest ih =>
    rw [List.foldlM_cons] at h
    obtain ⟨next, hnext, hrest⟩ := except_bind_eq_ok.mp h
    obtain ⟨htrace, hconflict⟩ := memberStep_trace hnext
    obtain ⟨htrace', hconflict'⟩ := ih hrest
    rw [htrace', hconflict', htrace, hconflict, List.flatMap_cons, List.any_cons]
    exact ⟨List.append_assoc _ _ _, Bool.or_assoc _ _ _⟩

theorem length_membersEvents (groups : List (String × List ClassifiedFact)) :
    (groups.flatMap (memberEvents ·.2)).length =
      groups.countP fun group => (memberValues group.2).isSome := by
  induction groups with
  | nil => rfl
  | cons group rest ih =>
    rw [List.flatMap_cons, List.length_append, ih, length_memberEvents, List.countP_cons]
    omega

/-- A collection in conflict keeps the event exactly behind few enough members. -/
theorem collection_keeps_iff {pairs : List (String × ClassifiedFact)}
    (h : resolveCollection uuid5 auditId deviceId fieldId pairs = .ok draft) :
    (draft.resolutionStatus = .conflicting → KeepsDecision classified draft) ↔
      FewMembers pairs := by
  cases pairs with
  | nil => cases h
  | cons pair rest =>
    obtain ⟨key, head⟩ := pair
    obtain ⟨state, hstate, -⟩ := except_bind_eq_ok.mp h
    have hstate : (memberGroups ((key, head) :: rest)).foldlM
        (fun state group => memberStep state group.2)
        ⟨[], collectionInputs head.scope (((key, head) :: rest).map (·.2)), false⟩ =
          .ok state := hstate
    obtain ⟨htrace, hconflict⟩ := members_trace hstate
    rw [resolveCollection_fold uuid5 auditId deviceId fieldId hstate] at h
    have hany : state.conflict = true ↔
        ∃ group ∈ memberGroups ((key, head) :: rest), memberValues group.2 = none := by
      rw [hconflict, Bool.false_or, List.any_eq_true]
      simp only [Option.isNone_iff_eq_none]
    cases hstatus : state.conflict with
    | false =>
      rw [hstatus] at h hany
      obtain ⟨id, -, rfl⟩ := makeEffectiveStateDraft_ok uuid5 h
      exact ⟨fun _ hnone => absurd (hany.mpr hnone) Bool.false_ne_true, fun _ hno => nomatch hno⟩
    | true =>
      rw [hstatus] at h hany
      obtain ⟨id, -, rfl⟩ := makeEffectiveStateDraft_ok uuid5 h
      have hlength : state.trace.length = ((key, head) :: rest).length +
          (memberGroups ((key, head) :: rest)).countP
            fun group => (memberValues group.2).isSome := by
        rw [htrace, List.length_append, length_membersEvents, collectionInputs, List.length_map,
          List.length_map]
      have hbefore : traceEvent "conflict_detected" [] ∉ state.trace := by
        rw [htrace]
        intro hmem
        rcases List.mem_append.mp hmem with hinput | hmember
        · obtain ⟨item, -, hsame⟩ := List.mem_map.mp hinput
          exact traceEvent_ne (by decide) _ _ hsame
        · obtain ⟨group, -, hevent⟩ := List.mem_flatMap.mp hmember
          exact conflict_not_member group.2 hevent
      have hroom : FewMembers ((key, head) :: rest) ↔ state.trace.length < maxTraceEntries := by
        rw [hlength]
        exact ⟨fun hfew => hfew (hany.mp rfl), fun hfew _ => hfew⟩
      rw [hroom, ← mem_take_append_singleton hbefore]
      constructor
      · intro hkeeps
        obtain ⟨-, event, hevent, hdecision⟩ := hkeeps rfl
        have hsame : event = traceEvent "conflict_detected" [] := hdecision
        rw [hsame] at hevent
        exact hevent
      · exact fun hmem _ => ⟨length_bounded _, _, hmem, rfl⟩

/-! ### Facts held back -/

/-- The first event of a field with facts held back names one of them. -/
theorem blocked_keeps {blocked : List ClassifiedFact} {drafts : List EffectiveStateDraft}
    (hsub : ∀ item ∈ blocked, item ∈ factsOf classified fieldId)
    (h : resolveBlocked uuid5 auditId deviceId fieldId blocked = .ok drafts)
    (hdraft : draft ∈ drafts) : KeepsDecision classified draft := by
  obtain ⟨entry, hentry, hd⟩ := mapM_exists_input h hdraft
  obtain ⟨id, -, rfl⟩ := makeEffectiveStateDraft_ok uuid5 hd
  obtain ⟨item, hitem, -⟩ := List.mem_map.mp (Dict.mem_ofList hentry)
  cases blocked with
  | nil => cases hitem
  | cons first rest =>
    refine ⟨length_bounded _, traceEvent "dependency_missing" [("fact_id", factIdText first)],
      List.mem_cons_self, first, List.mem_filter.mpr ⟨hsub first List.mem_cons_self, ?_⟩, rfl⟩
    rw [List.contains_iff_mem]
    exact mem_sourceIds.mpr ⟨first, List.mem_cons_self, rfl⟩

/-! ### Fields -/

theorem filter_map_of_sublist {α β : Type} [DecidableEq β] {f : α → β} {xs ys : List α}
    (hsub : xs.Sublist ys) (hnodup : (ys.map f).Nodup) :
    ys.filter (fun y => decide (f y ∈ xs.map f)) = xs := by
  induction hsub with
  | slnil => rfl
  | @cons xs ys y hsub ih =>
    rw [List.map_cons, List.nodup_cons] at hnodup
    have hout : f y ∉ xs.map f := fun hmem => hnodup.1 ((hsub.map f).subset hmem)
    rw [List.filter_cons, if_neg (by simpa using hout), ih hnodup.2]
  | @cons_cons xs ys y hsub ih =>
    rw [List.map_cons, List.nodup_cons] at hnodup
    have hrest : ys.filter (fun z => decide (f z ∈ (y :: xs).map f)) =
        ys.filter fun z => decide (f z ∈ xs.map f) := by
      refine List.filter_congr fun z hz => decide_eq_decide.mpr ?_
      rw [List.map_cons, List.mem_cons]
      refine or_iff_right fun hsame => hnodup.1 (hsame ▸ List.mem_map_of_mem hz)
    rw [List.filter_cons, if_pos (by simp), hrest, ih hnodup.2]

theorem citedFacts_eq (hids : ((factsOf classified fieldId).map (·.fact.factId)).Nodup)
    (hsub : items.Sublist (factsOf classified fieldId)) (hfield : draft.fieldId = fieldId)
    (hsources : draft.sourceFactIds = sourceIds items) : citedFacts classified draft = items := by
  rw [citedFacts, hfield, hsources]
  refine Eq.trans (List.filter_congr fun item _ => ?_) (filter_map_of_sublist hsub hids)
  rw [Bool.eq_iff_iff, List.contains_iff_mem, mem_sourceIds, decide_eq_true_eq, List.mem_map]

/-- Every part of a scalar field has some of its facts in their order. -/
theorem scalarParts_sublist (hfacts : FieldFacts fieldId items)
    {parts : List (ScopeRef × List ClassifiedFact)} (h : scalarParts items = .ok parts)
    {part : ScopeRef × List ClassifiedFact} (hpart : part ∈ parts) : part.2.Sublist items := by
  cases items with
  | nil =>
    cases h
    cases hpart
  | cons first rest =>
    rw [scalarParts] at h
    split at h
    · obtain ⟨group, hgroup, hrun⟩ := mapM_exists_input h hpart
      rw [groupRuns_eq_filters hfacts.scopes] at hgroup
      obtain ⟨key, -, hkey⟩ := List.mem_map.mp hgroup
      have hsub : group.Sublist (first :: rest) := hkey ▸ List.filter_sublist
      cases group with
      | nil => cases hrun
      | cons head tail =>
        cases hrun
        exact hsub
    · obtain ⟨ranges, hranges, -, rfl⟩ := vtyPartitions_ok h
      obtain ⟨cell, hcell, rfl⟩ := List.mem_map.mp hpart
      obtain ⟨c, -, -, rfl⟩ := (Intervals.mem_partition _ _).mp hcell
      rw [← hranges]
      exact List.filter_sublist.map _

theorem scalarField_keeps_iff (hfacts : FieldFacts fieldId (factsOf classified fieldId))
    (hids : ((factsOf classified fieldId).map (·.fact.factId)).Nodup)
    {drafts : List EffectiveStateDraft}
    (h : resolveScalarField uuid5 auditId deviceId fieldId (factsOf classified fieldId) =
      .ok drafts) :
    (∀ draft ∈ drafts, KeepsDecision classified draft) ↔
      ∀ parts, scalarParts (factsOf classified fieldId) = .ok parts →
        ∀ part ∈ parts, FewFacts part.2 := by
  obtain ⟨parts, hparts, hdrafts⟩ := (resolveScalarField_parts hfacts).mp h
  have hiff : ∀ part ∈ parts, ∀ draft,
      resolveScalarScope uuid5 auditId deviceId fieldId part.1 part.2 = .ok draft →
      (KeepsDecision classified draft ↔ FewFacts part.2) := by
    intro part hpart draft hdraft
    obtain ⟨winner, conflict, hwinner, htrace⟩ := resolveScalarScope_trace hdraft
    exact htrace.keeps_iff hwinner (citedFacts_eq hids (scalarParts_sublist hfacts hparts hpart)
      htrace.field htrace.sources)
  constructor
  · intro hkeeps parts' hparts' part hpart
    rw [hparts] at hparts'
    cases hparts'
    obtain ⟨draft, hdraft, hrun⟩ := mapM_exists_output hdrafts hpart
    exact (hiff part hpart draft hrun).mp (hkeeps draft hdraft)
  · intro hfew draft hdraft
    obtain ⟨part, hpart, hrun⟩ := mapM_exists_input hdrafts hdraft
    exact (hiff part hpart draft hrun).mpr (hfew parts hparts part hpart)

theorem repeatableField_keeps_iff {drafts : List EffectiveStateDraft}
    (h : resolveRepeatableField uuid5 auditId deviceId fieldId items = .ok drafts) :
    (∀ draft ∈ drafts, draft.resolutionStatus = .conflicting → KeepsDecision classified draft) ↔
      ∀ groups, collections items = .ok groups → ∀ pairs ∈ groups, FewMembers pairs := by
  obtain ⟨keyed, hkeyed, hdrafts⟩ := except_bind_eq_ok.mp h
  have hcollections : collections items = .ok
      (groupRuns (fun p : String × ClassifiedFact => scopeKeyOf p.2.scope)
        (sortedBy (fun p : String × ClassifiedFact => toLex (scopeKeyOf p.2.scope, p.1)) keyed)) :=
    except_bind_eq_ok.mpr ⟨keyed, hkeyed, rfl⟩
  constructor
  · intro hkeeps groups hgroups pairs hpairs
    rw [hcollections] at hgroups
    cases hgroups
    obtain ⟨draft, hdraft, hrun⟩ := mapM_exists_output hdrafts hpairs
    exact (collection_keeps_iff hrun).mp (hkeeps draft hdraft)
  · intro hfew draft hdraft
    obtain ⟨pairs, hpairs, hrun⟩ := mapM_exists_input hdrafts hdraft
    exact (collection_keeps_iff hrun).mpr (hfew _ hcollections pairs hpairs)

theorem field_keeps_iff {blockedIds : List UUID}
    (hfacts : FieldFacts fieldId (factsOf classified fieldId))
    (hids : ((factsOf classified fieldId).map (·.fact.factId)).Nodup)
    {drafts : List EffectiveStateDraft} (hdrafts : ∀ draft ∈ drafts, draft.fieldId = fieldId)
    (h : resolveField uuid5 auditId deviceId blockedIds (factsOf classified fieldId) =
      .ok drafts) :
    (∀ draft ∈ drafts, Explained draft → KeepsDecision classified draft) ↔
      ShortTraces blockedIds fieldId (factsOf classified fieldId) := by
  by_cases hheld : heldItems blockedIds (factsOf classified fieldId) = []
  · by_cases hne : factsOf classified fieldId = []
    · rw [hne] at h ⊢
      cases h
      refine ⟨fun _ _ field _ => ⟨fun _ parts hparts part hpart => ?_,
        fun _ groups hgroups pairs hpairs => ?_⟩, fun _ draft hdraft => nomatch hdraft⟩
      · cases hparts
        cases hpart
      · cases hgroups
        cases hpairs
    · obtain ⟨field, hfield, hscalar, hrepeatable⟩ := resolveField_free hfacts hne h hheld
      cases hrep : field.repeatable with
      | false =>
        have hkeeps := scalarField_keeps_iff hfacts hids (hscalar hrep)
        constructor
        · intro hall _ field' hfield'
          rw [hfield] at hfield'
          cases hfield'
          refine ⟨fun _ => hkeeps.mp fun draft hdraft => hall draft hdraft (.inl ⟨field, ?_, hrep⟩),
            fun hrep' => ?_⟩
          · rwa [hdrafts draft hdraft]
          · rw [hrep] at hrep'
            cases hrep'
        · intro hshort draft hdraft _
          exact hkeeps.mpr ((hshort hheld field hfield).1 hrep) draft hdraft
      | true =>
        have hkeeps := @repeatableField_keeps_iff _ _ _ _ _ classified _ (hrepeatable hrep)
        constructor
        · intro hall _ field' hfield'
          rw [hfield] at hfield'
          cases hfield'
          refine ⟨fun hrep' => ?_, fun _ => hkeeps.mp fun draft hdraft hconflict =>
            hall draft hdraft (.inr hconflict)⟩
          rw [hrep] at hrep'
          cases hrep'
        · intro hshort draft hdraft hexplained
          refine hkeeps.mpr ((hshort hheld field hfield).2 hrep) draft hdraft ?_
          rcases hexplained with ⟨field', hfield', hrep'⟩ | hconflict
          · rw [hdrafts draft hdraft, hfield] at hfield'
            cases hfield'
            rw [hrep] at hrep'
            cases hrep'
          · exact hconflict
  · have hblocked := resolveField_held hfacts h hheld
    refine ⟨fun _ hfree => absurd hfree hheld, fun _ draft hdraft _ => ?_⟩
    exact blocked_keeps (fun item hitem => (mem_heldItems.mp hitem).1) hblocked hdraft

end Scope

/-! ## Every run -/

/-- Every scalar draft and every draft in conflict keeps the event that decided it exactly
where no scope has too many facts. -/
theorem trace_keeps_decision_iff (uuid5 : UUID → String → UUID) (auditId deviceId : UUID)
    (facts : List SecurityFact) (operations : UUID → Option FactOperation)
    (classified : List ClassifiedFact) (drafts : List EffectiveStateDraft)
    (hids : (facts.map (·.factId)).Nodup)
    (hclassified : classifyFacts facts operations = .ok classified)
    (hrun : resolveSecurityFacts uuid5 auditId deviceId facts operations = .ok drafts) :
    (∀ draft ∈ drafts, Explained draft → KeepsDecision classified draft) ↔
      ∀ fieldId, ShortTraces (blockedDependencyIds facts) fieldId
        (factsOf classified fieldId) := by
  have hfield : ∀ fieldId, (∀ draft ∈ drafts, draft.fieldId = fieldId → Explained draft →
      KeepsDecision classified draft) ↔
      ShortTraces (blockedDependencyIds facts) fieldId (factsOf classified fieldId) := by
    intro fieldId
    obtain ⟨fieldDrafts, hdistinct, hdrafts, hfilter⟩ := fieldRun hclassified hrun fieldId
    rw [← field_keeps_iff (fieldFacts_factsOf (classified_valid hclassified) fieldId)
      (factsOf_ids hids hclassified) hdistinct.field hdrafts]
    have hmem : ∀ draft, draft ∈ fieldDrafts ↔ draft ∈ drafts ∧ draft.fieldId = fieldId := by
      intro draft
      rw [← mem_sortedBy draftKey, ← hfilter, List.mem_filter, decide_eq_true_eq]
    constructor
    · intro hall draft hdraft
      obtain ⟨hin, hown⟩ := (hmem draft).mp hdraft
      exact hall draft hin hown
    · intro hall draft hin hown
      exact hall draft ((hmem draft).mpr ⟨hin, hown⟩)
  constructor
  · intro hall fieldId
    exact (hfield fieldId).mp fun draft hdraft _ => hall draft hdraft
  · intro hshort draft hdraft
    exact (hfield draft.fieldId).mpr (hshort draft.fieldId) draft hdraft rfl

theorem trace_keeps_decision_apart :
    ∃ classified drafts, classifyFacts apartFacts (fun _ => some .assign) = .ok classified ∧
      resolveSecurityFacts mixedUuid5 (UUID.ofNat 1) (UUID.ofNat 2) apartFacts
        (fun _ => some .assign) = .ok drafts ∧
      ((∀ draft ∈ drafts, Explained draft → KeepsDecision classified draft) ↔
        ∀ fieldId, ShortTraces (blockedDependencyIds apartFacts) fieldId
          (factsOf classified fieldId)) := by
  obtain ⟨classified, hclassified⟩ := exists_of_isOk (x := classifyFacts apartFacts
    fun _ => some .assign) (by decide +kernel)
  obtain ⟨drafts, hrun⟩ := exists_of_isOk (x := resolveSecurityFacts mixedUuid5
    (UUID.ofNat 1) (UUID.ofNat 2) apartFacts fun _ => some .assign) (by decide +kernel)
  exact ⟨classified, drafts, hclassified, hrun,
    trace_keeps_decision_iff _ _ _ apartFacts _ _ _ (by decide) hclassified hrun⟩

/-! ### A scope that is stated 128 times -/

/-- One SSH statement for the device on each of 128 lines. -/
def manyFacts : List SecurityFact :=
  (List.range 128).map fun n => deviceSshFact (n + 1) (n + 1) true

def manyItem (n : Nat) : ClassifiedFact where
  fact := deviceSshFact (n + 1) (n + 1) true
  scope := { type := "device", key := "device", attributes := [] }
  value := { type := .boolean, value := .bool true }
  operation := .assign
  artifactId := (lineEvidence 1).artifactId
  sourceLine := n + 1

def manyItems : List ClassifiedFact := (List.range 128).map manyItem

theorem classify_many : classifyFacts manyFacts (fun _ => some .assign) = .ok manyItems := by
  have hscope : scopeFromDict { type := "device", key := "device", attributes := [] } =
      .ok { type := "device", key := "device", attributes := [] } := by decide +kernel
  rw [classifyFacts, mapM_eq_ok, manyFacts, manyItems, List.forall₂_map_left_iff,
    List.forall₂_map_right_iff, List.forall₂_same]
  intro n _
  exact except_bind_eq_ok.mpr ⟨_, hscope, rfl⟩

theorem manyItems_ne_nil : manyItems ≠ [] :=
  List.ne_nil_of_mem (List.mem_map_of_mem (List.mem_range.mpr (show 0 < 128 by decide)))

theorem fieldFacts_many : FieldFacts "management.remote.ssh.enabled" manyItems := by
  refine ⟨?_, ?_, ?_⟩
  · intro item hitem
    obtain ⟨n, -, rfl⟩ := List.mem_map.mp hitem
    rfl
  · refine List.pairwise_map.mpr (List.pairwise_lt_range.imp_of_mem fun {a b} ha hb hlt => ?_)
    rw [List.mem_range] at ha hb
    have hint : ∀ n < 128, (manyItem n).fact.factId.int = n + 1 := by
      intro n hn
      show (n + 1) % 2 ^ 128 = n + 1
      omega
    have hid : (manyItem a).fact.factId.int ≤ (manyItem b).fact.factId.int := by
      rw [hint a ha, hint b hb]
      omega
    rw [resolverKey, resolverKey, Prod.Lex.toLex_le_toLex]
    refine .inr ⟨rfl, ?_⟩
    rw [Prod.Lex.toLex_le_toLex]
    exact .inr ⟨rfl, hid⟩
  · intro item hitem
    exact classified_valid classify_many _ hitem

theorem manyItems_scope :
    ∀ item ∈ manyItems, item.scope = { type := "device", key := "device", attributes := [] } := by
  intro item hitem
  obtain ⟨n, -, rfl⟩ := List.mem_map.mp hitem
  rfl

theorem sortedBy_many : sortedBy resolverKey manyItems = manyItems :=
  fieldFacts_many.sorted.insertionSort_eq

theorem factsOf_many : factsOf manyItems "management.remote.ssh.enabled" = manyItems := by
  rw [factsOf, sortedBy_many, List.filter_eq_self]
  exact fun item hitem => decide_eq_true (fieldFacts_many.field item hitem)

/-- The whole run is the resolution of the one scope. -/
theorem resolve_many {uuid5 : UUID → String → UUID} {auditId deviceId : UUID}
    {draft : EffectiveStateDraft}
    (h : resolveScalarScope uuid5 auditId deviceId "management.remote.ssh.enabled"
      { type := "device", key := "device", attributes := [] } manyItems = .ok draft) :
    resolveSecurityFacts uuid5 auditId deviceId manyFacts (fun _ => some .assign) =
      .ok [draft] := by
  have hblocked : blockedDependencyIds manyFacts = [] := by decide +kernel
  have hfields : groupRuns (fun item : ClassifiedFact => item.fact.fieldId)
      (sortedBy resolverKey manyItems) = [manyItems] := by
    rw [sortedBy_many]
    exact groupRuns_const fieldFacts_many.field manyItems_ne_nil
  have hfield : resolveField uuid5 auditId deviceId [] manyItems = .ok [draft] := by
    obtain ⟨first, rest, hmany⟩ := List.exists_cons_of_ne_nil manyItems_ne_nil
    have hscopes : groupRuns (fun item : ClassifiedFact => scopeKeyOf item.scope) (first :: rest) =
        [first :: rest] := by
      rw [← hmany]
      exact groupRuns_const (fun item hitem => congrArg scopeKeyOf (manyItems_scope item hitem))
        manyItems_ne_nil
    have hfirst := manyItems_scope first (hmany ▸ List.mem_cons_self)
    have hfacts := hmany ▸ fieldFacts_many
    have hscalar : resolveScalarField uuid5 auditId deviceId "management.remote.ssh.enabled"
        (first :: rest) = .ok [draft] := by
      rw [resolveScalarField_groups hfacts (by rw [hfirst]; decide), hscopes]
      have hgroup : groupDraft uuid5 auditId deviceId "management.remote.ssh.enabled"
          (first :: rest) = .ok draft := by
        rw [← h, hmany, groupDraft, hfirst]
      exact mapM_eq_ok.mpr (.cons hgroup .nil)
    obtain ⟨policy, hpolicy, hcardinality⟩ := exists_of_toOption
      (x := getFieldPolicy "management.remote.ssh.enabled") (f := (·.cardinality)) (b := .scalar)
      (by decide +kernel)
    have hfree : (first :: rest).filter (fun item => ([] : List UUID).contains item.fact.factId) =
        [] := List.filter_eq_nil_iff.mpr fun _ _ => by simp
    rw [hmany, resolveField, hfacts.field first List.mem_cons_self, hpolicy]
    refine except_bind_eq_ok.mpr ⟨policy, rfl, ?_⟩
    rw [hfree, hcardinality]
    exact hscalar
  refine except_bind_eq_ok.mpr ⟨manyItems, classify_many, ?_⟩
  refine except_bind_eq_ok.mpr ⟨[[draft]], ?_, rfl⟩
  rw [hblocked]
  exact hfields ▸ mapM_eq_ok.mpr (.cons hfield .nil)

/-- The 128 input facts fill the trace, and the selected fact is not in it. -/
theorem selection_cut :
    ∃ drafts, resolveSecurityFacts mixedUuid5 (UUID.ofNat 1) (UUID.ofNat 2) manyFacts
        (fun _ => some .assign) = .ok drafts ∧
      ¬∀ draft ∈ drafts, Explained draft → KeepsDecision manyItems draft := by
  obtain ⟨draft, hdraft, hstatus⟩ := exists_of_toOption (x := resolveScalarScope mixedUuid5
    (UUID.ofNat 1) (UUID.ofNat 2) "management.remote.ssh.enabled"
    { type := "device", key := "device", attributes := [] } manyItems)
    (f := fun draft => draft.resolutionStatus) (b := .resolved) (by decide +kernel)
  obtain ⟨winner, conflict, hwinner, htrace⟩ := resolveScalarScope_trace hdraft
  refine ⟨[draft], resolve_many hdraft, fun hall => ?_⟩
  have hids : ((factsOf manyItems "management.remote.ssh.enabled").map
      (·.fact.factId)).Nodup := by
    refine factsOf_ids ?_ classify_many
    decide +kernel
  have hsub : manyItems.Sublist (factsOf manyItems "management.remote.ssh.enabled") := by
    rw [factsOf_many]
  have hcited : citedFacts manyItems draft = manyItems :=
    citedFacts_eq hids hsub htrace.field htrace.sources
  have hexplained : Explained draft := by
    refine .inl ?_
    rw [htrace.field]
    decide +kernel
  have hfew := (htrace.keeps_iff hwinner hcited).mp (hall draft List.mem_cons_self hexplained)
  have hlength : manyItems.length = 128 := by
    rw [manyItems, List.length_map, List.length_range]
  have hlt : manyItems.length < 128 := hfew.1
  omega

end ConfigAuditor.EffectiveState.Traces
