import Mathlib.Data.Finset.Card
import ConfigAuditor.EffectiveState.OrderIndependence

/-!
# Which facts decide

Facts of several artifacts all decide; facts of one artifact decide at the greatest source
position. The facts conflict exactly when two that decide differ in operation or value key.
A member of a collection is added, left out or in conflict by its deciding facts.
-/
namespace ConfigAuditor.EffectiveState.Winner

open Library SecurityModel Policy Model Resolver Resolved OrderIndependence

/-- The facts come from more than one artifact. -/
def SeveralArtifacts (items : List ClassifiedFact) : Prop :=
  ∃ a ∈ items, ∃ b ∈ items, a.artifactId ≠ b.artifactId

/-- The facts whose claims are compared. -/
def deciding (items : List ClassifiedFact) : List ClassifiedFact :=
  items.filter fun item => decide (1 < (items.map (·.artifactId)).dedup.length) ||
    items.all (·.sourceLine ≤ item.sourceLine)

/-- Two facts make the same claim. -/
def Agree (a b : ClassifiedFact) : Prop :=
  a.operation = b.operation ∧ valueKey a.value = valueKey b.value

/-- The values of the facts can be stored. -/
abbrev Keyed (items : List ClassifiedFact) : Prop :=
  ∀ item ∈ items, ∃ key, valueKey item.value = .ok key

theorem one_lt_dedup {α : Type} [DecidableEq α] {xs : List α} :
    1 < xs.dedup.length ↔ ∃ a ∈ xs, ∃ b ∈ xs, a ≠ b := by
  rw [← List.card_toFinset, Finset.one_lt_card]
  simp only [List.mem_toFinset]

theorem severalArtifacts_iff {items : List ClassifiedFact} :
    1 < (items.map (·.artifactId)).dedup.length ↔ SeveralArtifacts items := by
  rw [one_lt_dedup]
  simp [SeveralArtifacts]

theorem mem_deciding {items : List ClassifiedFact} {a : ClassifiedFact} :
    a ∈ deciding items ↔ a ∈ items ∧
      (SeveralArtifacts items ∨ ∀ b ∈ items, b.sourceLine ≤ a.sourceLine) := by
  rw [deciding, List.mem_filter, Bool.or_eq_true, decide_eq_true_eq, severalArtifacts_iff]
  simp

theorem deciding_several {items : List ClassifiedFact} (h : SeveralArtifacts items) :
    deciding items = items :=
  List.filter_eq_self.mpr fun _ ha => (List.mem_filter.mp (mem_deciding.mpr ⟨ha, .inl h⟩)).2

/-- A change that keeps artifacts and positions keeps the deciding facts. -/
theorem deciding_map {f : ClassifiedFact → ClassifiedFact}
    (hf : ∀ a, (f a).artifactId = a.artifactId ∧ (f a).sourceLine = a.sourceLine)
    (items : List ClassifiedFact) : deciding (items.map f) = (deciding items).map f := by
  have hartifacts : (items.map f).map (·.artifactId) = items.map (·.artifactId) := by
    rw [List.map_map]
    exact List.map_congr_left fun a _ => (hf a).1
  rw [deciding, deciding, hartifacts, List.filter_map]
  refine congrArg (List.map f) (List.filter_congr fun a _ => ?_)
  simp only [Function.comp_apply, List.all_map, (hf a).2]
  congr 2
  exact funext fun b => by simp only [Function.comp_apply, (hf b).2]

/-- Each fact with the key of its value. -/
theorem operationKeys_ok {items : List ClassifiedFact} (hkeys : Keyed items) :
    ∃ keys, operationKeys items = .ok keys ∧
      (1 < keys.dedup.length ↔ ∃ a ∈ items, ∃ b ∈ items, ¬Agree a b) := by
  let keyOf (item : ClassifiedFact) : String := (valueKey item.value).toOption.getD ""
  have hkeyOf : ∀ item ∈ items, valueKey item.value = .ok (keyOf item) := by
    intro item hitem
    obtain ⟨key, hkey⟩ := hkeys item hitem
    simp [keyOf, hkey, Except.toOption]
  refine ⟨items.map fun item => (item.operation, keyOf item), ?_, ?_⟩
  · refine mapM_eq_ok_map fun item hitem => ?_
    rw [hkeyOf item hitem]
    rfl
  · rw [one_lt_dedup]
    simp only [List.mem_map, exists_exists_and_eq_and, ne_eq, Prod.mk.injEq]
    refine exists_congr fun a => and_congr_right fun ha => exists_congr fun b =>
      and_congr_right fun hb => ?_
    rw [Agree, hkeyOf a ha, hkeyOf b hb, Except.ok.injEq]

theorem keyed_deciding {items : List ClassifiedFact} (hkeys : Keyed items) :
    Keyed (deciding items) := fun item hitem => hkeys item (mem_deciding.mp hitem).1

theorem dedup_ne_one {α : Type} [DecidableEq α] {xs : List α} (h : xs ≠ []) :
    (xs.dedup.length != 1) = true ↔ 1 < xs.dedup.length := by
  have hpos : 0 < xs.dedup.length := by
    obtain ⟨a, ha⟩ := List.exists_mem_of_ne_nil _ h
    exact List.length_pos_of_mem (List.mem_dedup.mpr ha)
  rw [bne_iff_ne]
  omega

/-- The winner is one of the deciding facts, and they conflict when two of them disagree. -/
theorem orderedWinner_spec {items : List ClassifiedFact} (hne : items ≠ [])
    (hkeys : Keyed (deciding items)) :
    ∃ winner conflict, orderedWinner items = .ok (winner, conflict) ∧ winner ∈ deciding items ∧
      (conflict = true ↔ ∃ a ∈ deciding items, ∃ b ∈ deciding items, ¬Agree a b) := by
  by_cases hseveral : SeveralArtifacts items
  · rw [deciding_several hseveral] at hkeys
    obtain ⟨keys, hrun, hdiffer⟩ := operationKeys_ok hkeys
    have hsome : keys ≠ [] := by
      rintro rfl
      rw [operationKeys, mapM_eq_ok] at hrun
      cases hrun
      exact hne rfl
    rw [deciding_several hseveral]
    cases hsorted : byIdentity items with
    | nil => exact absurd ((sortedBy_eq_nil _ _).mp hsorted) hne
    | cons winner rest =>
      refine ⟨winner, keys.dedup.length != 1, ?_, ?_, ?_⟩
      · rw [orderedWinner, if_pos (severalArtifacts_iff.mpr hseveral), hrun, hsorted]
        rfl
      · exact (mem_sortedBy _).mp (show winner ∈ byIdentity items by simp [hsorted])
      · rw [dedup_ne_one hsome, hdiffer]
  · cases hlast : (bySource items).getLast? with
    | none => exact absurd ((sortedBy_eq_nil _ _).mp (List.getLast?_eq_none_iff.mp hlast)) hne
    | some winner =>
      have hwinner : winner ∈ items := (mem_sortedBy _).mp (List.mem_of_getLast? hlast)
      have hgreatest : ∀ b ∈ items, b.sourceLine ≤ winner.sourceLine := fun b hb =>
        Prod.Lex.monotone_fst _ _ (le_of_getLast?_sortedBy hlast b hb)
      have hfinal : ∀ a, a ∈ (bySource items).filter (·.sourceLine == winner.sourceLine) ↔
          a ∈ deciding items := by
        intro a
        rw [List.mem_filter, bySource, mem_sortedBy, mem_deciding, beq_iff_eq]
        refine and_congr_right fun ha => ⟨fun heq => .inr (heq ▸ hgreatest), ?_⟩
        rintro (hmany | hall)
        · exact absurd hmany hseveral
        · exact le_antisymm (hgreatest a ha) (hall winner hwinner)
      obtain ⟨keys, hrun, hdiffer⟩ := @operationKeys_ok
        ((bySource items).filter (·.sourceLine == winner.sourceLine)) fun a ha =>
          hkeys a ((hfinal a).mp ha)
      refine ⟨winner, 1 < keys.dedup.length, ?_, mem_deciding.mpr ⟨hwinner, .inr hgreatest⟩, ?_⟩
      · rw [orderedWinner, if_neg fun h => hseveral (severalArtifacts_iff.mp h), hlast]
        simp only [hrun]
        rfl
      · rw [decide_eq_true_eq, hdiffer]
        simp only [hfinal]

/-- What the facts of one member add to a collection; nothing is known when they conflict. -/
def memberValues (members : List ClassifiedFact) : Option (List TypedValue) :=
  match orderedWinner members with
  | .ok (winner, false) =>
    match winner.operation with
    | .assign => some [winner.value]
    | .remove => some []
    | .reset => none
  | _ => none

/-- Events that can be stored. -/
def Encodable (trace : List PyValue) : Prop :=
  ∀ event ∈ trace, ∃ parts, PyValue.encode true event = .ok parts

theorem encodable_event (event : String) (entries : List (String × String)) :
    ∃ parts, PyValue.encode true (traceEvent event (entries.map fun e => (e.1, .str e.2))) =
      .ok parts :=
  encode_texts event entries

theorem memberStep_spec {state : CollectionState} {members : List ClassifiedFact}
    (hne : members ≠ []) (hkeys : Keyed members) (htrace : Encodable state.trace) :
    ∃ state', memberStep state members = .ok state' ∧ Encodable state'.trace ∧
      state'.conflict = (state.conflict || (memberValues members).isNone) ∧
      state'.values = state.values ++ (memberValues members).getD [] := by
  obtain ⟨winner, conflict, hwinner, -, -⟩ := orderedWinner_spec hne (keyed_deciding hkeys)
  have hevent : ∀ text, Encodable
      (state.trace ++ [traceEvent text [("fact_id", factIdText winner)]]) := by
    intro text event hevent
    rcases List.mem_append.mp hevent with hold | hnew
    · exact htrace event hold
    · rw [List.mem_singleton.mp hnew]
      exact encodable_event text [("fact_id", winner.fact.factId.str)]
  cases conflict with
  | true => exact ⟨{ state with conflict := true }, by simp only [memberStep, hwinner]; rfl,
      htrace, by simp [memberValues, hwinner], by simp [memberValues, hwinner]⟩
  | false =>
    cases hop : winner.operation with
    | assign =>
      refine ⟨{ state with
        values := state.values ++ [winner.value]
        trace := state.trace ++
          [traceEvent "collection_member_added" [("fact_id", factIdText winner)]] }, ?_,
        hevent _, by simp [memberValues, hwinner, hop], by simp [memberValues, hwinner, hop]⟩
      simp only [memberStep, hwinner, bind, Except.bind, hop]
      rfl
    | remove =>
      refine ⟨{ state with
        trace := state.trace ++
          [traceEvent "collection_member_removed" [("fact_id", factIdText winner)]] }, ?_,
        hevent _, by simp [memberValues, hwinner, hop], by simp [memberValues, hwinner, hop]⟩
      simp only [memberStep, hwinner, bind, Except.bind, hop]
      rfl
    | reset =>
      refine ⟨{ state with conflict := true }, ?_, htrace,
        by simp [memberValues, hwinner, hop], by simp [memberValues, hwinner, hop]⟩
      simp only [memberStep, hwinner, bind, Except.bind, hop]
      rfl

/-- A collection conflicts when one of its members does; else it holds what they add. -/
theorem members_spec {groups : List (String × List ClassifiedFact)} {state : CollectionState}
    (hne : ∀ group ∈ groups, group.2 ≠ []) (hkeys : ∀ group ∈ groups, Keyed group.2)
    (htrace : Encodable state.trace) :
    ∃ state', groups.foldlM (fun state group => memberStep state group.2) state = .ok state' ∧
      Encodable state'.trace ∧
      state'.conflict = (state.conflict || groups.any fun group => (memberValues group.2).isNone) ∧
      state'.values = state.values ++ groups.flatMap fun group =>
        (memberValues group.2).getD [] := by
  induction groups generalizing state with
  | nil => exact ⟨state, rfl, htrace, by simp, by simp⟩
  | cons group rest ih =>
    rw [List.forall_mem_cons] at hne hkeys
    obtain ⟨next, hnext, hencodable, hconflict, hvalues⟩ :=
      memberStep_spec hne.1 hkeys.1 htrace
    obtain ⟨final, hfinal, hlast, hconflict', hvalues'⟩ := ih hne.2 hkeys.2 hencodable
    refine ⟨final, ?_, hlast, ?_, ?_⟩
    · rw [List.foldlM_cons, hnext]
      exact hfinal
    · rw [hconflict', hconflict, List.any_cons, Bool.or_assoc]
    · rw [hvalues', hvalues, List.flatMap_cons, List.append_assoc]

theorem encode_list {items : List PyValue} (h : Encodable items) :
    ∃ parts, PyValue.encode true (.list items) = .ok parts := by
  have hvalid := validateJsonCollection_texts h
  rw [validateJsonCollection] at hvalid
  split at hvalid
  · rename_i parts hparts
    exact ⟨parts, hparts⟩
  · cases hvalid

theorem encode_dict {entries : List (String × PyValue)}
    (h : ∀ entry ∈ entries, ∃ parts, PyValue.encode true entry.2 = .ok parts) :
    ∃ parts, PyValue.encode true (.dict entries) = .ok parts := by
  have hentries : ∃ parts, PyValue.encodeEntries true entries = .ok parts := by
    induction entries with
    | nil => exact ⟨[], rfl⟩
    | cons entry rest ih =>
      rw [List.forall_mem_cons] at h
      obtain ⟨part, hpart⟩ := h.1
      obtain ⟨parts, hparts⟩ := ih h.2
      exact ⟨(entry.1, part) :: parts, by
        simp [PyValue.encodeEntries, hpart, hparts, bind, Except.bind, pure, Except.pure]⟩
  obtain ⟨parts, hparts⟩ := hentries
  exact ⟨_, by simp only [PyValue.encode, hparts]; rfl⟩

theorem encodable_append {trace trace' : List PyValue} (h : Encodable trace)
    (h' : Encodable trace') : Encodable (trace ++ trace') := fun event hevent =>
  (List.mem_append.mp hevent).elim (h event) (h' event)

theorem encodable_single (event : String) (entries : List (String × String)) :
    Encodable [traceEvent event (entries.map fun e => (e.1, .str e.2))] := by
  intro e he
  rw [List.mem_singleton.mp he]
  exact encodable_event event entries

theorem encodable_bounded {trace : List PyValue} (h : Encodable trace) :
    Encodable (bounded trace) := fun event hevent => h event (List.mem_of_mem_take hevent)

/-- The event of each input fact. -/
theorem encodable_inputs (items : List ClassifiedFact) (scopeKey : ClassifiedFact → String) :
    Encodable (items.map fun item => traceEvent "input_fact"
      [("fact_id", factIdText item), ("scope_key", .str (scopeKey item))]) := by
  intro event hevent
  obtain ⟨item, -, rfl⟩ := List.mem_map.mp hevent
  exact encodable_event "input_fact" [("fact_id", item.fact.factId.str),
    ("scope_key", scopeKey item)]

section Scope

variable (uuid5 : UUID → String → UUID) (auditId deviceId : UUID) (fieldId : String)

/-- The status that the winner of a scope gives it. -/
def scopeStatus (winner : ClassifiedFact) (conflict : Bool) : ResolutionStatus :=
  if conflict then .conflicting
  else match winner.operation with
    | .assign => .resolved
    | _ => .unknown

def scopeReason (winner : ClassifiedFact) (conflict : Bool) : Option UnresolvedReason :=
  if conflict then some .conflictingEvidence
  else match winner.operation with
    | .assign => none
    | .reset => some .unresolvedDefault
    | .remove => some .unknownSemantics

def scopeValue (winner : ClassifiedFact) (conflict : Bool) : Option TypedValue :=
  if conflict then none
  else match winner.operation with
    | .assign => some winner.value
    | _ => none

/-- The draft of a scope that `winner` decides, before its identity is filled in. -/
def scopeDraft (scope : ScopeRef) (items : List ClassifiedFact) (winner : ClassifiedFact)
    (conflict : Bool) (trace precedence : List PyValue) : EffectiveStateDraft :=
  { effectiveStateId := UUID.ofNat 0, auditId, deviceId, fieldId, scope,
    effectiveValue := scopeValue winner conflict,
    resolutionStatus := scopeStatus winner conflict, sourceFactIds := sourceIds items,
    resolutionTrace := trace, precedenceApplied := precedence,
    unresolvedReason := scopeReason winner conflict }

/-- A scope is decided by one of its deciding facts, and is in conflict when two disagree. -/
theorem resolveScalarScope_spec (scope : ScopeRef) {items : List ClassifiedFact}
    (hne : items ≠ []) (hkeys : Keyed items) :
    ∃ winner conflict trace precedence, winner ∈ deciding items ∧
      (conflict = true ↔ ∃ a ∈ deciding items, ∃ b ∈ deciding items, ¬Agree a b) ∧
      Encodable trace ∧ Encodable precedence ∧
      resolveScalarScope uuid5 auditId deviceId fieldId scope items =
        makeEffectiveStateDraft uuid5
          (scopeDraft auditId deviceId fieldId scope items winner conflict trace precedence) := by
  obtain ⟨winner, conflict, hwinner, hmem, hconflict⟩ := orderedWinner_spec hne (keyed_deciding hkeys)
  have hinputs : Encodable (inputTrace items) := encodable_inputs items (·.scope.key)
  have hnone : Encodable [] := fun _ h => nomatch h
  have hunknown : ∀ (event : String) (entries : List (String × String)), Encodable (bounded (inputTrace items ++
      [traceEvent event (entries.map fun e => (e.1, .str e.2))])) :=
    fun event entries =>
      encodable_bounded (encodable_append hinputs (encodable_single event entries))
  cases conflict with
  | true =>
    refine ⟨winner, true, _, [], hmem, hconflict, hunknown "conflict_detected" [], hnone, ?_⟩
    simp only [resolveScalarScope, hwinner]
    rfl
  | false =>
    cases hop : winner.operation with
    | reset =>
      refine ⟨winner, false, _, [], hmem, hconflict,
        hunknown "default_missing" [("fact_id", winner.fact.factId.str)], hnone, ?_⟩
      simp only [resolveScalarScope, hwinner, bind, Except.bind, hop, unknownState, scopeDraft,
        scopeValue, scopeStatus, scopeReason, Bool.false_eq_true, if_false]
      rfl
    | remove =>
      refine ⟨winner, false, _, [], hmem, hconflict, hunknown "unresolved" [], hnone, ?_⟩
      simp only [resolveScalarScope, hwinner, bind, Except.bind, hop, unknownState, scopeDraft,
        scopeValue, scopeStatus, scopeReason, Bool.false_eq_true, if_false]
      rfl
    | assign =>
      obtain ⟨winnerKey, hwinnerKey⟩ := hkeys winner (mem_deciding.mp hmem).1
      obtain ⟨keyed, hkeyed⟩ : ∃ keyed, items.mapM (fun item => do
          let key ← valueKey item.value
          return (item, key)) = .ok keyed := by
        refine ⟨items.map fun item => (item, (valueKey item.value).toOption.getD ""), ?_⟩
        refine mapM_eq_ok_map fun item hitem => ?_
        obtain ⟨key, hkey⟩ := hkeys item hitem
        simp [hkey, Except.toOption, bind, Except.bind, pure, Except.pure]
      refine ⟨winner, false, bounded (inputTrace items ++ (if 1 <
        ((keyed.filter (·.2 == winnerKey)).map (·.1)).length then
          [traceEvent "duplicate_collapsed" [("fact_ids", .list
            (((keyed.filter (·.2 == winnerKey)).map (·.1)).map factIdText))]] else []) ++
        [traceEvent "explicit_selected" [("fact_id", factIdText winner)]]),
        if 1 < items.length then [.dict [("rule", .str "same_artifact_source_order"),
          ("winner_fact_id", factIdText winner)]] else [], hmem, hconflict, ?_, ?_, ?_⟩
      · refine encodable_bounded (encodable_append (encodable_append hinputs ?_)
          (encodable_single "explicit_selected" [("fact_id", winner.fact.factId.str)]))
        split
        · intro event hevent
          rw [List.mem_singleton.mp hevent]
          refine encode_dict fun entry hentry => ?_
          rcases List.mem_cons.mp hentry with rfl | hentry
          · exact ⟨_, rfl⟩
          · rw [List.mem_singleton.mp hentry]
            refine encode_list fun text htext => ?_
            obtain ⟨item, -, rfl⟩ := List.mem_map.mp htext
            exact ⟨_, rfl⟩
        · exact hnone
      · split
        · intro event hevent
          rw [List.mem_singleton.mp hevent]
          refine encode_dict fun entry hentry => ?_
          simp only [List.mem_cons, List.not_mem_nil, or_false] at hentry
          rcases hentry with rfl | rfl <;> exact ⟨_, rfl⟩
        · exact hnone
      · simp only [bind, Except.bind] at hkeyed
        simp only [resolveScalarScope, hwinner, hwinnerKey, hkeyed, bind, Except.bind, hop,
          scopeDraft, scopeValue, scopeStatus, scopeReason, Bool.false_eq_true, if_false]

/-- The draft of one scope of a repeatable field. -/
def collectionDraft (scope : ScopeRef) (items : List ClassifiedFact)
    (groups : List (String × List ClassifiedFact)) (trace : List PyValue) : EffectiveStateDraft :=
  let conflict := groups.any fun group => (memberValues group.2).isNone
  { effectiveStateId := UUID.ofNat 0, auditId, deviceId, fieldId, scope,
    effectiveValue := if conflict then none
      else some (listOf (groups.flatMap fun group => (memberValues group.2).getD [])),
    resolutionStatus := if conflict then .conflicting else .resolved,
    sourceFactIds := sourceIds items, resolutionTrace := trace,
    unresolvedReason := if conflict then some .conflictingEvidence else none }

/-- The members of a collection in the order of their keys. -/
def memberGroups (pairs : List (String × ClassifiedFact)) : List (String × List ClassifiedFact) :=
  sortedBy (·.1) (pairs.foldl (fun dict p => Dict.append dict p.1 p.2) [])

theorem memberGroups_grouping (pairs : List (String × ClassifiedFact)) :
    Dict.Grouping pairs (memberGroups pairs) :=
  (Dict.grouping_grouped pairs).perm (sortedBy_perm _ _)

/-- The trace a collection starts from. -/
def collectionInputs (scope : ScopeRef) (items : List ClassifiedFact) : List PyValue :=
  items.map fun item =>
    traceEvent "input_fact" [("fact_id", factIdText item), ("scope_key", .str scope.key)]

/-- What `resolveCollection` does once the members are folded. -/
theorem resolveCollection_fold {key : String} {head : ClassifiedFact}
    {rest : List (String × ClassifiedFact)} {state : CollectionState}
    (hstate : (memberGroups ((key, head) :: rest)).foldlM (fun state group => memberStep state group.2)
      ⟨[], collectionInputs head.scope (((key, head) :: rest).map (·.2)), false⟩ = .ok state) :
    resolveCollection uuid5 auditId deviceId fieldId ((key, head) :: rest) =
      if state.conflict then
        unknownState uuid5 auditId deviceId fieldId head.scope
          (sourceIds (((key, head) :: rest).map (·.2)))
          (state.trace ++ [traceEvent "conflict_detected" []]) .conflictingEvidence true
      else makeEffectiveStateDraft uuid5
        { effectiveStateId := UUID.ofNat 0, auditId, deviceId, fieldId, scope := head.scope,
          effectiveValue := some (listOf state.values), resolutionStatus := .resolved,
          sourceFactIds := sourceIds (((key, head) :: rest).map (·.2)),
          resolutionTrace := bounded state.trace } := by
  rw [resolveCollection]
  simp only [memberGroups, collectionInputs] at hstate
  rw [hstate]
  rfl

/-- A scope of a repeatable field is the collection of what its members add. -/
theorem resolveCollection_spec {key : String} {head : ClassifiedFact}
    {rest : List (String × ClassifiedFact)}
    (hkeyed : ∀ p ∈ (key, head) :: rest, valueKey p.2.value = .ok p.1) :
    ∃ trace, Encodable trace ∧
      resolveCollection uuid5 auditId deviceId fieldId ((key, head) :: rest) =
        makeEffectiveStateDraft uuid5 (collectionDraft auditId deviceId fieldId head.scope
          (((key, head) :: rest).map (·.2)) (memberGroups ((key, head) :: rest)) trace) := by
  have hgrouping := memberGroups_grouping ((key, head) :: rest)
  have hkeys : ∀ group ∈ memberGroups ((key, head) :: rest), Keyed group.2 :=
    fun group hgroup item hitem => ⟨group.1, hkeyed (group.1, item) (hgrouping.mem hgroup hitem)⟩
  obtain ⟨state, hstate, htrace, hconflict, hvalues⟩ := @members_spec _
    ⟨[], collectionInputs head.scope (((key, head) :: rest).map (·.2)), false⟩
    hgrouping.nonempty hkeys (encodable_inputs _ fun _ => head.scope.key)
  simp only [Bool.false_or, List.nil_append] at hconflict hvalues
  rw [resolveCollection_fold uuid5 auditId deviceId fieldId hstate]
  unfold collectionDraft
  rw [← hconflict, ← hvalues]
  cases state.conflict with
  | true =>
    exact ⟨_, encodable_bounded (encodable_append htrace
      (encodable_single "conflict_detected" [])), rfl⟩
  | false => exact ⟨_, encodable_bounded htrace, rfl⟩

end Scope

end ConfigAuditor.EffectiveState.Winner
