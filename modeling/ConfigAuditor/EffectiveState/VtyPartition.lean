import ConfigAuditor.EffectiveState.Resolver

/-!
# Pointwise correctness of VTY partitioning

Resolving scalar facts with VTY scopes gives drafts for pairwise disjoint ranges
whose union is the union of the facts' ranges. The draft that covers a line is the
resolution of exactly the facts that cover that line.
-/
namespace ConfigAuditor.EffectiveState.VtyPartition

open Library SecurityModel Policy Model Resolver

/-- The terminal line `n` lies in the range of a VTY scope. -/
def coversLine (scope : ScopeRef) (n : Int) : Bool :=
  match vtyBounds scope with
  | .ok (start, finish) => start ≤ n && n ≤ finish
  | .error _ => false

theorem coversLine_of_bounds {scope : ScopeRef} {start finish : Int}
    (h : vtyBounds scope = .ok (start, finish)) (n : Int) :
    coversLine scope n = true ↔ start ≤ n ∧ n ≤ finish := by
  simp [coversLine, h]

theorem classify_ok {fact : SecurityFact} {persisted : Option FactOperation}
    {item : ClassifiedFact} (h : classify fact persisted = .ok item) :
    item.fact = fact ∧ item.scope = fact.scope ∧ item.value = fact.value ∧
      validateScope fact.scope = .ok () := by
  simp only [classify, scopeFromDict, except_bind_eq_ok, except_pure_eq_ok] at h
  obtain ⟨scope, ⟨_, hscope, rfl⟩, operation, -, h⟩ := h
  cases hrefs : fact.evidenceRefs with
  | nil => simp [hrefs] at h
  | cons first rest =>
    simp only [hrefs, except_bind_eq_ok, except_pure_eq_ok] at h
    obtain ⟨_, -, _, -, _, -, _, -, _, -, rfl⟩ := h
    exact ⟨rfl, rfl, rfl, hscope⟩

section Drafts

variable {uuid5 : UUID → String → UUID} {auditId deviceId : UUID} {fieldId : String}

theorem unknownState_scope {scope : ScopeRef} {ids : List UUID} {trace : List PyValue}
    {reason : UnresolvedReason} {conflict : Bool} {draft : EffectiveStateDraft}
    (h : unknownState uuid5 auditId deviceId fieldId scope ids trace reason conflict = .ok draft) :
    draft.scope = scope ∧ draft.fieldId = fieldId := by
  obtain ⟨id, -, rfl⟩ := makeEffectiveStateDraft_ok uuid5 h
  exact ⟨rfl, rfl⟩

/-- A resolved scope keeps the scope and field it was resolved for. -/
theorem resolveScalarScope_scope {scope : ScopeRef} {facts : List ClassifiedFact}
    {draft : EffectiveStateDraft}
    (h : resolveScalarScope uuid5 auditId deviceId fieldId scope facts = .ok draft) :
    draft.scope = scope ∧ draft.fieldId = fieldId := by
  simp only [resolveScalarScope, except_bind_eq_ok] at h
  obtain ⟨⟨winner, conflict⟩, -, h⟩ := h
  cases conflict with
  | true => exact unknownState_scope h
  | false =>
    cases hop : winner.operation with
    | assign =>
      simp only [hop, Bool.false_eq_true, if_false, except_bind_eq_ok] at h
      obtain ⟨_, -, _, -, h⟩ := h
      obtain ⟨id, -, rfl⟩ := makeEffectiveStateDraft_ok uuid5 h
      exact ⟨rfl, rfl⟩
    | reset =>
      simp only [hop, Bool.false_eq_true, if_false] at h
      exact unknownState_scope h
    | remove =>
      simp only [hop, Bool.false_eq_true, if_false] at h
      exact unknownState_scope h

end Drafts

theorem dependencyGraph_values {facts : List SecurityFact}
    (hdeps : ∀ fact ∈ facts, fact.dependencies = []) (root : UUID) :
    (Dict.get? (dependencyGraph facts) root).getD [] = [] := by
  cases hg : Dict.get? (dependencyGraph facts) root with
  | none => rfl
  | some dependencies =>
    have hmem := Dict.mem_ofList (Dict.mem_of_get? hg)
    simp only [List.mem_map, Prod.mk.injEq] at hmem
    obtain ⟨fact, hfact, -, rfl⟩ := hmem
    simp [knownDependencies, hdeps fact hfact]

/-- Without dependencies no fact is blocked. -/
theorem blockedDependencyIds_eq_nil {facts : List SecurityFact}
    (hdeps : ∀ fact ∈ facts, fact.dependencies = []) : blockedDependencyIds facts = [] := by
  have hwalk : ∀ root, traversalBlocked (dependencyGraph facts) root 130 [] [root] = false := by
    intro root
    simp [traversalBlocked, dependencyGraph_values hdeps]
  simp only [blockedDependencyIds, hwalk, List.filter_false, List.append_nil, List.map_eq_nil_iff,
    List.filter_eq_nil_iff]
  intro fact hfact
  simp [hdeps fact hfact]

section Partition

variable {uuid5 : UUID → String → UUID} {auditId deviceId : UUID} {fieldId : String}

/-- The cells of a partition, with the scope each one gets. -/
theorem vtyPartitions_ok {facts : List ClassifiedFact}
    {parts : List (ScopeRef × List ClassifiedFact)} (h : vtyPartitions facts = .ok parts) :
    ∃ ranges : List (ClassifiedFact × Int × Int), ranges.map (·.1) = facts ∧
      (∀ r ∈ ranges, vtyBounds r.1.scope = .ok r.2) ∧
      parts = (Intervals.partition (fun r => r.2.1) (fun r => r.2.2) ranges).map fun cell =>
        (vtyScope cell.1.1 cell.1.2, cell.2.map (·.1)) := by
  simp only [vtyPartitions, except_bind_eq_ok, except_pure_eq_ok] at h
  obtain ⟨ranges, hranges, rfl⟩ := h
  refine ⟨ranges, ?_, ?_, rfl⟩
  · rw [mapM_map (g := (·.1)) (k := id) hranges, List.map_id]
    intro item range hrange
    simp only [except_bind_eq_ok, except_pure_eq_ok] at hrange
    obtain ⟨_, -, rfl⟩ := hrange
    rfl
  · intro r hr
    obtain ⟨item, -, hitem⟩ := mapM_exists_input hranges hr
    simp only [except_bind_eq_ok, except_pure_eq_ok] at hitem
    obtain ⟨bounds, hbounds, rfl⟩ := hitem
    exact hbounds

/-- Ranges that valid scopes give. -/
def RangesOf (facts : List ClassifiedFact) (ranges : List (ClassifiedFact × Int × Int)) : Prop :=
  ranges.map (·.1) = facts ∧ ∀ r ∈ ranges, vtyBounds r.1.scope = .ok r.2

abbrev ValidScopes (facts : List ClassifiedFact) : Prop :=
  ∀ item ∈ facts, item.scope.type = "vty_range" ∧ validateScope item.scope = .ok ()

/-- The scope of a cell reads back as the cell. -/
theorem cell_bounds {facts : List ClassifiedFact} {ranges : List (ClassifiedFact × Int × Int)}
    (hvalid : ValidScopes facts) (hranges : RangesOf facts ranges)
    {cell : (Int × Int) × List (ClassifiedFact × Int × Int)}
    (hcell : cell ∈ Intervals.partition (fun r => r.2.1) (fun r => r.2.2) ranges) :
    vtyBounds (vtyScope cell.1.1 cell.1.2) = .ok (cell.1.1, cell.1.2) := by
  obtain ⟨hle, hne⟩ := Intervals.partition_nonempty _ _ hcell
  obtain ⟨r, hr⟩ := List.exists_mem_of_ne_nil _ hne
  obtain ⟨hrmem, hlo, hhi⟩ := Intervals.partition_covered _ _ hcell hr
  have hrfact : r.1 ∈ facts := hranges.1 ▸ List.mem_map_of_mem hrmem
  obtain ⟨htype, hscope⟩ := hvalid r.1 hrfact
  obtain ⟨s, e, hse, hs0, -, he⟩ := vtyBounds_of_valid htype hscope
  have hreq : (s, e) = r.2 := by
    have h := hranges.2 r hrmem
    rwa [hse, Except.ok.injEq] at h
  have h1 : r.2.1 = s := by rw [← hreq]
  have h2 : r.2.2 = e := by rw [← hreq]
  exact vtyBounds_vtyScope (by omega) hle (by omega)

/-- The facts of a cell are the facts that cover any one of its lines. -/
theorem cell_facts {facts : List ClassifiedFact} {ranges : List (ClassifiedFact × Int × Int)}
    (hranges : RangesOf facts ranges) {cell : (Int × Int) × List (ClassifiedFact × Int × Int)}
    (hcell : cell ∈ Intervals.partition (fun r => r.2.1) (fun r => r.2.2) ranges) {n : Int}
    (hn : cell.1.1 ≤ n ∧ n ≤ cell.1.2) :
    cell.2.map (·.1) = facts.filter fun item => coversLine item.scope n := by
  have hcover : ∀ r ∈ ranges, coversLine r.1.scope n = (r.2.1 ≤ n && n ≤ r.2.2) := by
    intro r hr
    simp [coversLine, hranges.2 r hr]
  rw [Intervals.partition_items _ _ hcell hn, ← hranges.1, List.filter_map]
  exact congrArg (List.map _) (List.filter_congr fun r hr => (hcover r hr).symm)

/-- A line lies in some cell exactly when some fact covers it. -/
theorem cells_cover {facts : List ClassifiedFact} {ranges : List (ClassifiedFact × Int × Int)}
    (hranges : RangesOf facts ranges) (n : Int) :
    (∃ cell ∈ Intervals.partition (fun r : ClassifiedFact × Int × Int => r.2.1) (fun r => r.2.2)
        ranges, cell.1.1 ≤ n ∧ n ≤ cell.1.2) ↔
      ∃ item ∈ facts, coversLine item.scope n = true := by
  rw [Intervals.partition_covers, ← hranges.1]
  simp only [List.mem_map, exists_exists_and_eq_and]
  refine exists_congr fun r => and_congr_right fun hr => ?_
  rw [coversLine_of_bounds (hranges.2 r hr)]

end Partition

section Field

variable {uuid5 : UUID → String → UUID} {auditId deviceId : UUID} {fieldId : String}

/-- Each draft of a VTY field resolves one cell, and each cell has its draft. -/
theorem resolveScalarField_vty {facts : List ClassifiedFact} {drafts : List EffectiveStateDraft}
    (hvalid : ValidScopes facts)
    (h : resolveScalarField uuid5 auditId deviceId fieldId facts = .ok drafts) :
    ∃ ranges, RangesOf facts ranges ∧
      (drafts.map (·.scope) = (Intervals.partition (fun r => r.2.1) (fun r => r.2.2) ranges).map
        fun cell => vtyScope cell.1.1 cell.1.2) ∧
      ∀ draft ∈ drafts, ∃ cell ∈ Intervals.partition (fun r => r.2.1) (fun r => r.2.2) ranges,
        draft.scope = vtyScope cell.1.1 cell.1.2 ∧
          resolveScalarScope uuid5 auditId deviceId fieldId draft.scope (cell.2.map (·.1)) =
            .ok draft := by
  cases facts with
  | nil =>
    simp only [resolveScalarField, Except.ok.injEq] at h
    subst h
    exact ⟨[], ⟨rfl, by simp⟩, by simp [Intervals.partition, Intervals.boundaries, sortedSet],
      by simp⟩
  | cons first rest =>
    have htype := (hvalid first (by simp)).1
    simp only [resolveScalarField, htype, ne_eq, not_true_eq_false, if_false,
      except_bind_eq_ok] at h
    obtain ⟨parts, hparts, hdrafts⟩ := h
    obtain ⟨ranges, hmap, hbounds, rfl⟩ := vtyPartitions_ok hparts
    refine ⟨ranges, ⟨hmap, hbounds⟩, ?_, ?_⟩
    · have hscope := mapM_map (g := (·.scope)) (k := (·.1)) hdrafts
        fun part draft hd => (resolveScalarScope_scope hd).1
      rw [hscope, List.map_map]
      rfl
    · intro draft hdraft
      obtain ⟨part, hpart, hd⟩ := mapM_exists_input hdrafts hdraft
      obtain ⟨cell, hcell, rfl⟩ := List.mem_map.mp hpart
      have hscope := (resolveScalarScope_scope hd).1
      exact ⟨cell, hcell, hscope, hscope ▸ hd⟩

theorem drafts_disjoint {facts : List ClassifiedFact}
    {ranges : List (ClassifiedFact × Int × Int)} {drafts : List EffectiveStateDraft}
    (hvalid : ValidScopes facts) (hranges : RangesOf facts ranges)
    (hscopes : drafts.map (·.scope) = (Intervals.partition (fun r => r.2.1) (fun r => r.2.2)
      ranges).map fun cell => vtyScope cell.1.1 cell.1.2) :
    drafts.Pairwise fun d d' => ∀ n, ¬(coversLine d.scope n = true ∧
      coversLine d'.scope n = true) := by
  have hcells : (drafts.map (·.scope)).Pairwise fun s s' => ∀ n, ¬(coversLine s n = true ∧
      coversLine s' n = true) := by
    rw [hscopes, List.pairwise_map]
    refine (Intervals.partition_disjoint _ _ ranges).imp_of_mem ?_
    intro c c' hc hc' hlt n
    rw [coversLine_of_bounds (cell_bounds hvalid hranges hc),
      coversLine_of_bounds (cell_bounds hvalid hranges hc')]
    omega
  exact List.pairwise_map.mp hcells

/-- The drafts cover the lines the facts cover. -/
theorem drafts_cover {facts : List ClassifiedFact}
    {ranges : List (ClassifiedFact × Int × Int)} {drafts : List EffectiveStateDraft}
    (hvalid : ValidScopes facts) (hranges : RangesOf facts ranges)
    (hscopes : drafts.map (·.scope) = (Intervals.partition (fun r => r.2.1) (fun r => r.2.2)
      ranges).map fun cell => vtyScope cell.1.1 cell.1.2) (n : Int) :
    (∃ d ∈ drafts, coversLine d.scope n = true) ↔
      ∃ item ∈ facts, coversLine item.scope n = true := by
  rw [← cells_cover hranges]
  have hmap : (∃ d ∈ drafts, coversLine d.scope n = true) ↔
      ∃ s ∈ drafts.map (·.scope), coversLine s n = true := by simp
  rw [hmap, hscopes]
  simp only [List.mem_map, exists_exists_and_eq_and]
  refine exists_congr fun cell => and_congr_right fun hcell => ?_
  rw [coversLine_of_bounds (cell_bounds hvalid hranges hcell)]

/-- Facts of one scalar field without dependencies are resolved by that field's resolver alone. -/
theorem resolveSecurityFacts_scalar {facts : List SecurityFact}
    {operations : UUID → Option FactOperation} {drafts : List EffectiveStateDraft}
    {field : CanonicalField} (hfield : fieldRegistry fieldId = some field)
    (hscalar : field.repeatable = false) (hsame : ∀ fact ∈ facts, fact.fieldId = fieldId)
    (hdeps : ∀ fact ∈ facts, fact.dependencies = [])
    (h : resolveSecurityFacts uuid5 auditId deviceId facts operations = .ok drafts) :
    ∃ classified resolved, classifyFacts facts operations = .ok classified ∧
      resolveScalarField uuid5 auditId deviceId fieldId (sortedBy resolverKey classified) =
        .ok resolved ∧ drafts = sortedBy draftKey resolved := by
  simp only [resolveSecurityFacts, except_bind_eq_ok, except_pure_eq_ok] at h
  obtain ⟨classified, hclassified, groups, hgroups, rfl⟩ := h
  rw [blockedDependencyIds_eq_nil hdeps] at hgroups
  have hfields : ∀ item ∈ sortedBy resolverKey classified, item.fact.fieldId = fieldId := by
    intro item hitem
    obtain ⟨fact, hfact, hc⟩ := mapM_exists_input hclassified ((mem_sortedBy _).mp hitem)
    rw [(classify_ok hc).1, hsame fact hfact]
  cases hs : sortedBy resolverKey classified with
  | nil =>
    rw [hs, groupRuns_nil] at hgroups
    cases hgroups
    exact ⟨classified, [], hclassified, by rw [hs]; rfl, rfl⟩
  | cons first rest =>
    rw [groupRuns_const hfields (by simp [hs]), hs, mapM_eq_ok] at hgroups
    cases hgroups with
    | cons hgroup htail =>
      cases htail
      have hfirst : first.fact.fieldId = fieldId := hfields first (by simp [hs])
      simp only [resolveField, hfirst, getFieldPolicy, hfield, fieldPolicy, hscalar,
        List.contains_nil, List.filter_false, List.isEmpty_nil, Bool.not_true,
        Bool.false_eq_true, if_false, except_bind_eq_ok, Except.ok.injEq] at hgroup
      obtain ⟨_, rfl, hgroup⟩ := hgroup
      exact ⟨classified, _, hclassified, hs ▸ hgroup, by simp⟩

end Field

/-- Pointwise correctness of VTY partitioning: the drafts have disjoint ranges, cover the
lines the facts cover, and each is the resolution of the facts that cover its lines. -/
theorem vty_partition_pointwise (uuid5 : UUID → String → UUID) (auditId deviceId : UUID)
    (fieldId : String) (field : CanonicalField) (facts : List SecurityFact)
    (operations : UUID → Option FactOperation) (drafts : List EffectiveStateDraft)
    (hfield : fieldRegistry fieldId = some field) (hscalar : field.repeatable = false)
    (hsame : ∀ fact ∈ facts, fact.fieldId = fieldId)
    (hdeps : ∀ fact ∈ facts, fact.dependencies = [])
    (hvty : ∀ fact ∈ facts, fact.scope.type = "vty_range")
    (hrun : resolveSecurityFacts uuid5 auditId deviceId facts operations = .ok drafts) :
    ∃ classified, classifyFacts facts operations = .ok classified ∧
      (drafts.Pairwise fun d d' => ∀ n, ¬(coversLine d.scope n = true ∧
        coversLine d'.scope n = true)) ∧
      (∀ n, (∃ d ∈ drafts, coversLine d.scope n = true) ↔
        ∃ fact ∈ facts, coversLine fact.scope n = true) ∧
      ∀ d ∈ drafts, ∀ n, coversLine d.scope n = true →
        resolveScalarScope uuid5 auditId deviceId fieldId d.scope
          ((sortedBy resolverKey classified).filter fun item => coversLine item.fact.scope n) =
          .ok d := by
  obtain ⟨classified, resolved, hclassified, hresolved, rfl⟩ :=
    resolveSecurityFacts_scalar hfield hscalar hsame hdeps hrun
  have horigin : ∀ item ∈ classified, ∃ fact ∈ facts, item.fact = fact ∧
      item.scope = fact.scope ∧ validateScope fact.scope = .ok () := by
    intro item hitem
    obtain ⟨fact, hfact, hc⟩ := mapM_exists_input hclassified hitem
    obtain ⟨h1, h2, -, h3⟩ := classify_ok hc
    exact ⟨fact, hfact, h1, h2, h3⟩
  have hvalid : ValidScopes (sortedBy resolverKey classified) := by
    intro item hitem
    obtain ⟨fact, hfact, -, hscope, hv⟩ := horigin item ((mem_sortedBy _).mp hitem)
    rw [hscope]
    exact ⟨hvty fact hfact, hv⟩
  obtain ⟨ranges, hranges, hscopes, hdrafts⟩ := resolveScalarField_vty hvalid hresolved
  refine ⟨classified, hclassified, ?_, ?_, ?_⟩
  · rw [(sortedBy_perm draftKey resolved).pairwise_iff fun h n hn => h n hn.symm]
    exact drafts_disjoint hvalid hranges hscopes
  · intro n
    have hdraft := drafts_cover hvalid hranges hscopes n
    simp only [mem_sortedBy] at hdraft ⊢
    rw [hdraft]
    constructor
    · rintro ⟨item, hitem, hn⟩
      obtain ⟨fact, hfact, -, hs, -⟩ := horigin item hitem
      exact ⟨fact, hfact, hs ▸ hn⟩
    · rintro ⟨fact, hfact, hn⟩
      obtain ⟨item, hitem, hc⟩ := mapM_exists_output hclassified hfact
      exact ⟨item, hitem, (classify_ok hc).2.1 ▸ hn⟩
  · intro d hd n hn
    obtain ⟨cell, hcell, hscope, hd⟩ := hdrafts d ((mem_sortedBy _).mp hd)
    rw [hscope, coversLine_of_bounds (cell_bounds hvalid hranges hcell)] at hn
    have hfacts := cell_facts hranges hcell hn
    have hsamescope : (sortedBy resolverKey classified).filter
        (fun item => coversLine item.fact.scope n) =
        (sortedBy resolverKey classified).filter fun item => coversLine item.scope n := by
      refine List.filter_congr fun item hitem => ?_
      obtain ⟨fact, -, hf, hs, -⟩ := horigin item ((mem_sortedBy _).mp hitem)
      rw [hf, hs]
    rw [hsamescope, ← hfacts]
    exact hd

def lineEvidence (line : Nat) : EvidenceRef :=
  { artifactId := UUID.ofNat 5, startLine := some line, endLine := some line,
    sourcePath := "running.cfg", irNodeId := "node", evidenceType := .configuration }

/-- A statement at `line` that sets SSH for the terminal lines `start` to `finish`. -/
def sshFact (id line : Nat) (start finish : Nat) (enabled : Bool) : SecurityFact :=
  { factId := UUID.ofNat id, auditId := UUID.ofNat 1, deviceId := UUID.ofNat 2,
    snapshotId := UUID.ofNat 3, fieldId := "management.remote.ssh.enabled",
    value := { type := .boolean, value := .bool enabled },
    scope := vtyScope start finish,
    evidenceRefs := [lineEvidence line],
    mappingId := none, mappingVersionId := none, knowledgePackVersionId := UUID.ofNat 9,
    dependencies := [] }

/-- Lines 0 to 4 allow SSH, then lines 2 to 9 refuse it. -/
def overlappingFacts : List SecurityFact := [sshFact 10 1 0 4 true, sshFact 11 2 2 9 false]

/-- The identifiers of the three cells 0-1, 2-4 and 5-9. -/
def overlappingUuid5 : UUID → String → UUID := UUID.ofTable
  [("00000000-0000-0000-0000-000000000001:management.remote.ssh.enabled:vty_range::vty:0-1",
      0x8dc06838bd945ab5a60f044f501ec0f3),
    ("00000000-0000-0000-0000-000000000001:management.remote.ssh.enabled:vty_range::vty:2-4",
      0xe0f243466eb05660ba834eb0326b227b),
    ("00000000-0000-0000-0000-000000000001:management.remote.ssh.enabled:vty_range::vty:5-9",
      0xd4ead48dd1775ac2bcb37ee1ca0ac658)]

theorem vty_partition_overlapping :
    ∃ drafts, resolveSecurityFacts overlappingUuid5 (UUID.ofNat 1) (UUID.ofNat 2)
        overlappingFacts (fun _ => some .assign) = .ok drafts ∧
      ∀ n, (∃ d ∈ drafts, coversLine d.scope n = true) ↔
        ∃ fact ∈ overlappingFacts, coversLine fact.scope n = true := by
  obtain ⟨drafts, hrun⟩ := exists_of_isOk (x := resolveSecurityFacts overlappingUuid5
    (UUID.ofNat 1) (UUID.ofNat 2) overlappingFacts fun _ => some .assign) (by decide +kernel)
  obtain ⟨_, -, -, hcover, -⟩ := vty_partition_pointwise _ _ _ "management.remote.ssh.enabled"
    ⟨"management.remote.ssh.enabled", [.boolean], ["vty_range", "interface", "device"], false⟩
    overlappingFacts _ drafts (by decide) rfl (by decide) (by decide) (by decide) hrun
  exact ⟨drafts, hrun, hcover⟩

end ConfigAuditor.EffectiveState.VtyPartition
