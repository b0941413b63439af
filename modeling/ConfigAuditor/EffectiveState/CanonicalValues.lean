import ConfigAuditor.EffectiveState.SpellingFree

/-!
# What depends on canonical values only

A run compares values by keys that hold the operator's spelling. It depends on canonical values
only exactly where every scope of every field is safe, and there equal statements do not
conflict, a removal takes its member away and no collection has a member twice.
-/
namespace ConfigAuditor.EffectiveState.CanonicalValues

open Library SecurityModel Policy Model Resolver VtyPartition Resolved Groups OrderIndependence
  ScopeTypes ScopeIndependence Winner Spelling Respelling RespelledScopes RespelledCollections
  SpelledDrafts Traces SpellingFree

/-- The draft is one of a repeatable field. -/
def Repeats (draft : EffectiveStateDraft) : Prop :=
  ∃ field, fieldRegistry draft.fieldId = some field ∧ field.repeatable = true

/-- The draft shows a collection of values. -/
def Shows (draft : EffectiveStateDraft) (values : List TypedValue) : Prop :=
  Repeats draft ∧ draft.effectiveValue = some (listOf values)

/-- What a draft is when canonical values alone decide it. A conflict has a removal or a reset,
or two values of a single-valued field; no collection has a member twice, nor a member that is
removed after its last assignment in the artifact. -/
structure Canonical (classified : List ClassifiedFact) (draft : EffectiveStateDraft) : Prop where
  agree : draft.resolutionStatus = .conflicting →
    (∃ a ∈ citedFacts classified draft, a.operation ≠ .assign) ∨
    (¬ Repeats draft ∧ ∃ a ∈ citedFacts classified draft, ∃ b ∈ citedFacts classified draft,
      canonicalKey a.value ≠ canonicalKey b.value)
  once : ∀ values, Shows draft values → (values.map bare).Nodup
  removed : ∀ values, Shows draft values → ∀ m ∈ citedFacts classified draft,
    m.operation = .remove → (∀ a ∈ citedFacts classified draft, a.operation = .assign →
      canonicalKey a.value = canonicalKey m.value → a.artifactId = m.artifactId →
      a.sourceLine < m.sourceLine) → bare m.value ∉ values.map bare

/-- A run depends on canonical values only. -/
structure CanonicalOnly (uuid5 : UUID → String → UUID) (auditId deviceId : UUID)
    (facts : List SecurityFact) (operations : UUID → Option FactOperation)
    (classified : List ClassifiedFact) (drafts : List EffectiveStateDraft) : Prop where
  free : SpellingFree uuid5 auditId deviceId facts operations drafts
  canonical : ∀ draft ∈ drafts, Canonical classified draft

section Draft

variable {uuid5 : UUID → String → UUID} {auditId deviceId : UUID} {fieldId : String}
  {classified items : List ClassifiedFact} {originals : SecurityFact → Original}
  {pairs : List (String × ClassifiedFact)} {draft : EffectiveStateDraft}

theorem canonicalKey_of_bare {value other : TypedValue} (h : bare value = bare other) :
    canonicalKey value = canonicalKey other := by
  rw [canonicalKey, canonicalKey, h]

theorem mem_soleMember {value : TypedValue} (h : value ∈ soleMember items) :
    ∃ a ∈ items, a.operation = .assign ∧ bare a.value = value := by
  cases hfind : items.find? (·.operation == .assign) with
  | none => simp [soleMember, hfind] at h
  | some a =>
    rw [soleMember, hfind, Option.map_some, Option.toList_some, List.mem_singleton] at h
    exact ⟨a, List.mem_of_find?_eq_some hfind, by simpa using List.find?_some hfind, h.symm⟩

theorem soleMember_nodup : (soleMember items).Nodup := by
  unfold soleMember
  cases items.find? (·.operation == .assign) <;> simp

/-- The draft of a collection, by its members. -/
theorem collection_made (hne : items ≠ []) (hs : Spells items originals pairs)
    (h : resolveCollection uuid5 auditId deviceId fieldId pairs = .ok draft) :
    draft.fieldId = fieldId ∧ draft.sourceFactIds = sourceIds items ∧
      draft.resolutionStatus = (if conflicts pairs then .conflicting else .resolved) ∧
      draft.effectiveValue = if conflicts pairs then none else some (listOf (collected pairs)) := by
  obtain ⟨item, -, trace, -, hrun⟩ :=
    @collection_spelled uuid5 auditId deviceId fieldId _ _ _ hne hs
  rw [hrun] at h
  obtain ⟨id, -, rfl⟩ := makeEffectiveStateDraft_ok uuid5 h
  exact ⟨rfl, sourceIds_spelled hs, rfl, rfl⟩

/-- A safe collection is decided by canonical values. -/
theorem collection_canonical (hown : Classified items) (hsafe : CollectionSafe items)
    (hne : items ≠ []) (hs : Spells items originals pairs)
    (h : resolveCollection uuid5 auditId deviceId fieldId pairs = .ok draft)
    (hcited : citedFacts classified draft = items) : Canonical classified draft := by
  obtain ⟨-, -, hstatus, hvalue⟩ := collection_made hne hs h
  rcases hsafe with hstands | hsole
  · have hconflict := conflicts_of_reset hown.written hown.nulls hs hstands
    obtain ⟨r, hr, hreset, -⟩ := hstands
    have hnone : ∀ values, ¬ Shows draft values := by
      intro values hshows
      rw [Shows, hvalue, if_pos hconflict] at hshows
      cases hshows.2
    exact ⟨fun _ => .inl ⟨r, hcited ▸ hr, by simp [hreset]⟩,
      fun values hshows => absurd hshows (hnone values),
      fun values hshows => absurd hshows (hnone values)⟩
  · obtain ⟨hfree, hmembers⟩ := collected_of_sole hown.one hsole hs
    have hvalues : ∀ values, Shows draft values → values.map bare = soleMember items := by
      intro values hshows
      have hlist := hshows.2
      rw [hvalue, hfree, if_neg Bool.false_ne_true, Option.some.injEq] at hlist
      rw [← hmembers, bareContent_listOf_iff.mp (congrArg bareContent hlist)]
    refine ⟨fun hconflict => ?_, fun values hshows => ?_, fun values hshows m hm hop hlast => ?_⟩
    · rw [hstatus, hfree] at hconflict
      cases hconflict
    · rw [hvalues values hshows]
      exact soleMember_nodup
    · rw [hvalues values hshows]
      intro hmem
      rw [hcited] at hm hlast
      obtain ⟨a, ha, hassign, hbare⟩ := mem_soleMember hmem
      have hkey := canonicalKey_of_bare hbare
      obtain ⟨hartifact, hline⟩ := hsole.before a ha m hm hassign hop hkey
      have hbefore := hlast a ha hassign hkey hartifact.symm
      omega

/-- A safe scope of a single-valued field is decided by canonical values. -/
theorem scalar_canonical (hown : Classified items) (hsafe : ScalarSafe items)
    (hsingle : ¬ Repeats draft) {scope : ScopeRef}
    (h : resolveScalarScope uuid5 auditId deviceId fieldId scope items = .ok draft)
    (hcited : citedFacts classified draft = items) : Canonical classified draft := by
  obtain ⟨winner, conflict, trace, precedence, -, hconflict, -, -, hrun⟩ :=
    resolveScalarScope_spec uuid5 auditId deviceId fieldId scope (scope_ne_nil h) hown.keyed
  rw [hrun] at h
  refine ⟨fun hstatus => ?_, fun values hshows => absurd hshows.1 hsingle,
    fun values hshows => absurd hshows.1 hsingle⟩
  obtain ⟨c, hc, d, hd, hdiffer⟩ := hconflict.mp ((status_scopeDraft h).mp hstatus)
  have hin : ∀ item ∈ deciding items, item ∈ items := fun item hitem => (mem_deciding.mp hitem).1
  rw [hcited]
  rcases hsafe with ⟨a, ha, b, hb, hclaims⟩ | hsame
  · by_cases hassign : a.operation = .assign
    · by_cases hassign' : b.operation = .assign
      · exact .inr ⟨hsingle, a, hin a ha, b, hin b hb,
          fun hkey => hclaims ⟨hassign.trans hassign'.symm, hkey⟩⟩
      · exact .inl ⟨b, hin b hb, hassign'⟩
    · exact .inl ⟨a, hin a ha, hassign⟩
  · rw [hown.one c (hin c hc) d (hin d hd) (hsame c hc d hd)] at hdiffer
    exact absurd ⟨rfl, rfl⟩ hdiffer

/-- Facts that are held back decide nothing. -/
theorem blocked_canonical {blocked : List ClassifiedFact} {drafts : List EffectiveStateDraft}
    (h : resolveBlocked uuid5 auditId deviceId fieldId blocked = .ok drafts) :
    ∀ draft ∈ drafts, Canonical classified draft := by
  intro draft hdraft
  obtain ⟨entry, -, hd⟩ := mapM_exists_input h hdraft
  obtain ⟨id, -, rfl⟩ := makeEffectiveStateDraft_ok uuid5 hd
  refine ⟨fun hstatus => ?_, fun values hshows => ?_, fun values hshows => ?_⟩
  · cases hstatus
  · cases hshows.2
  · cases hshows.2

end Draft

section Run

variable {uuid5 : UUID → String → UUID} {auditId deviceId : UUID} {fieldId : String}
  {classified : List ClassifiedFact} {drafts : List EffectiveStateDraft}

/-- A safe field is decided by canonical values. -/
theorem field_canonical {blockedIds : List UUID}
    (hfacts : FieldFacts fieldId (factsOf classified fieldId))
    (hown : Classified (factsOf classified fieldId))
    (hids : ((factsOf classified fieldId).map (·.fact.factId)).Nodup)
    (hdrafts : ∀ draft ∈ drafts, draft.fieldId = fieldId)
    (hsafe : FieldSafe blockedIds fieldId (factsOf classified fieldId))
    (h : resolveField uuid5 auditId deviceId blockedIds (factsOf classified fieldId) =
      .ok drafts) : ∀ draft ∈ drafts, Canonical classified draft := by
  by_cases hheld : heldItems blockedIds (factsOf classified fieldId) = []
  · by_cases hne : factsOf classified fieldId = []
    · rw [hne] at h
      cases h
      exact List.forall_mem_nil _
    obtain ⟨field, hfield, hscalar, hrepeatable⟩ := resolveField_free hfacts hne h hheld
    obtain ⟨hscalarSafe, hcollectionSafe⟩ := hsafe hheld field hfield
    intro draft hdraft
    cases hrep : field.repeatable with
    | false =>
      obtain ⟨parts, hparts, hruns⟩ := (resolveScalarField_parts hfacts).mp (hscalar hrep)
      obtain ⟨part, hpart, hrun⟩ := mapM_exists_input hruns hdraft
      have hsub := scalarParts_sublist hfacts hparts hpart
      obtain ⟨winner, conflict, -, htrace⟩ := resolveScalarScope_trace hrun
      refine scalar_canonical (hown.subset fun item hitem => hsub.subset hitem)
        (hscalarSafe hrep parts hparts part hpart) ?_ hrun
        (citedFacts_eq hids hsub htrace.field htrace.sources)
      rintro ⟨other, hother, hrep'⟩
      rw [hdrafts draft hdraft, hfield, Option.some.injEq] at hother
      rw [← hother, hrep] at hrep'
      cases hrep'
    | true =>
      obtain ⟨pairsOf, hspells, hrun⟩ := @repeatable_spelled uuid5 auditId deviceId fieldId
        (factsOf classified fieldId) own (hown.own.symm ▸ hown.keyed)
      have hcollections := hrepeatable hrep
      rw [hown.own] at hrun
      rw [hrun] at hcollections
      obtain ⟨key, hkey, hcollection⟩ := mapM_exists_input hcollections hdraft
      obtain ⟨hdraftField, hsources, -, -⟩ :=
        collection_made (scopeFacts_ne_nil hkey) (hspells key) hcollection
      exact collection_canonical (hown.subset (@scopeFacts_subset _ key))
        (hcollectionSafe hrep key hkey) (scopeFacts_ne_nil hkey) (hspells key) hcollection
        (citedFacts_eq hids List.filter_sublist hdraftField hsources)
  · exact blocked_canonical (resolveField_held hfacts h hheld)

/-- A run depends on canonical values only exactly where every scope is safe: the facts that
decide a scope of a single-valued field differ without their spellings or are one fact, and in
a scope of a repeatable field a reset stands, or one fact assigns after all removals of its
member in its artifact. -/
theorem canonical_only_iff (uuid5 : UUID → String → UUID) (auditId deviceId : UUID)
    (facts : List SecurityFact) (operations : UUID → Option FactOperation)
    (classified : List ClassifiedFact) (drafts : List EffectiveStateDraft)
    (hids : (facts.map (·.factId)).Nodup)
    (hstored : ∀ fact ∈ facts, ∃ key, valueKey fact.value = .ok key)
    (hclassified : classifyFacts facts operations = .ok classified)
    (hrun : resolveSecurityFacts uuid5 auditId deviceId facts operations = .ok drafts) :
    CanonicalOnly uuid5 auditId deviceId facts operations classified drafts ↔
      ∀ fieldId, FieldSafe (blockedDependencyIds facts) fieldId
        (factsOf classified fieldId) := by
  constructor
  · intro h fieldId
    exact safe_of_spellingFree hclassified hstored hrun h.free fieldId
  · intro hsafe
    refine ⟨spellingFree_of_safe hclassified hstored hrun hsafe, fun draft hdraft => ?_⟩
    obtain ⟨fieldDrafts, hdistinct, hdrafts, hfilter⟩ := fieldRun hclassified hrun draft.fieldId
    have hmem : draft ∈ fieldDrafts := by
      rw [← mem_sortedBy draftKey, ← hfilter]
      exact List.mem_filter.mpr ⟨hdraft, decide_eq_true rfl⟩
    refine field_canonical (fieldFacts_factsOf (classified_valid hclassified) draft.fieldId) ?_
      (factsOf_ids hids hclassified) hdistinct.field (hsafe draft.fieldId) hdrafts draft hmem
    exact (classified_of hclassified hstored).subset fun item hitem => mem_factsOf hitem

end Run

/-- Lines 0 to 4 allow SSH in words of their own, in an artifact of their own. -/
def spelledFact (id artifact : Nat) (words : String) : SecurityFact :=
  { sshFact id 1 0 4 true with
    value := { type := .boolean, value := .bool true, originalValue := .str words },
    evidenceRefs := [{ lineEvidence 1 with artifactId := UUID.ofNat artifact }] }

/-- A statement at `line` on a time server, in words of its own. -/
def serverFact (id line : Nat) (words : String) : SecurityFact :=
  { sshFact id line 0 4 true with
    fieldId := "time.ntp.server",
    value := { type := .string, value := .str "ntp.example", originalValue := .str words },
    scope := { type := "device", key := "device", attributes := [] } }

/-- An artifact of its own sets the lines back to the default. -/
def resetFact (id artifact : Nat) : SecurityFact :=
  { spelledFact id artifact "" with value := { type := .null, value := .none } }

/-- Two artifacts disagree on SSH, and a time server is removed and then set in other words. -/
def safeFacts : List SecurityFact :=
  [spelledFact 10 5 "input ssh", resetFact 11 6,
    serverFact 12 1 "NTP.example", serverFact 13 2 "ntp.example"]

def safeUuid5 : UUID → String → UUID := UUID.ofTable
  [("00000000-0000-0000-0000-000000000001:management.remote.ssh.enabled:vty_range::vty:0-4",
      0x860917a0f93759ec9d26b57bdc5576a7),
    ("00000000-0000-0000-0000-000000000001:time.ntp.server:device::device",
      0xddbf13ddcbe952c98613e0a57bb99b9a)]

def safeOperations (id : UUID) : Option FactOperation :=
  if id = UUID.ofNat 11 then some .reset
  else if id = UUID.ofNat 12 then some .remove else some .assign

theorem fieldSafe_scalar {blockedIds : List UUID} {fieldId : String} {items : List ClassifiedFact}
    (hfield : ∀ field, fieldRegistry fieldId = some field → field.repeatable = false)
    (hparts : ∀ part ∈ (scalarParts items).toOption.getD [],
      ∃ a ∈ deciding part.2, ∃ b ∈ deciding part.2, a.operation ≠ b.operation) :
    FieldSafe blockedIds fieldId items := by
  intro _ field hregistered
  refine ⟨fun _ parts hok part hpart => ?_, fun hrep => ?_⟩
  · have hmem : part ∈ (scalarParts items).toOption.getD [] := by
      rw [hok]
      exact hpart
    obtain ⟨a, ha, b, hb, hop⟩ := hparts part hmem
    exact .inl ⟨a, ha, b, hb, fun hclaim => hop hclaim.1⟩
  · rw [hfield field hregistered] at hrep
    cases hrep

theorem fieldSafe_repeatable {blockedIds : List UUID} {fieldId : String}
    {items : List ClassifiedFact}
    (hfield : ∀ field, fieldRegistry fieldId = some field → field.repeatable = true)
    (hscopes : ∀ key ∈ scopeKeys items, CollectionSafe (scopeFacts items key)) :
    FieldSafe blockedIds fieldId items := by
  intro _ field hregistered
  refine ⟨fun hrep => ?_, fun _ => hscopes⟩
  rw [hfield field hregistered] at hrep
  cases hrep

/-- A check of the facts as they are classified, field by field, is one of every scope. -/
theorem collectionSafe_of_checked {classified : List ClassifiedFact} {fieldId : String}
    (hids : ((factsOf classified fieldId).map (·.fact.factId)).Nodup)
    (hchecked : ∀ a ∈ classified, a.fact.fieldId = fieldId → a.operation ≠ .reset ∧
      ∀ m ∈ classified, m.fact.fieldId = fieldId → a.operation = .assign →
        (m.operation = .assign → a.fact.factId = m.fact.factId) ∧
        (m.operation = .remove → m.artifactId = a.artifactId ∧ m.sourceLine < a.sourceLine))
    (key : String ×ₗ String) : CollectionSafe (scopeFacts (factsOf classified fieldId) key) := by
  have hin : ∀ item ∈ scopeFacts (factsOf classified fieldId) key,
      item ∈ factsOf classified fieldId ∧ item ∈ classified ∧ item.fact.fieldId = fieldId := by
    intro item hitem
    have hfield := scopeFacts_subset item hitem
    exact ⟨hfield, mem_factsOf hfield, of_decide_eq_true (List.mem_filter.mp hfield).2⟩
  refine .inr ⟨fun r hr => ?_, fun a ha b hb hop hop' => ?_, fun a ha m hm hop hremove _ => ?_⟩
  · obtain ⟨-, hmem, hfield⟩ := hin r hr
    exact (hchecked r hmem hfield).1
  · obtain ⟨hafield, hamem, hfield⟩ := hin a ha
    obtain ⟨hbfield, hbmem, hfield'⟩ := hin b hb
    have hid := ((hchecked a hamem hfield).2 b hbmem hfield' hop).1 hop'
    rw [List.inj_on_of_nodup_map hids hafield hbfield hid]
  · obtain ⟨-, hamem, hfield⟩ := hin a ha
    obtain ⟨-, hmmem, hfield'⟩ := hin m hm
    exact ((hchecked a hamem hfield).2 m hmmem hfield' hop).2 hremove

theorem canonical_only_safe : ∃ classified drafts,
    classifyFacts safeFacts safeOperations = .ok classified ∧
    resolveSecurityFacts safeUuid5 (UUID.ofNat 1) (UUID.ofNat 2) safeFacts safeOperations =
      .ok drafts ∧ drafts.map (·.resolutionStatus) = [.conflicting, .resolved] ∧
    CanonicalOnly safeUuid5 (UUID.ofNat 1) (UUID.ofNat 2) safeFacts safeOperations classified
      drafts := by
  have hstored : ∀ fact ∈ safeFacts, (valueKey fact.value).isOk = true := by decide +kernel
  have hids : (safeFacts.map (·.factId)).Nodup := by decide
  obtain ⟨classified, hclassified, hchecked⟩ := exists_of_toOption
    (x := classifyFacts safeFacts safeOperations)
    (f := fun items => decide (
      (∀ item ∈ items, item.fact.fieldId = "management.remote.ssh.enabled" ∨
        item.fact.fieldId = "time.ntp.server") ∧
      ∀ a ∈ items, a.fact.fieldId = "time.ntp.server" → a.operation ≠ .reset ∧
        ∀ m ∈ items, m.fact.fieldId = "time.ntp.server" → a.operation = .assign →
          (m.operation = .assign → a.fact.factId = m.fact.factId) ∧
          (m.operation = .remove → m.artifactId = a.artifactId ∧ m.sourceLine < a.sourceLine)))
    (b := true) (by decide +kernel)
  have hdisagree : ((classifyFacts safeFacts safeOperations).toOption.map fun items =>
      decide (∀ part ∈ (scalarParts (factsOf items "management.remote.ssh.enabled")).toOption.getD
        [], ∃ a ∈ deciding part.2, ∃ b ∈ deciding part.2, a.operation ≠ b.operation)) =
        some true := by decide +kernel
  obtain ⟨drafts, hrun, hstatus⟩ := exists_of_toOption
    (x := resolveSecurityFacts safeUuid5 (UUID.ofNat 1) (UUID.ofNat 2) safeFacts safeOperations)
    (f := fun drafts => drafts.map (·.resolutionStatus)) (b := [.conflicting, .resolved])
    (by decide +kernel)
  obtain ⟨hfields, hserver⟩ := of_decide_eq_true hchecked
  rw [hclassified] at hdisagree
  have hparts := of_decide_eq_true (Option.some.inj hdisagree)
  refine ⟨classified, drafts, hclassified, hrun, hstatus, (canonical_only_iff safeUuid5 _ _
    safeFacts safeOperations classified drafts hids
    (fun fact hfact => exists_of_isOk (hstored fact hfact)) hclassified hrun).mpr fun fieldId => ?_⟩
  by_cases hnone : factsOf classified fieldId = []
  · rw [hnone]
    exact fieldSafe_nil
  obtain ⟨item, hitem⟩ := List.exists_mem_of_ne_nil _ hnone
  have hown : item.fact.fieldId = fieldId := of_decide_eq_true (List.mem_filter.mp hitem).2
  rcases hfields item (mem_factsOf hitem) with hssh | hntp
  · obtain rfl := hown.symm.trans hssh
    exact fieldSafe_scalar (by decide +kernel) hparts
  · obtain rfl := hown.symm.trans hntp
    exact fieldSafe_repeatable (by decide +kernel) fun key _ =>
      collectionSafe_of_checked (factsOf_ids hids hclassified) hserver key

/-- Two artifacts allow SSH in two spellings. -/
def spelledFacts : List SecurityFact :=
  [spelledFact 10 5 "input ssh", spelledFact 11 6 "input ssh telnet"]

/-- Equal statements conflict for their spelling; without it they are resolved. -/
theorem spelled_apart_conflict :
    (spelledFacts.map (·.factId)).Nodup ∧
    (∀ fact ∈ spelledFacts, ∃ key, valueKey fact.value = .ok key) ∧
    ∃ classified drafts, classifyFacts spelledFacts (fun _ => some .assign) = .ok classified ∧
      resolveSecurityFacts mixedUuid5 (UUID.ofNat 1) (UUID.ofNat 2) spelledFacts
        (fun _ => some .assign) = .ok drafts ∧
      ¬ SpellingFree mixedUuid5 (UUID.ofNat 1) (UUID.ofNat 2) spelledFacts
        (fun _ => some .assign) drafts ∧
      ¬ ∀ draft ∈ drafts, Canonical classified draft := by
  have hstored : ∀ fact ∈ spelledFacts, (valueKey fact.value).isOk = true := by decide +kernel
  obtain ⟨classified, hclassified, hclaims⟩ := exists_of_toOption
    (x := classifyFacts spelledFacts fun _ => some .assign)
    (f := fun items => decide (∀ a ∈ items, a.operation = .assign ∧
      ∀ b ∈ items, canonicalKey a.value = canonicalKey b.value)) (b := true) (by decide +kernel)
  obtain ⟨drafts, hrun, hstatus⟩ := exists_of_toOption
    (x := resolveSecurityFacts mixedUuid5 (UUID.ofNat 1) (UUID.ofNat 2) spelledFacts
      fun _ => some .assign)
    (f := fun drafts => drafts.map (·.resolutionStatus)) (b := [.conflicting]) (by decide +kernel)
  obtain ⟨alike, halike, hresolved⟩ := exists_of_toOption
    (x := resolveSecurityFacts mixedUuid5 (UUID.ofNat 1) (UUID.ofNat 2)
      (spelledFacts.map (respell fun _ => tag 0)) fun _ => some .assign)
    (f := fun drafts => drafts.map (·.resolutionStatus)) (b := [.resolved]) (by decide +kernel)
  refine ⟨by decide, fun fact hfact => exists_of_isOk (hstored fact hfact), classified, drafts,
    hclassified, hrun, fun hfree => ?_, fun hcanonical => ?_⟩
  · have hkeys : ∀ fact ∈ spelledFacts,
        (valueKey (respell (fun _ => tag 0) fact).value).isOk = true := by decide +kernel
    obtain ⟨drafts', hrun', hcontents⟩ :=
      hfree (fun _ => tag 0) fun fact hfact => exists_of_isOk (hkeys fact hfact)
    rw [halike, Except.ok.injEq] at hrun'
    subst hrun'
    have hsame := congrArg (List.map Content.status) hcontents
    rw [List.map_map, List.map_map] at hsame
    exact absurd ((hresolved.symm.trans hsame).trans hstatus) (by decide)
  · obtain ⟨draft, rfl⟩ := List.length_eq_one_iff.mp ((List.length_map _).symm.trans
      (congrArg List.length hstatus))
    have hclaims := of_decide_eq_true hclaims
    have hin : ∀ item ∈ citedFacts classified draft, item ∈ classified :=
      fun item hitem => mem_factsOf (List.mem_filter.mp hitem).1
    rcases (hcanonical draft List.mem_cons_self).agree (List.cons.inj hstatus).1 with
      ⟨a, ha, hop⟩ | ⟨-, a, ha, b, hb, hkey⟩
    · exact hop (hclaims a (hin a ha)).1
    · exact hkey ((hclaims a (hin a ha)).2 b (hin b hb))

end ConfigAuditor.EffectiveState.CanonicalValues
