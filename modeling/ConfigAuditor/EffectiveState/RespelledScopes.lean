import ConfigAuditor.EffectiveState.Respelling

/-!
# Scopes under another spelling

The claims of the facts that decide a scope are compared by keys that hold the spelling. A scope
of a scalar field is safe when its deciding facts differ without their spellings, or are one fact.
-/
namespace ConfigAuditor.EffectiveState.RespelledScopes

open Library SecurityModel Policy Model Resolver Resolved Groups Winner Spelling Respelling

section Drafts

variable {uuid5 : UUID → String → UUID}

theorem deterministicId_congr {auditId id : UUID} {fieldId : String} {scope scope' : ScopeRef}
    (hkey : scopeKeyOf scope' = scopeKeyOf scope) (hvalid : validateScope scope' = .ok ())
    (h : deterministicEffectiveStateId uuid5 auditId fieldId scope = .ok id) :
    deterministicEffectiveStateId uuid5 auditId fieldId scope' = .ok id := by
  obtain ⟨htype, hkey⟩ := scopeKeyOf_eq.mp hkey
  simp only [deterministicEffectiveStateId, canonicalScopeKey, except_bind_eq_ok,
    except_pure_eq_ok] at h ⊢
  obtain ⟨_, hraise, _, ⟨_, -, rfl⟩, rfl⟩ := h
  exact ⟨(), hraise, _, ⟨(), hvalid, rfl⟩, by rw [htype, hkey]⟩

/-- The value check asks for the canonical content and the type and key of the scope. -/
theorem validateFieldValueScope_spell {fieldId : String} {original : Original} {value : TypedValue}
    {scope scope' : ScopeRef} (hkey : scopeKeyOf scope' = scopeKeyOf scope)
    {field : CanonicalField} (h : validateFieldValueScope fieldId value scope = .ok field) :
    validateFieldValueScope fieldId (spell original value) scope' = .ok field := by
  obtain ⟨htype, hkey⟩ := scopeKeyOf_eq.mp hkey
  rw [validateFieldValueScope_eq_ok] at h ⊢
  rw [spell_type, spell_value, htype, hkey]
  exact h

/-- The identity of a draft is none of its content. -/
theorem content_made {draft made : EffectiveStateDraft}
    (h : makeEffectiveStateDraft uuid5 draft = .ok made) : content made = content draft := by
  obtain ⟨id, -, rfl⟩ := makeEffectiveStateDraft_ok uuid5 h
  rfl

/-- What a valid draft has, without its identity. -/
structure DraftChecks (draft : EffectiveStateDraft) : Prop where
  identity : (draft.auditId.int == 0 || draft.deviceId.int == 0 ||
    (Text.strip draft.fieldId).isEmpty) = false
  scope : validateScope draft.scope = .ok ()
  value : ∀ value, draft.effectiveValue = some value →
    validateEffectiveValue draft.fieldId value draft.scope = .ok ()
  sources : (decide (¬ draft.sourceFactIds.Nodup) ||
    draft.sourceFactIds.any (·.int == 0)) = false
  status : statusConsistent draft = .ok ()
  version : (Text.strip draft.schemaVersion).isEmpty = false
  trace : validateJsonCollection draft.resolutionTrace = .ok ()
  precedence : validateJsonCollection draft.precedenceApplied = .ok ()

theorem validateDraft_eq_ok {draft : EffectiveStateDraft} {u : Unit} :
    validateEffectiveStateDraft uuid5 draft = .ok u ↔
      deterministicEffectiveStateId uuid5 draft.auditId draft.fieldId draft.scope =
        .ok draft.effectiveStateId ∧ DraftChecks draft := by
  unfold validateEffectiveStateDraft
  cases hvalue : draft.effectiveValue with
  | none =>
    simp only [except_bind_eq_ok, raiseIf_eq_ok, bne_eq_false_iff_eq]
    constructor
    · rintro ⟨_, hidentity, id, hid, _, hsame, _, hscope, _, -, _, hsources, _, hstatus, _,
        hversion, _, htrace, hprecedence⟩
      exact ⟨hsame ▸ hid, hidentity, hscope, by simp [hvalue], hsources, hstatus, hversion, htrace,
        hprecedence⟩
    · rintro ⟨hid, h⟩
      exact ⟨(), h.identity, _, hid, (), rfl, (), h.scope, (), trivial, (), h.sources, (), h.status,
        (), h.version, (), h.trace, h.precedence⟩
  | some value =>
    simp only [except_bind_eq_ok, raiseIf_eq_ok, bne_eq_false_iff_eq]
    constructor
    · rintro ⟨_, hidentity, id, hid, _, hsame, _, hscope, _, hchecked, _, hsources, _, hstatus, _,
        hversion, _, htrace, hprecedence⟩
      refine ⟨hsame ▸ hid, hidentity, hscope, ?_, hsources, hstatus, hversion, htrace, hprecedence⟩
      intro other hother
      rw [hvalue, Option.some.injEq] at hother
      exact hother ▸ hchecked
    · rintro ⟨hid, h⟩
      exact ⟨(), h.identity, _, hid, (), rfl, (), h.scope, (), h.value value hvalue, (), h.sources,
        (), h.status, (), h.version, (), h.trace, h.precedence⟩

/-- A draft of the same scope and sources that says the same is made like the first. -/
theorem makeDraft_transfer {draft draft' made : EffectiveStateDraft}
    (h : makeEffectiveStateDraft uuid5 draft = .ok made)
    (hplace : draft'.auditId = draft.auditId ∧ draft'.deviceId = draft.deviceId ∧
      draft'.fieldId = draft.fieldId ∧ draft'.sourceFactIds = draft.sourceFactIds ∧
      draft'.schemaVersion = draft.schemaVersion)
    (hkey : scopeKeyOf draft'.scope = scopeKeyOf draft.scope)
    (hvalid : validateScope draft'.scope = .ok ())
    (hstatus : draft'.resolutionStatus = draft.resolutionStatus ∧
      draft'.unresolvedReason = draft.unresolvedReason ∧
      draft'.effectiveValue.isSome = draft.effectiveValue.isSome)
    (hvalue : ∀ value', draft'.effectiveValue = some value' → ∀ value,
      draft.effectiveValue = some value →
      validateEffectiveValue draft.fieldId value draft.scope = .ok () →
      validateEffectiveValue draft.fieldId value' draft'.scope = .ok ())
    (htrace : Encodable draft'.resolutionTrace) (hprecedence : Encodable draft'.precedenceApplied) :
    ∃ made', makeEffectiveStateDraft uuid5 draft' = .ok made' ∧ content made' = content draft' := by
  obtain ⟨haudit, hdevice, hfield, hsources, hschema⟩ := hplace
  obtain ⟨hresolution, hreason, hsome⟩ := hstatus
  simp only [makeEffectiveStateDraft, except_bind_eq_ok, except_pure_eq_ok,
    validateDraft_eq_ok] at h ⊢
  obtain ⟨id, hid, _, ⟨-, hchecks⟩, -⟩ := h
  have hid' : deterministicEffectiveStateId uuid5 draft'.auditId draft'.fieldId draft'.scope =
      .ok id := by
    rw [haudit, hfield]
    exact deterministicId_congr hkey hvalid hid
  refine ⟨_, ⟨id, hid', (), ⟨hid', ?_⟩, rfl⟩, rfl⟩
  refine ⟨?_, hvalid, ?_, ?_, ?_, ?_, validateJsonCollection_texts htrace,
    validateJsonCollection_texts hprecedence⟩
  · simpa only [haudit, hdevice, hfield] using hchecks.identity
  · intro value' hvalue'
    obtain ⟨value, hv⟩ : ∃ value, draft.effectiveValue = some value := by
      rw [← Option.isSome_iff_exists, ← hsome]
      exact Option.isSome_iff_exists.mpr ⟨value', hvalue'⟩
    simpa only [hfield] using hvalue value' hvalue' value hv (hchecks.value value hv)
  · simpa only [hsources] using hchecks.sources
  · have hnone : draft'.effectiveValue.isNone = draft.effectiveValue.isNone := by
      rw [← Option.not_isSome, ← Option.not_isSome, hsome]
    have hconsistent := hchecks.status
    simp only [statusConsistent, hresolution, hreason, hsome, hnone] at hconsistent ⊢
    exact hconsistent
  · simpa only [hschema] using hchecks.version

end Drafts

/-- Two facts make the same claim, their spellings aside. -/
def SameClaim (a b : ClassifiedFact) : Prop :=
  a.operation = b.operation ∧ canonicalKey a.value = canonicalKey b.value

/-- The facts that decide differ in what they claim, or they are one fact. -/
def ScalarSafe (items : List ClassifiedFact) : Prop :=
  (∃ a ∈ deciding items, ∃ b ∈ deciding items, ¬ SameClaim a b) ∨
    ∀ a ∈ deciding items, ∀ b ∈ deciding items, a.fact = b.fact

/-- A fact is classified in one way. -/
def OneEach (items : List ClassifiedFact) : Prop :=
  ∀ a ∈ items, ∀ b ∈ items, a.fact = b.fact → a = b

/-- The canonical contents can be written. -/
def Written (items : List ClassifiedFact) : Prop :=
  ∀ item ∈ items, ∃ text, PyValue.encode true item.value.value = .ok text

section Scalar

variable {uuid5 : UUID → String → UUID} {auditId deviceId : UUID} {fieldId : String}
  {scope : ScopeRef} {items : List ClassifiedFact} {originals : SecurityFact → Original}
  {draft : EffectiveStateDraft}

theorem deciding_respell : deciding (items.map (respellItem originals)) =
    (deciding items).map (respellItem originals) :=
  @deciding_map (respellItem originals) (fun _ => ⟨rfl, rfl⟩) items

/-- Facts that agree under a spelling make the same claim. -/
theorem sameClaim_of_agree {a b : ClassifiedFact}
    (hkeys : Keyed [respellItem originals a, respellItem originals b])
    (h : Agree (respellItem originals a) (respellItem originals b)) : SameClaim a b := by
  obtain ⟨key, hkey⟩ := hkeys _ List.mem_cons_self
  exact ⟨h.1, (valueKey_congr hkey (h.2.symm.trans hkey)).2⟩

theorem written_of_keyed (hkeys : Keyed items) : Written items := by
  intro item hitem
  obtain ⟨key, hkey⟩ := hkeys item hitem
  obtain ⟨_, text, -, htext, -⟩ := valueKey_ok.mp hkey
  exact ⟨text, htext⟩

theorem keyed_respell (hwritten : Written items)
    (horiginals : ∀ item ∈ items, ∃ original,
      PyValue.encode true (originals item.fact).value = .ok original) :
    Keyed (items.map (respellItem originals)) := by
  intro item hitem
  obtain ⟨own, hown, rfl⟩ := List.mem_map.mp hitem
  obtain ⟨text, htext⟩ := hwritten own hown
  obtain ⟨original, horiginal⟩ := horiginals own hown
  refine ⟨String.ofList (keyText (spell (originals own.fact) own.value) original text),
    valueKey_ok.mpr ⟨original, text, horiginal, htext, by simp [respellItem]⟩⟩

/-- The same facts decide, so the winner is another spelling of a deciding fact. -/
theorem scalarScope_respell (hne : items ≠ []) (hkeys : Keyed (items.map (respellItem originals))) :
    ∃ winner conflict trace precedence, winner ∈ deciding items ∧
      (conflict = true ↔ ∃ a ∈ deciding items, ∃ b ∈ deciding items,
        ¬ Agree (respellItem originals a) (respellItem originals b)) ∧
      Encodable trace ∧ Encodable precedence ∧
      resolveScalarScope uuid5 auditId deviceId fieldId scope (items.map (respellItem originals)) =
        makeEffectiveStateDraft uuid5 (scopeDraft auditId deviceId fieldId scope
          (items.map (respellItem originals)) (respellItem originals winner) conflict trace
          precedence) := by
  have hne' : items.map (respellItem originals) ≠ [] := by simpa using hne
  obtain ⟨winner, conflict, trace, precedence, hmem, hconflict, htrace, hprecedence, hrun⟩ :=
    resolveScalarScope_spec uuid5 auditId deviceId fieldId scope hne' hkeys
  rw [deciding_respell] at hmem hconflict
  obtain ⟨own, hown, rfl⟩ := List.mem_map.mp hmem
  refine ⟨own, conflict, trace, precedence, hown, ?_, htrace, hprecedence, hrun⟩
  simpa only [List.mem_map, exists_exists_and_eq_and] using hconflict

theorem status_scopeDraft {winner : ClassifiedFact} {conflict : Bool} {trace precedence : List PyValue}
    {made : EffectiveStateDraft}
    (h : makeEffectiveStateDraft uuid5 (scopeDraft auditId deviceId fieldId scope items winner
      conflict trace precedence) = .ok made) :
    made.resolutionStatus = .conflicting ↔ conflict = true := by
  obtain ⟨id, -, rfl⟩ := makeEffectiveStateDraft_ok uuid5 h
  cases conflict with
  | true => simp [scopeDraft, scopeStatus]
  | false => cases hop : winner.operation <;> simp [scopeDraft, scopeStatus, hop]

theorem content_scopeDraft {winner : ClassifiedFact} {conflict : Bool}
    {trace precedence trace' precedence' : List PyValue} :
    content (scopeDraft auditId deviceId fieldId scope (items.map (respellItem originals))
        (respellItem originals winner) conflict trace' precedence') =
      content (scopeDraft auditId deviceId fieldId scope items winner conflict trace precedence) := by
  have hvalue : (scopeValue (respellItem originals winner) conflict).map bareContent =
      (scopeValue winner conflict).map bareContent := by
    have hoperation : (respellItem originals winner).operation = winner.operation := rfl
    unfold scopeValue
    rw [hoperation]
    cases conflict with
    | true => rfl
    | false => cases winner.operation <;> rfl
  simp only [content, scopeDraft, hvalue]
  rfl

/-- The same decision gives the same draft. -/
theorem makeDraft_scope {winner : ClassifiedFact} {conflict : Bool}
    {trace precedence trace' precedence' : List PyValue}
    (hvalid : validateScope scope = .ok ()) (htrace : Encodable trace')
    (hprecedence : Encodable precedence')
    (h : makeEffectiveStateDraft uuid5 (scopeDraft auditId deviceId fieldId scope items winner
      conflict trace precedence) = .ok draft) :
    ∃ draft', makeEffectiveStateDraft uuid5 (scopeDraft auditId deviceId fieldId scope
        (items.map (respellItem originals)) (respellItem originals winner) conflict trace'
        precedence') = .ok draft' ∧ content draft' = content draft := by
  have hcontent : content draft = content (scopeDraft auditId deviceId fieldId scope
      (items.map (respellItem originals)) (respellItem originals winner) conflict trace'
      precedence') := (content_made h).trans content_scopeDraft.symm
  rw [hcontent]
  refine makeDraft_transfer h ⟨rfl, rfl, rfl, sourceIds_respell, rfl⟩ rfl hvalid ?_ ?_ htrace
    hprecedence
  · cases conflict with
    | true => exact ⟨rfl, rfl, rfl⟩
    | false => cases hop : winner.operation <;>
        simp [scopeDraft, scopeStatus, scopeReason, scopeValue, respellItem, hop]
  · intro value' hvalue' value hvalue hchecked
    cases conflict with
    | true => cases hvalue
    | false =>
      cases hop : winner.operation with
      | assign =>
        simp only [scopeDraft, scopeValue, respellItem, hop, Bool.false_eq_true, if_false,
          Option.some.injEq] at hvalue hvalue'
        subst hvalue hvalue'
        exact hchecked
      | _ => simp [scopeDraft, scopeValue, hop] at hvalue

/-- A safe scope says the same under every spelling. -/
theorem scalarScope_safe (hne : items ≠ []) (hvalid : validateScope scope = .ok ())
    (hone : OneEach items) (hkeys : Keyed items)
    (hkeys' : Keyed (items.map (respellItem originals))) (hsafe : ScalarSafe items)
    (h : resolveScalarScope uuid5 auditId deviceId fieldId scope items = .ok draft) :
    ∃ draft', resolveScalarScope uuid5 auditId deviceId fieldId scope
      (items.map (respellItem originals)) = .ok draft' ∧ content draft' = content draft := by
  obtain ⟨winner, conflict, trace, precedence, hwinner, hconflict, -, -, hrun⟩ :=
    resolveScalarScope_spec uuid5 auditId deviceId fieldId scope hne hkeys
  obtain ⟨winner', conflict', trace', precedence', hwinner', hconflict', htrace', hprecedence',
    hrun'⟩ := @scalarScope_respell uuid5 auditId deviceId fieldId scope items originals hne hkeys'
  rw [hrun']
  rw [hrun] at h
  have hin : ∀ item ∈ deciding items, item ∈ items := fun item hitem => (mem_deciding.mp hitem).1
  obtain ⟨a, ha, b, hb, hdiffer⟩ | hsame := hsafe
  · -- two deciding facts differ under every spelling
    have htrue : conflict = true := by
      refine hconflict.mpr ⟨a, ha, b, hb, fun hagree => hdiffer ⟨hagree.1, ?_⟩⟩
      obtain ⟨key, hkey⟩ := hkeys a (hin a ha)
      exact (valueKey_congr hkey (hagree.2.symm.trans hkey)).2
    have htrue' : conflict' = true := by
      refine hconflict'.mpr ⟨a, ha, b, hb, fun hagree => hdiffer (sameClaim_of_agree ?_ hagree)⟩
      intro item hitem
      apply hkeys'
      simp only [List.mem_cons, List.not_mem_nil, or_false] at hitem
      rcases hitem with rfl | rfl
      · exact List.mem_map_of_mem (hin a ha)
      · exact List.mem_map_of_mem (hin b hb)
    subst htrue htrue'
    have hany : scopeDraft auditId deviceId fieldId scope (items.map (respellItem originals))
        (respellItem originals winner') true trace' precedence' =
        scopeDraft auditId deviceId fieldId scope (items.map (respellItem originals))
        (respellItem originals winner) true trace' precedence' := rfl
    rw [hany]
    exact makeDraft_scope hvalid htrace' hprecedence' h
  · -- one fact decides
    have hall : ∀ item ∈ deciding items, item = winner := fun item hitem =>
      hone item (hin item hitem) winner (hin winner hwinner) (hsame item hitem winner hwinner)
    have hfalse : conflict = false := by
      rw [Bool.eq_false_iff]
      intro htrue
      obtain ⟨a, ha, b, hb, hdiffer⟩ := hconflict.mp htrue
      rw [hall a ha, hall b hb] at hdiffer
      exact hdiffer ⟨rfl, rfl⟩
    have hfalse' : conflict' = false := by
      rw [Bool.eq_false_iff]
      intro htrue
      obtain ⟨a, ha, b, hb, hdiffer⟩ := hconflict'.mp htrue
      rw [hall a ha, hall b hb] at hdiffer
      exact hdiffer ⟨rfl, rfl⟩
    rw [hall winner' hwinner']
    subst hfalse hfalse'
    exact makeDraft_scope hvalid htrace' hprecedence' h

/-- An unsafe scope says something else under some spelling. -/
theorem scalarScope_broken (hne : items ≠ []) (hkeys : Keyed items) (hbroken : ¬ ScalarSafe items)
    (draft : EffectiveStateDraft) :
    ∃ number : SecurityFact → Nat, ∀ draft', resolveScalarScope uuid5 auditId deviceId fieldId scope
      (items.map (respellItem fun fact => tag (number fact))) = .ok draft' →
      content draft' ≠ content draft := by
  have hwritten := written_of_keyed hkeys
  simp only [ScalarSafe, not_or, not_exists, not_and, not_not, not_forall] at hbroken
  obtain ⟨hsame, a, ha, b, hb, hne'⟩ := hbroken
  have hin : ∀ item ∈ deciding items, item ∈ items := fun item hitem => (mem_deciding.mp hitem).1
  have hkeys' (number : SecurityFact → Nat) :
      Keyed (items.map (respellItem fun fact => tag (number fact))) :=
    keyed_respell hwritten fun _ _ => ⟨_, rfl⟩
  by_cases hstatus : draft.resolutionStatus = .conflicting
  · -- all facts are spelled alike
    refine ⟨fun _ => 0, fun draft' h hcontent => ?_⟩
    obtain ⟨winner, conflict, trace, precedence, -, hconflict, -, -, hrun⟩ :=
      @scalarScope_respell uuid5 auditId deviceId fieldId scope _ _ hne (hkeys' fun _ => 0)
    rw [hrun] at h
    have htrue := (status_scopeDraft h).mp ((congrArg Content.status hcontent).trans hstatus)
    obtain ⟨c, hc, d, hd, hdiffer⟩ := hconflict.mp htrue
    obtain ⟨text, htext⟩ := hwritten c (hin c hc)
    obtain ⟨text', htext'⟩ := hwritten d (hin d hd)
    obtain ⟨hoperation, hkey⟩ := hsame c hc d hd
    exact hdiffer ⟨hoperation, (valueKey_tag_iff htext htext').mpr ⟨rfl, hkey⟩⟩
  · -- the two facts are spelled apart
    refine ⟨fun fact => if fact = a.fact then 0 else 1, fun draft' h hcontent => ?_⟩
    obtain ⟨winner, conflict, trace, precedence, -, hconflict, -, -, hrun⟩ :=
      @scalarScope_respell uuid5 auditId deviceId fieldId scope _ _ hne
        (hkeys' fun fact => if fact = a.fact then 0 else 1)
    rw [hrun] at h
    have htrue : conflict = true := by
      refine hconflict.mpr ⟨a, ha, b, hb, fun hagree => ?_⟩
      obtain ⟨text, htext⟩ := hwritten a (hin a ha)
      obtain ⟨text', htext'⟩ := hwritten b (hin b hb)
      have htag := ((valueKey_tag_iff htext htext').mp hagree.2).1
      rw [if_pos rfl, if_neg (Ne.symm hne')] at htag
      cases htag
    exact hstatus ((congrArg Content.status hcontent).symm.trans ((status_scopeDraft h).mpr htrue))

end Scalar

end ConfigAuditor.EffectiveState.RespelledScopes
