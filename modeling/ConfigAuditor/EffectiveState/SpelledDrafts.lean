import ConfigAuditor.EffectiveState.RespelledCollections

/-!
# Two spellings of a collection

The facts of one scope of a repeatable field, spelled in two ways. Where the scope is safe
every two spellings show the same collection; where it is not, some two do not.
-/
namespace ConfigAuditor.EffectiveState.SpelledDrafts

open Library SecurityModel Policy Model Resolver Resolved Groups Winner Spelling Respelling
  RespelledScopes RespelledCollections

/-- Both spellings are in conflict, or they show the same members in the same order. -/
def Alike (pairs pairs' : List (String × ClassifiedFact)) : Prop :=
  conflicts pairs' = conflicts pairs ∧
    (conflicts pairs = false → (collected pairs').map bare = (collected pairs).map bare)

section Alike

variable {pairs pairs' pairs'' : List (String × ClassifiedFact)}

theorem Alike.symm (h : Alike pairs pairs') : Alike pairs' pairs := by
  refine ⟨h.1.symm, fun hfree => ?_⟩
  rw [h.1] at hfree
  exact (h.2 hfree).symm

theorem Alike.trans (h : Alike pairs pairs') (h' : Alike pairs' pairs'') : Alike pairs pairs'' := by
  refine ⟨h'.1.trans h.1, fun hfree => ?_⟩
  have hfree' : conflicts pairs' = false := h.1.trans hfree
  exact (h'.2 hfree').trans (h.2 hfree)

end Alike

section Content

theorem optionText_inj {unit unit' : Option String} (h : optionText unit = optionText unit') :
    unit = unit' := by
  cases unit <;> cases unit' <;> simp_all [optionText]

theorem bareMember_toDict (value : TypedValue) : bareMember value.toDict =
    .dict [("type", .str value.type.text), ("value", value.value),
      ("unit", optionText value.unit)] := by
  simp [bareMember, TypedValue.toDict]

theorem bare_eq_iff {value other : TypedValue} : bare value = bare other ↔
    value.type = other.type ∧ value.value = other.value ∧ value.unit = other.unit := by
  simp [bare, spell]

/-- A stored member without its spelling is the canonical content of the value. -/
theorem bareMember_eq_iff {value other : TypedValue} :
    bareMember value.toDict = bareMember other.toDict ↔ bare value = bare other := by
  rw [bareMember_toDict, bareMember_toDict]
  constructor
  · intro h
    simp only [PyValue.dict.injEq, List.cons.injEq, Prod.mk.injEq, true_and, and_true,
      PyValue.str.injEq] at h
    obtain ⟨htype, hvalue, hunit⟩ := h
    have hread := congrArg TypedValueType.ofText? htype
    rw [TypedValueType.ofText?_text, TypedValueType.ofText?_text, Option.some.injEq] at hread
    exact bare_eq_iff.mpr ⟨hread, hvalue, optionText_inj hunit⟩
  · intro h
    obtain ⟨htype, hvalue, hunit⟩ := bare_eq_iff.mp h
    rw [htype, hvalue, hunit]

theorem map_eq_iff {α β γ : Type} {f : α → β} {g : α → γ} (h : ∀ a b, f a = f b ↔ g a = g b)
    {xs ys : List α} : xs.map f = ys.map f ↔ xs.map g = ys.map g := by
  rw [← List.forall₂_eq_eq_eq, ← List.forall₂_eq_eq_eq]
  simp only [List.forall₂_map_left_iff, List.forall₂_map_right_iff, h]

/-- The canonical contents of two lists are those of their members. -/
theorem bareContent_listOf_iff {values others : List TypedValue} :
    bareContent (listOf values) = bareContent (listOf others) ↔
      values.map bare = others.map bare := by
  have hlist : ∀ values : List TypedValue, bareContent (listOf values) =
      { type := .list, value := .list (values.map fun value => bareMember value.toDict) } := by
    intro values
    simp [bareContent, listOf, bareMembers, bare, spell, Function.comp_def]
  rw [hlist, hlist, ← map_eq_iff fun _ _ => bareMember_eq_iff]
  simp

end Content

section Drafts

variable {uuid5 : UUID → String → UUID} {auditId deviceId : UUID} {fieldId : String}
  {items : List ClassifiedFact} {originals originals' : SecurityFact → Original}
  {pairs pairs' : List (String × ClassifiedFact)} {draft draft' : EffectiveStateDraft}

/-- A collection shows its scope, and its members unless they are in conflict. -/
theorem content_collection {scope : ScopeRef} {trace : List PyValue} :
    content (collectionDraft auditId deviceId fieldId scope items (memberGroups pairs) trace) =
      { fieldId, scopeKey := scopeKeyOf scope,
        status := if conflicts pairs then .conflicting else .resolved,
        value := if conflicts pairs then none else some (bareContent (listOf (collected pairs))) } := by
  cases hconflict : conflicts pairs with
  | true =>
    have hany : ((memberGroups pairs).any fun group => (memberValues group.2).isNone) = true :=
      hconflict
    simp [content, collectionDraft, hany]
  | false =>
    have hany : ((memberGroups pairs).any fun group => (memberValues group.2).isNone) = false :=
      hconflict
    simp [content, collectionDraft, hany, collected]

theorem sourceIds_perm {items items' : List ClassifiedFact}
    (h : (items.map (·.fact.factId)).Perm (items'.map (·.fact.factId))) :
    sourceIds items = sourceIds items' := by
  rw [sourceIds, sourceIds]
  exact sortedBy_eq_of_perm h.dedup fun a _ b _ hab => UUID.int_injective hab

theorem sourceIds_spelled (hs : Spells items originals pairs) :
    sourceIds (pairs.map (·.2)) = sourceIds items := by
  rw [← @sourceIds_respell items originals]
  exact sourceIds_perm (hs.facts.map _)

/-- A spelled scope gives a draft for the scope of one of its facts. -/
theorem collection_spelled (hne : items ≠ []) (hs : Spells items originals pairs) :
    ∃ item ∈ items, ∃ trace, Encodable trace ∧
      resolveCollection uuid5 auditId deviceId fieldId pairs =
        makeEffectiveStateDraft uuid5 (collectionDraft auditId deviceId fieldId item.scope
          (pairs.map (·.2)) (memberGroups pairs) trace) := by
  cases pairs with
  | nil =>
    have hnil := hs.facts.symm.eq_nil
    exact absurd (List.map_eq_nil_iff.mp hnil) hne
  | cons pair rest =>
    obtain ⟨key, head⟩ := pair
    obtain ⟨item, hitem, rfl⟩ := hs.mem_iff.mp (List.mem_cons_self)
    obtain ⟨trace, htrace, hrun⟩ := resolveCollection_spec uuid5 auditId deviceId fieldId hs.keys
    exact ⟨item, hitem, trace, htrace, hrun⟩

theorem validateEffectiveValue_members {values : List TypedValue} {scope : ScopeRef}
    (h : ∀ value ∈ values, ∃ field, validateFieldValueScope fieldId value scope = .ok field) :
    validateEffectiveValue fieldId (listOf values) scope = .ok () := by
  simp only [validateEffectiveValue, listOf, if_true, PyValue.iterate, except_bind_eq_ok,
    liftM_eq_ok, Except.ok.injEq, exists_eq_left']
  refine forM_eq_ok.mpr fun item hitem => ?_
  obtain ⟨value, hvalue, rfl⟩ := List.mem_map.mp hitem
  obtain ⟨field, hfield⟩ := h value hvalue
  simp only [typedValueFromDict_toDict, except_bind_eq_ok, Except.ok.injEq, exists_eq_left', hfield]

/-- Spellings that show the same collection give the same draft. -/
theorem collection_safe (hne : items ≠ [])
    (hvalid : ∀ item ∈ items, validateScope item.scope = .ok ())
    (hscope : ∀ a ∈ items, ∀ b ∈ items, scopeKeyOf a.scope = scopeKeyOf b.scope)
    (hs : Spells items originals pairs) (hs' : Spells items originals' pairs')
    (halike : Alike pairs pairs')
    (h : resolveCollection uuid5 auditId deviceId fieldId pairs = .ok draft) :
    ∃ draft', resolveCollection uuid5 auditId deviceId fieldId pairs' = .ok draft' ∧
      content draft' = content draft := by
  obtain ⟨item, hitem, trace, -, hrun⟩ :=
    @collection_spelled uuid5 auditId deviceId fieldId _ _ _ hne hs
  obtain ⟨item', hitem', trace', htrace', hrun'⟩ :=
    @collection_spelled uuid5 auditId deviceId fieldId _ _ _ hne hs'
  rw [hrun] at h
  rw [hrun', content_made h, content_collection]
  have hkey := hscope item' hitem' item hitem
  obtain ⟨hconflict, hvalues⟩ := halike
  have hany' : ((memberGroups pairs').any fun group => (memberValues group.2).isNone) =
      (memberGroups pairs).any fun group => (memberValues group.2).isNone := hconflict
  have hsources : sourceIds (pairs'.map (·.2)) = sourceIds (pairs.map (·.2)) :=
    (sourceIds_spelled hs').trans (sourceIds_spelled hs).symm
  refine (@makeDraft_transfer uuid5 _ (collectionDraft auditId deviceId fieldId item'.scope
    (pairs'.map Prod.snd) (memberGroups pairs') trace') _ h ⟨rfl, rfl, rfl, hsources, rfl⟩ hkey
    (hvalid item' hitem') ?_ ?_ htrace' (fun _ hnone => by cases hnone)).imp
    fun made' hmade' => ⟨hmade'.1, ?_⟩
  · simp only [collectionDraft, hany']
    refine ⟨trivial, trivial, ?_⟩
    cases (memberGroups pairs).any fun group => (memberValues group.2).isNone <;> rfl
  · intro value' hvalue' value hvalue hchecked
    simp only [collectionDraft] at hvalue hvalue'
    cases hfree : conflicts pairs with
    | true =>
      have hany : ((memberGroups pairs).any fun group => (memberValues group.2).isNone) = true :=
        hfree
      simp [hany] at hvalue
    | false =>
      have hany : ((memberGroups pairs).any fun group => (memberValues group.2).isNone) = false :=
        hfree
      rw [hany'] at hvalue'
      simp only [hany, Bool.false_eq_true, if_false, Option.some.injEq] at hvalue hvalue'
      subst hvalue hvalue'
      refine validateEffectiveValue_members fun member' hmember' => ?_
      -- the member is another spelling of one that was checked
      have hin : bare member' ∈ (collected pairs).map bare :=
        hvalues hfree ▸ List.mem_map_of_mem hmember'
      obtain ⟨member, hmember, hbare⟩ := List.mem_map.mp hin
      obtain ⟨field, hfield⟩ := validateEffectiveValue_list hchecked member hmember
      have hspelled : member' =
          spell ⟨member'.originalValue, member'.originalUnit⟩ member := by
        obtain ⟨htype, hval, hunit⟩ := bare_eq_iff.mp hbare
        simp only [spell, htype, hval, hunit]
      rw [hspelled]
      exact ⟨field, validateFieldValueScope_spell hkey hfield⟩
  · rw [hmade'.2, content_collection, hkey, hconflict]
    cases hfree : conflicts pairs with
    | true => rfl
    | false =>
      have hsame := bareContent_listOf_iff.mpr (hvalues hfree)
      simp only [Bool.false_eq_true, if_false, hsame]

/-- Spellings that give the same draft show the same collection. -/
theorem alike_of_content (hne : items ≠ []) (hs : Spells items originals pairs)
    (hs' : Spells items originals' pairs')
    (h : resolveCollection uuid5 auditId deviceId fieldId pairs = .ok draft)
    (h' : resolveCollection uuid5 auditId deviceId fieldId pairs' = .ok draft')
    (hcontent : content draft' = content draft) : Alike pairs pairs' := by
  obtain ⟨item, -, trace, -, hrun⟩ :=
    @collection_spelled uuid5 auditId deviceId fieldId _ _ _ hne hs
  obtain ⟨item', -, trace', -, hrun'⟩ :=
    @collection_spelled uuid5 auditId deviceId fieldId _ _ _ hne hs'
  rw [hrun] at h
  rw [hrun'] at h'
  rw [content_made h, content_made h', content_collection, content_collection] at hcontent
  have hstatus := congrArg Content.status hcontent
  have hvalue := congrArg Content.value hcontent
  have hconflict : conflicts pairs' = conflicts pairs := by
    cases hleft : conflicts pairs' <;> cases hright : conflicts pairs <;>
      simp [hleft, hright] at hstatus ⊢
  refine ⟨hconflict, fun hfree => ?_⟩
  simp only [hconflict, hfree, Bool.false_eq_true, if_false, Option.some.injEq] at hvalue
  exact bareContent_listOf_iff.mp hvalue

end Drafts

section Safe

variable {items : List ClassifiedFact} {originals originals' : SecurityFact → Original}
  {pairs pairs' : List (String × ClassifiedFact)}

/-- A safe scope shows the same under every two spellings. -/
theorem alike_of_safe (hone : OneEach items) (hwritten : Written items) (hnulls : NullsReset items)
    (hsafe : CollectionSafe items) (hs : Spells items originals pairs)
    (hs' : Spells items originals' pairs') : Alike pairs pairs' := by
  rcases hsafe with hstands | hsole
  · have hconflict := conflicts_of_reset hwritten hnulls hs hstands
    refine ⟨(conflicts_of_reset hwritten hnulls hs' hstands).trans hconflict.symm, ?_⟩
    intro hfree
    rw [hconflict] at hfree
    cases hfree
  · obtain ⟨hfree, hmembers⟩ := collected_of_sole hone hsole hs
    obtain ⟨hfree', hmembers'⟩ := collected_of_sole hone hsole hs'
    exact ⟨hfree'.trans hfree.symm, fun _ => hmembers'.trans hmembers.symm⟩

end Safe

section Unsafe

variable {items : List ClassifiedFact} {number number' : SecurityFact → Nat}
  {pairs pairs' : List (String × ClassifiedFact)}

/-- The facts of a scope, the given one first. -/
def rank (items : List ClassifiedFact) (first fact : SecurityFact) : Nat :=
  if fact = first then 0 else (items.map (·.fact)).idxOf fact + 1

theorem apart_rank (items : List ClassifiedFact) (first : SecurityFact) :
    Apart items (rank items first) := by
  intro a ha b hb hrank
  unfold rank at hrank
  split at hrank <;> split at hrank <;> rename_i hfirst hfirst'
  · exact hfirst.trans hfirst'.symm
  · cases hrank
  · cases hrank
  · have hsame : (items.map (·.fact)).idxOf a.fact = (items.map (·.fact)).idxOf b.fact := by
      omega
    exact (List.idxOf_inj (List.mem_map_of_mem ha)).mp hsame

/-- The number of each fact, a reset's being that of the fact that overrides it. -/
def overridden (items : List ClassifiedFact) (first : SecurityFact)
    (later : ClassifiedFact → ClassifiedFact) (fact : SecurityFact) : Nat :=
  match items.find? (·.fact = fact) with
  | none => 0
  | some item => rank items first (if item.operation = .reset then later item else item).fact

theorem overridden_item (hone : OneEach items) {first : SecurityFact}
    {later : ClassifiedFact → ClassifiedFact} {item : ClassifiedFact} (hitem : item ∈ items) :
    overridden items first later item.fact =
      rank items first (if item.operation = .reset then later item else item).fact := by
  unfold overridden
  cases hfind : items.find? (·.fact = item.fact) with
  | none =>
    have hother := List.find?_eq_none.mp hfind item hitem
    simp at hother
  | some found =>
    have hsame : found.fact = item.fact := by simpa using List.find?_some hfind
    rw [hone found (List.mem_of_find?_eq_some hfind) item hitem hsame]

/-- Where an assignment follows each reset in its artifact, a spelling by pairs is in no
conflict. -/
theorem overridden_free (hone : OneEach items) (hwritten : Written items) {first : SecurityFact}
    {later : ClassifiedFact → ClassifiedFact}
    (hlater : ∀ r ∈ items, r.operation = .reset → later r ∈ items ∧ (later r).operation = .assign ∧
      canonicalKey (later r).value = canonicalKey r.value ∧ (later r).artifactId = r.artifactId ∧
      r.sourceLine < (later r).sourceLine)
    (hs : Spells items (tags (overridden items first later)) pairs) : conflicts pairs = false := by
  rw [Bool.eq_false_iff, ne_eq, conflicts_iff]
  rintro ⟨group, hgroup, hnone⟩
  have hne := (memberGroups_grouping pairs).nonempty group hgroup
  -- the fact that stands for a member: what overrides it, or itself
  have hbase : ∀ x ∈ items, ∃ base ∈ items,
      overridden items first later x.fact = rank items first base.fact ∧
      canonicalKey base.value = canonicalKey x.value ∧ base.operation ≠ .reset ∧
      (x = base ∨ x.artifactId = base.artifactId ∧ x.sourceLine < base.sourceLine) := by
    intro x hx
    rw [overridden_item hone hx]
    by_cases hreset : x.operation = .reset
    · obtain ⟨hin, hassign, hkey, hartifact, hline⟩ := hlater x hx hreset
      rw [if_pos hreset]
      exact ⟨later x, hin, rfl, hkey, by simp [hassign], .inr ⟨hartifact.symm, hline⟩⟩
    · rw [if_neg hreset]
      exact ⟨x, hx, rfl, rfl, hreset, .inl rfl⟩
  obtain ⟨y, hy⟩ := List.exists_mem_of_ne_nil _ hne
  obtain ⟨b, hb, rfl⟩ := hs.mem_iff.mp (group_mem hgroup hy)
  obtain ⟨base, hin, hnumber, hkey, hop, hown⟩ := hbase b hb
  have hself : overridden items first later base.fact = rank items first base.fact := by
    rw [overridden_item hone hin, if_neg hop]
  have hmem : respellItem (tags (overridden items first later)) base ∈ group.2 :=
    tags_mem hwritten hs hgroup hb hin hy (hnumber.trans hself.symm) hkey.symm
  -- every member of the group stands before it in its artifact
  have hothers : ∀ x ∈ group.2, x = respellItem (tags (overridden items first later)) base ∨
      x.artifactId = base.artifactId ∧ x.sourceLine < base.sourceLine := by
    intro x hx
    obtain ⟨c, hc, rfl⟩ := hs.mem_iff.mp (group_mem hgroup hx)
    obtain ⟨base', hin', hnumber', -, -, hown'⟩ := hbase c hc
    have halike := (tags_alike hwritten hs hgroup hc hin hx hmem).1
    have hsame : base' = base := hone base' hin' base hin
      (apart_rank items first base' hin' base hin (hnumber'.symm.trans (halike.trans hself)))
    subst hsame
    rcases hown' with rfl | hbefore
    · exact .inl rfl
    · exact .inr hbefore
  have hartifact : ∀ x ∈ group.2, x.artifactId = base.artifactId := by
    intro x hx
    rcases hothers x hx with rfl | hbefore
    · rfl
    · exact hbefore.1
  have hdeciding : ∀ x ∈ deciding group.2,
      x = respellItem (tags (overridden items first later)) base := by
    intro x hx
    obtain ⟨hxin, hdecides⟩ := mem_deciding.mp hx
    rcases hothers x hxin with heq | ⟨-, hline⟩
    · exact heq
    · have hgreatest := hdecides.resolve_left (by
        rintro ⟨y, hy, z, hz, hdiffer⟩
        exact hdiffer ((hartifact y hy).trans (hartifact z hz).symm))
      have hle : base.sourceLine ≤ x.sourceLine :=
        hgreatest (respellItem (tags (overridden items first later)) base) hmem
      omega
  obtain ⟨winner, hwinner, ⟨⟨a, ha, hdiffer⟩, -⟩ | ⟨-, hvalues⟩⟩ :=
    memberValues_spec hne fun item hitem => group_key hs.keys hgroup hitem
  · rw [hdeciding a ha, hdeciding winner hwinner] at hdiffer
    exact absurd rfl hdiffer
  · rw [hvalues, hdeciding winner hwinner, added] at hnone
    cases hopbase : base.operation with
    | reset => exact hop hopbase
    | assign => simp [respellItem, hopbase] at hnone
    | remove => simp [respellItem, hopbase] at hnone

/-- All facts spelled alike: each canonical content is one member. -/
theorem uniform_nodup (hwritten : Written items) (hs : Spells items (tags fun _ => 0) pairs) :
    ((collected pairs).map bare).Nodup := by
  have hgroups := (memberGroups_grouping pairs).keys
  rw [collected, List.map_flatMap, List.nodup_flatMap]
  have hvalue : ∀ group ∈ memberGroups pairs, ∀ content ∈ ((memberValues group.2).getD []).map bare,
      ∃ a ∈ items, respellItem (tags fun _ => 0) a ∈ group.2 ∧ content = bare a.value ∧
        ((memberValues group.2).getD []).map bare = [content] := by
    intro group hgroup content hcontent
    obtain ⟨value, hvalue, rfl⟩ := List.mem_map.mp hcontent
    cases hvalues : memberValues group.2 with
    | none => simp [hvalues] at hvalue
    | some values =>
      rw [hvalues, Option.getD_some] at hvalue
      obtain rfl | ⟨x, hx, -, rfl⟩ := memberValues_assign
        ((memberGroups_grouping pairs).nonempty group hgroup)
        (fun item hitem => group_key hs.keys hgroup hitem) hvalues
      · cases hvalue
      · obtain rfl := List.mem_singleton.mp hvalue
        obtain ⟨a, ha, rfl⟩ := hs.mem_iff.mp (group_mem hgroup hx)
        exact ⟨a, ha, hx, rfl, rfl⟩
  refine ⟨fun group hgroup => ?_, ?_⟩
  · cases hvalues : ((memberValues group.2).getD []).map bare with
    | nil => exact List.nodup_nil
    | cons content rest =>
      obtain ⟨-, -, -, -, hsingle⟩ := hvalue group hgroup content (by simp [hvalues])
      rw [← hvalues, hsingle]
      exact List.nodup_singleton _
  · refine (List.pairwise_map.mp hgroups).imp_of_mem fun {group other} hgroup hother hdiffer => ?_
    intro content hcontent hcontent'
    obtain ⟨a, ha, hin, rfl, -⟩ := hvalue group hgroup content hcontent
    obtain ⟨b, hb, hin', hsame, -⟩ := hvalue other hother _ hcontent'
    have hkey : canonicalKey a.value = canonicalKey b.value := by
      rw [canonicalKey, canonicalKey, hsame]
    have hmem := tags_mem hwritten hs hgroup ha hb hin rfl hkey
    exact hdiffer (Except.ok.inj ((group_key hs.keys hgroup hmem).symm.trans
      (group_key hs.keys hother hin')))

/-- Spelled apart, two assignments of one canonical content are two members. -/
theorem apart_twice (hone : OneEach items) (hwritten : Written items) (hapart : Apart items number)
    (hs : Spells items (tags number) pairs) {a b : ClassifiedFact} (ha : a ∈ items) (hb : b ∈ items)
    (hop : a.operation = .assign) (hop' : b.operation = .assign) (hdiffer : a.fact ≠ b.fact)
    (hbare : bare a.value = bare b.value) : ¬ ((collected pairs).map bare).Nodup := by
  intro hnodup
  rw [collected, List.map_flatMap, List.nodup_flatMap] at hnodup
  obtain ⟨group, hgroup, hin, -⟩ := exists_group hs.keys (hs.mem_iff.mpr ⟨a, ha, rfl⟩)
  obtain ⟨other, hother, hin', -⟩ := exists_group hs.keys (hs.mem_iff.mpr ⟨b, hb, rfl⟩)
  have hvalues : ∀ c ∈ items, c.operation = .assign → ∀ g ∈ memberGroups pairs,
      respellItem (tags number) c ∈ g.2 →
      bare c.value ∈ ((memberValues g.2).getD []).map bare := by
    intro c hc hopc g hg hcin
    rw [(apart_group hone hwritten hapart hs hg hc hcin).2, added]
    simp [respellItem, hopc]
  have hne : group ≠ other := by
    rintro rfl
    exact hdiffer (hapart a ha b hb (tags_alike hwritten hs hgroup ha hb hin hin').1)
  have : Std.Symm (Function.onFun List.Disjoint fun group : String × List ClassifiedFact =>
      ((memberValues group.2).getD []).map bare) := ⟨fun _ _ hdisjoint => hdisjoint.symm⟩
  have hdisjoint := hnodup.2.forall hgroup hother hne
  exact hdisjoint (hvalues a ha hop group hgroup hin) (hbare ▸ hvalues b hb hop' other hother hin')

/-- All facts spelled alike: a removal that does not stand before the assignment of its member
in its artifact leaves the member out, or in conflict. -/
theorem uniform_left_out (hone : OneEach items) (hwritten : Written items)
    (hsole : ∀ a ∈ items, ∀ b ∈ items, a.operation = .assign → b.operation = .assign →
      a.fact = b.fact)
    (hs : Spells items (tags fun _ => 0) pairs) {a m : ClassifiedFact} (ha : a ∈ items)
    (hm : m ∈ items) (hop : a.operation = .assign) (hremove : m.operation = .remove)
    (hkey : canonicalKey a.value = canonicalKey m.value)
    (hlate : ¬ (m.artifactId = a.artifactId ∧ m.sourceLine < a.sourceLine)) :
    bare a.value ∉ (collected pairs).map bare := by
  intro hin
  obtain ⟨value, hvalue, -⟩ := List.mem_map.mp hin
  obtain ⟨group, hgroup, hvalues, x, hx, hopx, -⟩ := mem_collected hs.keys hvalue
  have hassigns : ∀ y ∈ group.2, y.operation = .assign → y = respellItem (tags fun _ => 0) a := by
    intro y hy hopy
    obtain ⟨b, hb, rfl⟩ := hs.mem_iff.mp (group_mem hgroup hy)
    rw [hone b hb a ha (hsole b hb a ha hopy hop)]
  obtain rfl := hassigns x hx hopx
  have hmem := tags_mem hwritten hs hgroup ha hm hx rfl hkey
  obtain ⟨winner, hwinner, ⟨-, hnone⟩ | ⟨hsame, hadded⟩⟩ :=
    memberValues_spec ((memberGroups_grouping pairs).nonempty group hgroup)
      fun item hitem => group_key hs.keys hgroup hitem
  · rw [hnone] at hvalues
    cases hvalues
  · have hassign : winner.operation = .assign := by
      rw [hadded, added] at hvalues
      cases hopw : winner.operation <;> simp [hopw] at hvalues ⊢
    obtain ⟨hwin, hdecides⟩ := mem_deciding.mp hwinner
    obtain rfl := hassigns winner hwin hassign
    -- the removal does not decide
    have hsilent : respellItem (tags fun _ => 0) m ∉ deciding group.2 := by
      intro hdeciding
      have hequal : m.operation = .assign := (hsame _ hdeciding).trans hassign
      rw [hremove] at hequal
      cases hequal
    have hsingle : ¬ SeveralArtifacts group.2 := fun hseveral =>
      hsilent (mem_deciding.mpr ⟨hmem, .inl hseveral⟩)
    have hgreatest := hdecides.resolve_left hsingle
    refine hlate ⟨?_, ?_⟩
    · by_contra hother
      exact hsingle ⟨_, hmem, _, hwin, hother⟩
    · by_contra hafter
      refine hsilent (mem_deciding.mpr ⟨hmem, .inr fun y hy => ?_⟩)
      exact (hgreatest y hy).trans (not_lt.mp hafter)

/-- A scope that is not safe shows something else under some two spellings. -/
theorem spellings_differ (hone : OneEach items) (hwritten : Written items)
    (hbroken : ¬ CollectionSafe items) : ∃ number number' : SecurityFact → Nat, ∀ pairs pairs',
      Spells items (tags number) pairs → Spells items (tags number') pairs' →
        ¬ Alike pairs pairs' := by
  obtain ⟨hstands, hsole⟩ := not_or.mp hbroken
  by_cases hreset : ∃ r ∈ items, r.operation = .reset
  · obtain ⟨r, hr, hop⟩ := hreset
    have hfollows : ∀ r ∈ items, r.operation = .reset → ∃ a ∈ items, a.operation = .assign ∧
        canonicalKey a.value = canonicalKey r.value ∧ a.artifactId = r.artifactId ∧
        r.sourceLine < a.sourceLine := by
      intro r hr hop
      by_contra hno
      refine hstands ⟨r, hr, hop, fun a ha hopa hkey hartifact => ?_⟩
      by_contra hline
      exact hno ⟨a, ha, hopa, hkey, hartifact, not_le.mp hline⟩
    have : Nonempty ClassifiedFact := ⟨r⟩
    choose! later hlater using hfollows
    refine ⟨rank items r.fact, overridden items r.fact later, fun pairs pairs' hs hs' halike => ?_⟩
    have htrue := apart_conflicts hone hwritten (apart_rank items r.fact) hs hr hop
    have hfalse := overridden_free hone hwritten hlater hs'
    rw [← halike.1, hfalse] at htrue
    cases htrue
  · have hnoReset : ∀ r ∈ items, r.operation ≠ .reset := fun r hr hop => hreset ⟨r, hr, hop⟩
    by_cases htwo : ∃ a ∈ items, ∃ b ∈ items, a.operation = .assign ∧ b.operation = .assign ∧
        a.fact ≠ b.fact
    · obtain ⟨a, ha, b, hb, hop, hop', hdiffer⟩ := htwo
      by_cases hbare : bare a.value = bare b.value
      · -- one member, or two of one content
        refine ⟨rank items a.fact, fun _ => 0, fun pairs pairs' hs hs' halike => ?_⟩
        have hfree := (apart_collected hone hwritten (apart_rank items a.fact) hs hnoReset).1
        have htwice := apart_twice hone hwritten (apart_rank items a.fact) hs ha hb hop hop' hdiffer
          hbare
        rw [← halike.2 hfree] at htwice
        exact htwice (uniform_nodup hwritten hs')
      · -- the one first, or the other
        refine ⟨rank items a.fact, rank items b.fact, fun pairs pairs' hs hs' halike => ?_⟩
        have hfree := (apart_collected hone hwritten (apart_rank items a.fact) hs hnoReset).1
        obtain ⟨rest, hfirst⟩ := apart_first hone hwritten (apart_rank items a.fact) hs ha hop
          (if_pos rfl)
        obtain ⟨rest', hfirst'⟩ := apart_first hone hwritten (apart_rank items b.fact) hs' hb hop'
          (if_pos rfl)
        have hsame := halike.2 hfree
        rw [hfirst, hfirst', List.map_cons, List.map_cons, List.cons.injEq] at hsame
        exact hbare hsame.1.symm
    · have hsame : ∀ a ∈ items, ∀ b ∈ items, a.operation = .assign → b.operation = .assign →
          a.fact = b.fact := by
        intro a ha b hb hop hop'
        by_contra hdiffer
        exact htwo ⟨a, ha, b, hb, hop, hop', hdiffer⟩
      have hlate : ∃ a ∈ items, ∃ m ∈ items, a.operation = .assign ∧ m.operation = .remove ∧
          canonicalKey a.value = canonicalKey m.value ∧
          ¬ (m.artifactId = a.artifactId ∧ m.sourceLine < a.sourceLine) := by
        by_contra hno
        refine hsole ⟨hnoReset, hsame, fun a ha m hm hop hremove hkey => ?_⟩
        by_contra hbefore
        exact hno ⟨a, ha, m, hm, hop, hremove, hkey, hbefore⟩
      obtain ⟨a, ha, m, hm, hop, hremove, hkey, hbefore⟩ := hlate
      refine ⟨rank items a.fact, fun _ => 0, fun pairs pairs' hs hs' halike => ?_⟩
      obtain ⟨hfree, hmembers⟩ := apart_collected hone hwritten (apart_rank items a.fact) hs hnoReset
      have hin : bare a.value ∈ (collected pairs).map bare :=
        List.mem_map.mpr ⟨_, hmembers a ha hop, rfl⟩
      rw [← halike.2 hfree] at hin
      exact uniform_left_out hone hwritten hsame hs' ha hm hop hremove hkey hbefore hin

end Unsafe

end ConfigAuditor.EffectiveState.SpelledDrafts
