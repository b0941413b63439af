import ConfigAuditor.Library.JsonStrings
import ConfigAuditor.EffectiveState.RespelledScopes

/-!
# Collections under another spelling

A collection groups its facts by keys that hold the spelling, so a member written in two ways is
two members. A scope of a repeatable field is safe when a reset stands in it that no assignment of
its artifact follows, or when one fact alone assigns and every removal of its member comes before
it in its artifact.
-/
namespace ConfigAuditor.EffectiveState.RespelledCollections

open Library SecurityModel Policy Model Resolver Resolved Groups Winner Spelling Respelling
  RespelledScopes

/-- What a fact does to a collection on its own. -/
def added (item : ClassifiedFact) : Option (List TypedValue) :=
  match item.operation with
  | .assign => some [item.value]
  | .remove => some []
  | .reset => none

section Members

variable {members : List ClassifiedFact} {key : String}

/-- A group of one key is decided by the operations of its deciding facts. -/
theorem memberValues_spec (hne : members ≠ [])
    (hkey : ∀ item ∈ members, valueKey item.value = .ok key) :
    ∃ winner ∈ deciding members,
      ((∃ a ∈ deciding members, a.operation ≠ winner.operation) ∧ memberValues members = none) ∨
      ((∀ a ∈ deciding members, a.operation = winner.operation) ∧
        memberValues members = added winner) := by
  have hkeys : Keyed members := fun item hitem => ⟨key, hkey item hitem⟩
  obtain ⟨winner, conflict, hrun, hwinner, hconflict⟩ := orderedWinner_spec hne (keyed_deciding hkeys)
  refine ⟨winner, hwinner, ?_⟩
  have hagree : ∀ a ∈ deciding members, ∀ b ∈ deciding members,
      (Agree a b ↔ a.operation = b.operation) := by
    intro a ha b hb
    refine and_iff_left ?_
    rw [hkey a (mem_deciding.mp ha).1, hkey b (mem_deciding.mp hb).1]
  cases conflict with
  | true =>
    refine .inl ⟨?_, by rw [memberValues, hrun]⟩
    obtain ⟨a, ha, b, hb, hdiffer⟩ := hconflict.mp rfl
    rw [hagree a ha b hb] at hdiffer
    by_cases hop : a.operation = winner.operation
    · exact ⟨b, hb, fun h => hdiffer (hop.trans h.symm)⟩
    · exact ⟨a, ha, hop⟩
  | false =>
    have hvalues : memberValues members = added winner := by
      cases hop : winner.operation <;> simp [memberValues, added, hrun, hop]
    refine .inr ⟨?_, hvalues⟩
    intro a ha
    by_contra hop
    have htrue := hconflict.mpr ⟨a, ha, winner, hwinner, by rwa [hagree a ha winner hwinner]⟩
    cases htrue

/-- A group of copies of one fact adds what the fact does. -/
theorem memberValues_copies (hne : members ≠ [])
    (hkey : ∀ item ∈ members, valueKey item.value = .ok key) {item : ClassifiedFact}
    (hall : ∀ a ∈ members, a = item) :
    memberValues members = added item := by
  obtain ⟨winner, hwinner, ⟨⟨a, ha, hdiffer⟩, -⟩ | ⟨-, hvalues⟩⟩ := memberValues_spec hne hkey
  · rw [hall a (mem_deciding.mp ha).1, hall winner (mem_deciding.mp hwinner).1] at hdiffer
    exact absurd rfl hdiffer
  · rw [hall winner (mem_deciding.mp hwinner).1] at hvalues
    exact hvalues

/-- What a group adds is the value of an assignment in it, and no more than one. -/
theorem memberValues_assign (hne : members ≠ [])
    (hkey : ∀ item ∈ members, valueKey item.value = .ok key) {values : List TypedValue}
    (h : memberValues members = some values) :
    values = [] ∨ ∃ a ∈ members, a.operation = .assign ∧ values = [a.value] := by
  obtain ⟨winner, hwinner, ⟨-, hvalues⟩ | ⟨-, hvalues⟩⟩ := memberValues_spec hne hkey
  · rw [hvalues] at h
    cases h
  · rw [hvalues, added] at h
    cases hop : winner.operation with
    | assign =>
      rw [hop] at h
      exact .inr ⟨winner, (mem_deciding.mp hwinner).1, hop, (Option.some.inj h).symm⟩
    | remove =>
      rw [hop] at h
      exact .inl (Option.some.inj h).symm
    | reset =>
      rw [hop] at h
      cases h

end Members

/-- Facts of a scope, each with the key of its value. -/
def WithKeys (pairs : List (String × ClassifiedFact)) : Prop :=
  ∀ p ∈ pairs, valueKey p.2.value = .ok p.1

section Groups

variable {pairs : List (String × ClassifiedFact)} {group : String × List ClassifiedFact}
  {item : ClassifiedFact}

theorem group_key (hpairs : WithKeys pairs) (hgroup : group ∈ memberGroups pairs)
    (hitem : item ∈ group.2) : valueKey item.value = .ok group.1 :=
  hpairs (group.1, item) ((memberGroups_grouping pairs).mem hgroup hitem)

theorem group_mem (hgroup : group ∈ memberGroups pairs) (hitem : item ∈ group.2) :
    item ∈ pairs.map (·.2) :=
  List.mem_map_of_mem ((memberGroups_grouping pairs).mem hgroup hitem)

/-- A fact is in the group of its key. -/
theorem mem_group (hpairs : WithKeys pairs) (hitem : item ∈ pairs.map (·.2))
    (hgroup : group ∈ memberGroups pairs) (hkey : valueKey item.value = .ok group.1) :
    item ∈ group.2 := by
  obtain ⟨p, hp, rfl⟩ := List.mem_map.mp hitem
  have hsame : p.1 = group.1 := Except.ok.inj ((hpairs p hp).symm.trans hkey)
  exact (memberGroups_grouping pairs).mem_of_key hgroup (hsame ▸ hp)

theorem exists_group (hpairs : WithKeys pairs) (hitem : item ∈ pairs.map (·.2)) :
    ∃ group ∈ memberGroups pairs, item ∈ group.2 ∧ valueKey item.value = .ok group.1 := by
  obtain ⟨p, hp, rfl⟩ := List.mem_map.mp hitem
  obtain ⟨group, hgroup, hkey, hmem⟩ := (memberGroups_grouping pairs).exists_group hp
  exact ⟨group, hgroup, hmem, hkey ▸ hpairs p hp⟩

/-- The scope is in conflict. -/
def conflicts (pairs : List (String × ClassifiedFact)) : Bool :=
  (memberGroups pairs).any fun group => (memberValues group.2).isNone

/-- The members of the collection. -/
def collected (pairs : List (String × ClassifiedFact)) : List TypedValue :=
  (memberGroups pairs).flatMap fun group => (memberValues group.2).getD []

theorem conflicts_iff : conflicts pairs = true ↔
    ∃ group ∈ memberGroups pairs, memberValues group.2 = none := by
  simp [conflicts]

/-- Members come from assignments. -/
theorem mem_collected (hpairs : WithKeys pairs) {value : TypedValue}
    (h : value ∈ collected pairs) :
    ∃ group ∈ memberGroups pairs, memberValues group.2 = some [value] ∧
      ∃ item ∈ group.2, item.operation = .assign ∧ value = item.value := by
  obtain ⟨group, hgroup, hvalue⟩ := List.mem_flatMap.mp h
  cases hvalues : memberValues group.2 with
  | none => simp [hvalues] at hvalue
  | some values =>
    rw [hvalues, Option.getD_some] at hvalue
    obtain rfl | ⟨item, hitem, hop, rfl⟩ := memberValues_assign
      ((memberGroups_grouping pairs).nonempty group hgroup)
      (fun item hitem => group_key hpairs hgroup hitem) hvalues
    · cases hvalue
    · obtain rfl := List.mem_singleton.mp hvalue
      exact ⟨group, hgroup, hvalues, item, hitem, hop, rfl⟩

end Groups

/-- A reset that no assignment of its member follows in its artifact. -/
def ResetStands (items : List ClassifiedFact) : Prop :=
  ∃ r ∈ items, r.operation = .reset ∧ ∀ a ∈ items, a.operation = .assign →
    canonicalKey a.value = canonicalKey r.value → a.artifactId = r.artifactId →
    a.sourceLine ≤ r.sourceLine

/-- One fact assigns, and what removes its member comes before it in its artifact. -/
structure OneAssigns (items : List ClassifiedFact) : Prop where
  noReset : ∀ r ∈ items, r.operation ≠ .reset
  sole : ∀ a ∈ items, ∀ b ∈ items, a.operation = .assign → b.operation = .assign →
    a.fact = b.fact
  before : ∀ a ∈ items, ∀ m ∈ items, a.operation = .assign → m.operation = .remove →
    canonicalKey a.value = canonicalKey m.value →
    m.artifactId = a.artifactId ∧ m.sourceLine < a.sourceLine

def CollectionSafe (items : List ClassifiedFact) : Prop := ResetStands items ∨ OneAssigns items

/-- A reset has the null value, and a removal has not. -/
def NullsReset (items : List ClassifiedFact) : Prop :=
  ∀ item ∈ items, (item.operation = .reset → item.value.type = .null) ∧
    (item.operation = .remove → item.value.type ≠ .null)

/-- The pairs hold the facts of a scope under a spelling. -/
structure Spells (items : List ClassifiedFact) (originals : SecurityFact → Original)
    (pairs : List (String × ClassifiedFact)) : Prop where
  keys : WithKeys pairs
  facts : (pairs.map (·.2)).Perm (items.map (respellItem originals))

theorem canonicalKey_respell (originals : SecurityFact → Original) (item : ClassifiedFact) :
    canonicalKey (respellItem originals item).value = canonicalKey item.value := rfl

/-- Values of one canonical key are of one type. -/
theorem type_of_canonicalKey {value other : TypedValue} {text text' : List Char}
    (htext : PyValue.encode true value.value = .ok text)
    (htext' : PyValue.encode true other.value = .ok text')
    (h : canonicalKey value = canonicalKey other) : value.type = other.type := by
  rw [canonicalKey_ok htext, canonicalKey_ok htext', Except.ok.injEq, String.ofList_inj] at h
  obtain ⟨-, hcontent⟩ := keyText_injective rfl rfl h
  simp only [contentText, member, List.append_assoc, List.cons_append] at hcontent
  have htype := List.append_cancel_left hcontent
  rw [List.cons.injEq] at htype
  have hname := (JsonText.jsonString_cancel htype.2).1
  have hread := congrArg TypedValueType.ofText? hname
  rw [TypedValueType.ofText?_text, TypedValueType.ofText?_text] at hread
  exact Option.some.inj hread

section Safe

variable {items : List ClassifiedFact} {originals : SecurityFact → Original}
  {pairs : List (String × ClassifiedFact)} {group : String × List ClassifiedFact}

theorem Spells.mem_iff (h : Spells items originals pairs) {x : ClassifiedFact} :
    x ∈ pairs.map (·.2) ↔ ∃ item ∈ items, respellItem originals item = x := by
  rw [h.facts.mem_iff, List.mem_map]

/-- The members of a group are facts of the scope with one canonical content. -/
theorem Spells.alike (h : Spells items originals pairs) (hgroup : group ∈ memberGroups pairs)
    {x y : ClassifiedFact} (hx : x ∈ group.2) (hy : y ∈ group.2) :
    ∃ a ∈ items, ∃ b ∈ items, respellItem originals a = x ∧ respellItem originals b = y ∧
      canonicalKey a.value = canonicalKey b.value := by
  obtain ⟨a, ha, rfl⟩ := h.mem_iff.mp (group_mem hgroup hx)
  obtain ⟨b, hb, rfl⟩ := h.mem_iff.mp (group_mem hgroup hy)
  have hkey := (valueKey_congr (group_key h.keys hgroup hx) (group_key h.keys hgroup hy)).2
  exact ⟨a, ha, b, hb, rfl, rfl, hkey⟩

/-- A reset that no assignment of its artifact follows leaves the scope in conflict. -/
theorem conflicts_of_reset (hwritten : Written items) (hnulls : NullsReset items)
    (hs : Spells items originals pairs) (hstands : ResetStands items) :
    conflicts pairs = true := by
  obtain ⟨r, hr, hreset, hlast⟩ := hstands
  obtain ⟨group, hgroup, hmem, -⟩ := exists_group hs.keys (hs.mem_iff.mpr ⟨r, hr, rfl⟩)
  refine conflicts_iff.mpr ⟨group, hgroup, ?_⟩
  have hne := (memberGroups_grouping pairs).nonempty group hgroup
  obtain ⟨winner, hwinner, ⟨-, hnone⟩ | ⟨hsame, hvalues⟩⟩ :=
    memberValues_spec hne fun item hitem => group_key hs.keys hgroup hitem
  · exact hnone
  · obtain ⟨hin, hdecides⟩ := mem_deciding.mp hwinner
    obtain ⟨w, hw, b, hb, rfl, hbr, hkey⟩ := hs.alike hgroup hin hmem
    have hkey' : canonicalKey w.value = canonicalKey r.value := by
      rw [hkey, ← canonicalKey_respell originals b, hbr, canonicalKey_respell]
    cases hop : w.operation with
    | reset =>
      rw [hvalues, added]
      simp only [respellItem, hop]
    | remove =>
      obtain ⟨text, htext⟩ := hwritten w hw
      obtain ⟨text', htext'⟩ := hwritten r hr
      have htype := type_of_canonicalKey htext htext' hkey'
      rw [(hnulls r hr).1 hreset] at htype
      exact absurd htype ((hnulls w hw).2 hop)
    | assign =>
      -- the reset decides too, so the group is in conflict
      have hdeciding : respellItem originals r ∈ deciding group.2 := by
        refine mem_deciding.mpr ⟨hmem, ?_⟩
        by_cases hseveral : SeveralArtifacts group.2
        · exact .inl hseveral
        · refine .inr fun x hx => ?_
          have hgreatest := hdecides.resolve_left hseveral
          have hartifact : w.artifactId = r.artifactId := by
            by_contra hother
            exact hseveral ⟨_, hin, _, hmem, hother⟩
          exact (hgreatest x hx).trans (hlast w hw hop hkey' hartifact)
      have hequal : r.operation = w.operation := hsame (respellItem originals r) hdeciding
      rw [hreset, hop] at hequal
      cases hequal

/-- The group of the fact that assigns adds its value. -/
theorem sole_group (hone : OneEach items) (hsole : OneAssigns items)
    (hs : Spells items originals pairs) (hgroup : group ∈ memberGroups pairs) {a : ClassifiedFact} (ha : a ∈ items)
    (hop : a.operation = .assign) (hmem : respellItem originals a ∈ group.2) :
    memberValues group.2 = some [(respellItem originals a).value] := by
  have hne := (memberGroups_grouping pairs).nonempty group hgroup
  -- what removes the member stands before the fact, in its artifact
  have hothers : ∀ x ∈ group.2, x = respellItem originals a ∨
      x.operation = .remove ∧ x.artifactId = a.artifactId ∧ x.sourceLine < a.sourceLine := by
    intro x hx
    obtain ⟨b, hb, c, hc, rfl, hca, hkey⟩ := hs.alike hgroup hx hmem
    cases hopb : b.operation with
    | assign => exact .inl (congrArg _ (hone b hb a ha (hsole.sole b hb a ha hopb hop)))
    | reset => exact absurd hopb (hsole.noReset b hb)
    | remove =>
      have hkey' : canonicalKey a.value = canonicalKey b.value := by
        rw [hkey, ← canonicalKey_respell originals c, hca, canonicalKey_respell]
      exact .inr ⟨hopb, hsole.before a ha b hb hop hopb hkey'⟩
  have hartifact : ∀ x ∈ group.2, x.artifactId = a.artifactId := by
    intro x hx
    obtain rfl | hx := hothers x hx
    · rfl
    · exact hx.2.1
  have hdeciding : ∀ x ∈ deciding group.2, x = respellItem originals a := by
    intro x hx
    obtain ⟨hin, hdecides⟩ := mem_deciding.mp hx
    obtain heq | ⟨-, -, hline⟩ := hothers x hin
    · exact heq
    · have hgreatest := hdecides.resolve_left (by
        rintro ⟨y, hy, z, hz, hdiffer⟩
        exact hdiffer ((hartifact y hy).trans (hartifact z hz).symm))
      have hle : a.sourceLine ≤ x.sourceLine := hgreatest (respellItem originals a) hmem
      omega
  obtain ⟨winner, hwinner, ⟨⟨b, hb, hdiffer⟩, -⟩ | ⟨-, hvalues⟩⟩ :=
    memberValues_spec hne fun item hitem => group_key hs.keys hgroup hitem
  · rw [hdeciding b hb, hdeciding winner hwinner] at hdiffer
    exact absurd rfl hdiffer
  · rw [hvalues, hdeciding winner hwinner, added]
    simp only [respellItem, hop]

/-- Other groups add nothing. -/
theorem sole_other (hsole : OneAssigns items) (hs : Spells items originals pairs) (hgroup : group ∈ memberGroups pairs)
    (hnone : ∀ a ∈ items, a.operation = .assign → respellItem originals a ∉ group.2) :
    memberValues group.2 = some [] := by
  have hne := (memberGroups_grouping pairs).nonempty group hgroup
  have hremove : ∀ x ∈ group.2, x.operation = .remove := by
    intro x hx
    obtain ⟨b, hb, rfl⟩ := hs.mem_iff.mp (group_mem hgroup hx)
    cases hop : b.operation with
    | assign => exact absurd hx (hnone b hb hop)
    | reset => exact absurd hop (hsole.noReset b hb)
    | remove => exact hop
  obtain ⟨winner, hwinner, ⟨⟨b, hb, hdiffer⟩, -⟩ | ⟨-, hvalues⟩⟩ :=
    memberValues_spec hne fun item hitem => group_key hs.keys hgroup hitem
  · rw [hremove b (mem_deciding.mp hb).1, hremove winner (mem_deciding.mp hwinner).1] at hdiffer
    exact absurd rfl hdiffer
  · rw [hvalues, added, hremove winner (mem_deciding.mp hwinner).1]

/-- The canonical content of the fact that assigns. -/
def soleMember (items : List ClassifiedFact) : List TypedValue :=
  ((items.find? (·.operation == .assign)).map fun item => bare item.value).toList

/-- One fact that assigns is the collection under every spelling. -/
theorem collected_of_sole (hone : OneEach items) (hsole : OneAssigns items)
    (hs : Spells items originals pairs) :
    conflicts pairs = false ∧ (collected pairs).map bare = soleMember items := by
  cases hfind : items.find? (·.operation == .assign) with
  | none =>
    have hnone : ∀ group ∈ memberGroups pairs, memberValues group.2 = some [] := by
      intro group hgroup
      refine sole_other hsole hs hgroup fun a ha hop => ?_
      have hother := List.find?_eq_none.mp hfind a ha
      simp [hop] at hother
    constructor
    · rw [Bool.eq_false_iff, ne_eq, conflicts_iff]
      rintro ⟨group, hgroup, hvalues⟩
      rw [hnone group hgroup] at hvalues
      cases hvalues
    · rw [soleMember, hfind]
      have hempty : collected pairs = [] := by
        refine List.flatMap_eq_nil_iff.mpr fun group hgroup => ?_
        rw [hnone group hgroup, Option.getD_some]
      rw [hempty]
      rfl
  | some a =>
    have ha : a ∈ items := List.mem_of_find?_eq_some hfind
    have hop : a.operation = .assign := by simpa using List.find?_some hfind
    obtain ⟨group, hgroup, hmem, hkey⟩ := exists_group hs.keys (hs.mem_iff.mpr ⟨a, ha, rfl⟩)
    have hvalues := sole_group hone hsole hs hgroup ha hop hmem
    have hothers : ∀ other ∈ memberGroups pairs, other ≠ group → memberValues other.2 = some [] := by
      intro other hother hne
      refine sole_other hsole hs hother fun b hb hopb hin => hne ?_
      rw [hone b hb a ha (hsole.sole b hb a ha hopb hop)] at hin
      have hsame := (group_key hs.keys hother hin).symm.trans hkey
      exact List.inj_on_of_nodup_map (memberGroups_grouping pairs).keys hother hgroup
        (Except.ok.inj hsame)
    constructor
    · rw [Bool.eq_false_iff, ne_eq, conflicts_iff]
      rintro ⟨other, hother, hnone⟩
      by_cases hsame : other = group
      · rw [hsame, hvalues] at hnone
        cases hnone
      · rw [hothers other hother hsame] at hnone
        cases hnone
    · obtain ⟨front, back, hsplit⟩ := List.append_of_mem hgroup
      have hnodup := (memberGroups_grouping pairs).keys
      rw [hsplit, List.map_append, List.map_cons, List.nodup_append, List.nodup_cons] at hnodup
      have hnil : ∀ others : List (String × List ClassifiedFact),
          (∀ other ∈ others, other ∈ memberGroups pairs ∧ other ≠ group) →
          others.flatMap (fun group => (memberValues group.2).getD []) = [] := by
        intro others h
        refine List.flatMap_eq_nil_iff.mpr fun other hother => ?_
        rw [hothers other (h other hother).1 (h other hother).2, Option.getD_some]
      have hfront := hnil front fun other hother => by
        refine ⟨hsplit ▸ List.mem_append_left _ hother, ?_⟩
        rintro rfl
        exact hnodup.2.2 _ (List.mem_map_of_mem hother) _ List.mem_cons_self rfl
      have hback := hnil back fun other hother => by
        refine ⟨hsplit ▸ List.mem_append_right _ (List.mem_cons_of_mem _ hother), ?_⟩
        rintro rfl
        exact hnodup.2.1.1 (List.mem_map_of_mem hother)
      rw [collected, hsplit, List.flatMap_append, List.flatMap_cons, hfront, hback, hvalues,
        soleMember, hfind]
      rfl

end Safe

/-- Each fact is spelled by its number. -/
abbrev tags (number : SecurityFact → Nat) (fact : SecurityFact) : Original := tag (number fact)

section Tags

variable {items : List ClassifiedFact} {number : SecurityFact → Nat}
  {pairs : List (String × ClassifiedFact)} {group : String × List ClassifiedFact}

theorem valueKey_tags {a : ClassifiedFact} (hin : respellItem (tags number) a ∈ group.2)
    (hgroup : group ∈ memberGroups pairs) (hs : Spells items (tags number) pairs) :
    valueKey (spell (tag (number a.fact)) a.value) = .ok group.1 := by
  have hkey := group_key hs.keys hgroup hin
  exact hkey

/-- Facts of one group have one number. -/
theorem tags_alike (hwritten : Written items) (hs : Spells items (tags number) pairs)
    (hgroup : group ∈ memberGroups pairs) {a b : ClassifiedFact} (ha : a ∈ items) (hb : b ∈ items)
    (hin : respellItem (tags number) a ∈ group.2) (hin' : respellItem (tags number) b ∈ group.2) :
    number a.fact = number b.fact ∧ canonicalKey a.value = canonicalKey b.value := by
  obtain ⟨text, htext⟩ := hwritten a ha
  obtain ⟨text', htext'⟩ := hwritten b hb
  have hkey := valueKey_tags hin hgroup hs
  have hkey' := valueKey_tags hin' hgroup hs
  exact (valueKey_tag_iff htext htext').mp (hkey.trans hkey'.symm)

/-- Facts of one number and one canonical content are in one group. -/
theorem tags_mem (hwritten : Written items) (hs : Spells items (tags number) pairs)
    (hgroup : group ∈ memberGroups pairs) {a b : ClassifiedFact} (ha : a ∈ items) (hb : b ∈ items)
    (hin : respellItem (tags number) a ∈ group.2) (hnumber : number a.fact = number b.fact)
    (hkey : canonicalKey a.value = canonicalKey b.value) :
    respellItem (tags number) b ∈ group.2 := by
  obtain ⟨text, htext⟩ := hwritten a ha
  obtain ⟨text', htext'⟩ := hwritten b hb
  have hgroupKey := valueKey_tags hin hgroup hs
  rw [(valueKey_tag_iff htext htext').mpr ⟨hnumber, hkey⟩] at hgroupKey
  exact mem_group hs.keys (hs.mem_iff.mpr ⟨b, hb, rfl⟩) hgroup hgroupKey

/-- Numbers that tell the facts of a scope apart. -/
def Apart (items : List ClassifiedFact) (number : SecurityFact → Nat) : Prop :=
  ∀ a ∈ items, ∀ b ∈ items, number a.fact = number b.fact → a.fact = b.fact

theorem apart_group (hone : OneEach items) (hwritten : Written items) (hapart : Apart items number)
    (hs : Spells items (tags number) pairs) (hgroup : group ∈ memberGroups pairs)
    {a : ClassifiedFact} (ha : a ∈ items) (hin : respellItem (tags number) a ∈ group.2) :
    (∀ x ∈ group.2, x = respellItem (tags number) a) ∧
      memberValues group.2 = added (respellItem (tags number) a) := by
  have hall : ∀ x ∈ group.2, x = respellItem (tags number) a := by
    intro x hx
    obtain ⟨b, hb, rfl⟩ := hs.mem_iff.mp (group_mem hgroup hx)
    have hnumber := (tags_alike hwritten hs hgroup hb ha hx hin).1
    rw [hone b hb a ha (hapart b hb a ha hnumber)]
  exact ⟨hall, memberValues_copies ((memberGroups_grouping pairs).nonempty group hgroup)
    (fun item hitem => group_key hs.keys hgroup hitem) hall⟩

/-- Spelled apart, a reset is in conflict. -/
theorem apart_conflicts (hone : OneEach items) (hwritten : Written items)
    (hapart : Apart items number) (hs : Spells items (tags number) pairs) {r : ClassifiedFact}
    (hr : r ∈ items) (hreset : r.operation = .reset) : conflicts pairs = true := by
  obtain ⟨group, hgroup, hin, -⟩ := exists_group hs.keys (hs.mem_iff.mpr ⟨r, hr, rfl⟩)
  refine conflicts_iff.mpr ⟨group, hgroup, ?_⟩
  rw [(apart_group hone hwritten hapart hs hgroup hr hin).2, added]
  simp only [respellItem, hreset]

/-- Spelled apart, facts without a reset are in no conflict, and each assignment is a member. -/
theorem apart_collected (hone : OneEach items) (hwritten : Written items)
    (hapart : Apart items number) (hs : Spells items (tags number) pairs)
    (hnoReset : ∀ r ∈ items, r.operation ≠ .reset) :
    conflicts pairs = false ∧ ∀ a ∈ items, a.operation = .assign →
      (respellItem (tags number) a).value ∈ collected pairs := by
  constructor
  · rw [Bool.eq_false_iff, ne_eq, conflicts_iff]
    rintro ⟨group, hgroup, hnone⟩
    obtain ⟨x, hx⟩ := List.exists_mem_of_ne_nil _
      ((memberGroups_grouping pairs).nonempty group hgroup)
    obtain ⟨a, ha, rfl⟩ := hs.mem_iff.mp (group_mem hgroup hx)
    rw [(apart_group hone hwritten hapart hs hgroup ha hx).2, added] at hnone
    cases hop : a.operation with
    | reset => exact hnoReset a ha hop
    | assign => simp [respellItem, hop] at hnone
    | remove => simp [respellItem, hop] at hnone
  · intro a ha hop
    obtain ⟨group, hgroup, hin, -⟩ := exists_group hs.keys (hs.mem_iff.mpr ⟨a, ha, rfl⟩)
    refine List.mem_flatMap.mpr ⟨group, hgroup, ?_⟩
    rw [(apart_group hone hwritten hapart hs hgroup ha hin).2, added]
    simp [respellItem, hop]

/-- The fact with the number zero comes first. -/
theorem apart_first (hone : OneEach items) (hwritten : Written items) (hapart : Apart items number)
    (hs : Spells items (tags number) pairs) {a : ClassifiedFact} (ha : a ∈ items)
    (hop : a.operation = .assign) (hzero : number a.fact = 0) :
    ∃ rest, collected pairs = (respellItem (tags number) a).value :: rest := by
  obtain ⟨group, hgroup, hin, hkey⟩ := exists_group hs.keys (hs.mem_iff.mpr ⟨a, ha, rfl⟩)
  have hvalues := (apart_group hone hwritten hapart hs hgroup ha hin).2
  cases hgroups : memberGroups pairs with
  | nil =>
    rw [hgroups] at hgroup
    cases hgroup
  | cons first rest =>
    have hfirst : first ∈ memberGroups pairs := hgroups ▸ List.mem_cons_self
    have hsame : first = group := by
      by_contra hother
      obtain ⟨x, hx⟩ := List.exists_mem_of_ne_nil _
        ((memberGroups_grouping pairs).nonempty first hfirst)
      obtain ⟨b, hb, rfl⟩ := hs.mem_iff.mp (group_mem hfirst hx)
      have hpositive : 0 < number b.fact := by
        refine Nat.pos_of_ne_zero fun hb0 => hother ?_
        obtain rfl := hone b hb a ha (hapart b hb a ha (hb0.trans hzero.symm))
        exact List.inj_on_of_nodup_map (memberGroups_grouping pairs).keys hfirst hgroup
          (Except.ok.inj ((group_key hs.keys hfirst hx).symm.trans hkey))
      obtain ⟨text, htext⟩ := hwritten a ha
      obtain ⟨text', htext'⟩ := hwritten b hb
      have hleast := valueKey_tags hin hgroup hs
      rw [hzero] at hleast
      have hlt := valueKey_tag_lt htext htext' hpositive hleast (valueKey_tags hx hfirst hs)
      have hle : first.1 ≤ group.1 := by
        have hsorted : (memberGroups pairs).Pairwise fun g h => g.1 ≤ h.1 :=
          pairwise_sortedBy _ _
        rw [hgroups, List.pairwise_cons] at hsorted
        rw [hgroups] at hgroup
        exact hsorted.1 group ((List.mem_cons.mp hgroup).resolve_left (Ne.symm hother))
      exact absurd hlt (not_lt_of_ge hle)
    refine ⟨rest.flatMap fun group => (memberValues group.2).getD [], ?_⟩
    rw [collected, hgroups, List.flatMap_cons, hsame, hvalues, added]
    simp only [respellItem, hop]
    rfl

end Tags

end ConfigAuditor.EffectiveState.RespelledCollections
