import Mathlib.Data.List.Sort
import Mathlib.Data.List.SplitBy
import Mathlib.Data.List.Dedup
import Mathlib.Data.Prod.Lex

/-!
# Sorting by a key, grouping runs and sorted sets

`sorted(items, key=...)` is a stable insertion sort and `itertools.groupby` splits
a list where the key changes. Both keep every element; sorting a set gives a
strictly increasing list, and the groups of a sorted list are the items of each key.
Groups whose members carry their owner's key are found again in the concatenation of
all groups.
-/
namespace ConfigAuditor.Library

variable {α β : Type*}

/-- `sorted(items, key=key)`. -/
def sortedBy [LinearOrder β] (key : α → β) (items : List α) : List α :=
  items.insertionSort fun a b => key a ≤ key b

/-- `sorted(set(items))`. -/
def sortedSet [LinearOrder α] (items : List α) : List α :=
  items.dedup.insertionSort (· ≤ ·)

/-- The groups of `itertools.groupby(items, key=key)`. -/
def groupRuns [DecidableEq β] (key : α → β) (items : List α) : List (List α) :=
  items.splitBy fun a b => key a == key b

section Sorted

variable [LinearOrder β]

theorem sortedBy_perm (key : α → β) (items : List α) : (sortedBy key items).Perm items :=
  List.perm_insertionSort _ items

@[simp] theorem mem_sortedBy (key : α → β) {items : List α} {a : α} :
    a ∈ sortedBy key items ↔ a ∈ items :=
  (sortedBy_perm key items).mem_iff

@[simp] theorem length_sortedBy (key : α → β) (items : List α) :
    (sortedBy key items).length = items.length :=
  (sortedBy_perm key items).length_eq

theorem pairwise_sortedBy (key : α → β) (items : List α) :
    (sortedBy key items).Pairwise fun a b => key a ≤ key b := by
  have : Std.Total fun a b : α => key a ≤ key b := ⟨fun a b => le_total (key a) (key b)⟩
  have : IsTrans α fun a b => key a ≤ key b := ⟨fun _ _ _ => le_trans⟩
  exact List.pairwise_insertionSort _ items

/-- Sorting by a pair of keys sorts by the first of them. -/
theorem pairwise_sortedBy_fst {γ : Type*} [LinearOrder γ] (first : α → β) (second : α → γ)
    (items : List α) :
    (sortedBy (fun a => toLex (first a, second a)) items).Pairwise fun a b =>
      first a ≤ first b := by
  refine (pairwise_sortedBy _ items).imp fun hab => ?_
  exact Prod.Lex.monotone_fst _ _ hab

/-- The last item has the greatest key. -/
theorem le_of_getLast?_sortedBy {key : α → β} {items : List α} {a : α}
    (h : (sortedBy key items).getLast? = some a) : ∀ b ∈ items, key b ≤ key a := by
  intro b hb
  obtain ⟨init, hinit⟩ := List.getLast?_eq_some_iff.mp h
  have hsorted := pairwise_sortedBy key items
  rw [hinit, List.pairwise_append] at hsorted
  have hmem : b ∈ sortedBy key items := (sortedBy_perm key items).mem_iff.mpr hb
  rw [hinit] at hmem
  rcases List.mem_append.mp hmem with hleft | hright
  · exact hsorted.2.2 b hleft a (List.mem_singleton_self a)
  · rw [List.mem_singleton.mp hright]

/-- Lists with the same items, told apart by their keys, sort to the same list. -/
theorem sortedBy_eq_of_perm {key : α → β} {items items' : List α} (hperm : items.Perm items')
    (hkey : ∀ a ∈ items, ∀ b ∈ items, key a = key b → a = b) :
    sortedBy key items = sortedBy key items' := by
  refine List.Perm.eq_of_pairwise ?_ (pairwise_sortedBy key items) (pairwise_sortedBy key items')
    (((sortedBy_perm key items).trans hperm).trans (sortedBy_perm key items').symm)
  intro a b ha hb hab hba
  refine hkey a ((mem_sortedBy key).mp ha) b ?_ (le_antisymm hab hba)
  exact hperm.mem_iff.mpr ((mem_sortedBy key).mp hb)

@[simp] theorem sortedBy_eq_nil (key : α → β) (items : List α) :
    sortedBy key items = [] ↔ items = [] := by
  rw [← List.length_eq_zero_iff, length_sortedBy, List.length_eq_zero_iff]

@[simp] theorem mem_sortedSet {items : List β} {b : β} : b ∈ sortedSet items ↔ b ∈ items := by
  rw [sortedSet, List.mem_insertionSort, List.mem_dedup]

theorem nodup_sortedSet (items : List β) : (sortedSet items).Nodup :=
  (List.perm_insertionSort _ _).nodup_iff.mpr (List.nodup_dedup items)

/-- A sorted set is strictly increasing. -/
theorem pairwise_sortedSet (items : List β) : (sortedSet items).Pairwise (· < ·) := by
  have hle : (sortedSet items).Pairwise (· ≤ ·) := List.pairwise_insertionSort _ _
  have hne : (sortedSet items).Pairwise (· ≠ ·) := nodup_sortedSet items
  exact (hle.and hne).imp fun h => lt_of_le_of_ne h.1 h.2

theorem sortedSet_congr {items items' : List β} (h : ∀ b, b ∈ items ↔ b ∈ items') :
    sortedSet items = sortedSet items' := by
  refine List.Perm.eq_of_pairwise (fun a b _ _ hab hba => ?_) (pairwise_sortedSet items)
    (pairwise_sortedSet items') ?_
  · exact absurd (hab.trans hba) (lt_irrefl a)
  · refine (List.perm_ext_iff_of_nodup (nodup_sortedSet _) (nodup_sortedSet _)).mpr fun b => ?_
    rw [mem_sortedSet, mem_sortedSet, h]

theorem filter_orderedInsert (key : α → β) (p : α → Bool) (a : α) {items : List α}
    (hsorted : items.Pairwise fun a b => key a ≤ key b) :
    (items.orderedInsert (fun a b => key a ≤ key b) a).filter p =
      if p a then (items.filter p).orderedInsert (fun a b => key a ≤ key b) a
      else items.filter p := by
  induction items with
  | nil => cases hp : p a <;> simp [hp]
  | cons b rest ih =>
    rw [List.pairwise_cons] at hsorted
    by_cases hab : key a ≤ key b
    · have hfirst : ∀ c ∈ (b :: rest).filter p, key a ≤ key c := by
        intro c hc
        rcases List.mem_cons.mp (List.mem_filter.mp hc).1 with rfl | hrest
        · exact hab
        · exact hab.trans (hsorted.1 c hrest)
      rw [List.orderedInsert_cons, if_pos hab]
      cases hp : p a with
      | true =>
        rw [List.filter_cons_of_pos hp, if_pos rfl]
        cases hkept : (b :: rest).filter p with
        | nil => rfl
        | cons c kept =>
          have hac := hfirst c (by rw [hkept]; exact List.mem_cons_self)
          rw [List.orderedInsert_cons, if_pos hac]
      | false => rw [List.filter_cons_of_neg (by simp [hp]), if_neg (by simp)]
    · rw [List.orderedInsert_cons, if_neg hab]
      cases hb : p b with
      | true =>
        rw [List.filter_cons_of_pos hb, List.filter_cons_of_pos hb, ih hsorted.2]
        split
        · rw [List.orderedInsert_cons, if_neg hab]
        · rfl
      | false =>
        rw [List.filter_cons_of_neg (by simp [hb]), List.filter_cons_of_neg (by simp [hb]),
          ih hsorted.2]

/-- A stable sort keeps the order of the items that remain. -/
theorem filter_sortedBy (key : α → β) (p : α → Bool) (items : List α) :
    (sortedBy key items).filter p = sortedBy key (items.filter p) := by
  induction items with
  | nil => rfl
  | cons a rest ih =>
    have hcons : ∀ xs : List α, sortedBy key (a :: xs) =
        (sortedBy key xs).orderedInsert (fun a b => key a ≤ key b) a := fun _ => rfl
    rw [hcons, filter_orderedInsert key p a (pairwise_sortedBy key rest), ih]
    cases hp : p a with
    | true => rw [List.filter_cons_of_pos hp, if_pos rfl, hcons]
    | false => rw [List.filter_cons_of_neg (by simp [hp]), if_neg (by simp)]

/-- A change of the items that keeps their keys keeps their order. -/
theorem map_sortedBy {γ : Type*} {key : α → β} {key' : γ → β} {f : α → γ}
    (hkey : ∀ a, key' (f a) = key a) (items : List α) :
    (sortedBy key items).map f = sortedBy key' (items.map f) := by
  refine List.map_insertionSort _ _ f items fun a _ b _ => ?_
  rw [hkey, hkey]

end Sorted

section Grouped

variable [DecidableEq β]

theorem flatten_groupRuns (key : α → β) (items : List α) :
    (groupRuns key items).flatten = items :=
  List.flatten_splitBy _ items

theorem ne_nil_of_mem_groupRuns {key : α → β} {items : List α} {group : List α}
    (h : group ∈ groupRuns key items) : group ≠ [] :=
  List.ne_nil_of_mem_splitBy h

/-- The members of a group have one key. -/
theorem eq_of_mem_groupRuns {key : α → β} {items group : List α} (h : group ∈ groupRuns key items)
    {a b : α} (ha : a ∈ group) (hb : b ∈ group) : key a = key b := by
  have hchain : group.IsChain fun a b => key a = key b :=
    (List.isChain_of_mem_splitBy h).imp fun a b hab => by simpa using hab
  have : IsTrans α fun a b => key a = key b := ⟨fun _ _ _ => Eq.trans⟩
  have : Std.Symm fun a b : α => key a = key b := ⟨fun _ _ => Eq.symm⟩
  have hpairwise := List.isChain_iff_pairwise.mp hchain
  exact List.Pairwise.forall_of_forall (R := fun a b => key a = key b) (fun _ _ => rfl)
    hpairwise ha hb

theorem groupRuns_nil (key : α → β) : groupRuns key ([] : List α) = [] := rfl

/-- Items that all have one key form one group. -/
theorem groupRuns_const {key : α → β} {items : List α} {k : β} (hk : ∀ a ∈ items, key a = k)
    (hne : items ≠ []) : groupRuns key items = [items] := by
  refine List.splitBy_of_isChain hne ?_
  refine List.Pairwise.isChain (List.pairwise_iff_forall_sublist.mpr ?_)
  intro a b hab
  have ha := hk a (hab.subset (by simp))
  have hb := hk b (hab.subset (by simp))
  simp [ha, hb]

end Grouped

section Ordered

variable [LinearOrder β]

/-- In a sorted list the items with the least key come first. -/
theorem filter_append_of_pairwise {key : α → β} {items : List α} {k : β}
    (hsorted : items.Pairwise fun a b => key a ≤ key b) (hle : ∀ a ∈ items, k ≤ key a) :
    items.filter (key · = k) ++ items.filter (key · ≠ k) = items := by
  induction items with
  | nil => rfl
  | cons a rest ih =>
    rw [List.pairwise_cons] at hsorted
    by_cases ha : key a = k
    · have hrest := ih hsorted.2 fun b hb => hle b (List.mem_cons_of_mem a hb)
      simp only [ha, List.filter_cons, decide_true, if_true, ne_eq, not_true_eq_false,
        decide_false, Bool.false_eq_true, if_false, List.cons_append]
      rw [hrest]
    · have hlt : k < key a := lt_of_le_of_ne (hle a (by simp)) (Ne.symm ha)
      have hnone : (a :: rest).filter (key · = k) = [] := by
        refine List.filter_eq_nil_iff.mpr fun b hb => ?_
        rw [decide_eq_true_eq]
        rcases List.mem_cons.mp hb with rfl | hb
        · exact ha
        · exact (hlt.trans_le (hsorted.1 b hb)).ne'
      have hall : (a :: rest).filter (key · ≠ k) = a :: rest := by
        refine List.filter_eq_self.mpr fun b hb => ?_
        have hb' := List.filter_eq_nil_iff.mp hnone b hb
        simpa using hb'
      rw [hnone, hall, List.nil_append]

/-- A sorted list is put together again from the items of each key. -/
theorem flatten_filters {key : α → β} {items : List α} {keys : List β}
    (hsorted : items.Pairwise fun a b => key a ≤ key b) (hkeys : keys.Pairwise (· < ·))
    (hmem : ∀ a ∈ items, key a ∈ keys) :
    (keys.map fun k => items.filter (key · = k)).flatten = items := by
  induction keys generalizing items with
  | nil =>
    cases items with
    | nil => rfl
    | cons a rest => exact absurd (hmem a (by simp)) List.not_mem_nil
  | cons k keys ih =>
    rw [List.pairwise_cons] at hkeys
    have hle : ∀ a ∈ items, k ≤ key a := by
      intro a ha
      rcases List.mem_cons.mp (hmem a ha) with heq | hin
      · exact heq.ge
      · exact (hkeys.1 _ hin).le
    have hrest : (keys.map fun k' => (items.filter (key · ≠ k)).filter (key · = k')).flatten =
        items.filter (key · ≠ k) := by
      refine ih (hsorted.filter _) hkeys.2 fun a ha => ?_
      rw [List.mem_filter, decide_eq_true_eq] at ha
      exact (List.mem_cons.mp (hmem a ha.1)).resolve_left ha.2
    have hsame : (keys.map fun k' => (items.filter (key · ≠ k)).filter (key · = k')) =
        keys.map fun k' => items.filter (key · = k') := by
      refine List.map_congr_left fun k' hk' => ?_
      rw [List.filter_filter]
      refine List.filter_congr fun a _ => ?_
      have hne := (hkeys.1 k' hk').ne'
      by_cases hak : key a = k' <;> simp [hak, hne]
    rw [List.map_cons, List.flatten_cons, ← hsame, hrest]
    exact filter_append_of_pairwise hsorted hle

/-- The groups of a sorted list are the items of each key, in the order of the keys. -/
theorem groupRuns_eq_filters {key : α → β} {items : List α}
    (hsorted : items.Pairwise fun a b => key a ≤ key b) :
    groupRuns key items =
      (sortedSet (items.map key)).map fun k => items.filter (key · = k) := by
  have hkeys := pairwise_sortedSet (items.map key)
  refine List.splitBy_eq_iff.mpr ⟨?_, ?_, ?_, ?_⟩
  · refine (flatten_filters hsorted hkeys fun a ha => ?_).symm
    exact mem_sortedSet.mpr (List.mem_map_of_mem ha)
  · intro hnil
    obtain ⟨k, hk, hempty⟩ := List.mem_map.mp hnil
    obtain ⟨a, ha, rfl⟩ := List.mem_map.mp (mem_sortedSet.mp hk)
    have := List.filter_eq_nil_iff.mp hempty a ha
    simp at this
  · intro group hgroup
    obtain ⟨k, -, rfl⟩ := List.mem_map.mp hgroup
    refine List.Pairwise.isChain (List.pairwise_iff_forall_sublist.mpr ?_)
    intro a b hab
    have ha := hab.subset (List.mem_cons_self)
    have hb := hab.subset (List.mem_cons_of_mem a List.mem_cons_self)
    rw [List.mem_filter, decide_eq_true_eq] at ha hb
    simp [ha.2, hb.2]
  · refine List.Pairwise.isChain (List.pairwise_map.mpr (hkeys.imp_of_mem ?_))
    intro k k' hk hk' hlt
    have hne : ∀ k ∈ sortedSet (items.map key), items.filter (key · = k) ≠ [] := by
      intro k hk hempty
      obtain ⟨a, ha, rfl⟩ := List.mem_map.mp (mem_sortedSet.mp hk)
      have := List.filter_eq_nil_iff.mp hempty a ha
      simp at this
    refine ⟨hne k hk, hne k' hk', ?_⟩
    have ha := List.getLast_mem (hne k hk)
    have hb := List.head_mem (hne k' hk')
    rw [List.mem_filter, decide_eq_true_eq] at ha hb
    rw [ha.2, hb.2]
    simpa using hlt.ne

/-- A change of the items that keeps their keys keeps their groups. -/
theorem map_groupRuns {γ : Type*} {key : α → β} {key' : γ → β} {f : α → γ}
    (hkey : ∀ a, key' (f a) = key a) {items : List α}
    (hsorted : items.Pairwise fun a b => key a ≤ key b) :
    groupRuns key' (items.map f) = (groupRuns key items).map (List.map f) := by
  have hsorted' : (items.map f).Pairwise fun a b => key' a ≤ key' b := by
    rw [List.pairwise_map]
    simpa only [hkey] using hsorted
  have hkeys : (items.map f).map key' = items.map key := by
    rw [List.map_map]
    exact List.map_congr_left fun a _ => hkey a
  rw [groupRuns_eq_filters hsorted', groupRuns_eq_filters hsorted, hkeys, List.map_map]
  refine List.map_congr_left fun k _ => ?_
  rw [List.filter_map]
  refine congrArg (List.map f) (List.filter_congr fun a _ => ?_)
  simp only [Function.comp_apply, hkey]

end Ordered

section Tagged

variable {γ δ : Type*} {tag : α → δ} {key : β → δ} {owners : List β}
  {groups : List (List α)}

/-- Each owner's group carries the owner's key on every member. -/
def Tagged (tag : α → δ) (key : β → δ) (owners : List β) (groups : List (List α)) : Prop :=
  List.Forall₂ (fun owner group => ∀ a ∈ group, tag a = key owner) owners groups

theorem tagged_mem_flatten (h : Tagged tag key owners groups) {a : α} (ha : a ∈ groups.flatten) :
    ∃ owner ∈ owners, tag a = key owner := by
  induction h with
  | nil => simp at ha
  | @cons owner group owners groups hgroup _ ih =>
    rw [List.flatten_cons, List.mem_append] at ha
    rcases ha with ha | ha
    · exact ⟨owner, by simp, hgroup a ha⟩
    · obtain ⟨other, hother, htag⟩ := ih ha
      exact ⟨other, List.mem_cons_of_mem _ hother, htag⟩

/-- With distinct keys, the members that carry an owner's key are the owner's group. -/
theorem tagged_filter [DecidableEq δ] {R : β → List α → Prop} (hR : List.Forall₂ R owners groups)
    (h : Tagged tag key owners groups) (hkeys : (owners.map key).Nodup) :
    ∀ owner ∈ owners, R owner (groups.flatten.filter fun a => tag a = key owner) := by
  induction h with
  | nil => simp
  | @cons owner group owners groups hgroup htagged ih =>
    cases hR with
    | cons hhead hrest =>
      rw [List.map_cons, List.nodup_cons] at hkeys
      intro other hother
      rw [List.flatten_cons, List.filter_append]
      rcases List.mem_cons.mp hother with rfl | hmem
      · have hself : group.filter (fun a => tag a = key other) = group :=
          List.filter_eq_self.mpr fun a ha => by simpa using hgroup a ha
        have hnone : groups.flatten.filter (fun a => tag a = key other) = [] := by
          refine List.filter_eq_nil_iff.mpr fun a ha => ?_
          obtain ⟨later, hlater, htag⟩ := tagged_mem_flatten htagged ha
          rw [htag, decide_eq_true_eq]
          exact fun heq => hkeys.1 (heq ▸ List.mem_map_of_mem hlater)
        rw [hself, hnone, List.append_nil]
        exact hhead
      · have hnone : group.filter (fun a => tag a = key other) = [] := by
          refine List.filter_eq_nil_iff.mpr fun a ha => ?_
          rw [hgroup a ha, decide_eq_true_eq]
          exact fun heq => hkeys.1 (heq ▸ List.mem_map_of_mem hmem)
        rw [hnone, List.nil_append]
        exact ih hrest hkeys.2 other hmem

/-- Distinct keys and distinct members of each group make the tagged members distinct. -/
theorem tagged_nodup {name : α → γ} (h : Tagged tag key owners groups)
    (hkeys : (owners.map key).Nodup) (hgroups : ∀ group ∈ groups, (group.map name).Nodup) :
    (groups.flatten.map fun a => (tag a, name a)).Nodup := by
  induction h with
  | nil => simp
  | @cons owner group owners groups hgroup htagged ih =>
    rw [List.map_cons, List.nodup_cons] at hkeys
    rw [List.flatten_cons, List.map_append]
    refine List.Nodup.append ?_ (ih hkeys.2 fun g hg => hgroups g (List.mem_cons_of_mem _ hg)) ?_
    · refine List.Nodup.of_map Prod.snd ?_
      rw [List.map_map]
      exact hgroups group (by simp)
    · rintro ⟨t, n⟩ hleft hright
      obtain ⟨a, ha, hpair⟩ := List.mem_map.mp hleft
      obtain ⟨b, hb, hpair'⟩ := List.mem_map.mp hright
      obtain ⟨later, hlater, htag⟩ := tagged_mem_flatten htagged hb
      have hta := congrArg Prod.fst hpair
      have htb := congrArg Prod.fst hpair'
      simp only at hta htb
      refine hkeys.1 ?_
      rw [← hgroup a ha, hta, ← htb, htag]
      exact List.mem_map_of_mem hlater

end Tagged

end ConfigAuditor.Library
