import Mathlib.Data.List.Induction
import Mathlib.Data.List.Nodup

/-!
# Insertion-ordered dictionaries

A dictionary is a list of entries in insertion order. Assigning to a key that is
already there keeps its place and replaces its value.
-/
namespace ConfigAuditor.Library.Dict

variable {κ β : Type*} [DecidableEq κ]

def get? (entries : List (κ × β)) (key : κ) : Option β :=
  (entries.find? (·.1 == key)).map (·.2)

/-- `entries[key] = value`. -/
def set (entries : List (κ × β)) (key : κ) (value : β) : List (κ × β) :=
  match entries with
  | [] => [(key, value)]
  | (k, v) :: rest => if k = key then (key, value) :: rest else (k, v) :: set rest key value

/-- `entries.setdefault(key, []).append(item)`. -/
def append (entries : List (κ × List β)) (key : κ) (item : β) : List (κ × List β) :=
  match entries with
  | [] => [(key, [item])]
  | (k, items) :: rest =>
    if k = key then (k, items ++ [item]) :: rest else (k, items) :: append rest key item

/-- A dictionary built by assigning each item in turn. -/
def ofList (items : List (κ × β)) : List (κ × β) :=
  items.foldl (fun entries p => set entries p.1 p.2) []

@[simp] theorem get?_nil (key : κ) : get? ([] : List (κ × β)) key = none := rfl

theorem get?_cons (k key : κ) (v : β) (rest : List (κ × β)) :
    get? ((k, v) :: rest) key = if k = key then some v else get? rest key := by
  by_cases h : k = key <;> simp [get?, h]

theorem get?_set (entries : List (κ × β)) (key other : κ) (value : β) :
    get? (set entries key value) other = if key = other then some value else get? entries other := by
  induction entries with
  | nil => simp [set, get?_cons]
  | cons p rest ih =>
    obtain ⟨k, v⟩ := p
    by_cases hk : k = key
    · subst hk
      rw [set, if_pos rfl, get?_cons, get?_cons]
      split <;> rfl
    · rw [set, if_neg hk, get?_cons, get?_cons, ih]
      by_cases ho : k = other
      · have : key ≠ other := fun h => hk (ho.trans h.symm)
        simp [ho, this]
      · simp [ho]

/-- Assignments that agree with a value keep it. -/
theorem get?_foldl_set {items entries : List (κ × β)} {key : κ} {value : β}
    (h : get? entries key = some value) (hagree : ∀ item ∈ items, item.1 = key → item.2 = value) :
    get? (items.foldl (fun entries item => set entries item.1 item.2) entries) key = some value := by
  induction items generalizing entries with
  | nil => exact h
  | cons item rest ih =>
    refine ih ?_ fun other hother => hagree other (List.mem_cons_of_mem item hother)
    rw [get?_set]
    by_cases hkey : item.1 = key
    · rw [if_pos hkey, hagree item List.mem_cons_self hkey]
    · rw [if_neg hkey, h]

theorem mem_of_get? {entries : List (κ × β)} {key : κ} {value : β}
    (h : get? entries key = some value) : (key, value) ∈ entries := by
  simp only [get?, Option.map_eq_some_iff] at h
  obtain ⟨p, hp, rfl⟩ := h
  have hkey : p.1 = key := by simpa using List.find?_some hp
  have hmem := List.mem_of_find?_eq_some hp
  rwa [← hkey]

theorem mem_set {entries : List (κ × β)} {key : κ} {value : β} {p : κ × β}
    (h : p ∈ set entries key value) : p = (key, value) ∨ p ∈ entries := by
  induction entries with
  | nil => exact Or.inl (by simpa [set] using h)
  | cons q rest ih =>
    rw [set] at h
    split at h
    · rcases List.mem_cons.mp h with h | h
      · exact Or.inl h
      · exact Or.inr (List.mem_cons_of_mem _ h)
    · rcases List.mem_cons.mp h with h | h
      · exact Or.inr (by simp [h])
      · rcases ih h with h | h
        · exact Or.inl h
        · exact Or.inr (List.mem_cons_of_mem _ h)

/-- Every entry of a dictionary is one of the assignments that built it. -/
theorem mem_ofList {items : List (κ × β)} {p : κ × β} (h : p ∈ ofList items) : p ∈ items := by
  have hfold : ∀ (items entries : List (κ × β)),
      p ∈ items.foldl (fun entries q => set entries q.1 q.2) entries → p ∈ entries ∨ p ∈ items := by
    intro items
    induction items with
    | nil => exact fun entries hp => Or.inl hp
    | cons q rest ih =>
      intro entries hp
      rcases ih _ hp with hp | hp
      · rcases mem_set hp with hp | hp
        · exact Or.inr (by simp [hp])
        · exact Or.inl hp
      · exact Or.inr (List.mem_cons_of_mem _ hp)
  exact (hfold items [] h).resolve_left (by simp)

theorem keys_set (entries : List (κ × β)) (key : κ) (value : β) :
    (set entries key value).map (·.1) =
      if key ∈ entries.map (·.1) then entries.map (·.1) else entries.map (·.1) ++ [key] := by
  induction entries with
  | nil => simp [set]
  | cons entry rest ih =>
    obtain ⟨k, v⟩ := entry
    by_cases hk : k = key
    · simp [set, hk]
    · have hk' : key ≠ k := Ne.symm hk
      simp only [set, hk, if_false, List.map_cons, ih, List.mem_cons, hk', false_or]
      split <;> simp

/-- A dictionary has each key once, and the keys are those of the assignments. -/
theorem keys_ofList (items : List (κ × β)) :
    ((ofList items).map (·.1)).Nodup ∧
      ∀ key, key ∈ (ofList items).map (·.1) ↔ key ∈ items.map (·.1) := by
  have hfold : ∀ (items entries : List (κ × β)), (entries.map (·.1)).Nodup →
      ((items.foldl (fun entries q => set entries q.1 q.2) entries).map (·.1)).Nodup ∧
        ∀ key, key ∈ (items.foldl (fun entries q => set entries q.1 q.2) entries).map (·.1) ↔
          key ∈ entries.map (·.1) ∨ key ∈ items.map (·.1) := by
    intro items
    induction items with
    | nil => intro entries hnodup; exact ⟨hnodup, by simp⟩
    | cons p rest ih =>
      intro entries hnodup
      have hkeys := keys_set entries p.1 p.2
      have hset : ((set entries p.1 p.2).map (·.1)).Nodup := by
        rw [hkeys]
        split
        · exact hnodup
        · rename_i hnew
          refine List.nodup_append.mpr ⟨hnodup, List.nodup_singleton _, ?_⟩
          rintro a ha b hb rfl
          exact hnew (List.mem_singleton.mp hb ▸ ha)
      obtain ⟨hfinal, hmem⟩ := ih _ hset
      refine ⟨hfinal, fun key => ?_⟩
      rw [List.foldl_cons, hmem, hkeys]
      split
      · rename_i hold
        rw [List.map_cons, List.mem_cons]
        constructor
        · rintro (h | h)
          · exact .inl h
          · exact .inr (.inr h)
        · rintro (h | rfl | h)
          · exact .inl h
          · exact .inl hold
          · exact .inr h
      · rw [List.mem_append, List.mem_singleton, List.map_cons, List.mem_cons, or_assoc]
  obtain ⟨hnodup, hmem⟩ := hfold items [] List.nodup_nil
  exact ⟨hnodup, fun key => by simpa [ofList] using hmem key⟩

/-- With distinct keys the dictionary holds the assignments themselves. -/
theorem get?_ofList {items : List (κ × β)} (hkeys : (items.map (·.1)).Nodup) {key : κ} {value : β} :
    get? (ofList items) key = some value ↔ (key, value) ∈ items := by
  constructor
  · intro h
    exact mem_ofList (mem_of_get? h)
  · intro h
    have hin : key ∈ (ofList items).map (·.1) :=
      ((keys_ofList items).2 key).mpr (List.mem_map_of_mem (f := (·.1)) h)
    obtain ⟨entry, hentry, rfl⟩ := List.mem_map.mp hin
    obtain ⟨found, hfound⟩ : ∃ found, get? (ofList items) entry.1 = some found := by
      unfold get?
      have hsome : ((ofList items).find? (·.1 == entry.1)).isSome = true :=
        List.find?_isSome.mpr ⟨entry, hentry, by simp⟩
      obtain ⟨p, hp⟩ := Option.isSome_iff_exists.mp hsome
      exact ⟨p.2, by rw [hp]; rfl⟩
    have hmem := mem_ofList (mem_of_get? hfound)
    have heq := List.inj_on_of_nodup_map hkeys hmem h rfl
    rw [hfound, (Prod.mk.inj heq).2]

theorem mem_append {entries : List (κ × List β)} {key : κ} {item x : β} {group : κ × List β}
    (h : group ∈ append entries key item) (hx : x ∈ group.2) :
    x = item ∨ ∃ old ∈ entries, x ∈ old.2 := by
  induction entries with
  | nil =>
    simp only [append, List.mem_singleton] at h
    subst h
    exact .inl (by simpa using hx)
  | cons entry rest ih =>
    obtain ⟨k, items⟩ := entry
    simp only [append] at h
    split at h
    · rcases List.mem_cons.mp h with rfl | hrest
      · rcases List.mem_append.mp hx with hold | hnew
        · exact .inr ⟨(k, items), List.mem_cons_self, hold⟩
        · exact .inl (by simpa using hnew)
      · exact .inr ⟨group, List.mem_cons_of_mem _ hrest, hx⟩
    · rcases List.mem_cons.mp h with rfl | hrest
      · exact .inr ⟨(k, items), List.mem_cons_self, hx⟩
      · rcases ih hrest with heq | ⟨old, hold, hmem⟩
        · exact .inl heq
        · exact .inr ⟨old, List.mem_cons_of_mem _ hold, hmem⟩

/-- The members of a grouping come from the grouped items. -/
theorem mem_grouped {items : List (κ × β)} {group : κ × List β} {x : β}
    (h : group ∈ items.foldl (fun entries p => append entries p.1 p.2) []) (hx : x ∈ group.2) :
    x ∈ items.map (·.2) := by
  have hfold : ∀ (items : List (κ × β)) (entries : List (κ × List β)),
      group ∈ items.foldl (fun entries p => append entries p.1 p.2) entries →
      (∃ old ∈ entries, x ∈ old.2) ∨ x ∈ items.map (·.2) := by
    intro items
    induction items with
    | nil => exact fun entries hg => .inl ⟨group, hg, hx⟩
    | cons p rest ih =>
      intro entries hg
      rcases ih _ hg with ⟨old, hold, hmem⟩ | hmem
      · rcases mem_append hold hmem with rfl | hentries
        · exact .inr (by simp)
        · exact .inl hentries
      · exact .inr (by simp [hmem])
  rcases hfold items [] h with ⟨old, hold, -⟩ | hmem
  · cases hold
  · exact hmem

/-- Every item is a member of the one group of its key, and no group is empty. -/
structure Grouping (items : List (κ × β)) (groups : List (κ × List β)) : Prop where
  keys : (groups.map (·.1)).Nodup
  nonempty : ∀ group ∈ groups, group.2 ≠ []
  members : (groups.flatMap fun group => group.2.map (group.1, ·)).Perm items

theorem keys_append (entries : List (κ × List β)) (key : κ) (item : β) :
    (append entries key item).map (·.1) =
      if key ∈ entries.map (·.1) then entries.map (·.1) else entries.map (·.1) ++ [key] := by
  induction entries with
  | nil => simp [append]
  | cons entry rest ih =>
    obtain ⟨k, items⟩ := entry
    by_cases hk : k = key
    · simp [append, hk]
    · have hk' : key ≠ k := Ne.symm hk
      simp only [append, hk, if_false, List.map_cons, ih, List.mem_cons, hk', false_or]
      split <;> simp

theorem members_append (entries : List (κ × List β)) (key : κ) (item : β) :
    ((append entries key item).flatMap fun group => group.2.map (group.1, ·)).Perm
      ((key, item) :: entries.flatMap fun group => group.2.map (group.1, ·)) := by
  induction entries with
  | nil => simp [append]
  | cons entry rest ih =>
    obtain ⟨k, items⟩ := entry
    by_cases hk : k = key
    · subst hk
      simp only [append, if_true, List.flatMap_cons, List.map_append, List.map_cons, List.map_nil,
        List.append_assoc, List.singleton_append]
      exact List.perm_middle
    · simp only [append, hk, if_false, List.flatMap_cons]
      exact (ih.append_left _).trans List.perm_middle

theorem Grouping.append {items : List (κ × β)} {groups : List (κ × List β)}
    (h : Grouping items groups) (key : κ) (item : β) :
    Grouping (items ++ [(key, item)]) (Dict.append groups key item) := by
  refine ⟨?_, ?_, ?_⟩
  · rw [keys_append]
    split
    · exact h.keys
    · rename_i hnew
      refine List.nodup_append.mpr ⟨h.keys, List.nodup_singleton _, ?_⟩
      rintro a ha b hb rfl
      exact hnew (List.mem_singleton.mp hb ▸ ha)
  · have hnonempty : ∀ entries : List (κ × List β), (∀ group ∈ entries, group.2 ≠ []) →
        ∀ group ∈ Dict.append entries key item, group.2 ≠ [] := by
      intro entries hentries
      induction entries with
      | nil => simp [Dict.append]
      | cons entry rest ih =>
        obtain ⟨k, xs⟩ := entry
        rw [List.forall_mem_cons] at hentries
        rw [Dict.append]
        split
        · exact List.forall_mem_cons.mpr ⟨by simp, hentries.2⟩
        · exact List.forall_mem_cons.mpr ⟨hentries.1, ih hentries.2⟩
    exact hnonempty groups h.nonempty
  · refine (members_append groups key item).trans ?_
    exact (h.members.cons _).trans (List.perm_append_singleton _ _).symm

/-- `setdefault(key, []).append(item)` for each item in turn groups the items. -/
theorem grouping_grouped (items : List (κ × β)) :
    Grouping items (items.foldl (fun entries p => append entries p.1 p.2) []) := by
  induction items using List.reverseRecOn with
  | nil => exact ⟨List.nodup_nil, by simp, by simp⟩
  | append_singleton items p ih =>
    rw [List.foldl_concat]
    exact ih.append p.1 p.2

section Grouping

variable {items : List (κ × β)} {groups : List (κ × List β)} (h : Grouping items groups)

omit [DecidableEq κ]
include h

theorem Grouping.perm {groups' : List (κ × List β)} (hperm : groups'.Perm groups) :
    Grouping items groups' := by
  refine ⟨(hperm.map _).nodup_iff.mpr h.keys, fun group hgroup => ?_, ?_⟩
  · exact h.nonempty group (hperm.mem_iff.mp hgroup)
  · exact (hperm.flatMap_right _).trans h.members

theorem Grouping.mem {group : κ × List β} (hgroup : group ∈ groups) {x : β} (hx : x ∈ group.2) :
    (group.1, x) ∈ items :=
  h.members.mem_iff.mp (List.mem_flatMap.mpr ⟨group, hgroup, List.mem_map_of_mem hx⟩)

theorem Grouping.exists_group {p : κ × β} (hp : p ∈ items) :
    ∃ group ∈ groups, group.1 = p.1 ∧ p.2 ∈ group.2 := by
  obtain ⟨group, hgroup, hin⟩ := List.mem_flatMap.mp (h.members.mem_iff.mpr hp)
  obtain ⟨x, hx, rfl⟩ := List.mem_map.mp hin
  exact ⟨group, hgroup, rfl, hx⟩

/-- Items of one key are members of one group. -/
theorem Grouping.mem_of_key {group : κ × List β} (hgroup : group ∈ groups) {x : β}
    (hx : (group.1, x) ∈ items) : x ∈ group.2 := by
  obtain ⟨other, hother, hkey, hin⟩ := h.exists_group hx
  rw [List.inj_on_of_nodup_map h.keys hother hgroup hkey] at hin
  exact hin

end Grouping

end ConfigAuditor.Library.Dict
