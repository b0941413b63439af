import Mathlib.Data.List.Nodup

/-!
# Trees with labelled edges

A node is reached from the root by the labels of the edges to it. The listing of a tree names
every node with its path, each before the nodes below it. With distinct labels below every node
the paths are distinct, and each leads back to the node it was listed with.
-/
namespace ConfigAuditor.Library

inductive PathTree (σ α : Type*) where
  | node (value : α) (children : List (σ × PathTree σ α))

namespace PathTree

variable {σ α : Type*}

mutual
/-- Every node with its path, below the path `here` of the root. -/
def listing (here : List σ) : PathTree σ α → List (List σ × α)
  | node value children => (here, value) :: listingIn here children

def listingIn (here : List σ) : List (σ × PathTree σ α) → List (List σ × α)
  | [] => []
  | (step, child) :: rest => listing (here ++ [step]) child ++ listingIn here rest
end

mutual
/-- The value at a path. -/
def valueAt [DecidableEq σ] : PathTree σ α → List σ → Option α
  | node value _, [] => some value
  | node _ children, step :: rest => valueIn children step rest

def valueIn [DecidableEq σ] : List (σ × PathTree σ α) → σ → List σ → Option α
  | [], _, _ => none
  | (step, child) :: others, first, rest =>
    if step = first then child.valueAt rest else valueIn others first rest
end

mutual
/-- The labels below every node are distinct. -/
def Labelled : PathTree σ α → Prop
  | node _ children => (children.map (·.1)).Nodup ∧ LabelledIn children

def LabelledIn : List (σ × PathTree σ α) → Prop
  | [] => True
  | (_, child) :: rest => child.Labelled ∧ LabelledIn rest
end

mutual
/-- The paths of a tree go on from the path of its root. -/
theorem mem_listing (tree : PathTree σ α) {here : List σ} {place : List σ × α}
    (h : place ∈ tree.listing here) : ∃ below, place.1 = here ++ below := by
  obtain ⟨value, children⟩ := tree
  rw [listing] at h
  rcases List.mem_cons.mp h with rfl | h
  · exact ⟨[], by simp⟩
  · obtain ⟨step, -, below, hpath⟩ := mem_listingIn children h
    exact ⟨step :: below, hpath⟩

theorem mem_listingIn (children : List (σ × PathTree σ α)) {here : List σ}
    {place : List σ × α} (h : place ∈ listingIn here children) :
    ∃ step ∈ children.map (·.1), ∃ below, place.1 = here ++ step :: below := by
  cases children with
  | nil => simp [listingIn] at h
  | cons entry rest =>
    obtain ⟨step, child⟩ := entry
    rw [listingIn] at h
    rcases List.mem_append.mp h with h | h
    · obtain ⟨below, hpath⟩ := mem_listing child h
      exact ⟨step, by simp, below, by rw [hpath, List.append_assoc]; rfl⟩
    · obtain ⟨other, hother, hpath⟩ := mem_listingIn rest h
      exact ⟨other, List.mem_cons_of_mem _ hother, hpath⟩
end

mutual
/-- Distinct labels make distinct paths. -/
theorem nodup_listing (tree : PathTree σ α) (h : tree.Labelled) (here : List σ) :
    ((tree.listing here).map (·.1)).Nodup := by
  obtain ⟨value, children⟩ := tree
  rw [Labelled] at h
  rw [listing, List.map_cons, List.nodup_cons]
  refine ⟨?_, nodup_listingIn children h.1 h.2 here⟩
  intro hmem
  obtain ⟨place, hplace, hpath⟩ := List.mem_map.mp hmem
  obtain ⟨step, -, below, hbelow⟩ := mem_listingIn children hplace
  rw [hpath] at hbelow
  have hlength := congrArg List.length hbelow
  simp at hlength

theorem nodup_listingIn (children : List (σ × PathTree σ α)) (hsteps : (children.map (·.1)).Nodup)
    (h : LabelledIn children) (here : List σ) : ((listingIn here children).map (·.1)).Nodup := by
  cases children with
  | nil => simp [listingIn]
  | cons entry rest =>
    obtain ⟨step, child⟩ := entry
    rw [LabelledIn] at h
    rw [List.map_cons, List.nodup_cons] at hsteps
    rw [listingIn, List.map_append]
    refine List.Nodup.append (nodup_listing child h.1 _) (nodup_listingIn rest hsteps.2 h.2 here) ?_
    intro path hleft hright
    obtain ⟨place, hplace, rfl⟩ := List.mem_map.mp hleft
    obtain ⟨other, hother, hsame⟩ := List.mem_map.mp hright
    obtain ⟨below, hbelow⟩ := mem_listing child hplace
    obtain ⟨step', hstep', below', hbelow'⟩ := mem_listingIn rest hother
    rw [hsame, hbelow, List.append_assoc, List.append_cancel_left_eq] at hbelow'
    obtain ⟨rfl, -⟩ := List.cons.inj hbelow'
    exact hsteps.1 hstep'
end

mutual
/-- A listed path leads to the value it is listed with. -/
theorem valueAt_listing [DecidableEq σ] (tree : PathTree σ α) (h : tree.Labelled)
    {here below : List σ} {value : α} (hmem : (here ++ below, value) ∈ tree.listing here) :
    tree.valueAt below = some value := by
  obtain ⟨root, children⟩ := tree
  rw [Labelled] at h
  rw [listing] at hmem
  rcases List.mem_cons.mp hmem with hroot | hmem
  · obtain ⟨hpath, rfl⟩ := Prod.mk.inj hroot
    obtain rfl : below = [] := by simpa using hpath
    rfl
  · obtain ⟨step, hstep, rest, hpath⟩ := mem_listingIn children hmem
    obtain rfl : below = step :: rest := by simpa using hpath
    exact valueIn_listingIn children h.1 h.2 hmem

theorem valueIn_listingIn [DecidableEq σ] (children : List (σ × PathTree σ α))
    (hsteps : (children.map (·.1)).Nodup) (h : LabelledIn children) {here below : List σ}
    {step : σ} {value : α} (hmem : (here ++ step :: below, value) ∈ listingIn here children) :
    valueIn children step below = some value := by
  cases children with
  | nil => simp [listingIn] at hmem
  | cons entry rest =>
    obtain ⟨first, child⟩ := entry
    rw [LabelledIn] at h
    rw [List.map_cons, List.nodup_cons] at hsteps
    rw [listingIn] at hmem
    rw [valueIn]
    by_cases hfirst : first = step
    · subst hfirst
      rw [if_pos rfl]
      rcases List.mem_append.mp hmem with hmem | hmem
      · refine @valueAt_listing _ child h.1 (here ++ [first]) _ _ ?_
        rwa [List.append_assoc]
      · obtain ⟨other, hother, below', hpath⟩ := mem_listingIn rest hmem
        have hsame : other = first := by
          have hcons := List.append_cancel_left hpath
          exact (List.cons.inj hcons).1.symm
        exact absurd (hsame ▸ hother) hsteps.1
    · rw [if_neg hfirst]
      rcases List.mem_append.mp hmem with hmem | hmem
      · obtain ⟨below', hpath⟩ := mem_listing child hmem
        rw [List.append_assoc] at hpath
        have hcons := List.append_cancel_left hpath
        exact absurd (List.cons.inj hcons).1.symm hfirst
      · exact valueIn_listingIn rest hsteps.2 h.2 hmem
end

end PathTree

end ConfigAuditor.Library
