import Mathlib.Order.Lattice
import Mathlib.Order.Nat
import Mathlib.Data.List.Basic

/-!
# Nearest smaller levels by a stack

A sequence of levels, some of which may enclose later ones. A stack that drops the levels a new
one closes holds exactly the open ones, innermost first, and its first entry below a level is
the nearest earlier enclosing one.
-/
namespace ConfigAuditor.Library.OpenLevels

variable {α : Type*} [LinearOrder α]

/-- `j` encloses at level `a` what comes next: no later level is at or below `a`. -/
def OpenAt (levels : List (α × Bool)) (j : Nat) (a : α) : Prop :=
  levels[j]? = some (a, true) ∧ ∀ k, j < k → ∀ b, levels[k]? = some b → a < b.1

/-- The entries that stay open at a level. -/
def below (stack : List (Nat × α)) (level : α) : List (Nat × α) :=
  stack.dropWhile (level ≤ ·.2)

/-- The stack after one level more. -/
def push (stack : List (Nat × α)) (index : Nat) (level : α × Bool) : List (Nat × α) :=
  if level.2 then (index, level.1) :: below stack level.1 else below stack level.1

/-- The stack holds the open levels, innermost first. -/
structure Tracks (levels : List (α × Bool)) (stack : List (Nat × α)) : Prop where
  mem : ∀ j a, (j, a) ∈ stack ↔ OpenAt levels j a
  sorted : stack.Pairwise fun p q => q.1 < p.1 ∧ q.2 < p.2

theorem tracks_nil : Tracks ([] : List (α × Bool)) [] := by
  refine ⟨fun j a => ?_, List.Pairwise.nil⟩
  simp [OpenAt]

/-- Below a level are exactly the smaller ones. -/
theorem mem_below {stack : List (Nat × α)}
    (hsorted : stack.Pairwise fun p q => q.1 < p.1 ∧ q.2 < p.2) {level : α} {p : Nat × α} :
    p ∈ below stack level ↔ p ∈ stack ∧ p.2 < level := by
  induction stack with
  | nil => simp [below]
  | cons top rest ih =>
    rw [List.pairwise_cons] at hsorted
    unfold below at ih ⊢
    by_cases htop : level ≤ top.2
    · rw [List.dropWhile_cons_of_pos (by simpa using htop), ih hsorted.2, List.mem_cons]
      constructor
      · exact fun ⟨hmem, hlt⟩ => ⟨.inr hmem, hlt⟩
      · rintro ⟨rfl | hmem, hlt⟩
        · exact absurd hlt (not_lt.mpr htop)
        · exact ⟨hmem, hlt⟩
    · rw [List.dropWhile_cons_of_neg (by simpa using htop)]
      refine ⟨fun hmem => ⟨hmem, ?_⟩, fun h => h.1⟩
      rcases List.mem_cons.mp hmem with rfl | hmem
      · exact not_le.mp htop
      · exact (hsorted.1 p hmem).2.trans (not_le.mp htop)

theorem openAt_append {levels : List (α × Bool)} {level : α × Bool} {j : Nat} {a : α} :
    OpenAt (levels ++ [level]) j a ↔
      (OpenAt levels j a ∧ a < level.1) ∨ (j = levels.length ∧ level = (a, true)) := by
  constructor
  · rintro ⟨hj, hlater⟩
    rcases Nat.lt_trichotomy j levels.length with hlt | rfl | hgt
    · rw [List.getElem?_append_left hlt] at hj
      refine .inl ⟨⟨hj, fun k hk b hb => hlater k hk b ?_⟩, ?_⟩
      · have hlength := (List.getElem?_eq_some_iff.mp hb).1
        rwa [List.getElem?_append_left hlength]
      · exact hlater levels.length hlt level (by simp)
    · refine .inr ⟨rfl, ?_⟩
      simpa using hj
    · have hlength := (List.getElem?_eq_some_iff.mp hj).1
      rw [List.length_append, List.length_singleton] at hlength
      omega
  · rintro (⟨⟨hj, hlater⟩, hlt⟩ | ⟨rfl, rfl⟩)
    · have hlength := (List.getElem?_eq_some_iff.mp hj).1
      refine ⟨by rwa [List.getElem?_append_left hlength], fun k hk b hb => ?_⟩
      rcases Nat.lt_or_ge k levels.length with hold | hnew
      · rw [List.getElem?_append_left hold] at hb
        exact hlater k hk b hb
      · rw [List.getElem?_append_right hnew, List.getElem?_singleton] at hb
        split at hb
        · cases hb
          exact hlt
        · cases hb
    · refine ⟨by simp, fun k hk b hb => ?_⟩
      have hlength := (List.getElem?_eq_some_iff.mp hb).1
      rw [List.length_append, List.length_singleton] at hlength
      omega

/-- The stack keeps up with the sequence. -/
theorem Tracks.push {levels : List (α × Bool)} {stack : List (Nat × α)} (h : Tracks levels stack)
    (level : α × Bool) : Tracks (levels ++ [level]) (push stack levels.length level) := by
  have hbelow : ∀ p, p ∈ below stack level.1 ↔ OpenAt levels p.1 p.2 ∧ p.2 < level.1 := by
    intro p
    rw [mem_below h.sorted, ← h.mem]
  have hkept : (below stack level.1).Pairwise fun p q => q.1 < p.1 ∧ q.2 < p.2 :=
    h.sorted.sublist (List.dropWhile_sublist _)
  obtain ⟨value, encloses⟩ := level
  unfold OpenLevels.push
  cases encloses with
  | false =>
    refine ⟨fun j a => ?_, hkept⟩
    rw [if_neg (by simp), hbelow (j, a), openAt_append]
    simp
  | true =>
    refine ⟨fun j a => ?_, ?_⟩
    · rw [if_pos rfl, List.mem_cons, hbelow (j, a), openAt_append, Prod.mk.injEq, Prod.mk.injEq,
        eq_comm (a := a)]
      tauto
    · rw [if_pos rfl]
      refine List.pairwise_cons.mpr ⟨fun p hp => ?_, hkept⟩
      obtain ⟨hopen, hlt⟩ := (hbelow p).mp hp
      exact ⟨(List.getElem?_eq_some_iff.mp hopen.1).1, hlt⟩

/-- `j` is the nearest open index below a level. -/
def Nearest (levels : List (α × Bool)) (level : α) (j : Nat) : Prop :=
  (∃ a, OpenAt levels j a ∧ a < level) ∧
    ∀ k b, OpenAt levels k b → b < level → k ≤ j

/-- The first entry below a level is the nearest one. -/
theorem Tracks.head_below {levels : List (α × Bool)} {stack : List (Nat × α)}
    (h : Tracks levels stack) {level : α} {p : Nat × α} (hhead : (below stack level).head? = some p) :
    Nearest levels level p.1 := by
  have hmem := (mem_below h.sorted).mp (List.mem_of_mem_head? hhead)
  refine ⟨⟨p.2, (h.mem p.1 p.2).mp hmem.1, hmem.2⟩, fun k b hopen hlt => ?_⟩
  have hin := (mem_below h.sorted).mpr ⟨(h.mem k b).mpr hopen, hlt⟩
  have hkept : (below stack level).Pairwise fun p q => q.1 < p.1 ∧ q.2 < p.2 :=
    h.sorted.sublist (List.dropWhile_sublist _)
  cases hbelow : below stack level with
  | nil =>
    rw [hbelow] at hin
    cases hin
  | cons first rest =>
    rw [hbelow] at hhead hin hkept
    obtain rfl := Option.some.inj hhead
    rcases List.mem_cons.mp hin with hsame | hrest
    · rw [← hsame]
    · exact Nat.le_of_lt ((List.pairwise_cons.mp hkept).1 _ hrest).1

/-- Nothing is open below a level when no entry is. -/
theorem Tracks.none_below {levels : List (α × Bool)} {stack : List (Nat × α)}
    (h : Tracks levels stack) {level : α} :
    below stack level = [] ↔ ∀ j a, OpenAt levels j a → ¬a < level := by
  rw [List.eq_nil_iff_forall_not_mem]
  constructor
  · intro hnone j a hopen hlt
    exact hnone (j, a) ((mem_below h.sorted).mpr ⟨(h.mem j a).mpr hopen, hlt⟩)
  · rintro hnone ⟨j, a⟩ hmem
    obtain ⟨hin, hlt⟩ := (mem_below h.sorted).mp hmem
    exact hnone j a ((h.mem j a).mp hin) hlt

theorem Nearest.unique {levels : List (α × Bool)} {level : α} {j k : Nat}
    (hj : Nearest levels level j) (hk : Nearest levels level k) : j = k := by
  obtain ⟨⟨a, ha, hlt⟩, hmax⟩ := hj
  obtain ⟨⟨b, hb, hlt'⟩, hmax'⟩ := hk
  exact le_antisymm (hmax' j a ha hlt) (hmax k b hb hlt')

/-- Strictly between two open levels that have none between them. -/
def Between (levels : List (α × Bool)) (level : α) : Prop :=
  ∃ j a k b, OpenAt levels j a ∧ OpenAt levels k b ∧ a < level ∧ level < b ∧
    ∀ i c, OpenAt levels i c → ¬(a < c ∧ c < b)

/-- A level above an entry and at none is between two neighbours. -/
theorem exists_neighbours {stack : List (Nat × α)} {level : α} {top : Nat × α}
    (hsorted : (top :: stack).Pairwise fun p q => q.1 < p.1 ∧ q.2 < p.2)
    (htop : level < top.2) (hapart : ∀ p ∈ top :: stack, p.2 ≠ level)
    (hsome : below stack level ≠ []) :
    ∃ p ∈ top :: stack, ∃ q ∈ top :: stack, p.2 < level ∧ level < q.2 ∧
      ∀ r ∈ top :: stack, ¬(p.2 < r.2 ∧ r.2 < q.2) := by
  induction stack generalizing top with
  | nil => exact absurd rfl hsome
  | cons next rest ih =>
    obtain ⟨hfirst, hrest⟩ := List.pairwise_cons.mp hsorted
    by_cases hnext : level < next.2
    · have hbelow : below rest level ≠ [] := by
        unfold below at hsome ⊢
        rwa [List.dropWhile_cons_of_pos (by simpa using hnext.le)] at hsome
      obtain ⟨p, hp, q, hq, hlow, hhigh, hnone⟩ :=
        ih hrest hnext (fun r hr => hapart r (List.mem_cons_of_mem _ hr)) hbelow
      refine ⟨p, List.mem_cons_of_mem _ hp, q, List.mem_cons_of_mem _ hq, hlow, hhigh, ?_⟩
      intro r hr
      rcases List.mem_cons.mp hr with rfl | hr
      · exact fun hbetween => lt_asymm hbetween.2 (hfirst q hq).2
      · exact hnone r hr
    · have hlow : next.2 < level := lt_of_le_of_ne (not_lt.mp hnext)
        (hapart next (List.mem_cons_of_mem _ List.mem_cons_self))
      refine ⟨next, List.mem_cons_of_mem _ List.mem_cons_self, top, List.mem_cons_self, hlow, htop,
        fun r hr hbetween => ?_⟩
      rcases List.mem_cons.mp hr with rfl | hr
      · exact lt_irrefl _ hbetween.2
      · rcases List.mem_cons.mp hr with rfl | hr
        · exact lt_irrefl _ hbetween.1
        · exact lt_asymm hbetween.1 ((List.pairwise_cons.mp hrest).1 r hr).2

/-- Below the innermost open level, at none of them and above some. -/
theorem Tracks.between_iff {levels : List (α × Bool)} {top : Nat × α} {rest : List (Nat × α)}
    (h : Tracks levels (top :: rest)) {level : α} (hsome : below (top :: rest) level ≠ []) :
    Between levels level ↔ level < top.2 ∧ ∀ p ∈ top :: rest, p.2 ≠ level := by
  have htop : ∀ p ∈ top :: rest, p.2 ≤ top.2 := by
    intro p hp
    rcases List.mem_cons.mp hp with rfl | hp
    · exact le_rfl
    · exact ((List.pairwise_cons.mp h.sorted).1 p hp).2.le
  constructor
  · rintro ⟨j, a, k, b, hj, hk, hlow, hhigh, hnone⟩
    refine ⟨lt_of_lt_of_le hhigh (htop (k, b) ((h.mem k b).mpr hk)), fun p hp hsame => ?_⟩
    exact hnone p.1 p.2 ((h.mem p.1 p.2).mp hp) ⟨hsame ▸ hlow, hsame ▸ hhigh⟩
  · rintro ⟨hlt, hapart⟩
    have hbelow : below rest level ≠ [] := by
      unfold below at hsome ⊢
      rwa [List.dropWhile_cons_of_pos (by simpa using hlt.le)] at hsome
    obtain ⟨p, hp, q, hq, hlow, hhigh, hnone⟩ := exists_neighbours h.sorted hlt hapart hbelow
    refine ⟨p.1, p.2, q.1, q.2, (h.mem _ _).mp hp, (h.mem _ _).mp hq, hlow, hhigh, ?_⟩
    exact fun i c hopen => hnone (i, c) ((h.mem i c).mpr hopen)

end ConfigAuditor.Library.OpenLevels
