import Mathlib.Data.List.Nodup
import Mathlib.Data.List.Pairwise
import Mathlib.Data.List.Perm.Subperm
import Mathlib.Logic.Relation
import Mathlib.Order.Defs.LinearOrder

/-!
# A depth-first traversal that visits nothing twice

The traversal gives up when it meets a node a second time, an edge back to its root, or more
nodes than its limit. It ends without giving up exactly when what the root reaches is a tree
within the limit.
-/
namespace ConfigAuditor.Library.Traversal

variable {α : Type*} (next : α → List α) (limit : Nat) (root : α)

/-- One traversal: the nodes seen and the nodes still to visit. -/
def givesUp [DecidableEq α] : Nat → List α → List α → Bool
  | 0, _, _ => true
  | _ + 1, _, [] => false
  | fuel + 1, seen, current :: stack =>
    if seen.contains current || limit ≤ seen.length then true
    else (next current).contains root ||
      givesUp fuel (current :: seen) ((next current).reverse ++ stack)

/-- An edge of the graph. -/
def Edge (a b : α) : Prop := b ∈ next a

abbrev Reaches (a b : α) : Prop := Relation.ReflTransGen (Edge next) a b

/-- The root reaches a cycle. -/
def Cyclic : Prop := ∃ a, Reaches next root a ∧ Relation.TransGen (Edge next) a a

/-- The root reaches two nodes with a common successor. -/
def Shared : Prop :=
  ∃ a b c, Reaches next root a ∧ Reaches next root b ∧ a ≠ b ∧ c ∈ next a ∧ c ∈ next b

/-- The root reaches more nodes than the limit. -/
def Exceeds : Prop :=
  ∃ nodes : List α, nodes.Nodup ∧ limit < nodes.length ∧ ∀ a ∈ nodes, Reaches next root a

/-- Every node was put on the stack once for each edge from a visited node. -/
structure Walked (seen stack : List α) : Prop where
  reached : ∀ a ∈ seen ++ stack, Reaches next root a
  once : seen.Nodup
  pushed : (seen ++ stack).Perm (root :: seen.flatMap next)

theorem walked_start : Walked next root [] [root] :=
  ⟨by simp [Relation.ReflTransGen.refl], List.nodup_nil, by simp⟩

variable {next limit root}

theorem Walked.visit {current : α} {seen stack : List α}
    (h : Walked next root seen (current :: stack)) (hnew : current ∉ seen) :
    Walked next root (current :: seen) ((next current).reverse ++ stack) := by
  have hcurrent : Reaches next root current := h.reached current (by simp)
  refine ⟨?_, List.nodup_cons.mpr ⟨hnew, h.once⟩, ?_⟩
  · intro a ha
    simp only [List.cons_append, List.mem_cons, List.mem_append, List.mem_reverse] at ha
    rcases ha with rfl | hseen | hnext | hstack
    · exact hcurrent
    · exact h.reached a (by simp [hseen])
    · exact hcurrent.tail hnext
    · exact h.reached a (by simp [hstack])
  · have hmove : ((current :: seen) ++ ((next current).reverse ++ stack)).Perm
        (next current ++ (seen ++ current :: stack)) := by
      rw [List.append_cons seen current stack]
      have hback : ((current :: seen) ++ ((next current).reverse ++ stack)).Perm
          ((next current).reverse ++ (current :: seen ++ stack)) := by
        rw [← List.append_assoc, ← List.append_assoc]
        exact List.perm_append_comm.append_right stack
      have hlast : (current :: seen ++ stack).Perm (seen ++ [current] ++ stack) :=
        (List.perm_append_singleton current seen).symm.append_right stack
      exact hback.trans ((List.reverse_perm _).append hlast)
    rw [List.flatMap_cons]
    refine hmove.trans ((h.pushed.append_left _).trans ?_)
    exact List.perm_middle

/-- A node that was pushed twice closes a cycle or is shared. -/
theorem Walked.tangled (hnext : ∀ a, (next a).Nodup) {seen stack : List α}
    (h : Walked next root seen stack) (htwice : ¬(seen ++ stack).Nodup) :
    Cyclic next root ∨ Shared next root := by
  have hseen : ∀ a ∈ seen, Reaches next root a := fun a ha =>
    h.reached a (List.mem_append_left _ ha)
  rw [h.pushed.nodup_iff, List.nodup_cons, not_and_or, not_not] at htwice
  rcases htwice with hroot | hflat
  · obtain ⟨a, ha, hedge⟩ := List.mem_flatMap.mp hroot
    exact .inl ⟨root, .refl, .tail' (hseen a ha) hedge⟩
  · rw [List.nodup_flatMap, not_and_or] at hflat
    rcases hflat with hno | hpairs
    · exact absurd (fun a _ => hnext a) hno
    · refine .inr ?_
      by_contra hshared
      refine hpairs (h.once.imp_of_mem fun {a b} ha hb hab => ?_)
      intro c hca hcb
      exact hshared ⟨a, b, c, hseen a ha, hseen b hb, hab, hca, hcb⟩

/-- A traversal that gives up has met a cycle, a shared node or too many nodes. -/
theorem givesUp_sound [DecidableEq α] (hnext : ∀ a, (next a).Nodup) {fuel : Nat} {seen stack : List α}
    (h : Walked next root seen stack) (hfuel : limit + 2 ≤ fuel + seen.length)
    (hlength : seen.length ≤ limit) (hup : givesUp next limit root fuel seen stack = true) :
    Cyclic next root ∨ Shared next root ∨ Exceeds next limit root := by
  induction fuel generalizing seen stack with
  | zero => omega
  | succ fuel ih =>
    cases stack with
    | nil => simp [givesUp] at hup
    | cons current stack =>
      have hcurrent : Reaches next root current := h.reached current (by simp)
      by_cases hseen : current ∈ seen
      · have htwice : ¬(seen ++ current :: stack).Nodup := fun hnodup =>
          (List.nodup_append.mp hnodup).2.2 current hseen current List.mem_cons_self rfl
        exact (h.tangled hnext htwice).imp_right .inl
      · by_cases hlimit : limit ≤ seen.length
        · refine .inr (.inr ⟨current :: seen, List.nodup_cons.mpr ⟨hseen, h.once⟩, ?_, ?_⟩)
          · rw [List.length_cons]
            omega
          · intro a ha
            rcases List.mem_cons.mp ha with rfl | ha
            · exact hcurrent
            · exact h.reached a (List.mem_append_left _ ha)
        · simp only [givesUp, List.contains_iff_mem, hseen, hlimit, decide_false, Bool.or_false,
            if_false, Bool.or_eq_true] at hup
          rcases hup with hroot | hup
          · exact .inl ⟨root, .refl, .tail' hcurrent hroot⟩
          · refine ih (h.visit hseen) ?_ ?_ hup
            · rw [List.length_cons]
              omega
            · rw [List.length_cons]
              omega

/-- A traversal that ends has seen the root and all it reaches, each once. -/
theorem givesUp_complete [DecidableEq α] {fuel : Nat} {seen stack : List α} (h : Walked next root seen stack)
    (hlength : seen.length ≤ limit) (hdone : givesUp next limit root fuel seen stack = false) :
    ∃ visited, Walked next root visited [] ∧ visited.length ≤ limit := by
  induction fuel generalizing seen stack with
  | zero => simp [givesUp] at hdone
  | succ fuel ih =>
    cases stack with
    | nil => exact ⟨seen, h, hlength⟩
    | cons current stack =>
      simp only [givesUp] at hdone
      split at hdone
      · cases hdone
      · rename_i hnew
        simp only [Bool.or_eq_true, List.contains_iff_mem, decide_eq_true_eq, not_or, Nat.not_le]
          at hnew
        rw [Bool.or_eq_false_iff] at hdone
        refine ih (h.visit hnew.1) ?_ hdone.2
        rw [List.length_cons]
        omega

section Visited

variable {visited : List α} (h : Walked next root visited [])
include h

theorem Walked.mem_of_reaches {a : α} (ha : Reaches next root a) : a ∈ visited := by
  have hpushed := h.pushed
  rw [List.append_nil] at hpushed
  induction ha with
  | refl => exact hpushed.mem_iff.mpr List.mem_cons_self
  | tail _ hedge ih =>
    exact hpushed.mem_iff.mpr (List.mem_cons_of_mem _ (List.mem_flatMap.mpr ⟨_, ih, hedge⟩))

/-- Nothing leads back to the root, and no node has two predecessors. -/
theorem Walked.tree : (∀ a, Reaches next root a → ¬Edge next a root) ∧
    ∀ a b c, Reaches next root a → Reaches next root b → Edge next a c → Edge next b c → a = b := by
  have hpushed := h.pushed
  rw [List.append_nil] at hpushed
  have hnodup := hpushed.nodup_iff.mp h.once
  rw [List.nodup_cons, List.nodup_flatMap] at hnodup
  obtain ⟨hroot, -, hpairs⟩ := hnodup
  refine ⟨fun a ha hedge => ?_, fun a b c ha hb hca hcb => ?_⟩
  · exact hroot (List.mem_flatMap.mpr ⟨a, h.mem_of_reaches ha, hedge⟩)
  · by_contra hab
    have : Std.Symm (Function.onFun List.Disjoint next) := ⟨fun _ _ hxy _ hy hx => hxy hx hy⟩
    exact hpairs.forall (h.mem_of_reaches ha) (h.mem_of_reaches hb) hab hca hcb

theorem Walked.acyclic : ¬Cyclic next root := by
  rintro ⟨a, ha, hcycle⟩
  obtain ⟨hroot, hunique⟩ := h.tree
  -- Going back from a node on a cycle stays on the cycle, and so never comes to the root.
  have hpred : ∀ {x y}, Reaches next root x → Edge next x y → Relation.TransGen (Edge next) y y →
      Relation.TransGen (Edge next) x x := by
    intro x y hx hedge hloop
    obtain ⟨z, hyz, hzy⟩ := Relation.TransGen.tail'_iff.mp hloop
    have hz : Reaches next root z := (hx.tail hedge).trans hyz
    obtain rfl := hunique z x y hz hx hzy hedge
    exact .head' hedge hyz
  induction ha with
  | refl =>
    obtain ⟨z, hz, hback⟩ := Relation.TransGen.tail'_iff.mp hcycle
    exact hroot z hz hback
  | tail hx hedge ih => exact ih (hpred hx hedge hcycle)

end Visited

/-- The traversal gives up exactly when the root reaches a cycle, a shared node or too much. -/
theorem givesUp_iff [DecidableEq α] (hnext : ∀ a, (next a).Nodup) :
    givesUp next limit root (limit + 2) [] [root] = true ↔
      Cyclic next root ∨ Shared next root ∨ Exceeds next limit root := by
  constructor
  · intro hup
    exact givesUp_sound hnext (walked_start next root) (by simp) (by simp) hup
  · intro hbad
    by_contra hdone
    rw [Bool.not_eq_true] at hdone
    obtain ⟨visited, hvisited, hlength⟩ :=
      givesUp_complete (walked_start next root) (by simp) hdone
    rcases hbad with hcyclic | ⟨a, b, c, ha, hb, hab, hca, hcb⟩ | ⟨nodes, hnodes, hmany, hreach⟩
    · exact hvisited.acyclic hcyclic
    · exact hab (hvisited.tree.2 a b c ha hb hca hcb)
    · have hsub : nodes ⊆ visited := fun a ha => hvisited.mem_of_reaches (hreach a ha)
      have hle := (hnodes.subperm hsub).length_le
      omega

end ConfigAuditor.Library.Traversal
