import ConfigAuditor.Library.Sorting

/-!
# Partitioning overlapping integer intervals

Closed intervals are cut at every start and after every end. The cells between
neighbouring cut points are pairwise disjoint, no interval ends inside a cell, and
the cells that some interval covers are exactly the union of the intervals.
-/
namespace ConfigAuditor.Library.Intervals

variable {α : Type*}

/-- Neighbouring pairs of a list, `zip(points, points[1:])`. -/
def cells (points : List Int) : List (Int × Int) := points.zip points.tail

@[simp] theorem cells_nil : cells [] = [] := rfl

@[simp] theorem cells_singleton (p : Int) : cells [p] = [] := rfl

@[simp] theorem cells_cons_cons (p q : Int) (rest : List Int) :
    cells (p :: q :: rest) = (p, q) :: cells (q :: rest) := rfl

/-- A cell of an increasing list is nonempty and lies after the first point. -/
theorem cell_bounds {p : Int} {rest : List Int} (h : (p :: rest).Pairwise (· < ·))
    {c : Int × Int} (hc : c ∈ cells (p :: rest)) : p ≤ c.1 ∧ c.1 < c.2 := by
  induction rest generalizing p with
  | nil => simp at hc
  | cons q rest ih =>
    rw [cells_cons_cons, List.mem_cons] at hc
    have hpq : p < q := List.rel_of_pairwise_cons h (by simp)
    rcases hc with rfl | hc
    · exact ⟨le_rfl, hpq⟩
    · have hq := ih h.tail hc
      exact ⟨by omega, hq.2⟩

theorem cells_pairwise {points : List Int} (h : points.Pairwise (· < ·)) :
    (cells points).Pairwise fun c d => c.2 ≤ d.1 := by
  induction points with
  | nil => simp
  | cons p rest ih =>
    cases rest with
    | nil => simp
    | cons q rest =>
      rw [cells_cons_cons, List.pairwise_cons]
      exact ⟨fun d hd => (cell_bounds h.tail hd).1, ih h.tail⟩

/-- No cut point lies strictly inside a cell. -/
theorem point_outside_cell {points : List Int} (h : points.Pairwise (· < ·))
    {c : Int × Int} (hc : c ∈ cells points) {x : Int} (hx : x ∈ points) : x ≤ c.1 ∨ c.2 ≤ x := by
  induction points with
  | nil => simp at hx
  | cons p rest ih =>
    cases rest with
    | nil => simp at hc
    | cons q rest =>
      rw [cells_cons_cons, List.mem_cons] at hc
      rcases List.mem_cons.mp hx with rfl | hx
      · rcases hc with rfl | hc
        · exact Or.inl le_rfl
        · have hpq : x < q := List.rel_of_pairwise_cons h (by simp)
          have hq := (cell_bounds h.tail hc).1
          exact Or.inl (by omega)
      · rcases hc with rfl | hc
        · right
          rcases List.mem_cons.mp hx with rfl | hx
          · exact le_rfl
          · exact (List.rel_of_pairwise_cons h.tail hx).le
        · exact ih h.tail hc hx

/-- Every position between two cut points lies in some cell. -/
theorem exists_cell {points : List Int} (h : points.Pairwise (· < ·)) {x y n : Int}
    (hx : x ∈ points) (hy : y ∈ points) (hxn : x ≤ n) (hny : n < y) :
    ∃ c ∈ cells points, c.1 ≤ n ∧ n < c.2 := by
  induction points generalizing x with
  | nil => simp at hx
  | cons p rest ih =>
    cases rest with
    | nil =>
      simp only [List.mem_singleton] at hx hy
      omega
    | cons q rest =>
      have hp : p ≤ n := by
        rcases List.mem_cons.mp hx with rfl | hx
        · exact hxn
        · have := List.rel_of_pairwise_cons h hx
          omega
      by_cases hq : n < q
      · exact ⟨(p, q), by simp, hp, hq⟩
      · have hy' : y ∈ q :: rest := by
          rcases List.mem_cons.mp hy with rfl | hy
          · omega
          · exact hy
        obtain ⟨c, hc, hn⟩ := ih h.tail (x := q) (by simp) hy' (by omega)
        exact ⟨c, by simp [hc], hn⟩

section Partition

variable (lo hi : α → Int)

/-- The cut points of the intervals `[lo a, hi a]`. -/
def boundaries (items : List α) : List Int :=
  sortedSet (items.flatMap fun a => [lo a, hi a + 1])

/-- The items whose interval contains the closed range `[s, e]`. -/
def covering (items : List α) (s e : Int) : List α :=
  items.filter fun a => lo a ≤ s && e ≤ hi a

/-- The covered cells, as closed ranges, each with the items that cover it. -/
def partition (items : List α) : List ((Int × Int) × List α) :=
  (cells (boundaries lo hi items)).filterMap fun c =>
    let applicable := covering lo hi items c.1 (c.2 - 1)
    if applicable.isEmpty then none else some ((c.1, c.2 - 1), applicable)

theorem mem_boundaries {items : List α} {x : Int} :
    x ∈ boundaries lo hi items ↔ ∃ a ∈ items, x = lo a ∨ x = hi a + 1 := by
  simp [boundaries]

theorem mem_partition {items : List α} {p : (Int × Int) × List α} :
    p ∈ partition lo hi items ↔
      ∃ c ∈ cells (boundaries lo hi items), covering lo hi items c.1 (c.2 - 1) ≠ [] ∧
        p = ((c.1, c.2 - 1), covering lo hi items c.1 (c.2 - 1)) := by
  simp only [partition, List.mem_filterMap, List.isEmpty_iff]
  constructor
  · rintro ⟨c, hc, hp⟩
    split at hp
    · simp at hp
    · rename_i hne
      exact ⟨c, hc, hne, by simpa using hp.symm⟩
  · rintro ⟨c, hc, hne, rfl⟩
    exact ⟨c, hc, by simp [hne]⟩

/-- No two cells of the partition share a position. -/
theorem partition_disjoint (items : List α) :
    (partition lo hi items).Pairwise fun p q => p.1.2 < q.1.1 := by
  have h := cells_pairwise (pairwise_sortedSet (items.flatMap fun a => [lo a, hi a + 1]))
  refine List.Pairwise.filterMap _ ?_ h
  intro c d hcd p hp q hq
  simp only [List.isEmpty_iff] at hp hq
  split at hp
  · simp at hp
  split at hq
  · simp at hq
  simp only [Option.some.injEq] at hp hq
  subst hp hq
  simp only
  omega

theorem partition_nonempty {items : List α} {p : (Int × Int) × List α}
    (hp : p ∈ partition lo hi items) : p.1.1 ≤ p.1.2 ∧ p.2 ≠ [] := by
  obtain ⟨c, hc, hne, rfl⟩ := (mem_partition lo hi).mp hp
  have hlt : c.1 < c.2 := by
    have hsorted := pairwise_sortedSet (items.flatMap fun a => [lo a, hi a + 1])
    cases hb : boundaries lo hi items with
    | nil => simp [hb] at hc
    | cons b bs =>
      rw [hb] at hc
      exact (cell_bounds (hb ▸ hsorted) hc).2
  exact ⟨by simp only; omega, hne⟩

/-- Every item of a cell contains the whole cell. -/
theorem partition_covered {items : List α} {p : (Int × Int) × List α}
    (hp : p ∈ partition lo hi items) {a : α} (ha : a ∈ p.2) :
    a ∈ items ∧ lo a ≤ p.1.1 ∧ p.1.2 ≤ hi a := by
  obtain ⟨c, -, -, rfl⟩ := (mem_partition lo hi).mp hp
  simpa [covering] using ha

/-- A cell carries exactly the items that contain any one of its positions. -/
theorem partition_items {items : List α} {p : (Int × Int) × List α}
    (hp : p ∈ partition lo hi items) {n : Int} (hn : p.1.1 ≤ n ∧ n ≤ p.1.2) :
    p.2 = items.filter fun a => lo a ≤ n && n ≤ hi a := by
  obtain ⟨c, hc, -, rfl⟩ := (mem_partition lo hi).mp hp
  have hsorted := pairwise_sortedSet (items.flatMap fun a => [lo a, hi a + 1])
  refine List.filter_congr fun a ha => ?_
  have hlo := point_outside_cell hsorted hc
    ((mem_boundaries lo hi).mpr ⟨a, ha, Or.inl rfl⟩)
  have hhi := point_outside_cell hsorted hc
    ((mem_boundaries lo hi).mpr ⟨a, ha, Or.inr rfl⟩)
  simp only at hn
  rw [Bool.eq_iff_iff, Bool.and_eq_true, Bool.and_eq_true, decide_eq_true_eq, decide_eq_true_eq,
    decide_eq_true_eq, decide_eq_true_eq]
  constructor <;> rintro ⟨h1, h2⟩ <;> omega

/-- The partition covers the same positions as the items. -/
theorem partition_covers (items : List α) (n : Int) :
    (∃ p ∈ partition lo hi items, p.1.1 ≤ n ∧ n ≤ p.1.2) ↔
      ∃ a ∈ items, lo a ≤ n ∧ n ≤ hi a := by
  constructor
  · rintro ⟨p, hp, hn⟩
    have hne := (partition_nonempty lo hi hp).2
    rw [partition_items lo hi hp hn] at hne
    obtain ⟨a, ha⟩ := List.exists_mem_of_ne_nil _ hne
    simp only [List.mem_filter, Bool.and_eq_true, decide_eq_true_eq] at ha
    exact ⟨a, ha⟩
  · rintro ⟨a, ha, hlo, hhi⟩
    have hsorted := pairwise_sortedSet (items.flatMap fun a => [lo a, hi a + 1])
    obtain ⟨c, hc, hn⟩ := exists_cell hsorted
      ((mem_boundaries lo hi).mpr ⟨a, ha, Or.inl rfl⟩)
      ((mem_boundaries lo hi).mpr ⟨a, ha, Or.inr rfl⟩) hlo (show n < hi a + 1 by omega)
    have hout := point_outside_cell hsorted hc ((mem_boundaries lo hi).mpr ⟨a, ha, Or.inl rfl⟩)
    have hout' := point_outside_cell hsorted hc ((mem_boundaries lo hi).mpr ⟨a, ha, Or.inr rfl⟩)
    have hmem : a ∈ covering lo hi items c.1 (c.2 - 1) := by
      simp only [covering, List.mem_filter, Bool.and_eq_true, decide_eq_true_eq]
      exact ⟨ha, by omega, by omega⟩
    exact ⟨_, (mem_partition lo hi).mpr ⟨c, hc, List.ne_nil_of_mem hmem, rfl⟩,
      hn.1, by simp only; omega⟩

/-- A change of the items that keeps their bounds keeps the cells. -/
theorem map_partition {γ : Type*} {lo' hi' : γ → Int} {f : α → γ} (hlo : ∀ a, lo' (f a) = lo a)
    (hhi : ∀ a, hi' (f a) = hi a) (items : List α) :
    partition lo' hi' (items.map f) =
      (partition lo hi items).map fun cell => (cell.1, cell.2.map f) := by
  have hboundaries : boundaries lo' hi' (items.map f) = boundaries lo hi items := by
    simp only [boundaries, List.flatMap_map, hlo, hhi]
  have hcovering : ∀ s e, covering lo' hi' (items.map f) s e = (covering lo hi items s e).map f := by
    intro s e
    rw [covering, covering, List.filter_map]
    refine congrArg (List.map f) (List.filter_congr fun a _ => ?_)
    simp only [Function.comp_apply, hlo, hhi]
  rw [partition, partition, hboundaries, List.map_filterMap]
  refine List.filterMap_congr fun cell _ => ?_
  simp only [hcovering, List.isEmpty_map]
  split <;> rfl

/-- An interval that shares positions only with intervals of its own bounds is a cell. -/
theorem partition_of_apart {items : List α} (hle : ∀ b ∈ items, lo b ≤ hi b) {a : α}
    (ha : a ∈ items) (hapart : ∀ b ∈ items, ∀ n, lo a ≤ n → n ≤ hi a → lo b ≤ n → n ≤ hi b →
      lo b = lo a ∧ hi b = hi a) :
    ∃ p ∈ partition lo hi items, p.1 = (lo a, hi a) := by
  have hsorted := pairwise_sortedSet (items.flatMap fun a => [lo a, hi a + 1])
  obtain ⟨p, hp, hpa⟩ := (partition_covers lo hi items (lo a)).mpr ⟨a, ha, le_rfl, hle a ha⟩
  have hamem : a ∈ p.2 := by
    rw [partition_items lo hi hp hpa]
    simp [ha, hle a ha]
  obtain ⟨-, hlo, hhi⟩ := partition_covered lo hi hp hamem
  refine ⟨p, hp, Prod.ext (by omega) ?_⟩
  obtain ⟨c, hc, -, rfl⟩ := (mem_partition lo hi).mp hp
  simp only at hpa hlo hhi
  obtain ⟨b, hb, hend⟩ : ∃ b ∈ items, c.2 = lo b ∨ c.2 = hi b + 1 := by
    refine (mem_boundaries lo hi).mp ?_
    exact (List.of_mem_zip hc).2 |> List.mem_of_mem_tail
  show c.2 - 1 = hi a
  by_contra hne
  rcases hend with hend | hend
  · obtain ⟨h, -⟩ := hapart b hb (lo b) (by omega) (by omega) le_rfl (hle b hb)
    omega
  · obtain ⟨-, h⟩ := hapart b hb (hi b) (by omega) (by omega) (hle b hb) le_rfl
    omega

end Partition

/-- In a list of disjoint ranges at most one range contains a position. -/
theorem unique_of_disjoint {ranges : List α} {first last : α → Int}
    (h : ranges.Pairwise fun p q => last p < first q) {p q : α} (hp : p ∈ ranges)
    (hq : q ∈ ranges) {n : Int} (hpn : first p ≤ n ∧ n ≤ last p)
    (hqn : first q ≤ n ∧ n ≤ last q) : p = q := by
  by_contra hne
  have hsep : ranges.Pairwise fun p q => last p < first q ∨ last q < first p :=
    h.imp fun hlt => Or.inl hlt
  have : Std.Symm fun p q : α => last p < first q ∨ last q < first p :=
    ⟨fun p q hpq => hpq.symm⟩
  have := hsep.forall hp hq hne
  omega

end ConfigAuditor.Library.Intervals
