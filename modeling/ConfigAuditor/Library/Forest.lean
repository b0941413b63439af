import Mathlib.Data.List.Nodup

/-!
# Ordered forests

A forest is a first tree, given by its root and the forest below it, and the trees after it.
A node added at the right edge comes last in the pre-order, below the node of the edge it was
added under.
-/
namespace ConfigAuditor.Library

inductive Forest (α : Type*) where
  | nil
  | cons (root : α) (below after : Forest α)

namespace Forest

variable {α γ δ : Type*}

/-- Every node before the nodes below it, trees from left to right. -/
def preorder : Forest α → List α
  | nil => []
  | cons a below after => a :: (below.preorder ++ after.preorder)

def roots : Forest α → List α
  | nil => []
  | cons a _ after => a :: after.roots

/-- The last root, its last child, and so on down the right edge. -/
def spine : Forest α → List α
  | nil => []
  | cons a below nil => a :: below.spine
  | cons _ _ (cons b below after) => (cons b below after).spine

/-- Add a node as the last child of the node at depth `k - 1` of the right edge, which notes its
new child. -/
def graft (note : α → α) (new : α) : Nat → Forest α → Forest α
  | _, nil => cons new nil nil
  | 0, cons a below nil => cons a below (cons new nil nil)
  | k + 1, cons a below nil => cons (if k = 0 then note a else a) (graft note new k below) nil
  | k, cons a below (cons b below' after) => cons a below (graft note new k (cons b below' after))

@[simp] theorem preorder_nil : (nil : Forest α).preorder = [] := rfl

@[simp] theorem preorder_cons (a : α) (below after : Forest α) :
    (cons a below after).preorder = a :: (below.preorder ++ after.preorder) := rfl

@[simp] theorem roots_nil : (nil : Forest α).roots = [] := rfl

@[simp] theorem roots_cons (a : α) (below after : Forest α) :
    (cons a below after).roots = a :: after.roots := rfl

@[simp] theorem spine_nil : (nil : Forest α).spine = [] := rfl

@[simp] theorem spine_last (a : α) (below : Forest α) :
    (cons a below nil).spine = a :: below.spine := rfl

theorem mem_preorder_of_mem_spine {forest : Forest α} {a : α} (h : a ∈ forest.spine) :
    a ∈ forest.preorder := by
  induction forest with
  | nil => cases h
  | cons b below after ihBelow ihAfter =>
    cases after with
    | nil =>
      rcases List.mem_cons.mp h with rfl | h
      · exact List.mem_cons_self
      · exact List.mem_cons_of_mem _ (List.mem_append_left _ (ihBelow h))
    | cons c below' after' =>
      exact List.mem_cons_of_mem _ (List.mem_append_right _ (ihAfter h))

section Graft

variable {note : α → α} {new : α}

theorem roots_graft_zero (forest : Forest α) :
    (graft note new 0 forest).roots = forest.roots ++ [new] := by
  induction forest with
  | nil => rfl
  | cons a below after _ ih =>
    cases after with
    | nil => rfl
    | cons b below' after' =>
      show a :: (graft note new 0 (cons b below' after')).roots = _
      rw [ih]
      rfl

/-- A node added below the roots leaves their names. -/
theorem roots_graft {name : α → γ} (hname : ∀ a, name (note a) = name a) {k : Nat}
    {forest : Forest α} (hk : 0 < k) (hspine : k ≤ forest.spine.length) :
    (graft note new k forest).roots.map name = forest.roots.map name := by
  induction forest with
  | nil =>
    simp only [spine_nil, List.length_nil] at hspine
    omega
  | cons a below after _ ih =>
    cases after with
    | nil =>
      obtain ⟨j, rfl⟩ : ∃ j, k = j + 1 := ⟨k - 1, by omega⟩
      simp only [graft, roots_cons, roots_nil, List.map_cons, List.map_nil]
      split
      · rw [hname]
      · rfl
    | cons b below' after' =>
      have hrest := ih hspine
      rw [show graft note new k (cons a below (cons b below' after')) =
        cons a below (graft note new k (cons b below' after')) by cases k <;> rfl, roots_cons,
        List.map_cons, hrest]
      rfl

/-- The new node ends the right edge. -/
theorem spine_graft {name : α → γ} (hname : ∀ a, name (note a) = name a) {k : Nat}
    {forest : Forest α} (hspine : k ≤ forest.spine.length) :
    (graft note new k forest).spine.map name =
      (forest.spine.map name).take k ++ [name new] := by
  induction forest generalizing k with
  | nil =>
    simp only [spine_nil, List.length_nil, Nat.le_zero] at hspine
    subst hspine
    rfl
  | cons a below after ihBelow ihAfter =>
    cases after with
    | nil =>
      cases k with
      | zero => rfl
      | succ j =>
        simp only [spine_last, List.length_cons, Nat.add_le_add_iff_right] at hspine
        simp only [graft, spine_last, List.map_cons, List.take_succ_cons, List.cons_append,
          ihBelow hspine]
        split
        · rw [hname]
        · rfl
    | cons b below' after' =>
      have hrest := ihAfter hspine
      have hgraft : graft note new k (cons a below (cons b below' after')) =
          cons a below (graft note new k (cons b below' after')) := by cases k <;> rfl
      have hskip : (cons a below (graft note new k (cons b below' after'))).spine =
          (graft note new k (cons b below' after')).spine := by
        cases hg : graft note new k (cons b below' after') with
        | nil => cases after' <;> cases k <;> simp [graft] at hg
        | cons c d e => rfl
      rw [hgraft, hskip]
      exact hrest

theorem preorder_graft_zero (forest : Forest α) :
    (graft note new 0 forest).preorder = forest.preorder ++ [new] := by
  induction forest with
  | nil => rfl
  | cons a below after _ ih =>
    cases after with
    | nil => simp [graft]
    | cons b below' after' =>
      show a :: (below.preorder ++ (graft note new 0 (cons b below' after')).preorder) = _
      rw [ih, preorder_cons a, List.cons_append, List.append_assoc]

/-- The new node comes last, and only its parent changes. -/
theorem preorder_graft {mark : α → α} {k : Nat} {forest : Forest α} {parent : α}
    (hparent : forest.spine[k]? = some parent) (hnodup : forest.preorder.Nodup)
    (hmark : mark parent = note parent) (hother : ∀ a ∈ forest.preorder, a ≠ parent → mark a = a) :
    (graft note new (k + 1) forest).preorder = forest.preorder.map mark ++ [new] := by
  induction forest generalizing k with
  | nil => simp at hparent
  | cons a below after ihBelow ihAfter =>
    rw [preorder_cons, List.nodup_cons, List.nodup_append] at hnodup
    obtain ⟨ha, hbelow, hafter, hapart⟩ := hnodup
    cases after with
    | nil =>
      simp only [graft, preorder_cons, preorder_nil, List.append_nil, List.map_cons,
        List.cons_append] at ha ⊢
      cases k with
      | zero =>
        simp only [spine_last, List.getElem?_cons_zero, Option.some.injEq] at hparent
        subst hparent
        have hsame : below.preorder.map mark = below.preorder := by
          conv_rhs => rw [← List.map_id below.preorder]
          refine List.map_congr_left fun b hb => hother b (by simp [hb]) ?_
          rintro rfl
          exact ha hb
        rw [if_pos rfl, preorder_graft_zero, hmark, hsame]
      | succ j =>
        simp only [spine_last, List.getElem?_cons_succ] at hparent
        have hmem := mem_preorder_of_mem_spine (List.mem_of_getElem? hparent)
        have hne : a ≠ parent := by
          rintro rfl
          exact ha hmem
        rw [if_neg (by omega), ihBelow hparent hbelow fun b hb => hother b (by simp [hb]),
          hother a (by simp) hne]
    | cons b below' after' =>
      have hedge : (cons b below' after').spine[k]? = some parent := hparent
      have hmem := mem_preorder_of_mem_spine (List.mem_of_getElem? hedge)
      have hne : ∀ c ∈ a :: below.preorder, c ≠ parent := by
        intro c hc
        rintro rfl
        rcases List.mem_cons.mp hc with rfl | hc
        · exact ha (List.mem_append_right _ hmem)
        · exact hapart c hc c hmem rfl
      have hsame : (a :: below.preorder).map mark = a :: below.preorder := by
        conv_rhs => rw [← List.map_id (a :: below.preorder)]
        refine List.map_congr_left fun c hc => hother c ?_ (hne c hc)
        rw [preorder_cons, ← List.cons_append]
        exact List.mem_append_left _ hc
      have hrest := ihAfter hparent hafter fun c hc =>
        hother c (List.mem_cons_of_mem _ (List.mem_append_right _ hc))
      show a :: (below.preorder ++ (graft note new (k + 1) (cons b below' after')).preorder) = _
      rw [hrest, preorder_cons a, ← List.cons_append, ← List.cons_append, List.map_append, hsame,
        List.append_assoc]

end Graft

section All

variable {name : α → γ} {ok : List γ → α → List γ → Prop}

/-- Every node is right for the names of its ancestors, outermost first, and of its children. -/
def All (name : α → γ) (ok : List γ → α → List γ → Prop) : List γ → Forest α → Prop
  | _, nil => True
  | ancestors, cons a below after =>
    ok ancestors a (below.roots.map name) ∧ All name ok (ancestors ++ [name a]) below ∧
      All name ok ancestors after

/-- A node has the outer ancestors, or a parent that comes before it. -/
theorem All.mem {ancestors : List γ} {forest : Forest α} (h : All name ok ancestors forest)
    {a : α} (ha : a ∈ forest.preorder) :
    ∃ outer children, ok outer a children ∧ (outer = ancestors ∨
      ∃ parent, outer.getLast? = some (name parent) ∧ [parent, a].Sublist forest.preorder) := by
  induction forest generalizing ancestors with
  | nil => cases ha
  | cons b below after ihBelow ihAfter =>
    obtain ⟨hb, hbelow, hafter⟩ := h
    rw [preorder_cons] at ha ⊢
    rcases List.mem_cons.mp ha with rfl | ha
    · exact ⟨ancestors, _, hb, .inl rfl⟩
    · rcases List.mem_append.mp ha with ha | ha
      · obtain ⟨outer, children, hok, hplace⟩ := ihBelow hbelow ha
        refine ⟨outer, children, hok, .inr ?_⟩
        rcases hplace with rfl | ⟨parent, hlast, hsub⟩
        · refine ⟨b, by simp, List.Sublist.cons_cons b ?_⟩
          exact List.singleton_sublist.mpr (List.mem_append_left _ ha)
        · exact ⟨parent, hlast, (hsub.trans (List.sublist_append_left _ _)).cons b⟩
      · obtain ⟨outer, children, hok, hplace⟩ := ihAfter hafter ha
        refine ⟨outer, children, hok, ?_⟩
        rcases hplace with rfl | ⟨parent, hlast, hsub⟩
        · exact .inl rfl
        · exact .inr ⟨parent, hlast, (hsub.trans (List.sublist_append_right _ _)).cons b⟩

/-- The ancestors of a node of the right edge are the nodes of the edge above it. -/
theorem All.spine {ancestors : List γ} {forest : Forest α} (h : All name ok ancestors forest)
    {k : Nat} {a : α} (ha : forest.spine[k]? = some a) :
    ∃ children, ok (ancestors ++ (forest.spine.map name).take k) a children := by
  induction forest generalizing ancestors k with
  | nil => simp at ha
  | cons b below after ihBelow ihAfter =>
    obtain ⟨hb, hbelow, hafter⟩ := h
    cases after with
    | nil =>
      cases k with
      | zero =>
        simp only [spine_last, List.getElem?_cons_zero, Option.some.injEq] at ha
        subst ha
        exact ⟨_, by simpa using hb⟩
      | succ j =>
        simp only [spine_last, List.getElem?_cons_succ] at ha
        obtain ⟨children, hok⟩ := ihBelow hbelow ha
        exact ⟨children, by simpa using hok⟩
    | cons c below' after' => exact ihAfter hafter ha

/-- A node added at the right edge is right if its ancestors are those of its place, and its
parent is if it is right with one child more. -/
theorem All.graft {note : α → α} {new : α} {ancestors : List γ} {forest : Forest α} {k : Nat}
    (h : All name ok ancestors forest) (hspine : k ≤ forest.spine.length)
    (hname : ∀ a, name (note a) = name a)
    (hnote : ∀ outer a children, ok outer a children → ok outer (note a) (children ++ [name new]))
    (hnew : ok (ancestors ++ (forest.spine.map name).take k) new []) :
    All name ok ancestors (graft note new k forest) := by
  induction forest generalizing ancestors k with
  | nil =>
    simp only [spine_nil, List.length_nil, Nat.le_zero] at hspine
    subst hspine
    exact ⟨by simpa using hnew, trivial, trivial⟩
  | cons a below after ihBelow ihAfter =>
    obtain ⟨ha, hbelow, hafter⟩ := h
    cases after with
    | nil =>
      cases k with
      | zero => exact ⟨ha, hbelow, by simpa using hnew, trivial, trivial⟩
      | succ j =>
        simp only [spine_last, List.length_cons, Nat.add_le_add_iff_right] at hspine
        have hinner : All name ok (ancestors ++ [name a]) (Forest.graft note new j below) :=
          ihBelow hbelow hspine (by simpa using hnew)
        cases j with
        | zero =>
          refine ⟨?_, by rwa [if_pos rfl, hname], trivial⟩
          rw [if_pos rfl, roots_graft_zero, List.map_append]
          exact hnote _ _ _ ha
        | succ i =>
          refine ⟨?_, by rwa [if_neg (by omega)], trivial⟩
          rw [if_neg (by omega), roots_graft hname (by omega) hspine]
          exact ha
    | cons b below' after' =>
      have hrest := ihAfter hafter hspine hnew
      have hgraft : Forest.graft note new k (cons a below (cons b below' after')) =
          cons a below (Forest.graft note new k (cons b below' after')) := by cases k <;> rfl
      rw [hgraft]
      exact ⟨ha, hbelow, hrest⟩

end All

section Children

variable [DecidableEq γ] {name : α → γ} {ok : List γ → α → List γ → Prop} {parent : α → Option γ}

/-- Below a node that is elsewhere, no node names it as its parent. -/
theorem All.filter_elsewhere (hok : ∀ outer a children, ok outer a children →
      parent a = outer.getLast?) {ancestors : List γ} {forest : Forest α}
    (h : All name ok ancestors forest) (key : γ) (hkey : ∀ a ∈ forest.preorder, name a ≠ key)
    (hlast : ancestors.getLast? ≠ some key) :
    forest.preorder.filter (parent · = some key) = [] := by
  refine List.filter_eq_nil_iff.mpr fun a ha => ?_
  obtain ⟨outer, children, hright, hplace⟩ := h.mem ha
  rw [hok _ _ _ hright, decide_eq_true_eq]
  rcases hplace with rfl | ⟨p, hp, hsub⟩
  · exact hlast
  · rw [hp, Option.some.injEq]
    exact hkey p (hsub.subset List.mem_cons_self)

/-- The nodes with the innermost outer ancestor as their parent are the roots. -/
theorem All.filter_roots (hok : ∀ outer a children, ok outer a children →
      parent a = outer.getLast?) {ancestors : List γ} {forest : Forest α}
    (h : All name ok ancestors forest) {key : Option γ} (hlast : ancestors.getLast? = key)
    (hkey : ∀ a ∈ forest.preorder, some (name a) ≠ key) :
    forest.preorder.filter (parent · = key) = forest.roots := by
  induction forest with
  | nil => rfl
  | cons a below after _ ih =>
    obtain ⟨ha, hbelow, hafter⟩ := h
    have hself : parent a = key := (hok _ _ _ ha).trans hlast
    have hbelowNone : below.preorder.filter (parent · = key) = [] := by
      refine List.filter_eq_nil_iff.mpr fun b hb => ?_
      obtain ⟨outer, children, hright, hplace⟩ := hbelow.mem hb
      rw [hok _ _ _ hright, decide_eq_true_eq]
      rcases hplace with rfl | ⟨p, hp, hsub⟩
      · rw [List.getLast?_concat]
        exact hkey a List.mem_cons_self
      · rw [hp]
        exact hkey p (List.mem_cons_of_mem _ (List.mem_append_left _
          (hsub.subset List.mem_cons_self)))
    rw [preorder_cons, List.filter_cons_of_pos (by simpa using hself), List.filter_append,
      hbelowNone, List.nil_append, ih hafter fun b hb =>
        hkey b (List.mem_cons_of_mem _ (List.mem_append_right _ hb)), roots_cons]

/-- With distinct names, the nodes that name a node as their parent are its children. -/
theorem All.filter_children (hok : ∀ outer a children, ok outer a children →
      parent a = outer.getLast?) {ancestors : List γ} {forest : Forest α}
    (h : All name ok ancestors forest) (hnodup : (forest.preorder.map name).Nodup)
    (houter : ∀ a ∈ forest.preorder, name a ∉ ancestors) {a : α} (ha : a ∈ forest.preorder) :
    ∃ outer, ok outer a ((forest.preorder.filter (parent · = some (name a))).map name) := by
  induction forest generalizing ancestors with
  | nil => cases ha
  | cons b below after ihBelow ihAfter =>
    have hwhole := h
    obtain ⟨hb, hbelow, hafter⟩ := h
    rw [preorder_cons, List.map_cons, List.map_append, List.nodup_cons, List.nodup_append] at hnodup
    obtain ⟨hbnew, hbelowNodup, hafterNodup, hapart⟩ := hnodup
    have hlastNe : ∀ c ∈ (cons b below after).preorder, ancestors.getLast? ≠ some (name c) := by
      intro c hc hlast
      exact houter c hc (List.mem_of_getLast? hlast)
    have hbParent : parent b ≠ some (name a) := by
      rw [hok _ _ _ hb]
      exact hlastNe a ha
    rw [preorder_cons, List.filter_cons_of_neg (by simpa using hbParent), List.filter_append]
    have hbelowName : ∀ c ∈ below.preorder, name c ≠ name b := fun c hc heq =>
      hbnew (heq ▸ List.mem_append_left _ (List.mem_map_of_mem hc))
    have hafterName : ∀ c ∈ after.preorder, name c ≠ name b := fun c hc heq =>
      hbnew (heq ▸ List.mem_append_right _ (List.mem_map_of_mem hc))
    rcases List.mem_cons.mp ha with rfl | ha'
    · refine ⟨ancestors, ?_⟩
      rw [hbelow.filter_roots hok List.getLast?_concat fun c hc heq =>
          hbelowName c hc (Option.some.inj heq),
        hafter.filter_elsewhere hok _ hafterName (hlastNe a ha), List.append_nil]
      exact hb
    · rcases List.mem_append.mp ha' with hin | hin
      · have hafterNone := hafter.filter_elsewhere hok (name a)
          (fun c hc heq => hapart _ (List.mem_map_of_mem hin) _ (List.mem_map_of_mem hc) heq.symm)
          (hlastNe a ha)
        rw [hafterNone, List.append_nil]
        refine ihBelow hbelow hbelowNodup (fun c hc hmem => ?_) hin
        rcases List.mem_append.mp hmem with hmem | hmem
        · exact houter c (List.mem_cons_of_mem _ (List.mem_append_left _ hc)) hmem
        · exact hbelowName c hc (List.mem_singleton.mp hmem)
      · have hbelowNone := hbelow.filter_elsewhere hok (name a)
          (fun c hc heq => hapart _ (List.mem_map_of_mem hc) _ (List.mem_map_of_mem hin) heq)
          (by
            rw [List.getLast?_concat, ne_eq, Option.some.injEq]
            exact fun heq => hafterName a hin heq.symm)
        rw [hbelowNone, List.nil_append]
        exact ihAfter hafter hafterNodup
          (fun c hc => houter c (List.mem_cons_of_mem _ (List.mem_append_right _ hc))) hin

end Children

end Forest

end ConfigAuditor.Library
