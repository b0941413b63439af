import Mathlib.Data.List.Nodup

/-!
# Tables with a primary key

A table is the list of its rows. An update goes to the rows with one key, an insertion
is refused when the key is taken.
-/
namespace ConfigAuditor.Library.Table

variable {ρ κ : Type*} [DecidableEq κ] (key : ρ → κ)

def find? (rows : List ρ) (k : κ) : Option ρ := rows.find? fun r => key r = k

/-- The rows after one of them is changed. -/
def modify (rows : List ρ) (k : κ) (f : ρ → ρ) : List ρ :=
  rows.map fun r => if key r = k then f r else r

def insert? (rows : List ρ) (r : ρ) : Option (List ρ) :=
  if rows.any fun other => key other = key r then none else some (rows ++ [r])

variable {key} {rows rows' : List ρ} {k : κ} {r : ρ} {f : ρ → ρ}

theorem find?_eq_some (h : find? key rows k = some r) : r ∈ rows ∧ key r = k := by
  unfold find? at h
  exact ⟨List.mem_of_find?_eq_some h, by simpa using List.find?_some h⟩

/-- Each row after an update is an old row, changed if it has the key. -/
theorem mem_modify : r ∈ modify key rows k f ↔
    ∃ old ∈ rows, r = if key old = k then f old else old := by
  simp [modify, eq_comm]

omit [DecidableEq κ] in
/-- Rows that keep their keys. -/
theorem map_keys (h : ∀ r ∈ rows, key (f r) = key r) : (rows.map f).map key = rows.map key := by
  rw [List.map_map]
  exact List.map_congr_left h

theorem modify_keys (hkey : ∀ old, key (f old) = key old) :
    (modify key rows k f).map key = rows.map key := by
  refine map_keys fun old _ => ?_
  split
  · exact hkey old
  · rfl

theorem find?_modify (hkey : ∀ old, key (f old) = key old) :
    find? key (modify key rows k f) k = (find? key rows k).map f := by
  unfold find? modify
  rw [List.find?_map]
  have hsame : ((fun r => decide (key r = k)) ∘ fun r => if key r = k then f r else r) =
      fun r => decide (key r = k) := by
    funext r
    by_cases hr : key r = k
    · simp [hr, hkey]
    · simp [hr]
  rw [hsame]
  cases hfound : rows.find? fun r => decide (key r = k) with
  | none => rfl
  | some r =>
    have hr : key r = k := by simpa using List.find?_some hfound
    simp [hr]

theorem insert?_eq_some (h : insert? key rows r = some rows') :
    rows' = rows ++ [r] ∧ ∀ other ∈ rows, key other ≠ key r := by
  unfold insert? at h
  split at h
  · cases h
  · rename_i hfree
    exact ⟨(Option.some.inj h).symm, by simpa using hfree⟩

omit [DecidableEq κ] in
theorem append_nodup (hrows : (rows.map key).Nodup) (hfree : ∀ other ∈ rows, key other ≠ key r) :
    ((rows ++ [r]).map key).Nodup := by
  rw [List.map_append, List.map_singleton]
  refine List.nodup_append.mpr ⟨hrows, List.nodup_singleton _, ?_⟩
  rintro a ha b hb rfl
  obtain ⟨other, hother, hkey⟩ := List.mem_map.mp ha
  exact hfree other hother (hkey.trans (List.mem_singleton.mp hb))

theorem insert?_nodup (hrows : (rows.map key).Nodup) (h : insert? key rows r = some rows') :
    (rows'.map key).Nodup := by
  obtain ⟨rfl, hfree⟩ := insert?_eq_some h
  exact append_nodup hrows hfree

section Fresh

variable (hfree : ∀ other ∈ rows, key other ≠ key r)
include hfree

theorem insert?_fresh : insert? key rows r = some (rows ++ [r]) := by
  unfold insert?
  rw [if_neg (by simpa using hfree)]

theorem find?_fresh : find? key (rows ++ [r]) (key r) = some r := by
  unfold find?
  have hnone : rows.find? (fun other => decide (key other = key r)) = none := by
    simpa using hfree
  rw [List.find?_append, hnone]
  simp

theorem modify_fresh : modify key (rows ++ [r]) (key r) f = rows ++ [f r] := by
  have hkept : rows.map (fun other => if key other = key r then f other else other) = rows := by
    conv_rhs => rw [← List.map_id rows]
    refine List.map_congr_left fun other hother => ?_
    rw [if_neg (hfree other hother), id]
  simp [modify, hkept]

end Fresh

omit [DecidableEq κ] in
/-- The row with a key is the only one. -/
theorem eq_of_key (hrows : (rows.map key).Nodup) {a b : ρ} (ha : a ∈ rows) (hb : b ∈ rows)
    (h : key a = key b) : a = b :=
  List.inj_on_of_nodup_map hrows ha hb h

theorem find?_of_mem (hrows : (rows.map key).Nodup) (hr : r ∈ rows) :
    find? key rows (key r) = some r := by
  obtain ⟨found, hfound⟩ : ∃ found, find? key rows (key r) = some found := by
    refine Option.isSome_iff_exists.mp (List.find?_isSome.mpr ⟨r, hr, ?_⟩)
    exact decide_eq_true rfl
  obtain ⟨hmem, hkey⟩ := find?_eq_some hfound
  rw [hfound, eq_of_key hrows hmem hr hkey]

omit [DecidableEq κ] in
/-- A search that an update of the rows does not change. -/
theorem find?_map_congr {p : ρ → Bool} (h : ∀ r ∈ rows, p (f r) = p r) :
    (rows.map f).find? p = (rows.find? p).map f := by
  induction rows with
  | nil => rfl
  | cons r rest ih =>
    have hr := h r List.mem_cons_self
    rw [List.map_cons, List.find?_cons, List.find?_cons, hr,
      ih fun other hother => h other (List.mem_cons_of_mem r hother)]
    cases p r <;> rfl

theorem find?_modify_other (hkey : ∀ old, key (f old) = key old) {other : κ} (hne : other ≠ k) :
    find? key (modify key rows k f) other = find? key rows other := by
  unfold find? modify
  rw [find?_map_congr]
  · cases hfound : rows.find? fun r => decide (key r = other) with
    | none => rfl
    | some r =>
      have hr : key r = other := by simpa using List.find?_some hfound
      simp [hr, hne]
  · intro r _
    split <;> simp [hkey]

theorem find?_append : find? key (rows ++ [r]) k =
    (find? key rows k).or (if key r = k then some r else none) := by
  unfold find?
  rw [List.find?_append]
  by_cases hr : key r = k <;> simp [hr]

/-- The rows without the one with a key. -/
theorem find?_erase {other : κ} : find? key (rows.filter fun r => key r ≠ k) other =
    if other = k then none else find? key rows other := by
  unfold find?
  rw [List.find?_filter]
  split
  next heq =>
    subst heq
    rw [List.find?_eq_none]
    intro r _
    simp
  next hne =>
    congr 1
    funext r
    by_cases hr : key r = other <;> simp [hr, hne]

section Replace

variable {new : ρ} (hnew : key new = k)
include hnew

theorem replace_keys : (modify key rows k fun _ => new).map key = rows.map key := by
  refine map_keys fun r _ => ?_
  split
  next heq => rw [hnew, heq]
  next => rfl

theorem find?_replace {other : κ} : find? key (modify key rows k fun _ => new) other =
    if other = k then (find? key rows other).map fun _ => new else find? key rows other := by
  unfold find? modify
  rw [find?_map_congr]
  · cases hfound : rows.find? fun r => decide (key r = other) with
    | none => simp
    | some r =>
      have hr : key r = other := by simpa using List.find?_some hfound
      simp only [Option.map_some, hr]
      split <;> rfl
  · intro r _
    split
    next heq => rw [hnew, heq]
    next => rfl

end Replace

section Part

variable {p : ρ → Bool}

theorem find?_filter (hrows : (rows.map key).Nodup) :
    find? key (rows.filter p) k = (find? key rows k).filter p := by
  induction rows with
  | nil => rfl
  | cons r rest ih =>
    obtain ⟨hfree, hrest⟩ := List.nodup_cons.mp hrows
    have hcons : find? key (r :: rest) k = if key r = k then some r else find? key rest k := by
      unfold find?
      rw [List.find?_cons]
      by_cases hr : key r = k <;> simp [hr]
    by_cases hr : key r = k
    · rw [hcons, if_pos hr, Option.filter_some]
      cases hp : p r with
      | true =>
        rw [List.filter_cons_of_pos hp]
        simp [find?, hr]
      | false =>
        rw [List.filter_cons_of_neg (by simp [hp]), ih hrest]
        have hnone : find? key rest k = none := by
          refine List.find?_eq_none.mpr fun other hother hkey => hfree ?_
          have hsame : key other = key r := (of_decide_eq_true hkey).trans hr.symm
          exact hsame ▸ List.mem_map_of_mem hother
        simp [hnone]
    · rw [hcons, if_neg hr, ← ih hrest]
      cases hp : p r with
      | true =>
        rw [List.filter_cons_of_pos hp]
        simp [find?, hr]
      | false => rw [List.filter_cons_of_neg (by simp [hp])]

theorem modify_filter (hp : ∀ r, p (f r) = p r) :
    (modify key rows k f).filter p = modify key (rows.filter p) k f := by
  unfold modify
  rw [List.filter_map]
  congr 1
  refine List.filter_congr fun r _ => ?_
  rw [Function.comp_apply]
  split
  · exact hp r
  · rfl

theorem modify_filter_other (hother : ∀ r ∈ rows, key r = k → p r = false)
    (hp : ∀ r, p (f r) = p r) : (modify key rows k f).filter p = rows.filter p := by
  rw [modify_filter hp]
  unfold modify
  conv_rhs => rw [← List.map_id (rows.filter p)]
  refine List.map_congr_left fun r hr => ?_
  obtain ⟨hmem, hpr⟩ := List.mem_filter.mp hr
  rw [if_neg, id]
  intro hkey
  rw [hother r hmem hkey] at hpr
  cases hpr

end Part

end ConfigAuditor.Library.Table
