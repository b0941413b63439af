import Mathlib.Algebra.BigOperators.Group.List.Basic
import Mathlib.Algebra.GroupWithZero.Nat
import ConfigAuditor.Library.Dict

/-!
# Tallies

A record of counts is filled by one pass over a list. Each of its counts is the number of
items that add to it, and the counts of a list are those of its parts.
-/
namespace ConfigAuditor.Library.Tallies

variable {α β σ : Type*} {step : σ → α → σ}

/-- What an item adds to a count. -/
def weight (p : α → Bool) (a : α) : Nat := if p a then 1 else 0

/-- A count that every item in `p` raises by one. -/
theorem foldl_count (count : σ → Nat) {p : α → Bool}
    (hstep : ∀ s a, count (step s a) = count s + weight p a) (s : σ) (items : List α) : count (items.foldl step s) = count s + items.countP p := by
  induction items generalizing s with
  | nil => simp
  | cons a rest ih =>
    rw [List.foldl_cons, ih, hstep, List.countP_cons, weight]
    omega

/-- The items that are in neither of two parts of `p` are none. -/
theorem countP_split {p q r : α → Bool} {items : List α}
    (h : ∀ a ∈ items, weight p a = weight q a + weight r a) :
    items.countP p = items.countP q + items.countP r := by
  induction items with
  | nil => rfl
  | cons a rest ih =>
    have hrest := ih fun b hb => h b (List.mem_cons_of_mem a hb)
    have ha := h a List.mem_cons_self
    rw [List.countP_cons, List.countP_cons, List.countP_cons, hrest]
    unfold weight at ha
    omega

/-- The items of a table that belong to some owner, counted owner by owner. -/
theorem countP_owned [DecidableEq β] {owner : α → β} {p : α → Bool} {items : List α}
    {owners : List β} (howners : owners.Nodup) :
    (items.filter fun a => owners.contains (owner a)).countP p =
      (owners.map fun b => (items.filter fun a => owner a == b).countP p).sum := by
  induction owners with
  | nil => simp
  | cons b rest ih =>
    obtain ⟨hb, hrest⟩ := List.nodup_cons.mp howners
    rw [List.map_cons, List.sum_cons, ← ih hrest]
    simp only [List.countP_filter]
    refine countP_split fun a _ => ?_
    by_cases hab : owner a = b
    · subst hab
      simp [weight, hb]
    · simp [weight, hab]

section Counts

variable {κ : Type*} [DecidableEq κ]

/-- The counts after one more value. -/
def counted (counts : List (κ × Nat)) (value : κ) : List (κ × Nat) :=
  Dict.set counts value ((Dict.get? counts value).getD 0 + 1)

theorem getD_foldl_counted (counts : List (κ × Nat)) (values : List κ) (value : κ) :
    (Dict.get? (values.foldl counted counts) value).getD 0 =
      (Dict.get? counts value).getD 0 + values.count value := by
  induction values generalizing counts with
  | nil => simp
  | cons first rest ih =>
    rw [List.foldl_cons, ih, counted, Dict.get?_set, List.count_cons]
    by_cases heq : first = value
    · subst heq
      simp
      omega
    · simp [heq]

theorem isSome_foldl_counted (counts : List (κ × Nat)) (values : List κ) (value : κ) :
    (Dict.get? (values.foldl counted counts) value).isSome =
      ((Dict.get? counts value).isSome || values.contains value) := by
  induction values generalizing counts with
  | nil => simp
  | cons first rest ih =>
    rw [List.foldl_cons, ih, counted, Dict.get?_set, List.contains_cons]
    by_cases heq : first = value
    · subst heq
      simp
    · have hne : (value == first) = false := by simpa using Ne.symm heq
      simp [heq, hne]

/-- A key has the number of its values, and none has no key. -/
theorem get?_foldl_counted (values : List κ) (value : κ) :
    Dict.get? (values.foldl counted []) value =
      if value ∈ values then some (values.count value) else none := by
  have hsome := isSome_foldl_counted [] values value
  have hcount := getD_foldl_counted [] values value
  cases hfound : Dict.get? (values.foldl counted []) value with
  | none =>
    rw [hfound] at hsome
    rw [if_neg (by simpa using hsome)]
  | some n =>
    rw [hfound] at hsome hcount
    rw [if_pos (by simpa using hsome)]
    simpa using hcount

end Counts

end ConfigAuditor.Library.Tallies
