import Mathlib.Order.PiLex

/-!
# The numeric order of dotted numbers

A list of components is read as if zeros followed it without end, and two numbers are compared at
their first different component. The order of lists puts a list before what continues it, so the
two orders differ where one list is the other followed by zeros.
-/
namespace ConfigAuditor.Library.DottedOrder

/-- The components, with the missing ones read as zero. -/
def number (x : List Nat) : Lex (Nat → Nat) := toLex fun i => x.getD i 0

theorem number_apply (x : List Nat) (i : Nat) : number x i = x.getD i 0 := rfl

theorem number_inj {x y : List Nat} : number x = number y ↔ ∀ i, x.getD i 0 = y.getD i 0 :=
  funext_iff

theorem number_cons_eq {a b : Nat} {x y : List Nat} :
    number (a :: x) = number (b :: y) ↔ a = b ∧ number x = number y := by
  rw [number_inj, number_inj]
  constructor
  · intro h
    exact ⟨h 0, fun i => h (i + 1)⟩
  · rintro ⟨hhead, htail⟩ i
    cases i with
    | zero => exact hhead
    | succ i => exact htail i

theorem number_cons_lt {a b : Nat} {x y : List Nat} :
    number (a :: x) < number (b :: y) ↔ a < b ∨ (a = b ∧ number x < number y) := by
  constructor
  · rintro ⟨i, hbefore, hi⟩
    cases i with
    | zero => exact .inl hi
    | succ i =>
      exact .inr ⟨hbefore 0 (by omega), i, fun j hj => hbefore (j + 1) (by omega), hi⟩
  · rintro (hlt | ⟨rfl, i, hbefore, hi⟩)
    · exact ⟨0, nofun, hlt⟩
    · refine ⟨i + 1, fun j hj => ?_, hi⟩
      cases j with
      | zero => rfl
      | succ j => exact hbefore j (by omega)

/-- Nothing is below zero. -/
theorem not_lt_nil (x : List Nat) : ¬ number x < number [] := by
  rintro ⟨i, -, hi⟩
  exact absurd hi (Nat.not_lt_zero _)

theorem nil_le (x : List Nat) : number [] ≤ number x :=
  not_lt.mp (not_lt_nil x)

theorem number_append_zero (x : List Nat) : number (x ++ [0]) = number x := by
  rw [number_inj]
  intro i
  rw [List.getD_eq_getElem?_getD, List.getD_eq_getElem?_getD, List.getElem?_append]
  split
  · rfl
  · next hi =>
    rw [List.getElem?_eq_none (by omega : x.length ≤ i)]
    cases i - x.length <;> simp

/-- The components up to a place. -/
theorem number_take (x : List Nat) (n i : Nat) :
    number (x.take n) i = if i < n then number x i else 0 := by
  rw [number_apply, number_apply, List.getD_eq_getElem?_getD, List.getElem?_take,
    List.getD_eq_getElem?_getD]
  split <;> rfl

theorem take_congr {x y : List Nat} (n : Nat) (h : number x = number y) :
    number (x.take n) = number (y.take n) := by
  funext i
  rw [number_take, number_take, h]

theorem take_mono {x y : List Nat} (n : Nat) (h : number x ≤ number y) :
    number (x.take n) ≤ number (y.take n) := by
  obtain heq | ⟨i, hbefore, hi⟩ := h.eq_or_lt
  · exact (take_congr n heq).le
  · by_cases hin : i < n
    · refine le_of_lt ⟨i, fun j hj => ?_, ?_⟩
      · rw [number_take, number_take, if_pos (by omega), if_pos (by omega), hbefore j hj]
      · rw [number_take, number_take, if_pos hin, if_pos hin]
        exact hi
    · apply le_of_eq
      funext j
      rw [number_take, number_take]
      split
      · next hj => exact hbefore j (by omega)
      · rfl

/-- A list that is not longer is above a bound in both orders or in neither. -/
theorem lt_iff_number_lt {bound : List Nat} {x : List Nat} (h : x.length ≤ bound.length) :
    bound < x ↔ number bound < number x := by
  induction bound generalizing x with
  | nil =>
    rw [List.length_nil, Nat.le_zero, List.length_eq_zero_iff] at h
    subst h
    exact iff_of_false (List.lt_irrefl []) (lt_irrefl _)
  | cons b bound ih =>
    cases x with
    | nil => exact iff_of_false (List.not_lt_nil _) (not_lt_nil _)
    | cons a x =>
      rw [List.cons_lt_cons_iff, number_cons_lt, ih (Nat.le_of_succ_le_succ h)]

/-- A list that is not longer is below a bound numerically, or it is the bound without some
zeros at its end. -/
theorem lt_iff_number_lt_or {bound : List Nat} {x : List Nat} (h : x.length ≤ bound.length) :
    x < bound ↔ number x < number bound ∨
      (number x = number bound ∧ x.length < bound.length) := by
  induction bound generalizing x with
  | nil =>
    refine iff_of_false (List.not_lt_nil _) ?_
    rintro (hlt | ⟨-, hlt⟩)
    · exact not_lt_nil _ hlt
    · exact absurd hlt (Nat.not_lt_zero _)
  | cons b bound ih =>
    cases x with
    | nil =>
      refine iff_of_true (List.nil_lt_cons b bound) ?_
      obtain heq | hlt := (nil_le (b :: bound)).eq_or_lt
      · exact .inr ⟨heq, Nat.succ_pos _⟩
      · exact .inl hlt
    | cons a x =>
      rw [List.cons_lt_cons_iff, number_cons_lt, number_cons_eq,
        ih (Nat.le_of_succ_le_succ h), List.length_cons, List.length_cons, Nat.add_lt_add_iff_right]
      constructor
      · rintro (hlt | ⟨heq, hlt | ⟨hnumber, hlength⟩⟩)
        · exact .inl (.inl hlt)
        · exact .inl (.inr ⟨heq, hlt⟩)
        · exact .inr ⟨⟨heq, hnumber⟩, hlength⟩
      · rintro ((hlt | ⟨heq, hlt⟩) | ⟨⟨heq, hnumber⟩, hlength⟩)
        · exact .inl hlt
        · exact .inr ⟨heq, .inl hlt⟩
        · exact .inr ⟨heq, .inr ⟨hnumber, hlength⟩⟩

end ConfigAuditor.Library.DottedOrder
