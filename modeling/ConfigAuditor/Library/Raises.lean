import Mathlib.Data.List.Basic

/-!
# The exceptions a computation can raise

`Raises p x` says that a computation ends well or with an exception in `p`. A sequence raises
what its steps raise that are reached.
-/
namespace ConfigAuditor.Library

variable {ε α β σ : Type}

/-- The computation raises nothing outside of `p`. -/
def Raises (p : ε → Prop) (x : Except ε α) : Prop := ∀ e, x = .error e → p e

namespace Raises

variable {p : ε → Prop}

@[simp] theorem ok (a : α) : Raises p (.ok a) ↔ True := by
  simp [Raises]

@[simp] theorem pure (a : α) : Raises p (Pure.pure a : Except ε α) ↔ True := ok a

@[simp] theorem error (e : ε) : Raises p (.error e : Except ε α) ↔ p e := by
  simp [Raises]

/-- A step and the computation behind it. -/
theorem bind {x : Except ε α} {f : α → Except ε β} :
    Raises p (x >>= f) ↔ Raises p x ∧ ∀ a, x = .ok a → Raises p (f a) := by
  cases x with
  | error e =>
    refine ⟨fun h => ⟨fun e' he => h e' (by cases he; rfl), fun a ha => nomatch ha⟩, fun h => ?_⟩
    intro e' he
    cases he
    exact h.1 e rfl
  | ok a =>
    refine ⟨fun h => ⟨fun e he => (nomatch he), fun b hb => ?_⟩, fun h => h.2 a rfl⟩
    cases hb
    exact h

@[simp] theorem map {x : Except ε α} {f : α → β} : Raises p (f <$> x) ↔ Raises p x := by
  cases x <;> simp [Raises, Functor.map, Except.map]

/-- A loop that collects results raises what its first failing turn raises. -/
theorem mapM {f : α → Except ε β} {xs : List α} :
    Raises p (xs.mapM f) ↔ ∀ front x rest, xs = front ++ x :: rest →
      (∀ y ∈ front, ∃ b, f y = .ok b) → Raises p (f x) := by
  induction xs with
  | nil =>
    simp
  | cons y ys ih =>
    rw [List.mapM_cons, bind]
    constructor
    · rintro ⟨hy, hrest⟩ front x rest heq hfront
      cases front with
      | nil =>
        obtain ⟨rfl, -⟩ := List.cons.inj heq
        exact hy
      | cons z front =>
        obtain ⟨rfl, rfl⟩ := List.cons.inj heq
        obtain ⟨b, hb⟩ := hfront y List.mem_cons_self
        exact ih.mp (bind.mp (hrest b hb)).1 front x rest rfl
          fun z hz => hfront z (List.mem_cons_of_mem _ hz)
    · intro h
      refine ⟨h [] y ys rfl (by simp), fun b hb => bind.mpr ⟨ih.mpr ?_, fun _ _ => by simp⟩⟩
      intro front x rest heq hfront
      refine h (y :: front) x rest (by rw [heq]; rfl) fun z hz => ?_
      rcases List.mem_cons.mp hz with rfl | hz
      · exact ⟨b, hb⟩
      · exact hfront z hz

/-- A loop of checks raises what its first failing check raises. -/
theorem forM {f : α → Except ε Unit} {xs : List α} :
    Raises p (xs.forM f) ↔ ∀ front x rest, xs = front ++ x :: rest →
      (∀ y ∈ front, f y = .ok ()) → Raises p (f x) := by
  induction xs with
  | nil =>
    simp [List.forM]
  | cons y ys ih =>
    change Raises p (f y >>= fun _ => ys.forM f) ↔ _
    rw [bind]
    constructor
    · rintro ⟨hy, hrest⟩ front x rest heq hfront
      cases front with
      | nil =>
        obtain ⟨rfl, -⟩ := List.cons.inj heq
        exact hy
      | cons z front =>
        obtain ⟨rfl, rfl⟩ := List.cons.inj heq
        exact ih.mp (hrest () (hfront y List.mem_cons_self)) front x rest rfl
          fun z hz => hfront z (List.mem_cons_of_mem _ hz)
    · intro h
      refine ⟨h [] y ys rfl (by simp), fun _ hb => ih.mpr ?_⟩
      intro front x rest heq hfront
      refine h (y :: front) x rest (by rw [heq]; rfl) fun z hz => ?_
      rcases List.mem_cons.mp hz with rfl | hz
      · exact hb
      · exact hfront z hz

/-- A loop over a state raises what its first failing turn raises. -/
theorem foldlM {f : σ → α → Except ε σ} {s : σ} {xs : List α} :
    Raises p (xs.foldlM f s) ↔ ∀ front x rest t, xs = front ++ x :: rest →
      front.foldlM f s = .ok t → Raises p (f t x) := by
  induction xs generalizing s with
  | nil =>
    simp
  | cons y ys ih =>
    rw [List.foldlM_cons, bind]
    constructor
    · rintro ⟨hy, hrest⟩ front x rest t heq hfront
      cases front with
      | nil =>
        obtain ⟨rfl, -⟩ := List.cons.inj heq
        cases hfront
        exact hy
      | cons z front =>
        obtain ⟨rfl, rfl⟩ := List.cons.inj heq
        rw [List.foldlM_cons] at hfront
        cases hz : f s y with
        | error e => rw [hz] at hfront; cases hfront
        | ok u =>
          rw [hz] at hfront
          exact ih.mp (hrest u hz) front x rest t rfl hfront
    · intro h
      refine ⟨h [] y ys s rfl rfl, fun u hu => ih.mpr ?_⟩
      intro front x rest t heq hfront
      refine h (y :: front) x rest t (by rw [heq]; rfl) ?_
      rw [List.foldlM_cons, hu]
      exact hfront

end Raises

end ConfigAuditor.Library
