import Mathlib.Logic.Basic

/-!
# Runs of a state machine

A machine takes one event at a time. What every step keeps, every run keeps.
-/
namespace ConfigAuditor.Library.Runs

variable {σ ε : Type*} (step : σ → ε → σ)

/-- The state after a sequence of events. -/
def run (s : σ) (events : List ε) : σ := events.foldl step s

@[simp] theorem run_nil (s : σ) : run step s [] = s := rfl

@[simp] theorem run_cons (s : σ) (event : ε) (events : List ε) :
    run step s (event :: events) = run step (step s event) events := rfl

theorem run_append (s : σ) (first second : List ε) :
    run step s (first ++ second) = run step (run step s first) second := by
  simp [run]

variable {step}

theorem run_invariant {Inv : σ → Prop} (hstep : ∀ s event, Inv s → Inv (step s event)) {s : σ}
    (hs : Inv s) (events : List ε) : Inv (run step s events) := by
  induction events generalizing s with
  | nil => exact hs
  | cons event rest ih => exact ih (hstep s event hs)

/-- A reflexive and transitive relation between the two ends of each step relates the two
ends of a run. -/
theorem run_relates {Inv : σ → Prop} {Rel : σ → σ → Prop} (hrefl : ∀ s, Rel s s)
    (htrans : ∀ a b c, Rel a b → Rel b c → Rel a c)
    (hstep : ∀ s event, Inv s → Inv (step s event) ∧ Rel s (step s event)) {s : σ} (hs : Inv s)
    (events : List ε) : Rel s (run step s events) := by
  induction events generalizing s with
  | nil => exact hrefl s
  | cons event rest ih =>
    obtain ⟨hinv, hrel⟩ := hstep s event hs
    exact htrans _ _ _ hrel (ih hinv)

section Along

variable (step) in
/-- Every event of a run meets a condition on the state it finds. -/
def Along (P : σ → ε → Prop) (s : σ) : List ε → Prop
  | [] => True
  | event :: events => P s event ∧ Along P (step s event) events

instance Along.decidable {P : σ → ε → Prop} [∀ s event, Decidable (P s event)] (s : σ) :
    (events : List ε) → Decidable (Along step P s events)
  | [] => .isTrue trivial
  | event :: events =>
    have : Decidable (Along step P (step s event) events) := Along.decidable (step s event) events
    inferInstanceAs (Decidable (P s event ∧ Along step P (step s event) events))

theorem along_append {P : σ → ε → Prop} {s : σ} {first rest : List ε} :
    Along step P s (first ++ rest) ↔ Along step P s first ∧ Along step P (run step s first) rest := by
  induction first generalizing s with
  | nil => exact (iff_of_eq (true_and _)).symm
  | cons event first ih =>
    rw [List.cons_append, Along, Along, ih, and_assoc]
    rfl

/-- The condition holds where an event of the run meets its state. -/
theorem along_at {P : σ → ε → Prop} {s : σ} {events : List ε} (h : Along step P s events)
    (first : List ε) (event : ε) (rest : List ε) (hevents : events = first ++ event :: rest) :
    P (run step s first) event := by
  rw [hevents, along_append] at h
  exact h.2.1

theorem run_invariant_along {Inv : σ → Prop} {P : σ → ε → Prop}
    (hstep : ∀ s event, Inv s → P s event → Inv (step s event)) {s : σ} (hs : Inv s)
    {events : List ε} (h : Along step P s events) : Inv (run step s events) := by
  induction events generalizing s with
  | nil => exact hs
  | cons event rest ih => exact ih (hstep s event hs h.1) h.2

end Along

end ConfigAuditor.Library.Runs
