import ConfigAuditor.Library.Runs

/-!
# Tenants of one machine

A machine that answers the events of several tenants. It keeps a tenant apart when the
tenant's part of the state is all that its events read or write, and nobody else's events write
to it. Then the tenant cannot tell the machine from one that it has to itself.
-/
namespace ConfigAuditor.Library.Tenants

variable {σ ε ρ : Type*} (step : σ → ε → σ × ρ)

/-- The state after an event. -/
def next (s : σ) (event : ε) : σ := (step s event).1

/-- What the machine answers to the events of one tenant. -/
def replies (own : ε → Bool) (s : σ) : List ε → List ρ
  | [] => []
  | event :: events =>
    if own event then (step s event).2 :: replies own (next step s event) events
    else replies own (next step s event) events

/-- A tenant is kept apart, in the states where `Inv` holds and on the events that fit. -/
structure Apart (own : ε → Bool) (part : σ → σ) (Inv : σ → Prop) (Fits : σ → ε → Prop) : Prop where
  keeps : ∀ s event, Inv s → Fits s event → Inv (next step s event)
  answers : ∀ s event, Inv s → Fits s event → own event = true →
    step (part s) event = (part (step s event).1, (step s event).2)
  ignores : ∀ s event, Inv s → Fits s event → own event = false → part (next step s event) = part s

variable {step} {own : ε → Bool} {part : σ → σ} {Inv : σ → Prop} {Fits : σ → ε → Prop}

/-- The tenant's part of a run is a run of its own events alone, with the same answers. -/
theorem Apart.run (h : Apart step own part Inv Fits) {s : σ} (hs : Inv s) {events : List ε}
    (hfits : Runs.Along (next step) Fits s events) :
    part (Runs.run (next step) s events) = Runs.run (next step) (part s) (events.filter own) ∧
      replies step own s events = replies step (fun _ => true) (part s) (events.filter own) := by
  induction events generalizing s with
  | nil => exact ⟨rfl, rfl⟩
  | cons event rest ih =>
    obtain ⟨hfit, hrest⟩ := hfits
    obtain ⟨hstate, hreplies⟩ := ih (h.keeps s event hs hfit) hrest
    cases hown : own event with
    | true =>
      have hstep := h.answers s event hs hfit hown
      have hnext : next step (part s) event = part (next step s event) := congrArg Prod.fst hstep
      have hreply : (step (part s) event).2 = (step s event).2 := by rw [hstep]
      rw [List.filter_cons_of_pos hown, Runs.run_cons, Runs.run_cons, replies, replies, if_pos hown,
        if_pos rfl, hnext, hreply, hstate, hreplies]
      exact ⟨rfl, rfl⟩
    | false =>
      have hpart := h.ignores s event hs hfit hown
      rw [List.filter_cons_of_neg (by simp [hown]), Runs.run_cons, replies, if_neg (by simp [hown]),
        hstate, hreplies, hpart]
      exact ⟨rfl, rfl⟩

end ConfigAuditor.Library.Tenants
