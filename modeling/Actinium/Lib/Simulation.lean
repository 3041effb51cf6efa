import Actinium.Lib.Machine

set_option autoImplicit false

namespace Machine

variable {σ α ε τ β δ : Type}

-- One machine is seen as another: a view of its events is a log of the other
-- one, which is led along in a state that corresponds. Every step is answered
-- by a run, of no step or of several.
theorem reach_simulated (m : Machine σ α ε) (rely : Rely σ α ε) (spec : Machine τ β δ) (view : ε → Option δ)
    (corresponds : List ε → σ → τ → Prop)
    (base : ∀ s, m.init s → ∃ t, spec.init t ∧ corresponds [] s t)
    (answer : ∀ log s t action next events, m.Reach rely log s → corresponds log s t → rely log s action →
      m.step s action = some (next, events) →
      ∃ u, spec.Runs free (log.filterMap view) t ((log ++ events).filterMap view) u ∧ corresponds (log ++ events) next u)
    (log : List ε) (s : σ) (reached : m.Reach rely log s) :
    ∃ t, spec.Reach free (log.filterMap view) t ∧ corresponds log s t := by
  induction reached with
  | init s start =>
      obtain ⟨t, fresh, related⟩ := base s start
      exact ⟨t, .init t fresh, related⟩
  | step log s next action events before allowed taken ih =>
      obtain ⟨t, led, related⟩ := ih
      obtain ⟨u, run, still⟩ := answer log s t action next events before related allowed taken
      exact ⟨u, reach_runs spec free _ _ t u led run, still⟩

end Machine
