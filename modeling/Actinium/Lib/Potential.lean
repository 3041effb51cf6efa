import Actinium.Lib.Machine

set_option autoImplicit false

namespace Machine

variable {σ α ε : Type}

-- Some steps lower a rank and the others raise it by a bounded amount, so
-- that a run with few of the others has few of the first.
theorem run_potential (m : Machine σ α ε) (lowers : α → Bool) (rank : σ → Nat) (cost : Nat) (inv : List ε → σ → Prop)
    (keep : ∀ log s action next events, inv log s → m.step s action = some (next, events) → inv (log ++ events) next)
    (lower : ∀ log s action next events, inv log s → m.step s action = some (next, events) → lowers action = true →
      rank next < rank s)
    (raise : ∀ log s action next events, inv log s → m.step s action = some (next, events) → lowers action = false →
      rank next ≤ rank s + cost)
    (actions : List α) (log later : List ε) (s next : σ) (start : inv log s) (ran : m.run log s actions = some (later, next)) :
    actions.countP lowers + rank next ≤ rank s + cost * actions.countP (fun action => !lowers action) := by
  induction actions generalizing log s with
  | nil =>
      cases ran
      simp
  | cons action rest ih =>
      simp only [run] at ran
      split at ran
      · cases ran
      · rename_i mid events taken
        have after := ih (log ++ events) mid (keep log s action mid events start taken) ran
        cases own : lowers action with
        | true =>
            have less := lower log s action mid events start taken own
            simp only [List.countP_cons, own, Bool.not_true, Bool.false_eq_true, if_true, if_false, Nat.add_zero]
            omega
        | false =>
            have more := raise log s action mid events start taken own
            simp only [List.countP_cons, own, Bool.not_false, Bool.false_eq_true, if_true, if_false, Nat.add_zero, Nat.mul_add,
              Nat.mul_one]
            omega

end Machine
